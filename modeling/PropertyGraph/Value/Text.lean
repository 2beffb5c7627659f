import PropertyGraph.Value
import PropertyGraph.Number.Text

/-!
# Text of values

How a value is shown in messages and in the cells of a result.
-/

namespace PropertyGraph

namespace Value

mutual

/-- Strings stand in quotes that are not escaped; entities show their id only. -/
def text : Value → String
  | null => "null"
  | bool b => if b then "true" else "false"
  | num n => n.text
  | str s => "'" ++ s ++ "'"
  | list items => "[" ++ ", ".intercalate (itemTexts items) ++ "]"
  | map entries => "\x7b" ++ ", ".intercalate (entryTexts entries) ++ "\x7d"
  | node id => "Node(" ++ toString id ++ ")"
  | rel id => "Relationship(" ++ toString id ++ ")"
  | path p => "Path(length " ++ toString p.length ++ ")"

def itemTexts : List Value → List String
  | [] => []
  | x :: xs => x.text :: itemTexts xs

def entryTexts : List (String × Value) → List String
  | [] => []
  | (k, x) :: xs => (k ++ ": " ++ x.text) :: entryTexts xs

end

end Value

end PropertyGraph
