import PropertyGraph.Value
import PropertyGraph.Number.Text

/-!
# JSON documents

The form in which results leave the library and parameters enter it.
-/

namespace PropertyGraph

/-- A JSON document. Integers and other numbers are told apart, as their texts are. -/
inductive Json
  | null
  | bool (b : Bool)
  | int (i : Int)
  | num (n : Number)
  | str (s : String)
  | arr (items : List Json)
  | obj (members : List (String × Json))

namespace Json

instance : Inhabited Json := ⟨null⟩

def ofNat (n : Nat) : Json := .int n

def strings (ss : List String) : Json := .arr (ss.map str)

/-! ### Text -/

def hexDigit (n : Nat) : Char := Char.ofNat (if n < 10 then 0x30 + n else 0x57 + n)

/-- A character inside a string: quotes, backslashes and control characters are escaped. -/
def escape (c : Char) : List Char :=
  match c with
  | '"' => ['\\', '"']
  | '\\' => ['\\', '\\']
  | '\n' => ['\\', 'n']
  | '\r' => ['\\', 'r']
  | '\t' => ['\\', 't']
  | '\x08' => ['\\', 'b']
  | '\x0c' => ['\\', 'f']
  | c =>
    if c.toNat < 0x20 then ['\\', 'u', '0', '0', hexDigit (c.toNat / 16), hexDigit (c.toNat % 16)]
    else [c]

def quote (s : String) : String := String.ofList ('"' :: s.toList.flatMap escape ++ ['"'])

mutual

/-- The text of a document, without blanks. -/
def text : Json → String
  | null => "null"
  | bool b => if b then "true" else "false"
  | int i => Number.intText i
  | num n => n.jsonText
  | str s => quote s
  | arr items => "[" ++ ",".intercalate (itemTexts items) ++ "]"
  | obj members => "\x7b" ++ ",".intercalate (memberTexts members) ++ "\x7d"

def itemTexts : List Json → List String
  | [] => []
  | x :: xs => x.text :: itemTexts xs

def memberTexts : List (String × Json) → List String
  | [] => []
  | (k, x) :: xs => (quote k ++ ":" ++ x.text) :: memberTexts xs

end

end Json

namespace Value

mutual

/-- The value of a document that is given as a parameter. -/
def ofJson : Json → Value
  | .null => null
  | .bool b => bool b
  | .int i => num (.ofInt i)
  | .num n => num n
  | .str s => str s
  | .arr items => list (ofJsonItems items)
  | .obj members => map (ofJsonMembers members)

def ofJsonItems : List Json → List Value
  | [] => []
  | x :: xs => ofJson x :: ofJsonItems xs

def ofJsonMembers : List (String × Json) → List (String × Value)
  | [] => []
  | (k, x) :: xs => Dict.insert (ofJsonMembers xs) k (ofJson x)

end

end Value

end PropertyGraph
