import PropertyGraph.Function.Graph
import PropertyGraph.Function.Numeric
import PropertyGraph.Function.Sequence
import PropertyGraph.Function.Textual

/-!
# The library of functions

Names are looked up in any case of letters. Aggregates are not among these functions.
-/

namespace PropertyGraph

namespace Function

/-- The functions under their names in lower case, in ascending order. -/
def library : Dict String Function :=
  Dict.ofList ((graphFunctions ++ sequenceFunctions ++ numericFunctions ++ textFunctions).map
    fun f => (Text.asciiLower f.name, f))

def ofName? (name : String) : Option Function := library.get? (Text.asciiLower name)

/-- Whether a function takes a number of arguments. -/
def takes (f : Function) (count : Nat) : Bool :=
  f.least ≤ count && f.most.all (count ≤ ·)

end Function

/-- Calls the function of a name. -/
def Call.answer (c : Call) : Answer :=
  match Function.ofName? c.name with
  | none => .error (.unknown c.name)
  | some f =>
    if f.takes c.args.length then f.body c
    else .error (.argumentCount f.name f.least f.most c.args.length)

end PropertyGraph
