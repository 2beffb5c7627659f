import PropertyGraph.Cypher.Expr
import PropertyGraph.Error
import PropertyGraph.Value.Order

/-!
# Groups and aggregates

Groups come in the order in which their keys are first seen. Null is a key like any other.
-/

namespace PropertyGraph

structure Group where
  key : List Value
  rows : List Row

namespace Group

/-- Adds a row to the group of its key, at the end if there is no such group. -/
def addTo (key : List Value) (row : Row) : List Group → List Group
  | [] => [⟨key, [row]⟩]
  | g :: gs => if g.key = key then ⟨key, row :: g.rows⟩ :: gs else g :: addTo key row gs

/-- The groups of rows with the same keys. Without any key there is one group, even of no
rows. -/
def ofRows (keys : List (Row → Except Error Value)) (rows : List Row) :
    Except Error (List Group) := do
  if keys.isEmpty then return [⟨[], rows⟩]
  else
    let groups ← rows.foldlM (fun gs row => do
      let values ← keys.mapM fun k => k row
      return addTo (values.map Value.key) row gs) []
    return groups.map fun g => { g with rows := g.rows.reverse }

end Group

namespace Cypher.Aggregate

/-- The number that an aggregate takes a value for. -/
def number (a : Aggregate) : Value → Except Error Number
  | .num n => .ok n
  | v => .error (.type (.expects (a.name ++ "()") "numeric values" v.typeName))

def total (a : Aggregate) (vs : List Value) : Except Error Number :=
  vs.foldlM (fun n v => do return n.add (← a.number v)) .zero

/-- The first of the values that `better` prefers to no other. -/
def best (better : Value → Value → Bool) : List Value → Value
  | [] => .null
  | v :: vs => vs.foldl (fun a b => if better b a then b else a) v

/-- Folds the values of a group. All but `collect` leave nulls out. -/
def apply (a : Aggregate) (distinct : Bool) (values : List Value) : Except Error Value := do
  let values := if distinct then Value.distinctBy Value.key values else values
  let known := values.filter fun v => !v.isNull
  match a with
  | collect => return .list values
  | count => return .count known.length
  | sum => return .num (← a.total known)
  | avg =>
    let t ← a.total known
    return if known.isEmpty then .null else .num (t.div (.ofNat known.length))
  | min => return best (fun x y => x.sortCompare y == .lt) known
  | max => return best (fun x y => x.sortCompare y == .gt) known

end Cypher.Aggregate

end PropertyGraph
