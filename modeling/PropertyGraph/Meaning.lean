import PropertyGraph.Error
import PropertyGraph.Matching.Trail

/-!
# Meanings

What an expression means: a value for every row, in the light of a graph, the parameters, and
the group of rows that aggregates fold, if there is one. Queries are run with meanings in the
place of their expressions.
-/

namespace PropertyGraph

/-- What a statement is run with, beside the graph. -/
structure Context where
  parameters : Dict String Value
  /-- The greatest length of a hop that is open above. -/
  maxHops : Nat
  /-- Milliseconds since 1970. -/
  clock : Number

structure Env extends Context where
  store : Store

def Context.on (c : Context) (s : Store) : Env := { c with store := s }

def Env.matcher (env : Env) : Matcher := ⟨env.store, env.maxHops⟩

structure Meaning where
  eval : Env → Option (List Row) → Row → Except Error Value
  /-- Whether it folds the group of rows that its own row stands for. -/
  aggregates : Bool
  /-- The paths of a shortest path pattern, one of them at most unless all are asked for. -/
  paths : Option (Env → Row → Except Error (List Value))

namespace Meaning

/-- The value in a row that stands for itself. -/
def value (m : Meaning) (env : Env) (row : Row) : Except Error Value := m.eval env none row

/-- Whether a condition is true, and not merely unknown. -/
def holds (m : Meaning) (env : Env) (group : Option (List Row)) (row : Row) :
    Except Error Bool := do
  return (← m.eval env group row) = .bool true

/-- The value of what may be left out. -/
def value? (m : Option Meaning) (env : Env) (group : Option (List Row)) (row : Row) :
    Except Error (Option Value) :=
  match m with
  | none => .ok none
  | some m => some <$> m.eval env group row

def part (m : Meaning) (env : Env) : Part := fun row => m.value env row

/-- A pattern with its properties as they are in rows. -/
def parts (p : Cypher.PathPattern Meaning) (env : Env) : Cypher.PathPattern Part :=
  p.map fun m => m.part env

/-- The value of a name; null if it is not bound. -/
def ofName (n : String) : Meaning where
  eval _ _ row := .ok (Dict.getD row n .null)
  aggregates := false
  paths := none

/-- The rows in which a condition holds. -/
def filterRows (m : Option Meaning) (env : Env) (rows : List Row) : Except Error (List Row) :=
  match m with
  | none => .ok rows
  | some m => rows.filterM fun row => m.holds env none row

end Meaning

end PropertyGraph
