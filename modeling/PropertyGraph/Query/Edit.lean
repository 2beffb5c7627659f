import PropertyGraph.Meaning
import PropertyGraph.Store.Update
import PropertyGraph.Tally

/-!
# Edits

A step of a writing query: it changes a draft, the graph with the counters of the statement, and
may fail. A failure keeps the draft as it is then, for whoever undoes it.
-/

namespace PropertyGraph

structure Draft where
  store : Store
  tally : Tally

abbrev Edit := ExceptT Error (StateM Draft)

namespace Edit

/-- Something that is read from the graph as it is by now. -/
def reading {α : Type} (c : Context) (f : Env → Except Error α) : Edit α := do
  liftExcept (f (c.on (← get).store))
where
  liftExcept : Except Error α → Edit α
    | .ok a => pure a
    | .error e => throw e

/-- An operation on the graph. -/
def store {α : Type} (op : Store.Operation α) : Edit α := do
  let d ← get
  let (r, s) := op d.store
  set { d with store := s }
  match r with
  | .ok a => return a
  | .error e => throw (.store e)

/-- Adds to the counters. -/
def count (t : Tally) : Edit Unit := modify fun d => { d with tally := d.tally + t }

/-- Refuses. -/
def reject {α : Type} (e : Error) : Edit α := throw e

end Edit

end PropertyGraph
