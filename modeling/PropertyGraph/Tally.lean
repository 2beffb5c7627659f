/-!
# Counters of a statement

What a statement changed in the graph, and the sentence that tells it.
-/

namespace PropertyGraph

structure Tally where
  nodesCreated : Nat := 0
  nodesDeleted : Nat := 0
  relsCreated : Nat := 0
  relsDeleted : Nat := 0
  propertiesSet : Nat := 0
  labelsAdded : Nat := 0
  labelsRemoved : Nat := 0
  mergesMatched : Nat := 0
deriving DecidableEq

namespace Tally

def isEmpty (t : Tally) : Bool := decide (t = {})

instance : Add Tally where
  add a b :=
    { nodesCreated := a.nodesCreated + b.nodesCreated
      nodesDeleted := a.nodesDeleted + b.nodesDeleted
      relsCreated := a.relsCreated + b.relsCreated
      relsDeleted := a.relsDeleted + b.relsDeleted
      propertiesSet := a.propertiesSet + b.propertiesSet
      labelsAdded := a.labelsAdded + b.labelsAdded
      labelsRemoved := a.labelsRemoved + b.labelsRemoved
      mergesMatched := a.mergesMatched + b.mergesMatched }

/-- A count with its noun, or nothing for zero. -/
def phrase? (verb : String) (n : Nat) (one many : String) : Option String :=
  if n = 0 then none else some (verb ++ " " ++ toString n ++ " " ++ if n = 1 then one else many)

def phrases (t : Tally) : List String :=
  [phrase? "created" t.nodesCreated "node" "nodes",
    phrase? "created" t.relsCreated "relationship" "relationships",
    phrase? "matched" t.mergesMatched "existing pattern" "existing patterns",
    phrase? "set" t.propertiesSet "property" "properties",
    phrase? "added" t.labelsAdded "label" "labels",
    phrase? "removed" t.labelsRemoved "label" "labels",
    phrase? "deleted" t.nodesDeleted "node" "nodes",
    phrase? "deleted" t.relsDeleted "relationship" "relationships"].filterMap id

/-- One sentence that starts with a capital letter. -/
def summary (t : Tally) : String :=
  match (", ".intercalate t.phrases).toList with
  | [] => "Query executed, no changes made"
  | c :: cs => String.ofList (c.toUpper :: cs)

@[simp] theorem add_empty (t : Tally) : t + {} = t := rfl

end Tally

end PropertyGraph
