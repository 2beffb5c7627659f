import PropertyGraph.Engine
import PropertyGraph.Render

/-!
# Snapshots

All that a graph holds, as a document.
-/

namespace PropertyGraph

/-- The label and the property that a rule is on. -/
def Rule.targetText (r : Rule) : String := r.label ++ "." ++ r.property

/-- The entities in the order of their ids, and the rules in the order of their declaration. -/
def Store.snapshot (s : Store) : Json :=
  .obj [("nodes", .arr (s.nodes.keys.map s.entityForm.node)),
    ("relationships", .arr (s.rels.keys.map s.entityForm.rel)),
    ("constraints", .strings (s.constraints.map Rule.targetText)),
    ("indexes", .strings (s.indexes.map Rule.targetText))]

/-- The snapshot of the current database. -/
def Engine.snapshot (e : Engine) : Except Error Json := Store.snapshot <$> e.server.store

end PropertyGraph
