import PropertyGraph.Cypher.Pattern
import PropertyGraph.Store

/-!
# Steps and walks

A step goes along a relationship at a node to its other end. A walk is a list of steps from some
node. No relationship occurs in it twice.
-/

namespace PropertyGraph

/-- The relationships that a step from a node can go along, each with the node that it leads
to. A loop is one step, in any direction. -/
def Store.incident (s : Store) (n : NodeId) (d : Cypher.Direction) : List (Relationship × NodeId) :=
  let out := ((s.relsFrom n).filterMap s.rel?).map fun r => (r, r.target)
  let into := ((s.relsTo n).filterMap s.rel?).map fun r => (r, r.source)
  match d with
  | .outgoing => out
  | .incoming => into
  | .undirected => out ++ into.filter fun e => e.1.source ≠ e.1.target

/-- The relationships of a walk, each with the node after it. -/
abbrev Walk := List (RelId × NodeId)

namespace Path

def last? (p : Path) : Option NodeId := p.nodes.getLast?

/-- The path that goes on with a walk. -/
def extend (p : Path) (w : Walk) : Path :=
  ⟨p.nodes ++ w.map Prod.snd, p.rels ++ w.map Prod.fst⟩

@[simp] theorem extend_nil (p : Path) : p.extend [] = p := by simp [extend]

end Path

/-- Which relationships a hop may go along. -/
structure Passage where
  direction : Cypher.Direction
  accepts : Relationship → Bool

namespace Store

/-- The steps from a node along relationships that are accepted and not used before. -/
def steps (s : Store) (via : Passage) (used : List RelId) (n : NodeId) :
    List (RelId × NodeId) :=
  ((s.incident n via.direction).filter fun e => e.1.id ∉ used && via.accepts e.1).map
    fun e => (e.1.id, e.2)

/-- The walks of at least `min` and at most `max` steps from a node. A walk comes before those
that go on from it. -/
def walks (s : Store) (via : Passage) : Nat → Nat → List RelId → NodeId → List Walk
  | 0, min, _, _ => if min = 0 then [[]] else []
  | max + 1, min, used, n =>
    (if min = 0 then [[]] else []) ++
      (s.steps via used n).flatMap fun e =>
        (walks s via max (min - 1) (e.1 :: used) e.2).map (e :: ·)

end Store

end PropertyGraph
