import PropertyGraph.Matching.Walk

/-!
# Shortest paths

Paths that visit no node twice, searched level by level. The first level with a path to the end
holds the answer.
-/

namespace PropertyGraph

/-- A search for paths between two nodes. -/
structure Search where
  store : Store
  via : Passage
  /-- The least and the greatest number of relationships. -/
  min : Nat
  max : Nat
  target : NodeId

namespace Search

variable (s : Search)

/-- Whether a node that was met before can be left out: the beginnings of a shortest path are
shortest paths, unless a path must be longer than it could be. -/
def prunes : Bool := s.min ≤ 1

/-- The paths with one more step, to nodes that are neither on the path nor in `seen`. -/
def grow (seen : List NodeId) (p : Path) : List Path :=
  match p.last? with
  | none => []
  | some n =>
    ((s.store.steps s.via [] n).filter fun e => e.2 ∉ p.nodes && !(s.prunes && e.2 ∈ seen)).map
      fun e => p.extend [e]

/-- Whether a path has arrived. -/
def arrived (p : Path) : Bool := p.last? = some s.target

/-- Adds the ends of some paths to the nodes that were met, each once. -/
def meet (seen : List NodeId) (ps : List Path) : List NodeId :=
  (ps.filterMap Path.last?).foldl (fun seen n => seen.insert n) seen

/-- Searches from the paths of length `depth` on; `seen` holds the nodes met by then. -/
def levels : Nat → Nat → List NodeId → List Path → List Path
  | 0, _, _, _ => []
  | fuel + 1, depth, seen, frontier =>
    let grown := frontier.flatMap (s.grow seen)
    let found := grown.filter s.arrived
    let others := grown.filter fun p => !s.arrived p
    if !found.isEmpty && s.min ≤ depth + 1 then found
    else if others.isEmpty then []
    else levels fuel (depth + 1) (meet seen grown) others

/-- The first path that `levels` finds; nothing is done after it. -/
def first? : Nat → Nat → List NodeId → List Path → Option Path
  | 0, _, _, _ => none
  | fuel + 1, depth, seen, frontier =>
    let arrival :=
      if s.min ≤ depth + 1 then frontier.findSome? fun p => (s.grow seen p).find? s.arrived
      else none
    match arrival with
    | some p => some p
    | none =>
      let grown := frontier.flatMap (s.grow seen)
      let others := grown.filter fun p => !s.arrived p
      if others.isEmpty then none else first? fuel (depth + 1) (meet seen grown) others

/-- The shortest paths from a node to the target in the order in which they are found, or the
first of them. -/
def find (all : Bool) (start : NodeId) : List Path :=
  if s.min = 0 && start = s.target then [Path.single start]
  else if all then s.levels s.max 0 [start] [Path.single start]
  else (s.first? s.max 0 [start] [Path.single start]).toList

end Search

end PropertyGraph
