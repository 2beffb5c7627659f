/-!
# Path patterns

A pattern is generic in what stands for its property maps: expressions when it is parsed,
their meanings when it is matched.
-/

namespace PropertyGraph

namespace Cypher

/-- Which paths between its ends a pattern stands for. -/
inductive Selector
  | all
  | shortest
  | allShortest
deriving DecidableEq

inductive Direction
  | outgoing
  | incoming
  | undirected
deriving DecidableEq

/-- Bounds of a variable-length hop; a missing bound is open. -/
structure HopRange where
  min : Option Nat
  max : Option Nat
deriving DecidableEq

structure NodePattern (ε : Type) where
  name : Option String
  labels : List String
  properties : Option ε

structure RelPattern (ε : Type) where
  name : Option String
  /-- The types allowed; any type if there is none. -/
  types : List String
  direction : Direction
  properties : Option ε
  length : Option HopRange

structure Hop (ε : Type) where
  rel : RelPattern ε
  node : NodePattern ε

structure PathPattern (ε : Type) where
  name : Option String
  selector : Selector
  start : NodePattern ε
  hops : List (Hop ε)

variable {ε δ : Type}

def NodePattern.map (f : ε → δ) (n : NodePattern ε) : NodePattern δ :=
  ⟨n.name, n.labels, n.properties.map f⟩

def RelPattern.map (f : ε → δ) (r : RelPattern ε) : RelPattern δ :=
  ⟨r.name, r.types, r.direction, r.properties.map f, r.length⟩

def Hop.map (f : ε → δ) (h : Hop ε) : Hop δ := ⟨h.rel.map f, h.node.map f⟩

namespace PathPattern

def map (f : ε → δ) (p : PathPattern ε) : PathPattern δ :=
  ⟨p.name, p.selector, p.start.map f, p.hops.map (·.map f)⟩

/-- The names a pattern binds, in the order in which it gives them. -/
def names (p : PathPattern ε) : List String :=
  p.name.toList ++ p.start.name.toList ++
    p.hops.flatMap fun h => h.rel.name.toList ++ h.node.name.toList

/-- The property parts: those of the nodes, then those of the relationships. -/
def properties (p : PathPattern ε) : List ε :=
  p.start.properties.toList ++ p.hops.flatMap (fun h => h.node.properties.toList) ++
    p.hops.flatMap fun h => h.rel.properties.toList

@[simp] theorem names_map (f : ε → δ) (p : PathPattern ε) : (p.map f).names = p.names := by
  simp [names, map, Hop.map, NodePattern.map, RelPattern.map, List.flatMap_map]

end PathPattern

end Cypher

end PropertyGraph
