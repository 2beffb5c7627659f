import PropertyGraph.Query.Edit

/-!
# Creating patterns

What CREATE does for a pattern, and MERGE for one without a match: the elements that are not
bound yet are created from left to right.
-/

namespace PropertyGraph

namespace Query

open Cypher

variable (c : Context)

/-- The properties of a new element; none if null stands for them. -/
def newProperties (part : Option Meaning) (row : Row) : Edit Properties := do
  match ← Edit.reading c fun env => Meaning.value? part env none row with
  | none | some .null => return []
  | some (.map ps) => return ps
  | some v => throw (.type (.newProperties v.typeName))

/-- How many properties there are that are not null. -/
def countKnown (ps : Properties) : Nat := (ps.filter fun p => !p.2.isNull).length

/-- The node of a pattern, in a row that binds it. -/
def createNode (p : NodePattern Meaning) (row : Row) : Edit (NodeId × Row) := do
  match row.bound? p.name with
  | some (.node id) =>
    if p.labels.isEmpty && p.properties.isNone then return (id, row)
    else throw (.meaning (.nodeDeclared (p.name.getD "")))
  | some v => throw (.type (.notNode (p.name.getD "") v.typeName))
  | none =>
    let ps ← newProperties c p.properties row
    let id ← Edit.store (Store.createNode p.labels ps)
    Edit.count
      { nodesCreated := 1, propertiesSet := countKnown ps, labelsAdded := p.labels.length }
    return (id, row.bind p.name (.node id))

/-- The start and the end of a new relationship. -/
def createEnds (d : Direction) (near far : NodeId) : Edit (NodeId × NodeId) :=
  match d with
  | .outgoing => return (near, far)
  | .incoming => return (far, near)
  | .undirected => throw (.meaning .createDirection)

/-- The type of a new relationship. -/
def createType (p : RelPattern Meaning) : Edit String :=
  match p.length, p.types with
  | some _, _ => throw (.meaning .createLength)
  | none, [t] => return t
  | none, _ => throw (.meaning .createType)

/-- The relationship of a hop and the node after it. -/
def createHop (h : Hop Meaning) (near : NodeId) (row : Row) :
    Edit ((RelId × NodeId) × Row) := do
  let type ← createType h.rel
  match h.rel.name, row.bound? h.rel.name with
  | some n, some _ => throw (.meaning (.relDeclared n))
  | _, _ =>
    let (far, row) ← createNode c h.node row
    let (source, target) ← createEnds h.rel.direction near far
    let ps ← newProperties c h.rel.properties row
    let id ← Edit.store (Store.createRel type source target ps)
    Edit.count { relsCreated := 1, propertiesSet := countKnown ps }
    return ((id, far), row.bind h.rel.name (.rel id))

/-- The steps of some hops. -/
def createHops : List (Hop Meaning) → NodeId → Row → Edit (Walk × Row)
  | [], _, row => return ([], row)
  | h :: hs, near, row => do
    let (step, row) ← createHop c h near row
    let (walk, row) ← createHops hs step.2 row
    return (step :: walk, row)

/-- Creates what a pattern needs in a row, and binds all its names. -/
def createPath (p : PathPattern Meaning) (row : Row) : Edit Row := do
  let (start, row) ← createNode c p.start row
  let (walk, row) ← createHops c p.hops start row
  return row.bind p.name (.path ((Path.single start).extend walk))

/-- Creates some patterns in a row, one after the other. -/
def createPaths (ps : List (PathPattern Meaning)) (row : Row) : Edit Row :=
  ps.foldlM (fun row p => createPath c p row) row

end Query

end PropertyGraph
