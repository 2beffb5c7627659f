import PropertyGraph.Error
import PropertyGraph.Matching.Shortest
import PropertyGraph.Value.Order

/-!
# Matching patterns

Patterns are taken apart into moves: begin at a node, make a hop, search shortest paths, name
the path. A trail is a match of the moves so far. Trails are followed depth first, so that
matches come in the order of the candidates at each move.
-/

namespace PropertyGraph

/-- What stands for the properties in a pattern: what they are in a row. -/
abbrev Part := Row → Except Error Value

/-- A match of some moves. -/
structure Trail where
  row : Row
  /-- The relationships of this match, none of which can be used again. -/
  used : List RelId
  /-- The path of the present pattern. -/
  path : Path

/-- The trail before the first move. -/
def Trail.begin (row : Row) : Trail := ⟨row, [], ⟨[], []⟩⟩

inductive Move
  | start (node : Cypher.NodePattern Part)
  | hop (hop : Cypher.Hop Part)
  | shortest (pattern : Cypher.PathPattern Part)
  | close (name : Option String)

/-- The moves of a pattern. -/
def Move.ofPattern (p : Cypher.PathPattern Part) : List Move :=
  .start p.start ::
    (if p.selector = .all then p.hops.map .hop else [.shortest p]) ++ [.close p.name]

/-- Binds a value to a name, if there is one. -/
def Row.bind (row : Row) (name : Option String) (v : Value) : Row :=
  match name with
  | some n => Dict.insert row n v
  | none => row

/-- What a name is bound to. -/
def Row.bound? (row : Row) (name : Option String) : Option Value := name.bind (Dict.get? row)

/-- What matching depends on beside the row. -/
structure Matcher where
  store : Store
  /-- The greatest length of a hop that is open above. -/
  maxHops : Nat

namespace Matcher

open Cypher

variable (m : Matcher)

/-! ### Tests -/

/-- The properties that an element must have. -/
def required (part : Option Part) (row : Row) : Except Error Properties :=
  match part with
  | none => .ok []
  | some part => do
    match ← part row with
    | .map ps => return ps
    | v => throw (.type (.patternProperties v.typeName))

def hasProperties (actual required : Properties) : Bool :=
  required.all fun e => (Dict.get? actual e.1).any fun v => v.equals e.2 = some true

/-- Whether a node has the labels and properties of a pattern. -/
def nodeFits (p : NodePattern Part) (required : Properties) (id : NodeId) : Bool :=
  (m.store.node? id).any fun n =>
    p.labels.all (· ∈ n.labels) && hasProperties n.properties required

def relFits (p : RelPattern Part) (required : Properties) (r : Relationship) : Bool :=
  (p.types.isEmpty || r.type ∈ p.types) && hasProperties r.properties required

/-- The nodes that a pattern may stand for; at most one if it is bound already. -/
def candidates (p : NodePattern Part) (row : Row) : Except Error (List NodeId) := do
  let required ← required p.properties row
  match row.bound? p.name with
  | some (.node id) => return [id].filter (m.nodeFits p required)
  | some _ => return []
  | none =>
    let ids :=
      match p.labels with
      | l :: _ => m.store.nodesWith l
      | [] => m.store.nodeIds
    return ids.filter (m.nodeFits p required)

/-- Whether a hop may end at a node. -/
def endFits (p : NodePattern Part) (row : Row) (required : Properties) (id : NodeId) : Bool :=
  (row.bound? p.name).all (· = .node id) && m.nodeFits p required id

/-- The least and the greatest length of a hop. -/
def bounds (range : Option HopRange) : Nat × Nat :=
  match range with
  | none => (1, 1)
  | some r => (r.min.getD 1, r.max.getD m.maxHops)

/-! ### Moves -/

def relList (w : Walk) : Value := .list (w.map fun e => .rel e.1)

/-- What the name of a hop is bound to: its relationship, or a list if the length varies. -/
def hopValue (range : Option HopRange) (w : Walk) : Value :=
  match range, w with
  | none, e :: _ => .rel e.1
  | _, w => relList w

/-- The walks that a hop may stand for. -/
def hopWalks (p : RelPattern Part) (required : Properties) (t : Trail) (origin : NodeId) :
    List Walk :=
  let fits := relFits p required
  match p.length with
  | none =>
    let bound := t.row.bound? p.name
    let accepts (r : Relationship) := bound.all (· = .rel r.id) && fits r
    (m.store.steps ⟨p.direction, accepts⟩ t.used origin).map fun e => [e]
  | some _ =>
    let (min, max) := m.bounds p.length
    m.store.walks ⟨p.direction, fits⟩ max min t.used origin

def hopMove (h : Hop Part) (t : Trail) : Except Error (List Trail) := do
  let relProps ← required h.rel.properties t.row
  let nodeProps ← required h.node.properties t.row
  match t.path.last? with
  | none => return []
  | some origin =>
    return (m.hopWalks h.rel relProps t origin).filterMap fun w =>
      let stop := (w.getLast?.map Prod.snd).getD origin
      if m.endFits h.node t.row nodeProps stop then
        some
          { row := (t.row.bind h.rel.name (hopValue h.rel.length w)).bind h.node.name (.node stop)
            used := t.used ++ w.map Prod.fst
            path := t.path.extend w }
      else none

def shortestMove (all : Bool) (h : Hop Part) (t : Trail) : Except Error (List Trail) := do
  let relProps ← required h.rel.properties t.row
  let accepts (r : Relationship) := relFits h.rel relProps r && r.id ∉ t.used
  let (min, max) := m.bounds h.rel.length
  match t.path.last? with
  | none => return []
  | some origin =>
    return (← m.candidates h.node t.row).flatMap fun stop =>
      (Search.find ⟨m.store, ⟨h.rel.direction, accepts⟩, min, max, stop⟩ all origin).map fun p =>
        { row := (t.row.bind h.rel.name (.list (p.rels.map .rel))).bind h.node.name (.node stop)
          used := t.used ++ p.rels
          path := p }

/-- The trails that come of a trail by one more move. -/
def move (t : Trail) : Move → Except Error (List Trail)
  | .start p => do
    return (← m.candidates p t.row).map fun id =>
      { t with row := t.row.bind p.name (.node id), path := .single id }
  | .hop h => m.hopMove h t
  | .shortest p =>
    match p.hops with
    | [h] => m.shortestMove (p.selector = .allShortest) h t
    | _ => .ok []
  | .close name => .ok [{ t with row := t.row.bind name (.path t.path) }]

/-! ### Following trails -/

/-- All trails that come of a trail by some moves. -/
def follow : List Move → Trail → Except Error (List Trail)
  | [], t => .ok [t]
  | v :: vs, t => do return (← (← m.move t v).mapM (follow vs)).flatten

/-- Whether any trail comes of a trail by some moves. Nothing is done after the first. -/
def reaches : List Move → Trail → Except Error Bool
  | [], _ => .ok true
  | v :: vs, t => do (← m.move t v).anyM (reaches vs)

/-- The rows that extend a row so that all patterns hold. -/
def rows (ps : List (PathPattern Part)) (row : Row) : Except Error (List Row) := do
  return (← m.follow (ps.flatMap Move.ofPattern) (Trail.begin row)).map Trail.row

/-- Whether a pattern has a match. -/
def hasMatch (p : PathPattern Part) (row : Row) : Except Error Bool :=
  m.reaches (Move.ofPattern p) (Trail.begin row)

/-- The path of each match of a pattern. -/
def paths (p : PathPattern Part) (row : Row) : Except Error (List Path) := do
  return (← m.follow (Move.ofPattern p) (Trail.begin row)).map Trail.path

end Matcher

end PropertyGraph
