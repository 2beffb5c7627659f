import PropertyGraph.Json
import PropertyGraph.Store

/-!
# Rendering

How values are written as JSON. A reference to an entity is written as what the graph holds
under it; an entity that is gone keeps its id only.
-/

namespace PropertyGraph

/-- A number as an integer, if it is one below nine quadrillions. -/
def Number.json (n : Number) : Json :=
  if n.isWholeBelow 9000000000000000 then .int n.truncated
  else if n.isFinite then .num n
  else .null

/-- How references to entities are written. -/
structure EntityForm where
  node : NodeId → Json
  rel : RelId → Json

namespace Value

mutual

def json (f : EntityForm) : Value → Json
  | null => .null
  | bool b => .bool b
  | num n => n.json
  | str s => .str s
  | list items => .arr (itemsJson f items)
  | map entries => .obj (entriesJson f entries)
  | node id => f.node id
  | rel id => f.rel id
  | path p => .obj [("_type", .str "path"), ("nodes", .arr (p.nodes.map f.node)),
      ("relationships", .arr (p.rels.map f.rel))]

def itemsJson (f : EntityForm) : List Value → List Json
  | [] => []
  | x :: xs => json f x :: itemsJson f xs

def entriesJson (f : EntityForm) : List (String × Value) → List (String × Json)
  | [] => []
  | (k, x) :: xs => (k, json f x) :: entriesJson f xs

end

end Value

namespace EntityForm

def nodeForm (id : NodeId) (labels : List String) (properties : List (String × Json)) : Json :=
  .obj [("_type", .str "node"), ("id", .ofNat id), ("labels", .strings labels),
    ("properties", .obj properties)]

/-- A relationship; `ends` holds its type, source and target. -/
def relForm (id : RelId) (ends properties : List (String × Json)) : Json :=
  .obj ([("_type", .str "relationship"), ("id", .ofNat id)] ++ ends ++
    [("properties", .obj properties)])

/-- Entities that are gone. -/
def bare : EntityForm := ⟨fun id => nodeForm id [] [], fun id => relForm id [] []⟩

/-- The entities of a graph. References inside of properties are followed so many times. -/
def ofStore (s : Store) : Nat → EntityForm
  | 0 => bare
  | depth + 1 =>
    let inner := ofStore s depth
    { node := fun id =>
        match s.node? id with
        | some n => nodeForm id n.labels (Value.entriesJson inner n.properties)
        | none => bare.node id
      rel := fun id =>
        match s.rel? id with
        | some r => relForm id [("type", .str r.type), ("start", .ofNat r.source),
            ("end", .ofNat r.target)] (Value.entriesJson inner r.properties)
        | none => bare.rel id }

end EntityForm

namespace Store

/-- How a graph's entities are written; no chain of references is longer than their number. -/
def entityForm (s : Store) : EntityForm := .ofStore s (s.nodes.length + s.rels.length + 1)

/-- A row as an object of its columns. -/
def rowJson (s : Store) (columns : List String) (values : List Value) : Json :=
  .obj (Dict.ofList (columns.zip (values.map (Value.json s.entityForm))))

end Store

end PropertyGraph
