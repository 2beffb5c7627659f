import PropertyGraph.Value.Text

/-!
# Graph stores

A store holds nodes and relationships under their ids, and beside them the relationships at
each node, the nodes of each label, the declared rules, and the journal of changes that have
not been committed.
-/

namespace PropertyGraph

structure Node where
  id : NodeId
  /-- The labels in the order in which they were given. -/
  labels : List String
  properties : Properties
deriving DecidableEq

structure Relationship where
  id : RelId
  type : String
  source : NodeId
  target : NodeId
  properties : Properties
deriving DecidableEq

/-- The end of a relationship that is not the given node. -/
def Relationship.otherEnd (r : Relationship) (n : NodeId) : NodeId :=
  if r.source = n then r.target else r.source

/-- A uniqueness constraint or an index: a name, and the property of a label that it is on. -/
structure Rule where
  name : String
  label : String
  property : String
deriving DecidableEq

inductive RuleKind
  | constraint
  | index
deriving DecidableEq

def RuleKind.name : RuleKind → String
  | constraint => "constraint"
  | index => "index"

/-- A change to a store, with what it takes to undo it. -/
inductive Change
  | createNode (id : NodeId)
  | createRel (id : RelId)
  | deleteNode (node : Node)
  | deleteRel (rel : Relationship)
  | setNodeProperty (id : NodeId) (key : String) (old : Option Value)
  | setRelProperty (id : RelId) (key : String) (old : Option Value)
  | addLabel (id : NodeId) (label : String)
  | removeLabel (id : NodeId) (label : String) (position : Nat)
  | createRule (kind : RuleKind) (name : String)
  | dropRule (kind : RuleKind) (rule : Rule) (position : Nat)
deriving DecidableEq

structure Store where
  nodes : Dict NodeId Node := []
  rels : Dict RelId Relationship := []
  /-- The relationships from each node, in ascending order. -/
  outgoing : Dict NodeId (List RelId) := []
  /-- The relationships to each node, in ascending order. -/
  incoming : Dict NodeId (List RelId) := []
  /-- The nodes of each label, in ascending order. -/
  labelled : Dict String (List NodeId) := []
  constraints : List Rule := []
  indexes : List Rule := []
  nextNode : NodeId := 0
  nextRel : RelId := 0
  /-- The changes since the last commit, the newest first. -/
  journal : List Change := []
deriving DecidableEq

inductive StoreError
  | nodeNotFound (id : NodeId)
  | relNotFound (id : RelId)
  | notUnique (label property : String) (value : Value) (existing : NodeId)
  | hasRelationships (node : NodeId) (count : Nat)
  | ruleExists (kind : RuleKind) (name : String)
  | noSuchRule (kind : RuleKind) (name : String)
deriving DecidableEq

namespace StoreError

def message : StoreError → String
  | nodeNotFound id => "Node(" ++ toString id ++ ") not found"
  | relNotFound id => "Relationship(" ++ toString id ++ ") not found"
  | notUnique label property value existing =>
    "Node(" ++ toString existing ++ ") already exists with label `" ++ label ++
      "` and property `" ++ property ++ "` = " ++ value.text
  | hasRelationships node count =>
    "Cannot delete node<" ++ toString node ++ ">, because it still has " ++ toString count ++
      " relationship(s). To delete this node, you must first delete its relationships, or " ++
      "use DETACH DELETE."
  | ruleExists kind name => "An equivalent " ++ kind.name ++ " already exists: '" ++ name ++ "'"
  | noSuchRule kind name => "No such " ++ kind.name ++ ": '" ++ name ++ "'"

end StoreError

/-- Puts an id into an ascending list, once. -/
def insertAscending (x : Nat) : List Nat → List Nat
  | [] => [x]
  | y :: ys => if x < y then x :: y :: ys else if x = y then y :: ys else y :: insertAscending x ys

/-- The strings of a list in ascending order, each once. -/
def sortedDistinct (ss : List String) : List String :=
  Dict.keys (ss.foldl (fun d s => Dict.insert d s ()) [])

namespace Store

def node? (s : Store) (id : NodeId) : Option Node := s.nodes.get? id

def rel? (s : Store) (id : RelId) : Option Relationship := s.rels.get? id

def nodeIds (s : Store) : List NodeId := s.nodes.keys

def relsFrom (s : Store) (id : NodeId) : List RelId := s.outgoing.getList id

def relsTo (s : Store) (id : NodeId) : List RelId := s.incoming.getList id

def nodesWith (s : Store) (label : String) : List NodeId := s.labelled.getList label

/-- The properties of a node, none if there is no such node. -/
def nodeProperties (s : Store) (id : NodeId) : Properties :=
  (s.node? id).elim [] Node.properties

def relProperties (s : Store) (id : RelId) : Properties :=
  (s.rel? id).elim [] Relationship.properties

/-- How many relationships touch a node; a loop counts once. -/
def degree (s : Store) (id : NodeId) : Nat :=
  let loops := (s.relsFrom id).filter fun r => (s.rel? r).any (·.target = id)
  (s.relsFrom id).length + (s.relsTo id).length - loops.length

/-- The relationships that touch a node, each once. -/
def relsAt (s : Store) (id : NodeId) : List RelId :=
  let out := s.relsFrom id
  out ++ (s.relsTo id).filter (· ∉ out)

def rules (s : Store) : RuleKind → List Rule
  | .constraint => s.constraints
  | .index => s.indexes

def withRules (s : Store) (kind : RuleKind) (rules : List Rule) : Store :=
  match kind with
  | .constraint => { s with constraints := rules }
  | .index => { s with indexes := rules }

/-- The labels that some node has, sorted. -/
def labelsInUse (s : Store) : List String := s.labelled.keys

/-- The types of the relationships, sorted. -/
def relTypes (s : Store) : List String := sortedDistinct (s.rels.values.map Relationship.type)

/-- The property keys of nodes and relationships, sorted. -/
def propertyKeys (s : Store) : List String :=
  sortedDistinct <|
    s.nodes.values.flatMap (fun n => Dict.keys n.properties) ++
      s.rels.values.flatMap fun r => Dict.keys r.properties

end Store

end PropertyGraph
