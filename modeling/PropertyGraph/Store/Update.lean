import PropertyGraph.Store.Undo
import PropertyGraph.Value.Order

/-!
# Changing a store

Each operation checks first, then changes the store and records the change. One that is
refused, or finds nothing to do, hands the store back.
-/

namespace PropertyGraph

namespace Store

/-- An operation on a store that may be refused. -/
abbrev Operation (α : Type) := Store → Except StoreError α × Store

/-! ### Uniqueness -/

def isConstrained (s : Store) (label property : String) : Bool :=
  s.constraints.any fun c => c.label = label && c.property = property

/-- A node other than `except` that has a label and, under a property of it that must be
unique, the same value. -/
def clash? (s : Store) (label property : String) (value : Value) (except : Option NodeId) :
    Option NodeId :=
  if s.isConstrained label property then
    (s.nodesWith label).find? fun id =>
      some id ≠ except && (Dict.get? (s.nodeProperties id) property).any (·.same value)
  else none

/-- The first violation that a node with these labels and properties would be. -/
def violation? (s : Store) (labels : List String) (properties : Properties)
    (except : Option NodeId) : Option StoreError :=
  labels.findSome? fun l => properties.findSome? fun p =>
    (s.clash? l p.1 p.2 except).map (.notUnique l p.1 p.2)

/-- The map of the entries that are not null. -/
def withoutNulls (properties : Properties) : Properties :=
  Dict.ofList (properties.filter fun p => !p.2.isNull)

/-! ### Creating -/

/-- Creates a node; repeated labels count once, null properties not at all. -/
def createNode (labels : List String) (properties : Properties) : Operation NodeId := fun s =>
  let labels := labels.eraseDups
  let properties := withoutNulls properties
  match s.violation? labels properties none with
  | some e => (.error e, s)
  | none =>
    let id := s.nextNode
    (.ok id, ({ s with nextNode := id + 1 }.linkNode ⟨id, labels, properties⟩).record
      (.createNode id))

/-- Creates a relationship between two existing nodes. -/
def createRel (type : String) (source target : NodeId) (properties : Properties) :
    Operation RelId := fun s =>
  if (s.node? source).isNone then (.error (.nodeNotFound source), s)
  else if (s.node? target).isNone then (.error (.nodeNotFound target), s)
  else
    let id := s.nextRel
    let r : Relationship := ⟨id, type, source, target, withoutNulls properties⟩
    (.ok id, ({ s with nextRel := id + 1 }.linkRel r).record (.createRel id))

/-! ### Properties -/

/-- Removes a property of a node; tells whether it was there. -/
def removeNodeProperty (id : NodeId) (key : String) : Operation Bool := fun s =>
  match s.node? id with
  | none => (.error (.nodeNotFound id), s)
  | some n =>
    match Dict.get? n.properties key with
    | none => (.ok false, s)
    | some old =>
      (.ok true, (s.mapNode id fun n => { n with properties := Dict.erase n.properties key }).record
        (.setNodeProperty id key (some old)))

/-- Sets a property of a node; null removes it. -/
def setNodeProperty (id : NodeId) (key : String) (value : Value) : Operation Unit := fun s =>
  if value.isNull then
    let (r, s) := removeNodeProperty id key s
    (r.map fun _ => (), s)
  else
    match s.node? id with
    | none => (.error (.nodeNotFound id), s)
    | some n =>
      match s.violation? n.labels [(key, value)] (some id) with
      | some e => (.error e, s)
      | none =>
        (.ok (), (s.mapNode id fun n =>
          { n with properties := Dict.insert n.properties key value }).record
            (.setNodeProperty id key (Dict.get? n.properties key)))

/-- Removes a property of a relationship; tells whether it was there. -/
def removeRelProperty (id : RelId) (key : String) : Operation Bool := fun s =>
  match s.rel? id with
  | none => (.error (.relNotFound id), s)
  | some r =>
    match Dict.get? r.properties key with
    | none => (.ok false, s)
    | some old =>
      (.ok true, (s.mapRel id fun r => { r with properties := Dict.erase r.properties key }).record
        (.setRelProperty id key (some old)))

/-- Sets a property of a relationship; null removes it. -/
def setRelProperty (id : RelId) (key : String) (value : Value) : Operation Unit := fun s =>
  if value.isNull then
    let (r, s) := removeRelProperty id key s
    (r.map fun _ => (), s)
  else
    match s.rel? id with
    | none => (.error (.relNotFound id), s)
    | some r =>
      (.ok (), (s.mapRel id fun r =>
        { r with properties := Dict.insert r.properties key value }).record
          (.setRelProperty id key (Dict.get? r.properties key)))

/-! ### Labels -/

/-- Adds a label to a node; tells whether it is new there. -/
def addLabel (id : NodeId) (label : String) : Operation Bool := fun s =>
  match s.node? id with
  | none => (.error (.nodeNotFound id), s)
  | some n =>
    if label ∈ n.labels then (.ok false, s)
    else
      match s.violation? [label] n.properties (some id) with
      | some e => (.error e, s)
      | none =>
        (.ok true, ((s.mapNode id fun n => { n with labels := n.labels ++ [label] }).indexLabel
          id label).record (.addLabel id label))

/-- Removes a label from a node; tells whether it was there. -/
def removeLabel (id : NodeId) (label : String) : Operation Bool := fun s =>
  match s.node? id with
  | none => (.error (.nodeNotFound id), s)
  | some n =>
    match n.labels.idxOf? label with
    | none => (.ok false, s)
    | some position =>
      (.ok true, ((s.mapNode id fun n =>
        { n with labels := n.labels.eraseIdx position }).unindexLabel id label).record
          (.removeLabel id label position))

/-! ### Deleting -/

/-- Deletes a relationship; tells whether there was one. -/
def deleteRel (id : RelId) (s : Store) : Bool × Store :=
  match s.rel? id with
  | none => (false, s)
  | some r => (true, (s.unlinkRel r).record (.deleteRel r))

/-- Deletes a node, with the relationships at it if `detach` says so. Gives their number, or
`none` if there is no such node. -/
def deleteNode (id : NodeId) (detach : Bool) : Operation (Option Nat) := fun s =>
  match s.node? id with
  | none => (.ok none, s)
  | some n =>
    let rels := s.relsAt id
    if !rels.isEmpty && !detach then (.error (.hasRelationships id rels.length), s)
    else
      let s := rels.foldl (fun s r => (deleteRel r s).2) s
      (.ok (some rels.length), (s.unlinkNode n).record (.deleteNode n))

/-! ### Rules -/

/-- The first value that occurs again, and the id that it came with first; `seen` holds the
values before. -/
def firstRepeat? : List (NodeId × Value) → List (NodeId × Value) → Option (Value × NodeId)
  | _, [] => none
  | seen, (id, v) :: rest =>
    match seen.find? (·.2.same v) with
    | some e => some (v, e.1)
    | none => firstRepeat? (seen ++ [(id, v)]) rest

/-- Two nodes of a label with the same value of a property: the value, and the first of them. -/
def duplicate? (s : Store) (label property : String) : Option (Value × NodeId) :=
  firstRepeat? [] <| (s.nodesWith label).filterMap fun id =>
    (Dict.get? (s.nodeProperties id) property).map fun v => (id, v)

/-- Declares a rule, unless one has its name or is on the same property of the same label. A
constraint must hold of the nodes there are. -/
def createRule (kind : RuleKind) (rule : Rule) : Operation Unit := fun s =>
  let rules := s.rules kind
  match rules.find? fun r =>
    r.name = rule.name || (r.label = rule.label && r.property = rule.property) with
  | some r => (.error (.ruleExists kind r.name), s)
  | none =>
    match if kind = .constraint then s.duplicate? rule.label rule.property else none with
    | some (v, existing) => (.error (.notUnique rule.label rule.property v existing), s)
    | none => (.ok (), (s.withRules kind (rules ++ [rule])).record (.createRule kind rule.name))

/-- Drops the rule of a name, and gives it. -/
def dropRule (kind : RuleKind) (name : String) : Operation Rule := fun s =>
  let rules := s.rules kind
  match rules.find? (·.name = name) with
  | none => (.error (.noSuchRule kind name), s)
  | some rule =>
    let position := rules.findIdx (·.name = name)
    (.ok rule, (s.withRules kind (rules.eraseIdx position)).record (.dropRule kind rule position))

end Store

end PropertyGraph
