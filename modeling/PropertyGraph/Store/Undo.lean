import PropertyGraph.Store

/-!
# Undoing changes

Rolling back to a mark takes the changes after it from the journal, the newest first, and
undoes each of them.
-/

namespace PropertyGraph

namespace Store

/-! ### Indexing -/

def indexLabel (s : Store) (id : NodeId) (label : String) : Store :=
  { s with labelled := s.labelled.setList label (insertAscending id (s.nodesWith label)) }

def unindexLabel (s : Store) (id : NodeId) (label : String) : Store :=
  { s with labelled := s.labelled.setList label ((s.nodesWith label).filter (· ≠ id)) }

/-- Stores a node and puts it on the lists of its labels. -/
def linkNode (s : Store) (n : Node) : Store :=
  n.labels.foldl (fun s l => s.indexLabel n.id l) { s with nodes := s.nodes.insert n.id n }

/-- Takes a node out, from the lists of its labels as well. -/
def unlinkNode (s : Store) (n : Node) : Store :=
  n.labels.foldl (fun s l => s.unindexLabel n.id l)
    { s with
      nodes := s.nodes.erase n.id
      outgoing := s.outgoing.erase n.id
      incoming := s.incoming.erase n.id }

/-- Stores a relationship and puts it on the lists of its ends. -/
def linkRel (s : Store) (r : Relationship) : Store :=
  { s with
    rels := s.rels.insert r.id r
    outgoing := s.outgoing.setList r.source (insertAscending r.id (s.relsFrom r.source))
    incoming := s.incoming.setList r.target (insertAscending r.id (s.relsTo r.target)) }

/-- Takes a relationship out, from the lists of its ends as well. -/
def unlinkRel (s : Store) (r : Relationship) : Store :=
  { s with
    rels := s.rels.erase r.id
    outgoing := s.outgoing.setList r.source ((s.relsFrom r.source).filter (· ≠ r.id))
    incoming := s.incoming.setList r.target ((s.relsTo r.target).filter (· ≠ r.id)) }

/-! ### Single changes -/

/-- Puts back what was stored under a key. -/
def restore (properties : Properties) (key : String) : Option Value → Properties
  | some v => Dict.insert properties key v
  | none => Dict.erase properties key

/-- Puts an item at a position of a list, or at its end if it is shorter. -/
def insertUpTo {α : Type} (position : Nat) (x : α) (xs : List α) : List α :=
  xs.insertIdx (min position xs.length) x

def mapNode (s : Store) (id : NodeId) (f : Node → Node) : Store :=
  { s with nodes := s.nodes.modify id f }

def mapRel (s : Store) (id : RelId) (f : Relationship → Relationship) : Store :=
  { s with rels := s.rels.modify id f }

/-- The store before a change; the journal is left alone. -/
def undo (s : Store) : Change → Store
  | .createNode id =>
    match s.node? id with
    | some n => s.unlinkNode n
    | none => { s with outgoing := s.outgoing.erase id, incoming := s.incoming.erase id }
  | .createRel id =>
    match s.rel? id with
    | some r => s.unlinkRel r
    | none => s
  | .deleteNode n => s.linkNode n
  | .deleteRel r => s.linkRel r
  | .setNodeProperty id key old =>
    s.mapNode id fun n => { n with properties := restore n.properties key old }
  | .setRelProperty id key old =>
    s.mapRel id fun r => { r with properties := restore r.properties key old }
  | .addLabel id label =>
    (s.mapNode id fun n => { n with labels := n.labels.filter (· ≠ label) }).unindexLabel id label
  | .removeLabel id label position =>
    if (s.node? id).isSome then
      (s.mapNode id fun n => { n with labels := insertUpTo position label n.labels }).indexLabel
        id label
    else s
  | .createRule kind name => s.withRules kind ((s.rules kind).filter (·.name ≠ name))
  | .dropRule kind rule position => s.withRules kind (insertUpTo position rule (s.rules kind))

/-! ### The journal -/

/-- The present position in the journal. -/
def mark (s : Store) : Nat := s.journal.length

def record (s : Store) (c : Change) : Store := { s with journal := c :: s.journal }

/-- Makes all changes permanent. -/
def commit (s : Store) : Store := { s with journal := [] }

/-- Undoes every change after a mark. -/
def rollbackTo (s : Store) (mark : Nat) : Store :=
  let n := s.mark - mark
  (s.journal.take n).foldl undo { s with journal := s.journal.drop n }

@[simp] theorem mark_record (s : Store) (c : Change) : (s.record c).mark = s.mark + 1 := rfl

@[simp] theorem mark_commit (s : Store) : s.commit.mark = 0 := rfl

@[simp] theorem rollbackTo_mark (s : Store) : s.rollbackTo s.mark = s := by
  simp [rollbackTo]

theorem rollbackTo_of_le {s : Store} {m : Nat} (h : s.mark ≤ m) : s.rollbackTo m = s := by
  have : s.mark - m = 0 := by omega
  simp [rollbackTo, this]

end Store

end PropertyGraph
