import Mathlib.Tactic.Common
import PropertyGraph.Matching.Walk
import PropertyGraph.Store.Update

/-!
Operations look at a graph and not at its journal, and put what they record on top of it. So
they do the same on a graph with older changes below its own, and to go back to where they began
takes off what they recorded and no more.
-/

namespace PropertyGraph

namespace Store

variable {α : Type}

/-- The graph with older changes below its own. -/
def above (s : Store) (older : List Change) : Store := { s with journal := s.journal ++ older }

/-- An operation does the same, whatever changes there have been before. -/
def Framed (op : Operation α) : Prop :=
  ∀ s older, op (s.above older) = ((op s).1, (op s).2.above older)

variable (s : Store) (older : List Change)

/-! ### Looking at a graph -/

@[simp] lemma above_nil : s.above [] = s := by rw [above, List.append_nil]

@[simp] lemma node?_above (i : NodeId) : (s.above older).node? i = s.node? i := rfl

@[simp] lemma rel?_above (i : RelId) : (s.above older).rel? i = s.rel? i := rfl

@[simp] lemma relsAt_above (i : NodeId) : (s.above older).relsAt i = s.relsAt i := rfl

@[simp] lemma violation?_above (ls : List String) (ps : Properties) (i : Option NodeId) :
    (s.above older).violation? ls ps i = s.violation? ls ps i := rfl

@[simp] lemma duplicate?_above (l p : String) :
    (s.above older).duplicate? l p = s.duplicate? l p := rfl

@[simp] lemma rules_above (k : RuleKind) : (s.above older).rules k = s.rules k := by cases k <;> rfl

@[simp] lemma mark_above : (s.above older).mark = s.mark + older.length := List.length_append

/-! ### Linking -/

lemma indexLabel_above (i : NodeId) (l : String) :
    (s.above older).indexLabel i l = (s.indexLabel i l).above older := rfl

lemma unindexLabel_above (i : NodeId) (l : String) :
    (s.above older).unindexLabel i l = (s.unindexLabel i l).above older := rfl

lemma foldl_above {β : Type} (f : Store → β → Store)
    (h : ∀ s b, f (s.above older) b = (f s b).above older) (bs : List β) :
    bs.foldl f (s.above older) = (bs.foldl f s).above older := by
  induction bs generalizing s with
  | nil => rfl
  | cons b bs ih => rw [List.foldl_cons, List.foldl_cons, h, ih]

lemma linkNode_above (n : Node) : (s.above older).linkNode n = (s.linkNode n).above older :=
  foldl_above { s with nodes := s.nodes.insert n.id n } older (fun s l => s.indexLabel n.id l)
    (fun s l => s.indexLabel_above older n.id l) n.labels

lemma unlinkNode_above (n : Node) : (s.above older).unlinkNode n = (s.unlinkNode n).above older :=
  foldl_above
    { s with
      nodes := s.nodes.erase n.id
      outgoing := s.outgoing.erase n.id
      incoming := s.incoming.erase n.id }
    older (fun s l => s.unindexLabel n.id l) (fun s l => s.unindexLabel_above older n.id l) n.labels

lemma withRules_above (k : RuleKind) (rules : List Rule) :
    (s.above older).withRules k rules = (s.withRules k rules).above older := by cases k <;> rfl

/-! ### Undoing -/

lemma undo_above (c : Change) : (s.above older).undo c = (s.undo c).above older := by
  cases c with
  | createNode i =>
    simp only [undo, node?_above]
    cases s.node? i with
    | some n => exact s.unlinkNode_above older n
    | none => rfl
  | createRel i =>
    simp only [undo, rel?_above]
    cases s.rel? i <;> rfl
  | deleteNode n => exact s.linkNode_above older n
  | removeLabel i l position =>
    cases hn : s.node? i <;> simp only [undo, node?_above, hn] <;> rfl
  | createRule k name =>
    simp only [undo, rules_above]
    exact s.withRules_above older k _
  | dropRule k rule position =>
    simp only [undo, rules_above]
    exact s.withRules_above older k _
  | _ => rfl

/-- **Going back to where older changes ended** undoes all the others. -/
theorem rollbackTo_above :
    (s.above older).rollbackTo older.length = (s.rollbackTo 0).above older := by
  have htake : (s.journal ++ older).take s.mark = s.journal := List.take_left
  have hdrop : (s.journal ++ older).drop s.mark = older := List.drop_left
  -- undoing does not look at the journal either, so what is left of it can be put below first
  have hbase : { s.above older with journal := older } = { s with journal := [] }.above older := rfl
  rw [rollbackTo, rollbackTo, mark_above, Nat.add_sub_cancel, Nat.sub_zero]
  change (List.take s.mark (s.journal ++ older)).foldl undo
      { s.above older with journal := List.drop s.mark (s.journal ++ older) } = _
  rw [htake, hdrop, hbase, foldl_above _ _ _ fun s c => s.undo_above older c]
  rw [mark, List.take_length, List.drop_length]

/-! ### Operations -/

lemma framed_createNode (labels : List String) (ps : Properties) :
    Framed (createNode labels ps) := by
  intro s older
  simp only [createNode, violation?_above]
  split
  · rfl
  · exact congrArg (fun t : Store => (Except.ok s.nextNode, t.record (.createNode s.nextNode)))
      (linkNode_above { s with nextNode := s.nextNode + 1 } older _)

lemma framed_createRel (type : String) (a b : NodeId) (ps : Properties) :
    Framed (createRel type a b ps) := by
  intro s older
  cases ha : s.node? a with
  | none => simp only [createRel, node?_above, ha]; rfl
  | some m => cases hb : s.node? b <;> simp only [createRel, node?_above, ha, hb] <;> rfl

lemma framed_removeNodeProperty (i : NodeId) (k : String) : Framed (removeNodeProperty i k) := by
  intro s older
  simp only [removeNodeProperty, node?_above]
  split
  · rfl
  · split <;> rfl

lemma framed_setNodeProperty (i : NodeId) (k : String) (v : Value) :
    Framed (setNodeProperty i k v) := by
  intro s older
  simp only [setNodeProperty, node?_above, violation?_above, framed_removeNodeProperty i k s older]
  split
  · rfl
  · split
    · rfl
    · split <;> rfl

lemma framed_removeRelProperty (i : RelId) (k : String) : Framed (removeRelProperty i k) := by
  intro s older
  simp only [removeRelProperty, rel?_above]
  split
  · rfl
  · split <;> rfl

lemma framed_setRelProperty (i : RelId) (k : String) (v : Value) :
    Framed (setRelProperty i k v) := by
  intro s older
  simp only [setRelProperty, rel?_above, framed_removeRelProperty i k s older]
  split
  · rfl
  · split <;> rfl

lemma framed_addLabel (i : NodeId) (l : String) : Framed (addLabel i l) := by
  intro s older
  simp only [addLabel, node?_above, violation?_above]
  split
  · rfl
  · split
    · rfl
    · split <;> rfl

lemma framed_removeLabel (i : NodeId) (l : String) : Framed (removeLabel i l) := by
  intro s older
  simp only [removeLabel, node?_above]
  split
  · rfl
  · split <;> rfl

lemma framed_deleteRel (i : RelId) :
    Framed fun s => (.ok (deleteRel i s).1, (deleteRel i s).2) := by
  intro s older
  simp only [deleteRel, rel?_above]
  split <;> rfl

lemma framed_deleteNode (i : NodeId) (detach : Bool) : Framed (deleteNode i detach) := by
  intro s older
  have hrels : (s.relsAt i).foldl (fun s r => (deleteRel r s).2) (s.above older) =
      ((s.relsAt i).foldl (fun s r => (deleteRel r s).2) s).above older :=
    foldl_above s older _ (fun s r => congrArg Prod.snd (framed_deleteRel r s older)) _
  simp only [deleteNode, node?_above, relsAt_above, hrels, unlinkNode_above]
  cases s.node? i with
  | none => rfl
  | some n => cases !(s.relsAt i).isEmpty && !detach <;> rfl

lemma framed_createRule (k : RuleKind) (rule : Rule) : Framed (createRule k rule) := by
  intro s older
  simp only [createRule, rules_above, duplicate?_above, withRules_above]
  split
  · rfl
  · split <;> rfl

lemma framed_dropRule (k : RuleKind) (name : String) : Framed (dropRule k name) := by
  intro s older
  simp only [dropRule, rules_above, withRules_above]
  split <;> rfl

end Store

end PropertyGraph
