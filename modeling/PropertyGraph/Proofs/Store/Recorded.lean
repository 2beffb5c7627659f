import PropertyGraph.Proofs.Store.Run

/-!
A call of a store either changes nothing or records what it changes.

Every operation checks first. So if it is refused it has not begun, and where it tells that nothing
was there to be done it has done nothing, to the journal and the counters as little as to the graph.
Whatever else succeeds puts its changes on the journal, on top of those before; one thing only may
succeed without a change and not tell, which is setting a property to null that was not there.
-/

namespace PropertyGraph

namespace Store

variable {α β : Type} {s t : Store}

/-- The journal has grown, and what was on it before is below. -/
def Extends (s t : Store) : Prop := ∃ cs, cs ≠ [] ∧ t.journal = cs ++ s.journal

/-- What an operation may come to, where `idle` says which results tell that nothing was there to be
done, and `silent` whether there need not be anything to do. -/
inductive Outcome (idle : α → Prop) (silent : Prop) (s : Store) :
    Except StoreError α × Store → Prop
  | refused (x : StoreError) : Outcome idle silent s (.error x, s)
  | nothing {a : α} (h : idle a ∨ silent) : Outcome idle silent s (.ok a, s)
  | recorded {a : α} {t : Store} (h : ¬ idle a) (ht : Extends s t) :
      Outcome idle silent s (.ok a, t)

namespace Outcome

variable {idle : α → Prop} {silent : Prop} {r : Except StoreError α}

lemma map {idle' : β → Prop} (f : α → β) (hf : ∀ a, idle' (f a) ↔ idle a)
    (h : Outcome idle silent s (r, t)) : Outcome idle' silent s (r.map f, t) := by
  cases h with
  | refused x => exact .refused x
  | nothing h => exact .nothing (h.imp_left (hf _).2)
  | recorded h ht => exact .recorded (mt (hf _).1 h) ht

/-- What an operation would tell is kept back. -/
lemma hush (f : α → β) (h : Outcome idle False s (r, t)) :
    Outcome (fun _ => False) True s (r.map f, t) := by
  cases h with
  | refused x => exact .refused x
  | nothing => exact .nothing (.inr trivial)
  | recorded _ ht => exact .recorded not_false ht

/-- One change is recorded last, over what was recorded before it. -/
lemma record {a : α} (h : ¬ idle a) (c : Change) (cs : List Change)
    (ht : t.journal = cs ++ s.journal) : Outcome idle silent s (.ok a, t.record c) :=
  .recorded h ⟨c :: cs, List.cons_ne_nil _ _, congrArg (c :: ·) ht⟩

lemma eq_of_error {x : StoreError} (h : Outcome idle silent s (.error x, t)) : t = s := by
  cases h
  rfl

lemma eq_of_idle {a : α} (h : Outcome idle silent s (.ok a, t)) (ha : idle a) : t = s := by
  cases h with
  | nothing => rfl
  | recorded hne => exact absurd ha hne

lemma extends_of_not_idle {a : α} (h : Outcome idle silent s (.ok a, t)) (ha : ¬ idle a) :
    silent ∧ t = s ∨ Extends s t := by
  cases h with
  | nothing h => exact .inl ⟨h.resolve_left ha, rfl⟩
  | recorded _ ht => exact .inr ht

end Outcome

/-! ### Operations -/

section

variable {silent : Prop}

lemma outcome_createNode (labels : List String) (ps : Properties) (s : Store) :
    Outcome (fun _ => False) silent s (createNode labels ps s) := by
  rw [createNode]
  cases s.violation? labels.eraseDups (withoutNulls ps) none with
  | some x => exact .refused x
  | none =>
    refine .record not_false _ [] ?_
    rw [linkNode_eq]
    rfl

lemma outcome_createRel (type : String) (a b : NodeId) (ps : Properties) (s : Store) :
    Outcome (fun _ => False) silent s (createRel type a b ps s) := by
  rw [createRel]
  split_ifs
  · exact .refused _
  · exact .refused _
  · exact .record not_false _ [] rfl

lemma outcome_removeNodeProperty (i : NodeId) (k : String) (s : Store) :
    Outcome (· = false) silent s (removeNodeProperty i k s) := by
  rw [removeNodeProperty]
  split
  · exact .refused _
  · split
    · exact .nothing (.inl rfl)
    · exact .record (fun h => Bool.false_ne_true h.symm) _ [] rfl

lemma outcome_removeRelProperty (i : RelId) (k : String) (s : Store) :
    Outcome (· = false) silent s (removeRelProperty i k s) := by
  rw [removeRelProperty]
  split
  · exact .refused _
  · split
    · exact .nothing (.inl rfl)
    · exact .record (fun h => Bool.false_ne_true h.symm) _ [] rfl

lemma outcome_setNodeProperty (i : NodeId) (k : String) (v : Value) (s : Store) :
    Outcome (fun _ => False) (v.isNull = true) s (setNodeProperty i k v s) := by
  rw [setNodeProperty]
  split_ifs with hv
  · rw [eq_true hv]
    exact (outcome_removeNodeProperty i k s).hush fun _ => ()
  · split
    · exact .refused _
    · split
      · exact .refused _
      · exact .record not_false _ [] rfl

lemma outcome_setRelProperty (i : RelId) (k : String) (v : Value) (s : Store) :
    Outcome (fun _ => False) (v.isNull = true) s (setRelProperty i k v s) := by
  rw [setRelProperty]
  split_ifs with hv
  · rw [eq_true hv]
    exact (outcome_removeRelProperty i k s).hush fun _ => ()
  · split
    · exact .refused _
    · exact .record not_false _ [] rfl

lemma outcome_addLabel (i : NodeId) (l : String) (s : Store) :
    Outcome (· = false) silent s (addLabel i l s) := by
  rw [addLabel]
  split
  · exact .refused _
  · split_ifs
    · exact .nothing (.inl rfl)
    · split
      · exact .refused _
      · exact .record (fun h => Bool.false_ne_true h.symm) _ [] rfl

lemma outcome_removeLabel (i : NodeId) (l : String) (s : Store) :
    Outcome (· = false) silent s (removeLabel i l s) := by
  rw [removeLabel]
  split
  · exact .refused _
  · split
    · exact .nothing (.inl rfl)
    · exact .record (fun h => Bool.false_ne_true h.symm) _ [] rfl

lemma outcome_deleteRel (i : RelId) (s : Store) :
    Outcome (· = false) silent s (.ok (deleteRel i s).1, (deleteRel i s).2) := by
  rw [deleteRel]
  split
  · exact .nothing (.inl rfl)
  · exact .record (fun h => Bool.false_ne_true h.symm) _ [] rfl

lemma journal_deleteRels (is : List RelId) (s : Store) :
    ∃ cs, (deleteRels is s).journal = cs ++ s.journal := by
  induction is generalizing s with
  | nil => exact ⟨[], rfl⟩
  | cons i is ih =>
    obtain ⟨cs, hcs⟩ := ih (deleteRel i s).2
    change ∃ cs, (deleteRels is (deleteRel i s).2).journal = cs ++ s.journal
    cases hr : s.rel? i with
    | none =>
      rw [deleteRel, hr] at hcs ⊢
      exact ⟨cs, hcs⟩
    | some r =>
      rw [deleteRel, hr] at hcs ⊢
      refine ⟨cs ++ [.deleteRel r], hcs.trans ?_⟩
      rw [List.append_assoc]
      rfl

lemma outcome_deleteNode (i : NodeId) (detach : Bool) (s : Store) :
    Outcome (· = none) silent s (deleteNode i detach s) := by
  rw [deleteNode]
  cases s.node? i with
  | none => exact .nothing (.inl rfl)
  | some n =>
    change Outcome _ _ s (ite _ _ (_, ((deleteRels (s.relsAt i) s).unlinkNode n).record _))
    split_ifs
    · exact .refused _
    · obtain ⟨cs, hcs⟩ := journal_deleteRels (s.relsAt i) s
      refine .record (by simp) _ cs ?_
      rw [unlinkNode_eq, ← hcs]

lemma outcome_createRule (k : RuleKind) (rule : Rule) (s : Store) :
    Outcome (fun _ => False) silent s (createRule k rule s) := by
  unfold createRule
  dsimp only
  split
  · exact .refused _
  · split
    · exact .refused _
    · refine .record not_false _ [] ?_
      cases k <;> rfl

lemma outcome_dropRule (k : RuleKind) (name : String) (s : Store) :
    Outcome (fun _ => False) silent s (dropRule k name s) := by
  unfold dropRule
  dsimp only
  split
  · exact .refused _
  · refine .record not_false _ [] ?_
    cases k <;> rfl

end

/-! ### Calls -/

namespace Call

/-- What a call gives back if it succeeds. -/
inductive Answer
  | done
  | created (id : Nat)
  /-- Whether there was something to be done. -/
  | found (b : Bool)
  /-- How many relationships went with a node, if there was one. -/
  | deleted (count : Option Nat)
  | dropped (rule : Rule)
deriving DecidableEq

/-- Whether an answer tells that nothing was there to be done. -/
def Answer.isIdle (a : Answer) : Bool := a = .found false || a = .deleted none

lemma Answer.isIdle_iff {a : Answer} : a.isIdle ↔ a = .found false ∨ a = .deleted none := by
  rw [isIdle, Bool.or_eq_true, decide_eq_true_eq, decide_eq_true_eq]

def answer (s : Store) : Call → Except StoreError Answer
  | createNode labels ps => (s.createNode labels ps).1.map .created
  | createRel type a b ps => (s.createRel type a b ps).1.map .created
  | setNodeProperty i k v => (s.setNodeProperty i k v).1.map fun _ => .done
  | removeNodeProperty i k => (s.removeNodeProperty i k).1.map .found
  | setRelProperty i k v => (s.setRelProperty i k v).1.map fun _ => .done
  | removeRelProperty i k => (s.removeRelProperty i k).1.map .found
  | addLabel i l => (s.addLabel i l).1.map .found
  | removeLabel i l => (s.removeLabel i l).1.map .found
  | deleteRel i => .ok (.found (s.deleteRel i).1)
  | deleteNode i detach => (s.deleteNode i detach).1.map .deleted
  | createRule k rule => (s.createRule k rule).1.map fun _ => .done
  | dropRule k name => (s.dropRule k name).1.map .dropped
  | commit | rollbackTo _ => .ok .done

/-- Whether a call sets a property to null, which removes it if it is there. -/
def setsNull : Call → Bool
  | setNodeProperty _ _ v | setRelProperty _ _ v => v.isNull
  | _ => false

section

variable {silent : Prop}

lemma outcome_answer {α : Type} {r : Except StoreError α} {f : α → Answer}
    (hf : ∀ a, (f a).isIdle = false) (h : Outcome (fun _ => False) silent s (r, t)) :
    Outcome (fun a : Answer => a.isIdle) silent s (r.map f, t) :=
  h.map f fun a => by simp [hf]

lemma outcome_found {r : Except StoreError Bool} (h : Outcome (· = false) silent s (r, t)) :
    Outcome (fun a : Answer => a.isIdle) silent s (r.map .found, t) :=
  h.map Answer.found fun b => by simp [Answer.isIdle_iff]

lemma outcome_deleted {r : Except StoreError (Option Nat)}
    (h : Outcome (· = none) silent s (r, t)) :
    Outcome (fun a : Answer => a.isIdle) silent s (r.map .deleted, t) :=
  h.map Answer.deleted fun n => by simp [Answer.isIdle_iff]

end

/-- What a call may come to. -/
theorem outcome {c : Call} (hc : c.isChange) (s : Store) :
    Outcome (fun a : Answer => a.isIdle) c.setsNull s (c.answer s, c.run s) := by
  cases c with
  | createNode labels ps => exact outcome_answer (fun _ => rfl) (outcome_createNode labels ps s)
  | createRel type a b ps => exact outcome_answer (fun _ => rfl) (outcome_createRel type a b ps s)
  | setNodeProperty i k v =>
    exact outcome_answer (fun _ => rfl) (outcome_setNodeProperty i k v s)
  | removeNodeProperty i k => exact outcome_found (outcome_removeNodeProperty i k s)
  | setRelProperty i k v => exact outcome_answer (fun _ => rfl) (outcome_setRelProperty i k v s)
  | removeRelProperty i k => exact outcome_found (outcome_removeRelProperty i k s)
  | addLabel i l => exact outcome_found (outcome_addLabel i l s)
  | removeLabel i l => exact outcome_found (outcome_removeLabel i l s)
  | deleteRel i => exact outcome_found (outcome_deleteRel i s)
  | deleteNode i detach => exact outcome_deleted (outcome_deleteNode i detach s)
  | createRule k rule => exact outcome_answer (fun _ => rfl) (outcome_createRule k rule s)
  | dropRule k name => exact outcome_answer (fun _ => rfl) (outcome_dropRule k name s)
  | commit => simp [isChange] at hc
  | rollbackTo m => simp [isChange] at hc

end Call

/-- **A call that is refused, or tells that nothing was there to be done, changes nothing**, neither
the graph and its lists nor the counters and the journal. Any other that succeeds has put its
changes on the journal, over all that was on it before; only setting a property to null may have
found nothing to change. -/
theorem refused_or_recorded (history : List Call) {c : Call} (hc : c.isChange) :
    let s := run history {}
    let t := c.run s
    (∀ x, c.answer s = .error x → t = s) ∧
      (∀ a, c.answer s = .ok a → a.isIdle → t = s) ∧
      (∀ a, c.answer s = .ok a → a.isIdle = false → c.setsNull ∧ t = s ∨ Extends s t) := by
  intro s t
  have h : Outcome (fun a : Call.Answer => a.isIdle) c.setsNull s (c.answer s, t) :=
    Call.outcome hc s
  refine ⟨fun x hx => ?_, fun a ha hidle => ?_, fun a ha hidle => ?_⟩
  · rw [hx] at h
    exact h.eq_of_error
  · rw [ha] at h
    exact h.eq_of_idle hidle
  · rw [ha] at h
    exact h.extends_of_not_idle (Bool.eq_false_iff.1 hidle)

/-- A value that must be unique is refused, also for the second one of two labels, and a node that
has no such label any more gets it. -/
theorem refused_or_recorded_unique :
    let history : List Call := [.createNode ["A"] [("k", .bool true)], .createNode ["B", "A"] [],
      .createRule .constraint ⟨"c", "A", "k"⟩]
    let c : Call := .setNodeProperty 1 "k" (.bool true)
    let s := run history {}
    let t := run (history ++ [.removeLabel 1 "A"]) {}
    c.isChange ∧ c.answer s = .error (.notUnique "A" "k" (.bool true) 0) ∧ c.run s = s ∧
      c.answer t = .ok .done ∧ Extends t (c.run t) := by
  intro history c s t
  have hc : c.isChange := rfl
  have hrefused : c.answer s = .error (.notUnique "A" "k" (.bool true) 0) := by decide
  have hdone : c.answer t = .ok .done := by decide
  obtain ⟨hsame, -⟩ := refused_or_recorded history hc
  obtain ⟨-, -, hgrown⟩ := refused_or_recorded (history ++ [.removeLabel 1 "A"]) hc
  refine ⟨hc, hrefused, hsame _ hrefused, hdone, (hgrown _ hdone rfl).resolve_left fun h => ?_⟩
  exact Bool.false_ne_true h.1

end Store

end PropertyGraph
