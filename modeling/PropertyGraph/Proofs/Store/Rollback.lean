import PropertyGraph.Proofs.Store.Operation

/-!
Going back to a mark.

Undoing neither reads nor changes counters and journal, so the changes after a mark can be
undone one by one, each in the store that its step left. Along steps this gives back the store
of the mark, and going back twice is going back to the lower of the two marks.
-/

namespace PropertyGraph

namespace Store

variable {s t : Store}

lemma foldl_undo_reframe (cs : List Change) (s : Store) (n r : Nat) (j : List Change) :
    cs.foldl undo (s.reframe n r j) = (cs.foldl undo s).reframe n r j := by
  induction cs generalizing s with
  | nil => rfl
  | cons c cs ih => rw [List.foldl_cons, undo_reframe, ih]; rfl

lemma rollbackTo_eq (s : Store) (m : Nat) : s.rollbackTo m =
    ((s.journal.take (s.mark - m)).foldl undo s).reframe s.nextNode s.nextRel
      (s.journal.drop (s.mark - m)) :=
  foldl_undo_reframe _ s s.nextNode s.nextRel _

lemma journal_rollbackTo (s : Store) (m : Nat) :
    (s.rollbackTo m).journal = s.journal.drop (s.mark - m) := by rw [rollbackTo_eq]; rfl

@[simp] lemma nextNode_rollbackTo (s : Store) (m : Nat) :
    (s.rollbackTo m).nextNode = s.nextNode := by rw [rollbackTo_eq]; rfl

@[simp] lemma nextRel_rollbackTo (s : Store) (m : Nat) :
    (s.rollbackTo m).nextRel = s.nextRel := by rw [rollbackTo_eq]; rfl

@[simp] lemma mark_rollbackTo (s : Store) (m : Nat) : (s.rollbackTo m).mark = min m s.mark := by
  rw [mark, journal_rollbackTo, List.length_drop]
  change s.mark - (s.mark - m) = _
  omega

lemma rollbackTo_reframe (s : Store) (m n r : Nat) :
    (s.reframe n r s.journal).rollbackTo m =
      (s.rollbackTo m).reframe n r (s.rollbackTo m).journal := by
  rw [rollbackTo_eq, rollbackTo_eq, foldl_undo_reframe]
  rfl

/-- **Going back twice** is going back to the lower mark. -/
theorem rollbackTo_rollbackTo (s : Store) (m k : Nat) :
    (s.rollbackTo m).rollbackTo k = s.rollbackTo (min m k) := by
  have hmark : (s.rollbackTo m).mark - k = min m s.mark - k := by rw [mark_rollbackTo]
  have hsum : s.mark - min m k = s.mark - m + (min m s.mark - k) := by omega
  rw [rollbackTo_eq (s.rollbackTo m), hmark, journal_rollbackTo, rollbackTo_eq s (min m k), hsum,
    List.take_add, List.foldl_append, List.drop_drop, nextNode_rollbackTo, nextRel_rollbackTo,
    rollbackTo_eq s m, foldl_undo_reframe]
  rfl

/-- The first change that is undone is the newest one. -/
lemma rollbackTo_cons {c : Change} {j : List Change} (h : s.journal = c :: j) {m : Nat}
    (hm : m ≤ j.length) :
    s.rollbackTo m = ((s.undo c).reframe s.nextNode s.nextRel j).rollbackTo m := by
  have hmark : s.mark - m = j.length - m + 1 := by rw [mark, h, List.length_cons]; omega
  rw [rollbackTo_eq, rollbackTo_eq, hmark, h, List.take_succ_cons, List.foldl_cons,
    List.drop_succ_cons, foldl_undo_reframe]
  rfl

lemma Undoable.mark (h : Undoable s t) : t.mark = s.mark + 1 := by
  obtain ⟨c, hj, -⟩ := h.undo
  rw [Store.mark, hj, List.length_cons]
  rfl

lemma Undoable.rollbackTo (h : Undoable s t) {m : Nat} (hm : m ≤ s.mark) : t.rollbackTo m =
    (s.rollbackTo m).reframe t.nextNode t.nextRel (s.rollbackTo m).journal := by
  obtain ⟨c, hj, hu⟩ := h.undo
  rw [rollbackTo_cons hj hm, hu, ← rollbackTo_reframe]
  rfl

lemma Steps.counters_le (h : Steps s t) (hs : Sound s) :
    s.nextNode ≤ t.nextNode ∧ s.nextRel ≤ t.nextRel := by
  induction h with
  | refl => exact ⟨le_rfl, le_rfl⟩
  | tail h hstep ih =>
    have hu := hstep.undoable (Steps.sound h hs)
    exact ⟨ih.1.trans hu.nextNode_le, ih.2.trans hu.nextRel_le⟩

lemma Steps.mark_le (h : Steps s t) (hs : Sound s) : s.mark ≤ t.mark := by
  induction h with
  | refl => exact le_rfl
  | tail h hstep ih => rw [(hstep.undoable (Steps.sound h hs)).mark]; exact ih.trans (Nat.le_succ _)

/-- **Steps are undone by going back to a mark before them**: what is there then is what was
there before, but for the counters. -/
theorem Steps.rollbackTo (h : Steps s t) (hs : Sound s) {m : Nat} (hm : m ≤ s.mark) :
    t.rollbackTo m =
      (s.rollbackTo m).reframe t.nextNode t.nextRel (s.rollbackTo m).journal := by
  induction h with
  | refl => rw [rollbackTo_eq]; rfl
  | @tail u v h hstep ih =>
    have hv := hstep.undoable (Steps.sound h hs)
    calc v.rollbackTo m
        = (u.rollbackTo m).reframe v.nextNode v.nextRel (u.rollbackTo m).journal :=
          hv.rollbackTo (hm.trans (Steps.mark_le h hs))
      _ = (s.rollbackTo m).reframe v.nextNode v.nextRel (s.rollbackTo m).journal := by
          rw [ih]; rfl

end Store

end PropertyGraph
