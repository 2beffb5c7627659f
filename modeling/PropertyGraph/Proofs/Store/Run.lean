import PropertyGraph.Proofs.Store.Unique

/-!
Runs of a store: any calls of its operations, commits and rollbacks, one after the other from an
empty store. Every store of a run is lawful; what was promised of stores follows from that.

A store is lawful if, whatever mark it goes back to, the graph there is sound and keeps its rules.
Undoing checks nothing, so that a store is valid does not say that what comes before it is. The
invariant therefore speaks of all marks at once, and a step has to be looked at only at its own.
-/

namespace PropertyGraph

namespace Store

variable {s t : Store}

/-- The graph is sound and obeys its rules, which do not repeat each other. -/
structure Valid (s : Store) : Prop where
  sound : Sound s
  unique : Unique s
  apart : ∀ k, Apart (s.rules k)

/-- The store is valid wherever it is rolled back to. -/
def Lawful (s : Store) : Prop := ∀ m, Valid (s.rollbackTo m)

lemma valid_empty : Valid {} where
  sound := sound_empty
  unique c h := by simp at h
  apart k := by cases k <;> exact List.Pairwise.nil

lemma Valid.reframe (h : Valid s) {n r : Nat} (hn : s.nextNode ≤ n) (hr : s.nextRel ≤ r)
    (j : List Change) : Valid (s.reframe n r j) where
  sound := h.sound.reframe hn hr j
  unique := h.unique
  apart k := by cases k; exacts [h.apart .constraint, h.apart .index]

lemma Step.valid (hs : Valid s) (h : Step s t) : Valid t where
  sound := (h.undoable hs.sound).sound
  unique := h.unique hs.sound hs.unique
  apart k := h.apart k (hs.apart k)

lemma lawful_empty : Lawful {} := fun m => by
  rw [rollbackTo_of_le (Nat.zero_le m)]
  exact valid_empty

namespace Lawful

variable (hs : Lawful s)
include hs

lemma valid : Valid s := rollbackTo_mark s ▸ hs s.mark

lemma sound : Sound s := hs.valid.sound

lemma rollbackTo (m : Nat) : Lawful (s.rollbackTo m) := fun k => by
  rw [rollbackTo_rollbackTo]
  exact hs _

lemma commit : Lawful s.commit := fun m => by
  rw [rollbackTo_of_le (Nat.zero_le m)]
  exact hs.valid.reframe le_rfl le_rfl []

/-- **A step keeps all marks valid**: the store of a mark before it is the same but for the
counters, which did not go down. -/
theorem step (h : Step s t) : Lawful t := fun m => by
  have hu := h.undoable hs.sound
  by_cases hm : m ≤ s.mark
  · rw [hu.rollbackTo hm]
    exact (hs m).reframe (by simpa using hu.nextNode_le) (by simpa using hu.nextRel_le) _
  · rw [rollbackTo_of_le (by rw [hu.mark]; omega)]
    exact h.valid hs.valid

lemma steps (h : Steps s t) : Lawful t := by
  induction h with
  | refl => exact hs
  | tail _ h ih => exact ih.step h

end Lawful

end Store

/-! ### Runs -/

namespace Store

/-- A call that may change a store. -/
inductive Call
  | createNode (labels : List String) (properties : Properties)
  | createRel (type : String) (source target : NodeId) (properties : Properties)
  | setNodeProperty (id : NodeId) (key : String) (value : Value)
  | removeNodeProperty (id : NodeId) (key : String)
  | setRelProperty (id : RelId) (key : String) (value : Value)
  | removeRelProperty (id : RelId) (key : String)
  | addLabel (id : NodeId) (label : String)
  | removeLabel (id : NodeId) (label : String)
  | deleteRel (id : RelId)
  | deleteNode (id : NodeId) (detach : Bool)
  | createRule (kind : RuleKind) (rule : Rule)
  | dropRule (kind : RuleKind) (name : String)
  | commit
  | rollbackTo (mark : Nat)

namespace Call

/-- The store after a call, also after one that was refused. -/
def run (s : Store) : Call → Store
  | createNode labels ps => (s.createNode labels ps).2
  | createRel type a b ps => (s.createRel type a b ps).2
  | setNodeProperty i k v => (s.setNodeProperty i k v).2
  | removeNodeProperty i k => (s.removeNodeProperty i k).2
  | setRelProperty i k v => (s.setRelProperty i k v).2
  | removeRelProperty i k => (s.removeRelProperty i k).2
  | addLabel i l => (s.addLabel i l).2
  | removeLabel i l => (s.removeLabel i l).2
  | deleteRel i => (s.deleteRel i).2
  | deleteNode i detach => (s.deleteNode i detach).2
  | createRule k rule => (s.createRule k rule).2
  | dropRule k name => (s.dropRule k name).2
  | commit => s.commit
  | rollbackTo m => s.rollbackTo m

/-- Whether what is undone by going back to a mark can still be undone after a call. -/
def keeps (mark : Nat) : Call → Bool
  | commit => false
  | rollbackTo m => mark ≤ m
  | _ => true

/-- Whether a call is one of the operations, whose changes are recorded. -/
def isChange : Call → Bool
  | commit | rollbackTo _ => false
  | _ => true

end Call

/-- The store after some calls. -/
def run (calls : List Call) (s : Store) : Store := calls.foldl Call.run s

/-- Operations lead from one store to another. -/
def Leads (s t : Store) : Prop := ∃ calls : List Call, (∀ c ∈ calls, c.isChange) ∧ run calls s = t

/-- The ids that some calls hand out, in the order in which they do. -/
def created (new? : Store → Call → Option Nat) : List Call → Store → List Nat
  | [], _ => []
  | c :: calls, s => (new? s c).toList ++ created new? calls (c.run s)

variable {s : Store}

/-! ### What calls do -/

lemma Call.run_cases (hs : Sound s) (c : Call) :
    Steps s (c.run s) ∨ c = .commit ∨ ∃ m, c = .rollbackTo m := by
  cases c with
  | createNode labels ps => exact .inl (steps_createNode labels ps s)
  | createRel type a b ps => exact .inl (steps_createRel type a b ps s)
  | setNodeProperty i k v => exact .inl (steps_setNodeProperty i k v s)
  | removeNodeProperty i k => exact .inl (steps_removeNodeProperty i k s)
  | setRelProperty i k v => exact .inl (steps_setRelProperty i k v s)
  | removeRelProperty i k => exact .inl (steps_removeRelProperty i k s)
  | addLabel i l => exact .inl (steps_addLabel i l s)
  | removeLabel i l => exact .inl (steps_removeLabel i l s)
  | deleteRel i => exact .inl (steps_deleteRel i s)
  | deleteNode i detach => exact .inl (steps_deleteNode hs i detach)
  | createRule k rule => exact .inl (steps_createRule k rule s)
  | dropRule k name => exact .inl (steps_dropRule k name s)
  | commit => exact .inr (.inl rfl)
  | rollbackTo m => exact .inr (.inr ⟨m, rfl⟩)

lemma Lawful.call (hs : Lawful s) (c : Call) : Lawful (c.run s) := by
  rcases c.run_cases hs.sound with h | rfl | ⟨m, rfl⟩
  · exact hs.steps h
  · exact hs.commit
  · exact hs.rollbackTo m

/-- **Every store of a run is lawful.** -/
theorem Lawful.run (hs : Lawful s) (calls : List Call) : Lawful (run calls s) := by
  induction calls generalizing s with
  | nil => exact hs
  | cons c calls ih => exact ih (hs.call c)

/-! ### Going back to a mark -/

/-- A call that keeps a mark does not change what there is to go back to. -/
lemma Call.rollbackTo_run (hs : Sound s) {m : Nat} (hm : m ≤ s.mark) {c : Call}
    (hc : c.keeps m) : m ≤ (c.run s).mark ∧ (c.run s).rollbackTo m =
      (s.rollbackTo m).reframe (c.run s).nextNode (c.run s).nextRel (s.rollbackTo m).journal := by
  rcases c.run_cases hs with h | rfl | ⟨k, rfl⟩
  · exact ⟨hm.trans (Steps.mark_le h hs), Steps.rollbackTo h hs hm⟩
  · simp [keeps] at hc
  · have hk : m ≤ k := by simpa [keeps] using hc
    change m ≤ (s.rollbackTo k).mark ∧ (s.rollbackTo k).rollbackTo m = _
    refine ⟨by rw [mark_rollbackTo]; omega, ?_⟩
    rw [rollbackTo_rollbackTo, Nat.min_eq_right hk]
    change _ = (s.rollbackTo m).reframe (s.rollbackTo k).nextNode (s.rollbackTo k).nextRel _
    rw [nextNode_rollbackTo, nextRel_rollbackTo, rollbackTo_eq]
    rfl

lemma rollbackTo_run (hs : Lawful s) {m : Nat} (hm : m ≤ s.mark) {calls : List Call}
    (hc : ∀ c ∈ calls, c.keeps m) : (run calls s).rollbackTo m =
      (s.rollbackTo m).reframe (run calls s).nextNode (run calls s).nextRel
        (s.rollbackTo m).journal := by
  induction calls generalizing s with
  | nil => change s.rollbackTo m = _; rw [rollbackTo_eq]; rfl
  | cons c calls ih =>
    obtain ⟨hle, heq⟩ := c.rollbackTo_run hs.sound hm (hc c (by simp))
    let t := run calls (c.run s)
    calc t.rollbackTo m
        = ((c.run s).rollbackTo m).reframe t.nextNode t.nextRel
            ((c.run s).rollbackTo m).journal :=
          ih (hs.call c) hle fun d hd => hc d (by simp [hd])
      _ = (s.rollbackTo m).reframe t.nextNode t.nextRel (s.rollbackTo m).journal := by
          rw [heq]; rfl

/-- **Going back to a mark of a run is exact**: whatever has been called since, short of a commit
and of going back further, the store is again what it was at the mark, but for the counters. -/
theorem rollbackTo_mark_run (history calls : List Call)
    (h : ∀ c ∈ calls, c.keeps (run history {}).mark) :
    let s := run history {}
    let t := run calls s
    t.rollbackTo s.mark = { s with nextNode := t.nextNode, nextRel := t.nextRel } := by
  intro s t
  have hs : Lawful s := lawful_empty.run history
  have := rollbackTo_run hs le_rfl h
  rwa [rollbackTo_mark] at this

/-- A deleted node comes back before its loop does. -/
theorem rollbackTo_mark_run_detach :
    let history : List Call := [.createNode ["A"] [("k", .bool true)], .createRel "R" 0 0 []]
    let calls : List Call := [.deleteNode 0 true, .createNode ["A"] [], .rollbackTo 4,
      .createNode [] [], .addLabel 7 "B", .rollbackTo 3]
    let s := run history {}
    let t := run calls s
    (∀ c ∈ calls, c.keeps s.mark) ∧ t.node? 0 = some ⟨0, ["A"], [("k", .bool true)]⟩ ∧
      t.rel? 0 = none ∧
      t.rollbackTo s.mark = { s with nextNode := t.nextNode, nextRel := t.nextRel } := by
  intro history calls s t
  have h : ∀ c ∈ calls, c.keeps (run history {}).mark := by decide
  exact ⟨h, by decide, by decide, rollbackTo_mark_run history calls h⟩
/-! ### Operations alone -/

lemma Leads.refl (s : Store) : Leads s s := ⟨[], by simp, rfl⟩

lemma Leads.trans {t u : Store} (h : Leads s t) (h' : Leads t u) : Leads s u := by
  obtain ⟨cs, hcs, rfl⟩ := h
  obtain ⟨ds, hds, rfl⟩ := h'
  refine ⟨cs ++ ds, fun c hc => ?_, List.foldl_append⟩
  rcases List.mem_append.1 hc with hc | hc
  · exact hcs c hc
  · exact hds c hc

lemma leads_call {c : Call} (hc : c.isChange) (s : Store) : Leads s (c.run s) :=
  ⟨[c], by simpa using hc, rfl⟩

lemma Call.keeps_of_isChange {c : Call} (h : c.isChange) (m : Nat) : c.keeps m := by
  cases c with
  | commit => simp [isChange] at h
  | rollbackTo k => simp [isChange] at h
  | _ => rfl

lemma Lawful.leads {t : Store} (hs : Lawful s) (h : Leads s t) : Lawful t := by
  obtain ⟨calls, -, rfl⟩ := h
  exact hs.run calls

/-- **What operations did is undone by going back to where they started.** -/
theorem Leads.undone {t : Store} (h : Leads s t) (hs : Lawful s) :
    t.rollbackTo s.mark = s.reframe t.nextNode t.nextRel s.journal := by
  obtain ⟨calls, hc, rfl⟩ := h
  have := rollbackTo_run hs le_rfl fun c hmem => Call.keeps_of_isChange (hc c hmem) s.mark
  rwa [rollbackTo_mark] at this

/-! ### Ids -/

/-- Counters never go down, also where a run goes back. -/
lemma counters_le_call (hs : Sound s) (c : Call) :
    s.nextNode ≤ (c.run s).nextNode ∧ s.nextRel ≤ (c.run s).nextRel := by
  rcases c.run_cases hs with h | rfl | ⟨m, rfl⟩
  · exact Steps.counters_le h hs
  · exact ⟨le_rfl, le_rfl⟩
  · exact ⟨(nextNode_rollbackTo s m).ge, (nextRel_rollbackTo s m).ge⟩

lemma counters_le_run (hs : Lawful s) (calls : List Call) :
    s.nextNode ≤ (run calls s).nextNode ∧ s.nextRel ≤ (run calls s).nextRel := by
  induction calls generalizing s with
  | nil => exact ⟨le_rfl, le_rfl⟩
  | cons c calls ih =>
    have hc := counters_le_call hs.sound c
    have hcalls := ih (hs.call c)
    exact ⟨hc.1.trans hcalls.1, hc.2.trans hcalls.2⟩

/-- **The constraints hold in every run**, and no two rules of a kind share a name or what they
are on. -/
theorem unique_run (calls : List Call) :
    Unique (run calls {}) ∧ Apart (run calls {}).constraints ∧ Apart (run calls {}).indexes := by
  have hs := (lawful_empty.run calls).valid
  exact ⟨hs.unique, hs.apart .constraint, hs.apart .index⟩

end Store

end PropertyGraph
