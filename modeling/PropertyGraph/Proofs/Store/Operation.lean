import PropertyGraph.Proofs.Store.Step

/-!
What the operations do to a sound store is a sequence of steps: none if they are refused or find
nothing to do, one for most, and several where a node is deleted with its relationships.

Creating an entity adds it under a new id, and leaves all others as they are.
-/

namespace PropertyGraph

namespace Store

variable {s t : Store}

lemma nodup_eraseDups {α : Type} [DecidableEq α] : (xs : List α) → xs.eraseDups.Nodup
  | [] => by simp
  | x :: xs => by
    rw [List.eraseDups_cons, List.nodup_cons, List.mem_eraseDups]
    exact ⟨by simp, nodup_eraseDups _⟩
termination_by xs => xs.length
decreasing_by exact Nat.lt_succ_of_le (List.length_filter_le ..)

lemma steps_createNode (labels : List String) (ps : Properties) (s : Store) :
    Steps s (createNode labels ps s).2 := by
  rw [createNode]
  cases hv : s.violation? labels.eraseDups (withoutNulls ps) none with
  | some e => exact .refl
  | none => exact .single (.createNode (nodup_eraseDups _) (wellFormed_withoutNulls ps) hv)

lemma steps_createRel (type : String) (a b : NodeId) (ps : Properties) (s : Store) :
    Steps s (createRel type a b ps s).2 := by
  rw [createRel]
  split_ifs with ha hb
  · exact .refl
  · exact .refl
  · refine .single (.createRel (wellFormed_withoutNulls ps) ?_ ?_)
    · simpa [Option.isSome_iff_ne_none] using ha
    · simpa [Option.isSome_iff_ne_none] using hb

lemma steps_removeNodeProperty (i : NodeId) (k : String) (s : Store) :
    Steps s (removeNodeProperty i k s).2 := by
  rw [removeNodeProperty]
  cases hn : s.node? i with
  | none => exact .refl
  | some n =>
    cases hk : Dict.get? n.properties k with
    | none => simp only [hk]; exact .refl
    | some old =>
      simp only [hk]
      rw [← hk]
      exact .single (.setNodeProperty (v := none) hn (by simp) (by simp))

lemma steps_setNodeProperty (i : NodeId) (k : String) (v : Value) (s : Store) :
    Steps s (setNodeProperty i k v s).2 := by
  rw [setNodeProperty]
  split_ifs with hv
  · exact steps_removeNodeProperty i k s
  · cases hn : s.node? i with
    | none => exact .refl
    | some n =>
      cases hc : s.violation? n.labels [(k, v)] (some i) with
      | some e => simp only [hc]; exact .refl
      | none =>
        simp only [hc]
        refine .single (.setNodeProperty (v := some v) hn ?_ ?_)
        · rintro ⟨⟩; exact hv rfl
        · rintro w ⟨⟩; exact hc

lemma steps_removeRelProperty (i : RelId) (k : String) (s : Store) :
    Steps s (removeRelProperty i k s).2 := by
  rw [removeRelProperty]
  cases hr : s.rel? i with
  | none => exact .refl
  | some r =>
    cases hk : Dict.get? r.properties k with
    | none => simp only [hk]; exact .refl
    | some old =>
      simp only [hk]
      rw [← hk]
      exact .single (.setRelProperty (v := none) hr (by simp))

lemma steps_setRelProperty (i : RelId) (k : String) (v : Value) (s : Store) :
    Steps s (setRelProperty i k v s).2 := by
  rw [setRelProperty]
  split_ifs with hv
  · exact steps_removeRelProperty i k s
  · cases hr : s.rel? i with
    | none => exact .refl
    | some r =>
      refine .single (.setRelProperty (v := some v) hr ?_)
      rintro ⟨⟩; exact hv rfl

lemma steps_addLabel (i : NodeId) (l : String) (s : Store) : Steps s (addLabel i l s).2 := by
  rw [addLabel]
  cases hn : s.node? i with
  | none => exact .refl
  | some n =>
    by_cases hl : l ∈ n.labels
    · simp only [hl, if_true]; exact .refl
    · simp only [hl, if_false]
      cases hc : s.violation? [l] n.properties (some i) with
      | some e => exact .refl
      | none => exact .single (.addLabel hn hl hc)

lemma steps_removeLabel (i : NodeId) (l : String) (s : Store) :
    Steps s (removeLabel i l s).2 := by
  rw [removeLabel]
  cases hn : s.node? i with
  | none => exact .refl
  | some n =>
    cases hp : n.labels.idxOf? l with
    | none => simp only [hp]; exact .refl
    | some p => simp only [hp]; exact .single (.removeLabel hn hp)

lemma steps_deleteRel (i : RelId) (s : Store) : Steps s (deleteRel i s).2 := by
  rw [deleteRel]
  cases hr : s.rel? i with
  | none => exact .refl
  | some r => exact .single (.deleteRel hr)

lemma steps_createRule (k : RuleKind) (rule : Rule) (s : Store) :
    Steps s (createRule k rule s).2 := by
  unfold createRule
  dsimp only
  split
  · exact .refl
  next h =>
    split
    · exact .refl
    next hd =>
      refine .single (.createRule h fun hk => ?_)
      rwa [if_pos hk] at hd

lemma steps_dropRule (k : RuleKind) (name : String) (s : Store) :
    Steps s (dropRule k name s).2 := by
  rw [dropRule]
  cases h : (s.rules k).find? (·.name = name) with
  | none => exact .refl
  | some rule => exact .single (.dropRule h)

/-! ### Deleting a node with its relationships -/

lemma deleteRel_rel? (hs : Sound s) (i j : RelId) :
    (deleteRel i s).2.rel? j = if i = j then none else s.rel? j := by
  rw [deleteRel]
  cases hr : s.rel? i with
  | none =>
    split_ifs with hj
    · rw [← hj, hr]
    · rfl
  | some r =>
    obtain rfl := hs.rel_id hr
    exact rel?_unlinkRel s r j

/-- Deletes some relationships, one after the other. -/
def deleteRels (is : List RelId) (s : Store) : Store := is.foldl (fun s i => (deleteRel i s).2) s

lemma steps_deleteRels (is : List RelId) (s : Store) : Steps s (deleteRels is s) := by
  induction is generalizing s with
  | nil => exact .refl
  | cons i is ih => exact (steps_deleteRel i s).trans (ih _)

lemma deleteRels_rel? (hs : Sound s) (is : List RelId) (j : RelId) :
    (deleteRels is s).rel? j = if j ∈ is then none else s.rel? j := by
  induction is generalizing s with
  | nil => simp [deleteRels]
  | cons i is ih =>
    have := ih ((steps_deleteRel i s).sound hs)
    rw [deleteRel_rel? hs] at this
    refine Eq.trans this ?_
    by_cases hj : j ∈ is
    · simp [hj]
    · by_cases hi : i = j
      · simp [hi]
      · simp [hj, hi, Ne.symm hi]

lemma deleteRels_node? (is : List RelId) (s : Store) (j : NodeId) :
    (deleteRels is s).node? j = s.node? j := by
  induction is generalizing s with
  | nil => rfl
  | cons i is ih =>
    refine (ih _).trans ?_
    cases hr : s.rel? i with
    | none => simp [deleteRel, hr]
    | some r => simp [deleteRel, hr]; rfl

lemma Sound.mem_relsAt (hs : Sound s) {a : NodeId} {i : RelId} :
    i ∈ s.relsAt a ↔ s.Leaves i a ∨ s.Enters i a := by
  rw [relsAt, List.mem_append, List.mem_filter, decide_eq_true_eq, ← hs.mem_relsFrom,
    ← hs.mem_relsTo]
  tauto

lemma steps_deleteNode (hs : Sound s) (i : NodeId) (detach : Bool) :
    Steps s (deleteNode i detach s).2 := by
  rw [deleteNode]
  cases hn : s.node? i with
  | none => exact .refl
  | some n =>
    change Steps s (ite _ _ (_, ((deleteRels (s.relsAt i) s).unlinkNode n).record _)).2
    split_ifs with hd
    · exact .refl
    · have ht := (steps_deleteRels (s.relsAt i) s).sound hs
      -- a relationship at the node was there before, and so is deleted
      have hgone {j : RelId} {r : Relationship} (h : (deleteRels (s.relsAt i) s).rel? j = some r) :
          s.rel? j = some r ∧ j ∉ s.relsAt i := by
        rw [deleteRels_rel? hs] at h
        split_ifs at h with hj
        exact ⟨h, hj⟩
      refine (steps_deleteRels _ s).tail (.deleteNode ((deleteRels_node? _ s i).trans hn) ⟨?_, ?_⟩)
      · refine List.eq_nil_iff_forall_not_mem.2 fun j hj => ?_
        obtain ⟨r, hr, ha⟩ := ht.mem_relsFrom.1 hj
        obtain ⟨hr, hne⟩ := hgone hr
        exact hne (hs.mem_relsAt.2 (.inl ⟨r, hr, ha⟩))
      · refine List.eq_nil_iff_forall_not_mem.2 fun j hj => ?_
        obtain ⟨r, hr, hb⟩ := ht.mem_relsTo.1 hj
        obtain ⟨hr, hne⟩ := hgone hr
        exact hne (hs.mem_relsAt.2 (.inr ⟨r, hr, hb⟩))

end Store

/-! ### Growth -/

namespace Store

/-- The entities of a graph are also those of another one. -/
structure Grows (s t : Store) : Prop where
  node? : ∀ {i n}, s.node? i = some n → t.node? i = some n
  rel? : ∀ {i r}, s.rel? i = some r → t.rel? i = some r

variable {s t u : Store}

lemma Grows.refl (s : Store) : Grows s s := ⟨id, id⟩

lemma Grows.trans (h : Grows s t) (h' : Grows t u) : Grows s u :=
  ⟨fun hn => h'.node? (h.node? hn), fun hr => h'.rel? (h.rel? hr)⟩

/-- Properties that are known are stored as they are. -/
lemma withoutNulls_eq_self {ps : Properties} (hps : Dict.Ascending ps)
    (h : ∀ e ∈ ps, e.2.isNull = false) : withoutNulls ps = ps := by
  rw [withoutNulls, List.filter_eq_self.2 fun e he => by simp [h e he], Dict.ofList_eq_self hps]

/-- **What creating a node has done.** -/
structure CreatedNode (s : Store) (labels : List String) (ps : Properties) (i : NodeId)
    (t : Store) : Prop where
  sound : Sound t
  grows : Grows s t
  node? : t.node? i = some ⟨i, labels.eraseDups, withoutNulls ps⟩
  nextRel : t.nextRel = s.nextRel

lemma createNode_eq_ok (hs : Sound s) {labels : List String} {ps : Properties} {i : NodeId}
    (h : createNode labels ps s = (.ok i, t)) : CreatedNode s labels ps i t := by
  have hsound := (steps_createNode labels ps s).sound hs
  rw [h] at hsound
  rw [createNode] at h
  cases hv : s.violation? labels.eraseDups (withoutNulls ps) none with
  | some e => simp [hv] at h
  | none =>
    simp only [hv, Prod.mk.injEq, Except.ok.injEq] at h
    obtain ⟨rfl, rfl⟩ := h
    let u : Store := { s with nextNode := s.nextNode + 1 }
    let n : Node := ⟨s.nextNode, labels.eraseDups, withoutNulls ps⟩
    have hnode (j : NodeId) := node?_linkNode u n j
    refine ⟨hsound, ⟨fun {j m} hj => ?_, fun {j r} hj => ?_⟩, ?_, ?_⟩
    · have hne : n.id ≠ j := fun he => (hs.node_lt hj).ne he.symm
      exact (hnode j).trans ((if_neg hne).trans hj)
    · exact (rel?_linkNode u n j).trans hj
    · exact (hnode n.id).trans (if_pos rfl)
    · rw [linkNode_eq]
      rfl

/-- **What creating a relationship has done.** -/
structure CreatedRel (s : Store) (type : String) (a b : NodeId) (ps : Properties) (i : RelId)
    (t : Store) : Prop where
  sound : Sound t
  grows : Grows s t
  source : (s.node? a).isSome
  target : (s.node? b).isSome
  rel? : t.rel? i = some ⟨i, type, a, b, withoutNulls ps⟩
  new : i = s.nextRel
  nextRel : t.nextRel = s.nextRel + 1

lemma createRel_eq_ok (hs : Sound s) {type : String} {a b : NodeId} {ps : Properties} {i : RelId}
    (h : createRel type a b ps s = (.ok i, t)) : CreatedRel s type a b ps i t := by
  have hsound := (steps_createRel type a b ps s).sound hs
  rw [h] at hsound
  rw [createRel] at h
  split_ifs at h with ha hb
  · cases (Prod.mk.inj h).1
  · cases (Prod.mk.inj h).1
  · simp only [Prod.mk.injEq, Except.ok.injEq] at h
    obtain ⟨rfl, rfl⟩ := h
    let u : Store := { s with nextRel := s.nextRel + 1 }
    let r : Relationship := ⟨s.nextRel, type, a, b, withoutNulls ps⟩
    have hrel (j : RelId) := rel?_linkRel u r j
    refine ⟨hsound, ⟨id, fun {j q} hj => ?_⟩, ?_, ?_, (hrel r.id).trans (if_pos rfl), rfl, rfl⟩
    · have hne : r.id ≠ j := fun he => (hs.rel_lt hj).ne he.symm
      exact (hrel j).trans ((if_neg hne).trans hj)
    · simpa [Option.isSome_iff_ne_none] using ha
    · simpa [Option.isSome_iff_ne_none] using hb

end Store

end PropertyGraph
