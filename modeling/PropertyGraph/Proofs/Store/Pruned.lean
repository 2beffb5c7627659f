import Mathlib.Data.Finset.Card
import PropertyGraph.Proofs.Store.Operation

/-!
Graphs that lose some of their nodes and relationships.

Two sets say what became of a graph, up to its journal: the nodes and the relationships that it
had and has no more. The sets of one deletion after the other add up, whatever was asked for
twice, since what a graph has lost it cannot lose again; so the order does not matter.
-/

namespace PropertyGraph

namespace Store

/-- The nodes that there are among some ids. -/
def nodesAmong (s : Store) (is : List NodeId) : Finset NodeId :=
  (is.filter fun i => (s.node? i).isSome).toFinset

/-- The relationships that there are among some ids. -/
def relsAmong (s : Store) (is : List RelId) : Finset RelId :=
  (is.filter fun i => (s.rel? i).isSome).toFinset

/-- The relationships that start or end at some nodes. -/
def touching (s : Store) (N : Finset NodeId) : Finset RelId :=
  ((Dict.keys s.rels).filter fun i =>
    (s.rel? i).any fun r => r.source ∈ N || r.target ∈ N).toFinset

/-- What has become of a graph that lost some nodes and relationships it had; all else is as it
was, but for the journal. -/
structure Loses (s : Store) (N : Finset NodeId) (R : Finset RelId) (t : Store) : Prop where
  sound : Sound t
  had_node : ∀ i ∈ N, (s.node? i).isSome
  had_rel : ∀ i ∈ R, (s.rel? i).isSome
  node? : ∀ i, t.node? i = if i ∈ N then none else s.node? i
  rel? : ∀ i, t.rel? i = if i ∈ R then none else s.rel? i
  constraints : t.constraints = s.constraints
  indexes : t.indexes = s.indexes
  nextNode : t.nextNode = s.nextNode
  nextRel : t.nextRel = s.nextRel

variable {s t u : Store} {N M : Finset NodeId} {R Q : Finset RelId}

/-! ### Sets of nodes and relationships -/

@[simp] lemma mem_nodesAmong {is : List NodeId} {i : NodeId} :
    i ∈ s.nodesAmong is ↔ i ∈ is ∧ (s.node? i).isSome := by
  simp [nodesAmong]

@[simp] lemma mem_relsAmong {is : List RelId} {i : RelId} :
    i ∈ s.relsAmong is ↔ i ∈ is ∧ (s.rel? i).isSome := by
  simp [relsAmong]

@[simp] lemma mem_touching {i : RelId} :
    i ∈ s.touching N ↔ ∃ r, s.rel? i = some r ∧ (r.source ∈ N ∨ r.target ∈ N) := by
  simp only [touching, List.mem_toFinset, List.mem_filter, Option.any_eq_true, Bool.or_eq_true,
    decide_eq_true_eq]
  refine and_iff_right_of_imp ?_
  rintro ⟨r, hr, -⟩
  exact List.mem_map_of_mem (Dict.mem_of_get? hr)

lemma nodesAmong_append (s : Store) (is js : List NodeId) :
    s.nodesAmong (is ++ js) = s.nodesAmong is ∪ s.nodesAmong js := by
  ext i
  simp [or_and_right]

lemma relsAmong_append (s : Store) (is js : List RelId) :
    s.relsAmong (is ++ js) = s.relsAmong is ∪ s.relsAmong js := by
  ext i
  simp [or_and_right]

lemma touching_union (s : Store) (N M : Finset NodeId) :
    s.touching (N ∪ M) = s.touching N ∪ s.touching M := by
  ext i
  simp only [mem_touching, Finset.mem_union]
  grind

@[simp] lemma touching_empty (s : Store) : s.touching ∅ = ∅ := by
  ext i
  simp

/-- The relationships at a node are those that touch it, each once. -/
lemma Sound.relsAt_toFinset (hs : Sound s) (a : NodeId) :
    (s.relsAt a).toFinset = s.touching {a} := by
  ext i
  rw [List.mem_toFinset, hs.mem_relsAt, mem_touching, Leaves, Enters]
  simp only [Finset.mem_singleton]
  grind

lemma Sound.nodup_relsAt (hs : Sound s) (a : NodeId) : (s.relsAt a).Nodup := by
  have hout : (s.relsFrom a).Nodup := (hs.outgoing.sorted a).imp Nat.ne_of_lt
  have hinto : (s.relsTo a).Nodup := (hs.incoming.sorted a).imp Nat.ne_of_lt
  refine List.nodup_append.2 ⟨hout, hinto.filter _, fun i hi j hj hij => ?_⟩
  obtain ⟨-, hne⟩ := List.mem_filter.1 hj
  exact of_decide_eq_true hne (hij ▸ hi)

lemma Sound.length_relsAt (hs : Sound s) (a : NodeId) :
    (s.relsAt a).length = (s.touching {a}).card := by
  rw [← hs.relsAt_toFinset, List.toFinset_card_of_nodup (hs.nodup_relsAt a)]

/-! ### Losing more -/

namespace Loses

lemma refl (hs : Sound s) : s.Loses ∅ ∅ s where
  sound := hs
  had_node := by simp
  had_rel := by simp
  node? := by simp
  rel? := by simp
  constraints := rfl
  indexes := rfl
  nextNode := rfl
  nextRel := rfl

/-- What a graph has lost it does not have any more. -/
lemma disjoint (h : s.Loses N R t) (h' : t.Loses M Q u) : Disjoint N M ∧ Disjoint R Q := by
  constructor <;> refine Finset.disjoint_left.2 fun i hi hi' => ?_
  · have := h'.had_node i hi'
    simp [h.node?, hi] at this
  · have := h'.had_rel i hi'
    simp [h.rel?, hi] at this

lemma trans (h : s.Loses N R t) (h' : t.Loses M Q u) : s.Loses (N ∪ M) (R ∪ Q) u where
  sound := h'.sound
  had_node i hi := by
    rcases Finset.mem_union.1 hi with hi | hi
    · exact h.had_node i hi
    · have := h'.had_node i hi
      rw [h.node?] at this
      by_cases hN : i ∈ N <;> simp_all
  had_rel i hi := by
    rcases Finset.mem_union.1 hi with hi | hi
    · exact h.had_rel i hi
    · have := h'.had_rel i hi
      rw [h.rel?] at this
      by_cases hR : i ∈ R <;> simp_all
  node? i := by
    rw [h'.node?, h.node?]
    by_cases hN : i ∈ N <;> by_cases hM : i ∈ M <;> simp [hN, hM]
  rel? i := by
    rw [h'.rel?, h.rel?]
    by_cases hR : i ∈ R <;> by_cases hQ : i ∈ Q <;> simp [hR, hQ]
  constraints := h'.constraints.trans h.constraints
  indexes := h'.indexes.trans h.indexes
  nextNode := h'.nextNode.trans h.nextNode
  nextRel := h'.nextRel.trans h.nextRel

/-! What a graph has lost is all that it lacks of what it could have lost at first. -/

lemma nodesAmong (h : s.Loses N R t) (is : List NodeId) :
    t.nodesAmong is = s.nodesAmong is \ N := by
  ext i
  by_cases hi : i ∈ N <;> simp [hi, h.node?]

lemma relsAmong (h : s.Loses N R t) (is : List RelId) : t.relsAmong is = s.relsAmong is \ R := by
  ext i
  by_cases hi : i ∈ R <;> simp [hi, h.rel?]

lemma touching (h : s.Loses N R t) (M : Finset NodeId) : t.touching M = s.touching M \ R := by
  ext i
  by_cases hi : i ∈ R <;> simp [hi, h.rel?]

/-- **What was lost says what is left**, up to the journal. -/
theorem commit_eq (h : s.Loses N R t) (h' : s.Loses N R u) : t.commit = u.commit := by
  have ht : Sound t.commit := h.sound.reframe le_rfl le_rfl []
  have hu : Sound u.commit := h'.sound.reframe le_rfl le_rfl []
  refine ht.ext hu (Dict.ext_get? ht.nodes hu.nodes fun i => ?_)
    (Dict.ext_get? ht.rels hu.rels fun i => ?_) ?_ ?_ ?_ ?_ rfl
  · exact (h.node? i).trans (h'.node? i).symm
  · exact (h.rel? i).trans (h'.rel? i).symm
  · exact h.constraints.trans h'.constraints.symm
  · exact h.indexes.trans h'.indexes.symm
  · exact h.nextNode.trans h'.nextNode.symm
  · exact h.nextRel.trans h'.nextRel.symm

end Loses

/-! ### Operations -/

lemma loses_deleteRel (hs : Sound s) (i : RelId) :
    s.Loses ∅ (s.relsAmong [i]) (deleteRel i s).2 where
  sound := (steps_deleteRel i s).sound hs
  had_node := by simp
  had_rel j hj := (mem_relsAmong.1 hj).2
  node? j := by simpa [deleteRels] using deleteRels_node? [i] s j
  rel? j := by
    rw [deleteRel_rel? hs]
    by_cases hj : i = j
    · subst hj
      cases hr : s.rel? i <;> simp [hr]
    · simp [hj, Ne.symm hj]
  constraints := by rw [deleteRel]; cases s.rel? i <;> rfl
  indexes := by rw [deleteRel]; cases s.rel? i <;> rfl
  nextNode := by rw [deleteRel]; cases s.rel? i <;> rfl
  nextRel := by rw [deleteRel]; cases s.rel? i <;> rfl

lemma card_relsAmong_singleton (s : Store) (i : RelId) :
    (s.relsAmong [i]).card = if (deleteRel i s).1 then 1 else 0 := by
  cases hr : s.rel? i <;> simp [relsAmong, deleteRel, hr]

lemma loses_deleteRels (hs : Sound s) (is : List RelId) :
    s.Loses ∅ (s.relsAmong is) (deleteRels is s) := by
  induction is generalizing s with
  | nil => exact .refl hs
  | cons i is ih =>
    have hi := loses_deleteRel hs i
    have := hi.trans (ih hi.sound)
    rwa [hi.relsAmong, Finset.union_sdiff_self_eq_union, ← relsAmong_append,
      Finset.empty_union] at this

/-- A node that nothing touches is taken out, and nothing with it. -/
lemma loses_unlinkNode (hs : Sound s) {n : Node} (hn : s.node? n.id = some n)
    (hfree : s.touching {n.id} = ∅) (c : Change) :
    s.Loses {n.id} ∅ ((s.unlinkNode n).record c) where
  sound := by
    have hrels : s.relsAt n.id = [] := by
      rwa [← hs.relsAt_toFinset, List.toFinset_eq_empty_iff] at hfree
    obtain ⟨hfrom, hto⟩ := List.append_eq_nil_iff.1 hrels
    rw [hfrom] at hto
    exact (hs.unlinkNode hn ⟨hfrom, by simpa using hto⟩).reframe le_rfl le_rfl _
  had_node := by simp [hn]
  had_rel := by simp
  node? i := by
    refine (node?_unlinkNode s n i).trans ?_
    simp only [Finset.mem_singleton, eq_comm]
  rel? i := by
    rw [if_neg (Finset.notMem_empty i)]
    exact rel?_unlinkNode s n i
  constraints := by rw [unlinkNode_eq]; rfl
  indexes := by rw [unlinkNode_eq]; rfl
  nextNode := by rw [unlinkNode_eq]; rfl
  nextRel := by rw [unlinkNode_eq]; rfl

/-- What deleting a node comes to: there is none, or it goes with the relationships at it, or they
are in the way. -/
inductive Deletion (s : Store) (i : NodeId) (detach : Bool) :
    Except StoreError (Option Nat) × Store → Prop
  | absent (h : s.node? i = none) : Deletion s i detach (.ok none, s)
  | gone {t : Store} (h : (s.node? i).isSome) (hfree : detach ∨ s.touching {i} = ∅)
      (ht : s.Loses {i} (s.touching {i}) t) :
      Deletion s i detach (.ok (some (s.touching {i}).card), t)
  | refused {k : Nat} (h : (s.node? i).isSome) (hd : detach = false)
      (hrels : (s.touching {i}).Nonempty) : Deletion s i detach (.error (.hasRelationships i k), s)

theorem deletion_deleteNode (hs : Sound s) (i : NodeId) (detach : Bool) :
    Deletion s i detach (deleteNode i detach s) := by
  rw [deleteNode]
  cases hn : s.node? i with
  | none => exact .absent hn
  | some n =>
    have hrels := hs.relsAt_toFinset i
    change Deletion s i detach (ite _ _ (_, ((deleteRels (s.relsAt i) s).unlinkNode n).record _))
    split_ifs with hd
    · have hd : s.relsAt i ≠ [] ∧ detach = false := by simpa using hd
      refine .refused (by simp [hn]) hd.2 ?_
      rw [← hrels]
      exact List.toFinset_nonempty_iff _ |>.2 hd.1
    · have hd : detach ∨ s.touching {i} = ∅ := by
        rw [← hrels, List.toFinset_eq_empty_iff]
        cases detach
        · exact .inr (by simpa using hd)
        · exact .inl rfl
      have hrest := loses_deleteRels hs (s.relsAt i)
      have hamong : s.relsAmong (s.relsAt i) = s.touching {i} := by
        ext j
        rw [← hrels, mem_relsAmong, List.mem_toFinset, and_iff_left_iff_imp]
        intro hj
        obtain ⟨r, hr, -⟩ | ⟨r, hr, -⟩ := hs.mem_relsAt.1 hj <;> simp [hr]
      rw [hamong] at hrest
      obtain rfl := hs.node_id hn
      have hn' : (deleteRels (s.relsAt n.id) s).node? n.id = some n := by
        rw [deleteRels_node?, hn]
      -- what still touched the node would have touched it before
      have hfree : (deleteRels (s.relsAt n.id) s).touching {n.id} = ∅ := by
        rw [hrest.touching, Finset.sdiff_self]
      have ht := hrest.trans (loses_unlinkNode hrest.sound hn' hfree (.deleteNode n))
      rw [Finset.empty_union, Finset.union_empty] at ht
      rw [hs.length_relsAt]
      exact .gone (by simp [hn]) hd ht

end Store

end PropertyGraph
