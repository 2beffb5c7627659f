import PropertyGraph.Matching.Shortest
import PropertyGraph.Proofs.Store.Sound

/-!
Walks in a graph.

In a sound store the relationships at a node are those that start or end there, each listed
once. So the steps from a node are the relationships that lead on from it, and the walks from a
node within bounds are all walks there are, each of them once.
-/

namespace PropertyGraph

/-- A relationship leads from one node to another if it is gone along in a direction. -/
def Relationship.Joins (r : Relationship) (d : Cypher.Direction) (a b : NodeId) : Prop :=
  match d with
  | .outgoing => r.source = a ∧ r.target = b
  | .incoming => r.target = a ∧ r.source = b
  | .undirected => r.source = a ∧ r.target = b ∨ r.target = a ∧ r.source = b

lemma Relationship.Joins.otherEnd {r : Relationship} {d : Cypher.Direction} {a b : NodeId}
    (h : r.Joins d a b) : r.otherEnd a = b := by
  rw [Relationship.otherEnd]
  cases d with
  | outgoing => rw [if_pos h.1, h.2]
  | incoming =>
    obtain ⟨ha, hb⟩ := h
    split_ifs with hs
    · rw [ha, ← hb, hs]
    · exact hb
  | undirected =>
    rcases h with ⟨ha, hb⟩ | ⟨ha, hb⟩
    · rw [if_pos ha, hb]
    · split_ifs with hs
      · rw [ha, ← hb, hs]
      · exact hb

namespace Store

variable {s : Store} {d : Cypher.Direction} {P : Relationship → Prop} {a b c : NodeId}

/-- A relationship with a property leads from one node to another. -/
def Edge (s : Store) (d : Cypher.Direction) (P : Relationship → Prop) (i : RelId)
    (a b : NodeId) : Prop :=
  ∃ r, s.rel? i = some r ∧ P r ∧ r.Joins d a b

/-- A walk along relationships with a property leads from one node to another. -/
inductive WalkTo (s : Store) (d : Cypher.Direction) (P : Relationship → Prop) :
    NodeId → Walk → NodeId → Prop
  | nil (a : NodeId) : WalkTo s d P a [] a
  | cons {a b c : NodeId} {i : RelId} {w : Walk} (h : s.Edge d P i a b) (hw : WalkTo s d P b w c) :
      WalkTo s d P a ((i, b) :: w) c

/-! ### Steps -/

lemma Edge.unique {i : RelId} (hb : s.Edge d P i a b) (hc : s.Edge d P i a c) : b = c := by
  obtain ⟨r, hr, -, hb⟩ := hb
  obtain ⟨q, hq, -, hc⟩ := hc
  obtain rfl := Option.some.inj (hr.symm.trans hq)
  rw [← hb.otherEnd, hc.otherEnd]

section

variable (hs : Sound s)
include hs

/-- The relationships of which one end is known, with the other end. -/
lemma Sound.mem_ends {ids : List RelId} {near far : Relationship → NodeId}
    (hids : ∀ i, i ∈ ids ↔ ∃ r, s.rel? i = some r ∧ near r = a) {r : Relationship} :
    (r, b) ∈ (ids.filterMap s.rel?).map (fun r => (r, far r)) ↔
      s.rel? r.id = some r ∧ near r = a ∧ far r = b := by
  simp only [List.mem_map, List.mem_filterMap, Prod.mk.injEq, hids]
  constructor
  · rintro ⟨q, ⟨i, ⟨_, hi, ha⟩, hq⟩, rfl, hb⟩
    obtain rfl := Option.some.inj (hi.symm.trans hq)
    exact ⟨hs.rel_id hq ▸ hq, ha, hb⟩
  · rintro ⟨hr, ha, hb⟩
    exact ⟨r, ⟨r.id, ⟨r, hr, ha⟩, hr⟩, rfl, hb⟩

lemma Sound.mem_out {r : Relationship} :
    (r, b) ∈ ((s.relsFrom a).filterMap s.rel?).map (fun r => (r, r.target)) ↔
      s.rel? r.id = some r ∧ r.source = a ∧ r.target = b :=
  hs.mem_ends fun _ => hs.mem_relsFrom

lemma Sound.mem_into {r : Relationship} :
    (r, b) ∈ ((s.relsTo a).filterMap s.rel?).map (fun r => (r, r.source)) ↔
      s.rel? r.id = some r ∧ r.target = a ∧ r.source = b :=
  hs.mem_ends fun _ => hs.mem_relsTo

/-- **The relationships incident to a node** are those that lead on from it. -/
theorem Sound.mem_incident {r : Relationship} :
    (r, b) ∈ s.incident a d ↔ s.rel? r.id = some r ∧ r.Joins d a b := by
  cases d with
  | outgoing => exact hs.mem_out
  | incoming => exact hs.mem_into
  | undirected =>
    change _ ∈ _ ++ List.filter _ _ ↔ _
    rw [List.mem_append, List.mem_filter, hs.mem_out, hs.mem_into, Relationship.Joins]
    constructor
    · rintro (⟨hr, h⟩ | ⟨⟨hr, h⟩, -⟩)
      · exact ⟨hr, .inl h⟩
      · exact ⟨hr, .inr h⟩
    · rintro ⟨hr, h | h⟩
      · exact .inl ⟨hr, h⟩
      -- a loop is listed where it starts
      · by_cases hloop : r.source = r.target
        · exact .inl ⟨hr, hloop.trans h.1, hloop.symm.trans h.2⟩
        · exact .inr ⟨⟨hr, h⟩, by simpa using hloop⟩

lemma Sound.ids_filterMap (is : List RelId) :
    (is.filterMap s.rel?).map Relationship.id = is.filter fun i => (s.rel? i).isSome := by
  induction is with
  | nil => rfl
  | cons i is ih =>
    rcases h : s.rel? i with _ | r
    · simpa [h] using ih
    · simpa [h, hs.rel_id h] using ih

lemma Sound.nodup_incident (a : NodeId) (d : Cypher.Direction) :
    ((s.incident a d).map fun e => e.1.id).Nodup := by
  have hids (is : List RelId) (f : Relationship → NodeId) :
      ((is.filterMap s.rel?).map fun r => (r, f r)).map (fun e => e.1.id) =
        is.filter fun i => (s.rel? i).isSome := by
    rw [List.map_map, ← hs.ids_filterMap]
    rfl
  have hout := ((hs.outgoing.sorted a).imp ne_of_lt).sublist
    (List.filter_sublist (p := fun i => (s.rel? i).isSome))
  have hinto := ((hs.incoming.sorted a).imp ne_of_lt).sublist
    (List.filter_sublist (p := fun i => (s.rel? i).isSome))
  cases d with
  | outgoing => exact (hids _ Relationship.target).symm ▸ hout
  | incoming => exact (hids _ Relationship.source).symm ▸ hinto
  | undirected =>
    change (List.map _ (_ ++ List.filter _ _)).Nodup
    rw [List.map_append, List.nodup_append, hids]
    refine ⟨hout, ((hids _ Relationship.source).symm ▸ hinto).sublist
      (List.filter_sublist.map _), ?_⟩
    rintro i hi j hj rfl
    obtain ⟨⟨q, c⟩, hq, rfl⟩ := List.mem_map.1 hj
    rw [List.mem_filter, hs.mem_into] at hq
    obtain ⟨⟨hq, hqa, -⟩, hne⟩ := hq
    obtain ⟨r, hr, hra⟩ := hs.mem_relsFrom.1 (List.mem_filter.1 hi).1
    obtain rfl := Option.some.inj (hr.symm.trans hq)
    exact absurd (hra.trans hqa.symm) (by simpa using hne)

/-- **The steps from a node** are the relationships that lead on from it and are not used yet. -/
theorem Sound.mem_steps {via : Passage} {used : List RelId} {i : RelId} :
    (i, b) ∈ s.steps via used a ↔ i ∉ used ∧ s.Edge via.direction (via.accepts ·) i a b := by
  simp only [steps, List.mem_map, List.mem_filter, Prod.mk.injEq, Prod.exists]
  constructor
  · rintro ⟨r, c, ⟨hr, hok⟩, rfl, rfl⟩
    rw [hs.mem_incident] at hr
    simp only [Bool.and_eq_true, decide_eq_true_eq] at hok
    exact ⟨hok.1, r, hr.1, hok.2, hr.2⟩
  · rintro ⟨hi, r, hr, hacc, hj⟩
    obtain rfl := hs.rel_id hr
    exact ⟨r, b, ⟨hs.mem_incident.2 ⟨hr, hj⟩, by simpa using ⟨hi, hacc⟩⟩, rfl, rfl⟩

lemma Sound.nodup_steps (via : Passage) (used : List RelId) (a : NodeId) :
    ((s.steps via used a).map Prod.fst).Nodup := by
  rw [steps, List.map_map]
  exact (hs.nodup_incident a via.direction).sublist (List.filter_sublist.map _)

end

/-! ### Walks -/

namespace WalkTo

variable {w v : Walk}

lemma append (hw : s.WalkTo d P a w b) (hv : s.WalkTo d P b v c) :
    s.WalkTo d P a (w ++ v) c := by
  induction hw with
  | nil => exact hv
  | cons he _ ih => exact .cons he (ih hv)

lemma split (h : s.WalkTo d P a (w ++ v) c) : ∃ b, s.WalkTo d P a w b ∧ s.WalkTo d P b v c := by
  induction w generalizing a with
  | nil => exact ⟨a, .nil a, h⟩
  | cons e w ih =>
    cases h with
    | cons he hw =>
      obtain ⟨b, hb, hc⟩ := ih hw
      exact ⟨b, .cons he hb, hc⟩

/-- Where a walk ends is the node of its last step. -/
lemma last (h : s.WalkTo d P a w b) : (w.getLast?.map Prod.snd).getD a = b := by
  induction h with
  | nil => rfl
  | @cons a b c i w _ _ ih =>
    rw [List.getLast?_cons]
    cases hw : w.getLast? with
    | none => simpa [hw] using ih
    | some e => simpa [hw] using ih

/-- The relationships of a walk and the node where it begins determine it. -/
lemma eq_of_map_fst (hw : s.WalkTo d P a w b) (hv : s.WalkTo d P a v c)
    (h : w.map Prod.fst = v.map Prod.fst) : w = v := by
  induction hw generalizing v with
  | nil =>
    cases v with
    | nil => rfl
    | cons => simp at h
  | cons he _ ih =>
    cases hv with
    | nil => simp at h
    | cons he' hv =>
      obtain ⟨rfl, htail⟩ := List.cons.inj h
      obtain rfl := he.unique he'
      rw [ih hv htail]

end WalkTo

section

variable (hs : Sound s)
include hs

/-- **The walks from a node** are those within the bounds that take no relationship twice, and
none that is used already. -/
theorem Sound.mem_walks {via : Passage} {max min : Nat} {used : List RelId} {w : Walk} :
    w ∈ s.walks via max min used a ↔
      (∃ b, s.WalkTo via.direction (via.accepts ·) a w b) ∧ (min ≤ w.length ∧ w.length ≤ max) ∧
        (w.map Prod.fst).Nodup ∧ ∀ i ∈ w.map Prod.fst, i ∉ used := by
  induction max generalizing min used a w with
  | zero =>
    rw [walks]
    cases w with
    | nil =>
      have : ∃ b, s.WalkTo via.direction (via.accepts ·) a [] b := ⟨a, .nil a⟩
      split_ifs with hmin <;> simp [this, hmin]
    | cons e w => split_ifs <;> simp
  | succ max ih =>
    rw [walks, List.mem_append, List.mem_flatMap]
    cases w with
    | nil =>
      have : ∃ b, s.WalkTo via.direction (via.accepts ·) a [] b := ⟨a, .nil a⟩
      split_ifs with hmin <;> simp [this, hmin]
    | cons e w =>
      obtain ⟨i, b⟩ := e
      have hshort : ((i, b) :: w) ∉ (if min = 0 then [[]] else [] : List Walk) := by
        split_ifs <;> simp
      have hfirst : (∃ e ∈ s.steps via used a, (i, b) :: w ∈
          (s.walks via max (min - 1) (e.1 :: used) e.2).map (e :: ·)) ↔
          (i, b) ∈ s.steps via used a ∧ w ∈ s.walks via max (min - 1) (i :: used) b := by
        refine ⟨fun ⟨e, he, hv⟩ => ?_, fun ⟨he, hv⟩ => ⟨_, he, List.mem_map_of_mem hv⟩⟩
        obtain ⟨v, hv', h⟩ := List.mem_map.1 hv
        obtain ⟨rfl, rfl⟩ := List.cons.inj h
        exact ⟨he, hv'⟩
      rw [or_iff_right hshort, hfirst, hs.mem_steps, ih, List.map_cons, List.nodup_cons,
        List.length_cons]
      constructor
      · rintro ⟨⟨hi, he⟩, ⟨c, hw⟩, hlen, hnodup, hused⟩
        refine ⟨⟨c, .cons he hw⟩, by omega, ⟨fun h => hused _ h (by simp), hnodup⟩, ?_⟩
        intro k hk
        rcases List.mem_cons.1 hk with rfl | hk
        · exact hi
        · exact fun h => hused k hk (List.mem_cons_of_mem _ h)
      · rintro ⟨⟨c, hw⟩, hlen, ⟨hi, hnodup⟩, hused⟩
        cases hw with
        | cons he hw =>
          refine ⟨⟨hused i (by simp), he⟩, ⟨c, hw⟩, by omega, hnodup, fun k hk h => ?_⟩
          rcases List.mem_cons.1 h with rfl | h
          · exact hi hk
          · exact hused k (List.mem_cons_of_mem _ hk) h

lemma Sound.nodup_walks (via : Passage) (max min : Nat) (used : List RelId) (a : NodeId) :
    (s.walks via max min used a).Nodup := by
  induction max generalizing min used a with
  | zero => rw [walks]; split_ifs <;> simp
  | succ max ih =>
    have hstep := (hs.nodup_steps via used a).of_map
    rw [walks, List.nodup_append, List.nodup_flatMap]
    refine ⟨by split_ifs <;> simp, ⟨fun e _ => (ih _ _ _).map (List.cons_injective), ?_⟩, ?_⟩
    · refine hstep.imp fun {e f} hne => List.disjoint_left.2 fun w hw hw' => ?_
      obtain ⟨v, -, rfl⟩ := List.mem_map.1 hw
      obtain ⟨v', -, h⟩ := List.mem_map.1 hw'
      exact hne (List.cons.inj h).1.symm
    · rintro w hw v hv rfl
      obtain ⟨e, -, hv⟩ := List.mem_flatMap.1 hv
      obtain ⟨u, -, rfl⟩ := List.mem_map.1 hv
      split_ifs at hw <;> simp at hw

end

end Store

end PropertyGraph
