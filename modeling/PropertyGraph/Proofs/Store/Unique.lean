import Mathlib.Data.List.Pairwise
import PropertyGraph.Proofs.Store.Rollback

/-!
Uniqueness: no two nodes of a constrained label have the same value of the constrained property,
and no two rules of a kind share their name or what they are on.

Each step that gives a node a label or a value has checked that the node does not clash with
any other; all other steps give nothing to any node.
-/

namespace PropertyGraph

namespace Value

mutual

lemma same_comm (a b : Value) : a.same b = b.same a := by
  cases a <;> cases b <;> simp only [same]
  · exact Bool.beq_comm
  · rename_i a b
    rw [Bool.eq_iff_iff, Number.equals_iff, Number.equals_iff]
    tauto
  · exact Bool.beq_comm
  · exact sameItems_comm _ _
  · exact sameEntries_comm _ _
  · exact Bool.beq_comm
  · exact Bool.beq_comm
  · exact Bool.beq_comm

lemma sameItems_comm (a b : List Value) : sameItems a b = sameItems b a := by
  match a, b with
  | [], [] => rfl
  | [], _ :: _ => rfl
  | _ :: _, [] => rfl
  | x :: xs, y :: ys => rw [sameItems, sameItems, same_comm x y, sameItems_comm xs ys]

lemma sameEntries_comm (a b : List (String × Value)) : sameEntries a b = sameEntries b a := by
  match a, b with
  | [], [] => rfl
  | [], _ :: _ => rfl
  | _ :: _, [] => rfl
  | (j, x) :: xs, (k, y) :: ys =>
    rw [sameEntries, sameEntries, same_comm x y, sameEntries_comm xs ys, Bool.beq_comm]

end

end Value

namespace Store

variable {s t : Store}

/-- A node has the label that a rule is on, and a value of its property. -/
def Carries (s : Store) (c : Rule) (i : NodeId) (v : Value) : Prop :=
  ∃ n, s.node? i = some n ∧ c.label ∈ n.labels ∧ Dict.get? n.properties c.property = some v

/-- Every constraint holds. -/
def Unique (s : Store) : Prop :=
  ∀ c ∈ s.constraints, ∀ i j v w, i ≠ j → s.Carries c i v → s.Carries c j w → v.same w = false

/-- No two rules share their name, or what they are on. -/
def Apart (rules : List Rule) : Prop :=
  rules.Pairwise fun r q => r.name ≠ q.name ∧ ¬ (r.label = q.label ∧ r.property = q.property)

/-- Nothing but one node carries more than before, and what it carries clashes with nothing. -/
lemma Unique.of_new (hs : Unique s) (hc : t.constraints ⊆ s.constraints) (i : NodeId)
    (h : ∀ c ∈ t.constraints, ∀ j w, t.Carries c j w →
      s.Carries c j w ∨ j = i ∧ ∀ j' w', j' ≠ i → s.Carries c j' w' → w'.same w = false) :
    Unique t := by
  intro c hmem j j' w w' hne hw hw'
  rcases h c hmem j w hw with hold | ⟨rfl, hnew⟩
  · rcases h c hmem j' w' hw' with hold' | ⟨rfl, hnew'⟩
    · exact hs c (hc hmem) j j' w w' hne hold hold'
    · exact hnew' j w hne hold
  · rcases h c hmem j' w' hw' with hold' | ⟨rfl, -⟩
    · rw [Value.same_comm]; exact hnew j' w' hne.symm hold'
    · exact absurd rfl hne

lemma Unique.of_old (hs : Unique s) (hc : t.constraints ⊆ s.constraints)
    (h : ∀ c i v, t.Carries c i v → s.Carries c i v) : Unique t :=
  hs.of_new hc 0 fun c _ j w hw => .inl (h c j w hw)

lemma Unique.of_nodes (hs : Unique s) (hc : t.constraints = s.constraints)
    (h : ∀ i, t.node? i = s.node? i) : Unique t :=
  hs.of_old (by rw [hc]; exact fun _ h => h) fun c i v hv => by simpa only [Carries, h] using hv

/-- What the check for clashes says of a store whose label lists are right. -/
lemma clash?_eq_none (hs : Sound s) {c : Rule} (hc : c ∈ s.constraints) {v : Value}
    {except : Option NodeId} (h : s.clash? c.label c.property v except = none) {i : NodeId}
    {w : Value} (hi : some i ≠ except) (hw : s.Carries c i w) : w.same v = false := by
  obtain ⟨n, hn, hl, hp⟩ := hw
  have hcon : s.isConstrained c.label c.property = true := by
    rw [isConstrained, List.any_eq_true]
    exact ⟨c, hc, by simp⟩
  rw [clash?, if_pos hcon, List.find?_eq_none] at h
  have := h i (hs.mem_nodesWith.2 ⟨n, hn, hl⟩)
  simpa [hi, nodeProperties, hn, hp] using this

/-- A clash comes from a constraint, and from a node that it finds. -/
lemma exists_of_clash? (hs : Sound s) {l k : String} {v : Value} {except : Option NodeId}
    {j : NodeId} (h : s.clash? l k v except = some j) :
    ∃ c ∈ s.constraints, c.property = k ∧ c.label = l ∧ some j ≠ except ∧
      ∃ w, s.Carries c j w ∧ w.same v := by
  rw [clash?] at h
  split_ifs at h with hc
  obtain ⟨c, hmem, hrule⟩ := List.any_eq_true.1 hc
  obtain ⟨rfl, rfl⟩ : c.label = l ∧ c.property = k := by simpa using hrule
  have hj := List.find?_some h
  obtain ⟨n, hn, hl⟩ := hs.mem_nodesWith.1 (List.mem_of_find?_eq_some h)
  rw [Bool.and_eq_true, nodeProperties, hn] at hj
  obtain ⟨w, hw, hsame⟩ := (Option.any_eq_true _ _).1 hj.2
  exact ⟨c, hmem, rfl, rfl, by simpa using hj.1, w, ⟨n, hn, hl, hw⟩, hsame⟩

lemma violation?_eq_none {labels : List String} {ps : Properties} {except : Option NodeId}
    (h : s.violation? labels ps except = none) {l k : String} {v : Value} (hl : l ∈ labels)
    (hp : (k, v) ∈ ps) : s.clash? l k v except = none := by
  rw [violation?, List.findSome?_eq_none_iff] at h
  have := List.findSome?_eq_none_iff.1 (h l hl) (k, v) hp
  simpa using this

/-! ### Values that occur once -/

lemma pairwise_of_firstRepeat? {seen xs : List (NodeId × Value)}
    (h : firstRepeat? seen xs = none) :
    xs.Pairwise (fun a b => a.2.same b.2 = false) ∧
      ∀ a ∈ seen, ∀ b ∈ xs, a.2.same b.2 = false := by
  induction xs generalizing seen with
  | nil => simp
  | cons x xs ih =>
    obtain ⟨i, v⟩ := x
    rw [firstRepeat?] at h
    cases hf : seen.find? (·.2.same v) with
    | some e => simp [hf] at h
    | none =>
      simp only [hf] at h
      obtain ⟨hpair, hseen⟩ := ih h
      have hv (a : NodeId × Value) (ha : a ∈ seen) : a.2.same v = false := by
        simpa using List.find?_eq_none.1 hf a ha
      refine ⟨List.pairwise_cons.2 ⟨fun b hb => hseen (i, v) (by simp) b hb, hpair⟩, ?_⟩
      intro a ha b hb
      rcases List.mem_cons.1 hb with rfl | hb
      · exact hv a ha
      · exact hseen a (List.mem_append_left _ ha) b hb

/-- A label and a property without a repeated value satisfy a constraint. -/
lemma duplicate?_eq_none (hs : Sound s) {c : Rule} (h : s.duplicate? c.label c.property = none)
    {i j : NodeId} {v w : Value} (hne : i ≠ j) (hv : s.Carries c i v) (hw : s.Carries c j w) :
    v.same w = false := by
  have hmem {i : NodeId} {v : Value} (hv : s.Carries c i v) : (i, v) ∈
      (s.nodesWith c.label).filterMap fun i =>
        (Dict.get? (s.nodeProperties i) c.property).map fun v => (i, v) := by
    obtain ⟨n, hn, hl, hp⟩ := hv
    refine List.mem_filterMap.2 ⟨i, hs.mem_nodesWith.2 ⟨n, hn, hl⟩, ?_⟩
    simp [nodeProperties, hn, hp]
  have hsymm : Std.Symm fun a b : NodeId × Value => a.2.same b.2 = false :=
    ⟨fun a b hab => by rw [Value.same_comm]; exact hab⟩
  have hpair : (i, v) ≠ (j, w) := fun h => hne (Prod.mk.inj h).1
  exact (pairwise_of_firstRepeat? h).1.forall (hmem hv) (hmem hw) hpair

/-! ### Steps -/

/-- One node is replaced, and where it carries more than before nothing clashes with it. -/
lemma Unique.of_replace (hs : Sound s) (hu : Unique s) (hc : t.constraints = s.constraints)
    {i : NodeId} {n : Node} {f : Node → Node} (hn : s.node? i = some n)
    (hnode : ∀ j, t.node? j = if i = j then (s.node? j).map f else s.node? j)
    (h : ∀ c v, s.constraints.contains c → c.label ∈ (f n).labels →
      Dict.get? (f n).properties c.property = some v →
      (c.label ∈ n.labels ∧ Dict.get? n.properties c.property = some v) ∨
        s.clash? c.label c.property v (some i) = none) : Unique t := by
  refine hu.of_new (fun _ h => hc ▸ h) i fun c hmem j v hv => ?_
  obtain ⟨m, hm, hl, hp⟩ := hv
  rw [hnode] at hm
  split_ifs at hm with hj
  · subst hj
    rw [hn] at hm
    obtain rfl := Option.some.inj hm
    rw [hc] at hmem
    rcases h c v (by simpa using hmem) hl hp with ⟨hl, hp⟩ | hclash
    · exact .inl ⟨n, hn, hl, hp⟩
    · exact .inr ⟨rfl, fun j w hne hw => clash?_eq_none hs hmem hclash (by simpa using hne) hw⟩
  · exact .inl ⟨m, hm, hl, hp⟩

/-- **Every step keeps the constraints.** -/
theorem Step.unique (hs : Sound s) (hu : Unique s) (h : Step s t) : Unique t := by
  cases h with
  | @createNode ls ps hl hp hv =>
    let n : Node := ⟨s.nextNode, ls, ps⟩
    let u : Store := { s with nextNode := s.nextNode + 1 }
    have hc : (u.linkNode n).constraints ⊆ s.constraints := by
      rw [linkNode_eq]; exact List.Subset.refl _
    refine hu.of_new hc s.nextNode fun c hmem j w hw => ?_
    obtain ⟨m, hm, hl, hp⟩ := hw
    replace hm := (node?_linkNode u n j).symm.trans hm
    split_ifs at hm with hj
    · obtain rfl := Option.some.inj hm
      have hclash := violation?_eq_none hv hl (Dict.mem_of_get? hp)
      exact .inr ⟨hj.symm, fun j' w' _ hw' => clash?_eq_none hs (hc hmem) hclash (by simp) hw'⟩
    · exact .inl ⟨m, hm, hl, hp⟩
  | createRel _ _ _ => exact hu.of_nodes rfl fun _ => rfl
  | @setNodeProperty i n k v hn h₀ hv =>
    let f (n : Node) : Node := { n with properties := restore n.properties k v }
    refine hu.of_replace hs rfl (f := f) hn (fun j => node?_mapNode s f i j) fun c w _ hl hp => ?_
    by_cases hk : k = c.property
    · subst hk
      obtain rfl : v = some w := by simpa [f, get?_restore] using hp
      exact .inr (violation?_eq_none (hv w rfl) hl (by simp))
    · exact .inl ⟨hl, by simpa [f, get?_restore, hk] using hp⟩
  | setRelProperty _ _ => exact hu.of_nodes rfl fun _ => rfl
  | @addLabel i n l hn hl hv =>
    let f (n : Node) : Node := { n with labels := n.labels ++ [l] }
    refine hu.of_replace hs rfl (f := f) hn (fun j => node?_mapNode s f i j) fun c w _ hl hp => ?_
    rcases List.mem_append.1 hl with hold | hnew
    · exact .inl ⟨hold, hp⟩
    · exact .inr (violation?_eq_none hv hnew (Dict.mem_of_get? hp))
  | @removeLabel i n l p hn hp =>
    let f (n : Node) : Node := { n with labels := n.labels.eraseIdx p }
    refine hu.of_replace hs rfl (f := f) hn (fun j => node?_mapNode s f i j) fun c w _ hl hp => ?_
    exact .inl ⟨List.mem_of_mem_eraseIdx hl, hp⟩
  | deleteRel _ => exact hu.of_nodes rfl fun _ => rfl
  | @deleteNode i n hn hfree =>
    have hc : (s.unlinkNode n).constraints ⊆ s.constraints := by
      rw [unlinkNode_eq]; exact List.Subset.refl _
    refine hu.of_old hc fun c j w hw => ?_
    obtain ⟨m, hm, hl, hw⟩ := hw
    replace hm := (node?_unlinkNode s n j).symm.trans hm
    split_ifs at hm
    exact ⟨m, hm, hl, hw⟩
  | @createRule k rule h hd =>
    cases k with
    | index => exact hu.of_nodes rfl fun _ => rfl
    | constraint =>
      intro c hc i j v w hne hv hw
      rcases List.mem_append.1 hc with hc | hc
      · exact hu c hc i j v w hne hv hw
      · rw [List.mem_singleton.1 hc] at hv hw
        exact duplicate?_eq_none hs (hd rfl) hne hv hw
  | @dropRule k name rule h =>
    cases k with
    | index => exact hu.of_nodes rfl fun _ => rfl
    | constraint =>
      exact hu.of_old (fun _ h => List.mem_of_mem_eraseIdx h) fun _ _ _ hv => hv

/-- **Every step keeps the rules of each kind apart.** -/
theorem Step.apart (h : Step s t) (k : RuleKind) (ha : Apart (s.rules k)) : Apart (t.rules k) := by
  cases h with
  | createNode _ _ _ => rw [linkNode_eq]; cases k <;> exact ha
  | deleteNode _ _ => rw [unlinkNode_eq]; cases k <;> exact ha
  | @createRule kind rule h _ =>
    by_cases hk : kind = k
    · subst hk
      have hnew : Apart (s.rules kind ++ [rule]) := by
        refine List.pairwise_append.2 ⟨ha, List.pairwise_singleton .., fun r hr q hq => ?_⟩
        rw [List.mem_singleton.1 hq]
        simpa [inTheWay] using List.find?_eq_none.1 h r hr
      cases kind <;> exact hnew
    · cases kind <;> cases k <;> first | exact absurd rfl hk | exact ha
  | @dropRule kind name rule h =>
    by_cases hk : kind = k
    · subst hk
      have hless (p : Nat) : Apart ((s.rules kind).eraseIdx p) :=
        ha.sublist (List.eraseIdx_sublist ..)
      cases kind <;> exact hless _
    · cases kind <;> cases k <;> first | exact absurd rfl hk | exact ha
  | _ => cases k <;> exact ha

end Store

end PropertyGraph
