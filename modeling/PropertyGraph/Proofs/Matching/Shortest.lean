import PropertyGraph.Proofs.Matching.Walk
import PropertyGraph.Proofs.Store.Run

/-!
A search gives the shortest of all paths that it admits.

The beginnings of a shortest path are on the levels one after the other: nothing on the path can
have been met on an earlier level, since that would give a shorter path. So the first level with
an arrival holds all shortest paths, and everything else that arrives there is as short.
-/

namespace PropertyGraph

namespace Path

/-- The path that a walk goes along from a node. -/
def ofWalk (a : NodeId) (w : Walk) : Path := (single a).extend w

variable {a b : NodeId} {v w : Walk}

@[simp] lemma nodes_ofWalk (a : NodeId) (w : Walk) : (ofWalk a w).nodes = a :: w.map Prod.snd := rfl

@[simp] lemma length_ofWalk (a : NodeId) (w : Walk) : (ofWalk a w).length = w.length := by
  simp [ofWalk, extend, single, length]

lemma extend_ofWalk (a : NodeId) (v w : Walk) : (ofWalk a v).extend w = ofWalk a (v ++ w) := by
  simp [ofWalk, extend]

lemma ofWalk_inj : ofWalk a v = ofWalk a w ↔ v = w := by
  refine ⟨fun h => ?_, fun h => h ▸ rfl⟩
  have hnodes : v.map Prod.snd = w.map Prod.snd := (List.cons.inj (congrArg nodes h)).2
  have hrels : v.map Prod.fst = w.map Prod.fst := congrArg rels h
  rw [← List.zip_unzip v, ← List.zip_unzip w, List.unzip_eq_map, List.unzip_eq_map, hnodes, hrels]

lemma last?_ofWalk {s : Store} {d : Cypher.Direction} {P : Relationship → Prop}
    (h : s.WalkTo d P a w b) : (ofWalk a w).last? = some b := by
  rw [last?, nodes_ofWalk, List.getLast?_cons, List.getLast?_map, h.last]

end Path

/-! ### Leaving out loops -/

namespace Store.WalkTo

variable {s : Store} {d : Cypher.Direction} {P : Relationship → Prop} {a b c : NodeId} {w : Walk}

/-- From any node of a walk on, the rest of it leads to its end. -/
lemma exists_suffix (h : s.WalkTo d P b w c) (ha : a ∈ b :: w.map Prod.snd) :
    ∃ v, s.WalkTo d P a v c ∧ (a :: v.map Prod.snd) <:+ (b :: w.map Prod.snd) := by
  induction h with
  | nil b => exact ⟨[], by rw [List.mem_singleton.1 ha]; exact .nil b, by simp_all⟩
  | @cons b b' c i w he hw ih =>
    rcases List.mem_cons.1 ha with rfl | ha
    · exact ⟨(i, b') :: w, .cons he hw, List.suffix_refl _⟩
    · obtain ⟨v, hv, hsuffix⟩ := ih ha
      exact ⟨v, hv, hsuffix.trans (List.suffix_cons _ _)⟩

/-- **Where there is a walk, there is one that repeats no node** and is no longer. -/
theorem exists_nodup (h : s.WalkTo d P a w b) :
    ∃ v, s.WalkTo d P a v b ∧ (a :: v.map Prod.snd).Nodup ∧ v.length ≤ w.length := by
  induction h with
  | nil a => exact ⟨[], .nil a, by simp, le_rfl⟩
  | @cons a c b i w he _ ih =>
    obtain ⟨v, hv, hnodup, hlen⟩ := ih
    by_cases ha : a ∈ c :: v.map Prod.snd
    · obtain ⟨u, hu, hsuffix⟩ := hv.exists_suffix ha
      have hle := hsuffix.length_le
      simp only [List.length_cons, List.length_map] at hle
      exact ⟨u, hu, hnodup.sublist hsuffix.sublist, by simp only [List.length_cons]; omega⟩
    · exact ⟨(i, c) :: v, .cons he hv, List.nodup_cons.2 ⟨ha, hnodup⟩, by simpa using hlen⟩

end Store.WalkTo

namespace Search

variable {s : Search} {start : NodeId}

/-- A walk along what the search may go along. -/
abbrev WalkTo (s : Search) : NodeId → Walk → NodeId → Prop :=
  s.store.WalkTo s.via.direction (s.via.accepts ·)

/-- A path from a node to the target that repeats no node, with as many relationships as the
bounds allow. -/
structure Admits (s : Search) (start : NodeId) (p : Path) : Prop where
  walk : ∃ w, p = .ofWalk start w ∧ s.WalkTo start w s.target
  nodup : p.nodes.Nodup
  min_le : s.min ≤ p.length
  le_max : p.length ≤ s.max

/-- A path that is admitted, and no other is shorter. -/
def Shortest (s : Search) (start : NodeId) (p : Path) : Prop :=
  s.Admits start p ∧ ∀ q, s.Admits start q → p.length ≤ q.length

lemma Admits.exists_shortest {q : Path} (h : s.Admits start q) :
    ∃ p, s.Shortest start p ∧ p.length ≤ q.length := by
  classical
  have hex : ∃ n p, s.Admits start p ∧ p.length = n := ⟨_, q, h, rfl⟩
  obtain ⟨p, hp, hlen⟩ := Nat.find_spec hex
  have hle {q : Path} (hq : s.Admits start q) : p.length ≤ q.length :=
    hlen.le.trans (Nat.find_min' hex ⟨q, hq, rfl⟩)
  exact ⟨p, ⟨hp, fun _ => hle⟩, hle h⟩

/-- A path of some length has left its start, and does not come back there. -/
lemma Admits.start_ne {w : Walk} (h : s.Admits start (.ofWalk start w)) (hw : w ≠ []) :
    start ≠ s.target := by
  obtain ⟨v, hv, hwalk⟩ := h.walk
  obtain rfl := Path.ofWalk_inj.1 hv
  have hlast := hwalk.last
  rw [List.getLast?_eq_some_getLast hw] at hlast
  rintro rfl
  refine (List.nodup_cons.1 h.nodup).1 ?_
  exact hlast ▸ List.mem_map_of_mem (List.getLast_mem hw)

/-- **Where a search prunes, no node of a shortest path can be reached in fewer steps** than the
path takes. -/
theorem Shortest.not_sooner (hp : s.prunes) {v w u : Walk} {b : NodeId} {e : RelId × NodeId}
    (h : s.Shortest start (.ofWalk start (v ++ e :: w))) (hb : b = e.2) (hu : s.WalkTo start u b) :
    v.length < u.length := by
  obtain ⟨t, ht, hwalk⟩ := h.1.walk
  obtain rfl := Path.ofWalk_inj.1 ht
  have hne : start ≠ s.target := h.1.start_ne (by simp)
  rw [List.append_cons] at hwalk
  obtain ⟨c, hc, hrest⟩ := hwalk.split
  have : c = b := by rw [← hc.last, hb]; simp
  subst this
  obtain ⟨x, hx, hnodup, hlen⟩ := (hu.append hrest).exists_nodup
  have hpos : 0 < x.length := by
    rcases x with _ | ⟨f, x⟩
    · cases hx; exact absurd rfl hne
    · simp
  have hmin : s.min ≤ 1 := by simpa [prunes] using hp
  have hmax := h.1.le_max
  simp only [Path.length_ofWalk, List.length_append, List.length_cons] at hmax hlen
  by_contra hle
  have hshort := h.2 (.ofWalk start x) ⟨⟨x, rfl, hx⟩, hnodup, by simp; omega, by simp; omega⟩
  simp only [Path.length_ofWalk, List.length_append, List.length_cons] at hshort
  omega

/-! ### Levels -/

/-- What a search knows when it comes to a level: the beginnings of that length of all shortest
paths are there, and what was met can be reached by then. -/
structure Level (s : Search) (start : NodeId) (depth : Nat) (seen : List NodeId)
    (frontier : List Path) : Prop where
  nodup : frontier.Nodup
  simple : ∀ p ∈ frontier, ∃ w b, p = .ofWalk start w ∧ s.WalkTo start w b ∧ p.nodes.Nodup ∧
    w.length = depth
  seen : ∀ b ∈ seen, ∃ w, s.WalkTo start w b ∧ w.length ≤ depth
  complete : ∀ w, s.Shortest start (.ofWalk start w) → depth ≤ w.length →
    .ofWalk start (w.take depth) ∈ frontier

lemma level_zero (s : Search) (start : NodeId) : s.Level start 0 [start] [Path.single start] where
  nodup := by simp
  simple p hp := by
    obtain rfl := List.mem_singleton.1 hp
    exact ⟨[], start, by simp [Path.ofWalk], .nil start, by simp [Path.single], rfl⟩
  seen b hb := by
    obtain rfl := List.mem_singleton.1 hb
    exact ⟨[], .nil b, le_rfl⟩
  complete w _ _ := by simp [Path.ofWalk]

lemma mem_meet {seen : List NodeId} {ps : List Path} {b : NodeId} (h : b ∈ meet seen ps) :
    b ∈ seen ∨ ∃ p ∈ ps, p.last? = some b := by
  have hfold (bs seen : List NodeId) (h : b ∈ bs.foldl (fun seen n => seen.insert n) seen) :
      b ∈ seen ∨ b ∈ bs := by
    induction bs generalizing seen with
    | nil => exact .inl h
    | cons c bs ih =>
      rcases ih _ h with h | h
      · rcases List.mem_insert_iff.1 h with rfl | h
        · exact .inr (by simp)
        · exact .inl h
      · exact .inr (List.mem_cons_of_mem _ h)
  exact (hfold _ _ h).imp_right List.mem_filterMap.1

section

variable (hs : s.store.Sound)
include hs

lemma mem_grow {seen : List NodeId} {w : Walk} {b : NodeId} (hw : s.WalkTo start w b) {q : Path} :
    q ∈ s.grow seen (.ofWalk start w) ↔ ∃ i c, q = .ofWalk start (w ++ [(i, c)]) ∧
      s.store.Edge s.via.direction (s.via.accepts ·) i b c ∧ c ∉ start :: w.map Prod.snd ∧
        (s.prunes → c ∉ seen) := by
  rw [grow, Path.last?_ofWalk hw]
  simp only [List.mem_map, List.mem_filter, Prod.exists, Path.extend_ofWalk, hs.mem_steps,
    Bool.and_eq_true, Bool.not_eq_true', Bool.and_eq_false_iff, decide_eq_true_eq,
    decide_eq_false_iff_not]
  constructor
  · rintro ⟨i, c, ⟨⟨-, he⟩, hc, hseen⟩, rfl⟩
    exact ⟨i, c, rfl, he, hc, fun hp => hseen.resolve_left (by simp [hp])⟩
  · rintro ⟨i, c, rfl, he, hc, hseen⟩
    refine ⟨i, c, ⟨⟨by simp, he⟩, hc, ?_⟩, rfl⟩
    cases hp : s.prunes with
    | false => exact .inl rfl
    | true => exact .inr (hseen hp)

lemma nodup_grow (seen : List NodeId) (w : Walk) : (s.grow seen (.ofWalk start w)).Nodup := by
  rw [grow]
  split
  · exact List.nodup_nil
  · refine ((hs.nodup_steps _ _ _).of_map.filter _).map fun e f h => ?_
    rw [Path.extend_ofWalk, Path.extend_ofWalk, Path.ofWalk_inj] at h
    simpa using h

/-- **From one level to the next.** -/
theorem Level.grow {depth : Nat} {seen : List NodeId} {frontier : List Path}
    (h : s.Level start depth seen frontier) :
    s.Level start (depth + 1) (meet seen (frontier.flatMap (s.grow seen)))
      (frontier.flatMap (s.grow seen)) := by
  have hsimple : ∀ q ∈ frontier.flatMap (s.grow seen), ∃ w b, q = .ofWalk start w ∧
      s.WalkTo start w b ∧ q.nodes.Nodup ∧ w.length = depth + 1 := by
    intro q hq
    obtain ⟨p, hp, hq⟩ := List.mem_flatMap.1 hq
    obtain ⟨w, b, rfl, hw, hnodup, hlen⟩ := h.simple p hp
    obtain ⟨i, c, rfl, he, hc, -⟩ := (mem_grow hs hw).1 hq
    refine ⟨_, c, rfl, hw.append (.cons he (.nil c)), ?_, by simp [hlen]⟩
    rw [Path.nodes_ofWalk, List.map_append, ← List.cons_append]
    refine List.nodup_append.2 ⟨hnodup, by simp, fun x hx y hy hxy => hc ?_⟩
    have hxc : x = c := hxy.trans (by simpa using hy)
    exact hxc ▸ hx
  refine ⟨?_, hsimple, ?_, ?_⟩
  · refine List.nodup_flatMap.2 ⟨fun p hp => ?_, h.nodup.imp_of_mem fun {p q} hp hq hpq => ?_⟩
    · obtain ⟨w, b, rfl, -⟩ := h.simple p hp
      exact nodup_grow hs seen w
    · obtain ⟨v, b, rfl, hv, -⟩ := h.simple p hp
      obtain ⟨w, c, rfl, hw, -⟩ := h.simple q hq
      refine List.disjoint_left.2 fun t ht ht' => hpq ?_
      obtain ⟨i, x, rfl, -⟩ := (mem_grow hs hv).1 ht
      obtain ⟨j, y, htw, -⟩ := (mem_grow hs hw).1 ht'
      rw [(List.append_inj' (Path.ofWalk_inj.1 htw) rfl).1]
  · intro b hb
    rcases mem_meet hb with hb | ⟨q, hq, hlast⟩
    · obtain ⟨w, hw, hlen⟩ := h.seen b hb
      exact ⟨w, hw, by omega⟩
    · obtain ⟨w, c, rfl, hw, -, hlen⟩ := hsimple q hq
      rw [Path.last?_ofWalk hw] at hlast
      exact ⟨w, Option.some.inj hlast ▸ hw, hlen.le⟩
  · intro w hw hle
    obtain ⟨v, hv, hwalk⟩ := hw.1.walk
    obtain rfl := Path.ofWalk_inj.1 hv
    have hcut : w.take depth ++ w[depth] :: w.drop (depth + 1) = w := by
      rw [← List.drop_eq_getElem_cons hle, List.take_append_drop]
    have htake : w.take (depth + 1) = w.take depth ++ [w[depth]] :=
      (List.take_append_getElem hle).symm
    generalize w[depth] = e at hcut htake
    obtain ⟨i, c⟩ := e
    rw [← hcut] at hwalk
    obtain ⟨b, hb, hrest⟩ := hwalk.split
    refine List.mem_flatMap.2 ⟨_, h.complete w hw (Nat.le_of_succ_le hle), (mem_grow hs hb).2 ?_⟩
    cases hrest with
    | cons he _ =>
      refine ⟨i, c, by rw [htake], he, ?_, fun hp hc => ?_⟩
      · have hnodup := hw.1.nodup
        rw [← hcut, Path.nodes_ofWalk, List.map_append, List.map_cons, ← List.cons_append] at hnodup
        exact fun hc => (List.nodup_append.1 hnodup).2.2 c hc c (by simp) rfl
      · obtain ⟨u, hu, hlen⟩ := h.seen c hc
        have := Shortest.not_sooner hp (hcut ▸ hw) rfl hu
        rw [List.length_take] at this
        omega

end

lemma arrived_ofWalk {w : Walk} {b : NodeId} (hw : s.WalkTo start w b) :
    s.arrived (.ofWalk start w) ↔ b = s.target := by
  simp [arrived, Path.last?_ofWalk hw]

variable {depth : Nat} {seen : List NodeId} {frontier : List Path}

/-- The paths that have arrived can be left out if all shortest paths are longer. -/
lemma Level.others (h : s.Level start depth seen frontier)
    (hlt : ∀ w, s.Shortest start (.ofWalk start w) → depth < w.length) :
    s.Level start depth seen (frontier.filter fun p => !s.arrived p) where
  nodup := h.nodup.filter _
  simple p hp := h.simple p (List.mem_filter.1 hp).1
  seen := h.seen
  complete w hw hle := by
    refine List.mem_filter.2 ⟨h.complete w hw hle, ?_⟩
    obtain ⟨v, hv, hwalk⟩ := hw.1.walk
    obtain rfl := Path.ofWalk_inj.1 hv
    rw [← List.take_append_drop depth w] at hwalk
    obtain ⟨b, hb, hrest⟩ := hwalk.split
    have hdrop : w.drop depth ≠ [] := by
      rw [Ne, List.drop_eq_nil_iff]
      exact not_le.2 (hlt w hw)
    -- the target is the last node of the rest, and no node is there twice
    have hne : b ≠ s.target := by
      rintro rfl
      have hlast := hrest.last
      rw [List.getLast?_eq_some_getLast hdrop] at hlast
      have hmem : s.target ∈ (w.drop depth).map Prod.snd :=
        hlast ▸ List.mem_map_of_mem (List.getLast_mem hdrop)
      have hnodup := hw.1.nodup
      rw [Path.nodes_ofWalk, ← List.take_append_drop depth w, List.map_append, ← List.cons_append]
        at hnodup
      have hlast' := Path.last?_ofWalk hb
      exact (List.nodup_append.1 hnodup).2.2 _ (List.mem_of_getLast? hlast') _ hmem rfl
    simpa using mt (arrived_ofWalk hb).1 hne

/-- What has arrived on a level is admitted. -/
lemma Level.mem_found (h : s.Level start depth seen frontier) (hmin : s.min ≤ depth)
    (hmax : depth ≤ s.max) {p : Path} (hp : p ∈ frontier.filter s.arrived) :
    s.Admits start p ∧ p.length = depth := by
  obtain ⟨hp, harr⟩ := List.mem_filter.1 hp
  obtain ⟨w, b, rfl, hw, hnodup, hlen⟩ := h.simple p hp
  obtain rfl := (arrived_ofWalk hw).1 harr
  rw [Path.length_ofWalk]
  exact ⟨⟨⟨w, rfl, hw⟩, hnodup, by simp; omega, by simp; omega⟩, hlen⟩

/-- A shortest path of a level's length has arrived there. -/
lemma Level.found_of_shortest (h : s.Level start depth seen frontier) {w : Walk}
    (hw : s.Shortest start (.ofWalk start w)) (hlen : w.length = depth) :
    .ofWalk start w ∈ frontier.filter s.arrived := by
  obtain ⟨v, hv, hwalk⟩ := hw.1.walk
  obtain rfl := Path.ofWalk_inj.1 hv
  have hmem := h.complete w hw hlen.ge
  rw [List.take_of_length_le hlen.le] at hmem
  exact List.mem_filter.2 ⟨hmem, (arrived_ofWalk hwalk).2 rfl⟩

/-- **From a level on, a search finds the shortest paths** if none is that short. -/
theorem Level.mem_levels (hs : s.store.Sound) {fuel : Nat} (h : s.Level start depth seen frontier)
    (hlt : ∀ w, s.Shortest start (.ofWalk start w) → depth < w.length)
    (hfuel : depth + fuel = s.max) :
    (s.levels fuel depth seen frontier).Nodup ∧
      ∀ p, p ∈ s.levels fuel depth seen frontier ↔ s.Shortest start p := by
  induction fuel generalizing depth seen frontier with
  | zero =>
    refine ⟨List.nodup_nil, fun p => ⟨fun hp => absurd hp List.not_mem_nil, fun hp => ?_⟩⟩
    obtain ⟨w, rfl, -⟩ := hp.1.walk
    have hlen := hlt w hp
    have hmax := hp.1.le_max
    rw [Path.length_ofWalk] at hmax
    omega
  | succ fuel ih =>
    have hg := h.grow hs
    rw [levels]
    set grown := frontier.flatMap (s.grow seen)
    by_cases hfound : (!(grown.filter s.arrived).isEmpty && decide (s.min ≤ depth + 1)) = true
    · rw [if_pos hfound]
      obtain ⟨hne, hmin⟩ : grown.filter s.arrived ≠ [] ∧ s.min ≤ depth + 1 := by
        simpa using hfound
      refine ⟨hg.nodup.filter _, fun p => ⟨fun hp => ?_, fun hp => ?_⟩⟩
      · obtain ⟨hadm, hlen⟩ := hg.mem_found hmin (by omega) hp
        refine ⟨hadm, fun q hq => ?_⟩
        obtain ⟨r, hr, hle⟩ := hq.exists_shortest
        obtain ⟨w, rfl, -⟩ := hr.1.walk
        have := hlt w hr
        rw [Path.length_ofWalk] at hle
        omega
      · obtain ⟨q, hq⟩ := List.exists_mem_of_ne_nil _ hne
        obtain ⟨hadm, hlen⟩ := hg.mem_found hmin (by omega) hq
        obtain ⟨w, rfl, -⟩ := hp.1.walk
        have hle := hp.2 q hadm
        have := hlt w hp
        rw [Path.length_ofWalk] at hle
        exact hg.found_of_shortest hp (by omega)
    · rw [if_neg hfound]
      have hlt' : ∀ w, s.Shortest start (.ofWalk start w) → depth + 1 < w.length := by
        intro w hw
        refine lt_of_le_of_ne (hlt w hw) fun hlen => hfound ?_
        have hmin := hw.1.min_le
        rw [Path.length_ofWalk, ← hlen] at hmin
        have hne := List.ne_nil_of_mem (hg.found_of_shortest hw hlen.symm)
        simpa using ⟨by simpa using hne, hmin⟩
      have ho := hg.others hlt'
      split_ifs with hnone
      · refine ⟨List.nodup_nil, fun p => ⟨fun hp => absurd hp List.not_mem_nil, fun hp => ?_⟩⟩
        obtain ⟨w, rfl, -⟩ := hp.1.walk
        have hmem := ho.complete w hp (hlt' w hp).le
        rw [List.isEmpty_iff.1 hnone] at hmem
        exact absurd hmem List.not_mem_nil
      · exact ih ho hlt' (by omega)

/-- The search that ends with the first arrival comes to the first of all shortest paths. -/
lemma first?_eq (s : Search) (fuel depth : Nat) (seen : List NodeId) (frontier : List Path) :
    s.first? fuel depth seen frontier = (s.levels fuel depth seen frontier).head? := by
  induction fuel generalizing depth seen frontier with
  | zero => rfl
  | succ fuel ih =>
    have harrival : (frontier.findSome? fun p => (s.grow seen p).find? s.arrived) =
        ((frontier.flatMap (s.grow seen)).filter s.arrived).head? := by
      rw [List.head?_filter, List.find?_flatMap]
    rw [first?, levels, harrival]
    by_cases hmin : s.min ≤ depth + 1
    · cases hfound : (frontier.flatMap (s.grow seen)).filter s.arrived with
      | nil => simp [hmin, ih, apply_ite List.head?]
      | cons p ps => simp [hmin]
    · simp [hmin, ih, apply_ite List.head?]

/-! ### Searches -/

/-- Where the start is the target, the path without relationships is the only shortest one. -/
lemma shortest_single (hmin : s.min = 0) {p : Path} :
    s.Shortest s.target p ↔ p = .single s.target := by
  have hadm : s.Admits s.target (.ofWalk s.target []) :=
    ⟨⟨[], rfl, .nil _⟩, by simp, by simp [hmin], Nat.zero_le _⟩
  constructor
  · rintro hp
    obtain ⟨w, rfl, -⟩ := hp.1.walk
    have hlen := hp.2 _ hadm
    rw [Path.length_ofWalk] at hlen
    rw [List.length_eq_zero_iff.1 (Nat.le_zero.1 hlen)]
    rfl
  · rintro rfl
    exact ⟨hadm, fun q _ => Nat.zero_le _⟩

lemma Shortest.length_pos {w : Walk} (h : ¬ (s.min = 0 ∧ start = s.target))
    (hw : s.Shortest start (.ofWalk start w)) : 0 < w.length := by
  refine List.length_pos_iff.2 fun hnil => h ?_
  subst hnil
  obtain ⟨v, hv, hwalk⟩ := hw.1.walk
  obtain rfl := Path.ofWalk_inj.1 hv
  cases hwalk
  exact ⟨Nat.le_zero.1 hw.1.min_le, rfl⟩

lemma mem_find (hs : s.store.Sound) (start : NodeId) :
    (s.find true start).Nodup ∧ ∀ p, p ∈ s.find true start ↔ s.Shortest start p := by
  rw [find]
  by_cases h : s.min = 0 ∧ start = s.target
  · obtain ⟨hmin, rfl⟩ := h
    rw [if_pos (by simp [hmin])]
    exact ⟨List.nodup_singleton _, fun p => by rw [List.mem_singleton, shortest_single hmin]⟩
  · rw [if_neg (by simpa using h), if_pos rfl]
    exact (level_zero s start).mem_levels hs (fun w hw => hw.length_pos h) (Nat.zero_add _)

lemma find_false (s : Search) (start : NodeId) :
    s.find false start = (s.find true start).take 1 := by
  rw [find, find, if_neg Bool.false_ne_true, if_pos rfl, first?_eq, ← List.take_one]
  split_ifs
  · rfl
  · rfl

/-- **A search gives the shortest of the paths that it admits**, each once, and if it is not
asked for all of them, the first. -/
theorem find_shortest (calls : List Store.Call) (via : Passage) (min max : Nat)
    (start target : NodeId) :
    let s : Search := ⟨Store.run calls {}, via, min, max, target⟩
    (s.find true start).Nodup ∧ (∀ p, p ∈ s.find true start ↔ s.Shortest start p) ∧
      s.find false start = (s.find true start).take 1 ∧
      (s.find false start = [] ↔ ∀ p, ¬ s.Admits start p) := by
  intro s
  obtain ⟨hnodup, hmem⟩ := mem_find (s := s) (Store.lawful_empty.run calls).sound start
  refine ⟨hnodup, hmem, find_false s start, ?_⟩
  rw [find_false, List.take_eq_nil_iff, or_iff_right one_ne_zero, List.eq_nil_iff_forall_not_mem]
  refine ⟨fun h p hp => ?_, fun h p hp => h p ((hmem p).1 hp).1⟩
  obtain ⟨q, hq, -⟩ := hp.exists_shortest
  exact h q ((hmem q).2 hq)

end Search

end PropertyGraph
