import Mathlib.Data.Finset.Card
import PropertyGraph.Proofs.Table.Grouping

/-!
The groups of rows, each of them and all of its rows.

The loop that groups rows keeps the keys that it has seen in the order in which it saw them, and
with each of them the rows of that key. So what comes out is made of the rows as a whole: their
keys without repetitions, each with the rows that have it.
-/

namespace PropertyGraph

/-! ### First occurrences -/

section

variable {α β : Type}

section

variable [BEq β] [LawfulBEq β]

lemma eraseDups_concat (xs : List β) (x : β) [Decidable (x ∈ xs)] :
    (xs ++ [x]).eraseDups = if x ∈ xs then xs.eraseDups else xs.eraseDups ++ [x] := by
  rw [List.eraseDups_append, List.removeAll, List.filter_cons, List.filter_nil, List.elem_eq_mem]
  by_cases hx : x ∈ xs <;> simp [hx, List.eraseDups_cons]

/-- Elements without repetitions are in the order of their first occurrences. -/
lemma pairwise_eraseDups (xs : List β) :
    xs.eraseDups.Pairwise fun x y => xs.idxOf x < xs.idxOf y := by
  classical
  induction xs using List.reverseRecOn with
  | nil => exact .nil
  | append_singleton xs x ih =>
    have hold : xs.eraseDups.Pairwise fun y z => (xs ++ [x]).idxOf y < (xs ++ [x]).idxOf z := by
      refine ih.imp_of_mem fun hy hz h => ?_
      rw [List.mem_eraseDups] at hy hz
      rwa [List.idxOf_append_of_mem hy, List.idxOf_append_of_mem hz]
    rw [eraseDups_concat]
    split_ifs with hx
    · exact hold
    · refine List.pairwise_append.2 ⟨hold, List.pairwise_singleton _ _, fun y hy z hz => ?_⟩
      obtain rfl := List.mem_singleton.1 hz
      rw [List.mem_eraseDups] at hy
      have hlt := List.idxOf_lt_length_iff.2 hy
      rw [List.idxOf_append_of_mem hy, List.idxOf_append, if_neg hx]
      omega

lemma nodup_eraseDups (xs : List β) : xs.eraseDups.Nodup :=
  (pairwise_eraseDups xs).imp fun h heq => absurd (heq ▸ h) (Nat.lt_irrefl _)

lemma length_eraseDups [DecidableEq β] (xs : List β) : xs.eraseDups.length = xs.toFinset.card := by
  have hset : xs.eraseDups.toFinset = xs.toFinset := by
    ext x
    rw [List.mem_toFinset, List.mem_toFinset, List.mem_eraseDups]
  rw [← hset, List.toFinset_card_of_nodup (nodup_eraseDups xs)]

end

/-- Elements that are sorted out by what a function makes of them are all there. -/
lemma flatMap_filter_perm [DecidableEq β] {f : α → β} {ks : List β} (hks : ks.Nodup) {xs : List α}
    (hxs : ∀ x ∈ xs, f x ∈ ks) : (ks.flatMap fun k => xs.filter fun x => f x = k).Perm xs := by
  induction ks generalizing xs with
  | nil =>
    obtain rfl : xs = [] := List.eq_nil_iff_forall_not_mem.2 fun x hx => by simpa using hxs x hx
    exact .nil
  | cons k ks ih =>
    rw [List.nodup_cons] at hks
    -- the rest are those that are not of the first kind
    have hrest : (ks.flatMap fun j => xs.filter fun x => f x = j) =
        ks.flatMap fun j => (xs.filter fun x => !decide (f x = k)).filter fun x => f x = j := by
      refine List.flatMap_congr fun j hj => ?_
      rw [List.filter_filter]
      refine List.filter_congr fun x _ => ?_
      by_cases hx : f x = j
      · have hne : f x ≠ k := by
          rintro rfl
          exact hks.1 (hx ▸ hj)
        simp [hx, hx ▸ hne]
      · simp [hx]
    rw [List.flatMap_cons, hrest]
    refine ((ih hks.2 fun x hx => ?_).append_left _).trans (List.filter_append_perm _ xs)
    rw [List.mem_filter] at hx
    have hmem := hxs x hx.1
    rw [List.mem_cons] at hmem
    exact hmem.resolve_left (by simpa using hx.2)

end

/-! ### Groups -/

namespace Group

variable {keys : List (Row → Except Error Value)} {values : Row → List Value} {rows : List Row}

/-- The keys of a row. -/
def keysOf (values : Row → List Value) (row : Row) : List Value := (values row).map Value.key

lemma addTo_map {ks : List (List Value)} (hks : ks.Nodup) {F : List Value → List Row}
    {k : List Value} (hk : k ∉ ks → F k = []) (row : Row) :
    addTo k row (ks.map fun j => ⟨j, F j⟩) =
      (if k ∈ ks then ks else ks ++ [k]).map fun j => ⟨j, if j = k then row :: F j else F j⟩ := by
  induction ks with
  | nil => simp [addTo, hk List.not_mem_nil]
  | cons j ks ih =>
    rw [List.nodup_cons] at hks
    rw [List.map_cons, addTo]
    by_cases hj : j = k
    · subst hj
      have hother : ks.map (fun i => (⟨i, F i⟩ : Group)) =
          ks.map fun i => ⟨i, if i = j then row :: F i else F i⟩ := by
        refine List.map_congr_left fun i hi => ?_
        rw [if_neg (by rintro rfl; exact hks.1 hi)]
      simp [hother]
    · have hk' : k ∉ ks → F k = [] := fun h => hk (by simp [h, Ne.symm hj])
      rw [if_neg hj, ih hks.2 hk']
      by_cases hmem : k ∈ ks <;> simp [hmem, hj, Ne.symm hj]

/-- The rows of each key, in the order in which the keys are first seen. -/
def collected (f : Row → List Value) (rows : List Row) : List Group :=
  (rows.map f).eraseDups.map fun k => ⟨k, rows.filter fun r => f r = k⟩

/-- The loop that groups rows, with their keys at hand. -/
lemma foldl_addTo (f : Row → List Value) (rows : List Row) :
    rows.foldl (fun gs row => addTo (f row) row gs) [] =
      (collected f rows).map fun g => { g with rows := g.rows.reverse } := by
  induction rows using List.reverseRecOn with
  | nil => rfl
  | append_singleton rows row ih =>
    rw [List.foldl_append, ih, List.foldl_cons, List.foldl_nil]
    simp only [collected, List.map_map, Function.comp_def]
    rw [addTo_map (nodup_eraseDups _), List.map_append, List.map_singleton, eraseDups_concat]
    · simp only [List.mem_eraseDups]
      refine congrArg₂ List.map (funext fun k => ?_) rfl
      by_cases hk : k = f row
      · simp [hk]
      · simp [hk, Ne.symm hk]
    · intro hmem
      rw [List.mem_eraseDups, List.mem_map] at hmem
      rw [List.reverse_eq_nil_iff, List.filter_eq_nil_iff]
      exact fun r hr heq => hmem ⟨r, hr, by simpa using heq⟩

/-- Rows with keys are collected by them. -/
lemma ofRows_eq_collected (hne : keys ≠ [])
    (h : ∀ r ∈ rows, (keys.mapM fun k => k r) = .ok (values r)) :
    ofRows keys rows = .ok (collected (keysOf values) rows) := by
  have hstep : ∀ r ∈ rows, ∀ gs, (do
      let vs ← keys.mapM fun k => k r
      return addTo (vs.map Value.key) r gs : Except Error _) =
      .ok (addTo (keysOf values r) r gs) := fun r hr gs => by
    rw [h r hr]
    rfl
  rw [ofRows, if_neg (by simpa using hne), foldlM_eq_ok hstep, foldl_addTo]
  refine congrArg Except.ok ?_
  simp [Function.comp_def]

/-- Rows sorted out by their keys. -/
structure Grouped (f : Row → List Value) (rows : List Row) (gs : List Group) : Prop where
  /-- Each row is in a group as often as it is there. -/
  perm : (gs.flatMap Group.rows).Perm rows
  /-- A group has the rows of its key, in the order in which they came. -/
  rows_eq : ∀ g ∈ gs, g.rows = rows.filter fun r => f r = g.key
  /-- Two rows are in one group exactly if they have one key. -/
  together : ∀ r ∈ rows, ∀ s ∈ rows, (∃ g ∈ gs, r ∈ g.rows ∧ s ∈ g.rows) ↔ f r = f s
  /-- The groups are in the order in which their keys are first seen. -/
  ordered : (gs.map key).Pairwise fun j k => (rows.map f).idxOf j < (rows.map f).idxOf k

lemma grouped_collected (f : Row → List Value) (rows : List Row) :
    Grouped f rows (collected f rows) where
  perm := by
    rw [collected, List.flatMap_map]
    refine flatMap_filter_perm (nodup_eraseDups _) fun r hr => ?_
    rw [List.mem_eraseDups]
    exact List.mem_map_of_mem hr
  rows_eq g hg := by
    obtain ⟨k, -, rfl⟩ := List.mem_map.1 hg
    rfl
  together r hr s hs := by
    constructor
    · rintro ⟨g, hg, hrg, hsg⟩
      obtain ⟨k, -, rfl⟩ := List.mem_map.1 hg
      have hr : f r = k := by simpa using (List.mem_filter.1 hrg).2
      have hs : f s = k := by simpa using (List.mem_filter.1 hsg).2
      exact hr.trans hs.symm
    · intro heq
      have hkey : f r ∈ (rows.map f).eraseDups := List.mem_eraseDups.2 (List.mem_map_of_mem hr)
      refine ⟨_, List.mem_map_of_mem hkey, ?_, ?_⟩
      · exact List.mem_filter.2 ⟨hr, by simp⟩
      · exact List.mem_filter.2 ⟨hs, by simp [heq]⟩
  ordered := by
    have hkeys : (collected f rows).map key = (rows.map f).eraseDups := by
      rw [collected, List.map_map]
      exact List.map_id _
    rw [hkeys]
    exact pairwise_eraseDups _

/-- Without keys there is one group, with all rows. -/
lemma grouped_all {f : Row → List Value} (hf : ∀ r ∈ rows, f r = []) :
    Grouped f rows [⟨[], rows⟩] where
  perm := by simp
  rows_eq g hg := by
    obtain rfl := List.mem_singleton.1 hg
    exact (List.filter_eq_self.2 fun r hr => by simp [hf r hr]).symm
  together r hr s hs := by simp [hr, hs, hf]
  ordered := List.pairwise_singleton _ _

lemma length_collected (f : Row → List Value) (rows : List Row) :
    (collected f rows).length = (rows.map f).toFinset.card := by
  rw [collected, List.length_map, length_eraseDups]

/-- **Rows are grouped**, whatever their keys are. -/
theorem exists_grouped (h : ∀ r ∈ rows, (keys.mapM fun k => k r) = .ok (values r)) :
    ∃ gs, ofRows keys rows = .ok gs ∧ Grouped (keysOf values) rows gs ∧
      (keys ≠ [] → gs.length = (rows.map (keysOf values)).toFinset.card) ∧
      (keys = [] → gs.length = 1) := by
  by_cases hne : keys = []
  · subst hne
    refine ⟨[⟨[], rows⟩], rfl, grouped_all fun r hr => ?_, fun hne => absurd rfl hne, fun _ => rfl⟩
    have hvalues : ([] : List Value) = values r := Except.ok.inj (h r hr)
    rw [keysOf, ← hvalues]
    rfl
  · exact ⟨_, ofRows_eq_collected hne h, grouped_collected _ _, fun _ => length_collected _ _,
      fun heq => absurd heq hne⟩

/-! ### Groups that are there -/

variable {gs : List Group}

/-- Rows that have been grouped have keys. -/
lemma exists_values (hne : keys ≠ []) (h : ofRows keys rows = .ok gs) :
    ∀ r ∈ rows, ∃ vs, (keys.mapM fun k => k r) = .ok vs := by
  rw [ofRows, if_neg (by simpa using hne)] at h
  obtain ⟨gs', hfold, -⟩ := bind_eq_ok.1 h
  intro r hr
  obtain ⟨b, c, hstep⟩ := exists_of_foldlM hfold r hr
  obtain ⟨vs, hvs, -⟩ := bind_eq_ok.1 hstep
  exact ⟨vs, hvs⟩

lemma eq_collected (hne : keys ≠ []) (h : ofRows keys rows = .ok gs) :
    gs = collected (keyOf keys) rows := by
  let values (r : Row) : List Value :=
    Except.toOption (keys.mapM fun k => k r : Except Error _) |>.getD []
  have hvalues : ∀ r ∈ rows, (keys.mapM fun k => k r) = .ok (values r) := fun r hr => by
    obtain ⟨vs, hvs⟩ := exists_values hne h r hr
    rw [show values r = vs by simp only [values, hvs]; rfl, hvs]
  exact Except.ok.inj (h.symm.trans (ofRows_eq_collected hne hvalues))

/-- **Groups that there are** are sorted out by the keys of rows. -/
theorem grouped_ofRows (h : ofRows keys rows = .ok gs) : Grouped (keyOf keys) rows gs := by
  by_cases hne : keys = []
  · subst hne
    obtain rfl := Except.ok.inj h
    exact grouped_all fun _ _ => rfl
  · rw [eq_collected hne h]
    exact grouped_collected _ _

/-- The row that stands for a group is one of those that were grouped, and it has the key of the
group. -/
lemma head_mem (hne : keys ≠ []) (h : ofRows keys rows = .ok gs) {g : Group} (hg : g ∈ gs) :
    g.rows.head?.getD [] ∈ rows ∧ keyOf keys (g.rows.head?.getD []) = g.key := by
  rw [eq_collected hne h] at hg
  obtain ⟨k, hk, rfl⟩ := List.mem_map.1 hg
  rw [List.mem_eraseDups, List.mem_map] at hk
  obtain ⟨r, hr, rfl⟩ := hk
  have hmem : r ∈ rows.filter fun s => keyOf keys s = keyOf keys r :=
    List.mem_filter.2 ⟨hr, by simp⟩
  obtain ⟨s, rest, hrows⟩ := List.exists_cons_of_ne_nil (List.ne_nil_of_mem hmem)
  have hs : s ∈ rows.filter fun s => keyOf keys s = keyOf keys r := hrows ▸ List.mem_cons_self
  rw [List.mem_filter] at hs
  simp only [hrows, List.head?_cons, Option.getD_some]
  exact ⟨hs.1, by simpa using hs.2⟩

end Group

end PropertyGraph
