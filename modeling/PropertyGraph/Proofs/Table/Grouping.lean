import Mathlib.Data.List.Forall2
import PropertyGraph.Proofs.Except
import PropertyGraph.Proofs.Value.Key
import PropertyGraph.Table
import PropertyGraph.Table.Group

/-!
What DISTINCT, UNION and grouping take for one is what the language calls equal.

All of them go by the keys of values: repetitions are dropped if their keys have been seen before,
and a row goes to the group of its keys. Where neither null nor NaN occurs, keys are the same
exactly if the values are equal.
-/

namespace PropertyGraph

namespace Value

/-! ### Keys of definite values -/

mutual

lemma isDefinite_iff (v : Value) : v.isDefinite ↔ v.hasNull = false ∧ v.hasNaN = false := by
  cases v with
  | list xs => exact itemsDefinite_iff xs
  | map es => exact entriesDefinite_iff es
  | num n => simp [isDefinite, hasNull, hasNaN, anyLeaf, isNull, isNaN]
  | _ => simp [isDefinite, hasNull, hasNaN, anyLeaf, isNull, isNaN]

lemma itemsDefinite_iff (xs : List Value) :
    itemsDefinite xs ↔ anyItemLeaf isNull xs = false ∧ anyItemLeaf isNaN xs = false := by
  cases xs with
  | nil => simp [itemsDefinite, anyItemLeaf]
  | cons x xs =>
    have hx := isDefinite_iff x
    have hxs := itemsDefinite_iff xs
    rw [hasNull, hasNaN] at hx
    rw [itemsDefinite, anyItemLeaf, anyItemLeaf, Bool.and_eq_true, hx, hxs, Bool.or_eq_false_iff,
      Bool.or_eq_false_iff]
    tauto

lemma entriesDefinite_iff (es : List (String × Value)) :
    entriesDefinite es ↔ anyEntryLeaf isNull es = false ∧ anyEntryLeaf isNaN es = false := by
  match es with
  | [] => simp [entriesDefinite, anyEntryLeaf]
  | (k, x) :: es =>
    have hx := isDefinite_iff x
    have hes := entriesDefinite_iff es
    rw [hasNull, hasNaN] at hx
    rw [entriesDefinite, anyEntryLeaf, anyEntryLeaf, Bool.and_eq_true, hx, hes,
      Bool.or_eq_false_iff, Bool.or_eq_false_iff]
    tauto

end

/-- Two values are equal, and known to be. -/
def Equal (a b : Value) : Prop := a.equals b = some true

lemma key_eq_iff {a b : Value} (ha : a.isDefinite) : a.key = b.key ↔ a.Equal b := by
  obtain ⟨hnull, hnan⟩ := (isDefinite_iff a).1 ha
  exact ⟨fun h => (equals_of_key_eq hnan h).2 hnull, key_eq_of_equals⟩

lemma keys_eq_iff {as bs : List Value} (ha : ∀ a ∈ as, a.isDefinite) :
    as.map key = bs.map key ↔ List.Forall₂ Equal as bs := by
  induction as generalizing bs with
  | nil =>
    cases bs with
    | nil => exact iff_of_true rfl .nil
    | cons b bs => exact iff_of_false nofun nofun
  | cons a as ih =>
    rw [List.forall_mem_cons] at ha
    cases bs with
    | nil => exact iff_of_false nofun nofun
    | cons b bs =>
      rw [List.map_cons, List.map_cons, List.cons.injEq, key_eq_iff ha.1, ih ha.2,
        List.forall₂_cons]

/-! ### Repetitions -/

section

variable {α β : Type} [DecidableEq β] (f : α → β)

lemma mem_seen (xs : List α) (acc : List α × List β) {k : β} :
    k ∈ (xs.foldl (fun (acc : List α × List β) x =>
      if f x ∈ acc.2 then acc else (x :: acc.1, f x :: acc.2)) acc).2 ↔
        k ∈ acc.2 ∨ ∃ x ∈ xs, f x = k := by
  induction xs generalizing acc with
  | nil => simp
  | cons x xs ih =>
    rw [List.foldl_cons, ih]
    split_ifs with hx
    · constructor
      · rintro (h | ⟨y, hy, rfl⟩)
        · exact .inl h
        · exact .inr ⟨y, List.mem_cons_of_mem x hy, rfl⟩
      · rintro (h | ⟨y, hy, rfl⟩)
        · exact .inl h
        · rcases List.mem_cons.1 hy with rfl | hy
          · exact .inl hx
          · exact .inr ⟨y, hy, rfl⟩
    · simp only [List.mem_cons, exists_eq_or_imp]
      tauto

/-- **An element is dropped if there has been one like it before**, and kept behind the others if
not. -/
lemma distinctBy_concat (xs : List α) (x : α) [Decidable (∃ y ∈ xs, f y = f x)] :
    distinctBy f (xs ++ [x]) =
      if ∃ y ∈ xs, f y = f x then distinctBy f xs else distinctBy f xs ++ [x] := by
  have hseen := mem_seen f xs ([], []) (k := f x)
  rw [distinctBy, List.foldl_append, List.foldl_cons, List.foldl_nil]
  simp only [hseen, List.not_mem_nil, false_or]
  split_ifs
  · rfl
  · rw [List.reverse_cons, distinctBy]

lemma distinctBy_concat_eq_iff (xs : List α) (x : α) :
    distinctBy f (xs ++ [x]) = distinctBy f xs ↔ ∃ y ∈ xs, f x = f y := by
  classical
  rw [distinctBy_concat]
  split_ifs with h
  · exact iff_of_true rfl (by simpa only [eq_comm] using h)
  · exact iff_of_false (by simp) (by simpa only [eq_comm] using h)

end

end Value

/-! ### Groups -/

namespace Group

/-- No two groups have one key, each has the rows of its key, and each row is in a group. -/
structure Partition (f : Row → List Value) (rows : List Row) (gs : List Group) : Prop where
  nodup : (gs.map key).Nodup
  mem_iff : ∀ g ∈ gs, ∀ r, r ∈ g.rows ↔ r ∈ rows ∧ f r = g.key
  covers : ∀ r ∈ rows, ∃ g ∈ gs, f r = g.key

variable {f : Row → List Value} {rows : List Row} {gs : List Group} {row : Row}
  {k : List Value}

lemma mem_keys_addTo {j : List Value} :
    j ∈ (addTo k row gs).map key ↔ j = k ∨ j ∈ gs.map key := by
  induction gs with
  | nil => simp [addTo]
  | cons g gs ih =>
    rw [addTo]
    split_ifs with hg
    · simp [hg]
    · rw [List.map_cons, List.mem_cons, ih, List.map_cons, List.mem_cons]
      tauto

lemma nodup_keys_addTo (h : (gs.map key).Nodup) : ((addTo k row gs).map key).Nodup := by
  induction gs with
  | nil => simp [addTo]
  | cons g gs ih =>
    rw [List.map_cons, List.nodup_cons] at h
    rw [addTo]
    split_ifs with hg
    · exact List.nodup_cons.2 (hg ▸ h)
    · refine List.nodup_cons.2 ⟨fun hmem => ?_, ih h.2⟩
      exact (mem_keys_addTo.1 hmem).elim hg h.1

/-- Of the groups that a row is added to, one has its key and the row, and the others are as they
were. -/
lemma mem_addTo (h : (gs.map key).Nodup) {g : Group} (hg : g ∈ addTo k row gs) :
    (g ∈ gs ∧ g.key ≠ k) ∨
      (g.key = k ∧ ∀ r, r ∈ g.rows ↔ r = row ∨ ∃ g' ∈ gs, g'.key = k ∧ r ∈ g'.rows) := by
  induction gs with
  | nil =>
    obtain rfl := List.mem_singleton.1 hg
    exact .inr ⟨rfl, fun r => by simp⟩
  | cons g₀ gs ih =>
    rw [List.map_cons, List.nodup_cons] at h
    rw [addTo] at hg
    split_ifs at hg with hg₀
    · have hother : ∀ g ∈ gs, g.key ≠ k := fun g hg heq =>
        h.1 (List.mem_map.2 ⟨g, hg, heq.trans hg₀.symm⟩)
      rcases List.mem_cons.1 hg with rfl | hg
      · refine .inr ⟨rfl, fun r => ?_⟩
        simp only [List.mem_cons, or_and_right, exists_or, exists_eq_left, hg₀, true_and]
        refine or_congr_right ⟨.inl, ?_⟩
        rintro (hr | ⟨g', hg', heq, -⟩)
        exacts [hr, absurd heq (hother g' hg')]
      · exact .inl ⟨List.mem_cons_of_mem _ hg, hother g hg⟩
    · rcases List.mem_cons.1 hg with rfl | hg
      · exact .inl ⟨List.mem_cons_self, hg₀⟩
      · obtain ⟨hmem, hne⟩ | ⟨hkey, hrows⟩ := ih h.2 hg
        · exact .inl ⟨List.mem_cons_of_mem _ hmem, hne⟩
        · refine .inr ⟨hkey, fun r => ?_⟩
          rw [hrows]
          simp only [List.mem_cons, or_and_right, exists_or, exists_eq_left, hg₀, false_and,
            false_or]

namespace Partition

lemma nil (f : Row → List Value) : Partition f [] [] := ⟨.nil, nofun, nofun⟩

lemma addTo (h : Partition f rows gs) (row : Row) :
    Partition f (row :: rows) (addTo (f row) row gs) where
  nodup := nodup_keys_addTo h.nodup
  mem_iff g hg r := by
    rw [List.mem_cons]
    obtain ⟨hmem, hne⟩ | ⟨hkey, hrows⟩ := mem_addTo h.nodup hg
    · rw [h.mem_iff g hmem]
      refine ⟨fun hr => ⟨.inr hr.1, hr.2⟩, ?_⟩
      rintro ⟨rfl | hr, heq⟩
      exacts [absurd heq.symm hne, ⟨hr, heq⟩]
    · rw [hrows, hkey]
      constructor
      · rintro (rfl | ⟨g', hg', hkey', hr⟩)
        · exact ⟨.inl rfl, rfl⟩
        · have hr' := (h.mem_iff g' hg' r).1 hr
          exact ⟨.inr hr'.1, hr'.2.trans hkey'⟩
      · rintro ⟨rfl | hr, heq⟩
        · exact .inl rfl
        · obtain ⟨g', hg', hkey'⟩ := h.covers r hr
          exact .inr ⟨g', hg', hkey'.symm.trans heq, (h.mem_iff g' hg' r).2 ⟨hr, hkey'⟩⟩
  covers r hr := by
    have hkey : f r ∈ (Group.addTo (f row) row gs).map key := by
      rw [mem_keys_addTo]
      rcases List.mem_cons.1 hr with rfl | hr
      · exact .inl rfl
      · obtain ⟨g, hg, heq⟩ := h.covers r hr
        exact .inr (List.mem_map.2 ⟨g, hg, heq.symm⟩)
    obtain ⟨g, hg, heq⟩ := List.mem_map.1 hkey
    exact ⟨g, hg, heq.symm⟩

lemma congr {rows' : List Row} (h : Partition f rows gs) (hrows : ∀ r, r ∈ rows ↔ r ∈ rows') :
    Partition f rows' gs :=
  ⟨h.nodup, fun g hg r => by rw [h.mem_iff g hg, hrows], fun r hr => h.covers r ((hrows r).2 hr)⟩

/-- The rows of groups are rows that were grouped. -/
lemma mem (h : Partition f rows gs) {g : Group} (hg : g ∈ gs) {r : Row} (hr : r ∈ g.rows) :
    r ∈ rows :=
  ((h.mem_iff g hg r).1 hr).1

/-- Two rows are in one group exactly if they have one key. -/
lemma together_iff (h : Partition f rows gs) {r s : Row} (hr : r ∈ rows) (hs : s ∈ rows) :
    (∃ g ∈ gs, r ∈ g.rows ∧ s ∈ g.rows) ↔ f r = f s := by
  constructor
  · rintro ⟨g, hg, hrg, hsg⟩
    exact ((h.mem_iff g hg r).1 hrg).2.trans ((h.mem_iff g hg s).1 hsg).2.symm
  · intro heq
    obtain ⟨g, hg, hkey⟩ := h.covers r hr
    exact ⟨g, hg, (h.mem_iff g hg r).2 ⟨hr, hkey⟩, (h.mem_iff g hg s).2 ⟨hs, heq.symm.trans hkey⟩⟩

end Partition

/-- The key of a row among the groups. -/
def keyOf (keys : List (Row → Except Error Value)) (row : Row) : List Value :=
  let values : Except Error (List Value) := keys.mapM fun k => k row
  (values.toOption.getD []).map Value.key

/-- What the groups of some rows become when more rows are added to them, one by one. -/
lemma Partition.foldlM {keys : List (Row → Except Error Value)} {rest done : List Row}
    {gs gs' : List Group} (hgs : Partition (keyOf keys) done gs)
    (h : (rest.foldlM (fun gs row => do
      let values ← keys.mapM fun k => k row
      return Group.addTo (values.map Value.key) row gs : _ → _ → Except Error _) gs) = .ok gs') :
    Partition (keyOf keys) (rest.reverse ++ done) gs' := by
  induction rest generalizing done gs with
  | nil =>
    obtain rfl := Except.ok.inj h
    exact hgs
  | cons row rest ih =>
    obtain ⟨gs₁, h₁, h⟩ := bind_eq_ok.1 h
    obtain ⟨values, hvalues, h₁⟩ := bind_eq_ok.1 h₁
    obtain rfl := Except.ok.inj h₁
    have hkey : values.map Value.key = keyOf keys row := by rw [keyOf, hvalues]; rfl
    rw [hkey] at h
    simpa using ih (hgs.addTo row) h

/-- **Rows are grouped by their keys.** -/
theorem partition_ofRows {keys : List (Row → Except Error Value)}
    (h : ofRows keys rows = .ok gs) : Partition (keyOf keys) rows gs := by
  rw [ofRows] at h
  split_ifs at h with hkeys
  · obtain rfl := Except.ok.inj h
    obtain rfl := List.isEmpty_iff.1 hkeys
    refine ⟨by simp, ?_, fun r _ => ⟨_, List.mem_singleton_self _, rfl⟩⟩
    intro g hg r
    obtain rfl := List.mem_singleton.1 hg
    exact ⟨fun hr => ⟨hr, rfl⟩, And.left⟩
  · obtain ⟨gs', hfold, h⟩ := bind_eq_ok.1 h
    obtain rfl := Except.ok.inj h
    have hgs : Partition (keyOf keys) rows gs' :=
      ((Partition.nil _).foldlM hfold).congr fun r => by simp
    -- the rows of a group are put in the order in which they came
    refine ⟨by rw [List.map_map]; exact hgs.nodup, ?_, fun r hr => ?_⟩
    · intro g hg r
      obtain ⟨g', hg', rfl⟩ := List.mem_map.1 hg
      rw [List.mem_reverse]
      exact hgs.mem_iff g' hg' r
    · obtain ⟨g, hg, hkey⟩ := hgs.covers r hr
      exact ⟨_, List.mem_map_of_mem hg, hkey⟩

end Group

namespace Value

/-- **Grouping and DISTINCT agree with equality.** Equal values have one key; values of one key,
with no NaN in them, are never unequal, and they are equal if there is no null in them. So where
neither null nor NaN occurs, DISTINCT and UNION drop a value or a row exactly if an equal one came
before, and two rows are in one group exactly if the values that they are grouped by are equal. -/
theorem key_agrees :
    (∀ a b : Value, a.equals b = some true → a.key = b.key) ∧
    (∀ a b : Value, a.hasNaN = false → b.hasNaN = false → a.key = b.key →
      a.equals b ≠ some false ∧ (a.hasNull = false → a.equals b = some true)) ∧
    (∀ (vs : List Value) (v : Value), v.isDefinite →
      (distinctBy key (vs ++ [v]) = distinctBy key vs ↔ ∃ w ∈ vs, v.Equal w)) ∧
    (∀ (α : Type) (out : α → Row) (columns : List String) (xs : List α) (x : α),
      (∀ v ∈ Table.valuesIn columns (out x), v.isDefinite) →
      (distinctBy (fun y => Table.rowKey columns (out y)) (xs ++ [x]) =
          distinctBy (fun y => Table.rowKey columns (out y)) xs ↔
        ∃ y ∈ xs, ∀ c ∈ columns,
          (Dict.getD (out x) c .null).Equal (Dict.getD (out y) c .null))) ∧
    ∀ (keys : List (Row → Except Error Value)) (rows : List Row) (groups : List Group),
      Group.ofRows keys rows = .ok groups → ∀ r ∈ rows, ∀ s ∈ rows, ∀ vs ws : List Value,
        (keys.mapM fun k => k r) = .ok vs → (keys.mapM fun k => k s) = .ok ws →
        (∀ v ∈ vs, v.isDefinite) →
        ((∃ g ∈ groups, r ∈ g.rows ∧ s ∈ g.rows) ↔ List.Forall₂ Equal vs ws) := by
  refine ⟨fun _ _ => key_eq_of_equals, fun _ _ ha _ => equals_of_key_eq ha, ?_, ?_, ?_⟩
  · intro vs v hv
    simp only [distinctBy_concat_eq_iff, key_eq_iff hv]
  · intro α out columns xs x hx
    rw [distinctBy_concat_eq_iff]
    refine exists_congr fun y => and_congr_right fun _ => ?_
    rw [Table.rowKey, Table.rowKey, keys_eq_iff hx, Table.valuesIn, Table.valuesIn,
      List.forall₂_map_left_iff, List.forall₂_map_right_iff, List.forall₂_same]
  · intro keys rows groups h r hr s hs vs ws hvs hws hdef
    rw [(Group.partition_ofRows h).together_iff hr hs, Group.keyOf, Group.keyOf, hvs, hws]
    exact keys_eq_iff hdef

/-- Lists that have the two zeros in them are equal and one for DISTINCT and for grouping; with a
null beside them they are still one, though it is unknown whether they are equal. -/
theorem key_agrees_zeros :
    let a := list [num (.neg .zero), map [("k", str "x")], node 3]
    let b := list [num .zero, map [("k", str "x")], node 3]
    let r : Row := [("x", a)]
    let s : Row := [("x", b)]
    let keys : List (Row → Except Error Value) := [fun row => .ok (Dict.getD row "x" null)]
    a.Equal b ∧ a.key = b.key ∧ distinctBy key ([null, b] ++ [a]) = distinctBy key [null, b] ∧
      (list [a, null]).key = (list [b, null]).key ∧
      (list [a, null]).equals (list [b, null]) ≠ some false ∧
      ∃ groups, Group.ofRows keys [r, s] = .ok groups ∧ ∃ g ∈ groups, r ∈ g.rows ∧ s ∈ g.rows := by
  intro a b r s keys
  obtain ⟨hkey, hequals, hvalues, hrows, hgroups⟩ := key_agrees
  have heq : a.equals b = some true := by decide +kernel
  have hnull : (list [a, null]).key = (list [b, null]).key := by decide +kernel
  refine ⟨heq, hkey a b heq, (hvalues [null, b] a (by decide +kernel)).2 ⟨b, by simp, heq⟩, hnull,
    (hequals _ _ (by decide +kernel) (by decide +kernel) hnull).1, _, rfl, ?_⟩
  exact (hgroups keys [r, s] _ rfl r (by simp) s (by simp) [a] [b] rfl rfl
    (by decide +kernel)).2 (.cons heq .nil)

end Value

end PropertyGraph
