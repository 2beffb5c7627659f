import Mathlib.Data.List.Forall2
import PropertyGraph.Proofs.Except
import PropertyGraph.Proofs.Value.Order
import PropertyGraph.Table.Projection

/-!
Rows are put in order by a stable sort.

A sort item orders values by whether they are null, and then by the order that sorts or its
reverse; several items order lists of values from the front. Among the lists that are as long as the
items this is a total preorder, so that there is exactly one way to put rows in order that leaves
those alone that are level.
-/

namespace PropertyGraph

open Std Cypher

lemma Value.eq_null_of_isNull {v : Value} (h : v.isNull) : v = .null := by
  cases v <;> first | rfl | cases h

/-- A total preorder of the elements that satisfy a condition. -/
structure PreorderOn {α : Type} (P : α → Prop) (cmp : α → α → Ordering) : Prop where
  level : ∀ a, P a → cmp a a = .eq
  swap : ∀ a b, P a → P b → cmp b a = (cmp a b).swap
  trans : ∀ a b c, P a → P b → P c → (cmp a b).isLE → (cmp b c).isLE → (cmp a c).isLE

/-! ### Stable sorting -/

/-- One list is another one put in order, where elements that are level stay as they were. -/
structure StablySorted {α : Type} (cmp : α → α → Ordering) (xs ys : List α) : Prop where
  perm : ys.Perm xs
  ascending : ys.Pairwise fun a b => (cmp a b).isLE
  ties : ∀ a ∈ xs, ys.filter (fun b => cmp a b == .eq) = xs.filter fun b => cmp a b == .eq

namespace StablySorted

variable {α : Type} {cmp cmp' : α → α → Ordering} {xs ys zs : List α}

lemma congr (h : StablySorted cmp xs ys) (hcmp : ∀ a ∈ xs, ∀ b ∈ xs, cmp a b = cmp' a b) :
    StablySorted cmp' xs ys where
  perm := h.perm
  ascending := h.ascending.imp_of_mem fun {a b} ha hb hab => by
    rwa [← hcmp a (h.perm.mem_iff.1 ha) b (h.perm.mem_iff.1 hb)]
  ties a ha := by
    have hys : ys.filter (fun b => cmp' a b == .eq) = ys.filter fun b => cmp a b == .eq :=
      List.filter_congr fun b hb => by rw [hcmp a ha b (h.perm.mem_iff.1 hb)]
    have hxs : xs.filter (fun b => cmp' a b == .eq) = xs.filter fun b => cmp a b == .eq :=
      List.filter_congr fun b hb => by rw [hcmp a ha b hb]
    rw [hys, hxs, h.ties a ha]

variable [TransCmp cmp]

lemma isLE_total (a b : α) : ((cmp a b).isLE || (cmp b a).isLE) = true := by
  rw [@OrientedCmp.eq_swap _ cmp _ b a]
  cases cmp a b <;> rfl

/-- **Sorting by merging is stable.** -/
theorem mergeSort (xs : List α) : StablySorted cmp xs (xs.mergeSort fun a b => (cmp a b).isLE) where
  perm := List.mergeSort_perm ..
  ascending := List.pairwise_mergeSort (fun _ _ _ => TransCmp.isLE_trans) isLE_total xs
  ties a _ := by
    set le := fun a b => (cmp a b).isLE
    set tied := fun b => cmp a b == .eq
    -- elements that are level are in order as they are, so they are in the sorted list like that
    have hlevel : (xs.filter tied).Pairwise fun b c => le b c = true := by
      refine List.pairwise_iff_forall_sublist.2 fun {b c} hbc => ?_
      have hb : cmp a b = .eq := beq_iff_eq.1 (List.mem_filter.1 (hbc.subset (by simp))).2
      have hc : cmp a c = .eq := beq_iff_eq.1 (List.mem_filter.1 (hbc.subset (by simp))).2
      exact Ordering.isLE_of_eq_eq (TransCmp.eq_trans (OrientedCmp.eq_symm hb) hc)
    have hsub : (xs.filter tied).Sublist (xs.mergeSort le) :=
      List.sublist_mergeSort (fun _ _ _ => TransCmp.isLE_trans) isLE_total hlevel
        List.filter_sublist
    have hsub' := hsub.filter tied
    simp only [List.filter_filter, Bool.and_self] at hsub'
    exact (hsub'.eq_of_length ((List.mergeSort_perm xs le).filter tied).length_eq.symm).symm

/-- **There is one way to put elements in order** so that those that are level stay as they are. -/
theorem unique (hy : StablySorted cmp xs ys) (hz : StablySorted cmp xs zs) : ys = zs := by
  have hties : ∀ a ∈ ys, ys.filter (fun b => cmp a b == .eq) = zs.filter fun b => cmp a b == .eq :=
    fun a ha => (hy.ties a (hy.perm.mem_iff.1 ha)).trans (hz.ties a (hy.perm.mem_iff.1 ha)).symm
  have hperm := hy.perm.trans hz.perm.symm
  have hys := hy.ascending
  have hzs := hz.ascending
  clear hy hz
  induction ys generalizing zs with
  | nil => exact (List.nil_perm.1 hperm).symm
  | cons y ys ih =>
    cases zs with
    | nil => exact absurd hperm (by simp)
    | cons z zs =>
      -- the first elements are level, and among those that are the first is the same
      rw [List.pairwise_cons] at hys hzs
      have hyz : cmp y z = .eq := by
        have hle : (cmp y z).isLE := by
          rcases List.mem_cons.1 (hperm.mem_iff.2 (List.mem_cons_self : z ∈ z :: zs)) with rfl | hz
          · exact ReflCmp.isLE_rfl
          · exact hys.1 z hz
        have hge : (cmp z y).isLE := by
          rcases List.mem_cons.1 (hperm.mem_iff.1 (List.mem_cons_self : y ∈ y :: ys)) with rfl | hy
          · exact ReflCmp.isLE_rfl
          · exact hzs.1 y hy
        exact OrientedCmp.isLE_antisymm hle hge
      have hhead := hties y List.mem_cons_self
      have hyy : cmp y y = .eq := ReflCmp.compare_self
      rw [List.filter_cons, List.filter_cons, if_pos (beq_iff_eq.2 hyy), if_pos (beq_iff_eq.2 hyz)]
        at hhead
      obtain ⟨rfl, -⟩ := List.cons.inj hhead
      refine congrArg _ (ih (fun a ha => ?_) hperm.cons_inv hys.2 hzs.2)
      have hrest := hties a (List.mem_cons_of_mem y ha)
      rw [List.filter_cons, List.filter_cons] at hrest
      split_ifs at hrest
      · exact (List.cons.inj hrest).2
      · exact hrest

end StablySorted

namespace Table

/-! ### Sort items -/

lemma transCmp_comap {α β : Type} {cmp : β → β → Ordering} [TransCmp cmp] (f : α → β) :
    TransCmp fun a b => cmp (f a) (f b) where
  eq_swap := OrientedCmp.eq_swap
  isLE_trans := TransCmp.isLE_trans

/-- Whether a value is among those that stand last: the nulls, or all else. -/
def standsLast (i : SortItem Meaning) (v : Value) : Bool := v.isNull != i.nullsFirst.getD false

/-- The order of the values of a sort item, in its direction. -/
def compareDirected (i : SortItem Meaning) (a b : Value) : Ordering :=
  if i.descending then b.sortCompare a else a.sortCompare b

/-- A sort item puts values in order by whether they are null, and then in its direction. -/
lemma compareBy_eq (i : SortItem Meaning) :
    compareBy i = compareLex (compareOn (standsLast i)) (compareDirected i) := by
  funext a b
  rw [compareBy, compareLex, compareOn, compareDirected, standsLast, standsLast]
  rcases i with ⟨x, descending, nullsFirst⟩
  cases hf : nullsFirst.getD false <;> cases ha : a.isNull <;> cases hb : b.isNull
  case false.false.false | true.false.false =>
    simp [Value.sortCompare_swap b a]
  case false.true.true | true.true.true =>
    rw [Value.eq_null_of_isNull ha, Value.eq_null_of_isNull hb]
    simp [Value.sortCompare]
  all_goals rfl

instance (i : SortItem Meaning) : TransCmp (compareBy i) := by
  have hdirected : TransCmp (compareDirected i) := by
    rcases i with ⟨x, _ | _, nullsFirst⟩
    · exact inferInstanceAs (TransCmp Value.sortCompare)
    · exact {
        eq_swap := fun {a b} => @OrientedCmp.eq_swap _ Value.sortCompare _ b a
        isLE_trans := fun hab hbc => @TransCmp.isLE_trans _ Value.sortCompare _ _ _ _ hbc hab }
  rw [compareBy_eq]
  infer_instance

/-- The order of lists of values where a list is continued with nulls. -/
def compareAll : List (SortItem Meaning) → List Value → List Value → Ordering
  | [], _, _ => .eq
  | i :: is, as, bs =>
    (compareBy i (as.headD .null) (bs.headD .null)).then (compareAll is as.tail bs.tail)

instance (is : List (SortItem Meaning)) : TransCmp (compareAll is) := by
  induction is with
  | nil => exact { eq_swap := rfl, isLE_trans := fun _ _ => rfl }
  | cons i is ih =>
    have hhead := @transCmp_comap (List Value) _ (compareBy i) _ fun as => as.headD .null
    have htail := @transCmp_comap (List Value) _ (compareAll is) _ fun as => as.tail
    exact inferInstanceAs (TransCmp (compareLex
      (fun as bs : List Value => compareBy i (as.headD .null) (bs.headD .null))
      fun as bs => compareAll is as.tail bs.tail))

lemma compareKeys_eq {is : List (SortItem Meaning)} {as bs : List Value}
    (ha : as.length = is.length) (hb : bs.length = is.length) :
    compareKeys is as bs = compareAll is as bs := by
  induction is generalizing as bs with
  | nil => cases as <;> cases bs <;> rfl
  | cons i is ih =>
    obtain ⟨a, as, rfl⟩ := List.exists_cons_of_length_eq_add_one ha
    obtain ⟨b, bs, rfl⟩ := List.exists_cons_of_length_eq_add_one hb
    rw [compareKeys, ih (Nat.succ.inj ha) (Nat.succ.inj hb)]
    rfl

lemma preorderOn_compareKeys (is : List (SortItem Meaning)) :
    PreorderOn (fun vs => vs.length = is.length) (compareKeys is) where
  level a ha := by
    rw [compareKeys_eq ha ha]
    exact ReflCmp.compare_self
  swap a b ha hb := by
    rw [compareKeys_eq ha hb, compareKeys_eq hb ha]
    exact OrientedCmp.eq_swap
  trans a b c ha hb hc hab hbc := by
    rw [compareKeys_eq ha hb] at hab
    rw [compareKeys_eq hb hc] at hbc
    rw [compareKeys_eq ha hc]
    exact TransCmp.isLE_trans hab hbc

/-! ### Nulls -/

/-- Where nulls stand, whether the item ascends or descends: behind all else, or in front of it. -/
def NullsPlaced (i : SortItem Meaning) (a b : Value) : Prop :=
  if i.nullsFirst = some true then b.isNull → a.isNull else a.isNull → b.isNull

lemma nullsPlaced_of_compareBy {i : SortItem Meaning} {a b : Value} (h : (compareBy i a b).isLE) :
    NullsPlaced i a b := by
  rw [NullsPlaced]
  rw [compareBy] at h
  rcases i with ⟨x, descending, _ | _ | _⟩ <;> cases ha : a.isNull <;> cases hb : b.isNull <;>
    simp_all

lemma nullsPlaced_of_compareKeys {is : List (SortItem Meaning)} {as bs : List Value}
    (ha : as.length = is.length) (hb : bs.length = is.length) (h : (compareKeys is as bs).isLE)
    {j : Nat} (hj : j < is.length) (hlevel : compareKeys (is.take j) as bs = .eq) :
    NullsPlaced is[j] (as.getD j .null) (bs.getD j .null) := by
  induction is generalizing as bs j with
  | nil => exact absurd hj (Nat.not_lt_zero j)
  | cons i is ih =>
    obtain ⟨a, as, rfl⟩ := List.exists_cons_of_length_eq_add_one ha
    obtain ⟨b, bs, rfl⟩ := List.exists_cons_of_length_eq_add_one hb
    rw [compareKeys, Ordering.isLE_then_iff_or] at h
    cases j with
    | zero => exact nullsPlaced_of_compareBy (by rcases h with h | h <;> simp [h])
    | succ j =>
      rw [List.take_succ_cons, compareKeys, Ordering.then_eq_eq] at hlevel
      have hrest : (compareKeys is as bs).isLE := by simpa [hlevel.1] using h
      exact ih (Nat.succ.inj ha) (Nat.succ.inj hb) hrest (Nat.lt_of_succ_lt_succ hj) hlevel.2

/-! ### Rows -/

/-- Rows with the values of the sort items for them. -/
def keyed (env : Env) (is : List (SortItem Meaning)) (rows : List Projected) :
    Except Error (List (List Value × Projected)) :=
  rows.mapM fun p => do return (← is.mapM fun i => i.expr.eval env p.group p.scope, p)

variable {env : Env} {is : List (SortItem Meaning)} {rows : List Projected}
  {ks : List (List Value × Projected)}

lemma length_of_mem_keyed (h : keyed env is rows = .ok ks) {k : List Value × Projected}
    (hk : k ∈ ks) : k.1.length = is.length := by
  obtain ⟨p, -, hp⟩ := mem_mapM h hk
  obtain ⟨vs, hvs, heq⟩ := bind_eq_ok.1 hp
  obtain rfl := Except.ok.inj heq
  exact (forall₂_mapM hvs).length_eq.symm

lemma keyed_nil (env : Env) (rows : List Projected) :
    keyed env [] rows = .ok (rows.map fun p => ([], p)) :=
  mapM_eq_ok fun _ _ => rfl

/-- Rows are sorted by merging, whether or not there are sort items. -/
lemma sortRows_eq (env : Env) (is : List (SortItem Meaning)) (rows : List Projected) :
    sortRows env is rows = do
      return ((← keyed env is rows).mergeSort fun a b =>
        (compareKeys is a.1 b.1).isLE).map Prod.snd := by
  cases is with
  | nil =>
    have hsorted (ks : List (List Value × Projected)) :
        ks.mergeSort (fun a b => (compareKeys [] a.1 b.1).isLE) = ks :=
      List.mergeSort_of_pairwise (List.pairwise_of_forall fun _ _ => rfl)
    rw [keyed_nil]
    change Except.ok rows = Except.ok _
    rw [hsorted, List.map_map]
    exact congrArg _ (List.map_id rows).symm
  | cons i is =>
    have hle (o : Ordering) : (o != .gt) = o.isLE := by cases o <;> rfl
    rw [sortRows, keyed]
    simp only [List.isEmpty_cons, Bool.false_eq_true, if_false, hle]

/-- **Rows are sorted by a total preorder, and stably.** All values are totally ordered, and the
lists of values that are as long as the sort items are totally preordered by these. If the sort
items have values for all rows, then the rows are put in the one order that agrees with these values
and leaves alone what is level, and nulls are where each item places them. -/
theorem sortRows_stable :
    (TransCmp Value.sortCompare ∧ ∀ a b : Value, a.sortCompare b = .eq ↔ a = b) ∧
    ∀ is : List (SortItem Meaning),
      PreorderOn (fun vs => vs.length = is.length) (compareKeys is) ∧
      ∀ (env : Env) (rows : List Projected),
        (∀ x, keyed env is rows = .error x → sortRows env is rows = .error x) ∧
        ∀ ks, keyed env is rows = .ok ks → ∃ sorted,
          sortRows env is rows = .ok (sorted.map Prod.snd) ∧
          StablySorted (fun a b => compareKeys is a.1 b.1) ks sorted ∧
          (∀ other, StablySorted (fun a b => compareKeys is a.1 b.1) ks other → other = sorted) ∧
          sorted.Pairwise fun a b => ∀ (j : Nat) (hj : j < is.length),
            compareKeys (is.take j) a.1 b.1 = .eq →
              NullsPlaced is[j] (a.1.getD j .null) (b.1.getD j .null) := by
  refine ⟨⟨inferInstance, Value.sortCompare_eq_iff⟩, fun is => ⟨preorderOn_compareKeys is, ?_⟩⟩
  refine fun env rows => ⟨fun x hx => by rw [sortRows_eq, hx]; rfl, fun ks hks => ?_⟩
  -- the preorder of all lists takes the place of the one among the lists of the right length
  let cmp := fun a b : List Value × Projected => compareKeys is a.1 b.1
  let all := fun a b : List Value × Projected => compareAll is a.1 b.1
  have hall : TransCmp all := transCmp_comap Prod.fst
  have hlength (k : List Value × Projected) (hk : k ∈ ks) := length_of_mem_keyed hks hk
  have hcmp (a : List Value × Projected) (ha : a ∈ ks) (b) (hb : b ∈ ks) : cmp a b = all a b :=
    compareKeys_eq (hlength a ha) (hlength b hb)
  have hmerge : ks.mergeSort (fun a b => (cmp a b).isLE) =
      ks.mergeSort fun a b => (all a b).isLE := by
    have h := List.map_mergeSort (r := fun a b => (cmp a b).isLE)
      (s := fun a b => (all a b).isLE) (f := id)
      fun a ha b hb => congrArg Ordering.isLE (hcmp a ha b hb)
    rwa [List.map_id, List.map_id] at h
  have hsorted : StablySorted all ks (ks.mergeSort fun a b => (cmp a b).isLE) :=
    hmerge ▸ StablySorted.mergeSort ks
  have hstable : StablySorted cmp ks (ks.mergeSort fun a b => (cmp a b).isLE) :=
    hsorted.congr fun a ha b hb => (hcmp a ha b hb).symm
  refine ⟨_, by rw [sortRows_eq, hks]; rfl, hstable, fun other hother => ?_, ?_⟩
  · exact (hother.congr hcmp).unique hsorted
  · refine hstable.ascending.imp_of_mem fun {a b} ha hb hab j hj => ?_
    exact nullsPlaced_of_compareKeys (hlength a (hstable.perm.mem_iff.1 ha))
      (hlength b (hstable.perm.mem_iff.1 hb)) hab hj

/-- Rows are sorted by a descending item with nulls in front, then by an ascending one: negative
zero is behind zero, NaN is above the numbers, and two rows are level. -/
theorem sortRows_stable_descending :
    let item (n : String) (descending : Bool) (nullsFirst : Option Bool) : SortItem Meaning :=
      ⟨.ofName n, descending, nullsFirst⟩
    let is := [item "x" true (some true), item "y" false none]
    let row (n : Nat) (x y : Value) : Projected := ⟨[("n", .count n)], [("x", x), ("y", y)], none⟩
    let rows := [row 0 (.num (.neg .zero)) .null, row 1 (.num .zero) (.bool true),
      row 2 (.num .nan) .null, row 3 (.num .zero) .null, row 4 .null (.bool false),
      row 5 (.num .zero) (.bool true)]
    let env : Env := ⟨⟨[], 0, .zero⟩, {}⟩
    ∃ ks sorted, keyed env is rows = .ok ks ∧
      sortRows env is rows = .ok (sorted.map Prod.snd) ∧
      StablySorted (fun a b => compareKeys is a.1 b.1) ks sorted ∧
      sorted.map (fun k => Dict.getD k.2.out "n" .null) =
        [4, 2, 1, 5, 3, 0].map Value.count := by
  intro item is row rows env
  let key (p : Projected) := ([Dict.getD p.scope "x" Value.null, Dict.getD p.scope "y" .null], p)
  let nth (i : Nat) := key (rows.getD i (row i .null .null))
  let cmp := fun a b : List Value × Projected => compareKeys is a.1 b.1
  have hks : keyed env is rows = .ok ((List.range 6).map nth) := rfl
  obtain ⟨sorted, hrows, hstable, hunique, -⟩ := ((sortRows_stable.2 is).2 env rows).2 _ hks
  have hties : ∀ i ∈ List.range 6, [4, 2, 1, 5, 3, 0].filter (fun j => cmp (nth i) (nth j) == .eq) =
      (List.range 6).filter fun j => cmp (nth i) (nth j) == .eq := by decide
  have hother : StablySorted cmp ((List.range 6).map nth) ([4, 2, 1, 5, 3, 0].map nth) :=
    { perm := .map nth (by decide)
      ascending := by decide
      ties := List.forall_mem_map.2 fun i hi => by
        rw [List.filter_map, List.filter_map]
        exact congrArg _ (hties i hi) }
  obtain rfl := hunique _ hother
  exact ⟨_, _, hks, hrows, hstable, rfl⟩

end Table

end PropertyGraph
