import Mathlib.Tactic.Common
import PropertyGraph.Value.Order

/-!
The order that sorts is a total order of all values.

Values of different types stand as their types do. Within a type the order is that of the numbers'
bits, of the texts or of the ids, and goes through lists and maps from the front. So only a value
itself is level with it, and it is enough to show that what is smaller than something smaller is
smaller.
-/

namespace PropertyGraph

open Std

namespace Number

lemma toNat_bits (n : Number) :
    n.bits.toNat = (if n.isNegative then signBit else 0) + n.magnitude := by
  have hlt := n.bits.toNat_lt
  rw [isNegative, magnitude, signBit] at *
  split_ifs with h <;> rw [decide_eq_true_eq] at h <;> omega

lemma eq_of_magnitude {a b : Number} (hs : a.isNegative = b.isNegative)
    (hm : a.magnitude = b.magnitude) : a = b := by
  have hbits : a.bits.toNat = b.bits.toNat := by rw [toNat_bits, toNat_bits, hs, hm]
  cases a
  cases b
  exact congrArg mk (UInt64.toNat_inj.1 hbits)

/-- **No two numbers have one place** in the order of all doubles. -/
lemma totalRank_injective : Function.Injective totalRank := by
  intro a b h
  rw [totalRank, totalRank] at h
  split_ifs at h with ha hb hb
  · exact eq_of_magnitude (ha.trans hb.symm) (by omega)
  · omega
  · omega
  · exact eq_of_magnitude ((Bool.eq_false_iff.2 ha).trans (Bool.eq_false_iff.2 hb).symm) (by omega)

instance : TransCmp totalCompare :=
  inferInstanceAs (TransCmp (compareOn totalRank))

instance : LawfulEqCmp totalCompare where
  compare_self := totalCompare_self _
  eq_of_compare h := totalRank_injective (LawfulEqCmp.eq_of_compare h)

end Number

namespace Value

lemma compareIds_eq (a b : List Nat) : compareIds a b = compare a b := by
  induction a generalizing b with
  | nil => cases b <;> rfl
  | cons x xs ih =>
    cases b with
    | nil => rfl
    | cons y ys => rw [compareIds, ih, List.compare_cons_cons]

/-- The order of paths: by their nodes, then by their relationships. -/
def comparePaths (a b : Path) : Ordering :=
  (compareIds a.nodes b.nodes).then (compareIds a.rels b.rels)

instance : TransCmp comparePaths := by
  have h : comparePaths = compareLex (compareOn Path.nodes) (compareOn Path.rels) := by
    funext a b
    rw [comparePaths, compareIds_eq, compareIds_eq]
    rfl
  rw [h]
  infer_instance

instance : LawfulEqCmp comparePaths where
  compare_self := by
    intro a
    rw [comparePaths, compareIds_eq, compareIds_eq, Ordering.then_eq_eq]
    exact ⟨ReflCmp.compare_self, ReflCmp.compare_self⟩
  eq_of_compare := by
    intro a b h
    rw [comparePaths, compareIds_eq, compareIds_eq, Ordering.then_eq_eq,
      LawfulEqCmp.compare_eq_iff_eq, LawfulEqCmp.compare_eq_iff_eq] at h
    cases a
    cases b
    exact congrArg₂ Path.mk h.1 h.2

/-! ### Types -/

/-- Two values of one type. -/
inductive SameType : Value → Value → Prop
  | null : SameType null null
  | bool (a b : Bool) : SameType (bool a) (bool b)
  | num (a b : Number) : SameType (num a) (num b)
  | str (a b : String) : SameType (str a) (str b)
  | list (a b : List Value) : SameType (list a) (list b)
  | map (a b : List (String × Value)) : SameType (map a) (map b)
  | node (a b : NodeId) : SameType (node a) (node b)
  | rel (a b : RelId) : SameType (rel a) (rel b)
  | path (a b : Path) : SameType (path a) (path b)

variable {a b c : Value}

lemma sameType_of_typeRank (h : a.typeRank = b.typeRank) : SameType a b := by
  cases a <;> cases b <;> first | constructor | exact absurd h (by simp [typeRank])

lemma sortCompare_of_typeRank (h : a.typeRank ≠ b.typeRank) :
    a.sortCompare b = compare a.typeRank b.typeRank := by
  cases a <;> cases b <;> first | rfl | exact absurd rfl h

lemma typeRank_le_of_sortCompare (h : a.sortCompare b = .lt) : a.typeRank ≤ b.typeRank := by
  by_cases hr : a.typeRank = b.typeRank
  · omega
  · rw [sortCompare_of_typeRank hr, Nat.compare_eq_lt] at h
    omega

/-! ### The laws of an order -/

mutual

/-- **The order from the other side** is the reverse. -/
theorem sortCompare_swap (a b : Value) : a.sortCompare b = (b.sortCompare a).swap := by
  by_cases hr : a.typeRank = b.typeRank
  · cases sameType_of_typeRank hr with
    | null => rfl
    | bool a b => exact @OrientedCmp.eq_swap Bool compare _ a b
    | num a b => exact @OrientedCmp.eq_swap _ Number.totalCompare _ a b
    | str a b => exact @OrientedCmp.eq_swap String compare _ a b
    | list a b => exact sortCompareItems_swap a b
    | map a b => exact sortCompareEntries_swap a b
    | node a b => exact @OrientedCmp.eq_swap Nat compare _ a b
    | rel a b => exact @OrientedCmp.eq_swap Nat compare _ a b
    | path a b => exact @OrientedCmp.eq_swap _ comparePaths _ a b
  · rw [sortCompare_of_typeRank hr, sortCompare_of_typeRank (Ne.symm hr)]
    exact OrientedCmp.eq_swap

lemma sortCompareItems_swap (xs ys : List Value) :
    sortCompareItems xs ys = (sortCompareItems ys xs).swap := by
  match xs, ys with
  | [], [] | [], _ :: _ | _ :: _, [] => rfl
  | x :: xs, y :: ys =>
    rw [sortCompareItems, sortCompareItems, Ordering.swap_then, ← sortCompare_swap x y,
      ← sortCompareItems_swap xs ys]

lemma sortCompareEntries_swap (ds es : List (String × Value)) :
    sortCompareEntries ds es = (sortCompareEntries es ds).swap := by
  match ds, es with
  | [], [] | [], _ :: _ | _ :: _, [] => rfl
  | (j, x) :: ds, (k, y) :: es =>
    rw [sortCompareEntries, sortCompareEntries, Ordering.swap_then, Ordering.swap_then,
      ← OrientedCmp.eq_swap, ← sortCompare_swap x y, ← sortCompareEntries_swap ds es]

end

mutual

/-- **Only equal values are level.** -/
theorem sortCompare_eq_iff (a b : Value) : a.sortCompare b = .eq ↔ a = b := by
  by_cases hr : a.typeRank = b.typeRank
  · cases sameType_of_typeRank hr with
    | null => exact iff_of_true rfl rfl
    | bool a b => rw [sortCompare, LawfulEqCmp.compare_eq_iff_eq, bool.injEq]
    | num a b => rw [sortCompare, LawfulEqCmp.compare_eq_iff_eq, num.injEq]
    | str a b => rw [sortCompare, LawfulEqCmp.compare_eq_iff_eq, str.injEq]
    | list a b => rw [sortCompare, sortCompareItems_eq_iff a b, list.injEq]
    | map a b => rw [sortCompare, sortCompareEntries_eq_iff a b, map.injEq]
    | node a b => rw [sortCompare, LawfulEqCmp.compare_eq_iff_eq, node.injEq]
    | rel a b => rw [sortCompare, LawfulEqCmp.compare_eq_iff_eq, rel.injEq]
    | path a b =>
      rw [sortCompare, ← comparePaths, LawfulEqCmp.compare_eq_iff_eq, path.injEq]
  · rw [sortCompare_of_typeRank hr, LawfulEqCmp.compare_eq_iff_eq]
    exact iff_of_false hr fun h => hr (congrArg typeRank h)

lemma sortCompareItems_eq_iff (xs ys : List Value) : sortCompareItems xs ys = .eq ↔ xs = ys := by
  match xs, ys with
  | [], [] => exact iff_of_true rfl rfl
  | [], _ :: _ | _ :: _, [] => exact iff_of_false nofun nofun
  | x :: xs, y :: ys =>
    rw [sortCompareItems, Ordering.then_eq_eq, sortCompare_eq_iff x y,
      sortCompareItems_eq_iff xs ys, List.cons.injEq]

lemma sortCompareEntries_eq_iff (ds es : List (String × Value)) :
    sortCompareEntries ds es = .eq ↔ ds = es := by
  match ds, es with
  | [], [] => exact iff_of_true rfl rfl
  | [], _ :: _ | _ :: _, [] => exact iff_of_false nofun nofun
  | (j, x) :: ds, (k, y) :: es =>
    rw [sortCompareEntries, Ordering.then_eq_eq, Ordering.then_eq_eq,
      LawfulEqCmp.compare_eq_iff_eq, sortCompare_eq_iff x y, sortCompareEntries_eq_iff ds es,
      List.cons.injEq, Prod.mk.injEq]

end

/-- What is smaller in front, or level there and smaller behind, is smaller than what is so. -/
lemma then_lt_trans {o₁ o₂ o₃ p₁ p₂ p₃ : Ordering} (hlt : o₁ = .lt → o₂ = .lt → o₃ = .lt)
    (hleft : o₁ = .eq → o₂ = o₃) (hright : o₂ = .eq → o₁ = o₃)
    (hp : p₁ = .lt → p₂ = .lt → p₃ = .lt) (h₁ : o₁.then p₁ = .lt) (h₂ : o₂.then p₂ = .lt) :
    o₃.then p₃ = .lt := by
  rw [Ordering.then_eq_lt] at h₁ h₂ ⊢
  rcases h₁ with h₁ | ⟨h₁, hp₁⟩ <;> rcases h₂ with h₂ | ⟨h₂, hp₂⟩
  · exact .inl (hlt h₁ h₂)
  · exact .inl ((hright h₂).symm.trans h₁)
  · exact .inl ((hleft h₁).symm.trans h₂)
  · exact .inr ⟨(hleft h₁).symm.trans h₂, hp hp₁ hp₂⟩

/-- What is level with a value is that value, so that both compare alike with a third. -/
lemma sortCompare_congr_left (h : a.sortCompare b = .eq) (c : Value) :
    b.sortCompare c = a.sortCompare c := by
  rw [(sortCompare_eq_iff a b).1 h]

lemma sortCompare_congr_right (h : b.sortCompare c = .eq) (a : Value) :
    a.sortCompare b = a.sortCompare c := by
  rw [(sortCompare_eq_iff b c).1 h]

mutual

/-- **What is smaller than something smaller is smaller.** -/
theorem sortCompare_trans {a b c : Value} (hab : a.sortCompare b = .lt)
    (hbc : b.sortCompare c = .lt) : a.sortCompare c = .lt := by
  have hle₁ := typeRank_le_of_sortCompare hab
  have hle₂ := typeRank_le_of_sortCompare hbc
  by_cases hr : a.typeRank = c.typeRank
  · cases sameType_of_typeRank (a := a) (b := b) (by omega) with
    | null => cases hab
    | bool a b => cases c with
      | bool c => exact @TransCmp.lt_trans Bool compare _ _ _ _ hab hbc
      | _ => cases hr
    | num a b => cases c with
      | num c => exact @TransCmp.lt_trans _ Number.totalCompare _ _ _ _ hab hbc
      | _ => cases hr
    | str a b => cases c with
      | str c => exact @TransCmp.lt_trans String compare _ _ _ _ hab hbc
      | _ => cases hr
    | list a b => cases c with
      | list c => exact sortCompareItems_trans hab hbc
      | _ => cases hr
    | map a b => cases c with
      | map c => exact sortCompareEntries_trans hab hbc
      | _ => cases hr
    | node a b => cases c with
      | node c => exact @TransCmp.lt_trans Nat compare _ _ _ _ hab hbc
      | _ => cases hr
    | rel a b => cases c with
      | rel c => exact @TransCmp.lt_trans Nat compare _ _ _ _ hab hbc
      | _ => cases hr
    | path a b => cases c with
      | path c => exact @TransCmp.lt_trans _ comparePaths _ _ _ _ hab hbc
      | _ => cases hr
  · rw [sortCompare_of_typeRank hr, Nat.compare_eq_lt]
    omega

lemma sortCompareItems_trans {xs ys zs : List Value} (hxy : sortCompareItems xs ys = .lt)
    (hyz : sortCompareItems ys zs = .lt) : sortCompareItems xs zs = .lt := by
  match xs, ys, zs with
  | [], [], _ | _ :: _, [], _ => cases hxy
  | _, _ :: _, [] => cases hyz
  | [], _ :: _, _ :: _ => rfl
  | x :: xs, y :: ys, z :: zs =>
    exact then_lt_trans sortCompare_trans (sortCompare_congr_left · z) (sortCompare_congr_right · x)
      sortCompareItems_trans hxy hyz

lemma sortCompareEntries_trans {cs ds es : List (String × Value)}
    (hcd : sortCompareEntries cs ds = .lt) (hde : sortCompareEntries ds es = .lt) :
    sortCompareEntries cs es = .lt := by
  match cs, ds, es with
  | [], [], _ | _ :: _, [], _ => cases hcd
  | _, _ :: _, [] => cases hde
  | [], _ :: _, _ :: _ => rfl
  | (i, x) :: cs, (j, y) :: ds, (k, z) :: es =>
    refine then_lt_trans (then_lt_trans TransCmp.lt_trans ?_ ?_ sortCompare_trans) ?_ ?_
      sortCompareEntries_trans hcd hde
    · exact fun h => by rw [LawfulEqCmp.eq_of_compare h]
    · exact fun h => by rw [LawfulEqCmp.eq_of_compare h]
    · intro h
      rw [Ordering.then_eq_eq, LawfulEqCmp.compare_eq_iff_eq, sortCompare_eq_iff] at h
      rw [h.1, h.2]
    · intro h
      rw [Ordering.then_eq_eq, LawfulEqCmp.compare_eq_iff_eq, sortCompare_eq_iff] at h
      rw [h.1, h.2]

end

instance : LawfulEqCmp sortCompare where
  compare_self := (sortCompare_eq_iff _ _).2 rfl
  eq_of_compare := (sortCompare_eq_iff _ _).1

instance : TransCmp sortCompare where
  eq_swap := sortCompare_swap _ _
  isLE_trans := by
    intro a b c hab hbc
    rw [Ordering.isLE_iff_eq_lt_or_eq_eq] at *
    rcases hab with hab | hab <;> rcases hbc with hbc | hbc
    · exact .inl (sortCompare_trans hab hbc)
    · exact .inl ((sortCompare_congr_right hbc a).symm.trans hab)
    · exact .inl ((sortCompare_congr_left hab c).symm.trans hbc)
    · exact .inr ((sortCompare_congr_right hbc a).symm.trans hab)

end Value

end PropertyGraph
