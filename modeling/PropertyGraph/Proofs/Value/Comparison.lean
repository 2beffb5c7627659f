import PropertyGraph.Proofs.Value.Order

/-!
The order of the comparison operators against the order that sorts.

Both compare lists from the front, and both tell numbers apart by their size. But for the operators
the two zeros are one number, and in the order that sorts negative zero is below zero. As the first
place where two lists differ decides, this can even turn the order of two lists around.
-/

namespace PropertyGraph

namespace Number

/-- Whether two numbers are other than the two zeros. -/
def zerosAlike (a b : Number) : Bool :=
  decide (a.magnitude = 0 ∧ b.magnitude = 0 → a.isNegative = b.isNegative)

lemma totalRank_lt_iff {a b : Number} (hz : a.zerosAlike b) :
    (a.totalRank < b.totalRank ↔ a.rank < b.rank) ∧
      (b.totalRank < a.totalRank ↔ b.rank < a.rank) := by
  rw [zerosAlike, decide_eq_true_eq] at hz
  rw [totalRank, totalRank, rank, rank]
  cases ha : a.isNegative <;> cases hb : b.isNegative <;> simp only [ha, hb] at hz <;>
    simp at hz ⊢ <;> omega

lemma totalCompare_of_compare {a b : Number} {o : Ordering} (h : a.compare? b = some o)
    (hz : a.zerosAlike b) : a.totalCompare b = o := by
  rw [compare?] at h
  split_ifs at h
  rw [← Option.some.inj h, totalCompare, Int.compare_eq_ite_lt, Int.compare_eq_ite_lt]
  simp only [totalRank_lt_iff hz]

end Number

namespace Value

/-! ### Zeros -/

mutual

/-- Whether nowhere in two values, at the same place of lists, the two zeros stand against each
other. -/
def zerosAlike : Value → Value → Bool
  | num a, num b => a.zerosAlike b
  | list a, list b => itemZerosAlike a b
  | _, _ => true

def itemZerosAlike : List Value → List Value → Bool
  | x :: xs, y :: ys => x.zerosAlike y && itemZerosAlike xs ys
  | _, _ => true

end

mutual

lemma zerosAlike_self (v : Value) : v.zerosAlike v := by
  cases v with
  | num n => simp [zerosAlike, Number.zerosAlike]
  | list xs => exact itemZerosAlike_self xs
  | _ => rfl

lemma itemZerosAlike_self (xs : List Value) : itemZerosAlike xs xs := by
  cases xs with
  | nil => rfl
  | cons x xs => rw [itemZerosAlike, zerosAlike_self x, itemZerosAlike_self xs]; rfl

end

/-! ### The two orders -/

mutual

lemma sortCompare_of_compare {a b : Value} {o : Ordering} (h : a.compare? b = some o)
    (hz : a.zerosAlike b) : a.sortCompare b = o := by
  cases a <;> cases b <;> simp only [compare?, reduceCtorEq] at h
  case bool.bool => exact Option.some.inj h
  case num.num => exact Number.totalCompare_of_compare h hz
  case str.str => exact Option.some.inj h
  case list.list => exact sortCompareItems_of_compare h hz

lemma sortCompareItems_of_compare {xs ys : List Value} {o : Ordering}
    (h : compareItems? xs ys = some o) (hz : itemZerosAlike xs ys) :
    sortCompareItems xs ys = o := by
  match xs, ys with
  | [], [] | [], _ :: _ | _ :: _, [] => exact Option.some.inj h
  | x :: xs, y :: ys =>
    rw [compareItems?] at h
    rw [itemZerosAlike, Bool.and_eq_true] at hz
    rw [sortCompareItems]
    split at h
    next hxy =>
      -- the first items are level, so the others decide
      rw [sortCompare_of_compare hxy hz.1, sortCompareItems_of_compare h hz.2]
      rfl
    next r hne =>
      rw [sortCompare_of_compare h hz.1]
      cases o with
      | lt => rfl
      | gt => rfl
      | eq => exact absurd h hne

end

end Value

end PropertyGraph
