import Mathlib.Tactic.Common
import PropertyGraph.Value.Order

/-!
Equality of the language is not reflexive: whether null is equal to null is unknown, and NaN is not
equal to NaN. What something is equal to, though, is equal to itself.
-/

namespace PropertyGraph

lemma Kleene.and_eq_true {a b : Option Bool} :
    Kleene.and a b = some true ↔ a = some true ∧ b = some true := by
  rcases a with _ | _ | _ <;> rcases b with _ | _ | _ <;> simp [Kleene.and]

lemma Number.equals_self_iff {n : Number} : n.equals n = true ↔ n.isNaN = false := by
  rw [Number.equals_iff]
  tauto

namespace Value

mutual

/-- Whether there is neither null nor NaN in a value, at any depth. -/
def isDefinite : Value → Bool
  | null => false
  | num n => !n.isNaN
  | list items => itemsDefinite items
  | map entries => entriesDefinite entries
  | _ => true

def itemsDefinite : List Value → Bool
  | [] => true
  | x :: xs => x.isDefinite && itemsDefinite xs

def entriesDefinite : List (String × Value) → Bool
  | [] => true
  | (_, x) :: xs => x.isDefinite && entriesDefinite xs

end

mutual

/-- **A value is equal to itself** if and only if there is neither null nor NaN in it. -/
theorem equals_self_iff (v : Value) : v.equals v = some true ↔ v.isDefinite := by
  cases v with
  | list items => rw [equals, isDefinite]; exact itemsEqual_self_iff items
  | map entries => rw [equals, isDefinite]; exact entriesEqual_self_iff entries
  | num n => simp [equals, isDefinite, Number.equals_self_iff]
  | _ => simp [equals, isDefinite]

lemma itemsEqual_self_iff (xs : List Value) : itemsEqual xs xs = some true ↔ itemsDefinite xs := by
  cases xs with
  | nil => simp [itemsEqual, itemsDefinite]
  | cons x xs =>
    rw [itemsEqual, itemsDefinite, Kleene.and_eq_true, Bool.and_eq_true, equals_self_iff x,
      itemsEqual_self_iff xs]

lemma entriesEqual_self_iff (es : List (String × Value)) :
    entriesEqual es es = some true ↔ entriesDefinite es := by
  match es with
  | [] => simp [entriesEqual, entriesDefinite]
  | (k, x) :: es =>
    rw [entriesEqual, entriesDefinite, if_pos rfl, Kleene.and_eq_true, Bool.and_eq_true,
      equals_self_iff x, entriesEqual_self_iff es]

end

mutual

lemma equals_self_of_equals {u v : Value} (h : u.equals v = some true) :
    v.equals v = some true := by
  cases u <;> cases v <;> simp only [equals, reduceCtorEq, Option.some.injEq] at h ⊢
  · simp
  · exact Number.equals_self_iff.2 (Number.equals_iff.1 h).2.1
  · simp
  · exact itemsEqual_self_of_itemsEqual h
  · exact entriesEqual_self_of_entriesEqual h
  · simp
  · simp
  · simp

lemma itemsEqual_self_of_itemsEqual {xs ys : List Value} (h : itemsEqual xs ys = some true) :
    itemsEqual ys ys = some true := by
  match xs, ys with
  | [], [] => rfl
  | [], _ :: _ | _ :: _, [] => simp [itemsEqual] at h
  | x :: xs, y :: ys =>
    rw [itemsEqual, Kleene.and_eq_true] at h ⊢
    exact ⟨equals_self_of_equals h.1, itemsEqual_self_of_itemsEqual h.2⟩

lemma entriesEqual_self_of_entriesEqual {ds es : List (String × Value)}
    (h : entriesEqual ds es = some true) : entriesEqual es es = some true := by
  match ds, es with
  | [], [] => rfl
  | [], _ :: _ | _ :: _, [] => simp [entriesEqual] at h
  | (j, x) :: ds, (k, y) :: es =>
    rw [entriesEqual] at h ⊢
    split_ifs at h with hjk
    · rw [Kleene.and_eq_true] at h
      rw [if_pos rfl, Kleene.and_eq_true]
      exact ⟨equals_self_of_equals h.1, entriesEqual_self_of_entriesEqual h.2⟩
    · simp at h

end

lemma equals_map_self_iff {es : List (String × Value)} :
    (map es).equals (map es) = some true ↔ ∀ e ∈ es, e.2.equals e.2 = some true := by
  rw [equals]
  induction es with
  | nil => simp [entriesEqual]
  | cons e es ih =>
    obtain ⟨k, x⟩ := e
    rw [entriesEqual, if_pos rfl, Kleene.and_eq_true, ih, List.forall_mem_cons]

end Value

end PropertyGraph
