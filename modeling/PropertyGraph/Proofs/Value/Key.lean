import PropertyGraph.Proofs.Value.Equality
import PropertyGraph.Proofs.Value.Order

/-!
The keys of values against the equality of the language.

Grouping knows no null and no NaN that differ: the key of null is null, and NaN has one key. Apart
from these two, values have one key exactly if they are equal, also the two zeros. So equal values
have one key in any case, and values of one key can only fail to be equal where null makes that
unknown or NaN makes it false.
-/

namespace PropertyGraph

namespace Kleene

lemma and_ne_false {a b : Option Bool} (ha : a ≠ some false) (hb : b ≠ some false) :
    Kleene.and a b ≠ some false := by
  rcases a with _ | _ | _ <;> rcases b with _ | _ | _ <;> simp_all [Kleene.and]

end Kleene

namespace Number

lemma rank_eq_zero_iff {n : Number} : n.rank = 0 ↔ n.magnitude = 0 := by
  rw [rank]
  split_ifs <;> omega

lemma eq_of_rank {a b : Number} (h : a.rank = b.rank) (ha : a.magnitude ≠ 0) : a = b := by
  rw [rank, rank] at h
  split_ifs at h with hsa hsb hsb
  · exact eq_of_magnitude (hsa.trans hsb.symm) (by omega)
  · omega
  · omega
  · have hsign := (Bool.eq_false_iff.2 hsa).trans (Bool.eq_false_iff.2 hsb).symm
    exact eq_of_magnitude hsign (by omega)

lemma canonical_of_magnitude_eq_zero {n : Number} (h : n.magnitude = 0) : n.canonical = zero :=
  if_pos h

lemma canonical_eq_self {n : Number} (h : n.magnitude ≠ 0) (hn : n.isNaN = false) :
    n.canonical = n := by
  rw [canonical, if_neg h, if_neg (by simp [hn])]

lemma isNaN_canonical (n : Number) : n.canonical.isNaN = n.isNaN := by
  by_cases h : n.magnitude = 0
  · have hn : n.isNaN = false := by rw [isNaN, h]; rfl
    rw [canonical_of_magnitude_eq_zero h, hn]
    rfl
  · cases hn : n.isNaN with
    | true => rw [canonical, if_neg h, if_pos hn]; decide
    | false => rw [canonical_eq_self h hn, hn]

/-- **Numbers proper have one key exactly if they are equal.** -/
lemma canonical_eq_iff {a b : Number} (ha : a.isNaN = false) (hb : b.isNaN = false) :
    a.canonical = b.canonical ↔ a.equals b = true := by
  rw [equals_iff]
  simp only [ha, hb, true_and]
  by_cases ha₀ : a.magnitude = 0 <;> by_cases hb₀ : b.magnitude = 0
  · rw [canonical_of_magnitude_eq_zero ha₀, canonical_of_magnitude_eq_zero hb₀,
      rank_eq_zero_iff.2 ha₀, rank_eq_zero_iff.2 hb₀]
    exact iff_of_true rfl rfl
  · rw [canonical_of_magnitude_eq_zero ha₀, canonical_eq_self hb₀ hb, rank_eq_zero_iff.2 ha₀]
    exact iff_of_false (fun h => hb₀ (h ▸ rfl)) fun h => hb₀ (rank_eq_zero_iff.1 h.symm)
  · rw [canonical_eq_self ha₀ ha, canonical_of_magnitude_eq_zero hb₀, rank_eq_zero_iff.2 hb₀]
    exact iff_of_false (fun h => ha₀ (h ▸ rfl)) fun h => ha₀ (rank_eq_zero_iff.1 h)
  · rw [canonical_eq_self ha₀ ha, canonical_eq_self hb₀ hb]
    exact ⟨fun h => h ▸ rfl, fun h => eq_of_rank h ha₀⟩

end Number

namespace Value

/-! ### Nulls and NaN -/

mutual

/-- Whether what is neither a list nor a map satisfies a condition, somewhere in a value. -/
def anyLeaf (p : Value → Bool) : Value → Bool
  | list items => anyItemLeaf p items
  | map entries => anyEntryLeaf p entries
  | v => p v

def anyItemLeaf (p : Value → Bool) : List Value → Bool
  | [] => false
  | x :: xs => x.anyLeaf p || anyItemLeaf p xs

def anyEntryLeaf (p : Value → Bool) : List (String × Value) → Bool
  | [] => false
  | (_, x) :: xs => x.anyLeaf p || anyEntryLeaf p xs

end

def isNaN : Value → Bool
  | num n => n.isNaN
  | _ => false

/-- Whether there is a null in a value, at any depth. -/
def hasNull (v : Value) : Bool := v.anyLeaf isNull

/-- Whether there is NaN in a value, at any depth. -/
def hasNaN (v : Value) : Bool := v.anyLeaf isNaN

/-! ### Equal values have one key -/

mutual

/-- **Equal values have one key.** -/
theorem key_eq_of_equals {a b : Value} (h : a.equals b = some true) : a.key = b.key := by
  cases a <;> cases b <;> simp only [equals, reduceCtorEq, Option.some.injEq, beq_iff_eq] at h
  case num.num m n =>
    have hmn := Number.equals_iff.1 h
    exact congrArg num ((Number.canonical_eq_iff hmn.1 hmn.2.1).2 h)
  case list.list xs ys => exact congrArg list (itemKeys_eq_of_itemsEqual h)
  case map.map ds es => exact congrArg map (entryKeys_eq_of_entriesEqual h)
  all_goals rw [h]

lemma itemKeys_eq_of_itemsEqual {xs ys : List Value} (h : itemsEqual xs ys = some true) :
    itemKeys xs = itemKeys ys := by
  match xs, ys with
  | [], [] => rfl
  | [], _ :: _ | _ :: _, [] => simp [itemsEqual] at h
  | x :: xs, y :: ys =>
    rw [itemsEqual, Kleene.and_eq_true] at h
    rw [itemKeys, itemKeys, key_eq_of_equals h.1, itemKeys_eq_of_itemsEqual h.2]

lemma entryKeys_eq_of_entriesEqual {ds es : List (String × Value)}
    (h : entriesEqual ds es = some true) : entryKeys ds = entryKeys es := by
  match ds, es with
  | [], [] => rfl
  | [], _ :: _ | _ :: _, [] => simp [entriesEqual] at h
  | (j, x) :: ds, (k, y) :: es =>
    rw [entriesEqual] at h
    split_ifs at h with hjk
    · rw [Kleene.and_eq_true] at h
      rw [entryKeys, entryKeys, hjk, key_eq_of_equals h.1, entryKeys_eq_of_entriesEqual h.2]
    · cases h

end

/-! ### Values of one key -/

mutual

/-- **Values of one key are equal** if there is no null in them, and never unequal, as long as there
is no NaN. -/
theorem equals_of_key_eq {a b : Value} (ha : a.hasNaN = false) (h : a.key = b.key) :
    a.equals b ≠ some false ∧ (a.hasNull = false → a.equals b = some true) := by
  cases a <;> cases b <;> simp only [key, reduceCtorEq] at h
  case null.null => exact ⟨nofun, nofun⟩
  case num.num m n =>
    have hkey := num.inj h
    have hn : n.isNaN = false := by
      rw [← Number.isNaN_canonical, ← hkey, Number.isNaN_canonical]
      exact ha
    rw [equals, (Number.canonical_eq_iff ha hn).1 hkey]
    simp
  case list.list xs ys => exact itemsEqual_of_itemKeys_eq ha (list.inj h)
  case map.map ds es => exact entriesEqual_of_entryKeys_eq ha (map.inj h)
  all_goals
    rw [h]
    simp [equals]

lemma itemsEqual_of_itemKeys_eq {xs ys : List Value} (hxs : anyItemLeaf isNaN xs = false)
    (h : itemKeys xs = itemKeys ys) : itemsEqual xs ys ≠ some false ∧
      (anyItemLeaf isNull xs = false → itemsEqual xs ys = some true) := by
  match xs, ys with
  | [], [] => exact ⟨nofun, fun _ => rfl⟩
  | [], _ :: _ | _ :: _, [] => simp [itemKeys] at h
  | x :: xs, y :: ys =>
    rw [itemKeys, itemKeys, List.cons.injEq] at h
    rw [anyItemLeaf, Bool.or_eq_false_iff] at hxs
    obtain ⟨hne, heq⟩ := equals_of_key_eq hxs.1 h.1
    obtain ⟨hnes, heqs⟩ := itemsEqual_of_itemKeys_eq hxs.2 h.2
    rw [itemsEqual, anyItemLeaf, Bool.or_eq_false_iff, Kleene.and_eq_true]
    exact ⟨Kleene.and_ne_false hne hnes, fun hn => ⟨heq hn.1, heqs hn.2⟩⟩

lemma entriesEqual_of_entryKeys_eq {ds es : List (String × Value)}
    (hds : anyEntryLeaf isNaN ds = false) (h : entryKeys ds = entryKeys es) :
    entriesEqual ds es ≠ some false ∧
      (anyEntryLeaf isNull ds = false → entriesEqual ds es = some true) := by
  match ds, es with
  | [], [] => exact ⟨nofun, fun _ => rfl⟩
  | [], _ :: _ | _ :: _, [] => simp [entryKeys] at h
  | (j, x) :: ds, (k, y) :: es =>
    rw [entryKeys, entryKeys, List.cons.injEq, Prod.mk.injEq] at h
    rw [anyEntryLeaf, Bool.or_eq_false_iff] at hds
    obtain ⟨hne, heq⟩ := equals_of_key_eq hds.1 h.1.2
    obtain ⟨hnes, heqs⟩ := entriesEqual_of_entryKeys_eq hds.2 h.2
    rw [entriesEqual, if_pos h.1.1, anyEntryLeaf, Bool.or_eq_false_iff, Kleene.and_eq_true]
    exact ⟨Kleene.and_ne_false hne hnes, fun hn => ⟨heq hn.1, heqs hn.2⟩⟩

end

end Value

end PropertyGraph
