import Mathlib
import PropertyGraph.Number.Text

/-!
Whole numbers as doubles.

Below `2 ^ 53` they are doubles. Such a number is shifted until its significand is full, which has
53 bits; rounding leaves a full significand alone, also where it comes out of the product with one
that the decimal is read by.

From `2 ^ 53` on a count is rounded. It is shifted until 53 bits are left, and once more where
rounding up carries, so that the significand is full in the end; the exponent can only be too great,
and then the number is infinite. So what counts something is greater than zero in any case.

The other way around, a double without fraction is an integer of any size, and comes to 64 bits as
far as it goes.
-/

namespace PropertyGraph

namespace Number

open Float.Model Float.Model.UnpackedFloat

/-! ### Full significands -/

section Full

variable {m : Nat} {e : Int}

lemma log2_mul_two_pow_full (hl : 2 ^ 52 ≤ m) (hu : m < 2 ^ 53) (k : Nat) :
    (m * 2 ^ k).log2 = 52 + k := by
  refine (Nat.log2_eq_iff (Nat.mul_ne_zero (by omega) (by simp))).2 ⟨?_, ?_⟩
  · rw [Nat.pow_add]
    exact Nat.mul_le_mul_right _ hl
  · rw [show 52 + k + 1 = 53 + k by omega, Nat.pow_add]
    exact Nat.mul_lt_mul_of_pos_right hu (Nat.two_pow_pos k)

lemma shiftRight_zeros (m k : Nat) :
    (⟨m * 2 ^ k, false, false⟩ : ExtendedMantissa) >>> k = ⟨m, false, false⟩ := by
  change Nat.repeat ExtendedMantissa.shiftRightOne k _ = _
  induction k generalizing m with
  | zero => simp [Nat.repeat]
  | succ k ih =>
    rw [show m * 2 ^ (k + 1) = m * 2 * 2 ^ k by rw [Nat.pow_succ]; ac_rfl]
    simp [Nat.repeat, ih, ExtendedMantissa.shiftRightOne]

lemma shiftToTargetExponent_full (hl : 2 ^ 52 ≤ m) (hu : m < 2 ^ 53) (he : -1074 ≤ e) (k : Nat) :
    shiftToTargetExponent .binary64 (m * 2 ^ k) (e - k) .exact = (⟨m, false, false⟩, e) := by
  have ht : Format.binary64.targetExponent (totalExponent (m * 2 ^ k) (e - k)) = e := by
    simp only [Format.targetExponent, totalExponent, log2_mul_two_pow_full hl hu,
      Format.mantissaBits, Format.minExponent]
    omega
  have hk : (e - (e - k)).toNat = k := by omega
  simp only [shiftToTargetExponent, shiftToExponent, ht, hk,
    ExtendedMantissa.ofMantissaAndAccuracy, shiftRight_zeros, Int.sub_add_cancel]

lemma roundWithAccuracy_full (hl : 2 ^ 52 ≤ m) (hu : m < 2 ^ 53) (he : -1074 ≤ e) (k : Nat) :
    roundWithAccuracy .binary64 .positive (m * 2 ^ k) (e - k) .exact =
      .finite .positive m e (by omega) := by
  have h := shiftToTargetExponent_full hl hu he 0
  rw [Nat.pow_zero, Nat.mul_one, Int.natCast_zero, Int.sub_zero] at h
  simp only [roundWithAccuracy, shiftToTargetExponent_full hl hu he k,
    ExtendedMantissa.roundedMantissa, ExtendedMantissa.accuracy, Accuracy.roundToNearestEven, h]
  rw [dif_neg (by omega)]

lemma pack_full (hl : 2 ^ 52 ≤ m) (hu : m < 2 ^ 53) (hk : e ≤ 971) :
    UnpackedFloat.pack .binary64 (.finite .positive m e (by omega)) =
      packComponents .binary64 .positive (.ofNat 11 (e + 1075).toNat) (.ofNat 52 m) := by
  have hb : (e + (Format.binary64.exponentBias : Nat) + (52 : Nat)).toNat = (e + 1075).toNat := by
    simp only [Format.exponentBias]
    omega
  have hm := log2_mul_two_pow_full hl hu 0
  rw [Nat.pow_zero, Nat.mul_one] at hm
  simp only [UnpackedFloat.pack, hm, hb]
  rw [if_neg (by omega), if_pos (by rfl)]

lemma unpackSign_packComponents (s : Sign) (x : BitVec 11) (y : BitVec 52) :
    unpackSign (packComponents .binary64 s x y) = s.toBitVec := by
  ext i hi
  obtain rfl : i = 0 := by omega
  have h : (s.toBitVec ++ x ++ y).getLsbD 63 = s.toBitVec.getLsbD 0 := by
    rw [BitVec.getLsbD_append, BitVec.getLsbD_append]
    simp
  simpa [unpackSign, packComponents, ← BitVec.getLsbD_eq_getElem] using h

lemma unpack_pack_full (hl : 2 ^ 52 ≤ m) (hu : m < 2 ^ 53) (he : -1074 ≤ e) (hk : e ≤ 971) :
    (Float.Model.pack (.finite .positive m e (by omega))).unpack =
      .finite .positive m e (by omega) := by
  have hx : (BitVec.ofNat 11 (e + 1075).toNat).toNat = (e + 1075).toNat := by
    rw [BitVec.toNat_ofNat, Nat.mod_eq_of_lt (by omega)]
  have hx₁ : BitVec.ofNat 11 (e + 1075).toNat ≠ -1#11 := by
    intro h
    have := congrArg BitVec.toNat h
    simp only [hx, BitVec.reduceNeg, BitVec.reduceToNat] at this
    omega
  have hx₀ : BitVec.ofNat 11 (e + 1075).toNat ≠ 0#11 := by
    intro h
    have := congrArg BitVec.toNat h
    simp only [hx, BitVec.reduceToNat] at this
    omega
  have hm : (1#1 ++ BitVec.ofNat 52 m).toNat = m := by
    rw [BitVec.toNat_append, ← Nat.shiftLeft_add_eq_or_of_lt (BitVec.isLt _), BitVec.toNat_ofNat,
      Nat.shiftLeft_eq]
    change 1 * 2 ^ 52 + m % 2 ^ 52 = m
    omega
  simp only [Float.Model.unpack, Float.Model.pack, UnpackedFloat.unpack, pack_full hl hu hk,
    unpackMantissa_packComponents, unpackExponent_packComponents, unpackSign_packComponents,
    if_neg hx₁, if_neg hx₀, hx, hm]
  congr 1
  simp only [Format.exponentBias]
  omega

lemma toNat_packComponents {x : Nat} (hx : x < 2 ^ 11) (m : Nat) :
    (packComponents .binary64 .positive (.ofNat 11 x) (.ofNat 52 m)).toNat =
      x * 2 ^ 52 + m % 2 ^ 52 := by
  change (Sign.positive.toBitVec ++ BitVec.ofNat 11 x ++ BitVec.ofNat 52 m).toNat = _
  rw [BitVec.toNat_append, ← Nat.shiftLeft_add_eq_or_of_lt (BitVec.isLt _), BitVec.toNat_append,
    ← Nat.shiftLeft_add_eq_or_of_lt (BitVec.isLt _), BitVec.toNat_ofNat, BitVec.toNat_ofNat,
    Nat.mod_eq_of_lt hx, Nat.shiftLeft_eq, Nat.shiftLeft_eq]
  change (0 * 2 ^ 11 + x) * 2 ^ 52 + m % 2 ^ 52 = _
  omega

lemma ofFloat_pack_full (hl : 2 ^ 52 ≤ m) (hu : m < 2 ^ 53) (he : -1074 ≤ e) (hk : e ≤ 971) :
    ofFloat (.ofModel (.pack (.finite .positive m e (by omega)))) =
      ofMagnitude false ((e + 1075).toNat * leadingBit + (m - leadingBit)) := by
  have hn := toNat_packComponents (x := (e + 1075).toNat) (by omega) m
  rw [← pack_full hl hu hk] at hn
  refine congrArg Number.mk (UInt64.toNat_inj.1 ?_)
  rw [UInt64.toNat_ofNat', if_neg Bool.false_ne_true, leadingBit, Nat.mod_eq_of_lt (by omega)]
  refine hn.trans ?_
  omega

end Full

/-! ### Reading a whole number -/

lemma ofBits_one :
    Float.Model.ofBits 0x3FF0000000000000 =
      .pack (.finite .positive (2 ^ 52) (-52) (by decide)) := by
  decide +kernel

lemma normalize_full {n k : Nat} (h0 : n ≠ 0) (hk : 52 = n.log2 + k) (hl : 2 ^ 52 ≤ n * 2 ^ k)
    (hu : n * 2 ^ k < 2 ^ 53) :
    UnpackedFloat.normalize .binary64 n 0 .positive =
      .finite .positive (n * 2 ^ k) (-k) (by omega) := by
  have hc : compare (n : Int) 0 = .gt := by
    rw [Int.compare_eq_gt]
    omega
  have ht : (-Format.binary64.targetExponent (totalExponent n 0)).toNat = k := by
    simp only [Format.targetExponent, totalExponent, Format.mantissaBits, Format.minExponent]
    omega
  have h := roundWithAccuracy_full hl hu (e := -k) (by omega) 0
  simp only [UnpackedFloat.normalize, hc, UnpackedFloat.round, decreaseExponent, Int.toNat_natCast,
    Nat.shiftLeft_eq, Int.zero_sub, ht]
  simpa using h

lemma ofFloat_ofScientific {n : Nat} (hn : n < 2 ^ 53) (h0 : n ≠ 0) :
    ofFloat (Float.ofScientific n false 0) = ofScaled false n 0 := by
  have hlog : n.log2 ≤ 52 := by
    have := (Nat.log2_lt h0).2 hn
    omega
  obtain ⟨k, hk⟩ := Nat.exists_eq_add_of_le hlog
  have hl : 2 ^ 52 ≤ n * 2 ^ k := by
    rw [hk, Nat.pow_add]
    exact Nat.mul_le_mul_right _ (Nat.log2_self_le h0)
  have hu : n * 2 ^ k < 2 ^ 53 := by
    rw [show 53 = n.log2 + 1 + k by omega, Nat.pow_add]
    exact Nat.mul_lt_mul_of_pos_right Nat.lt_log2_self (Nat.two_pow_pos k)
  have hu' : n.toUInt64.toNat = n := by
    rw [Nat.toUInt64, UInt64.toNat_ofNat', Nat.mod_eq_of_lt (by omega)]
  -- The decimal is read as the integer times the power of ten, which is one.
  have hf : Float.ofScientific n false 0 =
      .ofModel (.pack (.finite .positive (n * 2 ^ k) (-k) (by omega))) := by
    have hfast : n < 2 ^ 53 ∧ 0 ≤ 22 := ⟨hn, by omega⟩
    simp only [Float.ofScientific, dif_pos hfast]
    change Float.ofModel (Float.Model.mul (.ofUInt64 n.toUInt64) (.ofBits 0x3FF0000000000000)) = _
    rw [ofBits_one, Float.Model.mul,
      unpack_pack_full (by decide) (by decide) (by decide) (by decide), Float.Model.ofUInt64,
      UnpackedFloat.ofUInt64, UnpackedFloat.ofNat, UnpackedFloat.ofInt, hu',
      normalize_full h0 hk hl hu, unpack_pack_full hl hu (by omega) (by omega)]
    exact congrArg (fun x => Float.ofModel (.pack x)) (roundWithAccuracy_full hl hu (by omega) 52)
  rw [hf, ofFloat_pack_full hl hu (by omega) (by omega), ofScaled, if_neg h0]
  have hs : min (52 - n.log2) ((0 : Int) + 1074).toNat = k := by omega
  simp only [hs, Nat.shiftLeft_eq, Int.zero_sub]
  rw [if_neg (by rw [leadingBit]; omega)]

/-- **Whole numbers below `2 ^ 53` are read exactly.** -/
theorem toNumber_whole {n : Nat} (hn : n < 2 ^ 53) :
    Decimal.toNumber false ⟨n, 0⟩ = ofNat n := by
  rw [ofNat, if_pos (by rw [leadingBit]; omega)]
  by_cases h0 : n = 0
  · simp [Decimal.toNumber, h0, ofScaled, ofMagnitude, zero]
  · have hlen : Decimal.length n ≤ 16 := by
      rw [Decimal.length, if_neg h0, Nat.length_toDigits_le_iff (by omega) (by omega)]
      omega
    simp only [Decimal.toNumber, h0, decide_false, Bool.false_or, decide_eq_true_eq, Int.add_zero]
    rw [if_neg Bool.false_ne_true, if_neg (by omega), if_neg (by omega)]
    exact ofFloat_ofScientific hn h0

/-! ### Positive numbers -/

/-- A number that is greater than zero. -/
def IsPositive (n : Number) : Prop := n.compare? zero = some .gt

lemma isPositive_ofMagnitude {m : Nat} (h0 : 0 < m) (h : m ≤ infinite) :
    (ofMagnitude false m).IsPositive := by
  have hbits : (ofMagnitude false m).bits.toNat = m := by
    rw [infinite] at h
    rw [ofMagnitude, if_neg Bool.false_ne_true, UInt64.toNat_ofNat', Nat.mod_eq_of_lt (by omega)]
  have hmag : (ofMagnitude false m).magnitude = m := by
    rw [infinite] at h
    rw [magnitude, hbits, signBit, Nat.mod_eq_of_lt (by omega)]
  have hnan : (ofMagnitude false m).isNaN = false := by simpa [isNaN, hmag] using h
  have hrank : (ofMagnitude false m).rank = m := by
    have hsign : m < signBit := by
      rw [infinite] at h
      rw [signBit]
      omega
    simp [rank, isNegative, hbits, hmag, hsign]
  rw [IsPositive, compare?, hnan, hrank, show zero.isNaN = false from rfl,
    show zero.rank = 0 from rfl, Bool.or_false, if_neg Bool.false_ne_true]
  exact congrArg some (Int.compare_eq_gt.2 (by omega))

/-! ### Rounding -/

lemma mantissa_shiftRight (x : ExtendedMantissa) (k : Nat) :
    (x >>> k).mantissa = x.mantissa / 2 ^ k := by
  change (Nat.repeat ExtendedMantissa.shiftRightOne k x).mantissa = _
  induction k with
  | zero => simp [Nat.repeat]
  | succ k ih => rw [Nat.repeat, ExtendedMantissa.shiftRightOne, ih, Nat.div_div_eq_div_mul,
      Nat.pow_succ]

lemma roundedMantissa_bounds (x : ExtendedMantissa) :
    x.mantissa ≤ x.roundedMantissa ∧ x.roundedMantissa ≤ x.mantissa + 1 := by
  obtain ⟨m, _ | _, _ | _⟩ := x <;>
    simp only [ExtendedMantissa.roundedMantissa, ExtendedMantissa.accuracy,
      Accuracy.roundToNearestEven] <;> omega

lemma shift_full {m k : Nat} (h0 : m ≠ 0) (hk : m.log2 = 52 + k) :
    2 ^ 52 ≤ m / 2 ^ k ∧ m / 2 ^ k < 2 ^ 53 := by
  have hl := Nat.log2_self_le h0
  have hu := Nat.lt_log2_self (n := m)
  rw [hk] at hl hu
  refine ⟨(Nat.le_div_iff_mul_le (Nat.two_pow_pos k)).2 ?_, (Nat.div_lt_iff_lt_mul
    (Nat.two_pow_pos k)).2 ?_⟩
  · rwa [← Nat.pow_add]
  · rwa [← Nat.pow_add, show 53 + k = 52 + k + 1 by omega]

/-- A significand of 53 bits or one more is shifted to 53 bits. -/
lemma shiftToTargetExponent_carry {m : Nat} {e : Int} (hl : 2 ^ 52 ≤ m) (hu : m ≤ 2 ^ 53)
    (he : -1074 ≤ e) {x : ExtendedMantissa} {e' : Int}
    (h : shiftToTargetExponent .binary64 m e .exact = (x, e')) :
    2 ^ 52 ≤ x.mantissa ∧ x.mantissa < 2 ^ 53 ∧ e ≤ e' := by
  by_cases hm : m = 2 ^ 53
  · have ht : Format.binary64.targetExponent (totalExponent m e) = e + 1 := by
      simp only [Format.targetExponent, totalExponent, hm, Nat.log2_two_pow, Format.mantissaBits,
        Format.minExponent]
      omega
    simp only [shiftToTargetExponent, shiftToExponent, ht, Prod.mk.injEq] at h
    obtain ⟨rfl, rfl⟩ := h
    have hone : (e + 1 - e).toNat = 1 := by omega
    rw [mantissa_shiftRight, hone]
    simp only [ExtendedMantissa.ofMantissaAndAccuracy, hm]
    omega
  · have hfull := shiftToTargetExponent_full hl (by omega) he 0
    rw [Nat.pow_zero, Nat.mul_one, Int.natCast_zero, Int.sub_zero, h] at hfull
    obtain ⟨rfl, rfl⟩ := Prod.mk.inj hfull
    exact ⟨hl, Nat.lt_of_le_of_ne hu hm, le_rfl⟩

/-- What is rounded has a full significand, if it has that many bits. -/
lemma roundWithAccuracy_long {m k : Nat} {e : Int} (h0 : m ≠ 0) (hk : m.log2 = 52 + k)
    (he : -1074 ≤ e + k) :
    ∃ (m' : Nat) (e' : Int) (h : 0 < m'),
      roundWithAccuracy .binary64 .positive m e .exact = .finite .positive m' e' h ∧
        2 ^ 52 ≤ m' ∧ m' < 2 ^ 53 ∧ -1074 ≤ e' := by
  have ht : Format.binary64.targetExponent (totalExponent m e) = e + k := by
    simp only [Format.targetExponent, totalExponent, hk, Format.mantissaBits, Format.minExponent]
    omega
  have hs : (e + k - e).toNat = k := by omega
  obtain ⟨x, hx⟩ : ∃ x, x = ExtendedMantissa.ofMantissaAndAccuracy m .exact >>> k := ⟨_, rfl⟩
  have hmant : x.mantissa = m / 2 ^ k := by
    rw [hx, mantissa_shiftRight]
    rfl
  obtain ⟨hl, hu⟩ := shift_full h0 hk
  obtain ⟨hlow, hhigh⟩ := roundedMantissa_bounds x
  obtain ⟨⟨y, e'⟩, hy⟩ :
      ∃ r, shiftToTargetExponent .binary64 x.roundedMantissa (e + k) .exact = r := ⟨_, rfl⟩
  obtain ⟨hyl, hyu, hle⟩ := shiftToTargetExponent_carry (by omega) (by omega) he hy
  refine ⟨y.mantissa, e', by omega, ?_, hyl, hyu, he.trans hle⟩
  simp only [roundWithAccuracy]
  rw [show shiftToTargetExponent .binary64 m e .exact = (x, e + k) by
    simp only [shiftToTargetExponent, shiftToExponent, ht, hs, hx]]
  simp only [hy]
  rw [dif_neg (by omega)]

lemma ofFloat_pack_infinite {m : Nat} {e : Int} (h : 0 < m) (he : 971 < e) :
    ofFloat (.ofModel (.pack (.finite .positive m e h))) = infinity false := by
  have hb : 2 ^ 11 ≤ (e + (Format.binary64.exponentBias : Nat) + (52 : Nat)).toNat + 1 := by
    simp only [Format.exponentBias]
    omega
  have hpack : UnpackedFloat.pack .binary64 (.finite .positive m e h) =
      packedInfinity .binary64 .positive := by
    simp only [UnpackedFloat.pack]
    rw [if_pos hb]
  refine congrArg Number.mk (UInt64.toNat_inj.1 ?_)
  change (UnpackedFloat.pack .binary64 (.finite .positive m e h)).toNat = _
  rw [hpack]
  decide

/-! ### Counts -/

/-- The magnitude that a full significand and its exponent are stored as. -/
lemma isPositive_of_full {m x : Nat} (hl : leadingBit ≤ m) (hu : m < 2 * leadingBit) (h0 : 0 < x)
    (hx : x ≤ 2046) : (ofMagnitude false (x * leadingBit + (m - leadingBit))).IsPositive := by
  rw [leadingBit] at *
  refine isPositive_ofMagnitude (by omega) ?_
  rw [infinite]
  omega

lemma isPositive_ofScaled {n : Nat} (h0 : n ≠ 0) (hn : n < 2 * leadingBit) :
    (ofScaled false n 0).IsPositive := by
  have hlog : n.log2 ≤ 52 := by
    have := (Nat.log2_lt (k := 53) h0).2 hn
    omega
  obtain ⟨k, hk⟩ := Nat.exists_eq_add_of_le hlog
  have hs : min (52 - n.log2) ((0 : Int) + 1074).toNat = k := by omega
  have hl : leadingBit ≤ n * 2 ^ k := by
    have := Nat.mul_le_mul_right (2 ^ k) (Nat.log2_self_le h0)
    rwa [← Nat.pow_add, ← hk] at this
  have hu : n * 2 ^ k < 2 * leadingBit := by
    have := Nat.mul_lt_mul_of_pos_right (Nat.lt_log2_self (n := n)) (Nat.two_pow_pos k)
    rwa [← Nat.pow_add, show n.log2 + 1 + k = 53 by omega] at this
  rw [ofScaled, if_neg h0]
  simp only [hs, Nat.shiftLeft_eq, if_neg (Nat.not_lt.2 hl)]
  exact isPositive_of_full hl hu (by omega) (by omega)

lemma isPositive_ofFloat_pack {m : Nat} {e : Int} (h : 0 < m) (hl : 2 ^ 52 ≤ m) (hu : m < 2 ^ 53)
    (he : -1074 ≤ e) : (ofFloat (.ofModel (.pack (.finite .positive m e h)))).IsPositive := by
  by_cases hbig : 971 < e
  · rw [ofFloat_pack_infinite h hbig]
    exact isPositive_ofMagnitude (by decide) le_rfl
  · rw [ofFloat_pack_full hl hu he (by omega)]
    exact isPositive_of_full hl hu (by omega) (by omega)

/-- **A count of something is greater than zero**, however it is rounded. -/
theorem isPositive_ofNat {n : Nat} (h0 : n ≠ 0) : (ofNat n).IsPositive := by
  rw [ofNat]
  split_ifs with hn
  · exact isPositive_ofScaled h0 hn
  · have hlog : 53 ≤ n.log2 := (Nat.le_log2 h0).2 (by rw [leadingBit] at hn; omega)
    have hshift : (n * 2 ^ 53).log2 = 52 + (n.log2 + 1) := by
      refine (Nat.log2_eq_iff (Nat.mul_ne_zero h0 (Nat.two_pow_pos 53).ne')).2 ⟨?_, ?_⟩
      · rw [show 52 + (n.log2 + 1) = n.log2 + 53 by omega, Nat.pow_add]
        exact Nat.mul_le_mul_right _ (Nat.log2_self_le h0)
      · rw [show 52 + (n.log2 + 1) + 1 = n.log2 + 1 + 53 by omega, Nat.pow_add]
        exact Nat.mul_lt_mul_of_pos_right Nat.lt_log2_self (Nat.two_pow_pos 53)
    -- The decimal is the count times a power of ten, which is one; both are exact.
    obtain ⟨m, e, h, hround, hl, hu, he⟩ := roundWithAccuracy_long (e := -53)
      (Nat.mul_ne_zero h0 (Nat.two_pow_pos 53).ne') hshift (by omega)
    have hmodel : Float.ofNat n = .ofModel (.pack (.finite .positive m e h)) := by
      rw [← hround]
      change Float.ofScientific n false 0 = _
      rw [Float.ofScientific, dif_neg (fun hsmall => hn (by rw [leadingBit]; omega))]
      have hnear : ¬ (2048 : Int) < -n.log2 := by omega
      simp [Float.Model.ofScientific, UnpackedFloat.ofScientific, h0, UnpackedFloat.mul, hnear,
        Nat.shiftLeft_eq, Format.mantissaBits]
      rfl
    rw [hmodel]
    exact isPositive_ofFloat_pack h hl hu he

/-! ### Integers -/

/-- The absolute value of a finite number. -/
def size (n : Number) : ℚ := n.significand * 2 ^ n.exponent

/-- A number is an integer. -/
def Is (n : Number) (i : Int) : Prop :=
  n.isFinite ∧ (if n.isNegative then -n.size else n.size) = i

variable {n : Number} {i : Int}

lemma size_nonneg (n : Number) : 0 ≤ n.size := by
  rw [size]
  exact mul_nonneg (Nat.cast_nonneg _) (zpow_nonneg zero_le_two _)

lemma size_eq_iff {m : Nat} : n.size = m ↔
    if 0 ≤ n.exponent then n.significand * 2 ^ n.exponent.toNat = m
    else n.significand = m * 2 ^ (-n.exponent).toNat := by
  rw [size]
  split_ifs with he
  · obtain ⟨k, hk⟩ := Int.eq_ofNat_of_zero_le he
    rw [hk, zpow_natCast, Int.toNat_natCast]
    exact_mod_cast Iff.rfl
  · obtain ⟨k, hk⟩ : ∃ k : Nat, n.exponent = -k := ⟨(-n.exponent).toNat, by omega⟩
    rw [hk, zpow_neg, zpow_natCast, ← div_eq_mul_inv, div_eq_iff (by positivity), neg_neg,
      Int.toNat_natCast]
    exact_mod_cast Iff.rfl

lemma wholePart_eq {m : Nat} (h : n.size = m) : n.wholePart = m := by
  rw [size_eq_iff] at h
  rw [wholePart]
  split_ifs at h ⊢
  · rw [Nat.shiftLeft_eq, h]
  · rw [Nat.shiftRight_eq_div_pow, h, Nat.mul_div_cancel _ (Nat.two_pow_pos _)]

lemma isIntegral_iff_size : n.isIntegral ↔ n.isFinite ∧ n.size = n.wholePart := by
  rw [isIntegral, Bool.and_eq_true, Bool.or_eq_true, decide_eq_true_eq, beq_iff_eq, size_eq_iff,
    wholePart, Nat.shiftLeft_eq, Nat.shiftLeft_eq]
  split_ifs with he
  · exact and_congr_right fun _ => ⟨fun _ => rfl, fun _ => .inl he⟩
  · exact and_congr_right fun _ => ⟨fun h => (h.resolve_left he).symm, fun h => .inr h.symm⟩

/-- **The numbers without fraction** are the integers among the doubles. -/
theorem is_iff : n.Is i ↔
    n.isIntegral ∧ i = if n.isNegative then -(n.wholePart : Int) else n.wholePart := by
  constructor
  · rintro ⟨hfinite, hi⟩
    obtain ⟨m, hm⟩ : ∃ m : Nat, n.size = m := by
      refine ⟨i.natAbs, ?_⟩
      rw [Nat.cast_natAbs, Int.cast_abs, ← hi]
      split_ifs
      · rw [abs_neg, abs_of_nonneg n.size_nonneg]
      · rw [abs_of_nonneg n.size_nonneg]
    have hwhole := wholePart_eq hm
    refine ⟨isIntegral_iff_size.2 ⟨hfinite, hwhole ▸ hm⟩, ?_⟩
    rw [hm] at hi
    rw [hwhole]
    split_ifs at hi ⊢ <;> exact_mod_cast hi.symm
  · rintro ⟨hintegral, rfl⟩
    obtain ⟨hfinite, hsize⟩ := isIntegral_iff_size.1 hintegral
    refine ⟨hfinite, ?_⟩
    rw [hsize]
    split_ifs <;> simp

/-- An integer as far as 64 bits go. -/
def saturated (i : Int) : Int64 := .ofInt (max (-2 ^ 63) (min (2 ^ 63 - 1) i))

lemma toInt_saturated (i : Int) : (saturated i).toInt = max (-2 ^ 63) (min (2 ^ 63 - 1) i) :=
  Int64.toInt_ofInt_of_le (by omega) (by omega)

/-- **An integer comes to 64 bits** as far as it goes. -/
lemma Is.toInt64 (h : n.Is i) : n.toInt64 = (saturated i).toInt := by
  obtain ⟨-, hi⟩ := is_iff.1 h
  have hnan : n.isNaN = false := by
    have hfinite := h.1
    rw [isFinite, decide_eq_true_eq] at hfinite
    simpa [isNaN] using hfinite.le
  rw [Number.toInt64, clampTo, hnan, if_neg Bool.false_ne_true, if_pos h.1, ← hi, toInt_saturated]
  rfl

end Number

end PropertyGraph
