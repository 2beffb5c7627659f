/-!
# Numbers

The language has one kind of number, the binary64 double. A number is kept as its bit
pattern, so that order, equality and conversion to integers are arithmetic on naturals; only
the sign of a "not a number" is visible beyond what `Float` records.
-/

namespace PropertyGraph

/-- A double, as the 64 bits that hold it: sign, eleven bits of exponent, fraction. -/
structure Number where
  bits : UInt64
deriving DecidableEq

namespace Number

def ofFloat (x : Float) : Number := ⟨x.toBits⟩

def toFloat (n : Number) : Float := Float.ofBits n.bits

/-! ### The parts of a double -/

/-- The bit of the sign, the sixty-fourth. -/
def signBit : Nat := 0x8000000000000000

/-- One in the bits of the exponent; as a part of the significand, the bit in front of the
fraction, which is not stored. -/
def leadingBit : Nat := 0x10000000000000

/-- The bits below the sign, which order doubles of one sign by absolute value. -/
def magnitude (n : Number) : Nat := n.bits.toNat % signBit

def isNegative (n : Number) : Bool := decide (signBit ≤ n.bits.toNat)

/-- The magnitude of the infinities; what lies above it is not a number. -/
def infinite : Nat := 0x7FF0000000000000

def isNaN (n : Number) : Bool := decide (infinite < n.magnitude)

def isFinite (n : Number) : Bool := decide (n.magnitude < infinite)

/-- A finite number is `± significand · 2 ^ exponent`. -/
def significand (n : Number) : Nat :=
  let fraction := n.magnitude % leadingBit
  if n.magnitude / leadingBit = 0 then fraction else leadingBit + fraction

def exponent (n : Number) : Int :=
  let e : Nat := n.magnitude / leadingBit
  if e = 0 then -1074 else (e : Int) - 1075

/-- The number with a given sign and magnitude. -/
def ofMagnitude (negative : Bool) (m : Nat) : Number :=
  ⟨UInt64.ofNat (if negative then signBit + m else m)⟩

def zero : Number := ⟨0⟩

def one : Number := ⟨0x3FF0000000000000⟩

def nan : Number := ⟨0x7FF8000000000000⟩

/-- What an operation without a value gives: "not a number" with the sign set. -/
def invalid : Number := ⟨0xFFF8000000000000⟩

def infinity (negative : Bool) : Number := ofMagnitude negative infinite

instance : Inhabited Number := ⟨zero⟩

/-! ### Order and equality -/

/-- Numeric order of the numbers proper; both zeros have rank zero. -/
def rank (n : Number) : Int :=
  if n.isNegative then -(n.magnitude : Int) else n.magnitude

/-- Order of all doubles, in which `-0` is below `0` and the signs of NaN stand at the ends. -/
def totalRank (n : Number) : Int :=
  if n.isNegative then -(n.magnitude : Int) - 1 else n.magnitude

/-- Numeric comparison; NaN compares with nothing. -/
def compare? (a b : Number) : Option Ordering :=
  if a.isNaN || b.isNaN then none else some (compare a.rank b.rank)

/-- Numeric equality: the zeros are equal, and NaN differs from itself. -/
def equals (a b : Number) : Bool := a.compare? b == some .eq

def totalCompare (a b : Number) : Ordering := compare a.totalRank b.totalRank

/-- One representative of numbers that grouping does not tell apart. -/
def canonical (n : Number) : Number :=
  if n.magnitude = 0 then zero else if n.isNaN then nan else n

/-! ### Integers -/

/-- Whether a number is finite and has no fractional part. -/
def isIntegral (n : Number) : Bool :=
  n.isFinite &&
    (decide (0 ≤ n.exponent) ||
      (n.significand >>> (-n.exponent).toNat) <<< (-n.exponent).toNat == n.significand)

/-- The absolute value of a finite number, without its fractional part. -/
def wholePart (n : Number) : Nat :=
  if 0 ≤ n.exponent then n.significand <<< n.exponent.toNat
  else n.significand >>> (-n.exponent).toNat

/-- The integer part of a number, kept within `lo` and `hi`; zero for NaN. -/
def clampTo (lo hi : Int) (n : Number) : Int :=
  if n.isNaN then 0
  else if n.isFinite then
    max lo (min hi (if n.isNegative then -(n.wholePart : Int) else n.wholePart))
  else if n.isNegative then lo else hi

/-- The integer part, kept within 64 signed bits. -/
def toInt64 (n : Number) : Int := n.clampTo (-0x8000000000000000) 0x7FFFFFFFFFFFFFFF

/-- A non-negative number without fraction as a count, kept within 64 bits. -/
def toIndex? (n : Number) : Option Nat :=
  if n.isIntegral && decide (0 ≤ n.rank) then some (n.clampTo 0 0xFFFFFFFFFFFFFFFF).toNat else none

/-- The number `± m · 2 ^ e`, for `m` below `2 ^ 53` and `e` at least `-1074`. -/
def ofScaled (negative : Bool) (m : Nat) (e : Int) : Number :=
  if m = 0 then ofMagnitude negative 0
  else
    let shift := min (52 - m.log2) (e + 1074).toNat
    let m := m <<< shift
    let e := e - shift
    ofMagnitude negative
      (if m < leadingBit then m else (e + 1075).toNat * leadingBit + (m - leadingBit))

/-- The double nearest to an integer, ties to the even significand. -/
def ofNat (n : Nat) : Number :=
  if n < 2 * leadingBit then ofScaled false n 0 else ofFloat (Float.ofNat n)

def ofInt (i : Int) : Number :=
  let n := ofNat i.natAbs
  if i < 0 then ofMagnitude true n.magnitude else n

/-! ### Arithmetic -/

/-- Extends an operation on `Float` to NaN: an operand that is NaN is the result. -/
def lift (f : Float → Float → Float) (a b : Number) : Number :=
  if a.isNaN then a
  else if b.isNaN then b
  else
    let r := ofFloat (f a.toFloat b.toFloat)
    if r.isNaN then invalid else r

def add : Number → Number → Number := lift (· + ·)

def sub : Number → Number → Number := lift (· - ·)

def mul : Number → Number → Number := lift (· * ·)

def div : Number → Number → Number := lift (· / ·)

/-- Powers; `x ^ 0` and `1 ^ x` are one for every `x`, NaN included. -/
def pow (a b : Number) : Number :=
  let r := ofFloat (a.toFloat.pow b.toFloat)
  if !r.isNaN then r else if a.isNaN then a else if b.isNaN then b else invalid

/-- Remainder of division toward zero; it is exact and has the sign of `a`. -/
def rem (a b : Number) : Number :=
  if a.isNaN then a
  else if b.isNaN then b
  else if !a.isFinite || b.magnitude = 0 then invalid
  else if !b.isFinite then a
  else
    let e := min a.exponent b.exponent
    let scaled (n : Number) : Nat := n.significand <<< (n.exponent - e).toNat
    ofScaled a.isNegative (scaled a % scaled b) e

def neg (n : Number) : Number := ofMagnitude (!n.isNegative) n.magnitude

def abs (n : Number) : Number := ofMagnitude false n.magnitude

def sqrt (n : Number) : Number :=
  if n.isNaN then n
  else
    let r := ofFloat n.toFloat.sqrt
    if r.isNaN then invalid else r

/-- Rounds a finite number with a fraction to the whole number below or above in absolute
value, keeping the sign. -/
def roundWith (up : Bool → Bool) (n : Number) : Number :=
  if !n.isFinite || n.isIntegral then n
  else ofScaled n.isNegative (n.wholePart + if up n.isNegative then 1 else 0) 0

def trunc : Number → Number := roundWith fun _ => false

def floor : Number → Number := roundWith id

def ceil : Number → Number := roundWith not

/-- The nearest whole number; halves go up. -/
def round (n : Number) : Number := (n.add ⟨0x3FE0000000000000⟩).floor

/-- The sign as `-1`, `0` or `1`; zero for NaN. -/
def sign (n : Number) : Number :=
  if n.isNaN || n.magnitude = 0 then zero else if n.isNegative then one.neg else one

/-! ### Basic laws -/

@[simp] theorem totalCompare_self (n : Number) : n.totalCompare n = .eq := by
  simp [totalCompare]

theorem equals_iff {a b : Number} :
    a.equals b = true ↔ a.isNaN = false ∧ b.isNaN = false ∧ a.rank = b.rank := by
  by_cases ha : a.isNaN <;> by_cases hb : b.isNaN <;>
    simp [equals, compare?, ha, hb]

end Number

end PropertyGraph
