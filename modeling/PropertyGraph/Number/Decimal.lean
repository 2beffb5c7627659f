import PropertyGraph.Number

/-!
# Decimals of a number

Two directions: the number nearest to a decimal, and the shortest decimal that reads back as
a given number. The second is a search in exact arithmetic: on the grid of decimals with
1, 2, .. 17 digits, only the two neighbours of the number can lie in the interval of reals
that round to it.
-/

namespace PropertyGraph

/-- The decimal `digits · 10 ^ exponent`. -/
structure Decimal where
  digits : Nat
  exponent : Int
deriving DecidableEq

namespace Decimal

/-- Number of decimal digits; zero has none. -/
def length (n : Nat) : Nat := if n = 0 then 0 else (Nat.toDigits 10 n).length

/-- The double nearest to a decimal. Decimals beyond every finite double, or below half of
the least one, are decided by their length alone. -/
def toNumber (negative : Bool) (d : Decimal) : Number :=
  let size := (length d.digits : Int) + d.exponent
  let n :=
    if d.digits = 0 || size < -330 then Number.zero
    else if 320 < size then Number.infinity false
    else .ofFloat (Float.ofScientific d.digits (decide (d.exponent < 0)) d.exponent.natAbs)
  if negative then n.neg else n

/-- A positive real as a quotient of naturals. -/
structure Ratio where
  num : Nat
  den : Nat

namespace Ratio

def le (a b : Ratio) : Bool := decide (a.num * b.den ≤ b.num * a.den)

def lt (a b : Ratio) : Bool := decide (a.num * b.den < b.num * a.den)

/-- `m · 2 ^ e` -/
def binary (m : Nat) (e : Int) : Ratio :=
  if 0 ≤ e then ⟨m <<< e.toNat, 1⟩ else ⟨m, 1 <<< (-e).toNat⟩

/-- `m · 10 ^ e` -/
def decimal (m : Nat) (e : Int) : Ratio :=
  if 0 ≤ e then ⟨m * Nat.pow 10 e.toNat, 1⟩ else ⟨m, Nat.pow 10 (-e).toNat⟩

/-- The exponent of the first decimal digit, from a first guess that is off by one at most. -/
def leadingExponent (r : Ratio) (guess : Int) : Int :=
  if (decimal 1 (guess + 1)).le r then guess + 1
  else if (decimal 1 guess).le r then guess
  else guess - 1

/-- The whole multiples of `10 ^ e` in `r`. -/
def multiples (r : Ratio) (e : Int) : Nat :=
  if 0 ≤ e then r.num / (r.den * Nat.pow 10 e.toNat) else r.num * Nat.pow 10 (-e).toNat / r.den

end Ratio

/-- The reals that round to a finite positive number. -/
structure Interval where
  lower : Ratio
  upper : Ratio
  closed : Bool

def Interval.contains (i : Interval) (r : Ratio) : Bool :=
  if i.closed then i.lower.le r && r.le i.upper else i.lower.lt r && r.lt i.upper

/-- The interval reaches half way to the neighbours; below a power of two the lower one is
twice as near. Its ends round to an even significand only. -/
def interval (n : Number) : Interval :=
  let m := n.significand
  let e := n.exponent
  let below := if m = Number.leadingBit && decide (-1074 < e) then 4 * m - 1 else 4 * m - 2
  ⟨.binary below (e - 2), .binary (4 * m + 2) (e - 2), m % 2 == 0⟩

/-- The candidate on the grid of multiples of `10 ^ e`: the nearer neighbour that lies in the
interval, the upper one if both are as near. -/
def onGrid? (value : Ratio) (i : Interval) (e : Int) : Option Nat :=
  let low := value.multiples e
  let inLow := i.contains (.decimal low e)
  let inHigh := i.contains (.decimal (low + 1) e)
  let middle := Ratio.decimal (2 * low + 1) e
  let upperHalf := middle.le ⟨2 * value.num, value.den⟩
  if inLow && inHigh then some (if upperHalf then low + 1 else low)
  else if inLow then some low
  else if inHigh then some (low + 1)
  else none

/-- Tries the grids with ever more digits. -/
def search (value : Ratio) (i : Interval) : Nat → Int → Decimal
  | 0, e => ⟨value.multiples e, e⟩
  | fuel + 1, e =>
    match onGrid? value i e with
    | some d => ⟨d, e⟩
    | none => search value i fuel (e - 1)

/-- Moves the zeros at the end of the digits into the exponent. -/
def trim : Nat → Decimal → Decimal
  | 0, d => d
  | fuel + 1, d =>
    if d.digits ≠ 0 ∧ d.digits % 10 = 0 then trim fuel ⟨d.digits / 10, d.exponent + 1⟩ else d

/-- The shortest decimal that reads back as the absolute value of a finite number, and of
those the nearest. -/
def shortest (n : Number) : Decimal :=
  let m := n.significand
  if m = 0 then ⟨0, 0⟩
  else
    let value := Ratio.binary m n.exponent
    let lead := value.leadingExponent (((m.log2 : Int) + n.exponent) * 30103 / 100000)
    trim 20 (search value (interval n) 17 lead)

/-- The exponent of the first digit. -/
def lead (d : Decimal) : Int := (length d.digits : Int) - 1 + d.exponent

/-- All digits around a point, without an exponent. -/
def positional (d : Decimal) : String :=
  let ds := Nat.toDigits 10 d.digits
  if 0 ≤ d.exponent then String.ofList (ds ++ List.replicate d.exponent.toNat '0')
  else
    let places := (-d.exponent).toNat
    let ds := List.replicate (places + 1 - ds.length) '0' ++ ds
    let whole := ds.length - places
    String.ofList (ds.take whole ++ '.' :: ds.drop whole)

/-- One digit, a point and the others, and the exponent of ten with its sign. -/
def scientific (d : Decimal) : String :=
  let ds := Nat.toDigits 10 d.digits
  let fraction := if ds.length ≤ 1 then [] else '.' :: ds.drop 1
  String.ofList (ds.take 1 ++ fraction) ++ "e" ++
    (if d.lead < 0 then "-" else "+") ++ toString d.lead.natAbs

end Decimal

end PropertyGraph
