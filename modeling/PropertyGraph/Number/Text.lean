import PropertyGraph.Number.Decimal

/-!
# Text of numbers

How numbers are written in strings and messages, how they are written in JSON, and which
strings read as numbers.
-/

namespace PropertyGraph

namespace Number

/-- The text of an integer: its decimal digits, after a minus sign if it is negative. -/
def intText (i : Int) : String := (if i < 0 then "-" else "") ++ toString i.natAbs

/-- Whether a number is written as an integer below a bound. -/
def isWholeBelow (n : Number) (bound : Nat) : Bool := n.isIntegral && decide (n.wholePart < bound)

def signed (n : Number) (text : String) : String := if n.isNegative then "-" ++ text else text

/-- The integer part of a finite number. -/
def truncated (n : Number) : Int := if n.isNegative then -(n.wholePart : Int) else n.wholePart

/-- The text of a number in strings and messages: integers below `10 ^ 15` as such, all else
with the shortest digits that read back and never an exponent. -/
def text (n : Number) : String :=
  if n.isNaN then "NaN"
  else if !n.isFinite then n.signed "inf"
  else if n.isWholeBelow 1000000000000000 then intText n.truncated
  else n.signed (Decimal.shortest n).positional

/-- The text of a finite number as a JSON number with a fraction or an exponent: positional
while the first digit stands at `10 ^ -5` to `10 ^ 15`. -/
def jsonText (n : Number) : String :=
  let d := Decimal.shortest n
  n.signed <|
    if d.digits = 0 then "0.0"
    else if d.lead < -5 || 15 < d.lead then d.scientific
    else if 0 ≤ d.exponent then d.positional ++ ".0"
    else d.positional

/-! ### Reading -/

def isDigit (c : Char) : Bool := '0' ≤ c && c ≤ '9'

def digitValue (c : Char) : Nat := c.toNat - '0'.toNat

def ofDigits (ds : List Char) : Nat := ds.foldl (fun n c => 10 * n + digitValue c) 0

/-- Splits off the digits in front. -/
def spanDigits (cs : List Char) : List Char × List Char := cs.span isDigit

/-- An exponent part: `e` or `E`, a sign or none, and digits; `none` if there is no such part
in front. -/
def exponentPart? : List Char → Option (Int × List Char)
  | c :: cs =>
    if c = 'e' || c = 'E' then
      let (negative, cs) :=
        match cs with
        | '-' :: cs => (true, cs)
        | '+' :: cs => (false, cs)
        | cs => (false, cs)
      match spanDigits cs with
      | ([], _) => none
      | (ds, rest) => some (if negative then -(ofDigits ds : Int) else ofDigits ds, rest)
    else none
  | [] => none

/-- The number written by whole digits, fraction digits and an exponent. -/
def ofParts (negative : Bool) (whole fraction : List Char) (exponent : Int) : Number :=
  Decimal.toNumber negative ⟨ofDigits (whole ++ fraction), exponent - fraction.length⟩

/-- Reads digits with a point and an exponent, all of them optional as long as there is a
digit before the exponent. -/
def readDecimal? (negative : Bool) (cs : List Char) : Option Number :=
  let (whole, rest) := spanDigits cs
  let (fraction, rest) :=
    match rest with
    | '.' :: rest => spanDigits rest
    | rest => ([], rest)
  if whole.isEmpty && fraction.isEmpty then none
  else if rest.isEmpty then some (ofParts negative whole fraction 0)
  else
    match exponentPart? rest with
    | some (e, []) => some (ofParts negative whole fraction e)
    | _ => none

/-- Reads a number from a whole text, with an optional sign; the names of the infinities and
of NaN are read in any case of letters. -/
def read? (s : String) : Option Number :=
  let (negative, cs) :=
    match s.toList with
    | '-' :: cs => (true, cs)
    | '+' :: cs => (false, cs)
    | cs => (false, cs)
  let word := String.ofList (cs.map Char.toLower)
  if word = "inf" || word = "infinity" then some (infinity negative)
  else if word = "nan" then some (if negative then nan.neg else nan)
  else readDecimal? negative cs

end Number

end PropertyGraph
