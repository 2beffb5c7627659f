import PropertyGraph.Json

/-!
# Reading JSON

A strict reader: no comments, no commas at the end, no leading zeros. Of two members with one
name the later counts. In a part that is skipped, escapes need not name characters.
-/

namespace PropertyGraph

namespace Json

/-- A reader takes characters from the front, or fails. -/
abbrev Reader (α : Type) := List Char → Option (α × List Char)

def isBlank (c : Char) : Bool := c == ' ' || c == '\n' || c == '\t' || c == '\r'

def skipBlanks (cs : List Char) : List Char := cs.dropWhile isBlank

/-- The given characters in front. -/
def literal (word : List Char) : Reader Unit := fun cs =>
  if cs.take word.length = word then some ((), cs.drop word.length) else none

/-! ### Strings -/

def hexValue? (c : Char) : Option Nat :=
  if '0' ≤ c && c ≤ '9' then some (c.toNat - 0x30)
  else if 'a' ≤ c && c ≤ 'f' then some (c.toNat - 0x57)
  else if 'A' ≤ c && c ≤ 'F' then some (c.toNat - 0x37)
  else none

/-- Four hexadecimal digits. -/
def hex4 : Reader Nat
  | a :: b :: c :: d :: rest => do
    some ((((← hexValue? a) * 16 + (← hexValue? b)) * 16 + (← hexValue? c)) * 16 + (← hexValue? d),
      rest)
  | _ => none

/-- The unit named after a backslash and `u`; the upper half of a pair needs its lower half. -/
def unit (strict : Bool) : Reader Char := fun cs => do
  let (n, rest) ← hex4 cs
  if n < 0xD800 || 0xDFFF < n then some (Char.ofNat n, rest)
  else if !strict then some (Char.ofNat 0xFFFD, rest)
  else if 0xDC00 ≤ n then none
  else
    match rest with
    | '\\' :: 'u' :: rest =>
      let (m, rest) ← hex4 rest
      if 0xDC00 ≤ m && m ≤ 0xDFFF then
        some (Char.ofNat (0x10000 + (n - 0xD800) * 0x400 + (m - 0xDC00)), rest)
      else none
    | _ => none

/-- What a backslash and the characters after it stand for. -/
def escaped (strict : Bool) : Reader Char
  | 'u' :: rest => unit strict rest
  | '"' :: rest => some ('"', rest)
  | '\\' :: rest => some ('\\', rest)
  | '/' :: rest => some ('/', rest)
  | 'b' :: rest => some ('\x08', rest)
  | 'f' :: rest => some ('\x0c', rest)
  | 'n' :: rest => some ('\n', rest)
  | 'r' :: rest => some ('\r', rest)
  | 't' :: rest => some ('\t', rest)
  | _ => none

/-- The rest of a string after its opening quote; `seen` holds the characters so far. -/
def stringFrom (strict : Bool) : Nat → List Char → Reader String
  | 0, _, _ => none
  | _ + 1, seen, '"' :: rest => some (String.ofList seen.reverse, rest)
  | fuel + 1, seen, '\\' :: rest => do
    let (c, rest) ← escaped strict rest
    stringFrom strict fuel (c :: seen) rest
  | fuel + 1, seen, c :: rest =>
    if c.toNat < 0x20 then none else stringFrom strict fuel (c :: seen) rest
  | _ + 1, _, [] => none

/-- A string with its quotes. -/
def string (strict : Bool) : Reader String
  | '"' :: rest => stringFrom strict (rest.length + 1) [] rest
  | _ => none

/-! ### Numbers -/

/-- Whether an integer fits 64 bits and is not a negative zero. -/
def isWord (negative : Bool) (n : Nat) : Bool :=
  if negative then n ≠ 0 && n ≤ 0x8000000000000000 else n ≤ 0xFFFFFFFFFFFFFFFF

/-- The document of a number. An integer stays one if it is a word; what is too large for a
double is refused, unless it is skipped. -/
def ofParts (strict negative : Bool) (whole fraction : List Char) (exponent : Option Int) :
    Option Json :=
  let n := Number.ofDigits whole
  if fraction.isEmpty && exponent.isNone && isWord negative n then
    some (.int (if negative then -(n : Int) else n))
  else
    let x := Number.ofParts negative whole fraction (exponent.getD 0)
    if x.isFinite then some (.num x) else if strict then none else some .null

/-- A number: no plus sign, no zero before other digits, digits on both sides of a point. -/
def number (strict : Bool) : Reader Json := fun cs => do
  let (negative, cs) :=
    match cs with
    | '-' :: cs => (true, cs)
    | cs => (false, cs)
  let (whole, rest) := Number.spanDigits cs
  if whole.isEmpty || (whole.head? == some '0' && decide (1 < whole.length)) then none
  let (fraction, rest) ←
    match rest with
    | '.' :: rest =>
      let (ds, rest) := Number.spanDigits rest
      if ds.isEmpty then none else some (ds, rest)
    | rest => some ([], rest)
  match rest with
  | 'e' :: _ | 'E' :: _ =>
    let (e, rest) ← Number.exponentPart? rest
    some (← ofParts strict negative whole fraction (some e), rest)
  | _ => some (← ofParts strict negative whole fraction none, rest)

/-! ### Documents -/

mutual

/-- A document; blanks in front of it are skipped. -/
def value (strict : Bool) : Nat → Reader Json
  | 0, _ => none
  | fuel + 1, cs =>
    match skipBlanks cs with
    | 'n' :: rest => (literal ['u', 'l', 'l'] rest).map fun r => (.null, r.2)
    | 't' :: rest => (literal ['r', 'u', 'e'] rest).map fun r => (.bool true, r.2)
    | 'f' :: rest => (literal ['a', 'l', 's', 'e'] rest).map fun r => (.bool false, r.2)
    | '"' :: rest => (string strict ('"' :: rest)).map fun r => (.str r.1, r.2)
    | '[' :: rest =>
      match skipBlanks rest with
      | ']' :: rest => some (.arr [], rest)
      | rest => items strict fuel [] rest
    | '\x7b' :: rest =>
      match skipBlanks rest with
      | '\x7d' :: rest => some (.obj [], rest)
      | rest => members strict fuel [] rest
    | cs => number strict cs

/-- The items up to the closing bracket. -/
def items (strict : Bool) : Nat → List Json → Reader Json
  | 0, _, _ => none
  | fuel + 1, seen, cs => do
    let (x, rest) ← value strict fuel cs
    match skipBlanks rest with
    | ',' :: rest => items strict fuel (x :: seen) rest
    | ']' :: rest => some (.arr (x :: seen).reverse, rest)
    | _ => none

/-- The members up to the closing brace. -/
def members (strict : Bool) : Nat → List (String × Json) → Reader Json
  | 0, _, _ => none
  | fuel + 1, seen, cs => do
    let (k, rest) ← string strict (skipBlanks cs)
    match skipBlanks rest with
    | ':' :: rest =>
      let (x, rest) ← value strict fuel rest
      match skipBlanks rest with
      | ',' :: rest => members strict fuel (Dict.insert seen k x) rest
      | '\x7d' :: rest => some (.obj (Dict.insert seen k x), rest)
      | _ => none
    | _ => none

end

/-- Reads a document that takes up a whole text. -/
def read? (s : String) : Option Json :=
  let cs := s.toList
  match value true (2 * cs.length + 2) cs with
  | some (j, rest) => if (skipBlanks rest).isEmpty then some j else none
  | none => none

end Json

end PropertyGraph
