import PropertyGraph.Text.Property
import PropertyGraph.Text.Script

/-!
# Sets of characters

What one place of a regular expression stands for. A set also knows about how large it makes
the expression.
-/

namespace PropertyGraph

structure CharSet where
  contains : Char → Bool
  /-- About how many bytes a matcher takes for it. -/
  cost : Nat

namespace CharSet

def empty : CharSet := ⟨fun _ => false, 0⟩

def range (first last : Char) : CharSet :=
  ⟨fun c => decide (first ≤ c) && decide (c ≤ last), if last.toNat < 128 then 0 else 64⟩

def single (c : Char) : CharSet := range c c

/-- The characters with a property. -/
def having (p : Char → Bool) : CharSet := ⟨p, 20000⟩

def union (s t : CharSet) : CharSet := ⟨fun c => s.contains c || t.contains c, s.cost + t.cost + 8⟩

def unions (ss : List CharSet) : CharSet := ss.foldl union empty

def inter (s t : CharSet) : CharSet := ⟨fun c => s.contains c && t.contains c, s.cost + t.cost⟩

def diff (s t : CharSet) : CharSet := ⟨fun c => s.contains c && !t.contains c, s.cost + t.cost⟩

/-- The characters in exactly one of two sets. -/
def symmDiff (s t : CharSet) : CharSet := ⟨fun c => s.contains c != t.contains c, s.cost + t.cost⟩

def complement (s : CharSet) : CharSet := ⟨fun c => !s.contains c, s.cost + 400⟩

def negateIf (negated : Bool) (s : CharSet) : CharSet := if negated then s.complement else s

/-- The characters that differ in case only from some in the set. -/
def caseless (s : CharSet) : CharSet :=
  ⟨fun c => (Text.caseOrbit c).any s.contains, 2 * s.cost + 16⟩

/-- The same for ASCII letters alone. -/
def asciiCaseless (s : CharSet) : CharSet :=
  ⟨fun c => s.contains c || s.contains c.toLower || s.contains c.toUpper, 2 * s.cost + 16⟩

/-! ### Named sets -/

def asciiDigit : CharSet := range '0' '9'

def asciiUpper : CharSet := range 'A' 'Z'

def asciiLower : CharSet := range 'a' 'z'

def asciiLetter : CharSet := asciiUpper.union asciiLower

def asciiWord : CharSet := unions [asciiDigit, asciiLetter, single '_']

def asciiBlank : CharSet := (range '\t' '\r').union (single ' ')

def digit (unicode : Bool) : CharSet :=
  if unicode then having (Text.isCategory "Nd") else asciiDigit

def blank (unicode : Bool) : CharSet := if unicode then having Text.isBlank else asciiBlank

def word (unicode : Bool) : CharSet := if unicode then having Text.isWord else asciiWord

/-- Everything, or everything but line ends; with `crlf` a carriage return is one, too. -/
def dot (everything crlf : Bool) : CharSet :=
  if everything then empty.complement
  else if crlf then ((single '\n').union (single '\r')).complement
  else (single '\n').complement

/-- The ASCII sets that are named between colons. -/
def posix? (name : String) : Option CharSet :=
  match name with
  | "alnum" => some (asciiDigit.union asciiLetter)
  | "alpha" => some asciiLetter
  | "ascii" => some (range '\x00' '\x7f')
  | "blank" => some ((single '\t').union (single ' '))
  | "cntrl" => some ((range '\x00' '\x1f').union (single '\x7f'))
  | "digit" => some asciiDigit
  | "graph" => some (range '!' '~')
  | "lower" => some asciiLower
  | "print" => some (range ' ' '~')
  | "punct" => some (unions [range '!' '/', range ':' '@', range '[' '\x60', range '\x7b' '~'])
  | "space" => some asciiBlank
  | "upper" => some asciiUpper
  | "word" => some asciiWord
  | "xdigit" => some (unions [asciiDigit, range 'A' 'F', range 'a' 'f'])
  | _ => none

/-- A name without `is` in front, in lower case, and without blanks, hyphens, underscores and
characters beyond ASCII. -/
def plainName (name : List Char) : String :=
  let isPrefixed := match name with
    | i :: s :: _ => (i == 'i' || i == 'I') && (s == 's' || s == 'S')
    | _ => false
  let rest := ((if isPrefixed then name.drop 2 else name).filter fun c =>
    c.toNat < 128 && c != ' ' && c != '_' && c != '-').map Char.toLower
  if isPrefixed && rest == ['c'] then "isc" else String.ofList rest

def category? (plain : String) : Option CharSet :=
  match Text.categoryNames.find? (·.1 == plain) with
  | some e => some (having (Text.isCategory e.2))
  | none =>
    if ["any", "ascii", "assigned"].contains plain then (Text.property? plain).map having
    else none

def script? (plain : String) : Option CharSet :=
  (Text.scriptNames.find? (·.1 == plain)).map fun e => having (Text.isScript e.2)

/-- The set of a property, of a category or of a script. -/
def ofName? (name : List Char) : Option CharSet :=
  let plain := plainName name
  (((Text.property? plain).map having).or (category? plain)).or (script? plain)

/-- The set of a category or a script, as `key` says. -/
def ofPair? (key value : List Char) : Option CharSet :=
  match plainName key with
  | "gc" | "generalcategory" => category? (plainName value)
  | "sc" | "script" => script? (plainName value)
  | _ => none

end CharSet

end PropertyGraph
