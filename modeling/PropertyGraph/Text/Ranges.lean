/-!
# Sets of code points

A set of code points is written as the ascending list of the points where membership
changes, the first of them being the least member. Long tables are texts: the gaps between
such points, or the lengths of successive runs, each with the mark that its points share.
-/

namespace PropertyGraph

namespace Text

/-- Whether `n` lies in the set with the given points of change, when `inside` says what holds
before the first of them. -/
def insideFrom (inside : Bool) : List Nat → Nat → Bool
  | [], _ => inside
  | b :: bs, n => if n < b then inside else insideFrom (!inside) bs n

/-- Membership in the set whose points of change are given. -/
def inRanges (bounds : List Nat) (n : Nat) : Bool := insideFrom false bounds n

@[simp] theorem inRanges_nil (n : Nat) : inRanges [] n = false := rfl

theorem inRanges_of_lt {b n : Nat} (bs : List Nat) (h : n < b) : inRanges (b :: bs) n = false := by
  simp [inRanges, insideFrom, h]

/-! ### Tables -/

/-- The words of a table. -/
def tableWords (table : List String) : List (List Char) :=
  table.flatMap fun line => (line.splitOn " ").map String.toList

/-- A number at the start of a word, and the rest of the word. -/
def splitNumber (word : List Char) : Nat × String :=
  let (digits, rest) := word.span Char.isDigit
  (digits.foldl (fun n c => 10 * n + (c.toNat - '0'.toNat)) 0, String.ofList rest)

/-- The points of change whose gaps are given. -/
def boundsOfTable (table : List String) : List Nat :=
  ((tableWords table).foldl (fun (acc : Nat × List Nat) w =>
    let bound := acc.1 + (splitNumber w).1
    (bound, bound :: acc.2)) (0, [])).2.reverse

/-- Successive runs of code points: where each ends, and its mark. -/
abbrev Runs := List (Nat × String)

namespace Runs

def ofTable (table : List String) : Runs :=
  ((tableWords table).foldl (fun (acc : Nat × Runs) w =>
    let (length, mark) := splitNumber w
    (acc.1 + length, (acc.1 + length, mark) :: acc.2)) (0, [])).2.reverse

/-- The mark of a code point; none after the last run. -/
def markAt (runs : Runs) (n : Nat) : String :=
  match runs.find? fun r => n < r.1 with
  | some r => r.2
  | none => ""

end Runs

end Text

end PropertyGraph
