import PropertyGraph.Regex.CharSet

/-!
# Regular expressions

An expression moves from one place of a text to others: a place is before, between or after
characters. Only whether there is a match is asked, so sets of places are all that has to be
known. They are kept as numbers, with a bit for every place.
-/

namespace PropertyGraph

/-- Where a place stands at words. -/
inductive WordEdge
  | boundary
  | interior
  | start
  | stop
  /-- No word character before. -/
  | startHalf
  /-- No word character after. -/
  | stopHalf
deriving DecidableEq

/-- A condition on a place. -/
inductive Look
  | textStart
  | textEnd
  /-- With `crlf`, carriage returns end lines as well. -/
  | lineStart (crlf : Bool)
  | lineEnd (crlf : Bool)
  | word (edge : WordEdge) (unicode : Bool)
deriving DecidableEq

namespace Look

def meetsEdge (before after : Bool) : WordEdge → Bool
  | .boundary => before != after
  | .interior => before == after
  | .start => !before && after
  | .stop => before && !after
  | .startHalf => !before
  | .stopHalf => !after

/-- Whether a place between two characters, if there are any, meets a condition. -/
def holds (l : Look) (before after : Option Char) : Bool :=
  match l with
  | textStart => before.isNone
  | textEnd => after.isNone
  | lineStart crlf =>
    before.isNone || before == some '\n' || (crlf && before == some '\r' && after != some '\n')
  | lineEnd crlf =>
    after.isNone || (if crlf then after == some '\r' || (after == some '\n' && before != some '\r')
      else after == some '\n')
  | word edge unicode =>
    let isWord := (CharSet.word unicode).contains
    meetsEdge (before.any isWord) (after.any isWord) edge

end Look

inductive Regex
  | empty
  | char (set : CharSet)
  | look (condition : Look)
  | seq (first second : Regex)
  | alt (left right : Regex)
  | repeated (body : Regex) (least : Nat) (most : Option Nat)

namespace Regex

/-- A place: the characters on both sides of it. -/
abbrev Place := Option Char × Option Char

/-- The places of a text after the character `before`. -/
def placesFrom (before : Option Char) : List Char → List Place
  | [] => [(before, none)]
  | c :: cs => (before, some c) :: placesFrom (some c) cs

def places (text : List Char) : List Place := placesFrom none text

/-- The set of the places where `p` holds. -/
def placesWhere (p : Place → Bool) : List Place → Nat
  | [] => 0
  | x :: xs => 2 * placesWhere p xs + if p x then 1 else 0

/-- How a regular expression moves in a text that is given. -/
inductive Moves
  | stay
  /-- On to the next place, from those in the set. -/
  | step (set : Nat)
  /-- Only from the places in the set. -/
  | hold (set : Nat)
  | seq (first second : Moves)
  | alt (left right : Moves)
  | repeated (body : Moves) (least : Nat) (most : Option Nat)

/-- The moves of an expression among some places. -/
def moves (ps : List Place) : Regex → Moves
  | empty => .stay
  | char s => .step (placesWhere (fun p => p.2.any s.contains) ps)
  | look l => .hold (placesWhere (fun p => l.holds p.1 p.2) ps)
  | seq a b => .seq (a.moves ps) (b.moves ps)
  | alt a b => .alt (a.moves ps) (b.moves ps)
  | repeated a least most => .repeated (a.moves ps) least most

namespace Moves

/-- Applies `f` so many times, or until nothing changes. -/
def iterate (f : Nat → Nat) : Nat → Nat → Nat
  | 0, s => s
  | n + 1, s =>
    let t := f s
    if t = s then s else iterate f n t

/-- The set of places that moves lead to from those of a set. No place is reached only after
more rounds than there are places. -/
def reach (count : Nat) : Moves → Nat → Nat
  | stay, s => s
  | step m, s => (s &&& m) <<< 1
  | hold m, s => s &&& m
  | seq a b, s => b.reach count (a.reach count s)
  | alt a b, s => a.reach count s ||| b.reach count s
  | repeated a least most, s =>
    let start := iterate (a.reach count) least s
    let more := match most with
      | some n => n - least
      | none => count
    iterate (fun t => t ||| a.reach count t) more start

end Moves

/-- Whether an expression matches some part of a text. -/
def hasMatch (r : Regex) (text : String) : Bool :=
  let ps := places text.toList
  (r.moves ps).reach ps.length ((1 <<< ps.length) - 1) != 0

/-! ### Size -/

/-- About how many bytes a matcher takes for an expression. -/
def cost : Regex → Nat
  | empty => 32
  | char s => 32 + s.cost
  | look _ => 32
  | seq a b => a.cost + b.cost
  | alt a b => a.cost + b.cost + 40
  | repeated a least most =>
    match most with
    | none => a.cost * max least 1 + 40
    | some n => a.cost * least + (a.cost + 40) * (n - least)

end Regex

end PropertyGraph
