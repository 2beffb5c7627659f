import PropertyGraph.Cypher.Grammar.Statement

/-!
# Caches of parsed texts

A cache keeps the texts that were parsed last with what they were parsed to, and counts how
often it was of use. It never changes what a text is parsed to.
-/

namespace PropertyGraph

open Cypher

structure Cache where
  /-- How many texts are kept; with none, nothing is counted either. -/
  capacity : Nat
  /-- Texts with their statements, the one used last in front. -/
  entries : List (String × List Statement) := []
  hits : Nat := 0
  misses : Nat := 0

namespace Cache

/-- The statements of a text, and the entries without it. -/
def take? (text : String) :
    List (String × List Statement) → Option (List Statement × List (String × List Statement))
  | [] => none
  | e :: es =>
    if e.1 = text then some (e.2, es)
    else (take? text es).map fun r => (r.1, e :: r.2)

/-- The statements of a text, from the cache if it has them. A text that cannot be parsed is
not kept. -/
def parse (text : String) (c : Cache) : Except ParseError (List Statement) × Cache :=
  if c.capacity = 0 then (Cypher.parse text, c)
  else
    match take? text c.entries with
    | some (ss, rest) => (.ok ss, { c with entries := (text, ss) :: rest, hits := c.hits + 1 })
    | none =>
      let c := { c with misses := c.misses + 1 }
      match Cypher.parse text with
      | .ok ss => (.ok ss, { c with entries := ((text, ss) :: c.entries).take c.capacity })
      | .error e => (.error e, c)

/-- Forgets all texts, but not the counts. -/
def clear (c : Cache) : Cache := { c with entries := [] }

end Cache

end PropertyGraph
