import PropertyGraph.Json.Read

/-!
# Configuration

The settings of an engine, and how they are read from JSON.
-/

namespace PropertyGraph

structure Config where
  /-- The name of the database that always exists. -/
  defaultDatabase : String := "neo4j"
  /-- How many parsed texts are kept; none if zero. -/
  cacheCapacity : Nat := 128
  /-- The longest walk that a variable-length hop without an upper bound looks for. -/
  maxHops : Nat := 32
deriving DecidableEq

namespace Config

/-- The settings in the order of the array form. -/
inductive Field
  | defaultDatabase
  | cacheCapacity
  | maxHops
deriving DecidableEq

def Field.all : List Field := [.defaultDatabase, .cacheCapacity, .maxHops]

def Field.name : Field → String
  | .defaultDatabase => "default_database"
  | .cacheCapacity => "query_cache_capacity"
  | .maxHops => "max_unbounded_hops"

def Field.ofName? (name : String) : Option Field := Field.all.find? (·.name == name)

/-- Stores a setting, if the document has its type: a string, or a count of 64 bits. -/
def set? (c : Config) : Field → Json → Option Config
  | .defaultDatabase, .str s => some { c with defaultDatabase := s }
  | .cacheCapacity, .int (.ofNat n) => some { c with cacheCapacity := n }
  | .maxHops, .int (.ofNat n) => some { c with maxHops := n }
  | _, _ => none

open Json

/-- Members of the object form up to the closing brace. A setting may be given once; members
of other names are skipped. -/
def readMembers : Nat → List Field → Config → Reader Config
  | 0, _, _, _ => none
  | fuel + 1, seen, c, cs => do
    let (k, rest) ← Json.string true (skipBlanks cs)
    match skipBlanks rest with
    | ':' :: rest =>
      let (seen, c, rest) ←
        match Field.ofName? k with
        | some f =>
          if f ∈ seen then none
          else do
            let (x, rest) ← value true fuel rest
            some (f :: seen, ← c.set? f x, rest)
        | none => do
          let (_, rest) ← value false fuel rest
          some (seen, c, rest)
      match skipBlanks rest with
      | ',' :: rest => readMembers fuel seen c rest
      | '\x7d' :: rest => some (c, rest)
      | _ => none
    | _ => none

/-- Stores the items of the array form in the order of the settings. -/
def setItems? : Config → List Field → List Json → Option Config
  | c, _, [] => some c
  | c, f :: fs, x :: xs => do setItems? (← c.set? f x) fs xs
  | _, [], _ :: _ => none

/-- Reads settings from an object, or from an array that may stop early; what is absent keeps
its default. -/
def ofJsonText? (s : String) : Option Config := do
  let cs := s.toList
  let fuel := 2 * cs.length + 2
  let (c, rest) ←
    match skipBlanks cs with
    | '\x7b' :: rest =>
      match skipBlanks rest with
      | '\x7d' :: rest => some ({}, rest)
      | rest => readMembers fuel [] {} rest
    | cs =>
      match value true fuel cs with
      | some (.arr xs, rest) => (setItems? {} Field.all xs).map fun c => (c, rest)
      | _ => none
  if (skipBlanks rest).isEmpty then some c else none

end Config

end PropertyGraph
