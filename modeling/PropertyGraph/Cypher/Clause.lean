import PropertyGraph.Cypher.Pattern

/-!
# Clauses and queries

Like patterns, clauses are generic in their expressions. A query is generic in its clauses, so
that a clause may hold a query.
-/

namespace PropertyGraph

namespace Cypher

structure ProjectionItem (ε : Type) where
  expr : ε
  /-- The name after AS, if there is one. -/
  given : Option String
  /-- The source text of the expression. -/
  source : String

/-- The name of the column that an item makes. -/
def ProjectionItem.column {ε : Type} (i : ProjectionItem ε) : String := i.given.getD i.source

structure SortItem (ε : Type) where
  expr : ε
  descending : Bool
  /-- Whether nulls come first, if that is said. -/
  nullsFirst : Option Bool

/-- What WITH and RETURN have in common. -/
structure Projection (ε : Type) where
  distinct : Bool
  /-- Whether all names in scope are projected. -/
  star : Bool
  items : List (ProjectionItem ε)
  order : List (SortItem ε)
  skip : Option ε
  limit : Option ε

inductive SetItem (ε : Type)
  | property (entity : ε) (key : String) (value : ε)
  /-- Replaces all properties. -/
  | replace (name : String) (value : ε)
  /-- Adds to the properties. -/
  | extend (name : String) (value : ε)
  | labels (name : String) (labels : List String)

inductive RemoveItem (ε : Type)
  | property (entity : ε) (key : String)
  | labels (name : String) (labels : List String)

structure YieldItem where
  name : String
  /-- The name after AS, if there is one. -/
  given : Option String
deriving DecidableEq

def YieldItem.column (i : YieldItem) : String := i.given.getD i.name

structure ProcedureCall (ε : Type) where
  name : String
  args : List ε
  /-- The columns that are taken; all of them if none are listed. -/
  yields : Option (List YieldItem)
  filter : Option ε

/-- One part of a query after a UNION. -/
structure Branch (κ : Type) where
  all : Bool
  clauses : List κ

/-- Sequences of clauses, joined by UNION. -/
structure QueryOf (κ : Type) where
  first : List κ
  unions : List (Branch κ)

inductive Clause (ε : Type)
  | matching (optional : Bool) (patterns : List (PathPattern ε)) (filter : Option ε)
  | unwind (source : ε) (name : String)
  | withItems (body : Projection ε) (filter : Option ε)
  | returnItems (body : Projection ε)
  | create (patterns : List (PathPattern ε))
  | merge (pattern : PathPattern ε) (onCreate onMatch : List (SetItem ε))
  | set (items : List (SetItem ε))
  | remove (items : List (RemoveItem ε))
  | delete (detach : Bool) (targets : List ε)
  | foreach (name : String) (source : ε) (body : List (Clause ε))
  | call (call : ProcedureCall ε)
  | subquery (query : QueryOf (Clause ε))

abbrev Query (ε : Type) := QueryOf (Clause ε)

namespace Clause

variable {ε : Type}

/-- The words a clause starts with. -/
def name : Clause ε → String
  | matching true _ _ => "OPTIONAL MATCH"
  | matching false _ _ => "MATCH"
  | unwind _ _ => "UNWIND"
  | withItems _ _ => "WITH"
  | returnItems _ => "RETURN"
  | create _ => "CREATE"
  | merge _ _ _ => "MERGE"
  | set _ => "SET"
  | remove _ => "REMOVE"
  | delete true _ => "DETACH DELETE"
  | delete false _ => "DELETE"
  | foreach _ _ _ => "FOREACH"
  | call _ => "CALL"
  | subquery _ => "CALL \x7b\x7d"

mutual

/-- Whether a clause may change the graph. -/
def isWrite : Clause ε → Bool
  | create _ | merge _ _ _ | set _ | remove _ | delete _ _ | foreach _ _ _ => true
  | subquery ⟨first, unions⟩ => anyWrite first || anyBranchWrites unions
  | _ => false

def anyWrite : List (Clause ε) → Bool
  | [] => false
  | c :: cs => c.isWrite || anyWrite cs

def anyBranchWrites : List (Branch (Clause ε)) → Bool
  | [] => false
  | ⟨_, cs⟩ :: bs => anyWrite cs || anyBranchWrites bs

end

def isReturn : Clause ε → Bool
  | returnItems _ => true
  | _ => false

/-- Whether a clause makes the table that a query gives back. -/
def makesResult : Clause ε → Bool
  | returnItems _ | call _ => true
  | _ => false

/-- Whether a query may end with a clause. -/
def canConclude (c : Clause ε) : Bool :=
  match c with
  | returnItems _ | call _ | subquery _ => true
  | c => c.isWrite

end Clause

namespace QueryOf

variable {ε : Type}

def isWrite (q : Query ε) : Bool := Clause.anyWrite q.first || Clause.anyBranchWrites q.unions

end QueryOf

/-- Whether a sequence of clauses ends with RETURN. -/
def endsInReturn {ε : Type} (cs : List (Clause ε)) : Bool := cs.getLast?.any Clause.isReturn

end Cypher

end PropertyGraph
