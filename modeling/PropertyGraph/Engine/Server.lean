import PropertyGraph.Engine.Catalog
import PropertyGraph.Query.Edit

/-!
# Servers

The databases together with one session: which of them it uses, and its transaction.
-/

namespace PropertyGraph

/-- A transaction: changes of its database from a mark of the journal on. -/
structure Transaction where
  /-- Its place among the transactions of the session. -/
  number : Nat
  database : String
  mark : Nat
  /-- Milliseconds since 1970. -/
  startedAt : Number

structure Session where
  /-- The database that statements are about. -/
  database : String
  transaction : Option Transaction := none
  /-- How many transactions have been started. -/
  started : Nat := 0

namespace Session

def inTransaction (s : Session) : Bool := s.transaction.isSome

end Session

structure Server where
  catalog : Catalog
  session : Session

/-- A command to a server, which may fail. -/
abbrev Command := ExceptT Error (StateM Server)

namespace Server

/-- A server that has only a default database. -/
def ofDefault (name : String) : Server := ⟨.ofDefault name, { database := name }⟩

def store? (s : Server) : Option Store := s.catalog.get? s.session.database

/-- The graph that statements are about. -/
def store (s : Server) : Except Error Store :=
  match s.store? with
  | some g => .ok g
  | none => .error (.database (.notFound s.session.database))

/-- Puts a graph in the place of the current one. -/
def put (s : Server) (g : Store) : Server :=
  { s with catalog := s.catalog.put s.session.database g }

/-- Uses a database. -/
def use (s : Server) (name : String) : Server :=
  { s with session := { s.session with database := name } }

end Server

/-- Runs an edit from a graph. If it fails, what it did is undone; if not, it becomes permanent,
unless it is part of a transaction. -/
def Edit.atomically {α : Type} (e : Edit α) (inTransaction : Bool) (s : Store) :
    Except Error α × Store :=
  let (r, d) := ExceptT.run e ⟨s, {}⟩
  match r with
  | .ok a => (.ok a, if inTransaction then d.store else d.store.commit)
  | .error x => (.error x, d.store.rollbackTo s.mark)

namespace Command

/-- Something that a command needs to succeed. -/
def ensure {α : Type} : Except Error α → Command α
  | .ok a => pure a
  | .error e => throw e

/-- An edit of the current graph, done altogether or not at all. -/
def edit {α : Type} (e : Edit α) : Command α := do
  let s ← get
  let (r, g) := e.atomically s.session.inTransaction (← ensure s.store)
  set (s.put g)
  ensure r

end Command

end PropertyGraph
