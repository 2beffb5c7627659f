import PropertyGraph.Engine.Listing
import PropertyGraph.Meaning.Layer
import PropertyGraph.Schema

/-!
# Commands

What each statement does to a server.
-/

namespace PropertyGraph

namespace Command

open Cypher

/-! ### Databases -/

/-- Changes the catalog. A fault that is tolerated changes nothing and is told. -/
def changeCatalog (change : Catalog → Except DatabaseFault Catalog)
    (tolerated : DatabaseFault → Bool) (done : String) : Command Reply := do
  let s ← get
  match change s.catalog with
  | .ok catalog =>
    set { s with catalog }
    return .note done
  | .error f => if tolerated f then return .note f.message else throw (.database f)

def isAlreadyExists : DatabaseFault → Bool
  | .alreadyExists _ => true
  | _ => false

def isNotFound : DatabaseFault → Bool
  | .notFound _ => true
  | _ => false

/-- Falls back on the default database if the current one is gone. -/
def leaveMissing : Command Unit := modify fun s =>
  if s.catalog.contains s.session.database then s else s.use s.catalog.defaultName

/-- Databases stay as they are while a transaction is open. -/
def database (c : DatabaseCommand) : Command Reply := do
  let s ← get
  if s.session.inTransaction then throw (.transaction .databaseChange)
  match c with
  | .create n ifNotExists =>
    changeCatalog (·.create n) (fun f => ifNotExists && isAlreadyExists f)
      ("Database '" ++ n ++ "' created")
  | .drop n ifExists =>
    let r ← changeCatalog (·.drop n) (fun f => ifExists && isNotFound f)
      ("Database '" ++ n ++ "' dropped")
    leaveMissing
    return r
  | .use n =>
    if s.catalog.contains n then
      set (s.use n)
      return .note ("Now using database '" ++ n ++ "'")
    else throw (.database (.notFound n))

/-! ### Transactions -/

/-- Ends the transaction with what `f` makes of the graph; `word` names the command. -/
def endTransaction (word : String) (f : Transaction → Store → Store) : Command Unit := do
  let s ← get
  let g ← ensure s.store
  match s.session.transaction with
  | none => throw (.transaction (.notActive word))
  | some t => set { s.put (f t g) with session := { s.session with transaction := none } }

def transaction (clock : Number) : TransactionCommand → Command Reply
  | .start => do
    let s ← get
    let g ← ensure s.store
    if s.session.inTransaction then throw (.transaction .alreadyActive)
    let number := s.session.started + 1
    let t : Transaction := ⟨number, s.session.database, g.mark, clock⟩
    set { s with session := { s.session with transaction := some t, started := number } }
    return .note "Transaction started"
  | .commit => do
    endTransaction "COMMIT" fun _ g => g.commit
    return .note "Transaction committed"
  | .rollback => do
    endTransaction "ROLLBACK" fun t g => (g.rollbackTo t.mark).commit
    return .note "Transaction rolled back"

end Command

/-! ### Statements -/

/-- What a statement does to a server. -/
def Cypher.Statement.run (c : Context) : Statement → Command Reply
  | .query q => Command.edit (Query.reply c (queryMeaning q))
  | .schema k => Command.edit k.reply
  | .database k => Command.database k
  | .listing t => do Command.ensure ((← get).listing t)
  | .transaction k => Command.transaction c.clock k
  | .help => return .help helpText

/-- Runs statements up to the first that fails, and gives the reply of the last one. -/
def Cypher.runStatements (c : Context) (ss : List Statement) : Command Reply :=
  ss.foldlM (fun _ s => s.run c) (.note "")

end PropertyGraph
