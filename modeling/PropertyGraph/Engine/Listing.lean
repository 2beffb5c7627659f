import PropertyGraph.Cypher.Statement
import PropertyGraph.Engine.Server
import PropertyGraph.Function.Library
import PropertyGraph.Query.Reply

/-!
# Listings

The tables that SHOW gives, and the text of HELP.
-/

namespace PropertyGraph

namespace Server

open Cypher

def listDatabases (s : Server) : Reply :=
  .listing ["name", "default", "current"] <| s.catalog.names.map fun n =>
    [.str n, .bool (n == s.catalog.defaultName), .bool (n == s.session.database)]

/-- What a rule is on. -/
def ruleCells (r : Rule) : List Value :=
  [.str "NODE", .list [.str r.label], .list [.str r.property]]

def listConstraints (g : Store) : Reply :=
  .listing ["name", "type", "entityType", "labelsOrTypes", "properties"] <|
    g.constraints.map fun r => .str r.name :: .str "UNIQUENESS" :: ruleCells r

def listIndexes (g : Store) : Reply :=
  .listing ["entityType", "labelsOrTypes", "properties"] (g.indexes.map ruleCells)

def listStats (g : Store) : Reply :=
  .listing ["metric", "value"] <|
    [("nodes", g.nodes.length), ("relationships", g.rels.length),
      ("labels", g.labelsInUse.length), ("relationshipTypes", g.relTypes.length),
      ("propertyKeys", g.propertyKeys.length), ("constraints", g.constraints.length),
      ("indexes", g.indexes.length)].map fun m => [.str m.1, .count m.2]

def listTransactions (s : Session) : Reply :=
  .listing ["transactionId", "database", "state", "startTime"] <|
    s.transaction.toList.map fun t =>
      [.str ("tx-" ++ toString t.number), .str t.database, .str "Active", .str t.startedAt.text]

def listFunctions : Reply :=
  .listing ["name", "description", "returnType"] <| Function.library.values.map fun f =>
    [.str f.name, .str f.description, .str f.returns]

/-- The listing that SHOW asks for. -/
def listing (s : Server) (t : ShowTarget) : Except Error Reply := do
  let g ← s.store
  match t with
  | .databases => return s.listDatabases
  | .constraints => return listConstraints g
  | .indexes => return listIndexes g
  | .stats => return listStats g
  | .transactions => return listTransactions s.session
  | .functions => return listFunctions
  | .other text => throw (.meaning (.badShow text))

end Server

def helpLines : List String := [
  "Reading:   MATCH, OPTIONAL MATCH, WHERE, WITH, UNWIND, RETURN, ORDER BY, SKIP, LIMIT, " ++
    "UNION [ALL]",
  "Writing:   CREATE, MERGE [ON CREATE | ON MATCH] SET, SET, REMOVE, DELETE, DETACH DELETE, " ++
    "FOREACH",
  "Calls:     CALL db.labels(), db.relationshipTypes(), db.propertyKeys(), db.constraints(), " ++
    "db.indexes()",
  "           CALL \x7b subquery \x7d",
  "Paths:     shortestPath((a)-[*]-(b)), allShortestPaths((a)-[*]-(b))",
  "Schema:    CREATE CONSTRAINT [name] [IF NOT EXISTS] FOR (n:Label) REQUIRE n.prop IS UNIQUE",
  "           CREATE INDEX [name] FOR (n:Label) ON (n.prop) | CREATE INDEX ON :Label(prop)",
  "           DROP CONSTRAINT name | DROP INDEX name | DROP INDEX ON :Label(prop)",
  "Databases: CREATE DATABASE name, DROP DATABASE name, USE name",
  "Introspection: SHOW DATABASES | CONSTRAINTS | INDEXES | STATS | TRANSACTIONS | FUNCTIONS",
  "Transactions:  BEGIN, COMMIT, ROLLBACK"]

def helpText : String := "\n".intercalate helpLines

end PropertyGraph
