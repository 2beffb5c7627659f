import PropertyGraph.Query.Change
import PropertyGraph.Query.Create
import PropertyGraph.Query.Delete
import PropertyGraph.Query.Read

/-!
# Writing queries

A writing clause goes through its rows in order, each of which sees the changes made for those
before it.
-/

namespace PropertyGraph

namespace Query

open Cypher

/-! ### Clauses -/

/-- Changes the graph for each row and keeps the rows. -/
def eachRow (f : Row → Edit Unit) (rows : List Row) : Edit (List Row) := do
  rows.forM f
  return rows

/-- Finds the matches of a pattern in a row, or creates one if there is none. -/
def mergeRow (c : Context) (p : PathPattern Meaning) (onCreate onMatch : List (SetItem Meaning))
    (row : Row) : Edit (List Row) := do
  let found ← Edit.reading c fun env => env.matcher.rows [Meaning.parts p env] row
  if found.isEmpty then
    let row ← createPath c p row
    setItems c onCreate row
    return [row]
  else
    Edit.count { mergesMatched := found.length }
    eachRow (setItems c onMatch) found

/-- The items of the list that FOREACH goes through. -/
def foreachItems : Value → Except Error (List Value)
  | .null => .ok []
  | .list xs => .ok xs
  | v => .error (.type (.expects "FOREACH" "a List" v.typeName))

mutual

def writeClause (c : Context) (rows : List Row) : Clause Meaning → Edit (List Row)
  | .create ps => rows.mapM (createPaths c ps)
  | .merge p onCreate onMatch => List.flatten <$> rows.mapM (mergeRow c p onCreate onMatch)
  | .set is => eachRow (setItems c is) rows
  | .remove is => eachRow (removeItems c is) rows
  | .delete detach xs => do
    deleteRows c detach xs rows
    return rows
  | .foreach n x body =>
    eachRow (fun row => do
      let items ← Edit.reading c fun env => do foreachItems (← x.value env row)
      items.forM fun v => do
        let _ ← writeClauses c [Dict.insert row n v] body) rows
  | k => throw (.meaning (.notWriting k.name))

def writeClauses (c : Context) (rows : List Row) : List (Clause Meaning) → Edit (List Row)
  | [] => return rows
  | k :: ks => do writeClauses c (← writeClause c rows k) ks

end

/-- The names that a writing clause binds. -/
def writtenNames : Clause Meaning → List String
  | .create ps => ps.flatMap PathPattern.names
  | .merge p _ _ => p.names
  | _ => []

/-! ### Queries -/

mutual

def runClause (c : Context) (t : Table) : Clause Meaning → Edit Table
  | .subquery ⟨first, unions⟩ => t.join fun row => do
    let o ← runClauses c ⟨.ofRow row, false⟩ first
    runBranches c (.ofRow row) o unions
  | k => do
    if k.isWrite then
      let rows ← writeClause c t.rows k
      return { t with rows }.declare (writtenNames k)
    else Edit.reading c fun env => readStep env k t

/-- The output after some clauses. -/
def runClauses (c : Context) (o : Output) : List (Clause Meaning) → Edit Output
  | [] => return o
  | k :: ks => do runClauses c ⟨← runClause c o.table k, k.makesResult⟩ ks

/-- The union of an output with those of some branches, all of which start with one table. -/
def runBranches (c : Context) (seed : Table) (o : Output) :
    List (Branch (Clause Meaning)) → Edit Output
  | [] => return o
  | ⟨all, ks⟩ :: bs => do
    runBranches c seed (o.union all (← runClauses c ⟨seed, false⟩ ks)) bs

end

/-- The output of a query. -/
def run (c : Context) (seed : Table) (q : Query Meaning) : Edit Output := do
  runBranches c seed (← runClauses c ⟨seed, false⟩ q.first) q.unions

end Query

end PropertyGraph
