import PropertyGraph.Procedure
import PropertyGraph.Table.Projection

/-!
# Reading queries

Each clause makes a table of the table before it. A query that only reads needs no more than
this; one that also writes uses the same steps for its reading clauses.
-/

namespace PropertyGraph

namespace Query

open Cypher

/-! ### Single clauses -/

/-- Binds names that a row does not bind to null. -/
def bindNulls (names : List String) (row : Row) : Row :=
  names.foldl (fun r n => if Dict.contains r n then r else Dict.insert r n .null) row

/-- The matches of patterns in one row. An optional match keeps a row without any. -/
def matchRow (env : Env) (optional : Bool) (ps : List (PathPattern Meaning))
    (filter : Option Meaning) (row : Row) : Except Error (List Row) := do
  let found ← env.matcher.rows (ps.map fun p => Meaning.parts p env) row
  let kept ← Meaning.filterRows filter env found
  if kept.isEmpty && optional then return [bindNulls (ps.flatMap PathPattern.names) row]
  else return kept

def matching (env : Env) (optional : Bool) (ps : List (PathPattern Meaning))
    (filter : Option Meaning) (t : Table) : Except Error Table := do
  let rows ← t.rows.mapM (matchRow env optional ps filter)
  return { t with rows := rows.flatten }.declare (ps.flatMap PathPattern.names)

/-- The items of a value that is unwound: none of null, and a value that is no list is its only
item. -/
def items : Value → List Value
  | .null => []
  | .list xs => xs
  | v => [v]

def unwind (env : Env) (source : Meaning) (name : String) (t : Table) : Except Error Table := do
  let rows ← t.rows.mapM fun row => do
    return (items (← source.value env row)).map fun v => Dict.insert row name v
  return { t with rows := rows.flatten }.declare [name]

/-- The outputs that a call takes: their names in the query, and their places in the rows of the
procedure. -/
def outputs (p : Procedure) (c : ProcedureCall Meaning) : Except Error (List (String × Nat)) :=
  match c.yields with
  | none => .ok p.columns.zipIdx
  | some ys => ys.mapM fun y =>
    match p.columns.idxOf? y.name with
    | some i => .ok (y.column, i)
    | none => .error (.meaning (.noOutput y.name))

/-- The rows of a procedure, which takes no arguments. -/
def procedureRows (env : Env) (p : Procedure) (c : ProcedureCall Meaning) (row : Row) :
    Except Error (List (List Value)) := do
  let args ← c.args.mapM fun m => m.value env row
  if args.isEmpty then return p.rows env.store
  else throw (.meaning (.procedureArguments c.name args.length))

def call (env : Env) (c : ProcedureCall Meaning) (t : Table) : Except Error Table := do
  match Procedure.ofName? c.name with
  | none => throw (.meaning (.noProcedure c.name))
  | some p =>
    let outs ← outputs p c
    let rows ← t.rows.mapM fun row => do
      return (← procedureRows env p c row).map fun values =>
        outs.foldl (fun r o => Dict.insert r o.1 (values.getD o.2 .null)) row
    let kept ← Meaning.filterRows c.filter env rows.flatten
    return { t with rows := kept }.declare (outs.map Prod.fst)

/-- A clause that reads and holds no other clauses. -/
def readStep (env : Env) (c : Clause Meaning) (t : Table) : Except Error Table := do
  match c with
  | .matching optional ps w => matching env optional ps w t
  | .unwind x n => unwind env x n t
  | .withItems b w =>
    let projected ← Table.project env b t
    return { projected with rows := ← Meaning.filterRows w env projected.rows }
  | .returnItems b => Table.project env b t
  | .call c => call env c t
  | c => throw (.meaning (.notReading c.name))

/-! ### Queries -/

mutual

def readClause (env : Env) (t : Table) : Clause Meaning → Except Error Table
  | .subquery ⟨first, unions⟩ => t.join fun row => do
    let o ← readClauses env ⟨.ofRow row, false⟩ first
    readBranches env (.ofRow row) o unions
  | c => if c.isWrite then throw (.meaning (.writeInReading c.name)) else readStep env c t

/-- The output after some clauses. -/
def readClauses (env : Env) (o : Output) : List (Clause Meaning) → Except Error Output
  | [] => .ok o
  | c :: cs => do readClauses env ⟨← readClause env o.table c, c.makesResult⟩ cs

/-- The union of an output with those of some branches, all of which start with one table. -/
def readBranches (env : Env) (seed : Table) (o : Output) :
    List (Branch (Clause Meaning)) → Except Error Output
  | [] => .ok o
  | ⟨all, cs⟩ :: bs => do
    readBranches env seed (o.union all (← readClauses env ⟨seed, false⟩ cs)) bs

end

/-- The output of a query that only reads. -/
def read (env : Env) (seed : Table) (q : Query Meaning) : Except Error Output := do
  readBranches env seed (← readClauses env ⟨seed, false⟩ q.first) q.unions

end Query

end PropertyGraph
