import PropertyGraph.Proofs.Cypher.Map
import PropertyGraph.Proofs.Query.Reading
import PropertyGraph.Query.Write

/-!
Queries that fail where a name is read that is not bound.

Such a name counts as null. Here it is an error: in expressions, as the entity that SET and REMOVE
change, and as a column that a star stands for. Only the row of a group that is made of no rows at
all binds nothing, and what is evaluated for it goes by the rule for nulls.
-/

namespace PropertyGraph

open Cypher

/-- Fails if some names are not bound. -/
def Row.demand (row : Row) (names : List String) : Except Error Unit :=
  names.forM fun n => if Dict.contains row n then .ok () else .error (.scope (.notDefined n))

namespace Cypher

variable {ε : Type}

/-- The names that a layer reads by itself. -/
def Layer.reads : Layer ε → List String
  | .name n => [n]
  | .mapOf n is => n :: is.filterMap fun
    | .name n => some n
    | _ => none
  | _ => []

def SetItem.target? : SetItem ε → Option String
  | .replace n _ | .extend n _ | .labels n _ => some n
  | .property _ _ _ => none

def RemoveItem.target? : RemoveItem ε → Option String
  | .labels n _ => some n
  | .property _ _ => none

end Cypher

namespace Query

/-! ### Subqueries -/

section

variable {m : Type → Type} [Monad m] (leaf : Table → Clause Meaning → m Table)

mutual

/-- The table after a clause, where `leaf` says what clauses do that hold no others. -/
def walkClause (t : Table) : Clause Meaning → m Table
  | .subquery ⟨first, unions⟩ => t.join fun row => do
    let o ← walkClauses ⟨.ofRow row, false⟩ first
    walkBranches (.ofRow row) o unions
  | k => leaf t k

def walkClauses (o : Output) : List (Clause Meaning) → m Output
  | [] => return o
  | k :: ks => do walkClauses ⟨← walkClause o.table k, k.makesResult⟩ ks

def walkBranches (seed : Table) (o : Output) : List (Branch (Clause Meaning)) → m Output
  | [] => return o
  | ⟨all, ks⟩ :: bs => do
    walkBranches seed (o.union all (← walkClauses ⟨seed, false⟩ ks)) bs

end

/-- The output of a query. -/
def walk (seed : Table) (q : Query Meaning) : m Output := do
  walkBranches leaf seed (← walkClauses leaf ⟨seed, false⟩ q.first) q.unions

end

/-- What a clause does in a query that only reads. -/
def readLeaf (env : Env) (t : Table) (k : Clause Meaning) : Except Error Table :=
  if k.isWrite then throw (.meaning (.writeInReading k.name)) else readStep env k t

/-- What a clause does in a query. -/
def runLeaf (c : Context) (t : Table) (k : Clause Meaning) : Edit Table := do
  if k.isWrite then
    let rows ← writeClause c t.rows k
    return { t with rows }.declare (writtenNames k)
  else Edit.reading c fun env => readStep env k t

/-! ### Reading -/

/-- The columns that the star of a projection stands for. -/
def starReads (t : Table) : Clause Meaning → List String
  | .withItems b _ | .returnItems b => if b.star then Table.starColumns t.columns b.items else []
  | _ => []

/-- What a clause reads of a table, whose rows must bind the columns of a star. -/
def strictStep (env : Env) (k : Clause Meaning) (t : Table) : Except Error Table := do
  t.rows.forM fun row => row.demand (starReads t k)
  readStep env k t

def strictReadLeaf (env : Env) (t : Table) (k : Clause Meaning) : Except Error Table :=
  if k.isWrite then throw (.meaning (.writeInReading k.name)) else strictStep env k t

def strictRead (env : Env) (seed : Table) (q : Query Meaning) : Except Error Output :=
  walk (strictReadLeaf env) seed q

end Query

namespace Meaning

variable (env : Env) (group : Option (List Row)) (row : Row)

/-- The value of a layer in a row that binds the names it reads. -/
def evalBound (l : Layer Meaning) : Except Error Value := do
  row.demand l.reads
  match l with
  | .existsQuery q => return .bool !(← Query.strictRead env (.ofRow row) q).table.rows.isEmpty
  | l => evalLayer env group row l

/-- The strict meaning of a layer, from the meanings of its parts and their strict meanings. -/
def strictly (plain strict : Layer Meaning) : Meaning where
  eval env group row :=
    match group with
    | some [] => evalLayer env group row plain
    | _ => evalBound env group row strict
  aggregates := layerAggregates plain
  paths := layerPaths strict

end Meaning

namespace Query

/-! ### Writing -/

variable (c : Context)

def strictSet (is : List (SetItem Meaning)) (row : Row) : Edit Unit := do
  Edit.reading c fun _ => row.demand (is.filterMap SetItem.target?)
  setItems c is row

def strictRemove (is : List (RemoveItem Meaning)) (row : Row) : Edit Unit := do
  Edit.reading c fun _ => row.demand (is.filterMap RemoveItem.target?)
  removeItems c is row

def strictMerge (p : PathPattern Meaning) (onCreate onMatch : List (SetItem Meaning))
    (row : Row) : Edit (List Row) := do
  let found ← Edit.reading c fun env => env.matcher.rows [Meaning.parts p env] row
  if found.isEmpty then
    let row ← createPath c p row
    strictSet c onCreate row
    return [row]
  else
    Edit.count { mergesMatched := found.length }
    eachRow (strictSet c onMatch) found

mutual

def strictWrite (rows : List Row) : Clause Meaning → Edit (List Row)
  | .merge p onCreate onMatch => List.flatten <$> rows.mapM (strictMerge c p onCreate onMatch)
  | .set is => eachRow (strictSet c is) rows
  | .remove is => eachRow (strictRemove c is) rows
  | .foreach n x body =>
    eachRow (fun row => do
      let items ← Edit.reading c fun env => do foreachItems (← x.value env row)
      items.forM fun v => do
        let _ ← strictWrites [Dict.insert row n v] body) rows
  | k => writeClause c rows k

def strictWrites (rows : List Row) : List (Clause Meaning) → Edit (List Row)
  | [] => return rows
  | k :: ks => do strictWrites (← strictWrite rows k) ks

end

def strictLeaf (t : Table) (k : Clause Meaning) : Edit Table := do
  if k.isWrite then
    let rows ← strictWrite c t.rows k
    return { t with rows }.declare (writtenNames k)
  else Edit.reading c fun env => strictStep env k t

/-- The output of a query all of whose names must be bound where they are read. -/
def strictRun (seed : Table) (q : Query Meaning) : Edit Output := walk (strictLeaf c) seed q

/-! ### Queries as they are run -/

variable {c}

section

variable (env : Env)

mutual

lemma readClause_eq_walk (t : Table) (k : Clause Meaning) :
    readClause env t k = walkClause (readLeaf env) t k := by
  match k with
  | .subquery ⟨first, unions⟩ =>
    simp only [readClause, walkClause, readClauses_eq_walk, readBranches_eq_walk]
  | .matching .. | .unwind .. | .withItems .. | .returnItems .. | .create .. | .merge .. | .set ..
  | .remove .. | .delete .. | .foreach .. | .call .. => rfl

lemma readClauses_eq_walk (o : Output) (ks : List (Clause Meaning)) :
    readClauses env o ks = walkClauses (readLeaf env) o ks := by
  match ks with
  | [] => rfl
  | k :: ks => simp only [readClauses, walkClauses, readClause_eq_walk, readClauses_eq_walk]

lemma readBranches_eq_walk (seed : Table) (o : Output) (bs : List (Branch (Clause Meaning))) :
    readBranches env seed o bs = walkBranches (readLeaf env) seed o bs := by
  match bs with
  | [] => rfl
  | ⟨all, ks⟩ :: bs =>
    simp only [readBranches, walkBranches, readClauses_eq_walk, readBranches_eq_walk]

end

lemma read_eq_walk (seed : Table) (q : Query Meaning) :
    read env seed q = walk (readLeaf env) seed q := by
  simp only [read, walk, readClauses_eq_walk, readBranches_eq_walk]

end

mutual

lemma runClause_eq_walk (t : Table) (k : Clause Meaning) :
    runClause c t k = walkClause (runLeaf c) t k := by
  match k with
  | .subquery ⟨first, unions⟩ =>
    simp only [runClause, walkClause, runClauses_eq_walk, runBranches_eq_walk]
  | .matching .. | .unwind .. | .withItems .. | .returnItems .. | .create .. | .merge .. | .set ..
  | .remove .. | .delete .. | .foreach .. | .call .. => rfl

lemma runClauses_eq_walk (o : Output) (ks : List (Clause Meaning)) :
    runClauses c o ks = walkClauses (runLeaf c) o ks := by
  match ks with
  | [] => rfl
  | k :: ks => simp only [runClauses, walkClauses, runClause_eq_walk, runClauses_eq_walk]

lemma runBranches_eq_walk (seed : Table) (o : Output) (bs : List (Branch (Clause Meaning))) :
    runBranches c seed o bs = walkBranches (runLeaf c) seed o bs := by
  match bs with
  | [] => rfl
  | ⟨all, ks⟩ :: bs =>
    simp only [runBranches, walkBranches, runClauses_eq_walk, runBranches_eq_walk]

end

lemma run_eq_walk (seed : Table) (q : Query Meaning) :
    run c seed q = walk (runLeaf c) seed q := by
  simp only [run, walk, runClauses_eq_walk, runBranches_eq_walk]

/-! ### Readings of whole queries -/

section

variable (c) (leaf : Env → Table → Clause Meaning → Except Error Table)

mutual

lemma reading_walkClause (t : Table) (k : Clause Meaning) :
    Edit.reading c (fun env => walkClause (leaf env) t k) =
      walkClause (fun t k => Edit.reading c fun env => leaf env t k) t k := by
  match k with
  | .subquery ⟨first, unions⟩ =>
    simp only [walkClause, Table.join_reading, Edit.reading_bind, reading_walkClauses,
      reading_walkBranches]
  | .matching .. | .unwind .. | .withItems .. | .returnItems .. | .create .. | .merge .. | .set ..
  | .remove .. | .delete .. | .foreach .. | .call .. => rfl

lemma reading_walkClauses (o : Output) (ks : List (Clause Meaning)) :
    Edit.reading c (fun env => walkClauses (leaf env) o ks) =
      walkClauses (fun t k => Edit.reading c fun env => leaf env t k) o ks := by
  match ks with
  | [] => exact Edit.reading_pure c o
  | k :: ks => simp only [walkClauses, Edit.reading_bind, reading_walkClause, reading_walkClauses]

lemma reading_walkBranches (seed : Table) (o : Output) (bs : List (Branch (Clause Meaning))) :
    Edit.reading c (fun env => walkBranches (leaf env) seed o bs) =
      walkBranches (fun t k => Edit.reading c fun env => leaf env t k) seed o bs := by
  match bs with
  | [] => exact Edit.reading_pure c o
  | ⟨all, ks⟩ :: bs =>
    simp only [walkBranches, Edit.reading_bind, reading_walkClauses, reading_walkBranches]

end

/-- **A query is read in one step**, or step by step. -/
theorem reading_walk (seed : Table) (q : Query Meaning) :
    Edit.reading c (fun env => walk (leaf env) seed q) =
      walk (fun t k => Edit.reading c fun env => leaf env t k) seed q := by
  simp only [walk, Edit.reading_bind, reading_walkClauses, reading_walkBranches]

end

end Query

end PropertyGraph
