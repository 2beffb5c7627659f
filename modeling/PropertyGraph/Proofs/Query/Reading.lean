import PropertyGraph.Cypher.Grammar.Statement
import PropertyGraph.Meaning.Layer
import PropertyGraph.Proofs.Query.Made

/-!
A query that only reads runs as it is read.

A step that reads can be taken apart and put together like what it reads. So the run of a reading
query, step by step, is a single reading of its output, by induction on the query.
-/

namespace PropertyGraph

open Cypher

/-! ### Reading steps -/

namespace Edit

variable {α β : Type} (c : Context)

/-- Edits that do the same to every draft are equal. -/
lemma ext {e f : Edit α} (h : ∀ d, ExceptT.run e d = ExceptT.run f d) : e = f := funext h

lemma reading_pure (a : α) : reading c (fun _ => .ok a) = pure a :=
  ext fun d => run_reading c _ d

lemma reading_bind (f : Env → Except Error α) (g : Env → α → Except Error β) :
    reading c (fun env => f env >>= g env) =
      reading c f >>= fun a => reading c fun env => g env a := by
  refine ext fun d => ?_
  rw [run_bind, run_reading, run_reading]
  rcases f (c.on d.store) with x | a
  · rfl
  · exact (run_reading c (fun env => g env a) d).symm

/-- What is read of a graph can be told from the step that reads it. -/
lemma reading_inj {f g : Env → Except Error α} {env : Env}
    (h : reading env.toContext f = reading env.toContext g) : f env = g env := by
  have hrun := congrArg (fun e : Edit α => (ExceptT.run e ⟨env.store, {}⟩).1) h
  simp only [run_reading] at hrun
  exact hrun

lemma reading_mapM (f : Env → β → Except Error α) (xs : List β) :
    reading c (fun env => xs.mapM (f env)) = xs.mapM fun x => reading c fun env => f env x := by
  induction xs with
  | nil => exact reading_pure c []
  | cons x xs ih =>
    simp only [List.mapM_cons, reading_bind, ih, pure, Except.pure, reading_pure]

end Edit

/-! ### Queries -/

/-- A table is joined in one reading with what is read for its rows. -/
lemma Table.join_reading (c : Context) (f : Env → Row → Except Error Output) (t : Table) :
    Edit.reading c (fun env => t.join (f env)) =
      t.join fun row => Edit.reading c fun env => f env row := by
  simp only [join, Edit.reading_bind, Edit.reading_mapM, pure, Except.pure, Edit.reading_pure]

namespace Query

variable (c : Context)

/-- A clause that holds no others and only reads. -/
lemma run_step {k : Clause Meaning} (hk : k.isWrite = false) (t : Table) :
    (do
      if k.isWrite then
        let rows ← writeClause c t.rows k
        return { t with rows }.declare (writtenNames k)
      else Edit.reading c fun env => readStep env k t : Edit Table) =
      Edit.reading c fun env =>
        if k.isWrite then throw (.meaning (.writeInReading k.name)) else readStep env k t := by
  simp only [hk, Bool.false_eq_true, if_false]

mutual

lemma runClause_eq_read {k : Clause Meaning} (hk : k.isWrite = false) (t : Table) :
    runClause c t k = Edit.reading c fun env => readClause env t k := by
  match k with
  | .subquery ⟨first, unions⟩ =>
    rw [Clause.isWrite, Bool.or_eq_false_iff] at hk
    simp only [runClause, readClause, Table.join_reading, Edit.reading_bind,
      runClauses_eq_read hk.1, runBranches_eq_read hk.2]
  | .matching .. | .unwind .. | .withItems .. | .returnItems .. | .create .. | .merge .. | .set ..
  | .remove .. | .delete .. | .foreach .. | .call .. =>
    simp only [runClause, readClause]
    exact run_step c hk t

lemma runClauses_eq_read {ks : List (Clause Meaning)} (hk : Clause.anyWrite ks = false)
    (o : Output) : runClauses c o ks = Edit.reading c fun env => readClauses env o ks := by
  match ks with
  | [] => simp only [runClauses, readClauses, Edit.reading_pure]
  | k :: ks =>
    rw [Clause.anyWrite, Bool.or_eq_false_iff] at hk
    simp only [runClauses, readClauses, Edit.reading_bind, runClause_eq_read hk.1,
      runClauses_eq_read hk.2]

lemma runBranches_eq_read {bs : List (Branch (Clause Meaning))}
    (hb : Clause.anyBranchWrites bs = false) (seed : Table) (o : Output) :
    runBranches c seed o bs = Edit.reading c fun env => readBranches env seed o bs := by
  match bs with
  | [] => simp only [runBranches, readBranches, Edit.reading_pure]
  | ⟨all, ks⟩ :: bs =>
    rw [Clause.anyBranchWrites, Bool.or_eq_false_iff] at hb
    simp only [runBranches, readBranches, Edit.reading_bind, runClauses_eq_read hb.1,
      runBranches_eq_read hb.2]

end

lemma run_eq_reading {q : Query Meaning} (hq : q.isWrite = false) (seed : Table) :
    run c seed q = Edit.reading c fun env => read env seed q := by
  rw [QueryOf.isWrite, Bool.or_eq_false_iff] at hq
  simp only [run, read, Edit.reading_bind, runClauses_eq_read c hq.1, runBranches_eq_read c hq.2]

end Query

/-! ### Queries that only read -/

namespace Cypher.Expr

variable {δ : Type} (f : Layer δ → δ)

mutual

lemma isWrite_foldClause (c : Clause Expr) : (foldClause f c).isWrite = c.isWrite := by
  match c with
  | .subquery ⟨first, unions⟩ =>
    simp only [foldClause, foldQuery, Clause.isWrite, anyWrite_foldClauses first,
      anyBranchWrites_foldBranchQueries unions]
  | .matching .. | .unwind .. | .withItems .. | .returnItems .. | .create .. | .merge .. | .set ..
  | .remove .. | .delete .. | .foreach .. | .call .. => simp only [foldClause, Clause.isWrite]

lemma anyWrite_foldClauses (cs : List (Clause Expr)) :
    Clause.anyWrite (foldClauses f cs) = Clause.anyWrite cs := by
  match cs with
  | [] => rfl
  | c :: cs =>
    simp only [foldClauses, Clause.anyWrite, isWrite_foldClause c, anyWrite_foldClauses cs]

lemma anyBranchWrites_foldBranchQueries (bs : List (Branch (Clause Expr))) :
    Clause.anyBranchWrites (foldBranchQueries f bs) = Clause.anyBranchWrites bs := by
  match bs with
  | [] => rfl
  | ⟨all, cs⟩ :: bs =>
    simp only [foldBranchQueries, Clause.anyBranchWrites, anyWrite_foldClauses cs,
      anyBranchWrites_foldBranchQueries bs]

end

lemma isWrite_foldQuery (q : Query Expr) : (foldQuery f q).isWrite = q.isWrite := by
  obtain ⟨first, unions⟩ := q
  simp only [QueryOf.isWrite, foldQuery, anyWrite_foldClauses, anyBranchWrites_foldBranchQueries]

end Cypher.Expr

namespace Query

/-- **A query that only reads runs as it is read**, with the same output or the same failure, from
any table. The graph with its journal and its counters of ids stays as it is, and so do the counts
of what was changed. -/
theorem run_of_not_isWrite {q : Query Expr} (hq : q.isWrite = false) (c : Context) (seed : Table)
    (d : Draft) :
    ExceptT.run (run c seed (queryMeaning q)) d =
      (read (c.on d.store) seed (queryMeaning q), d) := by
  have hm : (queryMeaning q).isWrite = false := by rw [queryMeaning, Expr.isWrite_foldQuery, hq]
  rw [run_eq_reading c hm, Edit.run_reading]

/-- A query with a union inside of a subquery, and a subquery inside of a condition, over a node
that was just created. -/
theorem run_of_not_isWrite_nested :
    let c : Context := ⟨[], 8, .zero⟩
    let d : Draft := ⟨(Store.createNode ["A"] [] {}).2, { nodesCreated := 1 }⟩
    ∃ q : Query Expr, Cypher.parse ("MATCH (a) WHERE EXISTS \x7b MATCH (b) CALL \x7b WITH b " ++
        "RETURN 1 AS x UNION RETURN b AS x \x7d RETURN x \x7d RETURN *") = .ok [.query q] ∧
      q.isWrite = false ∧
      ExceptT.run (run c .unit (queryMeaning q)) d =
        (read (c.on d.store) .unit (queryMeaning q), d) := by
  intro c d
  have h : (soleQuery? ("MATCH (a) WHERE EXISTS \x7b MATCH (b) CALL \x7b WITH b " ++
      "RETURN 1 AS x UNION RETURN b AS x \x7d RETURN x \x7d RETURN *")).any
      (fun q => !q.isWrite) = true := by decide +kernel
  obtain ⟨q, hq, h⟩ := Option.any_eq_true _ _ |>.1 h
  rw [Bool.not_eq_true'] at h
  exact ⟨q, parse_of_soleQuery? hq, h, run_of_not_isWrite h c .unit d⟩

end Query

end PropertyGraph
