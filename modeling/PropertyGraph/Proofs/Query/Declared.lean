import PropertyGraph.Proofs.Query.Walked
import PropertyGraph.Proofs.Query.Written
import PropertyGraph.Proofs.Store.Run

/-!
No name is read that is not bound, in queries that pass the check and are ordered.

Such a query does the same to every graph, with the same output or the same failure, whether a name
that is not bound counts as null or as an error.
-/

namespace PropertyGraph

open Cypher

/-- A query in which names must be bound. -/
def Cypher.strictMeaning (q : Query Expr) : Query Meaning := (guardedQuery q).map Guarded.strict

namespace Guarded

lemma namesAfter_write {k : Clause Guarded} (hk : ∀ q, k ≠ .subquery q) (hw : k.isWrite)
    (names : List String) (known : Bool) :
    namesAfter names k = names ++ Query.writtenNames (k.map plain) ∧ k.known known = known := by
  cases k with
  | create ps => exact ⟨by rw [Clause.map, Query.writtenNames, names_map, namesAfter], rfl⟩
  | merge p =>
    exact ⟨by rw [Clause.map, Query.writtenNames, PathPattern.names_map, namesAfter], rfl⟩
  | set | remove | delete | foreach => exact ⟨(List.append_nil names).symm, rfl⟩
  | subquery q => exact absurd rfl (hk q)
  | _ => cases hw

lemma stepsAlike_run (c : Context) : StepsAlike (Query.strictLeaf c) (Query.runLeaf c) where
  step {k s s' known names t} hne hk hcheck hord ht hs := by
    rw [Query.strictLeaf, Query.runLeaf, isWrite_map hne, isWrite_map hne]
    split_ifs with hw
    · obtain ⟨hnames, hknown⟩ := namesAfter_write hne hw names known
      have hwritten : Query.writtenNames (k.map strict) = Query.writtenNames (k.map plain) := by
        cases k with
        | create ps => simp only [Clause.map, Query.writtenNames, names_map]
        | merge p => simp only [Clause.map, Query.writtenNames, PathPattern.names_map]
        | subquery q => exact absurd rfl (hne q)
        | _ => rfl
      rw [hnames, hknown, (strictWrite_same hk hcheck hord (ht.covers hs)).eq, hwritten]
      refine .refl (.bind (Query.writeClause_extended (k.map plain) t.rows) fun rows hrows => ?_)
      exact .pure (ht.adds ⟨rfl, hrows.2⟩)
    · refine .reading (fun env => ?_) fun env t' h => readStep_binds hcheck hord ht h
      rw [strictStep_eq ht, readStep_alike hk hcheck hord ht hs]

end Guarded

namespace Query

/-- **No name is read that is not bound**, if a query passes the check and is ordered: if that were
an error, the query would still do the same to each graph, with the same output or failure. -/
theorem strictRun_eq_run {q : Query Expr} (hcheck : Statement.check (.query q) = .ok ())
    (hord : q.Ordered) (c : Context) :
    strictRun c .unit (strictMeaning q) = run c .unit (queryMeaning q) := by
  obtain ⟨s, hs, -⟩ := bind_eq_ok.1 hcheck
  rw [← map_check_guardedQuery] at hs
  rw [run_eq_walk, ← map_plain_guardedQuery]
  exact ((Guarded.stepsAlike_run c).sameQuery (Guarded.sound_parts q) hs hord
    Table.binds_unit (List.Subset.refl _)).eq

/-- Names are read in a pattern, in a condition, in groups and in FOREACH. -/
theorem strictRun_eq_run_groups :
    let text := "MATCH (a)-->(b \x7bx: a.x\x7d) WHERE EXISTS \x7b RETURN b \x7d " ++
      "WITH a, count(b) AS n FOREACH (i IN [n] | SET a.y = i) RETURN a"
    let c : Context := ⟨[], 8, .zero⟩
    ∃ q : Query Expr, Cypher.parse text = .ok [.query q] ∧
      Statement.check (.query q) = .ok () ∧ q.Ordered ∧
      strictRun c .unit (strictMeaning q) = run c .unit (queryMeaning q) := by
  intro text c
  have h : (soleQuery? text).any (fun q =>
      (Statement.check (.query q)).toOption == some () && decide q.Ordered) = true := by
    decide +kernel
  obtain ⟨q, hq, h⟩ := (Option.any_eq_true _ _).1 h
  rw [Bool.and_eq_true, beq_iff_eq, decide_eq_true_iff] at h
  have hcheck := toOption_eq_some.1 h.1
  exact ⟨q, parse_of_soleQuery? hq, hcheck, h.2, strictRun_eq_run hcheck h.2 c⟩

/-- A pattern reads a name that is bound by the pattern after it. The check takes that for bound. -/
theorem not_strictRun_eq_run_of_later_name :
    ¬ ∀ (q : Query Expr) (calls : List Store.Call) (c : Context),
      Statement.check (.query q) = .ok () →
        (ExceptT.run (strictRun c .unit (strictMeaning q)) ⟨Store.run calls {}, {}⟩).1 =
          (ExceptT.run (run c .unit (queryMeaning q)) ⟨Store.run calls {}, {}⟩).1 := by
  intro hall
  let c : Context := ⟨[], 8, .zero⟩
  let d : Draft := ⟨Store.run [.createNode ["A"] [("x", .bool true)]] {}, {}⟩
  have h : (soleQuery? "MATCH (a \x7bx: b.x\x7d), (b) RETURN a.x").any (fun q =>
      (Statement.check (.query q)).toOption == some () &&
        (ExceptT.run (run c .unit (queryMeaning q)) d).1.toOption.isSome &&
        (ExceptT.run (strictRun c .unit (strictMeaning q)) d).1.toOption.isNone) = true := by
    decide +kernel
  obtain ⟨q, -, h⟩ := (Option.any_eq_true _ _).1 h
  simp only [Bool.and_eq_true, beq_iff_eq] at h
  obtain ⟨⟨hcheck, hplain⟩, hstrict⟩ := h
  rw [hall q _ c (toOption_eq_some.1 hcheck)] at hstrict
  rw [Option.isNone_iff_eq_none] at hstrict
  rw [hstrict] at hplain
  cases hplain

end Query

end PropertyGraph
