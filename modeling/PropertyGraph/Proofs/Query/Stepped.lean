import PropertyGraph.Proofs.Query.Projected

/-!
Clauses that read, in tables whose rows bind their scope.

Each of them does the same whether or not names must be bound, and the rows that it makes bind the
scope after it. Which names these rows bind follows from the clauses alone; it may be more than the
scope has.
-/

namespace PropertyGraph

open Cypher

namespace Guarded

/-! ### Names -/

mutual

/-- The names that rows bind after a clause, from those that they bind before. -/
def namesAfter (names : List String) : Clause Guarded → List String
  | .matching _ ps _ | .create ps => names ++ ps.flatMap PathPattern.names
  | .unwind _ n => names ++ [n]
  | .withItems b _ | .returnItems b =>
    b.items.map ProjectionItem.column ++ if b.star then names else []
  | .merge p _ _ => names ++ p.names
  | .call k => names ++ Query.calledNames (k.map plain)
  | .subquery ⟨first, unions⟩ =>
    names ++ if QueryOf.returns ⟨first, unions⟩ then
      namesAfterAll names first ++ namesAfterBranches names unions else []
  | .set _ | .remove _ | .delete _ _ | .foreach _ _ _ => names

def namesAfterAll (names : List String) : List (Clause Guarded) → List String
  | [] => names
  | k :: ks => namesAfterAll (namesAfter names k) ks

/-- The names that the rows of some branches bind, all of which start with the same. -/
def namesAfterBranches (names : List String) : List (Branch (Clause Guarded)) → List String
  | [] => []
  | ⟨_, ks⟩ :: bs => namesAfterAll names ks ++ namesAfterBranches names bs

end

section

variable {s s' : Scope} {known : Bool} {names : List String} {env : Env} {t t' : Table}

lemma names_map {ps : List (PathPattern Guarded)} {ε : Type} (F : Guarded → ε) :
    (ps.map (·.map F)).flatMap PathPattern.names = ps.flatMap PathPattern.names := by
  rw [List.flatMap_map]
  exact congrArg (List.flatMap · ps) (funext fun p => PathPattern.names_map F p)

/-! ### Checks -/

lemma after_matching {optional : Bool} {ps : List (PathPattern Guarded)} {w : Option Guarded}
    (h : Scope.after s (Clause.map check (.matching optional ps w)) = .ok s') :
    s' = s.declare (ps.flatMap PathPattern.names) ∧ ∀ g ∈ w, g.check s' = .ok () := by
  rw [Clause.map, Scope.after] at h
  obtain ⟨⟨⟩, -, h⟩ := bind_eq_ok.1 h
  obtain ⟨⟨⟩, hw, h⟩ := bind_eq_ok.1 h
  cases h
  rw [Scope.patternNames, names_map] at *
  exact ⟨rfl, checkAll_toList hw⟩

lemma after_unwind {x : Guarded} {n : String}
    (h : Scope.after s (Clause.map check (.unwind x n)) = .ok s') :
    s' = s.declare [n] ∧ x.check s = .ok () := by
  rw [Clause.map, Scope.after] at h
  obtain ⟨⟨⟩, hx, h⟩ := bind_eq_ok.1 h
  cases h
  exact ⟨rfl, hx⟩

lemma after_withItems {b : Projection Guarded} {w : Option Guarded}
    (h : Scope.after s (Clause.map check (.withItems b w)) = .ok s') :
    Scope.afterProjection s (b.map check) = .ok s' ∧ ∀ g ∈ w, g.check s' = .ok () := by
  rw [Clause.map, Scope.after] at h
  obtain ⟨after, hb, h⟩ := bind_eq_ok.1 h
  obtain ⟨⟨⟩, hw, h⟩ := bind_eq_ok.1 h
  cases h
  exact ⟨hb, checkAll_toList hw⟩

lemma after_call {k : ProcedureCall Guarded}
    (h : Scope.after s (Clause.map check (.call k)) = .ok s') :
    s' = s.declare (Query.calledNames (k.map plain)) ∧ (∀ g ∈ k.args, g.check s = .ok ()) ∧
      ∀ g ∈ k.filter, g.check s' = .ok () := by
  rw [Clause.map, Scope.after] at h
  obtain ⟨⟨⟩, hargs, h⟩ := bind_eq_ok.1 h
  obtain ⟨⟨⟩, hfilter, h⟩ := bind_eq_ok.1 h
  cases h
  exact ⟨rfl, checkAll_map hargs, checkAll_toList hfilter⟩

/-! ### Single clauses -/

lemma filterRows_alike {w : Option Guarded} (hw : ∀ g ∈ w, Column none s g) {rows : List Row}
    (hrows : ∀ row ∈ rows, row.Covers s) :
    Meaning.filterRows (w.map strict) env rows = Meaning.filterRows (w.map plain) env rows :=
  Meaning.filterRows_congr fun row hrow g hg => (hw g hg).alike (.alone (hrows row hrow))

lemma matching_alike {optional : Bool} {ps : List (PathPattern Guarded)} {w : Option Guarded}
    (hps : ∀ g ∈ ps.flatMap PathPattern.properties, g.Sound)
    (hord : patternsInOrder fits false s ps)
    (hw : ∀ g ∈ w, Column none (s.declare (ps.flatMap PathPattern.names)) g)
    (ht : ∀ row ∈ t.rows, row.Covers s) :
    Query.matching env optional (ps.map (·.map strict)) (w.map strict) t =
      Query.matching env optional (ps.map (·.map plain)) (w.map plain) t := by
  have hrow (row : Row) (hrow : row ∈ t.rows) :
      Query.matchRow env optional (ps.map (·.map strict)) (w.map strict) row =
        Query.matchRow env optional (ps.map (·.map plain)) (w.map plain) row := by
    rw [Query.matchRow, Query.matchRow, rows_alike hps hord (ht row hrow), names_map, names_map]
    refine bind_congr_ok fun found hfound => ?_
    have hcovers : ∀ row' ∈ found, row'.Covers (s.declare (ps.flatMap PathPattern.names)) := by
      intro row' hrow'
      have hext := (ht row hrow).extended (Matcher.rows_extended hfound hrow')
      simpa [List.flatMap_map, Meaning.parts] using hext
    rw [filterRows_alike hw hcovers]
  rw [Query.matching, Query.matching, mapM_congr hrow, names_map, names_map]

lemma unwind_alike {x : Guarded} (hx : Column none s x) (n : String)
    (ht : ∀ row ∈ t.rows, row.Covers s) :
    Query.unwind env x.strict n t = Query.unwind env x.plain n t := by
  have hvalue (row : Row) (hrow : row ∈ t.rows) : x.strict.value env row = x.plain.value env row :=
    hx.alike (.alone (ht row hrow))
  rw [Query.unwind, Query.unwind, mapM_congr fun row hrow => by rw [hvalue row hrow]]

lemma procedureRows_alike {p : Procedure} {k : ProcedureCall Guarded}
    (hk : ∀ g ∈ k.args, Column none s g) {row : Row} (hrow : row.Covers s) :
    Query.procedureRows env p (k.map strict) row = Query.procedureRows env p (k.map plain) row := by
  have hargs : ((k.map strict).args.mapM fun m => m.value env row) =
      (k.map plain).args.mapM fun m => m.value env row :=
    Meaning.evals_congr fun g hg => (hk g hg).alike (.alone hrow)
  rw [Query.procedureRows, Query.procedureRows, hargs]
  rfl

lemma call_alike {k : ProcedureCall Guarded} (hargs : ∀ g ∈ k.args, Column none s g)
    (hfilter : ∀ g ∈ k.filter, Column none (s.declare (Query.calledNames (k.map plain))) g)
    (ht : ∀ row ∈ t.rows, row.Covers s) :
    Query.call env (k.map strict) t = Query.call env (k.map plain) t := by
  rw [Query.call, Query.call, show (k.map strict).name = (k.map plain).name from rfl]
  cases hp : Procedure.ofName? (k.map plain).name with
  | none => rfl
  | some p =>
    refine bind_congr_ok fun outs houts => ?_
    rw [mapM_congr fun row hrow => congrArg (· >>= fun lines => pure (lines.map fun values =>
      outs.foldl (fun r o => Dict.insert r o.1 (values.getD o.2 .null)) row))
      (procedureRows_alike hargs (ht row hrow))]
    refine bind_congr_ok fun rows hrows => ?_
    have hcovers : ∀ row' ∈ rows.flatten,
        Row.Covers row' (s.declare (Query.calledNames (k.map plain))) := by
      intro row' hrow'
      obtain ⟨made, hmade, hrow'⟩ := List.mem_flatten.1 hrow'
      obtain ⟨row, hrow, hmade⟩ := mem_mapM hrows hmade
      obtain ⟨lines, -, hmade⟩ := bind_eq_ok.1 hmade
      cases hmade
      obtain ⟨values, -, rfl⟩ := List.mem_map.1 hrow'
      exact (ht row hrow).extended (Query.called_extended hp houts row values)
    exact congrArg (· >>= _) (filterRows_alike hfilter hcovers)

/-! ### Steps -/

lemma scopeAfter_eq {k : Clause Guarded} (h : Scope.after s (k.map check) = .ok s') :
    scopeAfter s k = s' := by
  rw [scopeAfter, h]
  rfl

lemma starIsKnown_of_projection {b : Projection Guarded} (h : projection s s' known b) :
    starIsKnown known b :=
  (Bool.and_eq_true_iff.1 h).2

lemma afterProjection_subset {b : Projection Guarded}
    (h : Scope.afterProjection s (b.map check) = .ok s') (hs : s ⊆ names) :
    s' ⊆ b.items.map ProjectionItem.column ++ if b.star then names else [] := by
  intro n hn
  rw [List.mem_append]
  refine ((mem_afterProjection h).1 hn).imp_right fun hn => ?_
  rw [if_pos hn.1]
  exact hs hn.2

/-- **A clause that reads does the same** whether or not names must be bound. -/
theorem readStep_alike {k : Clause Guarded} (hk : ∀ g ∈ k.parts, g.Sound)
    (hcheck : Scope.after s (k.map check) = .ok s') (hord : clause s known k)
    (ht : t.Binds names known) (hs : s ⊆ names) :
    Query.readStep env (k.map strict) t = Query.readStep env (k.map plain) t := by
  have hrows := ht.covers hs
  cases k with
  | matching optional ps w =>
    obtain ⟨rfl, hw⟩ := after_matching hcheck
    rw [clause, Bool.and_eq_true, Option.all_eq_true] at hord
    rw [Clause.parts, List.forall_mem_append] at hk
    exact matching_alike hk.1 hord.1
      (fun g hg => ⟨hk.2 g (Option.mem_toList.2 hg), hw g hg, hord.2 g hg⟩) hrows
  | unwind x n =>
    exact unwind_alike ⟨hk x List.mem_cons_self, (after_unwind hcheck).2, hord⟩ n hrows
  | withItems b w =>
    obtain ⟨hb, hw⟩ := after_withItems hcheck
    rw [clause, scopeAfter_eq (k := .returnItems b) hb, Bool.and_eq_true,
      Option.all_eq_true] at hord
    rw [Clause.parts, List.forall_mem_append] at hk
    change (Table.project env (b.map strict) t >>= _) = (Table.project env (b.map plain) t >>= _)
    rw [project_alike (projects_of_check hk.1 hb hord.1) hrows]
    refine bind_congr_ok fun projected hprojected => ?_
    have hbinds := ht.project (starIsKnown_of_projection hord.1) hprojected
    have hfilter : Meaning.filterRows (w.map strict) env projected.rows =
        Meaning.filterRows (w.map plain) env projected.rows :=
      filterRows_alike (fun g hg => ⟨hk.2 g (Option.mem_toList.2 hg), hw g hg, hord.2 g hg⟩)
        (hbinds.covers (afterProjection_subset hb hs))
    exact congrArg (· >>= _) hfilter
  | returnItems b =>
    rw [clause, scopeAfter_eq (k := .returnItems b) hcheck] at hord
    exact project_alike (projects_of_check hk hcheck hord) hrows
  | call k =>
    obtain ⟨rfl, hargs, hfilter⟩ := after_call hcheck
    rw [clause, Bool.and_eq_true, List.all_eq_true, Option.all_eq_true] at hord
    rw [Clause.parts, ProcedureCall.parts, List.forall_mem_append] at hk
    exact call_alike (fun g hg => ⟨hk.1 g hg, hargs g hg, hord.1 g hg⟩)
      (fun g hg => ⟨hk.2 g (Option.mem_toList.2 hg), hfilter g hg, hord.2 g hg⟩) hrows
  | subquery q => rfl
  | delete d xs => cases d <;> rfl
  | _ => rfl

/-- **The rows after a clause that reads** bind the names that it adds. -/
theorem readStep_binds {k : Clause Guarded} (hcheck : Scope.after s (k.map check) = .ok s')
    (hord : clause s known k) (ht : t.Binds names known)
    (h : Query.readStep env (k.map plain) t = .ok t') :
    t'.Binds (namesAfter names k) (k.known known) := by
  cases k with
  | matching optional ps w =>
    have hadds := Query.matching_adds h
    rw [names_map] at hadds
    exact ht.adds hadds
  | unwind x n => exact ht.adds (Query.unwind_adds h)
  | withItems b w =>
    obtain ⟨hb, -⟩ := after_withItems hcheck
    rw [clause, scopeAfter_eq (k := .returnItems b) hb, Bool.and_eq_true] at hord
    obtain ⟨projected, hprojected, h⟩ := bind_eq_ok.1 h
    obtain ⟨rows, hrows, h⟩ := bind_eq_ok.1 h
    cases h
    exact (ht.project (starIsKnown_of_projection hord.1) hprojected).subset fun row hrow =>
      Query.mem_filterRows hrows hrow
  | returnItems b => exact ht.project (starIsKnown_of_projection hord) h
  | call k => exact ht.adds (Query.call_adds h)
  | _ => cases h

/-- The columns that a star stands for are bound in every row. -/
lemma strictStep_eq {k : Clause Meaning} (ht : t.Binds names known) :
    Query.strictStep env k t = Query.readStep env k t := by
  have hcolumns : Query.starReads t k ⊆ t.columns := by
    cases k with
    | withItems b | returnItems b =>
      rw [Query.starReads]
      split_ifs
      · intro n hn
        rw [Table.starColumns, List.mem_mergeSort] at hn
        exact List.mem_of_mem_filter hn
      · exact List.nil_subset _
    | _ => exact List.nil_subset _
  have hdemand : (t.rows.forM fun row => row.demand (Query.starReads t k)) = .ok () :=
    forM_eq_ok.2 fun row hrow => demand_eq_ok (ht.covers ht.columns row hrow) hcolumns
  rw [Query.strictStep, hdemand]
  rfl

/-! ### Scopes -/

lemma isReturn_map {ε δ : Type} (F : ε → δ) (k : Clause ε) : (k.map F).isReturn = k.isReturn := by
  cases k with
  | subquery q => rfl
  | _ => rfl

lemma endsInReturn_mapAll {ε δ : Type} (F : ε → δ) (ks : List (Clause ε)) :
    endsInReturn (Clause.mapAll F ks) = endsInReturn ks := by
  have hmap (ks : List (Clause ε)) : Clause.mapAll F ks = ks.map (·.map F) := by
    induction ks with
    | nil => rfl
    | cons k ks ih => rw [Clause.mapAll, List.map_cons, ih]
  rw [endsInReturn, endsInReturn, hmap, List.getLast?_map, Option.any_map]
  simp only [isReturn_map]

lemma returns_of_endsInReturn {ε : Type} {first : List (Clause ε)} (h : endsInReturn first)
    (unions : List (Branch (Clause ε))) : QueryOf.returns ⟨first, unions⟩ := by
  obtain ⟨k, hk, hreturn⟩ := (Option.any_eq_true _ _).1 h
  rw [QueryOf.returns, Bool.or_eq_true]
  refine .inl ((Option.any_eq_true _ _).2 ⟨k, hk, ?_⟩)
  cases k with
  | returnItems => rfl
  | _ => cases hreturn

mutual

/-- The scope after a clause is among the names after it. -/
lemma after_subset {s s' : Scope} {names : List String} {k : Clause Guarded}
    (hcheck : Scope.after s (k.map check) = .ok s') (hs : s ⊆ names) : s' ⊆ namesAfter names k := by
  have hdeclare (more : List String) : s.declare more ⊆ names ++ more := fun n hn =>
    List.mem_append.2 ((Scope.mem_declare.1 hn).imp_left fun h => hs h)
  match k with
  | .matching optional ps w =>
    obtain ⟨rfl, -⟩ := after_matching hcheck
    exact hdeclare _
  | .unwind x n =>
    obtain ⟨rfl, -⟩ := after_unwind hcheck
    exact hdeclare _
  | .withItems b w => exact afterProjection_subset (after_withItems hcheck).1 hs
  | .returnItems b => exact afterProjection_subset hcheck hs
  | .call k =>
    obtain ⟨rfl, -⟩ := after_call hcheck
    exact hdeclare _
  | .create ps =>
    obtain ⟨⟨⟩, -, h⟩ := bind_eq_ok.1 hcheck
    cases h
    rw [Scope.patternNames, names_map]
    exact hdeclare _
  | .merge p c m =>
    obtain ⟨⟨⟩, -, h⟩ := bind_eq_ok.1 hcheck
    obtain ⟨⟨⟩, -, h⟩ := bind_eq_ok.1 h
    cases h
    rw [PathPattern.names_map]
    exact hdeclare _
  | .set is | .remove is | .delete d xs =>
    obtain ⟨⟨⟩, -, h⟩ := bind_eq_ok.1 hcheck
    cases h
    exact hs
  | .foreach n x cs =>
    obtain ⟨⟨⟩, -, h⟩ := bind_eq_ok.1 hcheck
    obtain ⟨s'', -, h⟩ := bind_eq_ok.1 h
    cases h
    exact hs
  | .subquery ⟨first, unions⟩ =>
    rw [Clause.map, Scope.after] at hcheck
    obtain ⟨s₁, hfirst, hcheck⟩ := bind_eq_ok.1 hcheck
    obtain ⟨s₂, hunions, hcheck⟩ := bind_eq_ok.1 hcheck
    rw [endsInReturn_mapAll] at hcheck
    cases hcheck
    rw [namesAfter]
    split_ifs with hends hreturns
    · intro n hn
      refine List.mem_append.2 ((Scope.mem_declare.1 hn).imp (fun h => hs h) fun hn => ?_)
      exact afterBranches_subset hunions hs (afterAll_subset hfirst hs) hn
    · exact absurd (returns_of_endsInReturn hends unions) hreturns
    all_goals exact fun n hn => List.mem_append_left _ (hs hn)

lemma afterAll_subset {s s' : Scope} {names : List String} {ks : List (Clause Guarded)}
    (hcheck : Scope.afterAll s (Clause.mapAll check ks) = .ok s') (hs : s ⊆ names) :
    s' ⊆ namesAfterAll names ks := by
  match ks with
  | [] =>
    cases hcheck
    exact hs
  | k :: ks =>
    obtain ⟨s₁, hk, hks⟩ := bind_eq_ok.1 hcheck
    rw [namesAfterAll]
    exact afterAll_subset hks (after_subset hk hs)

lemma afterBranches_subset {s r r' : Scope} {names inner : List String}
    {bs : List (Branch (Clause Guarded))}
    (hcheck : Scope.afterBranches s r (Clause.mapBranches check bs) = .ok r') (hs : s ⊆ names)
    (hr : r ⊆ inner) : r' ⊆ inner ++ namesAfterBranches names bs := by
  match bs with
  | [] =>
    cases hcheck
    exact fun n hn => List.mem_append_left _ (hr hn)
  | ⟨all, ks⟩ :: bs =>
    obtain ⟨more, hks, hbs⟩ := bind_eq_ok.1 hcheck
    have hmore : r.declare more ⊆ inner ++ namesAfterAll names ks := fun n hn =>
      List.mem_append.2 ((Scope.mem_declare.1 hn).imp (fun h => hr h) fun h =>
        afterAll_subset hks hs h)
    rw [namesAfterBranches, ← List.append_assoc]
    exact afterBranches_subset hbs hs hmore

end

end

end Guarded

end PropertyGraph
