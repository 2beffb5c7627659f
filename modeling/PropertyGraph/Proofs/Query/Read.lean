import PropertyGraph.Proofs.Meaning.Steady

/-!
Projections and reading clauses do not see a frame if their expressions do not.

The columns of a projection are its items, but for shortest path patterns, in whose place stands
the name of a column of the rows.
-/

namespace PropertyGraph

open Cypher

variable {fr : Frame}

/-! ### Projections -/

namespace Table

variable (env : Env)

lemma joinPaths_within {paths : Env → Row → Except Error (List Value)}
    (h : paths (env.within fr) = paths env) (name : String) (rows : List Row) :
    joinPaths (env.within fr) name paths rows = joinPaths env name paths rows := by
  rw [joinPaths, joinPaths, h]

lemma itemColumns_within {is : List (ProjectionItem Meaning)} (hi : ∀ i ∈ is, i.expr.Steady fr)
    (index : Nat) (rows : List Row) :
    itemColumns (env.within fr) index is rows = itemColumns env index is rows := by
  induction is generalizing index rows with
  | nil => rfl
  | cons i is ih =>
    have ih := ih fun j hj => hi j (by simp [hj])
    rw [itemColumns, itemColumns]
    cases hpaths : i.expr.paths with
    | none => simp only [ih]
    | some paths =>
      have h := (hi i (by simp)).paths paths hpaths env
      simp only [ih, joinPaths_within env h]

lemma steady_itemColumns {is : List (ProjectionItem Meaning)} (hi : ∀ i ∈ is, i.expr.Steady fr)
    {index : Nat} {rows rows' : List Row} {columns : List (String × Meaning)}
    (h : itemColumns env index is rows = .ok (columns, rows')) : ∀ c ∈ columns, c.2.Steady fr := by
  induction is generalizing index rows rows' columns with
  | nil =>
    obtain ⟨rfl, -⟩ := Prod.mk.inj (Except.ok.inj h)
    simp
  | cons i is ih =>
    have htail {rows : List Row} {rest : List (String × Meaning)} {rows' : List Row}
        (h : itemColumns env (index + 1) is rows = .ok (rest, rows')) :=
      ih (fun j hj => hi j (by simp [hj])) h
    rw [itemColumns] at h
    cases hpaths : i.expr.paths with
    | none =>
      rw [hpaths] at h
      obtain ⟨p, hp, h⟩ := bind_eq_ok.1 h
      obtain ⟨q, hq, h⟩ := bind_eq_ok.1 h
      obtain rfl := Except.ok.inj hp
      obtain ⟨rfl, -⟩ := Prod.mk.inj (Except.ok.inj h)
      exact List.forall_mem_cons.2 ⟨hi i (by simp), htail hq⟩
    | some paths =>
      rw [hpaths] at h
      obtain ⟨joined, -, h⟩ := bind_eq_ok.1 h
      obtain ⟨p, hp, h⟩ := bind_eq_ok.1 h
      obtain ⟨q, hq, h⟩ := bind_eq_ok.1 h
      obtain rfl := Except.ok.inj hp
      obtain ⟨rfl, -⟩ := Prod.mk.inj (Except.ok.inj h)
      exact List.forall_mem_cons.2 ⟨Meaning.steady_ofName fr _, htail hq⟩

lemma projectRow_within {columns : List (String × Meaning)} (hc : ∀ c ∈ columns, c.2.Steady fr)
    (group : Option (List Row)) (row : Row) :
    projectRow (env.within fr) columns group row = projectRow env columns group row := by
  rw [projectRow, projectRow]
  refine congrArg (· >>= _) (mapM_congr fun c h => ?_)
  rw [(hc c h).eval]

lemma projectRows_within {columns : List (String × Meaning)} (hc : ∀ c ∈ columns, c.2.Steady fr)
    (rows : List Row) :
    projectRows (env.within fr) columns rows = projectRows env columns rows := by
  have hkeys : ((columns.filter fun c => !c.2.aggregates).map fun c => c.2.value (env.within fr)) =
      (columns.filter fun c => !c.2.aggregates).map fun c => c.2.value env :=
    List.map_congr_left fun c h => (hc c (List.mem_of_mem_filter h)).value env
  have hrow : projectRow (env.within fr) columns = projectRow env columns :=
    funext fun group => funext fun row => projectRow_within env hc group row
  simp only [projectRows, hkeys, hrow]

lemma sortRows_within {items : List (SortItem Meaning)} (hi : ∀ i ∈ items, i.expr.Steady fr)
    (rows : List Projected) : sortRows (env.within fr) items rows = sortRows env items rows := by
  have hkeys (p : Projected) :
      items.mapM (fun i => i.expr.eval (env.within fr) p.group p.scope) =
        items.mapM fun i => i.expr.eval env p.group p.scope :=
    mapM_congr fun i h => by rw [(hi i h).eval]
  simp only [sortRows, hkeys]

lemma bound?_within {m : Option Meaning} (hm : ∀ x ∈ m, x.Steady fr) (clause : String) :
    bound? (env.within fr) clause m = bound? env clause m := by
  rw [bound?, bound?, Meaning.value?_within env none [] hm]

/-- **Projections** do not see a frame. -/
theorem project_within {b : Projection Meaning} (hb : ∀ x ∈ b.parts, x.Steady fr) (t : Table) :
    project (env.within fr) b t = project env b t := by
  simp only [Projection.parts, List.forall_mem_append, List.forall_mem_map, Option.mem_toList]
    at hb
  obtain ⟨⟨⟨hitems, horder⟩, hskip⟩, hlimit⟩ := hb
  rw [project, project, itemColumns_within env hitems]
  cases hlisted : itemColumns env 0 b.items t.rows with
  | error x => rfl
  | ok p =>
    have hcolumns : ∀ c ∈ (if b.star then starColumns t.columns b.items else []).map
        (fun c => (c, Meaning.ofName c)) ++ p.1, c.2.Steady fr := by
      rw [List.forall_mem_append, List.forall_mem_map]
      exact ⟨fun c _ => Meaning.steady_ofName fr c, steady_itemColumns env hitems hlisted⟩
    simp only [sortRows_within env horder, bound?_within env hskip, bound?_within env hlimit]
    change (projectRows (env.within fr) _ p.2 >>= _) = projectRows env _ p.2 >>= _
    rw [projectRows_within env hcolumns]

end Table

/-! ### Reading clauses -/

lemma Procedure.rows_above {n : String} {p : Procedure} (hp : ofName? n = some p) (s : Store)
    (older : List Change) : p.rows (s.above older) = p.rows s := by
  have hmem := List.mem_of_find?_eq_some hp
  simp only [all, List.mem_cons, List.not_mem_nil, or_false] at hmem
  rcases hmem with rfl | rfl | rfl | rfl | rfl <;> rfl

namespace Query

variable (env : Env)

lemma rows_within {ps : List (PathPattern Meaning)}
    (hp : ∀ x ∈ ps.flatMap PathPattern.properties, x.Steady fr) (row : Row) :
    (env.within fr).matcher.rows (ps.map fun p => Meaning.parts p (env.within fr)) row =
      env.matcher.rows (ps.map fun p => Meaning.parts p env) row := by
  have hparts : (ps.map fun p => Meaning.parts p (env.within fr)) =
      ps.map fun p => Meaning.parts p env :=
    List.map_congr_left fun p h => Meaning.parts_within env fun x hx =>
      hp x (List.mem_flatMap.2 ⟨p, h, hx⟩)
  rw [hparts, Meaning.matcher_within, Matcher.rows_above]

lemma matching_within {ps : List (PathPattern Meaning)} {filter : Option Meaning}
    (hp : ∀ x ∈ ps.flatMap PathPattern.properties, x.Steady fr) (hf : ∀ x ∈ filter, x.Steady fr)
    (optional : Bool) (t : Table) :
    matching (env.within fr) optional ps filter t = matching env optional ps filter t := by
  have hrow : matchRow (env.within fr) optional ps filter = matchRow env optional ps filter := by
    funext row
    simp only [matchRow, rows_within env hp, Meaning.filterRows_within env hf]
  rw [matching, matching, hrow]

lemma unwind_within {source : Meaning} (hs : source.Steady fr) (name : String) (t : Table) :
    unwind (env.within fr) source name t = unwind env source name t := by
  simp only [unwind, hs.value]

lemma call_within {c : ProcedureCall Meaning} (hc : ∀ x ∈ c.parts, x.Steady fr) (t : Table) :
    call (env.within fr) c t = call env c t := by
  simp only [ProcedureCall.parts, List.forall_mem_append, Option.mem_toList] at hc
  have hargs (row : Row) : c.args.mapM (fun m => m.value (env.within fr) row) =
      c.args.mapM fun m => m.value env row :=
    mapM_congr fun m h => by rw [(hc.1 m h).value]
  rw [call, call]
  cases hp : Procedure.ofName? c.name with
  | none => rfl
  | some p =>
    have hrows (row : Row) : procedureRows (env.within fr) p c row = procedureRows env p c row := by
      have hstore : p.rows (env.within fr).store = p.rows env.store :=
        Procedure.rows_above hp env.store fr.older
      simp only [procedureRows, hargs, hstore]
    simp only [hrows, Meaning.filterRows_within env hc.2]

lemma readStep_within {c : Clause Meaning} (hc : ∀ x ∈ c.parts, x.Steady fr) (t : Table) :
    readStep (env.within fr) c t = readStep env c t := by
  cases c with
  | matching optional ps w =>
    simp only [Clause.parts, List.forall_mem_append, Option.mem_toList] at hc
    exact matching_within env hc.1 hc.2 optional t
  | unwind x n => exact unwind_within env (hc x (by simp [Clause.parts])) n t
  | withItems b w =>
    simp only [Clause.parts, List.forall_mem_append, Option.mem_toList] at hc
    simp only [readStep, Table.project_within env hc.1, Meaning.filterRows_within env hc.2]
  | returnItems b => exact Table.project_within env hc t
  | call c => exact call_within env hc t
  | _ => rfl

mutual

lemma readClause_within {c : Clause Meaning} (hc : ∀ x ∈ c.parts, x.Steady fr) (t : Table) :
    readClause (env.within fr) t c = readClause env t c := by
  match c with
  | .subquery ⟨first, unions⟩ =>
    simp only [Clause.parts, List.forall_mem_append] at hc
    simp only [readClause, readClauses_within hc.1, readBranches_within hc.2]
  | .matching .. | .unwind .. | .withItems .. | .returnItems .. | .create .. | .merge .. | .set ..
  | .remove .. | .delete .. | .foreach .. | .call .. =>
    simp only [readClause, readStep_within env hc]

lemma readClauses_within {cs : List (Clause Meaning)}
    (hc : ∀ x ∈ Clause.allParts cs, x.Steady fr) (o : Output) :
    readClauses (env.within fr) o cs = readClauses env o cs := by
  match cs with
  | [] => rfl
  | c :: cs =>
    rw [Clause.allParts, List.forall_mem_append] at hc
    simp only [readClauses, readClause_within hc.1, readClauses_within hc.2]

lemma readBranches_within {bs : List (Branch (Clause Meaning))}
    (hb : ∀ x ∈ Clause.branchParts bs, x.Steady fr) (seed : Table) (o : Output) :
    readBranches (env.within fr) seed o bs = readBranches env seed o bs := by
  match bs with
  | [] => rfl
  | ⟨all, cs⟩ :: bs =>
    rw [Clause.branchParts, List.forall_mem_append] at hb
    simp only [readBranches, readClauses_within hb.1, readBranches_within hb.2]

end

/-- **Reading queries** do not see a frame. -/
theorem read_within {q : Query Meaning} (hq : ∀ x ∈ q.parts, x.Steady fr) (seed : Table) :
    read (env.within fr) seed q = read env seed q := by
  rw [QueryOf.parts, List.forall_mem_append] at hq
  simp only [read, readClauses_within env hq.1, readBranches_within env hq.2]

end Query

end PropertyGraph
