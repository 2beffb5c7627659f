import PropertyGraph.Cypher.Grammar.Statement
import PropertyGraph.Cypher.Scope
import PropertyGraph.Proofs.Query.Names
import PropertyGraph.Proofs.Store.Run
import PropertyGraph.Meaning.Layer
import PropertyGraph.Query.Reply

/-!
What a query tells of its reply, whatever the graph and the parameters.

The kind of the reply is that of the last clauses. The columns follow from the clauses as long as
no subquery has to run to tell its own: a subquery that brings new columns does so row by row, and
none at all into a table without rows. So along with the columns there goes a flag, whether a table
has a row for sure. The columns are lost at a subquery that may have no row to start with, and come
back with the next projection that lists its items.
-/

namespace PropertyGraph

open Cypher

/-- What is known of a table before a query runs. -/
structure Outline where
  /-- The columns, if they do not depend on the rows. -/
  columns : Option (List String)
  /-- Whether there is a row for sure. -/
  fed : Bool
  /-- Whether it is a result. -/
  returns : Bool

/-- Whether UNWIND goes through an item for sure. -/
def Cypher.Expr.hasItems : Expr → Bool
  | .of (.list (_ :: _)) => true
  | .of (.literal v) => !(Query.items v).isEmpty
  | _ => false

namespace Outline

/-- The outline of the table that a query starts from. -/
def unit : Outline := ⟨some [], true, false⟩

/-- Some names are added to each row, and there are rows again if `fed` says so. -/
def adds (o : Outline) (names : List String) (fed : Bool) : Outline :=
  { o with columns := o.columns.map (Table.addColumns · names), fed := o.fed && fed }

/-- Whether a projection folds all its rows, also if there are none, to one. -/
def groupsAll (b : Projection Meaning) : Bool :=
  !b.star && !b.items.isEmpty && b.items.all fun i => i.expr.aggregates

/-- Whether a projection leaves a row if it finds one. -/
def leavesRow (b : Projection Meaning) : Bool :=
  b.items.all (fun i => i.expr.paths.isNone) && b.skip.isNone && b.limit.isNone

def project (o : Outline) (b : Projection Meaning) : Outline :=
  { o with
    columns := if b.star then o.columns.map (Query.projectedColumns b)
      else some (Query.projectedColumns b [])
    fed := (o.fed || groupsAll b) && leavesRow b }

/-- The outline of a row alone, whose columns are in the order of their names. -/
def seed (o : Outline) : Outline :=
  ⟨o.columns.map fun cs => Dict.keys (Query.bindNulls cs []), true, false⟩

/-- The columns after a subquery with a result. Without a row for it to run on, there are only
those that were there before. -/
def joinColumns (o inner : Outline) : Option (List String) := do
  let cs ← o.columns
  let ds ← inner.columns
  if o.fed || ds.all (· ∈ cs) then some (Table.addColumns cs ds) else none

/-- What is known after a subquery. -/
def join (o inner : Outline) : Outline :=
  if inner.returns then
    { o with columns := o.joinColumns inner, fed := o.fed && inner.fed }
  else o

def union (a b : Outline) : Outline :=
  ⟨do return Table.addColumns (← a.columns) (← b.columns), a.fed || b.fed, a.returns || b.returns⟩

/-- What is known after a clause that holds no others. -/
def step (o : Outline) : Clause Meaning → Outline
  | .matching optional ps _ => o.adds (ps.flatMap PathPattern.names) optional
  | .unwind _ n => o.adds [n] false
  | .withItems b w => { o.project b with fed := (o.project b).fed && w.isNone }
  | .returnItems b => o.project b
  | .create ps => o.adds (ps.flatMap PathPattern.names) true
  | .merge p _ _ => o.adds p.names true
  | .call k => o.adds (Query.calledNames k) false
  | _ => o

mutual

def clause (o : Outline) : Clause Expr → Outline
  | .subquery ⟨first, unions⟩ => o.join (branches o.seed (clauses o.seed first) unions)
  | .unwind x n => o.adds [n] x.hasItems
  | k => o.step (Expr.foldClause Meaning.ofLayer k)

def clauses (o : Outline) : List (Clause Expr) → Outline
  | [] => o
  | k :: ks => clauses { clause o k with returns := k.makesResult } ks

def branches (seed o : Outline) : List (Branch (Clause Expr)) → Outline
  | [] => o
  | ⟨_, ks⟩ :: bs => branches seed (o.union (clauses seed ks)) bs

end

/-- What is known of the output of a query. -/
def ofQuery (q : Query Expr) : Outline := branches unit (clauses unit q.first) q.unions

/-! ### Tables -/

/-- A table is as the outline says. -/
structure Fits (o : Outline) (t : Table) : Prop where
  columns : ∀ cs ∈ o.columns, t.columns = cs
  rows : ∀ cs ∈ o.columns, ∀ row ∈ t.rows, row.Binds cs
  fed : o.fed → t.rows ≠ []

/-- An output is as the outline says, where nothing is said of its rows but that there are some. -/
structure Describes (o : Outline) (out : Output) : Prop where
  columns : ∀ cs ∈ o.columns, out.table.columns = cs
  fed : o.fed → out.table.rows ≠ []
  returns : out.returns = o.returns

variable {o inner : Outline} {t t' : Table} {c : Context} {env : Env}

lemma fits_unit : unit.Fits .unit where
  columns _ h := Option.some.inj h
  rows cs h row hrow := by
    obtain rfl := Option.some.inj h
    obtain rfl := List.mem_singleton.1 hrow
    exact ⟨Dict.ascending_nil, fun n => by simp [Dict.contains]⟩
  fed _ := List.cons_ne_nil _ _

lemma adds_nil (o : Outline) : o.adds [] true = o := by
  obtain ⟨columns, fed, returns⟩ := o
  simp [adds, Table.addColumns]

lemma Fits.adds (h : o.Fits t) {names : List String} (ht : t.Adds t' names) {fed : Bool}
    (hfed : fed → t.rows ≠ [] → t'.rows ≠ []) : (o.adds names fed).Fits t' where
  columns cs hcs := by
    obtain ⟨ds, hds, rfl⟩ := Option.map_eq_some_iff.1 hcs
    rw [ht.columns, h.columns ds hds]
  rows cs hcs row' hrow := by
    obtain ⟨ds, hds, rfl⟩ := Option.map_eq_some_iff.1 hcs
    obtain ⟨row, hmem, hext⟩ := ht.rows row' hrow
    exact hext.binds (h.rows ds hds row hmem)
  fed hf := by
    obtain ⟨hof, hf⟩ := Bool.and_eq_true_iff.1 hf
    exact hfed hf (h.fed hof)

/-! ### Clauses that read -/

lemma matchRow_ne_nil {ps : List (PathPattern Meaning)} {filter : Option Meaning} {row : Row}
    {rows : List Row} (h : Query.matchRow env true ps filter row = .ok rows) : rows ≠ [] := by
  obtain ⟨found, -, h⟩ := bind_eq_ok.1 h
  obtain ⟨kept, -, h⟩ := bind_eq_ok.1 h
  rw [Bool.and_true] at h
  split_ifs at h with hempty
  · cases h
    exact List.cons_ne_nil _ _
  · cases h
    rwa [List.isEmpty_iff] at hempty

/-- Rows that are made for each row of a table are there if the first row has one. -/
lemma flatten_ne_nil {f : Row → Except Error (List Row)} {rows : List Row}
    {rowss : List (List Row)} (h : rows.mapM f = .ok rowss) (hrows : rows ≠ [])
    (hf : ∀ row made, f row = .ok made → made ≠ []) : rowss.flatten ≠ [] := by
  obtain ⟨row, rest, rfl⟩ := List.exists_cons_of_ne_nil hrows
  obtain ⟨made, last, hmade, -, rfl⟩ := List.forall₂_cons_left_iff.1 (forall₂_mapM h)
  exact List.append_ne_nil_of_left_ne_nil (hf row made hmade) _

lemma Fits.matching (h : o.Fits t) {optional : Bool} {ps : List (PathPattern Meaning)}
    {filter : Option Meaning} (ht : Query.matching env optional ps filter t = .ok t') :
    (o.adds (ps.flatMap PathPattern.names) optional).Fits t' := by
  refine h.adds (Query.matching_adds ht) ?_
  rintro rfl hrows
  obtain ⟨rows, hfound, ht⟩ := bind_eq_ok.1 ht
  cases ht
  exact flatten_ne_nil hfound hrows fun _ _ => matchRow_ne_nil

lemma Fits.unwind (h : o.Fits t) {source : Meaning} {name : String} {fed : Bool}
    (hfed : fed → ∀ row v, source.value env row = .ok v → Query.items v ≠ [])
    (ht : Query.unwind env source name t = .ok t') : (o.adds [name] fed).Fits t' := by
  refine h.adds (Query.unwind_adds ht) fun hf hrows => ?_
  obtain ⟨rows, hmade, ht⟩ := bind_eq_ok.1 ht
  cases ht
  refine flatten_ne_nil hmade hrows fun row made h => ?_
  obtain ⟨v, hv, h⟩ := bind_eq_ok.1 h
  cases h
  simpa using hfed hf row v hv

lemma items_ne_nil {x : Expr} (hx : x.hasItems) {row : Row} {v : Value}
    (h : x.meaning.value env row = .ok v) : Query.items v ≠ [] := by
  obtain ⟨l⟩ := x
  cases l with
  | literal w =>
    cases h
    simpa [Expr.hasItems] using hx
  | list xs =>
    obtain ⟨vs, hvs, h⟩ := bind_eq_ok.1 h
    cases h
    cases xs with
    | nil => cases hx
    | cons y ys =>
      obtain ⟨w, ws, -, -, rfl⟩ := List.forall₂_cons_left_iff.1 (forall₂_mapM hvs)
      exact List.cons_ne_nil _ _
  | _ => cases hx

/-! ### Projections -/

lemma mapM_ne_nil {α β : Type} {f : α → Except Error β} {xs : List α} {ys : List β}
    (h : xs.mapM f = .ok ys) (hxs : xs ≠ []) : ys ≠ [] := by
  rintro rfl
  exact hxs (List.forall₂_nil_right_iff.1 (forall₂_mapM h))

lemma addTo_ne_nil (key : List Value) (row : Row) (gs : List Group) :
    Group.addTo key row gs ≠ [] := by
  cases gs with
  | nil => exact List.cons_ne_nil _ _
  | cons g gs =>
    rw [Group.addTo]
    split_ifs <;> exact List.cons_ne_nil _ _

lemma ofRows_ne_nil {keys : List (Row → Except Error Value)} {rows : List Row} {gs : List Group}
    (h : Group.ofRows keys rows = .ok gs) (hrows : rows ≠ [] ∨ keys = []) : gs ≠ [] := by
  have hfold {add : List Group → Row → Except Error (List Group)}
      (hadd : ∀ gs row gs', add gs row = .ok gs' → gs' ≠ []) {rows : List Row} {gs gs' : List Group}
      (h : rows.foldlM add gs = .ok gs') (hne : rows ≠ [] ∨ gs ≠ []) : gs' ≠ [] := by
    induction rows generalizing gs with
    | nil =>
      cases h
      exact hne.resolve_left (· rfl)
    | cons row rows ih =>
      obtain ⟨gs₁, h₁, h⟩ := bind_eq_ok.1 h
      exact ih h (.inr (hadd gs row gs₁ h₁))
  rw [Group.ofRows] at h
  split_ifs at h with hkeys
  · cases h
    exact List.cons_ne_nil _ _
  · obtain ⟨gs', hgs, h⟩ := bind_eq_ok.1 h
    cases h
    rw [List.isEmpty_iff] at hkeys
    have hne : gs' ≠ [] := by
      refine hfold (fun gs row gs' h => ?_) hgs (.inl (hrows.resolve_right hkeys))
      obtain ⟨values, -, h⟩ := bind_eq_ok.1 h
      cases h
      exact addTo_ne_nil _ _ _
    exact fun h => hne (List.map_eq_nil_iff.1 h)

lemma projectRows_ne_nil {columns : List (String × Meaning)} {rows : List Row}
    {ps : List Table.Projected} (h : Table.projectRows env columns rows = .ok ps)
    (hrows : rows ≠ [] ∨ columns ≠ [] ∧ ∀ c ∈ columns, c.2.aggregates) : ps ≠ [] := by
  rw [Table.projectRows] at h
  split_ifs at h with hany
  · obtain ⟨groups, hgroups, h⟩ := bind_eq_ok.1 h
    refine mapM_ne_nil h (ofRows_ne_nil hgroups (hrows.imp_right fun hall => ?_))
    rw [List.map_eq_nil_iff, List.filter_eq_nil_iff]
    exact fun k hk => by simp [hall.2 k hk]
  · refine mapM_ne_nil h (hrows.resolve_right ?_)
    rintro ⟨hne, hall⟩
    obtain ⟨k, hk⟩ := List.exists_mem_of_ne_nil _ hne
    exact hany (List.any_eq_true.2 ⟨k, hk, hall k hk⟩)

/-- Items without paths are evaluated in the rows as they are. -/
lemma itemColumns_of_paths {is : List (ProjectionItem Meaning)}
    (his : ∀ i ∈ is, i.expr.paths = none) {i : Nat} {rows rows' : List Row}
    {columns : List (String × Meaning)}
    (h : Table.itemColumns env i is rows = .ok (columns, rows')) :
    rows' = rows ∧ columns.map Prod.snd = is.map ProjectionItem.expr := by
  induction is generalizing i columns with
  | nil =>
    cases h
    exact ⟨rfl, rfl⟩
  | cons item is ih =>
    rw [List.forall_mem_cons] at his
    obtain ⟨m, joined, rest, rfl, hrest, ⟨-, rfl, rfl⟩ | ⟨paths, hpaths, -⟩⟩ :=
      Query.itemColumns_cons h
    · obtain ⟨hrows, hrest⟩ := ih his.2 hrest
      exact ⟨hrows, by rw [List.map_cons, List.map_cons, hrest]⟩
    · rw [his.1] at hpaths
      cases hpaths

lemma project_ne_nil {b : Projection Meaning} (h : Table.project env b t = .ok t')
    (hb : leavesRow b) (ht : t.rows ≠ [] ∨ groupsAll b) : t'.rows ≠ [] := by
  obtain ⟨listed, rows, projected, sorted, skip, limit, hlisted, hprojected, hsorted, hskip, hlimit,
    rfl⟩ := Query.project_eq_ok h
  simp only [leavesRow, Bool.and_eq_true, List.all_eq_true, Option.isNone_iff_eq_none] at hb
  obtain ⟨⟨hpaths, hs⟩, hl⟩ := hb
  rw [hs] at hskip
  rw [hl] at hlimit
  cases hskip
  cases hlimit
  obtain ⟨rfl, hexprs⟩ := itemColumns_of_paths hpaths hlisted
  have hprojected : projected ≠ [] := by
    refine projectRows_ne_nil hprojected (ht.imp_right fun hb => ?_)
    simp only [groupsAll, Bool.and_eq_true, Bool.not_eq_true', List.all_eq_true] at hb
    obtain ⟨⟨hstar, hne⟩, hall⟩ := hb
    have hlistedne : listed.map Prod.snd ≠ [] := by
      rw [hexprs]
      simpa using hne
    have hagg : ∀ m ∈ listed.map Prod.snd, m.aggregates := by
      rw [hexprs]
      simpa using hall
    simp only [Query.evaluatedColumns, hstar, Bool.false_eq_true, if_false, List.map_nil,
      List.nil_append]
    exact ⟨fun h => hlistedne (congrArg (List.map Prod.snd) h), fun k hk =>
      hagg k.2 (List.mem_map_of_mem hk)⟩
  have hdistinct : (if b.distinct then Value.distinctBy (fun p =>
      Table.rowKey (Query.projectedColumns b t.columns) p.out) projected else projected) ≠ [] := by
    split_ifs
    · exact Value.distinctBy_ne_nil _ hprojected
    · exact hprojected
  obtain ⟨p, hp⟩ := List.exists_mem_of_ne_nil _ hdistinct
  exact List.ne_nil_of_mem (List.mem_map_of_mem ((Query.mem_sortRows hsorted).2 hp))

lemma Fits.project (h : o.Fits t) {b : Projection Meaning} (ht : Table.project env b t = .ok t') :
    (o.project b).Fits t' := by
  obtain ⟨hcolumns, hrows⟩ := Query.project_binds ht
  have hknown : ∀ cs ∈ (o.project b).columns, t'.columns = cs := by
    intro cs hcs
    rw [hcolumns]
    rw [Outline.project] at hcs
    split_ifs at hcs with hstar
    · obtain ⟨ds, hds, rfl⟩ := Option.map_eq_some_iff.1 hcs
      rw [h.columns ds hds]
    · obtain rfl := Option.some.inj hcs
      simp [Query.projectedColumns, hstar]
  refine ⟨hknown, fun cs hcs row hrow => hknown cs hcs ▸ hrows row hrow, fun hf => ?_⟩
  obtain ⟨hfed, hb⟩ := Bool.and_eq_true_iff.1 hf
  exact project_ne_nil ht hb ((Bool.or_eq_true_iff.1 hfed).imp_left h.fed)

lemma Fits.filter (h : o.Fits t) {filter : Option Meaning} {rows : List Row}
    (hrows : Meaning.filterRows filter env t.rows = .ok rows) :
    ({ o with fed := o.fed && filter.isNone } : Outline).Fits { t with rows } where
  columns := h.columns
  rows cs hcs row hrow := h.rows cs hcs row (Query.mem_filterRows hrows hrow)
  fed hf := by
    obtain ⟨hfed, hnone⟩ := Bool.and_eq_true_iff.1 hf
    rw [Option.isNone_iff_eq_none] at hnone
    subst hnone
    cases hrows
    exact h.fed hfed

/-- **A step makes a table fit** the outline after it. -/
theorem Fits.readStep (h : o.Fits t) {k : Clause Meaning} (ht : Query.readStep env k t = .ok t') :
    (o.step k).Fits t' := by
  cases k with
  | matching optional ps w => exact h.matching ht
  | unwind x n => exact h.unwind nofun ht
  | withItems b w =>
    obtain ⟨projected, hprojected, ht⟩ := bind_eq_ok.1 ht
    obtain ⟨rows, hrows, ht⟩ := bind_eq_ok.1 ht
    cases ht
    exact (h.project hprojected).filter hrows
  | returnItems b => exact h.project ht
  | call k => exact h.adds (Query.call_adds ht) nofun
  | _ => cases ht

lemma Fits.runStep (h : o.Fits t) (k : Clause Meaning) :
    Edit.Gives (do
      if k.isWrite then
        let rows ← Query.writeClause c t.rows k
        return { t with rows }.declare (Query.writtenNames k)
      else Edit.reading c fun env => Query.readStep env k t) (o.step k).Fits := by
  split_ifs with hk
  · refine .bind (Query.writeClause_extended k t.rows) fun rows hrows => .pure ?_
    have hadds : t.Adds ({ t with rows }.declare (Query.writtenNames k)) (Query.writtenNames k) :=
      ⟨rfl, hrows.2⟩
    have hfits : (o.adds (Query.writtenNames k) true).Fits _ := h.adds hadds fun _ => hrows.1
    cases k with
    | create | merge => exact hfits
    | set | remove | delete | foreach | subquery => exact o.adds_nil ▸ hfits
    | _ => cases hk
  · exact .reading fun s t' _ ht => h.readStep ht

/-! ### Subqueries -/

lemma addColumns_of_subset {columns names : List String} (h : names ⊆ columns) :
    Table.addColumns columns names = columns := by
  induction names with
  | nil => rfl
  | cons n names ih =>
    rw [List.cons_subset] at h
    rw [Table.addColumns, List.foldl_cons, if_pos h.1]
    exact ih h.2

lemma fits_ofRow {row : Row} (hrow : ∀ cs ∈ o.columns, row.Binds cs) :
    o.seed.Fits (.ofRow row) := by
  have hkeys : ∀ ks ∈ o.seed.columns, Dict.keys row = ks ∧ row.Binds ks := by
    intro ks hks
    obtain ⟨cs, hcs, rfl⟩ := Option.map_eq_some_iff.1 hks
    have hnulls : Row.Binds (Query.bindNulls cs []) cs :=
      ⟨(Query.bindNulls_extended cs []).ascending Dict.ascending_nil, fun n => by
        rw [(Query.bindNulls_extended cs []).contains]
        simp [Dict.contains]⟩
    have heq := (hrow cs hcs).keys_eq hnulls
    exact ⟨heq, heq ▸ (hrow cs hcs).keys⟩
  refine ⟨fun ks hks => (hkeys ks hks).1, fun ks hks row' hmem => ?_, fun _ => List.cons_ne_nil _ _⟩
  obtain rfl := List.mem_singleton.1 hmem
  exact (hkeys ks hks).2

section

variable {joined : List (Row × Output)} {columns names : List String}

lemma foldl_joinColumns_of_subset (h : ∀ e ∈ joined, e.2.returns → e.2.table.columns ⊆ columns) :
    joined.foldl (fun cs e => Output.joinColumns cs e.2) columns = columns := by
  induction joined with
  | nil => rfl
  | cons e joined ih =>
    rw [List.forall_mem_cons] at h
    have hstep : Output.joinColumns columns e.2 = columns := by
      rw [Output.joinColumns]
      split_ifs with hreturns
      · exact addColumns_of_subset (h.1 hreturns)
      · rfl
    rw [List.foldl_cons, hstep]
    exact ih h.2

/-- One output tells the columns of all. -/
lemma foldl_joinColumns (h : ∀ e ∈ joined, e.2.returns ∧ e.2.table.columns = names)
    (hne : joined ≠ [] ∨ names ⊆ columns) :
    joined.foldl (fun cs e => Output.joinColumns cs e.2) columns =
      Table.addColumns columns names := by
  cases joined with
  | nil => exact (addColumns_of_subset (hne.resolve_left (· rfl))).symm
  | cons e joined =>
    rw [List.forall_mem_cons] at h
    have hstep : Output.joinColumns columns e.2 = Table.addColumns columns names := by
      rw [Output.joinColumns, if_pos h.1.1, h.1.2]
    rw [List.foldl_cons, hstep]
    refine foldl_joinColumns_of_subset fun e he _ => ?_
    rw [(h.2 e he).2]
    exact fun n hn => Table.mem_addColumns.2 (.inr hn)

lemma map_fst_of_joined {C : Row × Output → Prop} {rows : List Row}
    (h : List.Forall₂ (fun row e => e.1 = row ∧ C e) rows joined) : joined.map Prod.fst = rows :=
  List.forall₂_eq_eq_eq ▸ List.forall₂_map_left_iff.2 (h.flip.imp fun _ _ he => he.1)

lemma flatMap_joinRows_of_not_returns (h : ∀ e ∈ joined, e.2.returns = false) :
    (joined.flatMap fun e => Output.joinRows e.1 e.2) = joined.map Prod.fst := by
  induction joined with
  | nil => rfl
  | cons e joined ih =>
    rw [List.forall_mem_cons] at h
    rw [List.flatMap_cons, ih h.2, Output.joinRows, h.1]
    rfl

end

lemma joinColumns_eq_some {cs : List String} (h : o.joinColumns inner = some cs) :
    ∃ ds ks, o.columns = some ds ∧ inner.columns = some ks ∧ (o.fed ∨ ks ⊆ ds) ∧
      cs = Table.addColumns ds ks := by
  obtain ⟨ds, hds, h⟩ := Option.bind_eq_some_iff.1 h
  obtain ⟨ks, hks, h⟩ := Option.bind_eq_some_iff.1 h
  split_ifs at h with hne
  refine ⟨ds, ks, hds, hks, ?_, (Option.some.inj h).symm⟩
  rw [Bool.or_eq_true, List.all_eq_true] at hne
  exact hne.imp_right fun h k hk => of_decide_eq_true (h k hk)

/-- **A table joined with outputs** of one outline fits what is known after the subquery. -/
theorem Fits.join (h : o.Fits t) {joined : List (Row × Output)}
    (hjoined : List.Forall₂ (fun row e => e.1 = row ∧ inner.Describes e.2) t.rows joined) :
    (o.join inner).Fits ⟨joined.foldl (fun cs e => Output.joinColumns cs e.2) t.columns,
      joined.flatMap fun e => Output.joinRows e.1 e.2⟩ := by
  have hinner : ∀ e ∈ joined, inner.Describes e.2 := fun e he =>
    let ⟨_, _, h⟩ := exists_of_forall₂ hjoined he
    h.2
  have hfst : joined.map Prod.fst = t.rows := map_fst_of_joined hjoined
  rw [Outline.join]
  split_ifs with hreturns
  · have hall : ∀ e ∈ joined, e.2.returns = true := fun e he => (hinner e he).returns.trans hreturns
    refine ⟨fun cs hcs => ?_, fun cs hcs row hrow => ?_, fun hf => ?_⟩
    · obtain ⟨ds, ks, hds, hks, hne, rfl⟩ := joinColumns_eq_some hcs
      dsimp only
      rw [h.columns ds hds]
      refine foldl_joinColumns (fun e he => ⟨hall e he, (hinner e he).columns ks hks⟩)
        (hne.imp_left fun hf => ?_)
      rintro rfl
      exact h.fed hf hfst.symm
    · obtain ⟨ds, ks, hds, hks, -, rfl⟩ := joinColumns_eq_some hcs
      obtain ⟨e, he, hrow⟩ := List.mem_flatMap.1 hrow
      rw [Output.joinRows, if_pos (hall e he), (hinner e he).columns ks hks] at hrow
      obtain ⟨inner, -, rfl⟩ := List.mem_map.1 hrow
      refine (e.1.joinRow_extended ks inner).binds (h.rows ds hds e.1 ?_)
      rw [← hfst]
      exact List.mem_map_of_mem he
    · obtain ⟨hfed, hinnerfed⟩ := Bool.and_eq_true_iff.1 hf
      obtain ⟨e, he⟩ := List.exists_mem_of_ne_nil joined (by rintro rfl; exact h.fed hfed hfst.symm)
      obtain ⟨row, hrow⟩ := List.exists_mem_of_ne_nil _ ((hinner e he).fed hinnerfed)
      have hmem : Output.joinRow e.2.table.columns e.1 row ∈ Output.joinRows e.1 e.2 := by
        rw [Output.joinRows, if_pos (hall e he)]
        exact List.mem_map_of_mem hrow
      exact List.ne_nil_of_mem (List.mem_flatMap.2 ⟨e, he, hmem⟩)
  · have hnone : ∀ e ∈ joined, e.2.returns = false := fun e he =>
      (hinner e he).returns.trans (Bool.eq_false_of_not_eq_true hreturns)
    rw [flatMap_joinRows_of_not_returns hnone, hfst,
      foldl_joinColumns_of_subset fun e he hr => absurd hr (by simp [hnone e he])]
    exact h

lemma Describes.union {a b : Outline} {u v : Output} (ha : a.Describes u) (hb : b.Describes v)
    (all : Bool) : (a.union b).Describes (u.union all v) := by
  refine ⟨fun cs hcs => ?_, fun hf => ?_, ?_⟩
  · obtain ⟨as, has, hcs⟩ := Option.bind_eq_some_iff.1 hcs
    obtain ⟨bs, hbs, hcs⟩ := Option.bind_eq_some_iff.1 hcs
    obtain rfl := Option.some.inj hcs
    rw [← ha.columns as has, ← hb.columns bs hbs, Output.columns_union]
  · have hrows : u.table.rows ++ v.table.rows ≠ [] := by
      rintro h
      obtain ⟨hu, hv⟩ := List.append_eq_nil_iff.1 h
      exact (Bool.or_eq_true_iff.1 hf).elim (fun hf => ha.fed hf hu) fun hf => hb.fed hf hv
    rw [Output.rows_union]
    split_ifs
    · exact hrows
    · exact Value.distinctBy_ne_nil _ hrows
  · rw [Output.union, ha.returns, hb.returns]
    rfl

/-! ### Queries -/

lemma Fits.describes {out : Output} (h : o.Fits out.table) (hr : out.returns = o.returns) :
    o.Describes out := ⟨h.columns, h.fed, hr⟩

lemma makesResult_foldClause (k : Clause Expr) :
    (Expr.foldClause Meaning.ofLayer k).makesResult = k.makesResult := by
  cases k <;> rfl

variable (c)

mutual

/-- **A clause makes a table fit** the outline after it. -/
theorem Fits.runClause {o : Outline} {t : Table} (h : o.Fits t) (k : Clause Expr) :
    Edit.Gives (Query.runClause c t (Expr.foldClause Meaning.ofLayer k)) (o.clause k).Fits := by
  match k with
  | .subquery ⟨first, unions⟩ =>
    rw [Expr.foldClause, Expr.foldQuery, Query.runClause, Outline.clause]
    refine .bind (.mapM_forall₂ fun row hrow => ?_) fun joined hjoined => .pure (h.join hjoined)
    have hseed := fits_ofRow fun cs hcs => h.rows cs hcs row hrow
    refine .bind (.bind (Fits.runClauses hseed rfl first) fun out hout =>
      Describes.runBranches hseed rfl (hout.1.describes hout.2) unions) fun out hout => .pure ?_
    exact ⟨rfl, hout⟩
  | .unwind x n =>
    change Edit.Gives (Edit.reading c fun env => Query.unwind env x.meaning n t) _
    exact .reading fun s t' _ ht => h.unwind (fun hx _ _ => items_ne_nil hx) ht
  | .matching .. | .withItems .. | .returnItems .. | .create .. | .merge .. | .set ..
  | .remove .. | .delete .. | .foreach .. | .call .. =>
    rw [Expr.foldClause, Query.runClause]
    · exact h.runStep _
    · rintro _ _ ⟨⟩

theorem Fits.runClauses {o : Outline} {out : Output} (h : o.Fits out.table)
    (hr : out.returns = o.returns) (ks : List (Clause Expr)) :
    Edit.Gives (Query.runClauses c out (Expr.foldClauses Meaning.ofLayer ks)) fun out' =>
      (o.clauses ks).Fits out'.table ∧ out'.returns = (o.clauses ks).returns := by
  match ks with
  | [] => exact .pure ⟨h, hr⟩
  | k :: ks =>
    rw [Expr.foldClauses, Query.runClauses, Outline.clauses]
    refine .bind (h.runClause k) fun t' ht => ?_
    exact Fits.runClauses ⟨ht.columns, ht.rows, ht.fed⟩ (makesResult_foldClause k) ks

theorem Describes.runBranches {seed o : Outline} {t : Table} (hseed : seed.Fits t)
    (hr : seed.returns = false) {out : Output} (h : o.Describes out)
    (bs : List (Branch (Clause Expr))) :
    Edit.Gives (Query.runBranches c t out (Expr.foldBranchQueries Meaning.ofLayer bs))
      (seed.branches o bs).Describes := by
  match bs with
  | [] => exact .pure h
  | ⟨all, ks⟩ :: bs =>
    rw [Expr.foldBranchQueries, Query.runBranches, Outline.branches]
    refine .bind (Fits.runClauses hseed hr.symm ks) fun out' hout => ?_
    exact Describes.runBranches hseed hr (h.union (hout.1.describes hout.2) all) bs

end

/-- **An output is as the outline of its query says**, whatever the graph and the parameters. -/
theorem describes_run (q : Query Expr) :
    Edit.Gives (Query.run c .unit (queryMeaning q)) (ofQuery q).Describes := by
  obtain ⟨first, unions⟩ := q
  refine .bind (Fits.runClauses c fits_unit rfl first) fun out hout => ?_
  exact Describes.runBranches c fits_unit rfl (hout.1.describes hout.2) unions

end Outline

/-! ### Replies -/

namespace Reply

/-- The form of the rows of a reply; a message has none. -/
def shape? : Reply → Option Shape
  | rows shape _ _ _ => some shape
  | message _ _ | help _ => none

def columns : Reply → List String
  | rows _ columns _ _ => columns
  | message _ _ | help _ => []

lemma columns_of_shape? {r : Reply} (h : r.shape? = none) : r.columns = [] := by
  cases r with
  | rows => cases h
  | message | help => rfl

end Reply

namespace Query

/-- What the reply to a query is like, by its outline. -/
lemma reply_gives (c : Context) (q : Query Expr) :
    Edit.Gives (reply c (queryMeaning q)) fun r =>
      r.shape? = (if (Outline.ofQuery q).returns then some (shape (queryMeaning q)) else none) ∧
        ((Outline.ofQuery q).returns → ∀ cs ∈ (Outline.ofQuery q).columns, r.columns = cs) := by
  refine .bind (Outline.describes_run c q) fun o ho => .after fun d => ?_
  rw [← ho.returns]
  split_ifs with hreturns
  · exact .pure ⟨rfl, fun _ => ho.columns⟩
  · exact .pure ⟨rfl, fun h => absurd h hreturns⟩

/-- **The reply to a query has one kind**, whatever the graph and the parameters, and the same
columns in the same order, if they can be told from the query. -/
theorem reply_shape (q : Query Expr) {c c' : Context} {d d' : Draft} {r r' : Reply}
    (h : (ExceptT.run (reply c (queryMeaning q)) d).1 = .ok r)
    (h' : (ExceptT.run (reply c' (queryMeaning q)) d').1 = .ok r') :
    r.shape? = r'.shape? ∧ ((Outline.ofQuery q).columns.isSome → r.columns = r'.columns) := by
  obtain ⟨hshape, hcolumns⟩ := (reply_gives c q d trivial).2 r h
  obtain ⟨hshape', hcolumns'⟩ := (reply_gives c' q d' trivial).2 r' h'
  refine ⟨hshape.trans hshape'.symm, fun hknown => ?_⟩
  obtain ⟨cs, hcs⟩ := Option.isSome_iff_exists.1 hknown
  by_cases hreturns : (Outline.ofQuery q).returns
  · rw [hcolumns hreturns cs hcs, hcolumns' hreturns cs hcs]
  · rw [if_neg hreturns] at hshape hshape'
    rw [Reply.columns_of_shape? hshape, Reply.columns_of_shape? hshape']

/-- What a query replies to some calls of the operations, with no parameters. -/
def replyAfter (calls : List Store.Call) (q : Query Expr) : Except Error Reply :=
  (ExceptT.run (reply ⟨[], 8, .zero⟩ (queryMeaning q)) ⟨Store.run calls {}, {}⟩).1

/-- A subquery with a union that runs for each item of a list, and a procedure after it, in a graph
without nodes and in one with a node. -/
theorem reply_shape_union :
    ∃ q r r', Cypher.parse ("UNWIND [1, 2] AS i CALL \x7b WITH i MATCH (n) RETURN i AS j " ++
        "UNION RETURN 0 AS j \x7d CALL db.labels()") = .ok [.query q] ∧
      replyAfter [] q = .ok r ∧ replyAfter [.createNode ["A"] []] q = .ok r' ∧
      r.shape? = r'.shape? ∧ r.columns = r'.columns := by
  have h : (soleQuery? ("UNWIND [1, 2] AS i CALL \x7b WITH i MATCH (n) RETURN i AS j " ++
      "UNION RETURN 0 AS j \x7d CALL db.labels()")).any (fun q =>
      (replyAfter [] q).toOption.isSome && (replyAfter [.createNode ["A"] []] q).toOption.isSome &&
        (Outline.ofQuery q).columns.isSome) = true := by decide +kernel
  obtain ⟨q, hq, h⟩ := (Option.any_eq_true _ _).1 h
  simp only [Bool.and_eq_true, Option.isSome_iff_exists (x := Except.toOption _)] at h
  obtain ⟨⟨⟨r, hr⟩, r', hr'⟩, h⟩ := h
  obtain ⟨hshape, hcolumns⟩ := reply_shape q (toOption_eq_some.1 hr) (toOption_eq_some.1 hr')
  exact ⟨q, r, r', parse_of_soleQuery? hq, toOption_eq_some.1 hr, toOption_eq_some.1 hr', hshape,
    hcolumns h⟩

/-- The columns of a subquery are missing if there is no row for it to run on. -/
theorem not_reply_shape_of_no_rows :
    ¬ ∀ (q : Query Expr) (calls calls' : List Store.Call) (r r' : Reply),
      Statement.check (.query q) = .ok () → replyAfter calls q = .ok r →
        replyAfter calls' q = .ok r' → r.shape? = r'.shape? ∧ r.columns = r'.columns := by
  intro hall
  have h : (soleQuery? "MATCH () CALL \x7b RETURN 1 AS x \x7d RETURN *").any (fun q =>
      (Statement.check (.query q)).toOption == some () &&
        (replyAfter [] q).toOption.any (·.columns == []) &&
        (replyAfter [.createNode ["A"] []] q).toOption.any (·.columns == ["x"])) = true := by
    decide +kernel
  obtain ⟨q, -, h⟩ := (Option.any_eq_true _ _).1 h
  simp only [Bool.and_eq_true, Option.any_eq_true, beq_iff_eq] at h
  obtain ⟨⟨hcheck, r, hr, hcolumns⟩, r', hr', hcolumns'⟩ := h
  have hsame := (hall q [] _ r r' (toOption_eq_some.1 hcheck) (toOption_eq_some.1 hr)
    (toOption_eq_some.1 hr')).2
  rw [hcolumns, hcolumns'] at hsame
  cases hsame

end Query

end PropertyGraph
