import PropertyGraph.Proofs.Matching.Extension
import PropertyGraph.Proofs.Query.Keeps
import PropertyGraph.Query.Write

/-!
The names that rows bind after a step of a query.

Whatever a step does, its rows come from the rows before it with the same names added to each, or
they bind the columns of a projection and nothing else.
-/

namespace PropertyGraph

open Cypher

lemma Table.mem_addColumns {columns names : List String} {n : String} :
    n ∈ addColumns columns names ↔ n ∈ columns ∨ n ∈ names := by
  induction names generalizing columns with
  | nil => simp [addColumns]
  | cons k names ih =>
    have hstep : n ∈ (if k ∈ columns then columns else columns ++ [k]) ↔ n ∈ columns ∨ n = k := by
      split_ifs with hk
      · exact ⟨.inl, by rintro (h | rfl); exacts [h, hk]⟩
      · simp
    rw [addColumns, List.foldl_cons, ← addColumns, ih, hstep, List.mem_cons, or_assoc]

namespace Value

variable {α β : Type} [DecidableEq β] (f : α → β)

private lemma foldl_distinct (xs : List α) (acc : List α × List β) :
    ∃ kept : List α, kept.Sublist xs ∧ (xs.foldl (fun (acc : List α × List β) x =>
      if f x ∈ acc.2 then acc else (x :: acc.1, f x :: acc.2)) acc).1 = kept.reverse ++ acc.1 := by
  induction xs generalizing acc with
  | nil => exact ⟨[], .slnil, rfl⟩
  | cons x xs ih =>
    rw [List.foldl_cons]
    split_ifs with hx
    · obtain ⟨kept, hkept, h⟩ := ih acc
      exact ⟨kept, hkept.cons x, h⟩
    · obtain ⟨kept, hkept, h⟩ := ih (x :: acc.1, f x :: acc.2)
      exact ⟨x :: kept, hkept.cons_cons x, by simp [h]⟩

lemma distinctBy_sublist (xs : List α) : (distinctBy f xs).Sublist xs := by
  obtain ⟨kept, hkept, h⟩ := foldl_distinct f xs ([], [])
  rw [distinctBy, h]
  simpa using hkept

lemma distinctBy_ne_nil {xs : List α} (h : xs ≠ []) : distinctBy f xs ≠ [] := by
  obtain ⟨x, xs, rfl⟩ := List.exists_cons_of_ne_nil h
  obtain ⟨kept, -, h⟩ := foldl_distinct f xs ([x], [f x])
  rw [distinctBy, List.foldl_cons, if_neg List.not_mem_nil, h]
  simp

end Value

namespace Edit

variable {α β : Type}

/-- An edit gives, if anything, what meets a condition. -/
abbrev Gives (e : Edit α) (Q : α → Prop) : Prop := e.Keeps (fun _ => True) Q

/-- What comes first does not matter. -/
lemma Keeps.after {e : Edit α} {f : α → Edit β} {Q : β → Prop} (h : ∀ a, Gives (f a) Q) :
    Gives (e >>= f) Q :=
  .bind (Q := fun _ => True) (fun _ _ => ⟨trivial, fun _ _ => trivial⟩) fun a _ => h a

end Edit

/-! ### Rows -/

namespace Row

variable {row row' : Row} {names rebound columns : List String}

lemma mem_keys {n : String} : n ∈ Dict.keys row ↔ Dict.contains row n := by
  induction row with
  | nil => simp [Dict.keys, Dict.contains]
  | cons e row ih =>
    rw [Dict.keys] at ih
    rw [Dict.keys, List.map_cons, List.mem_cons, ih, Dict.contains, Dict.contains, Dict.get?_cons]
    split_ifs with he
    · simp [he]
    · simp [Ne.symm he]

/-- A row binds some names and no others. -/
structure Binds (row : Row) (names : List String) : Prop where
  ascending : Dict.Ascending row
  contains : ∀ n, Dict.contains row n ↔ n ∈ names

lemma Extended.binds (h : row.Extended row' names rebound) (hrow : row.Binds columns) :
    row'.Binds (Table.addColumns columns names) where
  ascending := h.ascending hrow.ascending
  contains n := by rw [h.contains, hrow.contains, Table.mem_addColumns]

lemma bind_extended (row : Row) (name : Option String) (v : Value) :
    row.Extended (row.bind name v) name.toList name.toList :=
  .bind (a := none) (u := .null) nofun fun n hn hname => absurd (by simp [hname]) hn

lemma insert_extended (row : Row) (n : String) (v : Value) :
    row.Extended (Dict.insert row n v) [n] [n] :=
  bind_extended row (some n) v

lemma extended_of_bound {name : Option String} {v : Value} (h : row.bound? name = some v) :
    row.Extended row name.toList name.toList where
  ascending := id
  contains n := by
    refine ⟨.inl, ?_⟩
    rintro (hn | hn)
    · exact hn
    · obtain rfl := Option.mem_toList.1 hn
      exact Option.isSome_iff_exists.2 ⟨v, h⟩
  keeps _ _ _ hv := hv

lemma Binds.keys (h : row.Binds names) : row.Binds (Dict.keys row) :=
  ⟨h.ascending, fun _ => mem_keys.symm⟩

/-- Rows that bind the same names have the same keys. -/
lemma Binds.keys_eq (h : row.Binds names) (h' : row'.Binds names) :
    Dict.keys row = Dict.keys row' :=
  eq_of_mem_iff (r := (· < ·)) (List.pairwise_map.2 h.ascending) (List.pairwise_map.2 h'.ascending)
    fun n => by rw [mem_keys, mem_keys, h.contains, h'.contains]

/-- Entries that are stored in a row bind their names. -/
lemma merge_extended (row : Row) (es : List (String × Value)) :
    row.Extended (Dict.merge row es) (es.map Prod.fst) (es.map Prod.fst) := by
  induction es generalizing row with
  | nil => exact .refl row
  | cons e es ih => exact (insert_extended row e.1 e.2).trans (ih _)

lemma binds_ofList (es : List (String × Value)) : Row.Binds (Dict.ofList es) (es.map Prod.fst) where
  ascending := Dict.ascending_ofList es
  contains n := by
    rw [Dict.ofList, (merge_extended [] es).contains]
    simp [Dict.contains]

lemma joinRow_extended (columns : List String) (row inner : Row) :
    row.Extended (Output.joinRow columns row inner) columns columns := by
  have h := merge_extended row (columns.map fun c => (c, Dict.getD inner c .null))
  simpa [Output.joinRow, Function.comp_def] using h

/-- A row joined with an output binds the columns of the output, if that is a result. -/
lemma joinRows_extended {o : Output} (h : row' ∈ Output.joinRows row o) :
    row.Extended row' (if o.returns then o.table.columns else [])
      (if o.returns then o.table.columns else []) := by
  rw [Output.joinRows] at h
  split_ifs at h ⊢
  · obtain ⟨inner, -, rfl⟩ := List.mem_map.1 h
    exact row.joinRow_extended _ inner
  · obtain rfl := List.mem_singleton.1 h
    exact .refl row'

end Row

/-- The rows of a table come from those of another one, with some names added to each. -/
structure Table.Adds (t t' : Table) (names : List String) : Prop where
  columns : t'.columns = addColumns t.columns names
  rows : ∀ row' ∈ t'.rows, ∃ row ∈ t.rows, row.Extended row' names names

/-! ### Unions -/

namespace Output

lemma columns_union (all : Bool) (a b : Output) :
    (a.union all b).table.columns = Table.addColumns a.table.columns b.table.columns := by
  cases all <;> rfl

lemma rows_union (all : Bool) (a b : Output) :
    (a.union all b).table.rows =
      if all then a.table.rows ++ b.table.rows
      else Value.distinctBy (Table.rowKey (a.union all b).table.columns)
        (a.table.rows ++ b.table.rows) := by
  cases all <;> rfl

lemma rows_union_subset (all : Bool) (a b : Output) :
    (a.union all b).table.rows ⊆ a.table.rows ++ b.table.rows := by
  rw [rows_union]
  split_ifs
  · exact List.Subset.refl _
  · exact (Value.distinctBy_sublist _ _).subset

end Output

namespace Query

variable {c : Context} {env : Env} {t t' : Table} {row row' : Row}

/-! ### Reading -/

lemma rebound_subset_names {ε : Type} (p : PathPattern ε) : p.rebound ⊆ p.names := by
  intro n hn
  rw [PathPattern.rebound, List.mem_append, List.mem_flatMap] at hn
  rw [PathPattern.names, List.append_assoc, List.mem_append, List.mem_append, List.mem_flatMap]
  obtain ⟨h, hh, hn⟩ | hn := hn
  · refine .inr (.inr ⟨h, hh, List.mem_append_left _ ?_⟩)
    split_ifs at hn
    · rw [RelPattern.rebound] at hn
      split_ifs at hn
      · cases hn
      · exact hn
    · exact hn
  · exact .inl hn

lemma matching_adds {optional : Bool} {ps : List (PathPattern Meaning)} {filter : Option Meaning}
    (h : matching env optional ps filter t = .ok t') :
    t.Adds t' (ps.flatMap PathPattern.names) := by
  obtain ⟨rows, hrows, h⟩ := bind_eq_ok.1 h
  cases h
  refine ⟨rfl, fun row' hrow => ?_⟩
  obtain ⟨found, hfound, hrow⟩ := List.mem_flatten.1 hrow
  obtain ⟨row, hmem, hmatch⟩ := mem_mapM hrows hfound
  refine ⟨row, hmem, (matchRow_extended hmatch hrow).mono (fun _ => Iff.rfl) fun n hn => ?_⟩
  obtain ⟨p, hp, hn⟩ := List.mem_flatMap.1 hn
  exact List.mem_flatMap.2 ⟨p, hp, rebound_subset_names p hn⟩

lemma unwind_adds {source : Meaning} {name : String} (h : unwind env source name t = .ok t') :
    t.Adds t' [name] := by
  obtain ⟨rows, hrows, h⟩ := bind_eq_ok.1 h
  cases h
  refine ⟨rfl, fun row' hrow => ?_⟩
  obtain ⟨made, hmade, hrow⟩ := List.mem_flatten.1 hrow
  obtain ⟨row, hmem, h⟩ := mem_mapM hrows hmade
  obtain ⟨v, -, h⟩ := bind_eq_ok.1 h
  cases h
  obtain ⟨w, -, rfl⟩ := List.mem_map.1 hrow
  exact ⟨row, hmem, row.insert_extended name w⟩

/-- The names that a call binds. -/
def calledNames (k : ProcedureCall Meaning) : List String :=
  match k.yields with
  | some items => items.map YieldItem.column
  | none => (Procedure.ofName? k.name).elim [] Procedure.columns

lemma outputs_names {p : Procedure} {k : ProcedureCall Meaning} {outs : List (String × Nat)}
    (hp : Procedure.ofName? k.name = some p) (h : outputs p k = .ok outs) :
    outs.map Prod.fst = calledNames k := by
  rw [outputs] at h
  rw [calledNames]
  cases hk : k.yields with
  | none =>
    rw [hk] at h
    cases h
    rw [hp]
    exact List.zipIdx_map_fst ..
  | some ys =>
    rw [hk] at h
    refine List.forall₂_eq_eq_eq ▸ List.forall₂_map_left_iff.2 (List.forall₂_map_right_iff.2 ?_)
    refine (forall₂_mapM h).flip.imp fun o y (ho : _ = Except.ok o) => ?_
    split at ho
    · cases ho
      rfl
    · cases ho

/-- The rows of a procedure bind the names of its outputs. -/
lemma called_extended {p : Procedure} {k : ProcedureCall Meaning} {outs : List (String × Nat)}
    (hp : Procedure.ofName? k.name = some p) (houts : outputs p k = .ok outs) (row : Row)
    (values : List Value) :
    row.Extended (outs.foldl (fun r o => Dict.insert r o.1 (values.getD o.2 .null)) row)
      (calledNames k) (calledNames k) := by
  rw [← outputs_names hp houts]
  have hmerge := row.merge_extended (outs.map fun o => (o.1, values.getD o.2 .null))
  simpa [Dict.merge, List.foldl_map, Function.comp_def] using hmerge

lemma call_adds {k : ProcedureCall Meaning} (h : call env k t = .ok t') :
    t.Adds t' (calledNames k) := by
  rw [call] at h
  split at h
  · cases h
  next p hp =>
    obtain ⟨outs, houts, h⟩ := bind_eq_ok.1 h
    obtain ⟨rows, hrows, h⟩ := bind_eq_ok.1 h
    obtain ⟨kept, hkept, h⟩ := bind_eq_ok.1 h
    cases h
    refine ⟨congrArg _ (outputs_names hp houts), fun row' hrow => ?_⟩
    obtain ⟨made, hmade, hrow⟩ := List.mem_flatten.1 (mem_filterRows hkept hrow)
    obtain ⟨row, hmem, h⟩ := mem_mapM hrows hmade
    obtain ⟨lines, -, h⟩ := bind_eq_ok.1 h
    cases h
    obtain ⟨values, -, rfl⟩ := List.mem_map.1 hrow
    exact ⟨row, hmem, called_extended hp houts row values⟩

/-! ### Projections -/

/-- What is done for one item of a projection. -/
lemma itemColumns_cons {item : ProjectionItem Meaning} {is : List (ProjectionItem Meaning)}
    {i : Nat} {rows rows' : List Row} {columns : List (String × Meaning)}
    (h : Table.itemColumns env i (item :: is) rows = .ok (columns, rows')) :
    ∃ m joined rest, columns = (item.column, m) :: rest ∧
      Table.itemColumns env (i + 1) is joined = .ok (rest, rows') ∧
      (item.expr.paths = none ∧ m = item.expr ∧ joined = rows ∨
        ∃ paths, item.expr.paths = some paths ∧ m = Meaning.ofName (Table.pathName i) ∧
          Table.joinPaths env (Table.pathName i) paths rows = .ok joined) := by
  rw [Table.itemColumns] at h
  cases hpaths : item.expr.paths with
  | none =>
    rw [hpaths] at h
    obtain ⟨p, hp, h⟩ := bind_eq_ok.1 h
    obtain ⟨q, hq, h⟩ := bind_eq_ok.1 h
    cases hp
    cases h
    exact ⟨_, rows, _, rfl, hq, .inl ⟨rfl, rfl, rfl⟩⟩
  | some paths =>
    rw [hpaths] at h
    obtain ⟨joined, hjoined, h⟩ := bind_eq_ok.1 h
    obtain ⟨p, hp, h⟩ := bind_eq_ok.1 h
    obtain ⟨q, hq, h⟩ := bind_eq_ok.1 h
    cases hp
    cases h
    exact ⟨_, joined, _, rfl, hq, .inr ⟨paths, rfl, rfl, hjoined⟩⟩

lemma itemColumns_names {is : List (ProjectionItem Meaning)} {i : Nat} {rows rows' : List Row}
    {columns : List (String × Meaning)}
    (h : Table.itemColumns env i is rows = .ok (columns, rows')) :
    columns.map Prod.fst = is.map ProjectionItem.column := by
  induction is generalizing i rows columns with
  | nil =>
    cases h
    rfl
  | cons item is ih =>
    obtain ⟨m, joined, rest, rfl, h, -⟩ := itemColumns_cons h
    rw [List.map_cons, List.map_cons, ih h]

/-- The columns that a projection makes of some columns. -/
def projectedColumns (b : Projection Meaning) (columns : List String) : List String :=
  (if b.star then Table.starColumns columns b.items else []) ++ b.items.map ProjectionItem.column

/-- The columns that a projection evaluates in its rows. -/
def evaluatedColumns (b : Projection Meaning) (columns : List String)
    (listed : List (String × Meaning)) : List (String × Meaning) :=
  ((if b.star then Table.starColumns columns b.items else []).map fun c =>
    (c, Meaning.ofName c)) ++ listed

lemma evaluatedColumns_names {b : Projection Meaning} {rows rows' : List Row}
    {listed : List (String × Meaning)}
    (h : Table.itemColumns env 0 b.items rows = .ok (listed, rows')) (columns : List String) :
    (evaluatedColumns b columns listed).map Prod.fst = projectedColumns b columns := by
  rw [evaluatedColumns, projectedColumns, List.map_append, List.map_map, itemColumns_names h]
  exact congrArg (· ++ _) (List.map_id _)

/-- What is done for a projection. -/
lemma project_eq_ok {b : Projection Meaning} (h : Table.project env b t = .ok t') :
    ∃ listed rows projected sorted skip limit,
      Table.itemColumns env 0 b.items t.rows = .ok (listed, rows) ∧
      Table.projectRows env (evaluatedColumns b t.columns listed) rows = .ok projected ∧
      Table.sortRows env b.order (if b.distinct then
        Value.distinctBy (fun p => Table.rowKey t'.columns p.out) projected else projected) =
          .ok sorted ∧
      Table.bound? env "SKIP" b.skip = .ok skip ∧ Table.bound? env "LIMIT" b.limit = .ok limit ∧
      t' = ⟨projectedColumns b t.columns,
        (Table.cut skip limit sorted).map Table.Projected.out⟩ := by
  obtain ⟨⟨listed, rows⟩, hlisted, h⟩ := bind_eq_ok.1 h
  obtain ⟨projected, hprojected, h⟩ := bind_eq_ok.1 h
  obtain ⟨sorted, hsorted, h⟩ := bind_eq_ok.1 h
  obtain ⟨skip, hskip, h⟩ := bind_eq_ok.1 h
  obtain ⟨limit, hlimit, h⟩ := bind_eq_ok.1 h
  cases h
  exact ⟨listed, rows, projected, sorted, skip, limit, hlisted, hprojected, hsorted, hskip, hlimit,
    congrArg (Table.mk · _) (evaluatedColumns_names hlisted _)⟩

lemma projectRow_binds {columns : List (String × Meaning)} {group : Option (List Row)}
    {p : Table.Projected} (h : Table.projectRow env columns group row = .ok p) :
    p.out.Binds (columns.map Prod.fst) := by
  obtain ⟨es, hes, h⟩ := bind_eq_ok.1 h
  cases h
  have hnames : es.map Prod.fst = columns.map Prod.fst := by
    refine List.forall₂_eq_eq_eq ▸ List.forall₂_map_left_iff.2 (List.forall₂_map_right_iff.2 ?_)
    refine (forall₂_mapM hes).flip.imp fun e k he => ?_
    obtain ⟨v, -, he⟩ := bind_eq_ok.1 he
    cases he
    rfl
  rw [← hnames]
  exact Row.binds_ofList es

lemma mem_sortRows {is : List (SortItem Meaning)} {ps sorted : List Table.Projected}
    (h : Table.sortRows env is ps = .ok sorted) {p : Table.Projected} : p ∈ sorted ↔ p ∈ ps := by
  rw [Table.sortRows] at h
  split_ifs at h
  · cases h
    exact Iff.rfl
  · obtain ⟨keyed, hkeyed, h⟩ := bind_eq_ok.1 h
    cases h
    have hsnd : keyed.map Prod.snd = ps := by
      refine List.forall₂_eq_eq_eq ▸ List.forall₂_map_left_iff.2 ?_
      refine (forall₂_mapM hkeyed).flip.imp fun k p hk => ?_
      obtain ⟨values, -, hk⟩ := bind_eq_ok.1 hk
      cases hk
      rfl
    rw [← hsnd, List.mem_map, List.mem_map]
    simp only [List.mem_mergeSort]

lemma cut_subset {α : Type} (skip limit : Option Nat) (xs : List α) :
    Table.cut skip limit xs ⊆ xs := by
  cases limit with
  | none => exact List.drop_subset _ _
  | some n => exact List.Subset.trans (List.take_subset _ _) (List.drop_subset _ _)

lemma projectRows_binds {columns : List (String × Meaning)} {rows : List Row}
    {ps : List Table.Projected} (h : Table.projectRows env columns rows = .ok ps)
    {p : Table.Projected} (hp : p ∈ ps) : p.out.Binds (columns.map Prod.fst) := by
  rw [Table.projectRows] at h
  split_ifs at h
  · obtain ⟨groups, -, h⟩ := bind_eq_ok.1 h
    obtain ⟨g, -, h⟩ := mem_mapM h hp
    exact projectRow_binds h
  · obtain ⟨row, -, h⟩ := mem_mapM h hp
    exact projectRow_binds h

/-- **The rows of a projection** bind its columns, and nothing else. -/
theorem project_binds {b : Projection Meaning} (h : Table.project env b t = .ok t') :
    t'.columns = projectedColumns b t.columns ∧ ∀ row ∈ t'.rows, row.Binds t'.columns := by
  obtain ⟨listed, rows, projected, sorted, skip, limit, hlisted, hprojected, hsorted, -, -, rfl⟩ :=
    project_eq_ok h
  refine ⟨rfl, fun row hrow => ?_⟩
  obtain ⟨p, hp, rfl⟩ := List.mem_map.1 hrow
  have hp := (mem_sortRows hsorted).1 (cut_subset _ _ _ hp)
  have hmem : p ∈ projected := by
    split_ifs at hp
    · exact (Value.distinctBy_sublist _ _).mem hp
    · exact hp
  rw [← evaluatedColumns_names hlisted]
  exact projectRows_binds hprojected hmem

/-! ### Creating -/

lemma createNode_extended (p : NodePattern Meaning) (row : Row) :
    Edit.Gives (createNode c p row) fun r => row.Extended r.2 p.name.toList p.name.toList := by
  rw [createNode]
  split
  next id hrow =>
    split_ifs
    · exact .pure (Row.extended_of_bound hrow)
    · exact .throw _
  · exact .throw _
  · exact .after fun ps => .after fun id => .after fun _ => .pure (row.bind_extended p.name _)

lemma createHop_extended (h : Hop Meaning) (near : NodeId) (row : Row) :
    Edit.Gives (createHop c h near row) fun r =>
      row.Extended r.2 (h.rel.name.toList ++ h.node.name.toList)
        (h.rel.name.toList ++ h.node.name.toList) := by
  refine .after fun type => ?_
  dsimp only
  split
  · exact .throw _
  · refine .bind (createNode_extended h.node row) fun r hr => .after fun ends => .after fun ps =>
      .after fun id => .after fun _ => .pure ?_
    refine (hr.trans (r.2.bind_extended h.rel.name _)).mono (fun n => ?_) fun n hn => ?_
    · rw [List.mem_append, List.mem_append, or_comm]
    · rwa [List.mem_append, or_comm, ← List.mem_append]

lemma createHops_extended (hs : List (Hop Meaning)) (near : NodeId) (row : Row) :
    Edit.Gives (createHops c hs near row) fun r =>
      row.Extended r.2 (hs.flatMap fun h => h.rel.name.toList ++ h.node.name.toList)
        (hs.flatMap fun h => h.rel.name.toList ++ h.node.name.toList) := by
  induction hs generalizing near row with
  | nil => exact .pure (.refl row)
  | cons h hs ih =>
    exact .bind (createHop_extended h near row) fun r hr => .bind (ih _ _) fun w hw =>
      .pure (hr.trans hw)

lemma createPath_extended (p : PathPattern Meaning) (row : Row) :
    Edit.Gives (createPath c p row) fun row' => row.Extended row' p.names p.names := by
  refine .bind (createNode_extended p.start row) fun a ha =>
    .bind (createHops_extended p.hops a.1 a.2) fun w hw => .pure ?_
  refine ((ha.trans hw).trans (w.2.bind_extended p.name _)).mono (fun n => ?_) fun n hn => ?_
  all_goals
    simp only [PathPattern.names, List.mem_append] at *
    tauto

lemma createPaths_extended (ps : List (PathPattern Meaning)) (row : Row) :
    Edit.Gives (createPaths c ps row) fun row' =>
      row.Extended row' (ps.flatMap PathPattern.names) (ps.flatMap PathPattern.names) := by
  induction ps generalizing row with
  | nil => exact .pure (.refl row)
  | cons p ps ih =>
    exact .bind (createPath_extended p row) fun r hr => (ih r).imp fun row' h => hr.trans h

lemma mergeRow_extended (p : PathPattern Meaning) (onCreate onMatch : List (SetItem Meaning))
    (row : Row) :
    Edit.Gives (mergeRow c p onCreate onMatch row) fun rows =>
      rows ≠ [] ∧ ∀ row' ∈ rows, row.Extended row' p.names p.names := by
  have hfound : Edit.Gives (Edit.reading c fun env => env.matcher.rows [Meaning.parts p env] row)
      fun rows => ∀ row' ∈ rows, row.Extended row' p.names p.names := by
    refine .reading fun s rows _ h row' hrow => (Matcher.rows_extended h hrow).mono (fun n => ?_) ?_
    · simp [Meaning.parts]
    · simpa [Meaning.parts] using rebound_subset_names p
  refine .bind hfound fun rows hrows => ?_
  split_ifs with hempty
  · refine .bind (createPath_extended p row) fun row' hrow => .after fun _ => .pure ⟨by simp, ?_⟩
    rintro _ hmem
    obtain rfl := List.mem_singleton.1 hmem
    exact hrow
  · rw [List.isEmpty_iff] at hempty
    exact .after fun _ => .after fun _ => .pure ⟨hempty, hrows⟩

/-- **A writing clause** adds the names that it binds to each of its rows. -/
theorem writeClause_extended (k : Clause Meaning) (rows : List Row) :
    Edit.Gives (writeClause c rows k) fun rows' =>
      (rows ≠ [] → rows' ≠ []) ∧
        ∀ row' ∈ rows', ∃ row ∈ rows, row.Extended row' (writtenNames k) (writtenNames k) := by
  have hkept : (rows ≠ [] → rows ≠ []) ∧ ∀ row' ∈ rows, ∃ row ∈ rows, row.Extended row' [] [] :=
    ⟨id, fun row' hrow => ⟨row', hrow, .refl row'⟩⟩
  cases k with
  | create ps =>
    rw [writeClause]
    refine .imp (.mapM_forall₂ fun row _ => createPaths_extended ps row) fun rows' h =>
      ⟨?_, fun row' hrow => exists_of_forall₂ h hrow⟩
    rintro hrows rfl
    exact hrows (List.forall₂_nil_right_iff.1 h)
  | merge p onCreate onMatch =>
    rw [writeClause]
    refine .bind (.mapM_forall₂ fun row _ => mergeRow_extended p onCreate onMatch row)
      fun rowss h => .pure ⟨fun hrows => ?_, fun row' hrow => ?_⟩
    · obtain ⟨row, rows, rfl⟩ := List.exists_cons_of_ne_nil hrows
      obtain ⟨made, rest, hmade, -, rfl⟩ := List.forall₂_cons_left_iff.1 h
      exact List.append_ne_nil_of_left_ne_nil hmade.1 _
    · obtain ⟨made, hmade, hrow⟩ := List.mem_flatten.1 hrow
      obtain ⟨row, hmem, -, h⟩ := exists_of_forall₂ h hmade
      exact ⟨row, hmem, h row' hrow⟩
  | set is | remove is | delete detach xs | foreach n x body =>
    rw [writeClause]
    exact .after fun _ => .pure hkept
  | _ => exact .throw _

end Query

end PropertyGraph
