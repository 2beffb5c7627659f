import PropertyGraph.Engine.Response
import PropertyGraph.Proofs.Query.Exported

/-!
The columns of a result, no two of which are the same.

Nothing looks for equal columns after a clause. The check sees to the items of a projection, the
star leaves out what the items list, all else that brings columns adds only those that are not there
yet, and a subquery starts with the keys of a row. So what a clause keeps is that the columns are
different and that the rows are maps. A row that is written as an object loses nothing then: the map
of some entries has all of them if their keys are different.
-/

namespace PropertyGraph

open Cypher

/-! ### Objects -/

/-- The map of entries with different keys has these entries, in another order. -/
lemma Dict.perm_ofList {κ α : Type} [DecidableEq κ] [LT κ] [DecidableLT κ]
    [IsStrictTotalOrder κ (· < ·)] {es : List (κ × α)} (hes : (es.map Prod.fst).Nodup) :
    (ofList es).Perm es :=
  (List.perm_ext_iff_of_nodup (ascending_ofList es).nodup_keys.of_map hes.of_map).2
    fun _ => mem_ofList_iff hes

/-- An object has one entry for each column, with what is written for the value of a row at it. -/
structure Store.Writes (g : Store) (columns : List String) (values : List Value) (object : Json) :
    Prop where
  length : values.length = columns.length
  entries : ∃ es, object = .obj es ∧ (es.map Prod.fst).Perm columns ∧
    es.Perm (columns.zip (values.map (Value.json g.entityForm)))

lemma Store.writes_rowJson (g : Store) {columns : List String} {values : List Value}
    (hcolumns : columns.Nodup) (hlength : values.length = columns.length) :
    g.Writes columns values (g.rowJson columns values) := by
  have hkeys : (columns.zip (values.map (Value.json g.entityForm))).map Prod.fst = columns := by
    rw [List.map_fst_zip]
    rw [List.length_map, hlength]
  have hperm : (Dict.ofList (columns.zip (values.map (Value.json g.entityForm)))).Perm _ :=
    Dict.perm_ofList (hkeys.symm ▸ hcolumns)
  have hperm_keys := hperm.map Prod.fst
  rw [hkeys] at hperm_keys
  exact ⟨hlength, _, rfl, hperm_keys, hperm⟩

/-! ### Tables -/

namespace Table

variable {c : Context} {t t' : Table} {columns names : List String}

lemma nodup_addColumns (h : columns.Nodup) : (addColumns columns names).Nodup := by
  induction names generalizing columns with
  | nil => exact h
  | cons n names ih =>
    have hstep : (if n ∈ columns then columns else columns ++ [n]).Nodup := by
      split_ifs with hn
      · exact h
      · exact List.concat_eq_append ▸ h.concat hn
    rw [addColumns, List.foldl_cons]
    exact ih hstep

/-- A star leaves out the columns that are listed. -/
lemma nodup_projectedColumns {b : Projection Meaning} (h : columns.Nodup)
    (hb : (b.items.map ProjectionItem.column).Nodup) :
    (Query.projectedColumns b columns).Nodup := by
  rw [Query.projectedColumns]
  split_ifs
  · have hstar : (starColumns columns b.items).Nodup :=
      (List.mergeSort_perm _ _).nodup_iff.2 (h.filter _)
    refine hstar.append hb fun n hn hitem => ?_
    rw [starColumns, List.mem_mergeSort, List.mem_filter, decide_eq_true_iff] at hn
    exact hn.2 hitem
  · exact hb

lemma nodup_foldl_joinColumns {joined : List (Row × Output)} (h : columns.Nodup) :
    (joined.foldl (fun cs e => Output.joinColumns cs e.2) columns).Nodup := by
  induction joined generalizing columns with
  | nil => exact h
  | cons e joined ih =>
    have hstep : (Output.joinColumns columns e.2).Nodup := by
      rw [Output.joinColumns]
      split_ifs
      · exact nodup_addColumns h
      · exact h
    rw [List.foldl_cons]
    exact ih hstep

/-- The columns of a table are different, and its rows are maps. -/
structure Tidy (t : Table) : Prop where
  columns : t.columns.Nodup
  rows : ∀ row ∈ t.rows, Dict.Ascending row

lemma tidy_ofRow {row : Row} (h : Dict.Ascending row) : (ofRow row).Tidy where
  columns := h.nodup_keys
  rows row' hrow := by
    obtain rfl := List.mem_singleton.1 hrow
    exact h

lemma tidy_unit : unit.Tidy := tidy_ofRow Dict.ascending_nil

namespace Tidy

lemma adds (h : t.Tidy) (ht : t.Adds t' names) : t'.Tidy where
  columns := by
    rw [ht.columns]
    exact nodup_addColumns h.columns
  rows row' hrow := by
    obtain ⟨row, hmem, hext⟩ := ht.rows row' hrow
    exact hext.ascending (h.rows row hmem)

/-- A clause that holds no others keeps a table tidy, if what it projects has different names. -/
lemma steps (h : t.Tidy) {k : Clause Meaning}
    (hk : ∀ b ∈ k.projection?, (b.items.map ProjectionItem.column).Nodup) (ht : t.Steps k t') :
    t'.Tidy := by
  cases hp : k.projection? with
  | none => exact h.adds (ht.adds hp)
  | some b =>
    obtain ⟨hcolumns, hbinds⟩ := ht.projects b hp
    refine ⟨?_, fun row hrow => (hbinds row hrow).ascending⟩
    rw [hcolumns]
    exact nodup_projectedColumns h.columns (hk b hp)

lemma join (h : t.Tidy) {joined : List (Row × Output)} (hjoined : ∀ e ∈ joined, e.1 ∈ t.rows) :
    Tidy ⟨joined.foldl (fun cs e => Output.joinColumns cs e.2) t.columns,
      joined.flatMap fun e => Output.joinRows e.1 e.2⟩ where
  columns := nodup_foldl_joinColumns h.columns
  rows row hrow := by
    obtain ⟨e, he, hrow⟩ := List.mem_flatMap.1 hrow
    exact (Row.joinRows_extended hrow).ascending (h.rows e.1 (hjoined e he))

lemma union {o o' : Output} (h : o.table.Tidy) (h' : o'.table.Tidy) (all : Bool) :
    (o.union all o').table.Tidy where
  columns := by
    rw [Output.columns_union]
    exact nodup_addColumns h.columns
  rows row hrow :=
    (List.mem_append.1 (Output.rows_union_subset all o o' hrow)).elim (h.rows row) (h'.rows row)

end Tidy

end Table

/-! ### The check -/

/-- The check lets no two items have the same name, nor an item a name that was seen before. -/
lemma Cypher.Scope.nodup_of_checkItems {s : Scope} {items : List (ProjectionItem Check)}
    {seen cs : List String} (h : Scope.checkItems s seen items = .ok cs) :
    (items.map ProjectionItem.column).Nodup ∧ ∀ i ∈ items, i.column ∉ seen := by
  induction items generalizing seen with
  | nil => exact ⟨List.nodup_nil, nofun⟩
  | cons i items ih =>
    obtain ⟨⟨⟩, -, h⟩ := bind_eq_ok.1 h
    dsimp only at h
    split_ifs at h with hseen
    · cases h
    · obtain ⟨hitems, hfresh⟩ := ih h
      refine ⟨List.nodup_cons.2 ⟨fun hi => ?_, hitems⟩, List.forall_mem_cons.2 ⟨hseen, ?_⟩⟩
      · -- an item further on with this name would have found it seen
        obtain ⟨j, hj, hji⟩ := List.mem_map.1 hi
        exact hfresh j hj (hji ▸ List.mem_cons_self)
      · exact fun j hj hmem => hfresh j hj (List.mem_cons_of_mem _ hmem)

namespace Guarded

variable {s s' : Scope}

lemma nodup_of_afterProjection {b : Projection Guarded}
    (h : Scope.afterProjection s (b.map check) = .ok s') :
    ((b.map plain).items.map ProjectionItem.column).Nodup := by
  obtain ⟨cs, hcs, -⟩ := afterProjection_eq_ok h
  rw [columns_map plain, ← columns_map check]
  exact (Scope.nodup_of_checkItems hcs).1

/-- What a clause projects has different names if it passes the check. -/
lemma nodup_of_after {k : Clause Guarded} (h : Scope.after s (k.map check) = .ok s') :
    ∀ b ∈ (k.map plain).projection?, (b.items.map ProjectionItem.column).Nodup := by
  cases k with
  | withItems b w =>
    rintro _ ⟨⟩
    exact nodup_of_afterProjection (after_withItems h).1
  | returnItems b =>
    rintro _ ⟨⟩
    exact nodup_of_afterProjection h
  | subquery q =>
    obtain ⟨first, unions⟩ := q
    exact nofun
  | _ => exact nofun

end Guarded

/-! ### Runs -/

namespace Table.Tidy

open Guarded

variable {c : Context} {t seed : Table} {o : Output} {s s' r r' : Scope}

/-- **A clause that passes the check** keeps a table tidy. It does not matter which columns a
subquery gives, since they are added to the others one by one. -/
theorem runClause (h : t.Tidy) {k : Clause Guarded} (hcheck : Scope.after s (k.map check) = .ok s') :
    Edit.Gives (Query.runClause c t (k.map plain)) Tidy := by
  have hk := nodup_of_after hcheck
  generalize k.map plain = k at hk ⊢
  cases k with
  | subquery q =>
    refine (joins_runSubquery t q).imp ?_
    rintro _ ⟨joined, hjoined, rfl⟩
    exact h.join hjoined
  | _ =>
    rw [Query.runClause_eq_walk]
    exact (steps_runLeaf t _).imp fun t' ht => h.steps hk ht

lemma runClauses (h : o.table.Tidy) {ks : List (Clause Guarded)}
    (hcheck : Scope.afterAll s (Clause.mapAll check ks) = .ok s') :
    Edit.Gives (Query.runClauses c o (Clause.mapAll plain ks)) (·.table.Tidy) := by
  induction ks generalizing o s with
  | nil => exact .pure h
  | cons k ks ih =>
    obtain ⟨s₁, hk, hks⟩ := bind_eq_ok.1 hcheck
    rw [Clause.mapAll, Query.runClauses]
    exact .bind (h.runClause hk) fun t' ht => ih (o := ⟨t', _⟩) ht hks

lemma runBranches (hseed : seed.Tidy) (h : o.table.Tidy) {bs : List (Branch (Clause Guarded))}
    (hcheck : Scope.afterBranches s r (Clause.mapBranches check bs) = .ok r') :
    Edit.Gives (Query.runBranches c seed o (Clause.mapBranches plain bs)) (·.table.Tidy) := by
  induction bs generalizing o r with
  | nil => exact .pure h
  | cons b bs ih =>
    obtain ⟨all, ks⟩ := b
    obtain ⟨more, hks, hbs⟩ := bind_eq_ok.1 hcheck
    rw [Clause.mapBranches, Query.runBranches]
    exact .bind (hseed.runClauses (o := ⟨seed, false⟩) hks) fun o' ho' => ih (h.union ho' all) hbs

/-- **A query that passes the check** gives a tidy table if it starts from one. -/
theorem run (hseed : seed.Tidy) {q : Query Guarded}
    (hcheck : Scope.afterQuery s (q.map check) = .ok s') :
    Edit.Gives (Query.run c seed (q.map plain)) (·.table.Tidy) := by
  obtain ⟨first, unions⟩ := q
  obtain ⟨s₁, hfirst, hunions⟩ := bind_eq_ok.1 hcheck
  exact .bind (hseed.runClauses (o := ⟨seed, false⟩) hfirst) fun o ho => hseed.runBranches ho hunions

/-- What a subquery gives for a row of a tidy table is tidy as well. -/
theorem runSubquery (h : t.Tidy) {row : Row} (hrow : row ∈ t.rows) {q : Query Guarded}
    (hcheck : Scope.after s ((Clause.subquery q).map check) = .ok s') :
    Edit.Gives (Query.run c (ofRow row) (q.map plain)) (·.table.Tidy) := by
  obtain ⟨first, unions⟩ := q
  rw [Clause.map] at hcheck
  obtain ⟨r, hr, -⟩ := Scope.mem_after_subquery hcheck
  exact (tidy_ofRow (h.rows row hrow)).run hr

end Table.Tidy

/-! ### Replies -/

namespace Query

lemma reply_tidy (c : Context) {q : Query Expr} (hcheck : Statement.check (.query q) = .ok ()) :
    Edit.Gives (reply c (queryMeaning q)) fun r => ∀ shape columns lines tally,
      r = .rows shape columns lines tally →
        columns.Nodup ∧ ∀ values ∈ lines, values.length = columns.length := by
  obtain ⟨s, hs, -⟩ := bind_eq_ok.1 hcheck
  rw [← map_check_guardedQuery] at hs
  have hrun := Table.tidy_unit.run (c := c) hs
  rw [map_plain_guardedQuery] at hrun
  refine .bind hrun fun o ho => .after fun d => ?_
  split_ifs
  · refine .pure ?_
    rintro _ _ _ _ ⟨⟩
    refine ⟨ho.columns, fun values hvalues => ?_⟩
    obtain ⟨row, -, rfl⟩ := List.mem_map.1 hvalues
    exact List.length_map _
  · exact .pure (by rintro _ _ _ _ ⟨⟩)

/-- **Result columns never collide.** The columns of the rows that a query replies with are
different, and in the response each row is an object with exactly one entry for each column, which
holds the value there. -/
theorem columns_distinct (q : Query Expr) {c : Context} {d : Draft} {shape : Shape}
    {columns : List String} {lines : List (List Value)} {tally : Tally}
    (hcheck : Statement.check (.query q) = .ok ())
    (h : (ExceptT.run (reply c (queryMeaning q)) d).1 = .ok (.rows shape columns lines tally)) :
    columns.Nodup ∧ ∀ g : Store, ∃ objects,
      Response.ofReply g (.rows shape columns lines tally) = .rows shape columns objects ∧
        List.Forall₂ (g.Writes columns) lines objects := by
  obtain ⟨hcolumns, hlines⟩ := (reply_tidy c hcheck d trivial).2 _ h shape columns lines tally rfl
  refine ⟨hcolumns, fun g => ⟨lines.map (g.rowJson columns), rfl, ?_⟩⟩
  rw [List.forall₂_map_right_iff, List.forall₂_same]
  exact fun values hvalues => g.writes_rowJson hcolumns (hlines values hvalues)

/-- A name that UNWIND binds twice, a union in a subquery, a procedure that yields a name that is
there, and a star with an item, in a graph with a node. -/
theorem columns_distinct_shadowed :
    let text := "UNWIND [1, 2] AS i UNWIND [3] AS i " ++
      "CALL \x7b RETURN i AS j UNION RETURN 0 AS j \x7d CALL db.labels() YIELD label AS j " ++
      "RETURN *, 5 AS i"
    ∃ q shape lines tally, Cypher.parse text = .ok [.query q] ∧
      Statement.check (.query q) = .ok () ∧
      replyAfter [.createNode ["A"] []] q = .ok (.rows shape ["j", "i"] lines tally) ∧
      lines.length = 4 ∧ ["j", "i"].Nodup ∧ ∀ g : Store, ∃ objects,
        Response.ofReply g (.rows shape ["j", "i"] lines tally) = .rows shape ["j", "i"] objects ∧
          List.Forall₂ (g.Writes ["j", "i"]) lines objects := by
  intro text
  have h : (soleQuery? text).any (fun q => (Statement.check (.query q)).toOption == some () &&
      (replyAfter [.createNode ["A"] []] q).toOption.any fun
        | .rows _ columns lines _ => columns == ["j", "i"] && lines.length == 4
        | _ => false) = true := by decide +kernel
  obtain ⟨q, hq, h⟩ := (Option.any_eq_true _ _).1 h
  rw [Bool.and_eq_true, beq_iff_eq, Option.any_eq_true] at h
  obtain ⟨hcheck, r, hr, h⟩ := h
  cases r with
  | rows shape columns lines tally =>
    rw [Bool.and_eq_true, beq_iff_eq, beq_iff_eq] at h
    obtain ⟨rfl, hlines⟩ := h
    have hcheck := toOption_eq_some.1 hcheck
    have hr := toOption_eq_some.1 hr
    exact ⟨q, shape, lines, tally, parse_of_soleQuery? hq, hcheck, hr, hlines,
      columns_distinct q hcheck hr⟩
  | message | help => cases h

end Query

end PropertyGraph
