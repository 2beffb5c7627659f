import PropertyGraph.Proofs.Query.Covered
import PropertyGraph.Proofs.Table.Grouping

/-!
Projections of rows that bind their scope.

The columns are evaluated in the rows, or in the groups of them, and the order in what comes of
these. All of that is the same whether or not names must be bound.
-/

namespace PropertyGraph

open Cypher

namespace Guarded

/-! ### Columns -/

/-- A name that a projection reads by itself. -/
def named (n : String) : Guarded := ⟨fun _ => .ok (), fun _ _ => true, .ofName n, .ofName n⟩

lemma sound_named (n : String) : (named n).Sound where
  eval _ _ _ _ _ _ := rfl
  aggregates := rfl
  hasPaths := rfl
  paths _ _ _ _ _ h := by cases h

/-- The columns of some items. Those of shortest path patterns are read from the rows. -/
def columns : Nat → List (ProjectionItem Guarded) → List (String × Guarded)
  | _, [] => []
  | i, item :: is =>
    (item.column, if item.expr.plain.paths.isSome then named (Table.pathName i) else item.expr) ::
      columns (i + 1) is

section

variable {gs : Option Scope} {s : Scope} {env : Env}

/-- What a column needs of the rows that it is evaluated in. -/
structure Column (gs : Option Scope) (s : Scope) (g : Guarded) : Prop where
  sound : g.Sound
  check : g.check s = .ok ()
  ordered : g.ordered gs s

lemma column_named (n : String) : Column gs s (named n) := ⟨sound_named n, rfl, rfl⟩

lemma Column.alike {g : Guarded} (h : Column gs s g) {group : Option (List Row)} {row : Row}
    (hplace : Covered gs s group row) : Meaning.Alike strict plain env group row g :=
  h.sound.eval h.check h.ordered hplace

lemma column_of_mem_columns {is : List (ProjectionItem Guarded)}
    (his : ∀ item ∈ is, Column gs s item.expr) {i : Nat} {c : String × Guarded}
    (hc : c ∈ columns i is) : Column gs s c.2 := by
  induction is generalizing i with
  | nil => cases hc
  | cons item is ih =>
    rw [List.forall_mem_cons] at his
    rcases List.mem_cons.1 hc with rfl | hc
    · dsimp only
      split_ifs
      · exact column_named _
      · exact his.1
    · exact ih his.2 hc

lemma joinPaths_congr {name : String} {f f' : Env → Row → Except Error (List Value)}
    {rows : List Row} (h : ∀ row ∈ rows, f env row = f' env row) :
    Table.joinPaths env name f rows = Table.joinPaths env name f' rows := by
  rw [Table.joinPaths, Table.joinPaths, mapM_congr fun row hrow => by rw [h row hrow]]

lemma covers_of_mem_joinPaths {name : String} {f : Env → Row → Except Error (List Value)}
    {rows joined : List Row} (h : Table.joinPaths env name f rows = .ok joined) {row : Row}
    (hrow : row ∈ joined) : ∃ r ∈ rows, ∃ v, row = Dict.insert r name v := by
  obtain ⟨rowss, hrowss, h⟩ := bind_eq_ok.1 h
  cases h
  obtain ⟨made, hmade, hrow⟩ := List.mem_flatten.1 hrow
  obtain ⟨r, hr, hmade⟩ := mem_mapM hrowss hmade
  obtain ⟨vs, -, hmade⟩ := bind_eq_ok.1 hmade
  cases hmade
  obtain ⟨v, -, rfl⟩ := List.mem_map.1 hrow
  exact ⟨r, hr, v, rfl⟩

lemma itemColumns_of_none {item : ProjectionItem Meaning} (h : item.expr.paths = none)
    (is : List (ProjectionItem Meaning)) (i : Nat) (rows : List Row) :
    Table.itemColumns env i (item :: is) rows =
      (Table.itemColumns env (i + 1) is rows).map fun r =>
        ((item.column, item.expr) :: r.1, r.2) := by
  rw [Table.itemColumns, h]
  change (Table.itemColumns env (i + 1) is rows >>= fun r => _) = _
  cases Table.itemColumns env (i + 1) is rows <;> rfl

lemma itemColumns_of_some {item : ProjectionItem Meaning}
    {f : Env → Row → Except Error (List Value)} (h : item.expr.paths = some f)
    (is : List (ProjectionItem Meaning)) (i : Nat) (rows : List Row) :
    Table.itemColumns env i (item :: is) rows =
      Table.joinPaths env (Table.pathName i) f rows >>= fun joined =>
        (Table.itemColumns env (i + 1) is joined).map fun r =>
          ((item.column, Meaning.ofName (Table.pathName i)) :: r.1, r.2) := by
  rw [Table.itemColumns, h]
  cases hjoined : Table.joinPaths env (Table.pathName i) f rows with
  | error e => simp only [hjoined]; rfl
  | ok joined =>
    simp only [hjoined]
    change (Table.itemColumns env (i + 1) is joined >>= fun r => _) = Except.map _ _
    cases Table.itemColumns env (i + 1) is joined <;> rfl

/-- Items have their columns and are joined with the same rows, each of which binds what some row
before did. -/
lemma itemColumns_alike (env : Env) {is : List (ProjectionItem Guarded)}
    (his : ∀ item ∈ is, Column gs s item.expr) {rows : List Row} (hrows : ∀ r ∈ rows, r.Covers s)
    (i : Nat) :
    ∃ joined : Except Error (List Row),
      Table.itemColumns env i (is.map (·.map strict)) rows =
        (joined.map fun rows => ((columns i is).map fun c => (c.1, c.2.strict), rows)) ∧
      Table.itemColumns env i (is.map (·.map plain)) rows =
        (joined.map fun rows => ((columns i is).map fun c => (c.1, c.2.plain), rows)) ∧
      ∀ rows', joined = .ok rows' → ∀ r ∈ rows', r.Covers s ∧ rows ≠ [] := by
  induction is generalizing i rows with
  | nil =>
    refine ⟨.ok rows, rfl, rfl, ?_⟩
    rintro _ ⟨⟩ r hr
    exact ⟨hrows r hr, List.ne_nil_of_mem hr⟩
  | cons item is ih =>
    rw [List.forall_mem_cons] at his
    obtain ⟨hitem, his⟩ := his
    have hhas := hitem.sound.hasPaths
    cases hplain : item.expr.plain.paths with
    | none =>
      rw [hplain, Option.isSome_none, Option.isSome_eq_false_iff, Option.isNone_iff_eq_none] at hhas
      obtain ⟨joined, hs, hp, hjoined⟩ := ih his hrows (i + 1)
      refine ⟨joined, ?_, ?_, hjoined⟩
      · rw [List.map_cons, itemColumns_of_none hhas, hs, columns, hplain]
        cases joined <;> rfl
      · rw [List.map_cons, itemColumns_of_none hplain, hp, columns, hplain]
        cases joined <;> rfl
    | some f' =>
      rw [hplain, Option.isSome_some, Option.isSome_iff_exists] at hhas
      obtain ⟨f, hstrict⟩ := hhas
      have hjoin : Table.joinPaths env (Table.pathName i) f rows =
          Table.joinPaths env (Table.pathName i) f' rows := joinPaths_congr fun row hrow =>
        hitem.sound.paths hitem.ordered (hrows row hrow) f hstrict f' hplain
      rw [List.map_cons, List.map_cons, itemColumns_of_some hstrict, itemColumns_of_some hplain,
        hjoin, columns, hplain]
      cases hpaths : Table.joinPaths env (Table.pathName i) f' rows with
      | error e => exact ⟨.error e, rfl, rfl, by rintro _ ⟨⟩⟩
      | ok js =>
        have hjs : ∀ r ∈ js, r.Covers s ∧ rows ≠ [] := by
          intro r hr
          obtain ⟨row, hrow, v, rfl⟩ := covers_of_mem_joinPaths hpaths hr
          refine ⟨((hrows row hrow).extended (row.insert_extended _ v)).mono ?_,
            List.ne_nil_of_mem hrow⟩
          exact fun n hn => Scope.mem_declare.2 (.inl hn)
        obtain ⟨joined, hs, hp, hjoined⟩ := ih his (fun r hr => (hjs r hr).1) (i + 1)
        refine ⟨joined, ?_, ?_, fun rows' h r hr => ⟨(hjoined rows' h r hr).1, ?_⟩⟩
        · change Except.map _ (Table.itemColumns env (i + 1) (is.map (·.map strict)) js) = _
          rw [hs]
          cases joined <;> rfl
        · change Except.map _ (Table.itemColumns env (i + 1) (is.map (·.map plain)) js) = _
          rw [hp]
          cases joined <;> rfl
        · obtain ⟨j, hj⟩ := List.exists_mem_of_ne_nil js (hjoined rows' h r hr).2
          exact (hjs j hj).2

/-! ### Rows -/

section

variable {cs : List (String × Guarded)} {rows : List Row}

lemma projectRow_alike {group : Option (List Row)} {row : Row}
    (h : ∀ c ∈ cs, Meaning.Alike strict plain env group row c.2) :
    Table.projectRow env (cs.map fun c => (c.1, c.2.strict)) group row =
      Table.projectRow env (cs.map fun c => (c.1, c.2.plain)) group row := by
  have hvalues (c : String × Guarded) (hc : c ∈ cs) :
      c.2.strict.eval env group row = c.2.plain.eval env group row := h c hc
  simp only [Table.projectRow, List.mapM_map, Function.comp_def]
  rw [mapM_congr fun c hc => congrArg (· >>= fun v => pure (c.1, v)) (hvalues c hc)]

lemma ofRows_alike {xs : List Guarded}
    (h : ∀ row ∈ rows, ∀ g ∈ xs, Meaning.Alike strict plain env none row g) :
    Group.ofRows (xs.map fun g => g.strict.value env) rows =
      Group.ofRows (xs.map fun g => g.plain.value env) rows := by
  have hkeys (row : Row) (hrow : row ∈ rows) :
      ((xs.map fun g => g.strict.value env).mapM fun k => k row) =
        (xs.map fun g => g.plain.value env).mapM fun k => k row := by
    rw [List.mapM_map, List.mapM_map]
    exact mapM_congr (h row hrow)
  rw [Group.ofRows, Group.ofRows, foldlM_congr fun row hrow _ => by rw [hkeys row hrow]]
  simp only [List.isEmpty_map]

/-- A group is looked at in the row of its first member. -/
lemma covered_of_group (hgs : gs = some s) (hrows : ∀ row ∈ rows, row.Covers s) :
    Covered gs s (some rows) (rows.head?.getD []) := by
  cases rows with
  | nil => exact .inl rfl
  | cons row rest =>
    refine .inr ⟨hrows row List.mem_cons_self, ?_⟩
    rintro _ ⟨⟩
    exact ⟨s, hgs, hrows⟩

/-- **Columns have the same values** in rows that bind their scope, and in groups of such rows. -/
lemma projectRows_alike (hcs : ∀ c ∈ cs, Column gs s c.2)
    (hgs : cs.any (·.2.plain.aggregates) → gs = some s) (hrows : ∀ row ∈ rows, row.Covers s) :
    Table.projectRows env (cs.map fun c => (c.1, c.2.strict)) rows =
      Table.projectRows env (cs.map fun c => (c.1, c.2.plain)) rows := by
  have hany : (cs.map fun c => (c.1, c.2.strict)).any (·.2.aggregates) =
      (cs.map fun c => (c.1, c.2.plain)).any (·.2.aggregates) := by
    have hagg : (cs.map fun c => c.2.strict.aggregates) = cs.map fun c => c.2.plain.aggregates :=
      List.map_congr_left fun c hc => (hcs c hc).sound.aggregates
    simpa only [List.any_map, Function.comp_def, id_eq] using congrArg (·.any id) hagg
  have hkeys (F : Guarded → Meaning) (hF : ∀ c ∈ cs, (F c.2).aggregates = c.2.plain.aggregates) :
      ((cs.map fun c => (c.1, F c.2)).filter fun c => !c.2.aggregates).map
          (fun c => c.2.value env) =
        ((cs.filter fun c => !c.2.plain.aggregates).map Prod.snd).map fun g => (F g).value env := by
    rw [List.filter_map, List.map_map, List.map_map, List.filter_congr fun c hc => by
      rw [Function.comp, hF c hc]]
    rfl
  rw [Table.projectRows, Table.projectRows, hany,
    hkeys strict fun c hc => (hcs c hc).sound.aggregates, hkeys plain fun _ _ => rfl]
  split_ifs with hagg
  · dsimp only
    rw [ofRows_alike fun row hrow g hg => ?_]
    · cases hgroups : Group.ofRows (((cs.filter fun c => !c.2.plain.aggregates).map Prod.snd).map
          fun g => g.plain.value env) rows with
      | error e => rfl
      | ok groups =>
        refine mapM_congr fun g hg => projectRow_alike fun c hc => (hcs c hc).alike ?_
        exact covered_of_group (hgs (by simpa [List.any_map] using hagg)) fun r hr =>
          hrows r ((Group.partition_ofRows hgroups).mem hg hr)
    · obtain ⟨c, hc, rfl⟩ := List.mem_map.1 hg
      exact (hcs c (List.mem_filter.1 hc).1).alike (.alone (hrows row hrow))
  · exact mapM_congr fun row hrow => projectRow_alike fun c hc =>
      (hcs c hc).alike (.alone (hrows row hrow))

/-- What the order of rows looks at binds the names of the rows and of the columns. -/
lemma covered_of_mem_projectRows {columns : List (String × Meaning)} {ps : List Table.Projected}
    (h : Table.projectRows env columns rows = .ok ps)
    (hgs : columns.any (·.2.aggregates) → gs = some s) (hrows : ∀ row ∈ rows, row.Covers s)
    {p : Table.Projected} (hp : p ∈ ps) :
    Covered gs (s.declare (columns.map Prod.fst)) p.group p.scope := by
  have hscope {group : Option (List Row)} {row : Row} (hplace : Covered gs s group row)
      (h : Table.projectRow env columns group row = .ok p) :
      Covered gs (s.declare (columns.map Prod.fst)) p.group p.scope := by
    have hout := Query.projectRow_binds h
    obtain ⟨es, -, h⟩ := bind_eq_ok.1 h
    cases h
    refine (hplace.extended (row.merge_extended _)).mono fun n hn => ?_
    rw [Scope.mem_declare] at hn ⊢
    exact hn.imp_right fun hn => Row.mem_keys.2 ((hout.contains n).2 hn)
  rw [Table.projectRows] at h
  split_ifs at h with hagg
  · obtain ⟨groups, hgroups, h⟩ := bind_eq_ok.1 h
    obtain ⟨g, hg, h⟩ := mem_mapM h hp
    have hmem (r : Row) (hr : r ∈ g.rows) := hrows r ((Group.partition_ofRows hgroups).mem hg hr)
    exact hscope (covered_of_group (hgs hagg) hmem) h
  · obtain ⟨row, hrow, h⟩ := mem_mapM h hp
    exact hscope (.alone (hrows row hrow)) h

end

/-! ### Order and bounds -/

lemma compareKeys_map (is : List (SortItem Guarded)) :
    Table.compareKeys (is.map (·.map strict)) = Table.compareKeys (is.map (·.map plain)) := by
  induction is with
  | nil => rfl
  | cons i is ih =>
    funext as bs
    cases as with
    | nil => rfl
    | cons a as =>
      cases bs with
      | nil => rfl
      | cons b bs =>
        rw [List.map_cons, List.map_cons, Table.compareKeys, Table.compareKeys, ih]
        rfl

lemma sortRows_alike {is : List (SortItem Guarded)} (his : ∀ i ∈ is, Column gs s i.expr)
    {ps : List Table.Projected} (hps : ∀ p ∈ ps, Covered gs s p.group p.scope) :
    Table.sortRows env (is.map (·.map strict)) ps =
      Table.sortRows env (is.map (·.map plain)) ps := by
  have hkeys (p : Table.Projected) (hp : p ∈ ps) :
      ((is.map (·.map strict)).mapM fun i => i.expr.eval env p.group p.scope) =
        (is.map (·.map plain)).mapM fun i => i.expr.eval env p.group p.scope := by
    rw [List.mapM_map, List.mapM_map]
    exact mapM_congr fun i hi => (his i hi).alike (hps p hp)
  rw [Table.sortRows, Table.sortRows, compareKeys_map, List.isEmpty_map, List.isEmpty_map,
    mapM_congr fun p hp => congrArg (· >>= fun keys => pure (keys, p)) (hkeys p hp)]

lemma bound?_alike {x : Option Guarded} (hx : ∀ g ∈ x, Column none [] g) (clause : String) :
    Table.bound? env clause (x.map strict) = Table.bound? env clause (x.map plain) := by
  rw [Table.bound?, Table.bound?,
    Meaning.value?_congr fun g hg => (hx g hg).alike (.alone (Row.covers_nil []))]

/-! ### Projections -/

/-- What a projection that passes the check and is ordered has: its scope after it, and columns that
can be evaluated. -/
structure Projects (s s' : Scope) (b : Projection Guarded) : Prop where
  items : ∀ item ∈ b.items, Column (groupScope s b) s item.expr
  order : ∀ i ∈ b.order, Column (groupScope s b) (s.declare s') i.expr
  skip : ∀ g ∈ b.skip, Column none [] g
  limit : ∀ g ∈ b.limit, Column none [] g
  scope : ∀ n, n ∈ s' ↔ n ∈ b.items.map ProjectionItem.column ∨ b.star ∧ n ∈ s

lemma checkItems_eq_ok {items : List (ProjectionItem Guarded)} {seen cs : List String}
    (h : Scope.checkItems s seen (items.map (·.map check)) = .ok cs) :
    (∀ item ∈ items, item.expr.check s = .ok ()) ∧
      ∀ n, n ∈ cs ↔ n ∈ items.map ProjectionItem.column ∨ n ∈ seen := by
  induction items generalizing seen with
  | nil =>
    cases h
    simp
  | cons item items ih =>
    obtain ⟨⟨⟩, hitem, h⟩ := bind_eq_ok.1 h
    dsimp only at h
    split_ifs at h
    · cases h
    · obtain ⟨hitems, hcs⟩ := ih h
      refine ⟨List.forall_mem_cons.2 ⟨hitem, hitems⟩, fun n => ?_⟩
      rw [hcs, List.map_cons, List.mem_cons, List.mem_cons, or_left_comm, or_assoc]
      rfl

lemma afterProjection_eq_ok {b : Projection Check} {s' : Scope}
    (h : Scope.afterProjection s b = .ok s') :
    ∃ cs, Scope.checkItems s [] b.items = .ok cs ∧ s' = (if b.star then s.declare cs else cs) ∧
      b.order.forM (fun i => i.expr (s.declare s')) = .ok () ∧
      Scope.checkAll (b.skip.toList ++ b.limit.toList) [] = .ok () := by
  obtain ⟨cs, hcs, h⟩ := bind_eq_ok.1 h
  dsimp only at h
  generalize hafter : (if b.star then s.declare cs else cs) = after at h
  split_ifs at h
  · cases h
  · obtain ⟨⟨⟩, horder, h⟩ := bind_eq_ok.1 h
    obtain ⟨⟨⟩, hbounds, h⟩ := bind_eq_ok.1 h
    obtain rfl := Except.ok.inj h
    exact ⟨cs, hcs, hafter.symm, horder, hbounds⟩

lemma mem_afterProjection {s' : Scope} {b : Projection Guarded}
    (h : Scope.afterProjection s (b.map check) = .ok s') {n : String} :
    n ∈ s' ↔ n ∈ b.items.map ProjectionItem.column ∨ b.star ∧ n ∈ s := by
  obtain ⟨cs, hcs, rfl, -⟩ := afterProjection_eq_ok h
  obtain ⟨-, hcs⟩ := checkItems_eq_ok hcs
  cases hstar : b.star <;> simp [Projection.map, Scope.mem_declare, hcs, hstar, or_comm]

lemma projects_of_check {s' : Scope} {known : Bool} {b : Projection Guarded}
    (hb : ∀ g ∈ b.parts, g.Sound) (hcheck : Scope.afterProjection s (b.map check) = .ok s')
    (hord : projection s s' known b) : Projects s s' b := by
  simp only [Projection.parts, List.forall_mem_append, List.forall_mem_map, Option.mem_toList] at hb
  obtain ⟨⟨⟨hitems, horder⟩, hskip⟩, hlimit⟩ := hb
  simp only [projection, Bool.and_eq_true, List.all_eq_true, List.mem_append, or_imp,
    forall_and, Option.mem_toList] at hord
  obtain ⟨⟨⟨hio, hoo⟩, hso, hlo⟩, -⟩ := hord
  obtain ⟨cs, hcs, -, hoc, hbc⟩ := afterProjection_eq_ok hcheck
  obtain ⟨hic, -⟩ := checkItems_eq_ok hcs
  have hbounds : ∀ g ∈ b.skip.toList ++ b.limit.toList, g.check [] = .ok () := by
    refine checkAll_map ?_
    rwa [List.map_append, ← Option.toList_map, ← Option.toList_map]
  refine ⟨fun item h => ⟨hitems item h, hic item h, hio item h⟩,
    fun i h => ⟨horder i h, forM_eq_ok.1 hoc _ (List.mem_map_of_mem h), hoo i h⟩,
    fun g h => ⟨hskip g h, hbounds g ?_, hso g h⟩,
    fun g h => ⟨hlimit g h, hbounds g ?_, hlo g h⟩, fun n => mem_afterProjection hcheck⟩
  · exact List.mem_append_left _ (Option.mem_toList.2 h)
  · exact List.mem_append_right _ (Option.mem_toList.2 h)

/-- The columns of a projection: those of the star, and those of the items. -/
def allColumns (star : List String) (b : Projection Guarded) : List (String × Guarded) :=
  star.map (fun c => (c, named c)) ++ columns 0 b.items

lemma columns_names (is : List (ProjectionItem Guarded)) (i : Nat) :
    (columns i is).map Prod.fst = is.map ProjectionItem.column := by
  induction is generalizing i with
  | nil => rfl
  | cons item is ih => rw [columns, List.map_cons, List.map_cons, ih]

/-- The columns that a projection of a table has in place of its star. -/
def starOf (columns : List String) (b : Projection Guarded) : List String :=
  if b.star then Table.starColumns columns (b.items.map (·.map plain)) else []

lemma evaluatedColumns_map {F : Guarded → Meaning} (hF : ∀ n, F (named n) = .ofName n)
    (names : List String) (b : Projection Guarded) :
    Query.evaluatedColumns (b.map F) names ((columns 0 b.items).map fun c => (c.1, F c.2)) =
      (allColumns (starOf names b) b).map fun c => (c.1, F c.2) := by
  have hstar : Table.starColumns names (b.items.map (·.map F)) =
      Table.starColumns names (b.items.map (·.map plain)) := by
    simp only [Table.starColumns, List.map_map]
    rfl
  rw [Query.evaluatedColumns, allColumns, List.map_append, List.map_map, starOf, ← hstar]
  exact congrArg (· ++ _) (List.map_congr_left fun n _ => by rw [Function.comp, hF])

/-- What a projection makes of its rows: distinct ones, in order, cut at both ends. -/
def arrange (env : Env) (b : Projection Meaning) (names : List String)
    (ps : List Table.Projected) : Except Error Table := do
  let sorted ← Table.sortRows env b.order
    (if b.distinct then Value.distinctBy (fun p => Table.rowKey names p.out) ps else ps)
  let skip ← Table.bound? env "SKIP" b.skip
  let limit ← Table.bound? env "LIMIT" b.limit
  return ⟨names, (Table.cut skip limit sorted).map Table.Projected.out⟩

lemma project_of_ok {b : Projection Meaning} {t : Table} {listed : List (String × Meaning)}
    {rows : List Row} (h : Table.itemColumns env 0 b.items t.rows = .ok (listed, rows)) :
    Table.project env b t =
      Table.projectRows env (Query.evaluatedColumns b t.columns listed) rows >>=
        arrange env b ((Query.evaluatedColumns b t.columns listed).map Prod.fst) := by
  rw [Table.project, h]
  rfl

lemma arrange_congr {b b' : Projection Meaning} {names : List String} {ps : List Table.Projected}
    (hdistinct : b.distinct = b'.distinct)
    (hsort : Table.sortRows env b.order (if b'.distinct then
        Value.distinctBy (fun p => Table.rowKey names p.out) ps else ps) =
      Table.sortRows env b'.order (if b'.distinct then
        Value.distinctBy (fun p => Table.rowKey names p.out) ps else ps))
    (hskip : Table.bound? env "SKIP" b.skip = Table.bound? env "SKIP" b'.skip)
    (hlimit : Table.bound? env "LIMIT" b.limit = Table.bound? env "LIMIT" b'.limit) :
    arrange env b names ps = arrange env b' names ps := by
  rw [arrange, arrange, hdistinct, hsort, hskip, hlimit]

/-- If a column aggregates, the rows are grouped. -/
lemma groupScope_of_any {star : List String} {b : Projection Guarded}
    (h : (allColumns star b).any (·.2.plain.aggregates)) : groupScope s b = some s := by
  have hitems {is : List (ProjectionItem Guarded)} {i : Nat}
      (h : (columns i is).any (·.2.plain.aggregates)) : is.any (·.expr.plain.aggregates) := by
    induction is generalizing i with
    | nil => cases h
    | cons item is ih =>
      rw [columns, List.any_cons, Bool.or_eq_true] at h
      rw [List.any_cons, Bool.or_eq_true]
      refine h.imp (fun h => ?_) ih
      dsimp only at h
      split_ifs at h
      · cases h
      · exact h
  rw [allColumns, List.any_append, Bool.or_eq_true] at h
  refine if_pos (hitems (h.resolve_left fun h => ?_))
  obtain ⟨c, hc, h⟩ := List.any_eq_true.1 h
  obtain ⟨n, -, rfl⟩ := List.mem_map.1 hc
  cases h

/-- **A projection is the same** whether or not names must be bound. -/
theorem project_alike {s' : Scope} {b : Projection Guarded} (hb : Projects s s' b) {t : Table}
    (ht : ∀ row ∈ t.rows, row.Covers s) :
    Table.project env (b.map strict) t = Table.project env (b.map plain) t := by
  obtain ⟨joined, hs, hp, hjoined⟩ := itemColumns_alike env hb.items ht 0
  cases joined with
  | error e =>
    rw [Table.project, Table.project,
      show (b.map strict).items = b.items.map (·.map strict) from rfl,
      show (b.map plain).items = b.items.map (·.map plain) from rfl, hs, hp]
    rfl
  | ok rows =>
    have hrows : ∀ row ∈ rows, row.Covers s := fun row hrow => (hjoined rows rfl row hrow).1
    have hcs : ∀ c ∈ allColumns (starOf t.columns b) b, Column (groupScope s b) s c.2 := by
      intro c hc
      rcases List.mem_append.1 hc with hc | hc
      · obtain ⟨n, -, rfl⟩ := List.mem_map.1 hc
        exact column_named n
      · exact column_of_mem_columns hb.items hc
    have hnames (F : Guarded → Meaning) :
        ((allColumns (starOf t.columns b) b).map fun c => (c.1, F c.2)).map Prod.fst =
          (allColumns (starOf t.columns b) b).map Prod.fst := by
      rw [List.map_map]
      rfl
    rw [project_of_ok hs, project_of_ok hp, evaluatedColumns_map fun _ => rfl,
      evaluatedColumns_map fun _ => rfl, projectRows_alike hcs groupScope_of_any hrows, hnames,
      hnames]
    cases hps : Table.projectRows env
        ((allColumns (starOf t.columns b) b).map fun c => (c.1, c.2.plain)) rows with
    | error e => rfl
    | ok ps =>
      have hplaces : ∀ p ∈ ps, Covered (groupScope s b) (s.declare s') p.group p.scope := by
        intro p hp
        have hany (h : ((allColumns (starOf t.columns b) b).map fun c =>
            (c.1, c.2.plain)).any (·.2.aggregates)) : groupScope s b = some s := by
          rw [List.any_map] at h
          exact groupScope_of_any h
        have hplace := covered_of_mem_projectRows hps hany hrows hp
        refine hplace.mono fun n hn => ?_
        rw [Scope.mem_declare] at hn ⊢
        rw [hnames, allColumns, List.map_append, columns_names, List.mem_append]
        exact hn.elim .inl fun hn => ((hb.scope n).1 hn).elim (.inr ∘ .inr) fun h => .inl h.2
      have hkept : ∀ p ∈ (if b.distinct then Value.distinctBy
          (fun p => Table.rowKey ((allColumns (starOf t.columns b) b).map Prod.fst) p.out) ps
          else ps), p ∈ ps := by
        split_ifs
        · exact fun p hp => (Value.distinctBy_sublist _ _).mem hp
        · exact fun p hp => hp
      exact arrange_congr rfl
        (sortRows_alike hb.order fun p hp => hplaces p (hkept p hp)) (bound?_alike hb.skip _)
        (bound?_alike hb.limit _)

end

end Guarded

/-! ### Tables -/

namespace Table

/-- The columns of a table are among some names; they are all of them if they are known, or if there
is a row. -/
structure Heads (t : Table) (names : List String) (known : Bool) : Prop where
  columns : t.columns ⊆ names
  all : known ∨ t.rows ≠ [] → names ⊆ t.columns

/-- The rows of a table bind some names, which its columns are of, and no others. -/
structure Binds (t : Table) (names : List String) (known : Bool) : Prop extends
    t.Heads names known where
  rows : ∀ row ∈ t.rows, ∀ n, Dict.contains row n ↔ n ∈ names

namespace Binds

variable {t t' : Table} {names : List String} {known : Bool} {s : Scope} {env : Env}

lemma covers (h : t.Binds names known) (hs : s ⊆ names) : ∀ row ∈ t.rows, row.Covers s :=
  fun row hrow n hn => (h.rows row hrow n).2 (hs hn)

lemma adds (h : t.Binds names known) {more : List String} (ht : t.Adds t' more) :
    t'.Binds (names ++ more) known where
  rows row' hrow n := by
    obtain ⟨row, hmem, hext⟩ := ht.rows row' hrow
    rw [hext.contains, h.rows row hmem, List.mem_append]
  columns n hn := by
    rw [ht.columns, mem_addColumns] at hn
    exact List.mem_append.2 (hn.imp_left fun hn => h.columns hn)
  all hrows n hn := by
    rw [ht.columns, mem_addColumns]
    refine (List.mem_append.1 hn).imp_left fun hn => h.all (hrows.imp_right fun hne => ?_) hn
    obtain ⟨row', hrow⟩ := List.exists_mem_of_ne_nil _ hne
    obtain ⟨row, hmem, -⟩ := ht.rows row' hrow
    exact List.ne_nil_of_mem hmem

lemma subset (h : t.Binds names known) {rows : List Row} (hrows : rows ⊆ t.rows) :
    Binds { t with rows } names known where
  rows row hrow := h.rows row (hrows hrow)
  columns := h.columns
  all hne := h.all (hne.imp_right fun hne hnil => hne (List.subset_nil.1 (hnil ▸ hrows)))

lemma projectRows_nil {columns : List (String × Meaning)}
    (h : columns = [] ∨ ∃ c ∈ columns, c.2.aggregates = false) :
    projectRows env columns [] = .ok [] := by
  rw [projectRows]
  split_ifs with hany
  · obtain rfl | ⟨c, hc, hagg⟩ := h
    · cases hany
    · have hkeys : c ∈ columns.filter fun c => !c.2.aggregates :=
        List.mem_filter.2 ⟨hc, by rw [hagg]; rfl⟩
      have hne : (((columns.filter fun c => !c.2.aggregates).map fun c => c.2.value env).isEmpty)
          = false := by
        rw [List.isEmpty_map, List.isEmpty_eq_false_iff]
        exact List.ne_nil_of_mem hkeys
      simp only [Group.ofRows, hne]
      rfl
  · rfl

/-- Items have no rows to be joined with if there were none. -/
lemma itemColumns_nil {is : List (ProjectionItem Meaning)} {i : Nat} {rows : List Row}
    {columns : List (String × Meaning)} (h : itemColumns env i is [] = .ok (columns, rows)) :
    rows = [] ∧ ∀ item ∈ is, item.expr.aggregates = false →
      ∃ c ∈ columns, c.2.aggregates = false := by
  induction is generalizing i columns with
  | nil =>
    cases h
    exact ⟨rfl, fun _ h => absurd h List.not_mem_nil⟩
  | cons item is ih =>
    obtain ⟨m, joined, rest, rfl, hrest, hitem⟩ := Query.itemColumns_cons h
    obtain rfl : joined = [] := by
      obtain ⟨-, -, rfl⟩ | ⟨paths, -, -, hjoined⟩ := hitem
      · rfl
      · cases hjoined
        rfl
    obtain ⟨hrows, hrest⟩ := ih hrest
    refine ⟨hrows, fun item' hmem hagg => ?_⟩
    rcases List.mem_cons.1 hmem with rfl | hmem
    · refine ⟨_, List.mem_cons_self, ?_⟩
      obtain ⟨-, rfl, -⟩ | ⟨paths, -, rfl, -⟩ := hitem
      · exact hagg
      · rfl
    · obtain ⟨c, hc, hagg⟩ := hrest item' hmem hagg
      exact ⟨c, List.mem_cons_of_mem _ hc, hagg⟩

/-- A projection that leaves its columns known makes no rows of none if it has a star. -/
lemma rows_of_project {b : Projection Meaning} (h : project env b t = .ok t')
    (hstar : b.items = [] ∨ ∃ item ∈ b.items, item.expr.aggregates = false)
    (hrows : t.rows = []) : t'.rows = [] := by
  obtain ⟨listed, rows, projected, sorted, skip, limit, hlisted, hprojected, hsorted, -, -, rfl⟩ :=
    Query.project_eq_ok h
  rw [hrows] at hlisted
  obtain ⟨rfl, hagg⟩ := itemColumns_nil hlisted
  have hcolumns : Query.evaluatedColumns b t.columns listed = [] ∨
      ∃ c ∈ Query.evaluatedColumns b t.columns listed, c.2.aggregates = false := by
    rw [Query.evaluatedColumns]
    obtain hitems | ⟨item, hitem, hitemagg⟩ := hstar
    · rw [hitems] at hlisted
      cases hlisted
      rw [List.append_nil]
      generalize (if b.star then starColumns t.columns b.items else []) = star
      cases star with
      | nil => exact .inl rfl
      | cons n star => exact .inr ⟨_, List.mem_cons_self, rfl⟩
    · obtain ⟨c, hc, hagg⟩ := hagg item hitem hitemagg
      exact .inr ⟨c, List.mem_append_right _ hc, hagg⟩
  rw [projectRows_nil hcolumns] at hprojected
  cases hprojected
  have hsorted : sorted = [] := by
    refine List.eq_nil_iff_forall_not_mem.2 fun p hp => ?_
    have hmem := (Query.mem_sortRows hsorted).1 hp
    split_ifs at hmem
    all_goals cases hmem
  rw [hsorted]
  exact List.eq_nil_iff_forall_not_mem.2 fun row hrow => by
    obtain ⟨p, hp, -⟩ := List.mem_map.1 hrow
    cases Query.cut_subset _ _ _ hp

lemma mem_projectedColumns {b : Projection Meaning} {columns : List String} {n : String} :
    n ∈ Query.projectedColumns b columns ↔
      n ∈ b.items.map ProjectionItem.column ∨ b.star ∧ n ∈ columns := by
  rw [Query.projectedColumns, List.mem_append]
  split_ifs with hstar
  · rw [starColumns, List.mem_mergeSort, List.mem_filter, decide_eq_true_iff]
    tauto
  · simp [hstar]

/-- **The rows of a projection** bind the names of its scope. -/
lemma project (h : t.Binds names known) {b : Projection Guarded}
    (hstar : Guarded.starIsKnown known b)
    (ht : Table.project env (b.map Guarded.plain) t = .ok t') :
    t'.Binds (b.items.map ProjectionItem.column ++ if b.star then names else [])
      (!b.star || known) := by
  obtain ⟨hcolumns, hrows⟩ := Query.project_binds ht
  have hitems : (b.map Guarded.plain).items.map ProjectionItem.column =
      b.items.map ProjectionItem.column := by
    simp only [Projection.map, List.map_map]
    rfl
  have hmem (n : String) : n ∈ t'.columns ↔
      n ∈ b.items.map ProjectionItem.column ∨ b.star ∧ n ∈ t.columns := by
    rw [hcolumns, mem_projectedColumns, hitems]
    rfl
  have hsubset : t'.columns ⊆
      b.items.map ProjectionItem.column ++ if b.star then names else [] := by
    intro n hn
    rw [List.mem_append]
    refine ((hmem n).1 hn).imp_right fun hn => ?_
    rw [if_pos hn.1]
    exact h.columns hn.2
  have hall : (!b.star || known) ∨ t'.rows ≠ [] →
      (b.items.map ProjectionItem.column ++ if b.star then names else []) ⊆ t'.columns := by
    intro hne n hn
    rw [hmem]
    refine (List.mem_append.1 hn).imp_right fun hn => ?_
    split_ifs at hn with hb
    · refine ⟨hb, h.all (or_iff_not_imp_left.2 fun hknown hnil => ?_) hn⟩
      simp only [Guarded.starIsKnown, hb, hknown, Bool.not_true, Bool.false_or, Bool.or_eq_true,
        List.isEmpty_iff, List.any_eq_true, Bool.not_eq_true', false_or,
        Bool.false_eq_true] at hstar hne
      obtain hitems | ⟨item, hitem, hagg⟩ := hstar
      · exact hne (rows_of_project ht (.inl (List.map_eq_nil_iff.2 hitems)) hnil)
      · exact hne (rows_of_project ht (.inr ⟨_, List.mem_map_of_mem hitem, hagg⟩) hnil)
    · cases hn
  refine ⟨⟨hsubset, hall⟩, fun row hrow n => ?_⟩
  rw [(hrows row hrow).contains]
  exact ⟨fun hn => hsubset hn, fun hn => hall (.inr (List.ne_nil_of_mem hrow)) hn⟩

end Binds

end Table

end PropertyGraph
