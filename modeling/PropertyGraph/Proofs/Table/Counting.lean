import PropertyGraph.Proofs.Meaning.Groupless
import PropertyGraph.Proofs.Query.Names
import PropertyGraph.Proofs.Table.Partition
import PropertyGraph.Proofs.Table.Sorting

/-!
The rows of a projection that aggregates stand for groups, and what they count is the rows of these.

Neither DISTINCT nor the order of rows loses a group: two groups differ in a key, the keys are
columns of the projection, and a column that does not aggregate has the value in its group that the
group has it for.
-/

namespace PropertyGraph

open Cypher

/-- Elements that are all different stay. -/
lemma Value.distinctBy_eq_self {α β : Type} [DecidableEq β] {f : α → β} {xs : List α}
    (h : (xs.map f).Nodup) : distinctBy f xs = xs := by
  induction xs using List.reverseRecOn with
  | nil => rfl
  | append_singleton xs x ih =>
    rw [List.map_append, List.map_singleton, List.nodup_append] at h
    have hnew : ¬ ∃ y ∈ xs, f y = f x := by
      rintro ⟨y, hy, heq⟩
      exact h.2.2 (f y) (List.mem_map_of_mem hy) (f x) (List.mem_singleton_self _) heq
    classical
    rw [distinctBy_concat, if_neg hnew, ih h.1]

namespace Table

variable {env : Env} {columns : List (String × Meaning)} {group : Option (List Row)} {row : Row}
  {rows : List Row} {p : Projected}

/-- Rows have one key if their values have one under each column. -/
lemma rowKey_eq_iff {names : List String} {r s : Row} : rowKey names r = rowKey names s ↔
    ∀ n ∈ names, (Dict.getD r n .null).key = (Dict.getD s n .null).key := by
  rw [rowKey, rowKey, valuesIn, valuesIn, List.map_map, List.map_map, List.map_inj_left]
  rfl

/-! ### Columns -/

/-- No two columns of one name are different. -/
def OneEach (columns : List (String × Meaning)) : Prop :=
  ∀ c ∈ columns, ∀ d ∈ columns, c.1 = d.1 → c.2 = d.2

/-- What a projected row has under a column. -/
lemma getD_projectRow (h : projectRow env columns group row = .ok p) (hone : OneEach columns)
    {c : String × Meaning} (hc : c ∈ columns) :
    ∃ v, c.2.eval env group row = .ok v ∧ Dict.getD p.out c.1 .null = v := by
  have hbinds := (Query.projectRow_binds h).contains c.1
  obtain ⟨es, hes, h⟩ := bind_eq_ok.1 h
  obtain rfl := Except.ok.inj h
  obtain ⟨v, hv⟩ := Option.isSome_iff_exists.1 (hbinds.2 (List.mem_map_of_mem hc))
  obtain ⟨d, hd, hstep⟩ := mem_mapM hes (Dict.mem_ofList (Dict.mem_of_get? hv))
  obtain ⟨w, hw, hstep⟩ := bind_eq_ok.1 hstep
  obtain ⟨hname, rfl⟩ := Prod.mk.inj (Except.ok.inj hstep)
  rw [hone d hd c hc hname] at hw
  exact ⟨w, hw, by rw [Dict.getD, hv]; rfl⟩

/-- An item that is no path pattern is the column that it makes. -/
lemma mem_itemColumns {is : List (ProjectionItem Meaning)} {i : Nat} {rows' : List Row}
    (h : itemColumns env i is rows = .ok (columns, rows')) {item : ProjectionItem Meaning}
    (hitem : item ∈ is) (hpaths : item.expr.paths = none) : (item.column, item.expr) ∈ columns := by
  induction is generalizing i rows columns with
  | nil => cases hitem
  | cons first is ih =>
    obtain ⟨m, joined, rest, rfl, h, hm⟩ := Query.itemColumns_cons h
    rcases List.mem_cons.1 hitem with rfl | hitem
    · rcases hm with ⟨-, rfl, -⟩ | ⟨paths, hsome, -⟩
      · exact List.mem_cons_self
      · rw [hpaths] at hsome
        cases hsome
    · exact List.mem_cons_of_mem _ (ih h hitem)

/-- Rows are not joined with anything if no item is a path pattern. -/
lemma itemColumns_rows {is : List (ProjectionItem Meaning)} {i : Nat} {rows' : List Row}
    (h : itemColumns env i is rows = .ok (columns, rows'))
    (hpaths : ∀ item ∈ is, item.expr.paths = none) : rows' = rows := by
  induction is generalizing i rows columns with
  | nil =>
    cases h
    rfl
  | cons first is ih =>
    rw [List.forall_mem_cons] at hpaths
    obtain ⟨m, joined, rest, rfl, hrest, hm⟩ := Query.itemColumns_cons h
    rcases hm with ⟨-, -, rfl⟩ | ⟨paths, hsome, -⟩
    · exact ih hrest hpaths.2
    · rw [hpaths.1] at hsome
      cases hsome

lemma groupless_itemColumns {is : List (ProjectionItem Meaning)} {i : Nat} {rows' : List Row}
    (h : itemColumns env i is rows = .ok (columns, rows'))
    (his : ∀ item ∈ is, item.expr.Groupless) : ∀ c ∈ columns, c.2.Groupless := by
  induction is generalizing i rows columns with
  | nil =>
    cases h
    nofun
  | cons first is ih =>
    rw [List.forall_mem_cons] at his
    obtain ⟨m, joined, rest, rfl, h, hm⟩ := Query.itemColumns_cons h
    refine List.forall_mem_cons.2 ⟨?_, ih h his.2⟩
    rcases hm with ⟨-, rfl, -⟩ | ⟨paths, -, rfl, -⟩
    · exact his.1
    · exact Meaning.groupless_ofName _

section

variable {b : Projection Meaning} {listed : List (String × Meaning)} {rows' : List Row}

lemma oneEach_evaluatedColumns (h : itemColumns env 0 b.items rows = .ok (listed, rows'))
    (hitems : (b.items.map ProjectionItem.column).Nodup) (names : List String) :
    OneEach (Query.evaluatedColumns b names listed) := by
  have hnames : listed.map Prod.fst = b.items.map ProjectionItem.column :=
    Query.itemColumns_names h
  -- a star stands for other names than those of the items
  have hstar : ∀ c ∈ (if b.star then starColumns names b.items else []),
      c ∉ listed.map Prod.fst := by
    intro c hc
    split_ifs at hc
    · rw [starColumns, List.mem_mergeSort, List.mem_filter] at hc
      rw [hnames]
      simpa using hc.2
    · cases hc
  intro c hc d hd heq
  rw [Query.evaluatedColumns, List.mem_append, List.mem_map] at hc hd
  rcases hc with ⟨n, hn, rfl⟩ | hc <;> rcases hd with ⟨k, hk, rfl⟩ | hd
  · exact congrArg Meaning.ofName heq
  · exact absurd (List.mem_map.2 ⟨d, hd, heq.symm⟩) (hstar n hn)
  · exact absurd (List.mem_map.2 ⟨c, hc, heq⟩) (hstar k hk)
  · rw [← hnames] at hitems
    exact congrArg _ (List.inj_on_of_nodup_map hitems hc hd heq)

lemma groupless_evaluatedColumns (h : itemColumns env 0 b.items rows = .ok (listed, rows'))
    (hitems : ∀ item ∈ b.items, item.expr.Groupless) (names : List String) :
    ∀ c ∈ Query.evaluatedColumns b names listed, c.2.Groupless := by
  intro c hc
  rw [Query.evaluatedColumns, List.mem_append, List.mem_map] at hc
  rcases hc with ⟨n, -, rfl⟩ | hc
  · exact Meaning.groupless_ofName n
  · exact groupless_itemColumns h hitems c hc

end

/-! ### Groups and rows -/

/-- The columns that rows are grouped by. -/
def keyColumns (columns : List (String × Meaning)) : List (String × Meaning) :=
  columns.filter fun c => !c.2.aggregates

/-- The row of a group has the key of the group under the columns that rows are grouped by. -/
lemma rowKey_projectRow (hone : OneEach columns) (hless : ∀ c ∈ columns, c.2.Groupless)
    {vs : List Value} (hvs : (((keyColumns columns).map fun c => c.2.value env).mapM
      fun k => k row) = .ok vs) (h : projectRow env columns group row = .ok p) :
    rowKey ((keyColumns columns).map Prod.fst) p.out = vs.map Value.key := by
  rw [List.mapM_map] at hvs
  have hvalue : ∀ c ∈ keyColumns columns,
      c.2.value env row = .ok (Dict.getD p.out c.1 .null) := fun c hc => by
    have hmem := (List.mem_filter.1 hc).1
    obtain ⟨v, -, hv⟩ := exists_of_forall₂ (forall₂_mapM hvs).flip hc
    obtain ⟨w, hw, rfl⟩ := getD_projectRow h hone hmem
    -- the value is there without a group, and so it is the one in the group
    have heq := hless c hmem env group row v hv
    rw [← Except.ok.inj (heq.symm.trans hw)]
    exact hv
  obtain rfl := Except.ok.inj (hvs.symm.trans (mapM_eq_ok hvalue))
  simp only [rowKey, valuesIn, List.map_map, Function.comp_def]

section

variable {gs : List Group} {ps : List Projected}

/-- The rows of groups, by the rows that they stand for. -/
lemma sum_lengths {f : Row → List Value} (hgs : Group.Grouped f rows gs)
    (hps : gs.mapM (fun g => projectRow env columns (some g.rows) (g.rows.head?.getD [])) =
      .ok ps) : (ps.map fun p => (p.group.getD []).length).sum = rows.length := by
  have hlengths : (ps.map fun p => (p.group.getD []).length) = gs.map (·.rows.length) := by
    refine List.forall₂_eq_eq_eq ▸ List.forall₂_map_left_iff.2 (List.forall₂_map_right_iff.2 ?_)
    refine (forall₂_mapM hps).flip.imp fun p g h => ?_
    obtain ⟨es, -, h⟩ := bind_eq_ok.1 h
    obtain rfl := Except.ok.inj h
    rfl
  rw [hlengths, ← hgs.perm.length_eq, List.length_flatMap]

/-- The rows of two groups differ. -/
lemma nodup_rowKeys (hone : OneEach columns) (hless : ∀ c ∈ columns, c.2.Groupless)
    (hgs : Group.ofRows ((keyColumns columns).map fun c => c.2.value env) rows = .ok gs)
    (hps : gs.mapM (fun g => projectRow env columns (some g.rows) (g.rows.head?.getD [])) =
      .ok ps) : (ps.map fun p => rowKey (columns.map Prod.fst) p.out).Nodup := by
  have hlength := (forall₂_mapM hps).length_eq
  by_cases hkeys : keyColumns columns = []
  · -- there is one group
    rw [hkeys] at hgs
    obtain rfl := Except.ok.inj hgs
    obtain ⟨p, rfl⟩ := List.length_eq_one_iff.1 hlength.symm
    exact List.nodup_singleton _
  · have hne : ((keyColumns columns).map fun c => c.2.value env) ≠ [] := by simpa using hkeys
    have hgroups : (ps.map fun p => rowKey ((keyColumns columns).map Prod.fst) p.out) =
        gs.map Group.key := by
      refine List.forall₂_eq_eq_eq ▸ List.forall₂_map_left_iff.2 (List.forall₂_map_right_iff.2 ?_)
      have hmem := (List.forall₂_and_left gs ps).2 ⟨fun _ => id, forall₂_mapM hps⟩
      refine hmem.flip.imp fun p g h => ?_
      obtain ⟨hrow, hkey⟩ := Group.head_mem hne hgs h.1
      obtain ⟨vs, hvs⟩ := Group.exists_values hne hgs _ hrow
      rw [rowKey_projectRow hone hless hvs h.2, ← hkey, Group.keyOf, hvs]
      rfl
    have hdistinct := (Group.grouped_ofRows hgs).ordered
    rw [← hgroups, List.pairwise_map] at hdistinct
    refine List.pairwise_map.2 (hdistinct.imp fun {p q} hlt heq => ?_)
    -- rows that have one key under all columns have one under those that they are grouped by
    have hsome : rowKey ((keyColumns columns).map Prod.fst) p.out =
        rowKey ((keyColumns columns).map Prod.fst) q.out :=
      rowKey_eq_iff.2 fun n hn =>
        rowKey_eq_iff.1 heq n (List.map_subset _ (List.filter_subset_self _) hn)
    rw [hsome] at hlt
    exact Nat.lt_irrefl _ hlt

end

lemma perm_sortRows {is : List (SortItem Meaning)} {ps sorted : List Projected}
    (h : sortRows env is ps = .ok sorted) : sorted.Perm ps := by
  rw [sortRows_eq] at h
  obtain ⟨ks, hks, h⟩ := bind_eq_ok.1 h
  obtain rfl := Except.ok.inj h
  have hrows : ks.map Prod.snd = ps := by
    refine List.forall₂_eq_eq_eq ▸ List.forall₂_map_left_iff.2 ?_
    refine (forall₂_mapM hks).flip.imp fun k p hk => ?_
    obtain ⟨vs, -, hk⟩ := bind_eq_ok.1 hk
    obtain rfl := Except.ok.inj hk
    rfl
  have hperm := (List.mergeSort_perm ks fun a b => (compareKeys is a.1 b.1).isLE).map Prod.snd
  rwa [hrows] at hperm

lemma map_cut {α β : Type} (f : α → β) (skip limit : Option Nat) (xs : List α) :
    (cut skip limit xs).map f = cut skip limit (xs.map f) := by
  cases limit <;> simp [cut]

/-- The meaning of `count(*)`. -/
def countRows : Meaning := Meaning.ofLayer .countRows

/-- What a projection counts before it is cut, group by group, is the rows that it groups. -/
theorem sum_counts {b : Projection Meaning} {t t' : Table}
    (hless : ∀ item ∈ b.items, item.expr.Groupless)
    (hitems : (b.items.map ProjectionItem.column).Nodup) (h : project env b t = .ok t')
    {item : ProjectionItem Meaning} (hitem : item ∈ b.items) (hcount : item.expr = countRows) :
    ∃ (listed : List (String × Meaning)) (rows : List Row) (skip limit : Option Nat)
      (all : List Row) (counts : List Nat),
      itemColumns env 0 b.items t.rows = .ok (listed, rows) ∧
      bound? env "SKIP" b.skip = .ok skip ∧ bound? env "LIMIT" b.limit = .ok limit ∧
      t'.rows = cut skip limit all ∧
      (all.map fun r => Dict.getD r item.column .null) = counts.map Value.count ∧
      counts.sum = rows.length := by
  obtain ⟨listed, rows, ps, sorted, skip, limit, hlisted, hps, hsorted, hskip, hlimit, rfl⟩ :=
    Query.project_eq_ok h
  have hone : OneEach (Query.evaluatedColumns b t.columns listed) :=
    oneEach_evaluatedColumns hlisted hitems t.columns
  have hcolumn : (item.column, countRows) ∈ Query.evaluatedColumns b t.columns listed := by
    have hmem := mem_itemColumns hlisted hitem (by rw [hcount]; rfl)
    rw [hcount] at hmem
    exact List.mem_append_right _ hmem
  have hnames := Query.evaluatedColumns_names hlisted t.columns
  have hless := groupless_evaluatedColumns hlisted hless t.columns
  generalize Query.evaluatedColumns b t.columns listed = columns at *
  have hagg : columns.any (·.2.aggregates) = true := List.any_eq_true.2 ⟨_, hcolumn, rfl⟩
  rw [projectRows, if_pos hagg] at hps
  obtain ⟨gs, hgs, hps⟩ := bind_eq_ok.1 hps
  -- DISTINCT and the order keep all of the groups
  have hdistinct := nodup_rowKeys hone hless hgs hps
  rw [hnames] at hdistinct
  dsimp only at hsorted
  rw [Value.distinctBy_eq_self hdistinct, ite_self] at hsorted
  have hperm := perm_sortRows hsorted
  have hcounts : ∀ p ∈ sorted,
      Dict.getD p.out item.column .null = Value.count (p.group.getD []).length := fun p hp => by
    obtain ⟨g, -, hp⟩ := mem_mapM hps (hperm.mem_iff.1 hp)
    obtain ⟨v, hv, hout⟩ := getD_projectRow hp hone hcolumn
    obtain ⟨es, -, hp⟩ := bind_eq_ok.1 hp
    obtain rfl := Except.ok.inj hp
    obtain rfl := Except.ok.inj hv
    exact hout
  refine ⟨listed, rows, skip, limit, sorted.map Projected.out,
    sorted.map fun p => (p.group.getD []).length, hlisted, hskip, hlimit, map_cut .., ?_, ?_⟩
  · rw [List.map_map, List.map_map]
    exact List.map_congr_left hcounts
  · rw [(hperm.map _).sum_eq]
    exact sum_lengths (Group.grouped_ofRows hgs) hps

lemma foldItems_ofLayer (is : List (ProjectionItem Expr)) :
    Expr.foldItems Meaning.ofLayer is = is.map fun i => ⟨i.expr.meaning, i.given, i.source⟩ := by
  induction is with
  | nil => rfl
  | cons i is ih =>
    rw [Expr.foldItems, ih]
    rfl

/-- The projection that an expression stands for in each place. -/
lemma foldProjection_ofLayer (b : Projection Expr) : Expr.foldProjection Meaning.ofLayer b =
    ⟨b.distinct, b.star, b.items.map fun i => ⟨i.expr.meaning, i.given, i.source⟩,
      Expr.foldSorts Meaning.ofLayer b.order, b.skip.map Expr.meaning,
      b.limit.map Expr.meaning⟩ := by
  rw [Expr.foldProjection, foldItems_ofLayer, Expr.foldOption_eq_map, Expr.foldOption_eq_map]
  rfl

/-- **Grouping is a partition.** Rows with keys are sorted out by these, completely and in order,
with as many groups as there are different keys, or one group if they are grouped by nothing. So in a
projection with `count(*)`, whose items have different names as `Scope.checkItems` demands, the
counts, up to where SKIP and LIMIT cut its rows, sum to the number of the rows that it groups. These
are the rows of the table, unless they are joined with the paths of path patterns among its
columns. -/
theorem grouping_exact :
    (∀ (keys : List (Row → Except Error Value)) (values : Row → List Value) (rows : List Row),
      (∀ r ∈ rows, (keys.mapM fun k => k r) = .ok (values r)) →
      ∃ gs, Group.ofRows keys rows = .ok gs ∧ Group.Grouped (Group.keysOf values) rows gs ∧
        (keys ≠ [] → gs.length = (rows.map (Group.keysOf values)).toFinset.card) ∧
        (keys = [] → gs.length = 1)) ∧
    ∀ (env : Env) (b : Projection Expr) (t t' : Table),
      (b.items.map ProjectionItem.column).Nodup →
      project env (Expr.foldProjection Meaning.ofLayer b) t = .ok t' →
      ∀ i ∈ b.items, i.expr = .of .countRows →
        ∃ (listed : List (String × Meaning)) (rows : List Row) (skip limit : Option Nat)
          (all : List Row) (counts : List Nat),
          itemColumns env 0 (Expr.foldProjection Meaning.ofLayer b).items t.rows =
            .ok (listed, rows) ∧
          ((∀ j ∈ b.items, j.expr.meaning.paths = none) → rows = t.rows) ∧
          bound? env "SKIP" (b.skip.map Expr.meaning) = .ok skip ∧
          bound? env "LIMIT" (b.limit.map Expr.meaning) = .ok limit ∧
          t'.rows = cut skip limit all ∧
          (all.map fun r => Dict.getD r i.column .null) = counts.map Value.count ∧
          counts.sum = rows.length := by
  refine ⟨fun keys values rows h => Group.exists_grouped h, ?_⟩
  intro env b t t' hnames h i hi hcount
  rw [foldProjection_ofLayer] at h ⊢
  have hless : ∀ item ∈ b.items.map fun j => (⟨j.expr.meaning, j.given, j.source⟩ :
      ProjectionItem Meaning), item.expr.Groupless := by
    rw [List.forall_mem_map]
    exact fun j _ => j.expr.groupless_meaning
  have hnodup : ((b.items.map fun j => (⟨j.expr.meaning, j.given, j.source⟩ :
      ProjectionItem Meaning)).map ProjectionItem.column).Nodup := by
    rw [List.map_map]
    exact hnames
  obtain ⟨listed, rows, skip, limit, all, counts, hlisted, hcounted⟩ :=
    sum_counts hless hnodup h (List.mem_map_of_mem hi) (by rw [hcount]; rfl)
  refine ⟨listed, rows, skip, limit, all, counts, hlisted, fun hpaths => ?_, hcounted⟩
  refine itemColumns_rows hlisted ?_
  rw [List.forall_mem_map]
  exact hpaths

/-- Two zeros are in one group, two nulls are in another one, and DISTINCT drops neither. -/
theorem grouping_exact_zeros :
    let rows : List Row := [[("x", .num .zero)], [("x", .null)], [("x", .num (.neg .zero))],
      [("x", .null)], [("x", .num .zero)]]
    let keys : List (Row → Except Error Value) := [fun row => .ok (Dict.getD row "x" .null)]
    let b : Projection Expr := ⟨true, false, [⟨.of (.name "x"), none, "x"⟩,
      ⟨.of .countRows, some "n", "count(*)"⟩], [], none, none⟩
    (∃ gs, Group.ofRows keys rows = .ok gs ∧
      Group.Grouped (Group.keysOf fun row => [Dict.getD row "x" .null]) rows gs ∧
      gs.length = 2) ∧
    ∃ (t' : Table) (counts : List Nat),
      project ⟨⟨[], 0, .zero⟩, {}⟩ (Expr.foldProjection Meaning.ofLayer b) ⟨["x"], rows⟩ =
        .ok t' ∧
      (t'.rows.map fun r => Dict.getD r "n" .null) = counts.map Value.count ∧ counts.sum = 5 := by
  intro rows keys b
  obtain ⟨hgroups, hprojects⟩ := grouping_exact
  obtain ⟨gs, hgs, hgrouped, hlength, -⟩ :=
    hgroups keys (fun row => [Dict.getD row "x" .null]) rows fun _ _ => rfl
  obtain ⟨t', ht⟩ : ∃ t', project ⟨⟨[], 0, .zero⟩, {}⟩ (Expr.foldProjection Meaning.ofLayer b)
      ⟨["x"], rows⟩ = .ok t' := ⟨_, rfl⟩
  obtain ⟨listed, joined, skip, limit, all, counts, -, hjoined, hskip, hlimit, hrows, hcounts,
    hsum⟩ := hprojects _ b _ t' (by decide) ht ⟨.of .countRows, some "n", "count(*)"⟩ (by simp [b])
      rfl
  obtain rfl := Except.ok.inj hskip
  obtain rfl := Except.ok.inj hlimit
  refine ⟨⟨gs, hgs, hgrouped, (hlength (by simp [keys])).trans (by decide +kernel)⟩, t', counts, ht,
    ?_, ?_⟩
  · rw [hrows]
    exact hcounts
  · have hpaths : ∀ j ∈ b.items, j.expr.meaning.paths = none := by
      rw [List.forall_mem_cons, List.forall_mem_singleton]
      exact ⟨rfl, rfl⟩
    rw [hsum, hjoined hpaths]
    rfl

end Table

end PropertyGraph
