import Mathlib.Data.List.DropRight
import PropertyGraph.Proofs.Query.Names
import PropertyGraph.Proofs.Query.Reading
import PropertyGraph.Proofs.Table.Counting

/-!
What a chain of unions comes to.

A query goes through its branches from the left and drops repetitions at each UNION, under the
columns that there are by then. Columns that come later tell no two rows of earlier branches apart,
and dropping repetitions twice is dropping them once. So repetitions are dropped once, among all
branches up to the last UNION, and the branches behind it are added as they are.
-/

namespace PropertyGraph

open Cypher

/-! ### Repetitions -/

namespace Value

variable {α β : Type} [DecidableEq β]

/-- What is dropped depends on which elements are told apart only. -/
lemma distinctBy_congr {γ : Type} [DecidableEq γ] {f : α → β} {g : α → γ} {xs : List α}
    (h : ∀ x ∈ xs, ∀ y ∈ xs, f x = f y ↔ g x = g y) : distinctBy f xs = distinctBy g xs := by
  classical
  induction xs using List.reverseRecOn with
  | nil => rfl
  | append_singleton xs x ih =>
    have hlast : x ∈ xs ++ [x] := List.mem_append_right _ (List.mem_singleton_self x)
    have hxs := ih fun y hy z hz =>
      h y (List.mem_append_left _ hy) z (List.mem_append_left _ hz)
    have hseen : (∃ y ∈ xs, f y = f x) ↔ ∃ y ∈ xs, g y = g x :=
      exists_congr fun y => and_congr_right fun hy => h y (List.mem_append_left _ hy) x hlast
    rw [distinctBy_concat, distinctBy_concat, hxs]
    simp only [hseen]

variable (f : α → β)

/-- An element that is dropped is like one that is kept. -/
lemma exists_mem_distinctBy {xs : List α} {k : β} :
    (∃ x ∈ distinctBy f xs, f x = k) ↔ ∃ x ∈ xs, f x = k := by
  classical
  induction xs using List.reverseRecOn with
  | nil => exact Iff.rfl
  | append_singleton xs x ih =>
    rw [distinctBy_concat]
    split_ifs with hx
    · rw [ih]
      simp only [List.mem_append, List.mem_singleton, or_and_right, exists_or, exists_eq_left]
      refine ⟨.inl, ?_⟩
      rintro (h | rfl)
      exacts [h, hx]
    · simp only [List.mem_append, List.mem_singleton, or_and_right, exists_or, exists_eq_left, ih]

/-- Repetitions that are dropped later need not be dropped before. -/
lemma distinctBy_append_left (xs ys : List α) :
    distinctBy f (distinctBy f xs ++ ys) = distinctBy f (xs ++ ys) := by
  classical
  induction ys using List.reverseRecOn with
  | nil =>
    rw [List.append_nil, List.append_nil]
    induction xs using List.reverseRecOn with
    | nil => rfl
    | append_singleton xs x ih =>
      rw [distinctBy_concat]
      split_ifs with hx
      · exact ih
      · rw [distinctBy_concat, if_neg (by rwa [exists_mem_distinctBy]), ih]
  | append_singleton ys y ih =>
    have hseen : (∃ z ∈ distinctBy f xs ++ ys, f z = f y) ↔ ∃ z ∈ xs ++ ys, f z = f y := by
      simp only [List.mem_append, or_and_right, exists_or, exists_mem_distinctBy]
    rw [← List.append_assoc, ← List.append_assoc, distinctBy_concat, distinctBy_concat, ih]
    simp only [hseen]

lemma distinctBy_map {δ : Type} (g : δ → α) (xs : List δ) :
    distinctBy f (xs.map g) = (distinctBy (f ∘ g) xs).map g := by
  classical
  induction xs using List.reverseRecOn with
  | nil => rfl
  | append_singleton xs x ih =>
    have hseen : (∃ y ∈ xs.map g, f y = f (g x)) ↔ ∃ y ∈ xs, (f ∘ g) y = (f ∘ g) x := by
      simp only [List.mem_map, exists_exists_and_eq_and, Function.comp]
    rw [List.map_append, List.map_singleton, distinctBy_concat, distinctBy_concat, ih]
    simp only [hseen]
    split_ifs
    · rfl
    · rw [List.map_append, List.map_singleton]

/-- An element is dropped if it is like one before. -/
lemma distinctBy_eq_eraseDupsBy (xs : List α) :
    distinctBy f xs = xs.eraseDupsBy fun x y => decide (f x = f y) := by
  have hloop (acc : List α) : (xs.foldl (fun (acc : List α × List β) x =>
      if f x ∈ acc.2 then acc else (x :: acc.1, f x :: acc.2)) (acc, acc.map f)).1.reverse =
      List.eraseDupsBy.loop (fun x y => decide (f x = f y)) xs acc := by
    induction xs generalizing acc with
    | nil => rfl
    | cons x xs ih =>
      rw [List.foldl_cons, List.eraseDupsBy.loop]
      by_cases hx : f x ∈ acc.map f
      · have hany : acc.any (fun y => decide (f x = f y)) = true := by
          obtain ⟨y, hy, heq⟩ := List.mem_map.1 hx
          exact List.any_eq_true.2 ⟨y, hy, by simp [heq]⟩
        rw [if_pos hx, hany]
        exact ih acc
      · have hany : acc.any (fun y => decide (f x = f y)) = false := by
          rw [List.any_eq_false]
          exact fun y hy heq => hx (List.mem_map.2 ⟨y, hy, (of_decide_eq_true heq).symm⟩)
        rw [if_neg hx, hany]
        exact ih (x :: acc)
  exact hloop []

end Value

/-! ### Columns -/

namespace Table

variable {columns names : List String}

lemma addColumns_append (columns names more : List String) :
    addColumns columns (names ++ more) = addColumns (addColumns columns names) more :=
  List.foldl_append

/-- New names come behind the old ones, in the order in which they are first seen. -/
lemma addColumns_eq (columns names : List String) :
    addColumns columns names = columns ++ (names.filter (· ∉ columns)).eraseDups := by
  induction names using List.reverseRecOn with
  | nil => exact (List.append_nil _).symm
  | append_singleton names n ih =>
    have hseen : n ∈ addColumns columns names ↔ n ∈ columns ∨ n ∈ names := mem_addColumns
    rw [addColumns_append, addColumns, List.foldl_cons, List.foldl_nil, List.filter_append]
    by_cases hold : n ∈ columns
    · rw [if_pos (hseen.2 (.inl hold)), ih]
      simp [hold]
    · have hfilter : [n].filter (· ∉ columns) = [n] := by simp [hold]
      rw [hfilter, eraseDups_concat, ih]
      by_cases hnew : n ∈ names <;> simp [hnew, hold]

/-- No row binds a name that is no column. -/
def Closed (t : Table) : Prop := ∀ r ∈ t.rows, ∀ n, Dict.contains r n → n ∈ t.columns

lemma getD_eq_null {row : Row} {n : String} (h : ¬ Dict.contains row n) :
    Dict.getD row n .null = .null := by
  rw [Dict.contains, Option.not_isSome_iff_eq_none] at h
  rw [Dict.getD, h]
  rfl

/-- Columns that two rows do not bind do not tell them apart. -/
lemma rowKey_eq_iff_of_subset (hsub : names ⊆ columns) {r s : Row}
    (hr : ∀ n, Dict.contains r n → n ∈ names) (hs : ∀ n, Dict.contains s n → n ∈ names) :
    rowKey names r = rowKey names s ↔ rowKey columns r = rowKey columns s := by
  rw [rowKey_eq_iff, rowKey_eq_iff]
  refine ⟨fun h n _ => ?_, fun h n hn => h n (hsub hn)⟩
  by_cases hn : n ∈ names
  · exact h n hn
  · rw [getD_eq_null fun h => hn (hr n h), getD_eq_null fun h => hn (hs n h)]

end Table

/-! ### Chains -/

namespace Output

/-- Some outputs, each joined to those before it by UNION ALL or UNION. -/
def chain (first : Output) (parts : List (Bool × Output)) : Output :=
  parts.foldl (fun o p => o.union p.1 p.2) first

variable {first o : Output} {parts : List (Bool × Output)} {all : Bool}

lemma chain_concat (first : Output) (parts : List (Bool × Output)) (p : Bool × Output) :
    chain first (parts ++ [p]) = (chain first parts).union p.1 p.2 := by
  rw [chain, List.foldl_append]
  rfl

lemma columns_chain (first : Output) (parts : List (Bool × Output)) :
    (chain first parts).table.columns =
      Table.addColumns first.table.columns (parts.flatMap fun p => p.2.table.columns) := by
  induction parts using List.reverseRecOn with
  | nil => rfl
  | append_singleton parts p ih =>
    rw [chain_concat, columns_union, ih, List.flatMap_append, List.flatMap_singleton,
      Table.addColumns_append]

lemma returns_chain (h : first.returns = true) (parts : List (Bool × Output)) :
    (chain first parts).returns = true := by
  induction parts using List.reverseRecOn with
  | nil => exact h
  | append_singleton parts p ih =>
    rw [chain_concat, union, ih]
    rfl

lemma subset_columns_union (all : Bool) (a b : Output) :
    a.table.columns ⊆ (a.union all b).table.columns ∧
      b.table.columns ⊆ (a.union all b).table.columns := by
  rw [columns_union]
  exact ⟨fun n hn => Table.mem_addColumns.2 (.inl hn), fun n hn => Table.mem_addColumns.2 (.inr hn)⟩

/-- Rows that are put together bind no more than the columns of both. -/
lemma contains_union (ha : first.table.Closed) (hb : o.table.Closed) (all : Bool) :
    ∀ r ∈ first.table.rows ++ o.table.rows, ∀ n, Dict.contains r n →
      n ∈ (first.union all o).table.columns := by
  obtain ⟨hsub, hsub'⟩ := subset_columns_union all first o
  intro r hr n hn
  rcases List.mem_append.1 hr with hr | hr
  · exact hsub (ha r hr n hn)
  · exact hsub' (hb r hr n hn)

lemma closed_union (ha : first.table.Closed) (hb : o.table.Closed) (all : Bool) :
    (first.union all o).table.Closed :=
  fun r hr => contains_union ha hb all r (rows_union_subset all first o hr)

lemma closed_chain (hfirst : first.table.Closed) (hparts : ∀ p ∈ parts, p.2.table.Closed) :
    (chain first parts).table.Closed := by
  induction parts using List.reverseRecOn with
  | nil => exact hfirst
  | append_singleton parts p ih =>
    rw [List.forall_mem_append, List.forall_mem_singleton] at hparts
    rw [chain_concat]
    exact closed_union (ih hparts.1) hparts.2 p.1

/-- The place of the last UNION among some operators, which may be UNION ALL; zero if there is
none. -/
def lastUnion (alls : List Bool) : Nat := (alls.rdropWhile id).length

lemma lastUnion_le (alls : List Bool) : lastUnion alls ≤ alls.length :=
  (List.rdropWhile_prefix _ _).length_le

/-- Repetitions among rows are dropped if there is a UNION. -/
def distinctIf (columns : List String) (k : Nat) (rows : List Row) : List Row :=
  if k = 0 then rows else Value.distinctBy (Table.rowKey columns) rows

lemma distinctBy_distinctIf (columns : List String) (k : Nat) (rows more : List Row) :
    Value.distinctBy (Table.rowKey columns) (distinctIf columns k rows ++ more) =
      Value.distinctBy (Table.rowKey columns) (rows ++ more) := by
  rw [distinctIf]
  split_ifs
  · rfl
  · exact Value.distinctBy_append_left _ rows more

/-- **Repetitions are dropped once**, up to the last UNION, under any columns that all of the
others are among. -/
theorem rows_chain (hfirst : first.table.Closed) (hparts : ∀ p ∈ parts, p.2.table.Closed)
    {columns : List String} (hsub : (chain first parts).table.columns ⊆ columns) :
    (chain first parts).table.rows =
      distinctIf columns (lastUnion (parts.map Prod.fst)) (first.table.rows ++
          (parts.take (lastUnion (parts.map Prod.fst))).flatMap fun p => p.2.table.rows) ++
        (parts.drop (lastUnion (parts.map Prod.fst))).flatMap fun p => p.2.table.rows := by
  induction parts using List.reverseRecOn with
  | nil => simp [chain, lastUnion, distinctIf]
  | append_singleton parts p ih =>
    rw [List.forall_mem_append, List.forall_mem_singleton] at hparts
    have hclosed := closed_chain hfirst hparts.1
    rw [chain_concat] at hsub ⊢
    have hrows := ih hparts.1 (List.Subset.trans (subset_columns_union p.1 _ _).1 hsub)
    have hle := lastUnion_le (parts.map Prod.fst)
    rw [List.length_map] at hle
    rw [rows_union, List.map_append, List.map_singleton]
    cases hall : p.1 with
    | true =>
      have hlast : lastUnion (parts.map Prod.fst ++ [true]) = lastUnion (parts.map Prod.fst) := by
        rw [lastUnion, List.rdropWhile_concat_pos _ _ _ rfl, lastUnion]
      rw [if_pos rfl, hlast, List.take_append_of_le_length hle, List.drop_append_of_le_length hle,
        hrows, List.flatMap_append, List.flatMap_singleton, List.append_assoc]
    | false =>
      have hlast : lastUnion (parts.map Prod.fst ++ [false]) = (parts ++ [p]).length := by
        rw [lastUnion, List.rdropWhile_concat_neg _ _ _ Bool.false_ne_true]
        simp
      have hpos : (parts ++ [p]).length ≠ 0 := by simp
      -- the columns that are yet to come tell no rows apart
      have hkeys : Value.distinctBy
          (Table.rowKey ((chain first parts).union false p.2).table.columns)
          ((chain first parts).table.rows ++ p.2.table.rows) =
          Value.distinctBy (Table.rowKey columns)
            ((chain first parts).table.rows ++ p.2.table.rows) := by
        have hcontains := contains_union hclosed hparts.2 false
        rw [hall] at hsub
        exact Value.distinctBy_congr fun r hr s hs =>
          Table.rowKey_eq_iff_of_subset hsub (hcontains r hr) (hcontains s hs)
      rw [if_neg Bool.false_ne_true, hkeys, hlast, List.take_length, List.drop_length, hrows,
        List.append_assoc, distinctBy_distinctIf, distinctIf, if_neg hpos, List.flatMap_nil,
        List.append_nil, List.flatMap_append, List.flatMap_singleton]
      have hsplit : parts.flatMap (fun p => p.2.table.rows) =
          (parts.take (lastUnion (parts.map Prod.fst))).flatMap (fun p => p.2.table.rows) ++
            (parts.drop (lastUnion (parts.map Prod.fst))).flatMap fun p => p.2.table.rows := by
        rw [← List.flatMap_append, List.take_append_drop]
      rw [hsplit]
      simp only [List.append_assoc]

end Output

/-! ### Queries -/

namespace Query

variable {env : Env} {seed : Table} {o : Output}

/-- Clauses that end with RETURN give a result, whose rows bind nothing but its columns. -/
lemma closed_readClauses {cs : List (Clause Meaning)} (hends : endsInReturn cs) {out : Output}
    (h : readClauses env o cs = .ok out) : out.returns = true ∧ out.table.Closed := by
  induction cs generalizing o with
  | nil => cases hends
  | cons k cs ih =>
    rw [readClauses] at h
    obtain ⟨t, ht, h⟩ := bind_eq_ok.1 h
    rcases cs with _ | ⟨k', cs⟩
    · cases h
      cases k with
      | returnItems b =>
        rw [readClause] at ht
        · have hrows := (project_binds ht).2
          exact ⟨rfl, fun r hr n hn => ((hrows r hr).contains n).1 hn⟩
        · rintro _ _ ⟨⟩
      | _ => cases hends
    · have hlast : endsInReturn (k' :: cs) := by
        rwa [endsInReturn, List.getLast?_cons_cons] at hends
      exact ih hlast h

/-- The branches of a query make a chain. -/
lemma readBranches_eq_chain {bs : List (Branch (Clause Meaning))} {os : List Output}
    (h : List.Forall₂ (fun b o => readClauses env ⟨seed, false⟩ b.clauses = .ok o) bs os) :
    readBranches env seed o bs = .ok (o.chain ((bs.map Branch.all).zip os)) := by
  induction h generalizing o with
  | nil => rfl
  | @cons b o' bs os hb _ ih =>
    obtain ⟨all, cs⟩ := b
    rw [readBranches, hb]
    exact ih

/-- A branch that only reads, run as a query of its own. -/
lemma readClauses_of_run {c : Context} {d : Draft} {cs : List (Clause Meaning)}
    (hread : Clause.anyWrite cs = false)
    (h : (ExceptT.run (run c seed ⟨cs, []⟩) d).1 = .ok o) :
    readClauses (c.on d.store) ⟨seed, false⟩ cs = .ok o := by
  have hq : (⟨cs, []⟩ : Query Meaning).isWrite = false := by
    rw [QueryOf.isWrite, hread]
    rfl
  rw [run_eq_reading c hq, Edit.run_reading] at h
  obtain ⟨o', ho, h⟩ := bind_eq_ok.1 h
  rw [readBranches] at h
  rw [ho, h]

lemma anyWrite_eq_false {bs : List (Branch (Clause Meaning))}
    (h : Clause.anyBranchWrites bs = false) : ∀ b ∈ bs, Clause.anyWrite b.clauses = false := by
  induction bs with
  | nil => nofun
  | cons b bs ih =>
    rw [Clause.anyBranchWrites, Bool.or_eq_false_iff] at h
    exact List.forall_mem_cons.2 ⟨h.1, ih h.2⟩

/-- Rows of values without those that have been there before; null is the same as null. -/
def dedupe (rows : List (List Value)) : List (List Value) :=
  rows.eraseDupsBy fun v w => decide (v.map Value.key = w.map Value.key)

/-- The rows of some branches: without repetitions up to a place that is not the first one, and as
they are behind it. -/
def unionRows (k : Nat) (branches : List (List (List Value))) : List (List Value) :=
  if k = 0 then branches.flatten
  else dedupe (branches.take (k + 1)).flatten ++ (branches.drop (k + 1)).flatten

lemma map_distinctIf (columns : List String) (k : Nat) (rows : List Row) :
    (Output.distinctIf columns k rows).map (Table.valuesIn columns) =
      if k = 0 then rows.map (Table.valuesIn columns)
      else dedupe (rows.map (Table.valuesIn columns)) := by
  rw [Output.distinctIf]
  split_ifs
  · rfl
  · rw [dedupe, ← Value.distinctBy_eq_eraseDupsBy, Value.distinctBy_map]
    rfl

/-- The values of the rows of a chain. -/
lemma valueRows_chain {first : Output} {rest : List Output} {alls : List Bool}
    (hlength : alls.length = rest.length) (hfirst : first.table.Closed)
    (hrest : ∀ o ∈ rest, o.table.Closed) {columns : List String}
    (hcolumns : (first.chain (alls.zip rest)).table.columns = columns) :
    (first.chain (alls.zip rest)).table.valueRows =
      unionRows (Output.lastUnion alls)
        ((first :: rest).map fun o => o.table.rows.map (Table.valuesIn columns)) := by
  have hfst : (alls.zip rest).map Prod.fst = alls := List.map_fst_zip hlength.le
  have hsnd : (alls.zip rest).map Prod.snd = rest := List.map_snd_zip hlength.ge
  have hparts : ∀ p ∈ alls.zip rest, p.2.table.Closed := fun p hp =>
    hrest p.2 (hsnd ▸ List.mem_map_of_mem hp)
  have hsub : (first.chain (alls.zip rest)).table.columns ⊆ columns := by
    rw [hcolumns]
    exact List.Subset.refl _
  have hrows := Output.rows_chain hfirst hparts hsub
  rw [hfst] at hrows
  generalize Output.lastUnion alls = k at hrows
  have hflat (ps : List (Bool × Output)) :
      ps.flatMap (fun p => p.2.table.rows) = (ps.map Prod.snd).flatMap (·.table.rows) :=
    (List.flatMap_map Prod.snd (fun o : Output => o.table.rows) ps).symm
  rw [hflat, hflat, List.map_take, List.map_drop, hsnd] at hrows
  rw [Table.valueRows, hrows, hcolumns, List.map_append, map_distinctIf, unionRows]
  split_ifs with hk
  · subst hk
    simp [List.flatMap, List.map_flatten, Function.comp_def]
  · simp [List.flatMap, List.map_flatten, Function.comp_def]

/-- **A chain of unions** has the columns of its branches, each where it is first seen, and under
these the rows of its branches, null where a branch has no such column: without repetitions as far
as the last UNION goes, and all of them behind it. -/
theorem union_chain {q : Query Meaning} (hread : q.isWrite = false)
    (hfirst : endsInReturn q.first) (hunions : ∀ b ∈ q.unions, endsInReturn b.clauses)
    (c : Context) (seed : Table) (d : Draft) {first : Output} {rest : List Output}
    (hrun : (ExceptT.run (run c seed ⟨q.first, []⟩) d).1 = .ok first)
    (hruns : List.Forall₂ (fun b o => (ExceptT.run (run c seed ⟨b.clauses, []⟩) d).1 = .ok o)
      q.unions rest) :
    ∃ o : Output, ExceptT.run (run c seed q) d = (.ok o, d) ∧ o.returns = true ∧
      o.table.columns = first.table.columns ++
        ((rest.flatMap (·.table.columns)).filter (· ∉ first.table.columns)).eraseDups ∧
      o.table.valueRows = unionRows (Output.lastUnion (q.unions.map Branch.all))
        ((first :: rest).map fun b => b.table.rows.map (Table.valuesIn o.table.columns)) ∧
      (seed = .unit → ExceptT.run (reply c q) d =
        (.ok (.rows (shape q) o.table.columns o.table.valueRows d.tally), d)) := by
  have hwrites := hread
  rw [QueryOf.isWrite, Bool.or_eq_false_iff] at hwrites
  have hbranches := anyWrite_eq_false hwrites.2
  have hreadFirst := readClauses_of_run hwrites.1 hrun
  have hreads : List.Forall₂ (fun b o => b ∈ q.unions ∧
      readClauses (c.on d.store) ⟨seed, false⟩ b.clauses = .ok o) q.unions rest :=
    ((List.forall₂_and_left _ _).2 ⟨fun _ => id, hruns⟩).imp
      fun b o h => ⟨h.1, readClauses_of_run (hbranches b h.1) h.2⟩
  obtain ⟨hreturns, hclosed⟩ := closed_readClauses hfirst hreadFirst
  have hclosedRest : ∀ o ∈ rest, o.table.Closed := fun o ho => by
    obtain ⟨b, -, hb, h⟩ := exists_of_forall₂ hreads ho
    exact (closed_readClauses (hunions b hb) h).2
  have hlength : (q.unions.map Branch.all).length = rest.length := by
    rw [List.length_map, hruns.length_eq]
  have hchain : ExceptT.run (run c seed q) d =
      (.ok (first.chain ((q.unions.map Branch.all).zip rest)), d) := by
    rw [run_eq_reading c hread, Edit.run_reading, read, hreadFirst]
    exact congrArg (·, d) (readBranches_eq_chain (hreads.imp fun _ _ h => h.2))
  have hall := Output.returns_chain hreturns ((q.unions.map Branch.all).zip rest)
  refine ⟨_, hchain, hall, ?_, valueRows_chain hlength hclosed hclosedRest rfl, ?_⟩
  · have hsnd : ((q.unions.map Branch.all).zip rest).map Prod.snd = rest :=
      List.map_snd_zip hlength.ge
    rw [Output.columns_chain, Table.addColumns_eq, ← List.flatMap_map Prod.snd fun o : Output =>
      o.table.columns, hsnd]
  · rintro rfl
    rw [reply, run_bind_ok hchain]
    simp only [hall, if_true]
    rfl

/-- The two zeros are one, also where the columns are in another order and with a null in place of a
missing one. A row behind the last UNION is kept. -/
theorem union_chain_zeros :
    let c : Context := ⟨[], 8, .zero⟩
    let item (v : Value) (n : String) : ProjectionItem Expr := ⟨.of (.literal v), some n, ""⟩
    let result (items : List (ProjectionItem Expr)) : List (Clause Expr) :=
      [.returnItems ⟨false, false, items, [], none, none⟩]
    let q : Query Expr := ⟨result [item (.num .zero) "x"],
      [⟨false, result [item .null "y", item (.num (.neg .zero)) "x"]⟩,
        ⟨true, result [item (.num .zero) "x"]⟩]⟩
    ∃ o, ExceptT.run (run c .unit (queryMeaning q)) ⟨{}, {}⟩ = (.ok o, ⟨{}, {}⟩) ∧
      o.table.columns = ["x", "y"] ∧
      o.table.valueRows = [[.num .zero, .null], [.num .zero, .null]] := by
  intro c item result q
  let zero : Output := ⟨⟨["x"], [[("x", .num .zero)]]⟩, true⟩
  let negative : Output := ⟨⟨["y", "x"], [[("x", .num (.neg .zero)), ("y", .null)]]⟩, true⟩
  have hends : ∀ b ∈ (queryMeaning q).unions, endsInReturn b.clauses := by
    intro b hb
    rcases List.mem_cons.1 hb with rfl | hb
    · rfl
    · obtain rfl := List.mem_singleton.1 hb
      rfl
  have hzero : (ExceptT.run (run c .unit ⟨(queryMeaning q).first, []⟩) ⟨{}, {}⟩).1 = .ok zero :=
    rfl
  have hruns : List.Forall₂
      (fun b o => (ExceptT.run (run c .unit ⟨b.clauses, []⟩) ⟨{}, {}⟩).1 = .ok o)
      (queryMeaning q).unions [negative, zero] := .cons rfl (.cons rfl .nil)
  obtain ⟨o, hrun, -, hcolumns, hrows, -⟩ := union_chain (q := queryMeaning q) rfl rfl hends c .unit
    ⟨{}, {}⟩ hzero hruns
  have hxy : o.table.columns = ["x", "y"] := hcolumns.trans (by decide)
  rw [hxy] at hrows
  exact ⟨o, hrun, hxy, hrows.trans (by decide +kernel)⟩

end Query

end PropertyGraph
