import PropertyGraph.Proofs.Query.Fed
import PropertyGraph.Proofs.Query.Union
import PropertyGraph.Proofs.Query.Walked

/-!
What a subquery exports: the names that the check declares after it, and the columns that its run
adds.

Clause by clause, the columns of a table are among the names in scope, and all of them are there but
for those that a subquery would have brought if it had had a row to run on. So what is left is the
subquery itself. The check takes its names for exported if its first part ends with RETURN. The run
exports its columns if any of its parts ends with RETURN or with a procedure.
-/

namespace PropertyGraph

open Cypher

namespace Cypher

variable {ε : Type}

/-! ### Subqueries that the check sees the result of -/

/-- If a query has a result, its first part ends with RETURN. -/
def QueryOf.announced (q : Query ε) : Bool := !q.returns || endsInReturn q.first

namespace Clause

mutual

/-- All subqueries in a clause are announced. -/
def announced : Clause ε → Bool
  | .subquery ⟨first, unions⟩ =>
    QueryOf.announced ⟨first, unions⟩ && allAnnounced first && branchesAnnounced unions
  | _ => true

def allAnnounced : List (Clause ε) → Bool
  | [] => true
  | k :: ks => k.announced && allAnnounced ks

def branchesAnnounced : List (Branch (Clause ε)) → Bool
  | [] => true
  | ⟨_, ks⟩ :: bs => allAnnounced ks && branchesAnnounced bs

end

/-- What a clause projects, if it does. -/
def projection? : Clause ε → Option (Projection ε)
  | .withItems b _ | .returnItems b => some b
  | _ => none

end Clause

/-- The subquery that a query starts with. -/
def QueryOf.leading? (q : Query ε) : Option (Query ε) :=
  match q.first with
  | .subquery p :: _ => some p
  | _ => none

/-- All subqueries inside of a query are announced. -/
def QueryOf.announcedInside (q : Query ε) : Bool :=
  Clause.allAnnounced q.first && Clause.branchesAnnounced q.unions

end Cypher

namespace Query

/-! ### Single clauses -/

/-- The names that a clause adds to its rows, unless it projects. -/
def addedNames : Clause Meaning → List String
  | .matching _ ps _ | .create ps => ps.flatMap PathPattern.names
  | .unwind _ n => [n]
  | .merge p _ _ => p.names
  | .call k => calledNames k
  | _ => []

end Query

namespace Table

/-- What a clause that holds no others makes of a table: the columns that it projects, or the names
that it adds to each row. -/
structure Steps (k : Clause Meaning) (t t' : Table) : Prop where
  projects : ∀ b ∈ k.projection?, t'.columns = Query.projectedColumns b t.columns ∧
    ∀ row ∈ t'.rows, row.Binds t'.columns
  adds : k.projection? = none → t.Adds t' (Query.addedNames k)

variable {c : Context} {env : Env} {t t' : Table}

lemma Steps.read {k : Clause Meaning} (h : Query.readStep env k t = .ok t') : t.Steps k t' := by
  cases k with
  | matching optional ps w => exact ⟨nofun, fun _ => Query.matching_adds h⟩
  | unwind x n => exact ⟨nofun, fun _ => Query.unwind_adds h⟩
  | withItems b w =>
    obtain ⟨projected, hprojected, h⟩ := bind_eq_ok.1 h
    obtain ⟨rows, hrows, h⟩ := bind_eq_ok.1 h
    cases h
    obtain ⟨hcolumns, hbinds⟩ := Query.project_binds hprojected
    refine ⟨?_, nofun⟩
    rintro _ ⟨⟩
    exact ⟨hcolumns, fun row hrow => hbinds row (Query.mem_filterRows hrows hrow)⟩
  | returnItems b =>
    refine ⟨?_, nofun⟩
    rintro _ ⟨⟩
    exact Query.project_binds h
  | call k => exact ⟨nofun, fun _ => Query.call_adds h⟩
  | _ => cases h

lemma steps_runLeaf (t : Table) (k : Clause Meaning) :
    Edit.Gives (Query.runLeaf c t k) (t.Steps k) := by
  rw [Query.runLeaf]
  split_ifs with hk
  · refine .bind (Query.writeClause_extended k t.rows) fun rows hrows => .pure ?_
    have hadds : t.Adds ({ t with rows }.declare (Query.writtenNames k)) (Query.writtenNames k) :=
      ⟨rfl, hrows.2⟩
    cases k with
    | create | merge | set | remove | delete | foreach | subquery =>
      exact ⟨nofun, fun _ => hadds⟩
    | _ => cases hk
  · exact .reading fun s t' _ h => .read h

/-! ### Closed tables -/

lemma closed_unit : unit.Closed := by
  intro row hrow n hn
  obtain rfl := List.mem_singleton.1 hrow
  cases hn

lemma closed_ofRow (row : Row) : (ofRow row).Closed := by
  intro row' hrow n hn
  obtain rfl := List.mem_singleton.1 hrow
  exact Row.mem_keys.2 hn

lemma Closed.adds (h : t.Closed) {names : List String} (ht : t.Adds t' names) : t'.Closed := by
  intro row' hrow n hn
  obtain ⟨row, hmem, hext⟩ := ht.rows row' hrow
  rw [ht.columns, mem_addColumns]
  exact ((hext.contains n).1 hn).imp_left (h row hmem n)

lemma Closed.steps (h : t.Closed) {k : Clause Meaning} (ht : t.Steps k t') : t'.Closed := by
  cases hk : k.projection? with
  | none => exact h.adds (ht.adds hk)
  | some b => exact fun row hrow n hn => (((ht.projects b hk).2 row hrow).contains n).1 hn

lemma Closed.join (h : t.Closed) {joined : List (Row × Output)}
    (hjoined : ∀ e ∈ joined, e.1 ∈ t.rows) :
    Closed ⟨joined.foldl (fun cs e => Output.joinColumns cs e.2) t.columns,
      joined.flatMap fun e => Output.joinRows e.1 e.2⟩ := by
  intro row hrow n hn
  obtain ⟨e, he, hrow⟩ := List.mem_flatMap.1 hrow
  refine mem_foldl_joinColumns.2 ?_
  rw [(Row.joinRows_extended hrow).contains] at hn
  refine hn.imp (h e.1 (hjoined e he) n) fun hn => ⟨e, he, ?_⟩
  split_ifs at hn with hreturns
  · exact ⟨hreturns, hn⟩
  · cases hn

/-- A subquery joins the rows of a table with outputs. -/
lemma joins_runSubquery (t : Table) (q : Query Meaning) :
    Edit.Gives (Query.runClause c t (.subquery q)) fun t' =>
      ∃ joined : List (Row × Output), (∀ e ∈ joined, e.1 ∈ t.rows) ∧
        t' = ⟨joined.foldl (fun cs e => Output.joinColumns cs e.2) t.columns,
          joined.flatMap fun e => Output.joinRows e.1 e.2⟩ := by
  obtain ⟨first, unions⟩ := q
  rw [Query.runClause]
  refine .bind (.mapM_forall₂ (P := fun row e => e.1 = row) fun row _ => ?_) fun joined hjoined =>
    .pure ⟨joined, fun e he => ?_, rfl⟩
  · exact .after fun o => .pure rfl
  · obtain ⟨row, hrow, rfl⟩ := exists_of_forall₂ hjoined he
    exact hrow

/-- **A run keeps tables closed.** -/
theorem Closed.runClause (h : t.Closed) (k : Clause Meaning) :
    Edit.Gives (Query.runClause c t k) Closed := by
  cases k with
  | subquery q =>
    refine (joins_runSubquery t q).imp ?_
    rintro _ ⟨joined, hjoined, rfl⟩
    exact h.join hjoined
  | _ =>
    rw [Query.runClause_eq_walk]
    exact (steps_runLeaf t _).imp fun t' ht => h.steps ht

end Table

/-! ### Names in scope -/

/-- The names that a subquery exports, as the check sees it. -/
lemma Cypher.Scope.mem_after_subquery {s s' : Scope} {q : Query Check}
    (h : Scope.after s (.subquery q) = .ok s') :
    ∃ r, Scope.afterQuery s q = .ok r ∧ ∀ n, n ∈ s' ↔ n ∈ s ∨ endsInReturn q.first ∧ n ∈ r := by
  obtain ⟨first, unions⟩ := q
  rw [Scope.after] at h
  obtain ⟨s₁, hfirst, h⟩ := bind_eq_ok.1 h
  obtain ⟨r, hunions, h⟩ := bind_eq_ok.1 h
  refine ⟨r, ?_, fun n => ?_⟩
  · rw [Scope.afterQuery, hfirst]
    exact hunions
  · split_ifs at h with hends
    · cases h
      simp [Scope.mem_declare, hends]
    · cases h
      simp [hends]

namespace Guarded

variable {s s' : Scope} {k : Clause Guarded}

lemma columns_map {δ : Type} (f : Guarded → δ) (b : Projection Guarded) :
    (b.map f).items.map ProjectionItem.column = b.items.map ProjectionItem.column := by
  simp only [Projection.map, List.map_map]
  rfl

/-- The scope after a clause that holds no others: the names that it projects, or those that it adds
to the scope before. -/
lemma mem_after (hk : ∀ q, k ≠ .subquery q) (h : Scope.after s (k.map check) = .ok s') :
    (∀ b ∈ (k.map plain).projection?, ∀ n,
      n ∈ s' ↔ n ∈ b.items.map ProjectionItem.column ∨ b.star ∧ n ∈ s) ∧
    ((k.map plain).projection? = none → ∀ n,
      n ∈ s' ↔ n ∈ s ∨ n ∈ Query.addedNames (k.map plain)) := by
  cases k with
  | matching optional ps w =>
    obtain ⟨rfl, -⟩ := after_matching h
    refine ⟨nofun, fun _ n => ?_⟩
    rw [Clause.map, Query.addedNames, names_map, Scope.mem_declare]
  | unwind x m =>
    obtain ⟨rfl, -⟩ := after_unwind h
    exact ⟨nofun, fun _ n => Scope.mem_declare⟩
  | withItems b w =>
    refine ⟨?_, nofun⟩
    rintro _ ⟨⟩ n
    rw [columns_map]
    exact mem_afterProjection (after_withItems h).1
  | returnItems b =>
    refine ⟨?_, nofun⟩
    rintro _ ⟨⟩ n
    rw [columns_map]
    exact mem_afterProjection h
  | create ps =>
    obtain ⟨⟨⟩, -, h⟩ := bind_eq_ok.1 h
    cases h
    refine ⟨nofun, fun _ n => ?_⟩
    rw [Clause.map, Query.addedNames, Scope.mem_declare, Scope.patternNames, names_map, names_map]
  | merge p c m =>
    obtain ⟨⟨⟩, -, h⟩ := bind_eq_ok.1 h
    obtain ⟨⟨⟩, -, h⟩ := bind_eq_ok.1 h
    cases h
    refine ⟨nofun, fun _ n => ?_⟩
    rw [Clause.map, Query.addedNames, Scope.mem_declare, PathPattern.names_map,
      PathPattern.names_map]
  | call c =>
    obtain ⟨rfl, -⟩ := after_call h
    exact ⟨nofun, fun _ n => Scope.mem_declare⟩
  | foreach m x cs =>
    obtain ⟨⟨⟩, -, h⟩ := bind_eq_ok.1 h
    obtain ⟨s'', -, h⟩ := bind_eq_ok.1 h
    cases h
    exact ⟨nofun, fun _ n => by simp [Clause.map, Query.addedNames]⟩
  | set | remove | delete =>
    obtain ⟨⟨⟩, -, h⟩ := bind_eq_ok.1 h
    cases h
    exact ⟨nofun, fun _ n => by simp [Clause.map, Query.addedNames]⟩
  | subquery q => exact absurd rfl (hk q)

end Guarded

/-! ### Columns and names in scope -/

namespace Table

variable {c : Context} {bare : Option Error} {t t' : Table} {base s s' r : Scope} {fed : Prop}

/-- A closed table shows a scope: its columns are among the names. If each subquery has had a row,
they are all of them, but for some that are there anyway. -/
structure Shows (t : Table) (base s : List String) (fed : Prop) : Prop where
  columns : t.columns ⊆ s
  all : fed → ∀ n ∈ s, n ∈ base ∨ n ∈ t.columns
  closed : t.Closed

namespace Shows

lemma of_mem_iff (h : t.Closed) (hs : ∀ n, n ∈ s ↔ n ∈ t.columns) : t.Shows [] s fed where
  columns n hn := (hs n).2 hn
  all _ n hn := .inr ((hs n).1 hn)
  closed := h

/-- A subquery starts in the scope around it, from a row that need not bind all of it. -/
lemma ofRow (h : t.Shows base s fed) {row : Row} (hrow : row ∈ t.rows) :
    (Table.ofRow row).Shows s s fed where
  columns n hn := h.columns (h.closed row hrow n (Row.mem_keys.1 hn))
  all _ _ hn := .inl hn
  closed := closed_ofRow row

/-- **A clause that holds no others** leaves a table that shows the scope after it. -/
lemma steps (h : t.Shows base s fed) {k : Clause Guarded} (hk : ∀ q, k ≠ .subquery q)
    (hcheck : Scope.after s (k.map Guarded.check) = .ok s')
    (ht : t.Steps (k.map Guarded.plain) t') : t'.Shows base s' fed := by
  obtain ⟨hprojects, hadds⟩ := Guarded.mem_after hk hcheck
  cases hp : (k.map Guarded.plain).projection? with
  | none =>
    have ht' := ht.adds hp
    refine ⟨fun n hn => ?_, fun hfed n hn => ?_, h.closed.steps ht⟩
    · rw [ht'.columns, mem_addColumns] at hn
      exact (hadds hp n).2 (hn.imp_left fun hn => h.columns hn)
    · rw [ht'.columns, mem_addColumns, ← or_assoc]
      exact ((hadds hp n).1 hn).imp_left (h.all hfed n)
  | some b =>
    have hmem (n : String) : n ∈ t'.columns ↔
        n ∈ b.items.map ProjectionItem.column ∨ b.star ∧ n ∈ t.columns := by
      rw [(ht.projects b hp).1, Binds.mem_projectedColumns]
    refine ⟨fun n hn => ?_, fun hfed n hn => ?_, h.closed.steps ht⟩
    · exact (hprojects b hp n).2 (((hmem n).1 hn).imp_right fun hn => ⟨hn.1, h.columns hn.2⟩)
    · rw [hmem]
      obtain hn | ⟨hstar, hn⟩ := (hprojects b hp n).1 hn
      · exact .inr (.inl hn)
      · exact (h.all hfed n hn).imp_right fun hn => .inr ⟨hstar, hn⟩

lemma union {o o' : Output} (h : o.table.Shows base r fed) (h' : o'.table.Shows base s fed)
    (all : Bool) : (o.union all o').table.Shows base (r.declare s) fed where
  columns n hn := by
    rw [Scope.mem_declare]
    rw [Output.columns_union, mem_addColumns] at hn
    exact hn.imp (fun hn => h.columns hn) fun hn => h'.columns hn
  all hfed n hn := by
    rw [Output.columns_union, mem_addColumns]
    obtain hn | hn := Scope.mem_declare.1 hn
    · exact (h.all hfed n hn).imp_right .inl
    · exact (h'.all hfed n hn).imp_right .inr
  closed := Output.closed_union h.closed h'.closed all

end Shows

/-- A table after a subquery whose result shows scope `r` for a row in scope `s`. -/
structure Joins (t t' : Table) (s r : Scope) (returns : Bool) (fed : Prop) : Prop where
  keeps : t.columns ⊆ t'.columns
  brings : ∀ n ∈ t'.columns, n ∈ t.columns ∨ returns ∧ n ∈ r
  all : fed → returns → ∀ n ∈ r, n ∈ s ∨ n ∈ t'.columns
  closed : t'.Closed

lemma joins_of_forall₂ (h : t.Closed) {returns : Bool} {joined : List (Row × Output)}
    (hjoined : List.Forall₂ (fun row e => e.1 = row ∧ e.2.returns = returns ∧
      e.2.table.Shows s r fed) t.rows joined) (hfed : fed → t.rows ≠ []) :
    t.Joins ⟨joined.foldl (fun cs e => Output.joinColumns cs e.2) t.columns,
      joined.flatMap fun e => Output.joinRows e.1 e.2⟩ s r returns fed := by
  have hinner : ∀ e ∈ joined, e.1 ∈ t.rows ∧ e.2.returns = returns ∧ e.2.table.Shows s r fed := by
    intro e he
    obtain ⟨row, hrow, rfl, he⟩ := exists_of_forall₂ hjoined he
    exact ⟨hrow, he⟩
  refine ⟨fun n hn => mem_foldl_joinColumns.2 (.inl hn), fun n hn => ?_, fun hf hr n hn => ?_,
    h.join fun e he => (hinner e he).1⟩
  · refine (mem_foldl_joinColumns.1 hn).imp_right ?_
    rintro ⟨e, he, hreturns, hn⟩
    obtain ⟨-, hr, hshows⟩ := hinner e he
    exact ⟨hr ▸ hreturns, hshows.columns hn⟩
  · obtain ⟨row, rows, hrows⟩ := List.exists_cons_of_ne_nil (hfed hf)
    rw [hrows] at hjoined
    obtain ⟨e, rest, -, -, rfl⟩ := List.forall₂_cons_left_iff.1 hjoined
    obtain ⟨-, hreturns, hshows⟩ := hinner e List.mem_cons_self
    exact (hshows.all hf n hn).imp_right fun hn =>
      mem_foldl_joinColumns.2 (.inr ⟨e, List.mem_cons_self, hreturns.trans hr, hn⟩)

/-- **A subquery whose result is announced** leaves a table that shows the scope after it. -/
lemma Joins.shows {returns ends : Bool} (ht : t.Joins t' s r returns fed) (h : t.Shows base s fed)
    (hs' : ∀ n, n ∈ s' ↔ n ∈ s ∨ ends ∧ n ∈ r) (hends : returns = ends) :
    t'.Shows base s' fed where
  columns n hn := (hs' n).2 <| hends ▸ (ht.brings n hn).imp_left fun hn => h.columns hn
  all hfed n hn := by
    have hkept (hn : n ∈ s) : n ∈ base ∨ n ∈ t'.columns :=
      (h.all hfed n hn).imp_right fun hn => ht.keeps hn
    obtain hn | ⟨he, hn⟩ := (hs' n).1 hn
    · exact hkept hn
    · exact (ht.all hfed (hends.trans he) n hn).elim hkept .inr
  closed := ht.closed

/-- **When the scope is the columns**: if the result is announced, or brings nothing new. -/
lemma Joins.agrees {returns ends : Bool} (h : t.Joins t' s r returns True)
    (hs : ∀ n, n ∈ s ↔ n ∈ t.columns) (hs' : ∀ n, n ∈ s' ↔ n ∈ s ∨ ends ∧ n ∈ r)
    (hends : ends → returns) : (∀ n, n ∈ s' ↔ n ∈ t'.columns) ↔ returns = ends ∨ r ⊆ s := by
  have hkeeps {n : String} (hn : n ∈ s) : n ∈ t'.columns := h.keeps ((hs n).1 hn)
  have hbrings {n : String} (hn : n ∈ t'.columns) : n ∈ s ∨ returns ∧ n ∈ r := by
    rw [hs]
    exact h.brings n hn
  have hall {n : String} (hr : returns) (hn : n ∈ r) : n ∈ t'.columns :=
    (h.all trivial hr n hn).elim hkeeps id
  simp only [hs']
  refine ⟨fun hiff => or_iff_not_imp_left.2 fun hne n hn => ?_, ?_⟩
  · obtain ⟨hr, he⟩ : returns ∧ ¬ ends := by
      revert hne hends
      cases returns <;> cases ends <;> simp
    exact ((hiff n).2 (hall hr hn)).resolve_right fun hn => he hn.1
  · rintro (rfl | hsubset) n
    · exact ⟨fun hn => hn.elim hkeeps fun hn => hall hn.1 hn.2, hbrings⟩
    · exact ⟨fun hn => hkeeps (hn.elim id fun hn => hsubset hn.2),
        fun hn => .inl ((hbrings hn).elim id fun hn => hsubset hn.2)⟩

lemma joins_fedClause (h : t.Shows base s bare.isSome) {first : List (Clause Meaning)}
    {unions : List (Branch (Clause Meaning))} {returns : Bool}
    (hinner : ∀ row ∈ t.rows, Edit.Gives (do
      let o ← Query.fedClauses c bare ⟨.ofRow row, false⟩ first
      Query.fedBranches c bare (.ofRow row) o unions) fun o =>
        o.table.Shows s r bare.isSome ∧ o.returns = returns) :
    Edit.Gives (Query.fedClause c bare t (.subquery ⟨first, unions⟩))
      fun t' => t.Joins t' s r returns bare.isSome := by
  rw [Query.fedClause]
  refine .bind Query.feed_gives fun _ hfed => .bind (.mapM_forall₂ fun row hrow => ?_)
    fun joined hjoined => .pure (joins_of_forall₂ h.closed hjoined hfed)
  exact .bind (hinner row hrow) fun o ho => .pure ⟨rfl, ho.2, ho.1⟩

end Table

namespace Guarded

variable {c : Context} {bare : Option Error}

lemma announced_iff {ε : Type} (q : Query ε) : q.announced ↔ q.returns = endsInReturn q.first := by
  have hends : endsInReturn q.first → q.returns := fun h => returns_of_endsInReturn h q.unions
  rw [QueryOf.announced]
  revert hends
  cases endsInReturn q.first <;> cases q.returns <;> simp

mutual

/-- **The table after a clause** shows the scope after it, if all its subqueries are announced. -/
theorem shows_fedClause {t : Table} {base : List String} {s s' : Scope} {k : Clause Guarded}
    (hk : k.announced) (hcheck : Scope.after s (k.map check) = .ok s')
    (h : t.Shows base s bare.isSome) :
    Edit.Gives (Query.fedClause c bare t (k.map plain)) (·.Shows base s' bare.isSome) := by
  match k with
  | .subquery ⟨first, unions⟩ =>
    simp only [Clause.announced, Bool.and_eq_true] at hk
    obtain ⟨⟨hannounced, hfirst⟩, hunions⟩ := hk
    rw [Clause.map] at hcheck
    obtain ⟨r, hr, hs'⟩ := Scope.mem_after_subquery hcheck
    obtain ⟨s₁, hs₁, hr⟩ := bind_eq_ok.1 hr
    simp only [endsInReturn_mapAll] at hs'
    refine (Table.joins_fedClause h fun row hrow => ?_).imp fun t' ht =>
      ht.shows h hs' ((announced_iff _).1 hannounced)
    have hseed := h.ofRow hrow
    refine .bind (shows_fedClauses (o := ⟨.ofRow row, false⟩) hfirst hs₁ hseed) fun o ho => ?_
    exact (shows_fedBranches hunions hr hseed ho.1).imp fun o' ho' =>
      ⟨ho'.1, by rw [ho'.2, ho.2, returns_eq]⟩
  | .matching .. | .unwind .. | .withItems .. | .returnItems .. | .create .. | .merge .. | .set ..
  | .remove .. | .delete .. | .foreach .. | .call .. =>
    exact (Table.steps_runLeaf t _).imp fun t' ht => h.steps (by rintro _ ⟨⟩) hcheck ht

theorem shows_fedClauses {o : Output} {base : List String} {s s' : Scope}
    {ks : List (Clause Guarded)} (hk : Clause.allAnnounced ks)
    (hcheck : Scope.afterAll s (Clause.mapAll check ks) = .ok s')
    (h : o.table.Shows base s bare.isSome) :
    Edit.Gives (Query.fedClauses c bare o (Clause.mapAll plain ks)) fun o' =>
      o'.table.Shows base s' bare.isSome ∧ o'.returns = returnsAfter o.returns ks := by
  match ks with
  | [] =>
    cases hcheck
    exact .pure ⟨h, rfl⟩
  | k :: ks =>
    rw [Clause.allAnnounced, Bool.and_eq_true] at hk
    obtain ⟨s₁, hfirst, hrest⟩ := bind_eq_ok.1 hcheck
    simp only [Clause.mapAll, Query.fedClauses, makesResult_map, returnsAfter_cons]
    refine .bind (shows_fedClause hk.1 hfirst h) fun t' ht => ?_
    exact shows_fedClauses (o := ⟨t', k.makesResult⟩) hk.2 hrest ht

theorem shows_fedBranches {seed : Table} {o : Output} {base : List String} {s r r' : Scope}
    {bs : List (Branch (Clause Guarded))} (hb : Clause.branchesAnnounced bs)
    (hcheck : Scope.afterBranches s r (Clause.mapBranches check bs) = .ok r')
    (hseed : seed.Shows base s bare.isSome) (h : o.table.Shows base r bare.isSome) :
    Edit.Gives (Query.fedBranches c bare seed o (Clause.mapBranches plain bs)) fun o' =>
      o'.table.Shows base r' bare.isSome ∧
        o'.returns = (o.returns || bs.any fun b => returnsAfter false b.clauses) := by
  match bs with
  | [] =>
    cases hcheck
    exact .pure ⟨h, (Bool.or_false _).symm⟩
  | ⟨all, ks⟩ :: bs =>
    rw [Clause.branchesAnnounced, Bool.and_eq_true] at hb
    obtain ⟨more, hks, hbs⟩ := bind_eq_ok.1 hcheck
    simp only [Clause.mapBranches, Query.fedBranches]
    refine .bind (shows_fedClauses hb.1 hks hseed) fun o' ho' => ?_
    refine (shows_fedBranches hb.2 hbs hseed (h.union ho'.1 all)).imp fun o'' ho'' =>
      ⟨ho''.1, ?_⟩
    rw [ho''.2, Output.union, ho'.2, List.any_cons, Bool.or_assoc]

end

/-- **The output of a query** shows the scope after it. -/
theorem shows_fedQuery {seed : Table} {base : List String} {s s₁ r : Scope}
    {first : List (Clause Guarded)} {unions : List (Branch (Clause Guarded))}
    (hfirst : Clause.allAnnounced first) (hunions : Clause.branchesAnnounced unions)
    (hs₁ : Scope.afterAll s (Clause.mapAll check first) = .ok s₁)
    (hr : Scope.afterBranches s s₁ (Clause.mapBranches check unions) = .ok r)
    (h : seed.Shows base s bare.isSome) :
    Edit.Gives (do
      let o ← Query.fedClauses c bare ⟨seed, false⟩ (Clause.mapAll plain first)
      Query.fedBranches c bare seed o (Clause.mapBranches plain unions)) fun o =>
        o.table.Shows base r bare.isSome ∧ o.returns = QueryOf.returns ⟨first, unions⟩ := by
  refine .bind (shows_fedClauses (o := ⟨seed, false⟩) hfirst hs₁ h) fun o ho => ?_
  exact (shows_fedBranches hunions hr h ho.1).imp fun o' ho' =>
    ⟨ho'.1, by rw [ho'.2, ho.2, returns_eq]⟩

end Guarded

/-! ### Expressions -/

namespace Cypher.Expr

variable {δ : Type} (f : Layer δ → δ)

lemma getLast?_foldClauses (ks : List (Clause Expr)) :
    (foldClauses f ks).getLast? = ks.getLast?.map (foldClause f) := by
  rw [foldClauses_eq_map, List.getLast?_map]

lemma endsInReturn_foldClauses (ks : List (Clause Expr)) :
    endsInReturn (foldClauses f ks) = endsInReturn ks := by
  have hfold (k : Clause Expr) : (foldClause f k).isReturn = k.isReturn := by cases k <;> rfl
  rw [endsInReturn, endsInReturn, getLast?_foldClauses, Option.any_map]
  simp only [hfold]

lemma returns_foldQuery (q : Query Expr) : (foldQuery f q).returns = q.returns := by
  have hfold (k : Clause Expr) : (foldClause f k).makesResult = k.makesResult := by cases k <;> rfl
  have hlast (ks : List (Clause Expr)) : (foldClauses f ks).getLast?.any Clause.makesResult =
      ks.getLast?.any Clause.makesResult := by
    rw [getLast?_foldClauses, Option.any_map]
    simp only [hfold]
  have hunions (bs : List (Branch (Clause Expr))) :
      ((foldBranchQueries f bs).any fun b => b.clauses.getLast?.any Clause.makesResult) =
        bs.any fun b => b.clauses.getLast?.any Clause.makesResult := by
    induction bs with
    | nil => rfl
    | cons b bs ih => rw [foldBranchQueries, List.any_cons, List.any_cons, hlast, ih]
  cases q
  rw [foldQuery, QueryOf.returns, QueryOf.returns, hlast, hunions]

lemma announced_foldQuery (q : Query Expr) : (foldQuery f q).announced = q.announced := by
  rw [QueryOf.announced, QueryOf.announced, returns_foldQuery]
  cases q
  rw [foldQuery, endsInReturn_foldClauses]

mutual

lemma announced_foldClause (k : Clause Expr) : (foldClause f k).announced = k.announced := by
  match k with
  | .subquery ⟨first, unions⟩ =>
    have hq := announced_foldQuery f ⟨first, unions⟩
    rw [foldQuery] at hq
    rw [foldClause, foldQuery, Clause.announced, Clause.announced, hq, allAnnounced_foldClauses,
      branchesAnnounced_foldBranchQueries]
  | .matching .. | .unwind .. | .withItems .. | .returnItems .. | .create .. | .merge .. | .set ..
  | .remove .. | .delete .. | .foreach .. | .call .. => rfl

lemma allAnnounced_foldClauses (ks : List (Clause Expr)) :
    Clause.allAnnounced (foldClauses f ks) = Clause.allAnnounced ks := by
  match ks with
  | [] => rfl
  | k :: ks =>
    rw [foldClauses, Clause.allAnnounced, Clause.allAnnounced, announced_foldClause,
      allAnnounced_foldClauses]

lemma branchesAnnounced_foldBranchQueries (bs : List (Branch (Clause Expr))) :
    Clause.branchesAnnounced (foldBranchQueries f bs) = Clause.branchesAnnounced bs := by
  match bs with
  | [] => rfl
  | ⟨all, ks⟩ :: bs =>
    rw [foldBranchQueries, Clause.branchesAnnounced, Clause.branchesAnnounced,
      allAnnounced_foldClauses, branchesAnnounced_foldBranchQueries]

end

lemma announcedInside_foldQuery (q : Query Expr) :
    (foldQuery f q).announcedInside = q.announcedInside := by
  cases q
  rw [foldQuery, QueryOf.announcedInside, QueryOf.announcedInside, allAnnounced_foldClauses,
    branchesAnnounced_foldBranchQueries]

end Cypher.Expr

/-! ### Subqueries -/

/-- A clause as it is checked. -/
def Cypher.clauseCheck : Clause Expr → Clause Check := Expr.foldClause Scope.checkLayer

/-- A clause as it is run. -/
def Cypher.clauseMeaning : Clause Expr → Clause Meaning := Expr.foldClause Meaning.ofLayer

namespace Query

variable {c : Context} {q : Query Expr} {s s' r : Scope} {t t' : Table} {d d' : Draft}

lemma joins_of_announcedInside {bare : Option Error} (hq : q.announcedInside)
    (h : t.Shows [] s bare.isSome)
    (hr : Scope.afterQuery s (Expr.foldQuery Scope.checkLayer q) = .ok r) :
    Edit.Gives (fedClause c bare t (clauseMeaning (.subquery q)))
      fun t' => t.Joins t' s r q.returns bare.isSome := by
  rw [← Expr.announcedInside_foldQuery Guarded.ofLayer, ← guardedQuery] at hq
  rw [← map_check_guardedQuery] at hr
  rw [← Expr.returns_foldQuery Guarded.ofLayer, ← guardedQuery, clauseMeaning,
    Expr.foldClause, show Expr.foldQuery Meaning.ofLayer q = _ from (map_plain_guardedQuery q).symm]
  generalize guardedQuery q = p at hq hr ⊢
  obtain ⟨first, unions⟩ := p
  rw [QueryOf.announcedInside, Bool.and_eq_true] at hq
  obtain ⟨s₁, hfirst, hunions⟩ := bind_eq_ok.1 hr
  exact Table.joins_fedClause h fun row hrow =>
    Guarded.shows_fedQuery hq.1 hq.2 hfirst hunions (h.ofRow hrow)

/-- **What a subquery exports.** If its result is announced, the columns after it are in scope. If
it and all subqueries inside of it have rows to run on, the names in scope are the columns exactly
if the result is announced or brings no name that is new. -/
theorem columns_of_subquery (e : Error) (ht : t.Closed) (hs : ∀ n, n ∈ s ↔ n ∈ t.columns)
    (hinside : q.announcedInside) (hcheck : Scope.after s (clauseCheck (.subquery q)) = .ok s')
    (hr : Scope.afterQuery s (Expr.foldQuery Scope.checkLayer q) = .ok r)
    (hrun : ExceptT.run (runClause c t (clauseMeaning (.subquery q))) d = (.ok t', d')) :
    (q.announced → t'.columns ⊆ s') ∧
    ((ExceptT.run (fedClause c (some e) t (clauseMeaning (.subquery q))) d).1.isOk →
      ((∀ n, n ∈ s' ↔ n ∈ t'.columns) ↔ q.announced ∨ r ⊆ s)) := by
  rw [clauseCheck, Expr.foldClause] at hcheck
  obtain ⟨r', hr', hs'⟩ := Scope.mem_after_subquery hcheck
  obtain rfl := Except.ok.inj (hr'.symm.trans hr)
  have hends : endsInReturn (Expr.foldQuery Scope.checkLayer q).first = endsInReturn q.first := by
    cases q
    exact Expr.endsInReturn_foldClauses _ _
  rw [hends] at hs'
  have hjoins (bare : Option Error)
      (h : (ExceptT.run (fedClause c bare t (clauseMeaning (.subquery q))) d).1 = .ok t') :
      t.Joins t' s r' q.returns bare.isSome :=
    (joins_of_announcedInside hinside (.of_mem_iff ht hs) hr d trivial).2 t' h
  refine ⟨fun hq n hn => ?_, fun hfed => ?_⟩
  · have h := hjoins none (by rw [fedClause_none, hrun])
    rw [hs', hs]
    exact (h.brings n hn).imp_right fun hn => ((Guarded.announced_iff q).1 hq) ▸ hn
  · have h : t.Joins t' s r' q.returns True := by
      rcases hout : ExceptT.run (fedClause c (some e) t _) d with ⟨x | u, d₁⟩
      · rw [hout] at hfed
        cases hfed
      · have hsame := fedClause_refines t _ d u d₁ hout
        rw [hrun] at hsame
        cases hsame
        simpa using hjoins (some e) (by rw [hout])
    rw [Guarded.announced_iff]
    exact h.agrees hs hs' fun hends => Guarded.returns_of_endsInReturn hends q.unions

/-- A union in a subquery in another one, run for each of two rows. -/
theorem columns_of_subquery_nested :
    let text := "CALL \x7b CALL \x7b UNWIND [i] AS j RETURN j UNION RETURN 0 AS j \x7d " ++
      "RETURN j, 'a' AS k \x7d RETURN *"
    let c : Context := ⟨[], 8, .zero⟩
    let s : Scope := ["i"]
    let t : Table := ⟨["i"], [[("i", .bool true)], [("i", .null)]]⟩
    ∃ p q s' t' d', Cypher.parse text = .ok [.query p] ∧ p.leading? = some q ∧
      t.Closed ∧ (∀ n, n ∈ s ↔ n ∈ t.columns) ∧ q.announcedInside ∧
      Scope.after s (clauseCheck (.subquery q)) = .ok s' ∧
      ExceptT.run (runClause c t (clauseMeaning (.subquery q))) ⟨{}, {}⟩ = (.ok t', d') ∧
      ∀ n, n ∈ s' ↔ n ∈ t'.columns := by
  intro text c s t
  let e : Error := .scope .emptyProjection
  let run (q : Query Expr) := ExceptT.run (runClause c t (clauseMeaning (.subquery q))) ⟨{}, {}⟩
  let fed (q : Query Expr) :=
    ExceptT.run (fedClause c (some e) t (clauseMeaning (.subquery q))) ⟨{}, {}⟩
  have h : ((soleQuery? text).any fun p => p.leading?.any fun q =>
      q.announcedInside && q.announced &&
        (Scope.after s (clauseCheck (.subquery q))).toOption.isSome &&
        (Scope.afterQuery s (Expr.foldQuery Scope.checkLayer q)).toOption.isSome &&
        (run q).1.toOption.isSome && (fed q).1.isOk) = true := by decide +kernel
  have hclosed : t.Closed := by
    intro row hrow n hn
    have hkeys : ∀ row ∈ t.rows, Dict.keys row ⊆ t.columns := by decide
    exact hkeys row hrow (Row.mem_keys.2 hn)
  obtain ⟨p, hp, h⟩ := (Option.any_eq_true _ _).1 h
  obtain ⟨q, hq, h⟩ := (Option.any_eq_true _ _).1 h
  simp only [Bool.and_eq_true, Option.isSome_iff_exists (x := Except.toOption _)] at h
  obtain ⟨⟨⟨⟨⟨hinside, hannounced⟩, s', hs'⟩, r, hr⟩, t', ht'⟩, hfed⟩ := h
  have hs' := toOption_eq_some.1 hs'
  have hrun : run q = (.ok t', (run q).2) := Prod.ext (toOption_eq_some.1 ht') rfl
  have hcolumns := columns_of_subquery e hclosed (fun n => Iff.rfl) hinside hs'
    (toOption_eq_some.1 hr) hrun
  exact ⟨p, q, s', t', _, parse_of_soleQuery? hp, hq, hclosed, fun n => Iff.rfl, hinside, hs',
    hrun, (hcolumns.2 hfed).2 (.inl hannounced)⟩

/-- The check does not see the result of a union whose first part has none. -/
theorem not_columns_of_subquery_of_union :
    ¬ ∀ (text : String) (p q : Query Expr) (c : Context) (s s' : Scope) (t t' : Table)
      (d d' : Draft), Cypher.parse text = .ok [.query p] → p.leading? = some q →
        t.Closed → t.rows ≠ [] → (∀ n, n ∈ s ↔ n ∈ t.columns) →
        Scope.after s (clauseCheck (.subquery q)) = .ok s' →
        ExceptT.run (runClause c t (clauseMeaning (.subquery q))) d = (.ok t', d') →
        ∀ n, n ∈ s' ↔ n ∈ t'.columns := by
  intro hall
  let text := "CALL \x7b CREATE (:A) UNION RETURN 1 AS x \x7d RETURN *"
  let c : Context := ⟨[], 8, .zero⟩
  let run (q : Query Expr) :=
    ExceptT.run (runClause c .unit (clauseMeaning (.subquery q))) ⟨{}, {}⟩
  have h : ((soleQuery? text).any fun p => p.leading?.any fun q =>
      (Scope.after [] (clauseCheck (.subquery q))).toOption == some [] &&
        (run q).1.toOption.any (·.columns == ["x"])) = true := by decide +kernel
  obtain ⟨p, hp, h⟩ := (Option.any_eq_true _ _).1 h
  obtain ⟨q, hq, h⟩ := (Option.any_eq_true _ _).1 h
  rw [Bool.and_eq_true, beq_iff_eq, Option.any_eq_true] at h
  obtain ⟨hs', t', ht', hcolumns⟩ := h
  have hrun : run q = (.ok t', (run q).2) := Prod.ext (toOption_eq_some.1 ht') rfl
  have hmem := hall text p q c [] [] .unit t' _ _ (parse_of_soleQuery? hp) hq Table.closed_unit
    (List.cons_ne_nil _ _) (fun n => Iff.rfl) (toOption_eq_some.1 hs') hrun "x"
  rw [beq_iff_eq.1 hcolumns] at hmem
  simp at hmem

end Query

end PropertyGraph
