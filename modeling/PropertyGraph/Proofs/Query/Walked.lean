import PropertyGraph.Proofs.Query.Outline
import PropertyGraph.Proofs.Query.Stepped

/-!
Whole queries, from what their clauses do.

If two ways to go through clauses without others do the same where a scope is bound, they do the
same for whole queries that pass the check and are ordered. The induction is on the clauses; what it
carries is which names the rows bind. A subquery starts from one row, and what it gives is joined to
the rows with the names that all its outputs have in common.
-/

namespace PropertyGraph

open Cypher

namespace Table

variable {t : Table} {names inner : List String} {known : Bool}

/-! ### Unions and subqueries -/

lemma Heads.union {o o' : Output} {names' : List String} (h : o.table.Heads names true)
    (h' : o'.table.Heads names' true) (all : Bool) :
    (o.union all o').table.Heads (names ++ names') true := by
  refine ⟨fun n hn => ?_, fun _ n hn => ?_⟩
  · rw [Output.columns_union, mem_addColumns] at hn
    exact List.mem_append.2 (hn.imp (fun h₁ => h.columns h₁) fun h₁ => h'.columns h₁)
  · rw [Output.columns_union, mem_addColumns]
    exact (List.mem_append.1 hn).imp (fun h₁ => h.all (.inl rfl) h₁) fun h₁ => h'.all (.inl rfl) h₁

lemma binds_ofRow {row : Row} (h : ∀ n, Dict.contains row n ↔ n ∈ names) :
    (ofRow row).Binds names true where
  columns n hn := (h n).1 (Row.mem_keys.1 hn)
  all _ n hn := Row.mem_keys.2 ((h n).2 hn)
  rows row' hrow := by
    obtain rfl := List.mem_singleton.1 hrow
    exact h

lemma binds_unit : unit.Binds [] true where
  columns := List.Subset.refl _
  all _ := List.Subset.refl _
  rows row hrow n := by
    obtain rfl := List.mem_singleton.1 hrow
    simp [Dict.contains]

lemma mem_foldl_joinColumns {joined : List (Row × Output)} {columns : List String} {n : String} :
    n ∈ joined.foldl (fun cs e => Output.joinColumns cs e.2) columns ↔
      n ∈ columns ∨ ∃ e ∈ joined, e.2.returns ∧ n ∈ e.2.table.columns := by
  induction joined generalizing columns with
  | nil => simp
  | cons e joined ih =>
    have hstep : n ∈ Output.joinColumns columns e.2 ↔
        n ∈ columns ∨ e.2.returns ∧ n ∈ e.2.table.columns := by
      rw [Output.joinColumns]
      split_ifs with hreturns <;> simp [mem_addColumns, hreturns]
    rw [List.foldl_cons, ih, hstep, or_assoc]
    simp only [List.mem_cons, exists_eq_or_imp]

/-- **A table joined with outputs** that have their names in common. -/
lemma Binds.join (h : t.Binds names known) {returns : Bool} {joined : List (Row × Output)}
    (hjoined : List.Forall₂ (fun row e => e.1 = row ∧ e.2.returns = returns ∧
      (returns → ∃ k, e.2.table.Heads inner k)) t.rows joined) :
    Binds ⟨joined.foldl (fun cs e => Output.joinColumns cs e.2) t.columns,
        joined.flatMap fun e => Output.joinRows e.1 e.2⟩
      (names ++ if returns then inner else []) (known && !returns) := by
  have hinner : ∀ e ∈ joined, e.1 ∈ t.rows ∧ e.2.returns = returns ∧
      (returns → ∃ k, e.2.table.Heads inner k) := by
    intro e he
    obtain ⟨row, hrow, rfl, h⟩ := exists_of_forall₂ hjoined he
    exact ⟨hrow, h⟩
  cases returns with
  | false =>
    have hnone : ∀ e ∈ joined, e.2.returns = false := fun e he => (hinner e he).2.1
    rw [Outline.flatMap_joinRows_of_not_returns hnone, Outline.map_fst_of_joined hjoined,
      Outline.foldl_joinColumns_of_subset fun e he hr => absurd hr (by simp [hnone e he])]
    simpa using h
  | true =>
    simp only [if_true, Bool.not_true, Bool.and_false]
    have hrows : ∀ row ∈ joined.flatMap fun e => Output.joinRows e.1 e.2, ∃ e ∈ joined,
        inner ⊆ e.2.table.columns ∧ e.2.table.columns ⊆ inner ∧
          ∃ r, row = Output.joinRow e.2.table.columns e.1 r := by
      intro row hrow
      obtain ⟨e, he, hrow⟩ := List.mem_flatMap.1 hrow
      obtain ⟨-, hreturns, hheads⟩ := hinner e he
      obtain ⟨k, hheads⟩ := hheads rfl
      rw [Output.joinRows, if_pos hreturns] at hrow
      obtain ⟨r, hr, rfl⟩ := List.mem_map.1 hrow
      exact ⟨e, he, hheads.all (.inr (List.ne_nil_of_mem hr)), hheads.columns, r, rfl⟩
    refine ⟨⟨fun n hn => ?_, fun hne n hn => ?_⟩, fun row hrow n => ?_⟩
    · refine List.mem_append.2 ((mem_foldl_joinColumns.1 hn).imp (fun hn => h.columns hn) ?_)
      rintro ⟨e, he, -, hn⟩
      obtain ⟨k, hheads⟩ := (hinner e he).2.2 rfl
      exact hheads.columns hn
    · obtain ⟨row, hrow⟩ := List.exists_mem_of_ne_nil _ (hne.resolve_left Bool.false_ne_true)
      obtain ⟨e, he, hall, -, -⟩ := hrows row hrow
      refine mem_foldl_joinColumns.2 ((List.mem_append.1 hn).imp (fun hn => ?_) fun hn => ?_)
      · exact h.all (.inr (List.ne_nil_of_mem (hinner e he).1)) hn
      · exact ⟨e, he, (hinner e he).2.1, hall hn⟩
    · obtain ⟨e, he, hall, hcolumns, r, rfl⟩ := hrows row hrow
      rw [(e.1.joinRow_extended _ r).contains, h.rows e.1 (hinner e he).1, List.mem_append]
      exact or_congr_right ⟨fun hn => hcolumns hn, fun hn => hall hn⟩

end Table

namespace Guarded

/-- Two ways to go through a clause that holds no others do the same where its scope is bound. -/
structure StepsAlike (f g : Table → Clause Meaning → Edit Table) : Prop where
  step : ∀ {k : Clause Guarded} {s s' : Scope} {known : Bool} {names : List String} {t : Table},
    (∀ q, k ≠ .subquery q) → (∀ g ∈ k.parts, g.Sound) → Scope.after s (k.map check) = .ok s' →
      clause s known k → t.Binds names known → s ⊆ names →
        Edit.Same (f t (k.map strict)) (g t (k.map plain))
          (·.Binds (namesAfter names k) (k.known known))

/-- What is known of the output of a query whose rows start with some names. -/
structure Gives (names : List String) (q : Query Guarded) (o : Output) : Prop where
  returns : o.returns = q.returns
  heads : q.unions = [] ∨ knownAfter true q.first ∧ (∀ b ∈ q.unions, knownAfter true b.clauses) →
    ∃ known, o.table.Heads (namesAfterAll names q.first ++ namesAfterBranches names q.unions) known

/-- Whether an output is a result after some clauses. -/
def returnsAfter (returns : Bool) (ks : List (Clause Guarded)) : Bool :=
  ks.getLast?.elim returns Clause.makesResult

lemma returnsAfter_cons (returns : Bool) (k : Clause Guarded) (ks : List (Clause Guarded)) :
    returnsAfter returns (k :: ks) = returnsAfter k.makesResult ks := by
  rw [returnsAfter, returnsAfter, List.getLast?_cons]
  cases ks.getLast? <;> rfl

lemma returns_eq (q : Query Guarded) :
    q.returns =
      (returnsAfter false q.first || q.unions.any fun b => returnsAfter false b.clauses) := by
  have hany (ks : List (Clause Guarded)) :
      ks.getLast?.any Clause.makesResult = returnsAfter false ks := by
    rw [returnsAfter]
    cases ks.getLast? <;> rfl
  simp only [QueryOf.returns, hany]

/-- What is known of an output after some clauses. -/
structure Reaches (names : List String) (known returns : Bool) (ks : List (Clause Guarded))
    (o : Output) : Prop where
  binds : o.table.Binds (namesAfterAll names ks) (knownAfter known ks)
  returns : o.returns = returnsAfter returns ks

/-- What is known of an output after some branches, from one before them. -/
structure Unites (names : List String) (bs : List (Branch (Clause Guarded))) (o o' : Output) :
    Prop where
  returns : o'.returns = (o.returns || bs.any fun b => returnsAfter false b.clauses)
  heads : ∀ inner known, o.table.Heads inner known →
    (bs ≠ [] → known ∧ ∀ b ∈ bs, knownAfter true b.clauses) →
      o'.table.Heads (inner ++ namesAfterBranches names bs) known

lemma Reaches.gives {names : List String} {first : List (Clause Guarded)}
    {unions : List (Branch (Clause Guarded))} {o o' : Output}
    (h : Reaches names true false first o) (h' : Unites names unions o o') :
    Gives names ⟨first, unions⟩ o' where
  returns := by rw [h'.returns, h.returns, returns_eq]
  heads hknown :=
    ⟨_, h'.heads _ _ h.binds.toHeads fun hne => hknown.resolve_left hne⟩

/-! ### Queries -/

section

variable {f g : Table → Clause Meaning → Edit Table}

lemma walkClause_map {F : Guarded → Meaning} {k : Clause Guarded} (hk : ∀ q, k ≠ .subquery q)
    (t : Table) : Query.walkClause f t (k.map F) = f t (k.map F) := by
  cases k with
  | subquery q => exact absurd rfl (hk q)
  | _ => rfl

lemma makesResult_map (F : Guarded → Meaning) (k : Clause Guarded) :
    (k.map F).makesResult = k.makesResult := by
  cases k with
  | subquery q => rfl
  | _ => rfl

mutual

/-- **A clause does the same**, also if it holds others. -/
theorem StepsAlike.same (hsteps : StepsAlike f g) {s s' : Scope} {known : Bool}
    {names : List String} {t : Table} {k : Clause Guarded} (hk : ∀ g ∈ k.parts, g.Sound)
    (hcheck : Scope.after s (k.map check) = .ok s') (hord : clause s known k)
    (ht : t.Binds names known) (hs : s ⊆ names) :
    Edit.Same (Query.walkClause f t (k.map strict)) (Query.walkClause g t (k.map plain))
      (·.Binds (namesAfter names k) (k.known known)) := by
  match k with
  | .subquery ⟨first, unions⟩ =>
    rw [Clause.parts, List.forall_mem_append] at hk
    rw [Clause.map, Scope.after] at hcheck
    obtain ⟨s₁, hfirst, hcheck⟩ := bind_eq_ok.1 hcheck
    obtain ⟨s₂, hunions, -⟩ := bind_eq_ok.1 hcheck
    simp only [clause, Bool.and_eq_true] at hord
    obtain ⟨⟨hfo, huo⟩, hknown⟩ := hord
    rw [Clause.map, Clause.map, Query.walkClause, Query.walkClause]
    refine .bind (.mapM fun row hrow => ?_) fun joined hjoined => .refl (.pure (ht.join hjoined))
    have hseed := Table.binds_ofRow (ht.rows row hrow)
    have hfirst := StepsAlike.sameAll (o := ⟨.ofRow row, false⟩) hsteps hk.1 hfirst hfo hseed hs
    have hinner := hfirst.bind fun o ho =>
      (StepsAlike.sameBranches hsteps hk.2 hunions huo hseed hs o).imp fun o' => ho.gives
    refine .bind hinner fun o ho => .refl (.pure ⟨rfl, ho.returns, fun hreturns => ho.heads ?_⟩)
    simp only [hreturns, Bool.or_eq_true, Bool.not_true, Bool.and_eq_true, List.isEmpty_iff,
      List.all_eq_true, Bool.false_eq_true, or_false] at hknown
    exact hknown
  | .matching .. | .unwind .. | .withItems .. | .returnItems .. | .create .. | .merge .. | .set ..
  | .remove .. | .delete .. | .foreach .. | .call .. =>
    rw [walkClause_map (by rintro _ ⟨⟩), walkClause_map (by rintro _ ⟨⟩)]
    exact hsteps.step (by rintro _ ⟨⟩) hk hcheck hord ht hs

/-- **Clauses do the same**, one after the other. -/
theorem StepsAlike.sameAll (hsteps : StepsAlike f g) {s s' : Scope} {known : Bool}
    {names : List String} {o : Output} {ks : List (Clause Guarded)}
    (hk : ∀ g ∈ Clause.allParts ks, g.Sound)
    (hcheck : Scope.afterAll s (Clause.mapAll check ks) = .ok s') (hord : clauses s known ks)
    (ho : o.table.Binds names known) (hs : s ⊆ names) :
    Edit.Same (Query.walkClauses f o (Clause.mapAll strict ks))
      (Query.walkClauses g o (Clause.mapAll plain ks))
      (Reaches names known o.returns ks) := by
  match ks with
  | [] => exact .refl (.pure ⟨ho, rfl⟩)
  | k :: ks =>
    rw [Clause.allParts, List.forall_mem_append] at hk
    rw [clauses, Bool.and_eq_true] at hord
    obtain ⟨s₁, hfirst, hrest⟩ := bind_eq_ok.1 hcheck
    rw [scopeAfter_eq hfirst] at hord
    simp only [Clause.mapAll, Query.walkClauses, makesResult_map]
    refine .bind (StepsAlike.same hsteps hk.1 hfirst hord.1 ho hs) fun t ht => ?_
    have hrest := StepsAlike.sameAll (o := ⟨t, k.makesResult⟩) hsteps hk.2 hrest hord.2 ht
      (after_subset hfirst hs)
    exact hrest.imp fun o' h => ⟨h.binds, by rw [h.returns, returnsAfter_cons]⟩

/-- **Branches do the same**, all from the same table. -/
theorem StepsAlike.sameBranches (hsteps : StepsAlike f g) {s r r' : Scope} {names : List String}
    {seed : Table} {bs : List (Branch (Clause Guarded))}
    (hk : ∀ g ∈ Clause.branchParts bs, g.Sound)
    (hcheck : Scope.afterBranches s r (Clause.mapBranches check bs) = .ok r')
    (hord : branches s bs) (hseed : seed.Binds names true) (hs : s ⊆ names) (o : Output) :
    Edit.Same (Query.walkBranches f seed o (Clause.mapBranches strict bs))
      (Query.walkBranches g seed o (Clause.mapBranches plain bs))
      (Unites names bs o) := by
  match bs with
  | [] =>
    refine .refl (.pure ⟨(Bool.or_false _).symm, fun inner known h _ => ?_⟩)
    rwa [namesAfterBranches, List.append_nil]
  | ⟨all, ks⟩ :: bs =>
    rw [Clause.branchParts, List.forall_mem_append] at hk
    rw [branches, Bool.and_eq_true] at hord
    obtain ⟨more, hks, hbs⟩ := bind_eq_ok.1 hcheck
    simp only [Clause.mapBranches, Query.walkBranches]
    refine .bind (StepsAlike.sameAll hsteps hk.1 hks hord.1 hseed hs) fun o' ho' => ?_
    refine (StepsAlike.sameBranches hsteps hk.2 hbs hord.2 hseed hs _).imp fun o'' ho'' => ⟨?_, ?_⟩
    · rw [ho''.returns, Output.union, ho'.returns, List.any_cons, Bool.or_assoc]
    · intro inner known h hknown
      obtain ⟨rfl, hall⟩ := hknown (List.cons_ne_nil _ _)
      rw [List.forall_mem_cons] at hall
      have hbranch := ho'.binds.toHeads
      rw [hall.1] at hbranch
      rw [namesAfterBranches, ← List.append_assoc]
      exact ho''.heads _ true (h.union hbranch all) fun _ => ⟨rfl, hall.2⟩

end

/-- **A query does the same** from a row that binds its scope. -/
theorem StepsAlike.sameQuery (hsteps : StepsAlike f g) {s s' : Scope} {names : List String}
    {seed : Table} {q : Query Guarded} (hq : ∀ g ∈ q.parts, g.Sound)
    (hcheck : Scope.afterQuery s (q.map check) = .ok s') (hord : query s q)
    (hseed : seed.Binds names true) (hs : s ⊆ names) :
    Edit.Same (Query.walk f seed (q.map strict)) (Query.walk g seed (q.map plain))
      (Gives names q) := by
  rw [QueryOf.parts, List.forall_mem_append] at hq
  rw [query, Bool.and_eq_true] at hord
  obtain ⟨s₁, hfirst, hunions⟩ := bind_eq_ok.1 hcheck
  have hfirst := hsteps.sameAll (o := ⟨seed, false⟩) hq.1 hfirst hord.1 hseed hs
  exact hfirst.bind fun o ho =>
    (hsteps.sameBranches hq.2 hunions hord.2 hseed hs o).imp fun o' => ho.gives

end

/-! ### Reading queries -/

lemma isWrite_map {F : Guarded → Meaning} {k : Clause Guarded} (hk : ∀ q, k ≠ .subquery q) :
    (k.map F).isWrite = k.isWrite := by
  cases k with
  | subquery q => exact absurd rfl (hk q)
  | _ => rfl

lemma name_map (F : Guarded → Meaning) (k : Clause Guarded) : (k.map F).name = k.name := by
  cases k with
  | matching optional ps w => cases optional <;> rfl
  | delete detach xs => cases detach <;> rfl
  | subquery q => rfl
  | _ => rfl

lemma stepsAlike_read (c : Context) :
    StepsAlike (fun t k => Edit.reading c fun env => Query.strictReadLeaf env t k)
      (fun t k => Edit.reading c fun env => Query.readLeaf env t k) where
  step hne hk hcheck hord ht hs := by
    refine .reading (fun env => ?_) fun env t' h => ?_
    · rw [Query.strictReadLeaf, Query.readLeaf, isWrite_map hne, isWrite_map hne, name_map,
        name_map, strictStep_eq ht, readStep_alike hk hcheck hord ht hs]
    · rw [Query.readLeaf] at h
      split_ifs at h
      exact readStep_binds hcheck hord ht h

/-- **A query that is read in a row** gives the same whether or not names must be bound. -/
theorem strictRead_eq {s s' : Scope} {q : Query Guarded} (hq : ∀ g ∈ q.parts, g.Sound)
    (hcheck : Scope.afterQuery s (q.map check) = .ok s') (hord : query s q) {env : Env} {row : Row}
    (hrow : row.Covers s) :
    Query.strictRead env (.ofRow row) (q.map strict) =
      Query.read env (.ofRow row) (q.map plain) := by
  have hseed : (Table.ofRow row).Binds (Dict.keys row) true :=
    Table.binds_ofRow fun n => Row.mem_keys.symm
  have hsame := ((stepsAlike_read env.toContext).sameQuery hq hcheck hord hseed fun n hn =>
    Row.mem_keys.2 (hrow n hn)).eq
  rw [← Query.reading_walk, ← Query.reading_walk] at hsame
  rw [Query.strictRead, Query.read_eq_walk]
  exact Edit.reading_inj hsame

/-- **Every expression is sound.** -/
theorem sound_fold (x : Expr) : (x.fold ofLayer).Sound := by
  induction x using Expr.layerInduction with
  | _ l ih =>
    have hparts : ∀ g ∈ (Expr.foldLayer ofLayer l).parts, g.Sound := by
      rw [Expr.parts_foldLayer, List.forall_mem_map]
      exact ih
    refine sound_ofLayer hparts fun q hq _ _ hcheck hord _ _ hrow => ?_
    rw [hq] at hparts
    exact strictRead_eq hparts hcheck hord hrow

lemma sound_parts (q : Query Expr) : ∀ g ∈ (guardedQuery q).parts, g.Sound := by
  rw [guardedQuery, Expr.parts_foldQuery, List.forall_mem_map]
  exact fun x _ => sound_fold x

end Guarded

end PropertyGraph
