import PropertyGraph.Proofs.Meaning.Alike
import PropertyGraph.Proofs.Query.Names
import PropertyGraph.Proofs.Query.Ordered

/-!
Expressions in rows that bind their names.

In such a row an expression that passes the check and is ordered has one value, whether or not
names must be bound. The induction is on the layers: the value of each part is taken in a row that
binds the scope in which the part was checked. Queries inside of expressions come later.
-/

namespace PropertyGraph

open Cypher

/-! ### Rows -/

/-- A row binds the names of a scope, and the rows of its group those of another one. Nothing is
said of a group that is made of no rows. -/
def Covered (gs : Option Scope) (s : Scope) (group : Option (List Row)) (row : Row) : Prop :=
  group = some [] ∨ row.Covers s ∧ ∀ rows ∈ group, ∃ r ∈ gs, ∀ row ∈ rows, row.Covers r

namespace Covered

variable {gs : Option Scope} {s : Scope} {group : Option (List Row)} {row row' : Row}
  {names rebound : List String}

lemma alone (h : row.Covers s) : Covered gs s none row :=
  .inr ⟨h, fun _ h => absurd h (Option.not_mem_none _)⟩

lemma extended (h : Covered gs s group row) (hrow : row.Extended row' names rebound) :
    Covered gs (s.declare names) group row' :=
  h.imp_right fun h => ⟨h.1.extended hrow, h.2⟩

lemma insert (h : Covered gs s group row) (n : String) (v : Value) :
    Covered gs (s.declare [n]) group (Dict.insert row n v) :=
  h.extended (row.insert_extended n v)

lemma mono {s' : Scope} (h : Covered gs s group row) (hs : s' ⊆ s) : Covered gs s' group row :=
  h.imp_right fun h => ⟨h.1.mono hs, h.2⟩

end Covered

namespace Guarded

/-- What is proved of expressions: in rows that bind their names it does not matter whether names
must be bound. -/
structure Sound (g : Guarded) : Prop where
  eval : ∀ {gs s}, g.check s = .ok () → g.ordered gs s → ∀ {env group row},
    Covered gs s group row → Meaning.Alike strict plain env group row g
  aggregates : g.strict.aggregates = g.plain.aggregates
  hasPaths : g.strict.paths.isSome = g.plain.paths.isSome
  paths : ∀ {gs s}, g.ordered gs s → ∀ {env : Env} {row : Row}, row.Covers s →
    ∀ f ∈ g.strict.paths, ∀ f' ∈ g.plain.paths, f env row = f' env row

lemma fits_eq_true {s : Scope} {g : Guarded} :
    fits s g ↔ g.check s = .ok () ∧ g.ordered none s := by
  rw [fits, Bool.and_eq_true]
  cases g.check s with
  | error e => exact and_congr_left' (iff_of_false Bool.false_ne_true (by simp))
  | ok u => exact and_congr_left' (iff_of_true rfl rfl)

lemma Sound.fits {g : Guarded} (hg : g.Sound) {s : Scope} (h : fits s g) {env : Env} {row : Row}
    (hrow : row.Covers s) : Meaning.Alike strict plain env none row g :=
  hg.eval (fits_eq_true.1 h).1 (fits_eq_true.1 h).2 (.alone hrow)

/-! ### Patterns -/

section

variable {p : PathPattern Guarded} {env : Env} {s : Scope} {row : Row}

lemma Sound.readAlike {g : Guarded} (hg : g.Sound) (env : Env) :
    ReadAlike Guarded.fits (fun g => g.strict.part env) (fun g => g.plain.part env) g :=
  fun _ _ h hrow => hg.fits h hrow

lemma rows_alike {ps : List (PathPattern Guarded)}
    (hps : ∀ g ∈ ps.flatMap PathPattern.properties, g.Sound)
    (h : patternsInOrder Guarded.fits false s ps) (hrow : row.Covers s) :
    env.matcher.rows ((ps.map (·.map strict)).map fun p => Meaning.parts p env) row =
      env.matcher.rows ((ps.map (·.map plain)).map fun p => Meaning.parts p env) row := by
  simp only [List.map_map, Function.comp_def, Meaning.parts_map]
  exact Matcher.rows_congr h (fun g hg => (hps g hg).readAlike env) hrow

lemma hasMatch_alike (hp : ∀ g ∈ p.properties, g.Sound) (h : p.inOrder Guarded.fits false s)
    (hrow : row.Covers s) :
    env.matcher.hasMatch (Meaning.parts (p.map strict) env) row =
      env.matcher.hasMatch (Meaning.parts (p.map plain) env) row := by
  rw [Meaning.parts_map, Meaning.parts_map]
  exact Matcher.hasMatch_congr h (fun g hg => (hp g hg).readAlike env) hrow

lemma pathsIn_alike (hp : ∀ g ∈ p.properties, g.Sound) (h : p.inOrder Guarded.fits false s)
    (hrow : row.Covers s) :
    Meaning.pathsIn env row (p.map strict) = Meaning.pathsIn env row (p.map plain) := by
  rw [Meaning.pathsIn, Meaning.pathsIn, Meaning.parts_map, Meaning.parts_map,
    Matcher.paths_congr h (fun g hg => (hp g hg).readAlike env) hrow]

/-- The rows of a pattern bind its names. -/
lemma covered_of_mem_rows {gs : Option Scope} {group : Option (List Row)} {F : Guarded → Meaning}
    {rows : List Row} (h : Covered gs s group row)
    (hrows : env.matcher.rows [Meaning.parts (p.map F) env] row = .ok rows) {row' : Row}
    (hrow : row' ∈ rows) : Covered gs (s.declare p.names) group row' := by
  have hext := h.extended (Matcher.rows_extended hrows hrow)
  simpa [Meaning.parts] using hext

end

/-! ### Checks -/

section

variable {s : Scope}

lemma checkAll_eq_ok {cs : List Check} :
    Scope.checkAll cs s = .ok () ↔ ∀ c ∈ cs, c s = .ok () := forM_eq_ok

lemma require_eq_ok {n : String} : Scope.require n s = .ok () ↔ n ∈ s := by
  rw [Scope.require]
  split_ifs with hn
  · exact iff_of_true rfl hn
  · exact iff_of_false (by simp) hn

lemma andThen_eq_ok {e e' : Except ScopeError Unit} :
    (e >>= fun _ => e') = .ok () ↔ e = .ok () ∧ e' = .ok () := by
  rw [bind_eq_ok]
  exact ⟨fun h => h.elim fun _ h => h, fun h => ⟨(), h⟩⟩

lemma demand_eq_ok {row : Row} (hrow : row.Covers s) {names : List String} (h : names ⊆ s) :
    row.demand names = .ok () :=
  forM_eq_ok.2 fun n hn => if_pos (hrow n (h hn))

end

/-! ### Layers -/

section

variable {l : Layer Guarded} {gs : Option Scope} {s : Scope} {env : Env}
  {group : Option (List Row)} {row : Row}

/-- The parts that are checked in the scope of the whole and evaluated in its row. -/
lemma alike_of_all (env : Env) {xs : List Guarded} (hx : ∀ g ∈ xs, g.Sound)
    (hcheck : ∀ g ∈ xs, g.check s = .ok ()) (hord : xs.all (·.ordered gs s))
    (hrow : Covered gs s group row) : ∀ g ∈ xs, Meaning.Alike strict plain env group row g :=
  fun g hg => (hx g hg).eval (hcheck g hg) (List.all_eq_true.1 hord g hg) hrow

/-- A layer that passes the check reads names in scope. -/
lemma reads_subset {F : Guarded → Meaning}
    (hcheck : Scope.checkLayer (l.mapParts check) s = .ok ()) : (l.mapParts F).reads ⊆ s := by
  cases l with
  | name n => exact List.cons_subset.2 ⟨require_eq_ok.1 hcheck, List.nil_subset _⟩
  | mapOf n is =>
    obtain ⟨hn, his⟩ := andThen_eq_ok.1 hcheck
    refine List.cons_subset.2 ⟨require_eq_ok.1 hn, fun k hk => ?_⟩
    obtain ⟨i, hi, hk⟩ := List.mem_filterMap.1 hk
    obtain ⟨j, hj, rfl⟩ := List.mem_map.1 hi
    cases j with
    | name m =>
      obtain rfl := Option.some.inj hk
      exact require_eq_ok.1 (forM_eq_ok.1 his _ (List.mem_map_of_mem hj))
    | everything | property | entry => cases hk
  | _ => exact List.nil_subset _

lemma checkAll_map {xs : List Guarded} (h : Scope.checkAll (xs.map check) s = .ok ()) :
    ∀ g ∈ xs, g.check s = .ok () := by
  rwa [checkAll_eq_ok, List.forall_mem_map] at h

lemma checkAll_toList {x : Option Guarded} (h : Scope.checkAll (x.map check).toList s = .ok ()) :
    ∀ g ∈ x, g.check s = .ok () := by
  rw [Option.toList_map] at h
  exact fun g hg => checkAll_map h g (Option.mem_toList.2 hg)

/-- **The value of a layer that holds no query**, in a row that binds its scope. -/
theorem evalLayer_alike (hl : ∀ g ∈ l.parts, g.Sound)
    (hcheck : Scope.checkLayer (l.mapParts check) s = .ok ()) (hord : layer gs s l)
    (hrow : row.Covers s) (hplace : Covered gs s group row) (hq : ∀ q, l ≠ .existsQuery q) :
    Meaning.evalLayer env group row (l.mapParts strict) =
      Meaning.evalLayer env group row (l.mapParts plain) := by
  cases l with
  | literal | parameter | name | countRows => rfl
  | existsQuery q => exact absurd rfl (hq q)
  | property t k | unary op t | isNull t n | hasLabels t ls | existsValue t =>
    have h := alike_of_all env hl (List.forall_mem_singleton.2 hcheck) hord hplace
    simp only [Layer.mapParts, Meaning.evalLayer]
    rw [h t List.mem_cons_self]
  | index t i | binary op t i =>
    have hchecks : ∀ g ∈ [t, i], g.check s = .ok () := checkAll_map hcheck
    have h := alike_of_all env hl hchecks hord hplace
    simp only [Layer.mapParts, Meaning.evalLayer]
    rw [h t (by simp [Layer.parts]), h i (by simp [Layer.parts])]
  | slice t a b =>
    have hchecks : ∀ g ∈ t :: a.toList ++ b.toList, g.check s = .ok () := by
      refine checkAll_map ?_
      rwa [List.map_append, List.map_cons, ← Option.toList_map, ← Option.toList_map]
    have h := alike_of_all env hl hchecks hord hplace
    simp only [Layer.mapParts, Meaning.evalLayer]
    rw [h t (by simp [Layer.parts]),
      Meaning.value?_congr fun y hy => h y (by simp [Layer.parts, Option.mem_toList.2 hy]),
      Meaning.value?_congr fun y hy => h y (by simp [Layer.parts, Option.mem_toList.2 hy])]
  | list xs =>
    have h : ∀ g ∈ xs, Meaning.Alike strict plain env group row g :=
      alike_of_all env hl (checkAll_map hcheck) hord hplace
    simp only [Layer.mapParts, Meaning.evalLayer, Meaning.evals_congr h]
  | map es =>
    have hchecks : ∀ g ∈ es.map Prod.snd, g.check s = .ok () := by
      refine checkAll_map ?_
      simpa [Layer.mapParts, Scope.checkLayer, Function.comp_def] using hcheck
    have h := alike_of_all env hl hchecks hord hplace
    simp only [Layer.mapParts, Meaning.evalLayer, List.mapM_map]
    rw [mapM_congr fun e he => ?_]
    have he := h e.2 (List.mem_map_of_mem he)
    simp only [Function.comp]
    rw [he]
  | call n d xs =>
    refine Meaning.call_congr (fun ha rows hrows r hr x hx => ?_) fun ha x hx => ?_
    · have hord : xs.all fun x => gs.all fun r => fits r x := by simpa [layer, ha] using hord
      obtain rfl | hplace := hplace
      · obtain rfl := Option.some.inj hrows
        cases hr
      · obtain ⟨r', hr', hcover⟩ := hplace.2 rows hrows
        obtain rfl := hr'
        exact (hl x hx).fits (List.all_eq_true.1 hord x hx) (hcover r hr)
    · have hord : xs.all fun x => x.ordered gs s := by simpa [layer, ha] using hord
      exact alike_of_all env hl (checkAll_map hcheck) hord hplace x hx
  | case x bs d =>
    have hchecks : ∀ g ∈ x.toList ++ bs.flatMap (fun b => [b.1, b.2]) ++ d.toList,
        g.check s = .ok () := by
      refine checkAll_map ?_
      simpa [Layer.mapParts, Scope.checkLayer, Option.toList_map, List.flatMap_map,
        List.map_flatMap] using hcheck
    have h := alike_of_all env hl hchecks hord hplace
    refine Meaning.choice_congr (fun y hy => h y ?_) (fun b hb => ⟨h b.1 ?_, h b.2 ?_⟩)
      fun y hy => h y (List.mem_append_right _ (Option.mem_toList.2 hy))
    · exact List.mem_append_left _ (List.mem_append_left _ (Option.mem_toList.2 hy))
    all_goals
      exact List.mem_append_left _
        (List.mem_append_right _ (List.mem_flatMap.2 ⟨b, hb, by simp⟩))
  | listOf n x w p =>
    obtain ⟨hx, hwp⟩ := andThen_eq_ok.1 hcheck
    rw [layer, Bool.and_eq_true] at hord
    have h : ∀ v, ∀ y ∈ w.toList ++ p.toList,
        Meaning.Alike strict plain env group (Dict.insert row n v) y := fun v =>
      alike_of_all env (fun y hy => hl y (by simp [Layer.parts] at hy ⊢; tauto))
        (checkAll_map (by simpa [Option.toList_map] using hwp)) hord.2 (hplace.insert n v)
    exact Meaning.listOf_congr ((hl x List.mem_cons_self).eval hx hord.1 hplace)
      (fun v y hy => h v y (List.mem_append_left _ (Option.mem_toList.2 hy)))
      fun v y hy => h v y (List.mem_append_right _ (Option.mem_toList.2 hy))
  | quantified q n x p =>
    obtain ⟨hx, hp⟩ := andThen_eq_ok.1 hcheck
    rw [layer, Bool.and_eq_true] at hord
    exact Meaning.quantified_congr ((hl x (by simp [Layer.parts])).eval hx hord.1 hplace)
      fun v => (hl p (by simp [Layer.parts])).eval hp hord.2 (hplace.insert n v)
  | reduce a i n x b =>
    obtain ⟨hix, hb⟩ := andThen_eq_ok.1 hcheck
    have hix : ∀ g ∈ [i, x], g.check s = .ok () := checkAll_map hix
    rw [layer, Bool.and_eq_true, Bool.and_eq_true] at hord
    refine Meaning.reduce_congr
      ((hl i (by simp [Layer.parts])).eval (hix i (by simp)) hord.1.1 hplace)
      ((hl x (by simp [Layer.parts])).eval (hix x (by simp)) hord.1.2 hplace) fun u v => ?_
    refine (hl b (by simp [Layer.parts])).eval hb hord.2 (((hplace.insert a u).insert n v).mono ?_)
    intro m hm
    simpa [Scope.mem_declare, or_assoc] using hm
  | matchesOf p w x =>
    obtain ⟨-, hwx⟩ := andThen_eq_ok.1 hcheck
    rw [layer, Bool.and_eq_true] at hord
    refine Meaning.matchesOf_congr ?_ fun rows hrows r hr => ?_
    · have hps : ∀ g ∈ [p].flatMap PathPattern.properties, g.Sound := fun y hy => hl y <| by
        simp only [List.flatMap_singleton] at hy
        simp [Layer.parts, hy]
      exact rows_alike hps (by simpa [patternsInOrder] using hord.1) hrow
    · refine alike_of_all env (fun y hy => hl y (by simp [Layer.parts] at hy ⊢; tauto)) ?_ hord.2
        (covered_of_mem_rows hplace hrows hr)
      exact checkAll_map (by simpa [Option.toList_map] using hwx)
  | matched p =>
    simp only [Layer.mapParts, Meaning.evalLayer, hasMatch_alike hl hord hrow]
  | paths p =>
    simp only [Layer.mapParts, Meaning.evalLayer, Meaning.pathValue, pathsIn_alike hl hord hrow]
    rfl
  | mapOf n is =>
    obtain ⟨-, his⟩ := andThen_eq_ok.1 hcheck
    refine Meaning.mapOf_congr (alike_of_all env hl (fun g hg => ?_) hord hplace)
    obtain ⟨i, hi, hg⟩ := List.mem_flatMap.1 hg
    cases i with
    | entry k x =>
      obtain rfl := List.mem_singleton.1 hg
      exact forM_eq_ok.1 his _ (List.mem_map_of_mem hi)
    | everything | property | name => cases hg

lemma evalBound_eq {l : Layer Meaning} (hrow : row.Covers s) (h : l.reads ⊆ s)
    (hq : ∀ q, l ≠ .existsQuery q) :
    Meaning.evalBound env group row l = Meaning.evalLayer env group row l := by
  have hdemand := demand_eq_ok hrow h
  cases l with
  | existsQuery q => exact absurd rfl (hq q)
  | _ =>
    exact congrArg (fun e : Except Error Unit => e >>= fun _ => Meaning.evalLayer env group row _)
      hdemand

lemma strictly_eval {plain strict : Layer Meaning} (h : group ≠ some []) :
    (Meaning.strictly plain strict).eval env group row =
      Meaning.evalBound env group row strict := by
  rcases group with _ | (_ | _)
  · rfl
  · exact absurd rfl h
  · rfl

/-- **A layer is sound** if its parts are, and the query in it, if there is one, is read alike. -/
theorem sound_ofLayer (hl : ∀ g ∈ l.parts, g.Sound)
    (hquery : ∀ q, l = .existsQuery q → ∀ {s s'}, Scope.afterQuery s (q.map check) = .ok s' →
      query s q → ∀ {env row}, row.Covers s →
        Query.strictRead env (.ofRow row) (q.map strict) =
          Query.read env (.ofRow row) (q.map plain)) :
    (ofLayer l).Sound where
  eval {gs s} hcheck hord env group row hplace := by
    by_cases hgroup : group = some []
    · subst hgroup
      rfl
    have hrow := (hplace.resolve_left hgroup).1
    change (Meaning.strictly (l.mapParts plain) (l.mapParts strict)).eval env group row = _
    rw [strictly_eval hgroup]
    by_cases hq : ∃ q, l = .existsQuery q
    · obtain ⟨q, rfl⟩ := hq
      obtain ⟨s', hs', -⟩ := bind_eq_ok.1 hcheck
      change (Query.strictRead env (.ofRow row) (q.map strict) >>= fun o => _) = _
      rw [hquery q rfl hs' hord hrow]
      rfl
    · have hne := not_exists.1 hq
      rw [evalBound_eq hrow (reads_subset hcheck), evalLayer_alike hl hcheck hord hrow hplace hne]
      · rfl
      · cases l with
        | existsQuery q => exact absurd rfl (hne q)
        | _ => simp [Layer.mapParts]
  aggregates := rfl
  hasPaths := by cases l <;> rfl
  paths {gs s} hord env row hrow f hf f' hf' := by
    cases l with
    | paths p =>
      obtain rfl := Option.some.inj hf
      obtain rfl := Option.some.inj hf'
      have hpaths : Meaning.pathsIn env row (p.map strict) =
          Meaning.pathsIn env row (p.map plain) :=
        pathsIn_alike hl hord hrow
      change Meaning.joinedPaths env row (p.map strict) = Meaning.joinedPaths env row (p.map plain)
      rw [Meaning.joinedPaths, Meaning.joinedPaths, hpaths]
      rfl
    | _ => cases hf

end

end Guarded

end PropertyGraph
