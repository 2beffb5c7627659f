import PropertyGraph.Proofs.Meaning.Unseen
import PropertyGraph.Proofs.Query.Union

/-!
Projections of rows that differ in some names.

What is listed has the same values in both tables. A star stands for these names as well, and so
what it makes of the rows still differs in them; it must not be used to tell rows apart.
-/

namespace PropertyGraph

open Cypher

/-- Whether what a star stands for does not tell rows apart. -/
def Cypher.Projection.idleStar {ε : Type} (aggregates : ε → Bool) (b : Projection ε) : Bool :=
  !b.star || !b.distinct && !b.items.any fun i => aggregates i.expr

variable {unseen : List String} {env : Env}

/-! ### Rows -/

namespace Row.Agree

variable {row row' : Row}

lemma merge (h : row.Agree unseen row') (es : List (String × Value)) :
    Row.Agree unseen (Dict.merge row es) (Dict.merge row' es) := by
  induction es generalizing row row' with
  | nil => exact h
  | cons e es ih => exact ih (h.insert e.1 e.2)

lemma merge_ascending (h : row.Agree unseen row') {new new' : Row} (hnew : new.Agree unseen new')
    (hasc : Dict.Ascending new) (hasc' : Dict.Ascending new') :
    Row.Agree unseen (Dict.merge row new) (Dict.merge row' new') := by
  intro n hn
  rw [Dict.get?_merge _ hasc.nodup_keys, Dict.get?_merge _ hasc'.nodup_keys, hnew n hn, h n hn]

/-- A name that is bound anew is not left out any longer. -/
lemma insert_filter (h : row.Agree unseen row') (n : String) (v : Value) :
    Row.Agree (unseen.filter (· ≠ n)) (Dict.insert row n v) (Dict.insert row' n v) := by
  intro k hk
  rw [Dict.get?_insert, Dict.get?_insert]
  split_ifs with hn
  · rfl
  · exact h k fun hmem => hk (List.mem_filter.2 ⟨hmem, by simpa using Ne.symm hn⟩)

lemma bindNulls (h : row.Agree unseen row') {names : List String}
    (hnames : ∀ n ∈ names, n ∉ unseen) :
    Row.Agree unseen (Query.bindNulls names row) (Query.bindNulls names row') := by
  induction names generalizing row row' with
  | nil => exact h
  | cons n names ih =>
    rw [List.forall_mem_cons] at hnames
    have hstep : Dict.contains row n = Dict.contains row' n := by
      rw [Dict.contains, Dict.contains, h n hnames.1]
    rw [Query.bindNulls, Query.bindNulls, List.foldl_cons, List.foldl_cons, hstep]
    split_ifs
    · exact ih h hnames.2
    · exact ih (h.insert n .null) hnames.2

end Row.Agree

lemma Output.get?_joinRow (columns : List String) (row inner : Row) (n : String) :
    Dict.get? (joinRow columns row inner) n =
      if n ∈ columns then some (Dict.getD inner n .null) else Dict.get? row n := by
  induction columns generalizing row with
  | nil => rfl
  | cons c columns ih =>
    refine (ih (Dict.insert row c (Dict.getD inner c .null))).trans ?_
    rw [Dict.get?_insert]
    by_cases hc : c = n
    · subst hc
      simp
    · simp [hc, Ne.symm hc]

lemma Output.joinRow_agree {row row' inner inner' : Row} (h : row.Agree unseen row')
    (hinner : inner.Agree unseen inner') {columns columns' : List String}
    (hcolumns : ∀ n ∉ unseen, n ∈ columns ↔ n ∈ columns') :
    Row.Agree unseen (joinRow columns row inner) (joinRow columns' row' inner') := by
  intro n hn
  rw [get?_joinRow, get?_joinRow, hinner.getD hn, h n hn]
  exact if_congr (hcolumns n hn) rfl rfl

/-! ### Lists side by side -/

section

variable {α β : Type} {R : α → β → Prop} {xs : List α} {ys : List β}

lemma exists_pairs (h : List.Forall₂ R xs ys) :
    ∃ zs : List (α × β), zs.map Prod.fst = xs ∧ zs.map Prod.snd = ys ∧ ∀ z ∈ zs, R z.1 z.2 := by
  obtain ⟨hlen, hR⟩ := List.forall₂_iff_zip.1 h
  exact ⟨xs.zip ys, List.map_fst_zip hlen.le, List.map_snd_zip hlen.ge, fun z hz => hR hz⟩

lemma forall₂_of_pairs {zs : List (α × β)} (h : ∀ z ∈ zs, R z.1 z.2) :
    List.Forall₂ R (zs.map Prod.fst) (zs.map Prod.snd) := by
  rw [List.forall₂_map_left_iff, List.forall₂_map_right_iff, List.forall₂_same]
  exact h

lemma forall₂_mergeSort {r : α → α → Bool} {s : β → β → Bool} (h : List.Forall₂ R xs ys)
    (hrs : ∀ a b, R a b → ∀ c d, R c d → r a c = s b d) :
    List.Forall₂ R (xs.mergeSort r) (ys.mergeSort s) := by
  obtain ⟨zs, rfl, rfl, hzs⟩ := exists_pairs h
  rw [← List.map_mergeSort (r := fun z w => r z.1 w.1) (by simp),
    ← List.map_mergeSort (r := fun z w => r z.1 w.1) fun z hz w hw => ?_]
  · exact forall₂_of_pairs fun z hz => hzs z (List.mem_mergeSort.1 hz)
  · exact hrs _ _ (hzs z hz) _ _ (hzs w hw)

lemma forall₂_distinctBy {κ : Type} [DecidableEq κ] {f : α → κ} {g : β → κ}
    (h : List.Forall₂ R xs ys) (hfg : ∀ x y, R x y → f x = g y) :
    List.Forall₂ R (Value.distinctBy f xs) (Value.distinctBy g ys) := by
  obtain ⟨zs, rfl, rfl, hzs⟩ := exists_pairs h
  rw [Value.distinctBy_map, Value.distinctBy_map,
    Value.distinctBy_congr (f := g ∘ Prod.snd) (g := f ∘ Prod.fst) fun z hz w hw => ?_]
  · exact forall₂_of_pairs fun z hz => hzs z ((Value.distinctBy_sublist _ _).subset hz)
  · simp only [Function.comp, hfg _ _ (hzs z hz), hfg _ _ (hzs w hw)]

end

/-! ### Projections -/

namespace Table

/-- Items have the same columns in both tables, and these do not see what may be bound differently
in the joined rows. -/
structure ItemsAgree (unseen : List String) (is : List (ProjectionItem Meaning))
    (p q : List (String × Meaning) × List Row) : Prop where
  columns : p.1 = q.1
  aggregates : (∀ i ∈ is, ¬ i.expr.aggregates) → ∀ c ∈ p.1, ¬ c.2.aggregates
  joined : ∃ hidden ⊆ unseen, Row.AgreeAll hidden p.2 q.2 ∧ ∀ c ∈ p.1, c.2.Blind hidden

lemma itemColumns_agree {is : List (ProjectionItem Meaning)} (his : ∀ i ∈ is, i.expr.Blind unseen)
    (index : Nat) {rows rows' : List Row} (hrows : Row.AgreeAll unseen rows rows') :
    Paired (ItemsAgree unseen is) (itemColumns env index is rows)
      (itemColumns env index is rows') := by
  induction is generalizing index rows rows' unseen with
  | nil => exact .ok ⟨rfl, by simp, unseen, List.Subset.refl _, hrows, by simp⟩
  | cons i is ih =>
    rw [List.forall_mem_cons] at his
    rw [itemColumns, itemColumns]
    cases hpaths : i.expr.paths with
    | none =>
      refine (ih his.2 (index + 1) hrows).bind ?_
      rintro ⟨columns, joined⟩ ⟨_, joined'⟩ ⟨rfl, hagg, hidden, hsub, hjoined, hblind⟩
      refine .ok ⟨rfl, fun h => ?_, hidden, hsub, hjoined,
        List.forall_mem_cons.2 ⟨his.1.mono hsub, hblind⟩⟩
      rw [List.forall_mem_cons] at h
      exact List.forall_mem_cons.2 ⟨h.1, hagg h.2⟩
    | some paths =>
      have hsub : unseen.filter (· ≠ pathName index) ⊆ unseen := List.filter_subset_self _
      have hjoin : Paired (Row.AgreeAll (unseen.filter (· ≠ pathName index)))
          (joinPaths env (pathName index) paths rows)
          (joinPaths env (pathName index) paths rows') := by
        refine (Paired.mapM hrows fun row row' h => ?_).bind fun _ _ h => .ok (List.rel_flatten h)
        rw [his.1.paths paths hpaths h]
        refine Paired.bind_same _ fun vs => ?_
        exact .ok (forall₂_map vs fun v => h.insert_filter _ v)
      refine hjoin.bind fun joined joined' hjoined => ?_
      refine (ih (fun j hj => (his.2 j hj).mono hsub) (index + 1) hjoined).bind ?_
      rintro ⟨columns, rows⟩ ⟨_, rows'⟩ ⟨rfl, hagg, hidden, hsub', hrows, hblind⟩
      refine .ok ⟨rfl, fun h => ?_, hidden, List.Subset.trans hsub' hsub, hrows,
        List.forall_mem_cons.2 ⟨?_, hblind⟩⟩
      · rw [List.forall_mem_cons] at h
        exact List.forall_mem_cons.2 ⟨Bool.false_ne_true, hagg h.2⟩
      · refine Meaning.blind_ofName fun hmem => ?_
        simpa using (List.mem_filter.1 (hsub' hmem)).2

/-- The columns of a star and those that are listed. -/
def starred (star : List String) (listed : List (String × Meaning)) : List (String × Meaning) :=
  star.map (fun c => (c, Meaning.ofName c)) ++ listed

lemma any_starred (star : List String) (listed : List (String × Meaning)) :
    (starred star listed).any (·.2.aggregates) = listed.any (·.2.aggregates) := by
  have hstar : (star.map fun c => (c, Meaning.ofName c)).any (·.2.aggregates) = false := by
    simp [Meaning.ofName]
  rw [starred, List.any_append, hstar, Bool.false_or]

/-- The values that a star stands for can always be read. -/
lemma projectRow_starred (star : List String) (listed : List (String × Meaning))
    (group : Option (List Row)) (row : Row) :
    projectRow env (starred star listed) group row = (do
      let values ← listed.mapM fun c => do return (c.1, ← c.2.eval env group row)
      let out := Dict.merge (Output.joinRow star [] row) values
      return ⟨out, Dict.merge row out, group⟩) := by
  have hstar : (star.map fun c => (c, Meaning.ofName c)).mapM
      (fun c => do return (c.1, ← c.2.eval env group row)) =
      .ok (star.map fun c => (c, Dict.getD row c .null)) := by
    rw [List.mapM_map]
    exact mapM_eq_ok fun c _ => rfl
  rw [projectRow, starred, List.mapM_append, hstar]
  cases listed.mapM fun c => do return (c.1, ← c.2.eval env group row) with
  | error e => rfl
  | ok values =>
    have hout : Dict.ofList ((star.map fun c => (c, Dict.getD row c .null)) ++ values) =
        Dict.merge (Output.joinRow star [] row) values := List.foldl_append
    change Except.ok (Projected.mk _ _ _) = _
    rw [hout]
    rfl

/-- Two projected rows differ in some names at most, and not at all without a star. -/
structure Projected.Agree (unseen : List String) (star : Bool) (p q : Projected) : Prop where
  out : p.out.Agree unseen q.out
  same : star = false → p.out = q.out
  scope : p.scope.Agree unseen q.scope
  group : GroupsAgree unseen p.group q.group

section

variable {hidden : List String} (hsub : hidden ⊆ unseen) {listed : List (String × Meaning)}
  (hblind : ∀ c ∈ listed, c.2.Blind hidden) {hasStar : Bool} {star star' : List String}
  (hstar : ∀ n ∉ unseen, n ∈ star ↔ n ∈ star') (hnone : hasStar = false → star = [] ∧ star' = [])
include hsub hblind hstar hnone

lemma projectRow_agree {group group' : Option (List Row)} {row row' : Row}
    (hg : GroupsAgree hidden group group') (h : row.Agree hidden row') :
    Paired (Projected.Agree unseen hasStar) (projectRow env (starred star listed) group row)
      (projectRow env (starred star' listed) group' row') := by
  have hvalues : listed.mapM (fun c => do return (c.1, ← c.2.eval env group row)) =
      listed.mapM fun c => do return (c.1, ← c.2.eval env group' row') :=
    mapM_congr fun c hmem => by rw [(hblind c hmem).eval hg h]
  rw [projectRow_starred, projectRow_starred, hvalues]
  refine Paired.bind_same _ fun values => ?_
  have hout : Row.Agree unseen (Dict.merge (Output.joinRow star [] row) values)
      (Dict.merge (Output.joinRow star' [] row') values) :=
    (Output.joinRow_agree (.refl _) (h.mono hsub) hstar).merge values
  have hasc (star : List String) (row : Row) :
      Dict.Ascending (Dict.merge (Output.joinRow star [] row) values) :=
    (Dict.ascending_nil.merge _).merge _
  refine .ok ⟨hout, fun hs => ?_, (h.mono hsub).merge_ascending hout (hasc _ _) (hasc _ _),
    hg.mono hsub⟩
  obtain ⟨rfl, rfl⟩ := hnone hs
  rfl

end

/-! ### Groups -/

/-- Two groups have the same key, and rows that agree. -/
structure GroupAgree (unseen : List String) (g g' : Group) : Prop where
  key : g.key = g'.key
  rows : Row.AgreeAll unseen g.rows g'.rows

lemma head_agree {rows rows' : List Row} (h : Row.AgreeAll unseen rows rows') :
    Row.Agree unseen (rows.head?.getD []) (rows'.head?.getD []) := by
  cases h with
  | nil => exact .refl []
  | cons h _ => exact h

lemma addTo_agree {row row' : Row} (h : row.Agree unseen row') (key : List Value)
    {gs gs' : List Group} (hgs : List.Forall₂ (GroupAgree unseen) gs gs') :
    List.Forall₂ (GroupAgree unseen) (Group.addTo key row gs) (Group.addTo key row' gs') := by
  induction hgs with
  | nil => exact .cons ⟨rfl, .cons h .nil⟩ .nil
  | cons hg hrest ih =>
    rw [Group.addTo, Group.addTo, hg.key]
    split_ifs
    · exact .cons ⟨rfl, .cons h hg.rows⟩ hrest
    · exact .cons hg ih

lemma ofRows_agree {keys : List (Row → Except Error Value)}
    (hkeys : ∀ k ∈ keys, ∀ r r', Row.Agree unseen r r' → k r = k r') {rows rows' : List Row}
    (hrows : Row.AgreeAll unseen rows rows') :
    Paired (List.Forall₂ (GroupAgree unseen)) (Group.ofRows keys rows)
      (Group.ofRows keys rows') := by
  rw [Group.ofRows, Group.ofRows]
  split_ifs
  · exact .ok (.cons ⟨rfl, hrows⟩ .nil)
  · have hfold : Paired (List.Forall₂ (GroupAgree unseen))
        (rows.foldlM (fun gs row => do
          let values ← keys.mapM fun k => k row
          return Group.addTo (values.map Value.key) row gs) [])
        (rows'.foldlM (fun gs row => do
          let values ← keys.mapM fun k => k row
          return Group.addTo (values.map Value.key) row gs) []) := by
      refine Paired.foldlM hrows (fun gs gs' r r' hgs h => ?_) .nil
      rw [mapM_congr fun k hk => hkeys k hk r r' h]
      refine Paired.bind_same _ fun values => ?_
      exact .ok (addTo_agree h _ hgs)
    exact hfold.bind fun gs gs' hgs =>
      .ok (List.rel_map (fun _ _ hg => ⟨hg.key, List.rel_reverse hg.rows⟩) hgs)

section

variable {hidden : List String} (hsub : hidden ⊆ unseen) {listed : List (String × Meaning)}
  (hblind : ∀ c ∈ listed, c.2.Blind hidden) {hasStar : Bool} {star star' : List String}
  (hstar : ∀ n ∉ unseen, n ∈ star ↔ n ∈ star') (hnone : hasStar = false → star = [] ∧ star' = [])
include hsub hblind hstar hnone

/-- Rows are grouped by listed columns only. -/
lemma projectRows_agree (hidle : hasStar → ∀ c ∈ listed, ¬ c.2.aggregates) {rows rows' : List Row}
    (hrows : Row.AgreeAll hidden rows rows') :
    Paired (List.Forall₂ (Projected.Agree unseen hasStar))
      (projectRows env (starred star listed) rows)
      (projectRows env (starred star' listed) rows') := by
  rw [projectRows, projectRows, any_starred, any_starred]
  split_ifs with hagg
  · have hs : hasStar = false := by
      obtain ⟨c, hc, hagg⟩ := List.any_eq_true.1 hagg
      exact Bool.eq_false_of_not_eq_true fun hs => hidle hs c hc hagg
    obtain ⟨rfl, rfl⟩ := hnone hs
    have hkeys : ∀ k ∈ ((starred [] listed).filter fun c => !c.2.aggregates).map
        fun c => c.2.value env, ∀ r r', Row.Agree hidden r r' → k r = k r' := by
      rw [List.forall_mem_map]
      exact fun c hmem r r' h => (hblind c (List.mem_filter.1 hmem).1).value h
    refine (ofRows_agree hkeys hrows).bind fun gs gs' hgs => Paired.mapM hgs fun g g' hg => ?_
    exact projectRow_agree hsub hblind hstar hnone (.some hg.rows) (head_agree hg.rows)
  · exact Paired.mapM hrows fun r r' h => projectRow_agree hsub hblind hstar hnone .none h

end

/-! ### Order -/

lemma sortRows_agree {items : List (SortItem Meaning)} (hi : ∀ i ∈ items, i.expr.Blind unseen)
    {star : Bool} {ps qs : List Projected} (h : List.Forall₂ (Projected.Agree unseen star) ps qs) :
    Paired (List.Forall₂ (Projected.Agree unseen star)) (sortRows env items ps)
      (sortRows env items qs) := by
  rw [sortRows, sortRows]
  split_ifs
  · exact .ok h
  · let keyed (p : Projected) : Except Error (List Value × Projected) := do
      return (← items.mapM fun i => i.expr.eval env p.group p.scope, p)
    have hkeyed : Paired
        (List.Forall₂ fun a b => a.1 = b.1 ∧ Projected.Agree unseen star a.2 b.2)
        (ps.mapM keyed) (qs.mapM keyed) := by
      refine Paired.mapM h fun p q hpq => ?_
      dsimp only [keyed]
      rw [mapM_congr fun i hmem => (hi i hmem).eval hpq.group hpq.scope]
      refine Paired.bind_same _ fun keys => ?_
      exact .ok ⟨rfl, hpq⟩
    refine hkeyed.bind fun as bs hab => .ok ?_
    refine List.rel_map (fun _ _ h => h.2) (forall₂_mergeSort hab ?_)
    rintro ⟨keys, p⟩ ⟨_, q⟩ ⟨rfl, -⟩ ⟨keys', p'⟩ ⟨_, q'⟩ ⟨rfl, -⟩
    rfl

lemma forall₂_cut {α β : Type} {R : α → β → Prop} {xs : List α} {ys : List β}
    (h : List.Forall₂ R xs ys) (skip limit : Option Nat) :
    List.Forall₂ R (cut skip limit xs) (cut skip limit ys) := by
  cases limit with
  | none => exact List.forall₂_drop _ h
  | some n => exact List.forall₂_take _ (List.forall₂_drop _ h)

/-! ### Tables -/

/-- Two tables have the same columns and rows, but for some names. -/
structure Agree (unseen : List String) (t t' : Table) : Prop where
  columns : ∀ n ∉ unseen, n ∈ t.columns ↔ n ∈ t'.columns
  rows : Row.AgreeAll unseen t.rows t'.rows

lemma mem_starColumns {columns : List String} {is : List (ProjectionItem Meaning)} {n : String} :
    n ∈ starColumns columns is ↔ n ∈ columns ∧ n ∉ is.map ProjectionItem.column := by
  rw [starColumns, List.mem_mergeSort, List.mem_filter, decide_eq_true_iff]

/-- **A projection** makes the same of both tables, but for what a star stands for. -/
theorem project_agree {b : Projection Meaning} (hidle : b.idleStar Meaning.aggregates)
    (hb : ∀ x ∈ b.parts, x.Blind unseen) {t t' : Table} (h : t.Agree unseen t') :
    Paired (fun u u' => u.Agree unseen u' ∧ (b.star = false → u = u')) (project env b t)
      (project env b t') := by
  simp only [Projection.parts, List.forall_mem_append, List.forall_mem_map, Option.mem_toList]
    at hb
  obtain ⟨⟨⟨hitems, horder⟩, -⟩, -⟩ := hb
  rw [project, project]
  refine (itemColumns_agree hitems 0 h.rows).bind ?_
  rintro ⟨listed, rows⟩ ⟨_, rows'⟩ ⟨rfl, hagg, hidden, hsub, hrows, hblind⟩
  generalize hstar : (if b.star then starColumns t.columns b.items else []) = star
  generalize hstar' : (if b.star then starColumns t'.columns b.items else []) = star'
  have hnone : b.star = false → star = [] ∧ star' = [] := by
    intro hs
    simp only [hs, Bool.false_eq_true, if_false] at hstar hstar'
    exact ⟨hstar.symm, hstar'.symm⟩
  have hmem : ∀ n ∉ unseen, n ∈ star ↔ n ∈ star' := by
    intro n hn
    rw [← hstar, ← hstar']
    split_ifs
    · rw [mem_starColumns, mem_starColumns, h.columns n hn]
    · rfl
  simp only [Projection.idleStar, Bool.or_eq_true, Bool.and_eq_true, Bool.not_eq_true',
    List.any_eq_false] at hidle
  have hgroups : b.star → ∀ c ∈ listed, ¬ c.2.aggregates := fun hs =>
    hagg (hidle.resolve_left (by simp [hs])).2
  refine (projectRows_agree hsub hblind hmem hnone hgroups hrows).bind fun ps qs hpq => ?_
  have hdistinct : List.Forall₂ (Projected.Agree unseen b.star)
      (if b.distinct then Value.distinctBy
        (fun p => rowKey ((starred star listed).map Prod.fst) p.out) ps else ps)
      (if b.distinct then Value.distinctBy
        (fun p => rowKey ((starred star' listed).map Prod.fst) p.out) qs else qs) := by
    split_ifs with hd
    · have hs : b.star = false := hidle.resolve_right (by simp [hd])
      obtain ⟨rfl, rfl⟩ := hnone hs
      exact forall₂_distinctBy hpq fun p q h => congrArg _ (h.same hs)
    · exact hpq
  refine (sortRows_agree horder hdistinct).bind fun ps qs hpq => ?_
  refine Paired.bind_same _ fun skip => ?_
  refine Paired.bind_same _ fun limit => ?_
  have hcut := forall₂_cut hpq skip limit
  refine .ok ⟨⟨fun n hn => ?_, List.rel_map (fun _ _ h => h.out) hcut⟩, fun hs => ?_⟩
  · simp [hmem n hn]
  · obtain ⟨rfl, rfl⟩ := hnone hs
    have hout : List.Forall₂ (· = ·) ((cut skip limit ps).map Projected.out)
        ((cut skip limit qs).map Projected.out) := List.rel_map (fun _ _ h => h.same hs) hcut
    rw [List.forall₂_eq_eq_eq] at hout
    rw [hout]

end Table

end PropertyGraph
