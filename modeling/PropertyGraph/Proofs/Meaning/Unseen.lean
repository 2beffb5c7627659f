import PropertyGraph.Meaning.Layer
import PropertyGraph.Proofs.Matching.InOrder
import PropertyGraph.Proofs.Paired

/-!
Names that a pattern or an expression does not see.

A pattern looks up the names that it binds, and its properties are read in the rows of its trails.
If some other names are bound differently in two rows, then the same moves can be made from both of
them, and the trails differ in nothing but these names. The constructs of expressions do not see a
name if their parts do not. A name that a construct binds for its parts is bound alike in both rows,
and so it does not matter whether it is one of those that are not seen.
-/

namespace PropertyGraph

open Cypher

/-! ### Rows -/

/-- Two rows bind the same, but for some names. -/
def Row.Agree (unseen : List String) (row row' : Row) : Prop :=
  ∀ n ∉ unseen, Dict.get? row n = Dict.get? row' n

/-- Rows that agree one by one. -/
abbrev Row.AgreeAll (unseen : List String) : List Row → List Row → Prop :=
  List.Forall₂ (Row.Agree unseen)

namespace Row.Agree

variable {unseen unseen' : List String} {row row' row'' : Row}

lemma refl (row : Row) : row.Agree unseen row := fun _ _ => rfl

lemma trans (h : row.Agree unseen row') (h' : row'.Agree unseen row'') : row.Agree unseen row'' :=
  fun n hn => (h n hn).trans (h' n hn)

lemma mono (h : row.Agree unseen row') (hsub : unseen ⊆ unseen') : row.Agree unseen' row' :=
  fun n hn => h n fun hmem => hn (hsub hmem)

lemma getD (h : row.Agree unseen row') {n : String} (hn : n ∉ unseen) (v : Value) :
    Dict.getD row n v = Dict.getD row' n v := by rw [Dict.getD, Dict.getD, h n hn]

/-- What is bound in both rows is bound alike, whatever its name. -/
lemma insert (h : row.Agree unseen row') (n : String) (v : Value) :
    Row.Agree unseen (Dict.insert row n v) (Dict.insert row' n v) := by
  intro k hk
  rw [Dict.get?_insert, Dict.get?_insert, h k hk]

lemma insert_left {n : String} (hn : n ∈ unseen) (row : Row) (v : Value) :
    Row.Agree unseen (Dict.insert row n v) row := by
  intro k hk
  have hne : n ≠ k := fun h => hk (h ▸ hn)
  rw [Dict.get?_insert, if_neg hne]

lemma bind (h : row.Agree unseen row') (name : Option String) (v : Value) :
    Row.Agree unseen (row.bind name v) (row'.bind name v) := by
  cases name with
  | none => exact h
  | some n => exact h.insert n v

lemma bound? (h : row.Agree unseen row') {name : Option String} (hname : ∀ n ∈ name, n ∉ unseen) :
    row.bound? name = row'.bound? name := by
  cases name with
  | none => rfl
  | some n => exact h n (hname n rfl)

end Row.Agree

/-! ### Trails -/

/-- Two trails differ in nothing but some names. -/
structure Trail.Agree (unseen : List String) (t u : Trail) : Prop where
  row : t.row.Agree unseen u.row
  used : t.used = u.used
  path : t.path = u.path

/-- The value of a part does not depend on some names. -/
def Part.Blind (unseen : List String) (part : Part) : Prop :=
  ∀ row row' : Row, row.Agree unseen row' → part row = part row'

/-- A pattern does not look up some names. -/
structure Cypher.PathPattern.Blind (unseen : List String) (p : PathPattern Part) : Prop where
  names : ∀ n ∈ p.names, n ∉ unseen
  properties : ∀ x ∈ p.properties, Part.Blind unseen x

namespace Matcher

variable {unseen : List String} {row row' : Row} {m : Matcher} {t u : Trail}

lemma required_agree {part : Option Part} (hpart : ∀ x ∈ part, Part.Blind unseen x)
    (h : row.Agree unseen row') : required part row = required part row' := by
  cases part with
  | none => rfl
  | some part => rw [required, required, hpart part rfl row row' h]

section

variable {n : NodePattern Part} (hname : ∀ k ∈ n.name, k ∉ unseen)
include hname

lemma candidates_agree (hpart : ∀ x ∈ n.properties, Part.Blind unseen x)
    (h : row.Agree unseen row') : m.candidates n row = m.candidates n row' := by
  rw [candidates, candidates, required_agree hpart h, h.bound? hname]

lemma endFits_agree (h : row.Agree unseen row') : m.endFits n row = m.endFits n row' := by
  funext required id
  rw [endFits, endFits, h.bound? hname]

end

lemma hopWalks_agree {p : RelPattern Part} (hname : ∀ n ∈ p.name, n ∉ unseen)
    (h : t.Agree unseen u) (required : Properties) (origin : NodeId) :
    m.hopWalks p required t origin = m.hopWalks p required u origin := by
  rw [hopWalks, hopWalks, h.used, h.row.bound? hname]

/-- A hop that does not look up some names. -/
structure HopBlind (unseen : List String) (h : Hop Part) : Prop where
  rel : ∀ n ∈ h.rel.name, n ∉ unseen
  relProperties : ∀ x ∈ h.rel.properties, Part.Blind unseen x
  node : ∀ n ∈ h.node.name, n ∉ unseen
  nodeProperties : ∀ x ∈ h.node.properties, Part.Blind unseen x

section

variable {hop : Hop Part} (hhop : HopBlind unseen hop) (h : t.Agree unseen u)
include hhop h

lemma hopMove_agree :
    Paired (List.Forall₂ (Trail.Agree unseen)) (m.hopMove hop t) (m.hopMove hop u) := by
  rw [hopMove, hopMove, required_agree hhop.relProperties h.row,
    required_agree hhop.nodeProperties h.row, h.path]
  refine Paired.bind_same _ fun relProps => ?_
  refine Paired.bind_same _ fun nodeProps => ?_
  split
  · exact .ok .nil
  next origin _ =>
    rw [hopWalks_agree hhop.rel h, endFits_agree hhop.node h.row]
    refine .ok (List.rel_filterMap (R := (· = ·)) ?_ (List.forall₂_refl _))
    rintro w _ rfl
    dsimp only
    split_ifs
    · exact .some ⟨(h.row.bind _ _).bind _ _, by rw [h.used], rfl⟩
    · exact .none

lemma shortestMove_agree (all : Bool) :
    Paired (List.Forall₂ (Trail.Agree unseen)) (m.shortestMove all hop t)
      (m.shortestMove all hop u) := by
  rw [shortestMove, shortestMove, required_agree hhop.relProperties h.row,
    candidates_agree hhop.node hhop.nodeProperties h.row, h.path, h.used]
  refine Paired.bind_same _ fun relProps => ?_
  dsimp only
  split
  · exact .ok .nil
  · refine Paired.bind_same _ fun stops => ?_
    refine .ok (List.rel_flatMap (R := (· = ·)) (List.forall₂_refl _) ?_)
    rintro stop _ rfl
    refine List.rel_map (R := (· = ·)) ?_ (List.forall₂_refl _)
    rintro p _ rfl
    exact ⟨(h.row.bind _ _).bind _ _, rfl, rfl⟩

end

/-- The same moves can be made from both trails. -/
def MoveBlind (unseen : List String) (m : Matcher) (v : Move) : Prop :=
  ∀ t u : Trail, t.Agree unseen u →
    Paired (List.Forall₂ (Trail.Agree unseen)) (m.move t v) (m.move u v)

lemma moveBlind_ofPattern {p : PathPattern Part} (hp : p.Blind unseen) :
    ∀ v ∈ Move.ofPattern p, MoveBlind unseen m v := by
  have hhop {k : Hop Part} (hk : k ∈ p.hops) : HopBlind unseen k := by
    have hname {n : String} (hn : n ∈ k.rel.name.toList ++ k.node.name.toList) : n ∉ unseen :=
      hp.names n (List.mem_append_right _ (List.mem_flatMap.2 ⟨k, hk, hn⟩))
    obtain ⟨hrel, hnode⟩ := forall_mem_hop hp.properties hk
    exact ⟨fun n hn => hname (List.mem_append_left _ (Option.mem_toList.2 hn)), hrel,
      fun n hn => hname (List.mem_append_right _ (Option.mem_toList.2 hn)), hnode⟩
  intro v hv t u h
  simp only [Move.ofPattern, List.mem_cons, List.mem_append, List.not_mem_nil, or_false] at hv
  rcases hv with (rfl | hv) | rfl
  · have hname : ∀ n ∈ p.start.name, n ∉ unseen := fun n hn =>
      hp.names n (List.mem_append_left _ (List.mem_append_right _ (Option.mem_toList.2 hn)))
    have hpart : ∀ x ∈ p.start.properties, Part.Blind unseen x := fun x hx =>
      hp.properties x (List.mem_append_left _ (List.mem_append_left _ (Option.mem_toList.2 hx)))
    rw [move, move, candidates_agree hname hpart h.row]
    refine Paired.bind_same _ fun ids => ?_
    refine .ok (List.rel_map (R := (· = ·)) ?_ (List.forall₂_refl _))
    rintro id _ rfl
    exact ⟨h.row.bind _ _, h.used, rfl⟩
  · split_ifs at hv
    · obtain ⟨k, hk, rfl⟩ := List.mem_map.1 hv
      exact hopMove_agree (hhop hk) h
    · obtain rfl := List.mem_singleton.1 hv
      rw [move, move]
      split
      next k hops => exact shortestMove_agree (hhop (by simp [hops])) h _
      · exact .ok .nil
  · rw [move, move, h.path]
    exact .ok (.cons ⟨h.row.bind _ _, h.used, rfl⟩ .nil)

section

variable {vs : List Move} (hvs : ∀ v ∈ vs, MoveBlind unseen m v)
include hvs

lemma follow_agree (h : t.Agree unseen u) :
    Paired (List.Forall₂ (Trail.Agree unseen)) (m.follow vs t) (m.follow vs u) := by
  induction vs generalizing t u with
  | nil => exact .ok (.cons h .nil)
  | cons v vs ih =>
    rw [List.forall_mem_cons] at hvs
    rw [follow, follow]
    refine (hvs.1 t u h).bind fun ts us hts => ?_
    exact (Paired.mapM hts fun t u h => ih hvs.2 h).bind fun _ _ h => .ok (List.rel_flatten h)

lemma reaches_agree (h : t.Agree unseen u) : m.reaches vs t = m.reaches vs u := by
  induction vs generalizing t u with
  | nil => rfl
  | cons v vs ih =>
    rw [List.forall_mem_cons] at hvs
    rw [reaches, reaches]
    exact (hvs.1 t u h).bind_eq fun ts us hts => Paired.anyM_eq hts fun t u h => ih hvs.2 h

end

lemma agree_begin (h : row.Agree unseen row') : (Trail.begin row).Agree unseen (Trail.begin row') :=
  ⟨h, rfl, rfl⟩

/-- **The matches of patterns** differ in nothing but names that the patterns do not see. -/
theorem rows_agree {ps : List (PathPattern Part)} (hps : ∀ p ∈ ps, p.Blind unseen)
    (h : row.Agree unseen row') :
    Paired (Row.AgreeAll unseen) (m.rows ps row) (m.rows ps row') := by
  have hvs : ∀ v ∈ ps.flatMap Move.ofPattern, MoveBlind unseen m v := by
    intro v hv
    obtain ⟨p, hp, hv⟩ := List.mem_flatMap.1 hv
    exact moveBlind_ofPattern (hps p hp) v hv
  refine (follow_agree hvs (agree_begin h)).bind fun ts us hts => .ok ?_
  exact List.rel_map (fun _ _ h => h.row) hts

section

variable {p : PathPattern Part} (hp : p.Blind unseen)
include hp

lemma hasMatch_agree (h : row.Agree unseen row') : m.hasMatch p row = m.hasMatch p row' :=
  reaches_agree (moveBlind_ofPattern hp) (agree_begin h)

lemma paths_agree (h : row.Agree unseen row') : m.paths p row = m.paths p row' := by
  refine (follow_agree (moveBlind_ofPattern hp) (agree_begin h)).bind_eq fun ts us hts => ?_
  have hpaths : List.Forall₂ (· = ·) (ts.map Trail.path) (us.map Trail.path) :=
    List.rel_map (fun _ _ h => h.path) hts
  rw [List.forall₂_eq_eq_eq] at hpaths
  exact congrArg Except.ok hpaths

end

end Matcher

/-! ### Meanings -/

/-- Two groups have rows that agree one by one, or there is no group. -/
abbrev GroupsAgree (unseen : List String) : Option (List Row) → Option (List Row) → Prop :=
  Option.Rel (Row.AgreeAll unseen)

lemma GroupsAgree.mono {unseen unseen' : List String} {group group' : Option (List Row)}
    (h : GroupsAgree unseen group group') (hsub : unseen ⊆ unseen') :
    GroupsAgree unseen' group group' := by
  cases h with
  | none => exact .none
  | some hrows => exact .some (hrows.imp fun _ _ h => h.mono hsub)

/-- A meaning that does not depend on some names. -/
structure Meaning.Blind (unseen : List String) (m : Meaning) : Prop where
  eval : ∀ {env : Env} {group group' : Option (List Row)} {row row' : Row},
    GroupsAgree unseen group group' → row.Agree unseen row' →
      m.eval env group row = m.eval env group' row'
  paths : ∀ f ∈ m.paths, ∀ {env : Env} {row row' : Row}, row.Agree unseen row' →
    f env row = f env row'

lemma forall₂_map {α β γ : Type} {R : β → γ → Prop} {f : α → β} {g : α → γ} (xs : List α)
    (h : ∀ x, R (f x) (g x)) : List.Forall₂ R (xs.map f) (xs.map g) := by
  rw [List.forall₂_map_left_iff, List.forall₂_map_right_iff, List.forall₂_same]
  exact fun x _ => h x

namespace Meaning

variable {unseen unseen' : List String} {env : Env} {group group' : Option (List Row)}
  {row row' : Row}

lemma blind_ofName {n : String} (hn : n ∉ unseen) : (ofName n).Blind unseen where
  eval _ h := congrArg Except.ok (h.getD hn .null)
  paths f hf := absurd hf (Option.not_mem_none f)

lemma Blind.mono {m : Meaning} (hm : m.Blind unseen) (hsub : unseen' ⊆ unseen) :
    m.Blind unseen' where
  eval hg h := hm.eval (hg.mono hsub) (h.mono hsub)
  paths f hf _ _ _ h := hm.paths f hf (h.mono hsub)

/-! ### Parts -/

lemma Blind.value {m : Meaning} (hm : m.Blind unseen) (h : row.Agree unseen row') :
    m.value env row = m.value env row' := hm.eval .none h

lemma blind_parts {p : PathPattern Meaning} (hnames : ∀ n ∈ p.names, n ∉ unseen)
    (hp : ∀ x ∈ p.properties, x.Blind unseen) : (parts p env).Blind unseen where
  names := by rwa [parts, PathPattern.names_map]
  properties := by
    rw [parts, PathPattern.properties_map, List.forall_mem_map]
    exact fun m hm row row' h => (hp m hm).value h

lemma filterRows_agree {m : Option Meaning} (hm : ∀ x ∈ m, x.Blind unseen) {rows rows' : List Row}
    (hrows : Row.AgreeAll unseen rows rows') :
    Paired (Row.AgreeAll unseen) (filterRows m env rows) (filterRows m env rows') := by
  cases m with
  | none => exact .ok hrows
  | some m => exact .filterM hrows fun r r' h => by rw [holds, holds, (hm m rfl).eval .none h]

section

variable (hg : GroupsAgree unseen group group') (h : row.Agree unseen row')
include hg h

lemma Blind.holds {m : Meaning} (hm : m.Blind unseen) :
    m.holds env group row = m.holds env group' row' := by
  rw [Meaning.holds, Meaning.holds, hm.eval hg h]

lemma value?_agree {m : Option Meaning} (hm : ∀ x ∈ m, x.Blind unseen) :
    value? m env group row = value? m env group' row' := by
  cases m with
  | none => rfl
  | some m => exact congrArg (some <$> ·) ((hm m rfl).eval hg h)

lemma evals_agree {ms : List Meaning} (hm : ∀ x ∈ ms, x.Blind unseen) :
    (ms.mapM fun m => m.eval env group row) = ms.mapM fun m => m.eval env group' row' :=
  mapM_congr fun m hmem => (hm m hmem).eval hg h

/-! ### Lists -/

lemma overItems_agree {source : Meaning} (hs : source.Blind unseen)
    {f g : List Value → Except Error Value} (hfg : ∀ vs, f vs = g vs) :
    overItems env group row source f = overItems env group' row' source g := by
  rw [overItems, overItems, listItems?, listItems?, hs.eval hg h, funext hfg]

omit hg h in
lemma valuesWhere_agree {filter : Option Meaning} {m : Meaning} {Q : Row → Row → Prop}
    {rows rows' : List Row} (hrows : List.Forall₂ Q rows rows')
    (hw : ∀ r r', Q r r' → ∀ w ∈ filter, w.holds env group r = w.holds env group' r')
    (hm : ∀ r r', Q r r' → m.eval env group r = m.eval env group' r') :
    valuesWhere env group filter m rows = valuesWhere env group' filter m rows' := by
  rw [valuesWhere, valuesWhere, Paired.filterMapM_eq hrows fun r r' h => ?_]
  cases filter with
  | none => simp only [Option.elim, hm r r' h]
  | some w => simp only [Option.elim, hw r r' h w rfl, hm r r' h]

lemma listOf_agree {source : Meaning} (hs : source.Blind unseen)
    {filter projection : Option Meaning} (hw : ∀ x ∈ filter, x.Blind unseen)
    (hp : ∀ x ∈ projection, x.Blind unseen) (name : String) :
    listOf env group row name source filter projection =
      listOf env group' row' name source filter projection := by
  refine overItems_agree hg h hs fun vs => ?_
  refine valuesWhere_agree (Q := fun r r' => ∃ v, r = Dict.insert row name v ∧
    r' = Dict.insert row' name v) (forall₂_map vs fun v => ⟨v, rfl, rfl⟩) ?_ ?_
  · rintro _ _ ⟨v, rfl, rfl⟩ w hmem
    exact (hw w hmem).holds hg (h.insert name v)
  · rintro _ _ ⟨v, rfl, rfl⟩
    cases projection with
    | some p => exact (hp p rfl).eval hg (h.insert name v)
    | none => simp only [Option.getD_none, ofName, Dict.getD, Dict.get?_insert, if_true]

lemma quantified_agree {source predicate : Meaning} (hs : source.Blind unseen)
    (hp : predicate.Blind unseen) (q : Quantifier) (name : String) :
    quantified env group row q name source predicate =
      quantified env group' row' q name source predicate := by
  refine overItems_agree hg h hs fun vs => ?_
  rw [mapM_congr fun v _ => by rw [hp.eval hg (h.insert name v)]]

lemma reduce_agree {init source body : Meaning} (hi : init.Blind unseen)
    (hs : source.Blind unseen) (hb : body.Blind unseen) (accumulator name : String) :
    reduce env group row accumulator init name source body =
      reduce env group' row' accumulator init name source body := by
  rw [reduce, reduce, hi.eval hg h]
  refine bind_congr fun start => overItems_agree hg h hs fun vs => foldlM_congr (fun v _ u => ?_) _
  exact hb.eval hg ((h.insert accumulator u).insert name v)

/-! ### Maps -/

lemma mapOf_agree {name : String} {items : List (MapItem Meaning)} (hname : name ∉ unseen)
    (hread : ∀ n, MapItem.name n ∈ items → n ∉ unseen)
    (hi : ∀ i ∈ items, ∀ x ∈ i.parts, x.Blind unseen) :
    mapOf env group row name items = mapOf env group' row' name items := by
  have hentries (source : Properties) : items.mapM (mapEntries env group row source) =
      items.mapM (mapEntries env group' row' source) := by
    refine mapM_congr fun i hmem => ?_
    cases i with
    | everything | property => rfl
    | entry k x => simp only [mapEntries, (hi _ hmem x (List.mem_singleton_self x)).eval hg h]
    | name n => simp only [mapEntries, h.getD (hread n hmem)]
  simp only [mapOf, h.getD hname, hentries]

/-! ### Choices -/

lemma firstBranch_agree {taken taken' : Meaning → Except Error Bool} {fallback : Option Meaning}
    (hf : ∀ x ∈ fallback, x.Blind unseen) {branches : List (Meaning × Meaning)}
    (hb : ∀ b ∈ branches, taken b.1 = taken' b.1 ∧ b.2.Blind unseen) :
    firstBranch env group row taken fallback branches =
      firstBranch env group' row' taken' fallback branches := by
  induction branches with
  | nil => simp only [firstBranch, value?_agree hg h hf]
  | cons b bs ih =>
    rw [List.forall_mem_cons] at hb
    simp only [firstBranch, hb.1.1, hb.1.2.eval hg h, ih hb.2]

lemma choice_agree {subject fallback : Option Meaning} {branches : List (Meaning × Meaning)}
    (hs : ∀ x ∈ subject, x.Blind unseen)
    (hb : ∀ b ∈ branches, b.1.Blind unseen ∧ b.2.Blind unseen)
    (hf : ∀ x ∈ fallback, x.Blind unseen) :
    choice env group row subject branches fallback =
      choice env group' row' subject branches fallback := by
  rw [choice, choice, value?_agree hg h hs]
  refine bind_congr fun v => ?_
  cases v with
  | none => exact firstBranch_agree hg h hf fun b hmem => ⟨(hb b hmem).1.holds hg h, (hb b hmem).2⟩
  | some v =>
    exact firstBranch_agree hg h hf fun b hmem =>
      ⟨by rw [(hb b hmem).1.eval hg h], (hb b hmem).2⟩

/-! ### Calls -/

omit h in
lemma aggregate_agree {args : List Meaning} (ha : ∀ x ∈ args, x.Blind unseen) (a : Aggregate)
    (name : String) (distinct : Bool) :
    aggregate env group a name distinct args = aggregate env group' a name distinct args := by
  cases hg with
  | none => rfl
  | @some rows rows' hrows =>
    rcases args with _ | ⟨x, _ | _⟩
    · rfl
    · have hvalues : (rows.mapM fun r => x.value env r) = rows'.mapM fun r => x.value env r :=
        Paired.mapM_eq hrows fun r r' h => (ha x List.mem_cons_self).value h
      simp only [aggregate, hvalues]
    · rfl

lemma call_agree {args : List Meaning} (ha : ∀ x ∈ args, x.Blind unseen) (name : String)
    (distinct : Bool) :
    call env group row name distinct args = call env group' row' name distinct args := by
  rw [call, call]
  split
  · exact aggregate_agree hg ha _ _ _
  · rw [evals_agree hg h ha]

end

/-! ### Patterns -/

section

variable {p : PathPattern Meaning} (hnames : ∀ n ∈ p.names, n ∉ unseen)
  (hp : ∀ x ∈ p.properties, x.Blind unseen)
include hnames hp

lemma pathsIn_agree (h : row.Agree unseen row') : pathsIn env row p = pathsIn env row' p := by
  rw [pathsIn, pathsIn, Matcher.paths_agree (blind_parts hnames hp) h]

lemma matchesOf_agree (hg : GroupsAgree unseen group group') (h : row.Agree unseen row')
    {filter : Option Meaning} {projection : Meaning} (hw : ∀ x ∈ filter, x.Blind unseen)
    (hx : projection.Blind unseen) :
    matchesOf env group row p filter projection =
      matchesOf env group' row' p filter projection := by
  have hrows : Paired (Row.AgreeAll unseen) (env.matcher.rows [parts p env] row)
      (env.matcher.rows [parts p env] row') :=
    Matcher.rows_agree (by simpa using blind_parts hnames hp) h
  refine hrows.bind_eq fun rows rows' hrows => valuesWhere_agree hrows ?_ fun r r' h => hx.eval hg h
  exact fun r r' h w hmem => (hw w hmem).holds hg h

end

end Meaning

end PropertyGraph
