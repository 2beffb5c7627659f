import PropertyGraph.Proofs.Query.Exported
import PropertyGraph.Proofs.Table.Unseen

/-!
Queries that do not see some names that are bound around them.

Clauses make tables that differ in nothing but these names: a star passes them on, but rows must not
be told apart by what it stands for. Only a union compares whole rows, and so its parts have to list
their columns.
-/

namespace PropertyGraph

open Cypher

variable {unseen : List String} {env : Env}

/-! ### The condition -/

namespace Cypher

section

variable {ε : Type} (aggregates : ε → Bool) (unseen : List String)

def PathPattern.avoids (p : PathPattern ε) : Bool := p.names.all (· ∉ unseen)

/-- Whether a clause gives back listed columns only. -/
def Clause.listsResult : Clause ε → Bool
  | .returnItems b => !b.star
  | _ => false

/-- Whether a sequence of clauses ends with a result of listed columns only. -/
def endsInList (cs : List (Clause ε)) : Bool := cs.getLast?.any Clause.listsResult

/-- Whether a union does not tell rows apart by what a star stands for. -/
def QueryOf.idleUnion (q : Query ε) : Bool :=
  q.unions.all Branch.all || endsInList q.first && q.unions.all fun b => endsInList b.clauses

mutual

/-- Whether a clause does not use some names, as far as it is not up to the expressions in it. -/
def Clause.avoids : Clause ε → Bool
  | .matching _ ps _ => ps.all fun p => p.avoids unseen
  | .withItems b _ | .returnItems b => b.idleStar aggregates
  | .subquery ⟨first, unions⟩ =>
    Clause.allAvoid first && Clause.branchesAvoid unions && QueryOf.idleUnion ⟨first, unions⟩
  | _ => true

def Clause.allAvoid : List (Clause ε) → Bool
  | [] => true
  | c :: cs => c.avoids && Clause.allAvoid cs

def Clause.branchesAvoid : List (Branch (Clause ε)) → Bool
  | [] => true
  | ⟨_, cs⟩ :: bs => Clause.allAvoid cs && Clause.branchesAvoid bs

end

def QueryOf.avoids (q : Query ε) : Bool :=
  Clause.allAvoid aggregates unseen q.first && Clause.branchesAvoid aggregates unseen q.unions &&
    q.idleUnion

/-- Whether a pattern or a query in a layer does not use some names. -/
def Layer.bodyAvoids : Layer ε → Bool
  | .matchesOf p _ _ | .matched p | .paths p => p.avoids unseen
  | .existsQuery q => q.avoids aggregates unseen
  | _ => true

/-- Whether a layer does not use some names, as far as it is not up to its parts. -/
def Layer.avoids (l : Layer ε) : Bool :=
  l.reads.all (· ∉ unseen) && l.bodyAvoids aggregates unseen

end

lemma PathPattern.not_mem_of_avoids {ε : Type} {p : PathPattern ε} (h : p.avoids unseen) :
    ∀ n ∈ p.names, n ∉ unseen := by
  simpa [avoids] using h

end Cypher

/-! ### Unions and subqueries -/

/-- Two outputs are the same, but for some names. -/
structure Output.Agree (unseen : List String) (o o' : Output) : Prop where
  table : o.table.Agree unseen o'.table
  returns : o.returns = o'.returns

namespace Table

lemma Agree.declare {t t' : Table} (h : t.Agree unseen t') {rows rows' : List Row}
    (hrows : Row.AgreeAll unseen rows rows') (names : List String) :
    Agree unseen ({ t with rows }.declare names) ({ t' with rows := rows' }.declare names) where
  columns n hn := by
    rw [Table.declare, Table.declare, mem_addColumns, mem_addColumns, h.columns n hn]
  rows := hrows

lemma agree_ofRow {row row' : Row} (h : row.Agree unseen row') :
    (ofRow row).Agree unseen (ofRow row') where
  columns n hn := by
    change n ∈ Dict.keys row ↔ n ∈ Dict.keys row'
    rw [Row.mem_keys, Row.mem_keys, Dict.contains, Dict.contains, h n hn]
  rows := .cons h .nil

lemma Agree.flatten {t t' : Table} (h : t.Agree unseen t') {f : Row → Except Error (List Row)}
    (hf : ∀ row row', Row.Agree unseen row row' → Paired (Row.AgreeAll unseen) (f row) (f row')) :
    Paired (fun rowss rowss' => Row.AgreeAll unseen rowss.flatten rowss'.flatten)
      (t.rows.mapM f) (t'.rows.mapM f) :=
  (Paired.mapM h.rows hf).imp fun _ _ h => List.rel_flatten h

lemma join_agree {t t' : Table} (h : t.Agree unseen t') {run : Row → Except Error Output}
    (hrun : ∀ row row', Row.Agree unseen row row' →
      Paired (Output.Agree unseen) (run row) (run row')) :
    Paired (Agree unseen) (t.join run) (t'.join run) := by
  have hjoined : Paired (List.Forall₂ fun e e' : Row × Output =>
      Row.Agree unseen e.1 e'.1 ∧ e.2.Agree unseen e'.2)
      (t.rows.mapM fun row => do return (row, ← run row))
      (t'.rows.mapM fun row => do return (row, ← run row)) :=
    Paired.mapM h.rows fun row row' h => (hrun row row' h).bind fun o o' ho => .ok ⟨h, ho⟩
  refine hjoined.bind fun joined joined' hjoined => .ok ⟨fun n hn => ?_, ?_⟩
  · obtain ⟨zs, rfl, rfl, hzs⟩ := exists_pairs hjoined
    rw [mem_foldl_joinColumns, mem_foldl_joinColumns, h.columns n hn]
    simp only [List.mem_map, exists_exists_and_eq_and]
    refine or_congr_right (exists_congr fun z => and_congr_right fun hz => ?_)
    rw [(hzs z hz).2.returns, (hzs z hz).2.table.columns n hn]
  · refine List.rel_flatMap hjoined fun e e' he => ?_
    rw [Output.joinRows, Output.joinRows, he.2.returns]
    split_ifs
    · refine List.rel_map (R := Row.Agree unseen) (fun r r' hr => ?_) he.2.table.rows
      exact Output.joinRow_agree he.1 hr he.2.table.columns
    · exact .cons he.1 .nil

end Table

lemma Output.Agree.refl (o : Output) : o.Agree unseen o where
  table := ⟨fun _ _ => Iff.rfl, List.forall₂_same.2 fun row _ => .refl row⟩
  returns := rfl

lemma Output.Agree.union {o o' x x' : Output} (ho : o.Agree unseen o') (hx : x.Agree unseen x') :
    (o.union true x).Agree unseen (o'.union true x') where
  table :=
    { columns := fun n hn => by
        simp only [Output.union, Table.declare, if_true, Table.mem_addColumns,
          ho.table.columns n hn, hx.table.columns n hn]
      rows := List.rel_append ho.table.rows hx.table.rows }
  returns := by simp only [Output.union, ho.returns, hx.returns]

/-! ### Single clauses -/

namespace Query

variable {t t' : Table}

lemma matchRow_agree {ps : List (PathPattern Meaning)} (hps : ∀ p ∈ ps, p.avoids unseen)
    (hparts : ∀ x ∈ ps.flatMap PathPattern.properties, x.Blind unseen) {filter : Option Meaning}
    (hw : ∀ x ∈ filter, x.Blind unseen) (optional : Bool) {row row' : Row}
    (h : row.Agree unseen row') :
    Paired (Row.AgreeAll unseen) (matchRow env optional ps filter row)
      (matchRow env optional ps filter row') := by
  have hblind : ∀ p ∈ ps.map fun p => Meaning.parts p env, p.Blind unseen := by
    rw [List.forall_mem_map]
    exact fun p hp => Meaning.blind_parts (PathPattern.not_mem_of_avoids (hps p hp))
      fun x hx => hparts x (List.mem_flatMap.2 ⟨p, hp, hx⟩)
  refine (Matcher.rows_agree hblind h).bind fun found found' hfound => ?_
  refine (Meaning.filterRows_agree hw hfound).bind fun kept kept' hkept => ?_
  have hempty : kept.isEmpty = kept'.isEmpty := by cases hkept <;> rfl
  rw [hempty]
  split_ifs
  · refine .ok (.cons (h.bindNulls fun n hn => ?_) .nil)
    obtain ⟨p, hp, hn⟩ := List.mem_flatMap.1 hn
    exact PathPattern.not_mem_of_avoids (hps p hp) n hn
  · exact .ok hkept

lemma call_agree {c : ProcedureCall Meaning} (hc : ∀ x ∈ c.parts, x.Blind unseen)
    (h : t.Agree unseen t') :
    Paired (Table.Agree unseen) (call env c t) (call env c t') := by
  simp only [ProcedureCall.parts, List.forall_mem_append, Option.mem_toList] at hc
  rw [call, call]
  split
  · exact .error _
  next p _ =>
    refine Paired.bind_same _ fun outs => ?_
    refine (h.flatten fun row row' hrow => ?_).bind fun rowss rowss' hrows => ?_
    · rw [procedureRows, procedureRows, mapM_congr fun m hm => (hc.1 m hm).value hrow]
      refine Paired.bind_same _ fun lines => ?_
      refine .ok (forall₂_map lines fun values => ?_)
      have hmerge := hrow.merge (outs.map fun o => (o.1, values.getD o.2 .null))
      rwa [Dict.merge, Dict.merge, List.foldl_map, List.foldl_map] at hmerge
    · exact (Meaning.filterRows_agree hc.2 hrows).bind fun kept kept' hkept =>
        .ok (h.declare hkept _)

/-- **A clause that holds no others** makes the same of two tables, but for some names. -/
theorem readStep_agree {c : Clause Meaning} (hc : c.avoids Meaning.aggregates unseen)
    (hparts : ∀ x ∈ c.parts, x.Blind unseen) (h : t.Agree unseen t') :
    Paired (fun u u' => u.Agree unseen u' ∧ (c.listsResult → u = u')) (readStep env c t)
      (readStep env c t') := by
  cases c with
  | matching optional ps w =>
    simp only [Clause.parts, List.forall_mem_append, Option.mem_toList] at hparts
    refine (h.flatten fun row row' hrow => ?_).bind fun rowss rowss' hrows =>
      .ok ⟨h.declare hrows _, fun hs => absurd hs Bool.false_ne_true⟩
    exact matchRow_agree (List.all_eq_true.1 hc) hparts.1 hparts.2 optional hrow
  | unwind x n =>
    have hx := hparts x (by simp [Clause.parts])
    refine (h.flatten fun row row' hrow => ?_).bind fun rowss rowss' hrows =>
      .ok ⟨h.declare hrows _, fun hs => absurd hs Bool.false_ne_true⟩
    rw [hx.value hrow]
    refine Paired.bind_same _ fun v => ?_
    exact .ok (forall₂_map _ fun v => hrow.insert n v)
  | withItems b w =>
    simp only [Clause.parts, List.forall_mem_append, Option.mem_toList] at hparts
    refine (Table.project_agree hc hparts.1 h).bind fun u u' hu => ?_
    exact (Meaning.filterRows_agree hparts.2 hu.1.rows).bind fun kept kept' hkept =>
      .ok ⟨⟨hu.1.columns, hkept⟩, fun hs => absurd hs Bool.false_ne_true⟩
  | returnItems b =>
    refine (Table.project_agree hc hparts h).imp fun u u' hu => ⟨hu.1, fun hs => hu.2 ?_⟩
    simpa [Clause.listsResult] using hs
  | call c =>
    exact (call_agree hparts h).imp fun u u' hu => ⟨hu, fun hs => absurd hs Bool.false_ne_true⟩
  | _ => exact .error _

/-! ### Queries -/

lemma idle_of_idleUnion {q : Query Meaning} (hq : q.idleUnion) {o o' : Output}
    (ho : endsInList q.first → o = o') :
    q.unions.all Branch.all ∨ o = o' ∧ q.unions.all fun b => endsInList b.clauses := by
  rw [QueryOf.idleUnion, Bool.or_eq_true, Bool.and_eq_true] at hq
  exact hq.imp_right fun h => ⟨ho h.1, h.2⟩

mutual

lemma readClause_agree {c : Clause Meaning} (hc : c.avoids Meaning.aggregates unseen)
    (hparts : ∀ x ∈ c.parts, x.Blind unseen) {t t' : Table} (h : t.Agree unseen t') :
    Paired (fun u u' => u.Agree unseen u' ∧ (c.listsResult → u = u')) (readClause env t c)
      (readClause env t' c) := by
  match c with
  | .subquery ⟨first, unions⟩ =>
    rw [Clause.parts, List.forall_mem_append] at hparts
    simp only [Clause.avoids, Bool.and_eq_true] at hc
    obtain ⟨⟨hfirst, hunions⟩, hidle⟩ := hc
    rw [readClause, readClause]
    refine (Table.join_agree h fun row row' hrow => ?_).imp fun u u' hu =>
      ⟨hu, fun hs => absurd hs Bool.false_ne_true⟩
    have hseed := Table.agree_ofRow hrow
    have hstart : Output.Agree unseen ⟨.ofRow row, false⟩ ⟨.ofRow row', false⟩ := ⟨hseed, rfl⟩
    refine (readClauses_agree hfirst hparts.1 hstart).bind fun o o' ho => ?_
    exact readBranches_agree hunions hparts.2 hseed ho.1 (idle_of_idleUnion hidle ho.2)
  | .matching .. | .unwind .. | .withItems .. | .returnItems .. | .create .. | .merge .. | .set ..
  | .remove .. | .delete .. | .foreach .. | .call .. =>
    simp only [readClause]
    split_ifs
    · exact .error _
    · exact readStep_agree hc hparts h

lemma readClauses_agree {cs : List (Clause Meaning)}
    (hc : Clause.allAvoid Meaning.aggregates unseen cs)
    (hparts : ∀ x ∈ Clause.allParts cs, x.Blind unseen) {o o' : Output} (h : o.Agree unseen o') :
    Paired (fun u u' => u.Agree unseen u' ∧ (endsInList cs → u = u')) (readClauses env o cs)
      (readClauses env o' cs) := by
  match cs with
  | [] => exact .ok ⟨h, fun hs => absurd hs Bool.false_ne_true⟩
  | c :: cs =>
    rw [Clause.allAvoid, Bool.and_eq_true] at hc
    rw [Clause.allParts, List.forall_mem_append] at hparts
    rw [readClauses, readClauses]
    refine (readClause_agree hc.1 hparts.1 h.table).bind fun t t' ht => ?_
    have hnext : Output.Agree unseen ⟨t, c.makesResult⟩ ⟨t', c.makesResult⟩ := ⟨ht.1, rfl⟩
    match cs with
    | [] => exact .ok ⟨hnext, fun hends => by rw [ht.2 hends]⟩
    | k :: cs =>
      refine (readClauses_agree hc.2 hparts.2 hnext).imp fun u u' hu => ⟨hu.1, fun hends => hu.2 ?_⟩
      rwa [endsInList, List.getLast?_cons_cons] at hends

/-- Outputs of parts are put together as they are, or they are the same on both sides. -/
lemma readBranches_agree {bs : List (Branch (Clause Meaning))}
    (hb : Clause.branchesAvoid Meaning.aggregates unseen bs)
    (hparts : ∀ x ∈ Clause.branchParts bs, x.Blind unseen) {seed seed' : Table}
    (hseed : seed.Agree unseen seed') {o o' : Output} (h : o.Agree unseen o')
    (hidle : bs.all Branch.all ∨ o = o' ∧ bs.all fun b => endsInList b.clauses) :
    Paired (Output.Agree unseen) (readBranches env seed o bs) (readBranches env seed' o' bs) := by
  match bs with
  | [] => exact .ok h
  | ⟨all, cs⟩ :: bs =>
    rw [Clause.branchesAvoid, Bool.and_eq_true] at hb
    rw [Clause.branchParts, List.forall_mem_append] at hparts
    simp only [List.all_cons, Bool.and_eq_true] at hidle
    rw [readBranches, readBranches]
    have hstart : Output.Agree unseen ⟨seed, false⟩ ⟨seed', false⟩ := ⟨hseed, rfl⟩
    refine (readClauses_agree hb.1 hparts.1 hstart).bind fun x x' hx => ?_
    rcases hidle with ⟨rfl, hall⟩ | ⟨rfl, hends, hlist⟩
    · exact readBranches_agree hb.2 hparts.2 hseed (h.union hx.1) (.inl hall)
    · obtain rfl := hx.2 hends
      exact readBranches_agree hb.2 hparts.2 hseed (.refl _) (.inr ⟨rfl, hlist⟩)

end

/-- **Reading queries** that do not use some names make the same of two tables, but for these. -/
theorem read_agree {q : Query Meaning} (hq : q.avoids Meaning.aggregates unseen)
    (hparts : ∀ x ∈ q.parts, x.Blind unseen) {seed seed' : Table} (h : seed.Agree unseen seed') :
    Paired (Output.Agree unseen) (read env seed q) (read env seed' q) := by
  simp only [QueryOf.avoids, Bool.and_eq_true] at hq
  rw [QueryOf.parts, List.forall_mem_append] at hparts
  obtain ⟨⟨hfirst, hunions⟩, hidle⟩ := hq
  have hstart : Output.Agree unseen ⟨seed, false⟩ ⟨seed', false⟩ := ⟨h, rfl⟩
  refine (readClauses_agree hfirst hparts.1 hstart).bind fun o o' ho => ?_
  exact readBranches_agree hunions hparts.2 h ho.1 (idle_of_idleUnion hidle ho.2)

end Query

/-! ### Expressions -/

namespace Meaning

variable {group group' : Option (List Row)} {row row' : Row}

/-- The value of a layer that does not use some names. -/
lemma evalLayer_agree {l : Layer Meaning} (hl : l.avoids aggregates unseen)
    (hparts : ∀ x ∈ l.parts, x.Blind unseen) (hg : GroupsAgree unseen group group')
    (h : row.Agree unseen row') : evalLayer env group row l = evalLayer env group' row' l := by
  obtain ⟨hreads, hl⟩ := Bool.and_eq_true_iff.1 hl
  have hreads : ∀ n ∈ l.reads, n ∉ unseen := by simpa using hreads
  cases l with
  | literal | parameter => rfl
  | name n => exact congrArg Except.ok (h.getD (hreads n (by simp [Layer.reads])) .null)
  | countRows =>
    cases hg with
    | none => rfl
    | some hrows => simp only [evalLayer, hrows.length_eq]
  | property t k | unary _ t | isNull t _ | hasLabels t ls | existsValue t =>
    simp only [evalLayer, (hparts t (by simp [Layer.parts])).eval hg h]
  | index t i | binary _ t i =>
    simp only [evalLayer, (hparts t (by simp [Layer.parts])).eval hg h,
      (hparts i (by simp [Layer.parts])).eval hg h]
  | slice t a b =>
    simp only [Layer.parts, List.forall_mem_append, List.forall_mem_cons, Option.mem_toList]
      at hparts
    simp only [evalLayer, hparts.1.1.eval hg h, value?_agree hg h hparts.1.2,
      value?_agree hg h hparts.2]
  | list xs =>
    have hxs : ∀ x ∈ xs, x.Blind unseen := hparts
    simp only [evalLayer, evals_agree hg h hxs]
  | map es =>
    have hes : es.mapM (fun e => do return (e.1, ← e.2.eval env group row)) =
        es.mapM fun e => do return (e.1, ← e.2.eval env group' row') :=
      mapM_congr fun e he => by rw [(hparts e.2 (List.mem_map_of_mem he)).eval hg h]
    simp only [evalLayer, hes]
  | call n d xs => exact call_agree hg h hparts n d
  | case s bs d =>
    simp only [Layer.parts, List.forall_mem_append, List.forall_mem_flatMap, List.forall_mem_cons,
      Option.mem_toList] at hparts
    obtain ⟨⟨hs, hbs⟩, hd⟩ := hparts
    exact choice_agree hg h hs (fun b hb => ⟨(hbs b hb).1, (hbs b hb).2.1⟩) hd
  | listOf n s w p =>
    simp only [Layer.parts, List.forall_mem_append, List.forall_mem_cons, Option.mem_toList]
      at hparts
    exact listOf_agree hg h hparts.1.1 hparts.1.2 hparts.2 n
  | quantified q n s p =>
    exact quantified_agree hg h (hparts s (by simp [Layer.parts]))
      (hparts p (by simp [Layer.parts])) q n
  | reduce a i n s b =>
    exact reduce_agree hg h (hparts i (by simp [Layer.parts])) (hparts s (by simp [Layer.parts]))
      (hparts b (by simp [Layer.parts])) a n
  | matchesOf p w x =>
    simp only [Layer.parts, List.forall_mem_append, List.forall_mem_cons, Option.mem_toList]
      at hparts
    exact matchesOf_agree (PathPattern.not_mem_of_avoids hl) hparts.1.2 hg h hparts.2 hparts.1.1
  | matched p =>
    have hp : (parts p env).Blind unseen := blind_parts (PathPattern.not_mem_of_avoids hl) hparts
    simp only [evalLayer, Matcher.hasMatch_agree hp h]
  | mapOf n is =>
    refine mapOf_agree hg h (hreads n (by simp [Layer.reads])) (fun k hk => hreads k ?_)
      fun i hi x hx => hparts x (List.mem_flatMap.2 ⟨i, hi, hx⟩)
    exact List.mem_cons_of_mem _ (List.mem_filterMap.2 ⟨_, hk, rfl⟩)
  | existsQuery q =>
    refine (Query.read_agree hl hparts (Table.agree_ofRow h)).bind_eq fun o o' ho => ?_
    have hempty : o.table.rows.isEmpty = o'.table.rows.isEmpty := by
      rw [Bool.eq_iff_iff, List.isEmpty_iff_length_eq_zero, List.isEmpty_iff_length_eq_zero,
        ho.table.rows.length_eq]
    rw [hempty]
  | paths p =>
    simp only [evalLayer, pathValue, pathsIn_agree (PathPattern.not_mem_of_avoids hl) hparts h]

/-- A layer that does not use some names does not see them unless a part of it does. -/
lemma blind_ofLayer {l : Layer Meaning} (hl : l.avoids aggregates unseen)
    (hparts : ∀ x ∈ l.parts, x.Blind unseen) : (ofLayer l).Blind unseen where
  eval hg h := evalLayer_agree hl hparts hg h
  paths f hf env row row' h := by
    cases l with
    | paths p =>
      obtain rfl := Option.some.inj hf
      have hp := PathPattern.not_mem_of_avoids (Bool.and_eq_true_iff.1 hl).2
      simp only [joinedPaths, pathsIn_agree hp hparts h]
    | _ => exact absurd hf (Option.not_mem_none f)

end Meaning

namespace Cypher

/-! ### The condition on folds -/

section

variable {δ : Type} (f : Layer δ → δ) (aggregates : δ → Bool) (unseen : List String)

lemma avoids_foldPath (p : PathPattern Expr) :
    (Expr.foldPath f p).avoids unseen = p.avoids unseen := by
  rw [PathPattern.avoids, PathPattern.avoids, Expr.foldPath_eq_map, PathPattern.names_map]

lemma avoids_foldPaths (ps : List (PathPattern Expr)) :
    ((Expr.foldPaths f ps).all fun p => p.avoids unseen) = ps.all fun p => p.avoids unseen := by
  induction ps with
  | nil => rfl
  | cons p ps ih => rw [Expr.foldPaths, List.all_cons, List.all_cons, avoids_foldPath, ih]

lemma idleStar_foldProjection (b : Projection Expr) :
    (Expr.foldProjection f b).idleStar aggregates =
      b.idleStar fun x => aggregates (Expr.fold f x) := by
  have hitems (is : List (ProjectionItem Expr)) :
      ((Expr.foldItems f is).any fun i => aggregates i.expr) =
        is.any fun i => aggregates (Expr.fold f i.expr) := by
    induction is with
    | nil => rfl
    | cons i is ih => rw [Expr.foldItems, List.any_cons, List.any_cons, ih]
  cases b
  rw [Projection.idleStar, Projection.idleStar, Expr.foldProjection, hitems]

lemma endsInList_foldClauses (cs : List (Clause Expr)) :
    endsInList (Expr.foldClauses f cs) = endsInList cs := by
  have hfold (c : Clause Expr) : (Expr.foldClause f c).listsResult = c.listsResult := by
    cases c with
    | returnItems b => cases b; rfl
    | _ => rfl
  rw [endsInList, endsInList, Expr.getLast?_foldClauses, Option.any_map]
  simp only [hfold]

lemma idleUnion_foldQuery (q : Query Expr) : (Expr.foldQuery f q).idleUnion = q.idleUnion := by
  have hbranches (bs : List (Branch (Clause Expr))) :
      (Expr.foldBranchQueries f bs).all Branch.all = bs.all Branch.all ∧
        ((Expr.foldBranchQueries f bs).all fun b => endsInList b.clauses) =
          bs.all fun b => endsInList b.clauses := by
    induction bs with
    | nil => exact ⟨rfl, rfl⟩
    | cons b bs ih =>
      simp only [Expr.foldBranchQueries, List.all_cons, ih.1, ih.2, endsInList_foldClauses,
        and_self]
  cases q
  rw [Expr.foldQuery, QueryOf.idleUnion, QueryOf.idleUnion, (hbranches _).1, (hbranches _).2,
    endsInList_foldClauses]

mutual

lemma avoids_foldClause (c : Clause Expr) :
    (Expr.foldClause f c).avoids aggregates unseen =
      c.avoids (fun x => aggregates (Expr.fold f x)) unseen := by
  match c with
  | .matching o ps w => rw [Expr.foldClause, Clause.avoids, Clause.avoids, avoids_foldPaths]
  | .withItems b _ | .returnItems b =>
    rw [Expr.foldClause, Clause.avoids, Clause.avoids, idleStar_foldProjection]
  | .subquery ⟨first, unions⟩ =>
    have hidle := idleUnion_foldQuery f ⟨first, unions⟩
    rw [Expr.foldQuery] at hidle
    rw [Expr.foldClause, Expr.foldQuery, Clause.avoids, Clause.avoids, hidle,
      avoids_foldClauses first, avoids_foldBranches unions]
  | .unwind .. | .create .. | .merge .. | .set .. | .remove .. | .delete .. | .foreach ..
  | .call .. => rfl

lemma avoids_foldClauses (cs : List (Clause Expr)) :
    Clause.allAvoid aggregates unseen (Expr.foldClauses f cs) =
      Clause.allAvoid (fun x => aggregates (Expr.fold f x)) unseen cs := by
  match cs with
  | [] => rfl
  | c :: cs =>
    rw [Expr.foldClauses, Clause.allAvoid, Clause.allAvoid, avoids_foldClause c,
      avoids_foldClauses cs]

lemma avoids_foldBranches (bs : List (Branch (Clause Expr))) :
    Clause.branchesAvoid aggregates unseen (Expr.foldBranchQueries f bs) =
      Clause.branchesAvoid (fun x => aggregates (Expr.fold f x)) unseen bs := by
  match bs with
  | [] => rfl
  | ⟨all, cs⟩ :: bs =>
    rw [Expr.foldBranchQueries, Clause.branchesAvoid, Clause.branchesAvoid, avoids_foldClauses cs,
      avoids_foldBranches bs]

end

lemma reads_foldLayer (l : Layer Expr) : (Expr.foldLayer f l).reads = l.reads := by
  cases l with
  | mapOf n is =>
    rw [Expr.foldLayer, Layer.reads, Layer.reads]
    congr 1
    induction is with
    | nil => rfl
    | cons i is ih => cases i <;> simp [Expr.foldMapItems, ih]
  | _ => rfl

lemma avoids_foldLayer (l : Layer Expr) :
    (Expr.foldLayer f l).avoids aggregates unseen =
      l.avoids (fun x => aggregates (Expr.fold f x)) unseen := by
  have hbody : (Expr.foldLayer f l).bodyAvoids aggregates unseen =
      l.bodyAvoids (fun x => aggregates (Expr.fold f x)) unseen := by
    cases l with
    | matchesOf p _ _ | matched p | paths p => exact avoids_foldPath f unseen p
    | existsQuery q =>
      change (Expr.foldQuery f q).avoids aggregates unseen = q.avoids _ unseen
      rw [QueryOf.avoids, QueryOf.avoids, idleUnion_foldQuery]
      cases q
      rw [Expr.foldQuery, avoids_foldClauses, avoids_foldBranches]
    | _ => rfl
  rw [Layer.avoids, Layer.avoids, reads_foldLayer, hbody]

end

/-! ### Expressions that avoid names -/

/-- What is known of an expression: whether it avoids some names, and whether it aggregates. -/
structure Usage where
  avoids : Bool
  aggregates : Bool

def Layer.usage (unseen : List String) (l : Layer Usage) : Usage where
  avoids := l.avoids Usage.aggregates unseen && l.parts.all Usage.avoids
  aggregates := (l.mapParts Usage.aggregates).aggregates

/-- Whether an expression does not use some names, wherever it might read them. -/
def Expr.avoids (unseen : List String) (x : Expr) : Bool := (x.fold (Layer.usage unseen)).avoids

lemma Expr.aggregates_usage (unseen : List String) (x : Expr) :
    (x.fold (Layer.usage unseen)).aggregates = x.aggregates :=
  map_fold (g := Usage.aggregates) (fun _ => rfl) x

lemma Layer.sameRowParts_mapParts {ε δ : Type} (g : ε → δ) (l : Layer ε) :
    (l.mapParts g).sameRowParts = l.sameRowParts.map g := by
  cases l with
  | mapOf n is =>
    simp only [mapParts, sameRowParts, List.filterMap_map, List.map_filterMap]
    refine List.filterMap_congr fun i _ => ?_
    cases i <;> rfl
  | case s bs d =>
    simp [mapParts, sameRowParts, Option.toList_map, List.flatMap_map, List.map_flatMap]
  | slice t a b => simp [mapParts, sameRowParts, Option.toList_map]
  | map es => simp [mapParts, sameRowParts, Function.comp_def]
  | _ => rfl

lemma Expr.aggregates_meaning (x : Expr) : x.meaning.aggregates = x.aggregates := by
  refine map_fold (g := Meaning.aggregates) (fun l => ?_) x
  have hself : (l.mapParts Meaning.aggregates).isAggregate = l.isAggregate := by cases l <;> rfl
  rw [Layer.aggregates, hself, Layer.sameRowParts_mapParts, List.any_map]
  rfl

lemma Expr.avoids_of (unseen : List String) (l : Layer Expr) :
    (of l).avoids unseen =
      (l.avoids Expr.aggregates unseen && l.parts.all fun x => x.avoids unseen) := by
  rw [Expr.avoids, fold, Layer.usage, avoids_foldLayer, parts_foldLayer, List.all_map]
  simp only [aggregates_usage]
  rfl

/-- **What does not use some names does not see them.** -/
theorem Expr.blind_meaning {x : Expr} (hx : x.avoids unseen) : x.meaning.Blind unseen := by
  induction x using layerInduction with
  | _ l ih =>
    rw [avoids_of, Bool.and_eq_true, List.all_eq_true] at hx
    refine Meaning.blind_ofLayer ?_ ?_
    · rw [avoids_foldLayer]
      exact (congrArg (fun f => l.avoids f unseen) (funext aggregates_meaning)).trans hx.1
    · rw [parts_foldLayer, List.forall_mem_map]
      exact fun y hy => ih y hy (hx.2 y hy)

end Cypher

end PropertyGraph
