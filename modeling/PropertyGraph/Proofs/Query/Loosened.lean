import PropertyGraph.Proofs.Matching.Loosened

/-!
MATCH with tests inside of its patterns, and MATCH with conditions in WHERE.

The rows that loosened patterns find and a filter lets through are those that the patterns find.
What remains is that a filter may fail on a row that the patterns themselves would not have found:
with conditions that WHERE had before, the loosened MATCH gives the same or fails.
-/

namespace PropertyGraph

namespace Query

open Cypher

variable {env : Env} {ps qs : List (PathPattern Expr)} {xs : List Expr} {w w' : Option Expr}

/-- What OPTIONAL MATCH makes of no rows at all. -/
def orNulls (optional : Bool) (names : List String) (row : Row) (kept : List Row) : List Row :=
  if kept.isEmpty && optional then [bindNulls names row] else kept

lemma matchRow_eq {row : Row} {rows : List Row} (optional : Bool)
    (h : env.matcher.rows (ps.map fun p => Meaning.parts (p.map Expr.meaning) env) row = .ok rows) :
    matchRow env optional (ps.map (·.map Expr.meaning)) (w.map Expr.meaning) row =
      Meaning.filterRows (w.map Expr.meaning) env rows >>= fun kept =>
        .ok (orNulls optional (ps.flatMap PathPattern.names) row kept) := by
  rw [matchRow, List.map_map, List.flatMap_map]
  change (env.matcher.rows (ps.map fun p => Meaning.parts (p.map Expr.meaning) env) row >>= _) = _
  rw [h]
  refine congrArg (Meaning.filterRows (w.map Expr.meaning) env rows >>= ·) (funext fun kept => ?_)
  simp only [PathPattern.names_map, orNulls]
  split <;> rfl

/-- Whether a condition has a truth value in all rows that patterns find in a row. -/
def TruthfulOn (env : Env) (w : Option Expr) (qs : List (PathPattern Expr)) (row : Row) : Prop :=
  ∀ rows,
    env.matcher.rows (qs.map fun q => Meaning.parts (q.map Expr.meaning) env) row = .ok rows →
    ∀ row' ∈ rows, ∀ x ∈ w, x.Truthful env row'

section

variable (hs : env.store.Sound) (h : Each PathPattern.Loosens ps qs xs)
  (hall : ∀ p ∈ ps, p.selector = .all)
  (hrecord : ∀ e ∈ ps.flatMap PathPattern.properties, e.IsRecord env)
  (hone : OneRole (ps.flatMap PathPattern.binders)) (hw : Expr.Filters w' (w.toList ++ xs))
include hs h hall hrecord hone hw

/-- In one row: the loosened patterns give no more, and fail only with what WHERE had before. -/
theorem matchRow_loosened (optional : Bool) (row : Row) :
    let tight := matchRow env optional (ps.map (·.map Expr.meaning)) (w.map Expr.meaning) row
    let loose := matchRow env optional (qs.map (·.map Expr.meaning)) (w'.map Expr.meaning) row
    Refines loose tight ∧
      (TruthfulOn env w qs row → ∃ rows, loose = .ok rows ∧ tight = .ok rows) := by
  intro tight loose
  obtain ⟨found, hloose, htight, htruthful⟩ := Matcher.rows_loosened hs h hall hrecord hone row
  have hnames : qs.flatMap PathPattern.names = ps.flatMap PathPattern.names :=
    h.flatMap_eq fun _ _ _ h => h.names_eq
  have htightRow : tight = _ := matchRow_eq optional htight
  have hlooseRow : loose = _ := matchRow_eq optional hloose
  rw [htightRow, hlooseRow, hnames]
  refine ⟨(hw.refines found).andThen _, fun hbefore => ?_⟩
  have hall' : ∀ row' ∈ found, ∀ x ∈ w.toList ++ xs, x.Truthful env row' := fun row' hrow' =>
    List.forall_mem_append.2
      ⟨fun x hx => hbefore found hloose row' hrow' x (Option.mem_toList.1 hx), htruthful row' hrow'⟩
  -- all conditions have truth values, so neither filter can fail
  have hkept := hw.filterRows_eq hall'
  rw [hw.refines found _ hkept, hkept]
  exact ⟨_, rfl, rfl⟩

end

/-- **Tests inside of patterns are as good as conditions in WHERE.** In a graph that any calls have
led to, let patterns be loosened, and let WHERE ask for the conditions that this leaves, beside
those that it had. Then what the loosened MATCH gives, rows and order included, MATCH gives as it
was; and both give something if what WHERE had before has a truth value in all rows that the
loosened patterns find, so whenever it had nothing.

The map literals hold constant values, and no name stands for two things. -/
theorem matching_loosened (calls : List Store.Call) (c : Context)
    (h : Each PathPattern.Loosens ps qs xs) (hall : ∀ p ∈ ps, p.selector = .all)
    (hrecord : ∀ e ∈ ps.flatMap PathPattern.properties, e.IsRecord (c.on (Store.run calls {})))
    (hone : OneRole (ps.flatMap PathPattern.binders)) (hw : Expr.Filters w' (w.toList ++ xs))
    (optional : Bool) (t : Table) :
    let env := c.on (Store.run calls {})
    let tight := matching env optional (ps.map (·.map Expr.meaning)) (w.map Expr.meaning) t
    let loose := matching env optional (qs.map (·.map Expr.meaning)) (w'.map Expr.meaning) t
    Refines loose tight ∧
      ((∀ row ∈ t.rows, TruthfulOn env w qs row) → ∃ t', loose = .ok t' ∧ tight = .ok t') := by
  intro env tight loose
  have hs : env.store.Sound := (Store.lawful_empty.run calls).sound
  have hrow := matchRow_loosened hs h hall hrecord hone hw optional
  have hmatching {rs : List (PathPattern Expr)} (u : Option Meaning)
      (hrs : rs.flatMap PathPattern.names = ps.flatMap PathPattern.names) :
      matching env optional (rs.map (·.map Expr.meaning)) u t =
        t.rows.mapM (matchRow env optional (rs.map (·.map Expr.meaning)) u) >>= fun rows =>
          .ok ({ t with rows := rows.flatten }.declare (ps.flatMap PathPattern.names)) := by
    rw [matching, List.flatMap_map]
    simp only [PathPattern.names_map, hrs]
    rfl
  have hloose : loose = _ := hmatching _ (h.flatMap_eq fun _ _ _ h => h.names_eq)
  have htight : tight = _ := hmatching _ rfl
  rw [hloose, htight]
  refine ⟨(Refines.mapM fun row _ => (hrow row).1).andThen _, fun htruthful => ?_⟩
  choose! rows hrows htight using fun row hmem => (hrow row).2 (htruthful row hmem)
  rw [mapM_eq_ok hrows, mapM_eq_ok htight]
  exact ⟨_, rfl, rfl⟩

/-- Two people who know each other, and a robot that knows one and is named like the other. -/
def acquaintances : List Store.Call :=
  [.createNode ["Person"] [("name", .str "Ann")], .createNode ["Person"] [("name", .str "Bob")],
    .createNode ["Robot"] [("name", .str "Ann")],
    .createRel "KNOWS" 0 1 [("since", .count 1)], .createRel "KNOWS" 1 0 [],
    .createRel "KNOWS" 2 1 [("since", .count 1)]]

/-- The pattern `(a:Person {name: $name})-[r:KNOWS {since: 1}]->(b:Person)`. -/
def knownBy : PathPattern Expr where
  name := none
  selector := .all
  start := ⟨some "a", ["Person"], some (.of (.map [("name", .of (.parameter "name"))]))⟩
  hops := [⟨⟨some "r", ["KNOWS"], .outgoing,
      some (.of (.map [("since", .of (.literal (.count 1)))])), none⟩,
    ⟨some "b", ["Person"], none⟩⟩]

/-- The pattern `(a)-[r:KNOWS]->(b:Person)`. -/
def knownByAnyone : PathPattern Expr where
  name := none
  selector := .all
  start := ⟨some "a", [], none⟩
  hops := [⟨⟨some "r", ["KNOWS"], .outgoing, none, none⟩, ⟨some "b", ["Person"], none⟩⟩]

/-- The first node and the relationship are loosened. -/
theorem matching_loosened_acquaintances :
    let env : Env := (Context.mk [("name", .str "Ann")] 8 .zero).on (Store.run acquaintances {})
    let w : Expr := .of (.binary .and
      (.of (.binary .and (.hasLabel "a" "Person")
        (.hasProperty "a" ("name", .of (.parameter "name")))))
      (.hasProperty "r" ("since", .of (.literal (.count 1)))))
    ∃ t, matching env false [knownByAnyone.map Expr.meaning] (some w.meaning) .unit = .ok t ∧
      matching env false [knownBy.map Expr.meaning] none .unit = .ok t ∧ t.rows.length = 1 := by
  intro env w
  have hhops : Each Hop.Loosens knownBy.hops knownByAnyone.hops _ :=
    .cons (.mk (.move "r" ["KNOWS"] .outgoing (.map _)) (.keep _)) .nil
  have hpattern : knownBy.Loosens knownByAnyone _ :=
    .mk none .all (.move "a" ["Person"] (.map _)) hhops
  have hloosens : Each PathPattern.Loosens [knownBy] [knownByAnyone] _ := .cons hpattern .nil
  have hjoins : w.Joins [.hasLabel "a" "Person", .hasProperty "a" ("name", .of (.parameter "name")),
      .hasProperty "r" ("since", .of (.literal (.count 1)))] :=
    .and (.and (.one _) (.one _)) (.one _)
  have hw : Expr.Filters (some w) ((none : Option Expr).toList ++ _) := hjoins
  have hrecord : ∀ e ∈ [knownBy].flatMap PathPattern.properties, e.IsRecord env := by
    have hproperties : [knownBy].flatMap PathPattern.properties =
        [.of (.map [("name", .of (.parameter "name"))]),
          .of (.map [("since", .of (.literal (.count 1)))])] := rfl
    rw [hproperties]
    simp only [List.forall_mem_cons]
    refine ⟨⟨_, rfl, by decide, ?_⟩, ⟨_, rfl, by decide, ?_⟩, by simp⟩
    · have hname : (Expr.of (.parameter "name")).meaning.value env [] = .ok (.str "Ann") := rfl
      simpa using (Expr.Fixed.parameter "name").hasOneValue hname
    · have hcount : (Expr.of (.literal (.count 1))).meaning.value env [] = .ok (.count 1) := rfl
      simpa using (Expr.Fixed.literal (.count 1)).hasOneValue hcount
  have hone : OneRole ([knownBy].flatMap PathPattern.binders) := by
    have hbinders : [knownBy].flatMap PathPattern.binders =
        [("a", .node), ("r", .rel), ("b", .node)] := rfl
    rw [hbinders]
    intro n role role' h h'
    simp only [List.mem_cons, Prod.mk.injEq, List.not_mem_nil] at h h'
    grind
  obtain ⟨t, hloose, htight⟩ := (matching_loosened acquaintances ⟨[("name", .str "Ann")], 8, .zero⟩
    hloosens (by simp [knownBy]) hrecord hone hw false .unit).2 fun _ _ _ _ _ _ => nofun
  have htight' : matching env false [knownBy.map Expr.meaning] none .unit = .ok t := htight
  refine ⟨t, hloose, htight', ?_⟩
  have hlength : (match matching env false [knownBy.map Expr.meaning] none .unit with
      | .ok t => t.rows.length == 1
      | .error _ => false) = true := by decide +kernel
  rw [htight'] at hlength
  exact eq_of_beq hlength

end Query

end PropertyGraph
