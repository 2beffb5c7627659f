import PropertyGraph.Meaning.Layer
import PropertyGraph.Proofs.Matching.Extension
import PropertyGraph.Proofs.Value.Whole

/-!
Three ways to ask whether a pattern has a match.

A predicate follows trails until one has gone through all moves, and does nothing after it. So it
does no more than what finds all matches, and where it says that there is none, or fails, it has
done the same: this is what the induction over the moves carries. A subquery and a list of the
matches find all of them.
-/

namespace PropertyGraph

open Cypher

/-! ### The first result -/

/-- What a search answers that does nothing after its first result, beside all results. -/
inductive Hastens {ε β : Type} : Except ε Bool → Except ε (List β) → Prop
  | found {x : Except ε (List β)} (h : ∀ ys, x = .ok ys → ys ≠ []) : Hastens (.ok true) x
  | none : Hastens (.ok false) (.ok [])
  | error (e : ε) : Hastens (.error e) (.error e)

namespace Hastens

variable {α ε β : Type} {x : Except ε (List β)} {y : Except ε Bool}

lemma eq_ok (h : Hastens y x) {ys : List β} (hx : x = .ok ys) : y = .ok !ys.isEmpty := by
  cases h with
  | found h => simp [h ys hx]
  | none =>
    cases hx
    rfl
  | error e => cases hx

lemma eq_error (h : Hastens y x) {e : ε} (hy : y = .error e) : x = .error e := by
  cases h with
  | found h => cases hy
  | none => cases hy
  | error e => exact congrArg _ (Except.error.inj hy)

/-- Searches one after the other. -/
lemma anyM {f : α → Except ε Bool} {g : α → Except ε (List β)} (h : ∀ a, Hastens (f a) (g a))
    (as : List α) : Hastens (as.anyM f) (do return (← as.mapM g).flatten) := by
  induction as with
  | nil => exact .none
  | cons a as ih =>
    rw [List.anyM_cons, List.mapM_cons]
    have ha := h a
    generalize f a = b, g a = bs at ha
    cases ha with
    | found h =>
      refine .found fun ys hys => ?_
      obtain ⟨yss, hyss, hys⟩ := bind_eq_ok.1 hys
      obtain ⟨zs, hzs, hyss⟩ := bind_eq_ok.1 hyss
      obtain ⟨zss, -, hyss⟩ := bind_eq_ok.1 hyss
      cases hyss
      cases hys
      simp [h zs hzs]
    | none =>
      generalize as.anyM f = b, as.mapM g = bss at ih
      cases bss with
      | error e => exact ih
      | ok bss => exact ih
    | error e => exact .error e

end Hastens

/-! ### Patterns -/

namespace Matcher

variable (m : Matcher)

/-- **A search for one trail** answers as the search for all of them does, or sooner. -/
theorem hastens_reaches (vs : List Move) (t : Trail) :
    Hastens (m.reaches vs t) (m.follow vs t) := by
  induction vs generalizing t with
  | nil => exact .found (by rintro _ ⟨⟩; simp)
  | cons v vs ih =>
    rw [reaches, follow]
    cases m.move t v with
    | error e => exact .error e
    | ok ts => exact .anyM ih ts

variable {m} {p : PathPattern Part} {row : Row}

lemma hastens_hasMatch : Hastens (m.hasMatch p row) (m.rows [p] row) := by
  rw [hasMatch, rows, List.flatMap_singleton]
  have h := m.hastens_reaches (Move.ofPattern p) (Trail.begin row)
  generalize m.reaches _ _ = b, m.follow _ _ = ts at h
  cases h with
  | found h =>
    refine .found fun rows hrows => ?_
    obtain ⟨us, hus, hrows⟩ := bind_eq_ok.1 hrows
    cases hrows
    simpa using h us hus
  | none => exact .none
  | error e => exact .error e

end Matcher

/-! ### Expressions -/

namespace Cypher.Expr

/-- The pattern as a condition. -/
def hasMatch (p : PathPattern Expr) : Expr := of (.matched p)

/-- `EXISTS { MATCH pattern }`. -/
def existsMatch (p : PathPattern Expr) : Expr :=
  of (.existsQuery ⟨[.matching false [p] none], []⟩)

/-- `[pattern | 1]`. -/
def onePerMatch (p : PathPattern Expr) : Expr :=
  of (.matchesOf p none (of (.literal (.count 1))))

/-- `size([pattern | 1]) > 0`. -/
def countsMatches (p : PathPattern Expr) : Expr :=
  of (.binary .gt (of (.call "size" false [onePerMatch p])) (of (.literal (.count 0))))

variable {env : Env} {group : Option (List Row)} {row : Row} {p : PathPattern Expr}
  {rows : List Row}

lemma foldPath_meaning (p : PathPattern Expr) : foldPath Meaning.ofLayer p = p.map meaning :=
  foldPath_eq_map _ p

lemma eval_hasMatch : (hasMatch p).meaning.eval env group row =
    Value.bool <$> env.matcher.hasMatch (Meaning.parts (p.map meaning) env) row := by
  rw [← foldPath_meaning]
  rfl

lemma eval_existsMatch (h : env.matcher.rows [Meaning.parts (p.map meaning) env] row = .ok rows) :
    (existsMatch p).meaning.eval env group row = .ok (.bool !rows.isEmpty) := by
  have hmatch : Query.matchRow env false [p.map meaning] none row = .ok rows := by
    rw [Query.matchRow, List.map_singleton, h]
    change (if rows.isEmpty && false then _ else _) = _
    rw [Bool.and_false, if_neg Bool.false_ne_true]
    rfl
  have hclause : Query.matching env false [p.map meaning] none (.ofRow row) =
      .ok (Table.declare ⟨Dict.keys row, [rows].flatten⟩
        ([p.map meaning].flatMap PathPattern.names)) := by
    rw [Query.matching, Table.ofRow, List.mapM_cons, hmatch]
    rfl
  change (do return Value.bool !(← Query.read env (.ofRow row)
    ⟨[.matching false [foldPath Meaning.ofLayer p] none], []⟩).table.rows.isEmpty) = _
  rw [foldPath_meaning]
  simp only [Query.read, Query.readClauses, Query.readClause, Query.readBranches, Query.readStep,
    Clause.isWrite, Bool.false_eq_true, if_false, hclause]
  simp [Table.declare, bind, Except.bind, pure, Except.pure]

/-- Values that are there in all rows make a list. -/
lemma valuesWhere_none {m : Meaning} {f : Row → Value}
    (h : ∀ r ∈ rows, m.eval env group r = .ok (f r)) :
    Meaning.valuesWhere env group none m rows = .ok (.list (rows.map f)) := by
  have hvalues : (rows.filterMapM fun r => some <$> m.eval env group r) = .ok (rows.map f) := by
    induction rows with
    | nil => rfl
    | cons r rows ih =>
      rw [List.forall_mem_cons] at h
      rw [List.filterMapM_cons, h.1, ih h.2]
      rfl
  rw [Meaning.valuesWhere]
  change (do return Value.list (← rows.filterMapM fun r => some <$> m.eval env group r)) = _
  rw [hvalues]
  rfl

lemma eval_onePerMatch (h : env.matcher.rows [Meaning.parts (p.map meaning) env] row = .ok rows) :
    (onePerMatch p).meaning.eval env group row = .ok (.list (rows.map fun _ => .count 1)) := by
  change Meaning.matchesOf env group row (foldPath Meaning.ofLayer p) none
    (meaning (of (.literal (.count 1)))) = _
  rw [foldPath_meaning, Meaning.matchesOf, h]
  exact valuesWhere_none fun _ _ => rfl

/-- The length of a list is its size. -/
lemma eval_size {e : Expr} {vs : List Value} (h : e.meaning.eval env group row = .ok (.list vs)) :
    (of (.call "size" false [e])).meaning.eval env group row = .ok (.count vs.length) := by
  change Meaning.call env group row "size" false [e.meaning] = _
  have hanswer : Call.answer ⟨"size", [.list vs], env.store, env.clock⟩ =
      Except.ok (Value.count vs.length) := by
    obtain ⟨f, hf, htakes, hbody⟩ : ∃ f, Function.ofName? "size" = some f ∧ f.takes 1 ∧
        f.body = Function.size := ⟨_, rfl, rfl, rfl⟩
    rw [Call.answer, hf]
    simp [htakes, hbody, Function.size, Call.arg]
  rw [Meaning.call, show Aggregate.ofName? "size" = none from rfl, List.mapM_cons, h]
  change (Call.answer ⟨"size", [.list vs], env.store, env.clock⟩).mapError Error.function = _
  rw [hanswer]
  rfl

lemma eval_countsMatches
    (h : env.matcher.rows [Meaning.parts (p.map meaning) env] row = .ok rows) :
    (countsMatches p).meaning.eval env group row = .ok (.bool !rows.isEmpty) := by
  have hsize : (of (.call "size" false [onePerMatch p])).meaning.eval env group row = _ :=
    eval_size (eval_onePerMatch h)
  rw [List.length_map] at hsize
  change ((of (.call "size" false [onePerMatch p])).meaning.eval env group row >>= fun v =>
    .ok (Value.ordered (· == .gt) v (.count 0))) = _
  rw [hsize]
  change Except.ok (Value.ofTruth (((Number.ofNat rows.length).compare? .zero).map (· == .gt))) = _
  cases rows with
  | nil => rfl
  | cons r rows =>
    have hpos : (Number.ofNat (r :: rows).length).IsPositive :=
      Number.isPositive_ofNat (List.length_pos_iff.2 (List.cons_ne_nil r rows)).ne'
    rw [hpos]
    rfl

/-- **Three ways to ask for a match agree.** If the matches of a pattern can be found, then the
pattern as a condition, as a subquery and by the length of the list of its matches has a value, and
it is whether there are any. Where the condition fails, finding the matches fails in the same
way. -/
theorem existence_agrees (env : Env) (group : Option (List Row)) (row : Row) (p : PathPattern Expr) :
    let found := env.matcher.rows [Meaning.parts (p.map meaning) env] row
    let value (e : Expr) := e.meaning.eval env group row
    (∀ rows, found = .ok rows → ∀ e ∈ [hasMatch p, existsMatch p, countsMatches p],
      value e = .ok (.bool !rows.isEmpty)) ∧
    ∀ x, value (hasMatch p) = .error x → found = .error x := by
  intro found value
  have hfirst : Hastens (env.matcher.hasMatch _ row) found := Matcher.hastens_hasMatch
  refine ⟨fun rows h => ?_, fun x hx => ?_⟩
  · simp only [List.forall_mem_cons, List.not_mem_nil, false_implies, implies_true, and_true]
    refine ⟨?_, eval_existsMatch h, eval_countsMatches h⟩
    change (hasMatch p).meaning.eval env group row = _
    rw [eval_hasMatch, hfirst.eq_ok h]
    rfl
  · change (hasMatch p).meaning.eval env group row = _ at hx
    rw [eval_hasMatch] at hx
    cases hb : env.matcher.hasMatch (Meaning.parts (p.map meaning) env) row with
    | ok b =>
      rw [hb] at hx
      cases hx
    | error e =>
      rw [hb] at hx
      cases hx
      exact hfirst.eq_error hb

/-- The pattern `(a)-[:R*]->(:B)`, where the properties of `a` are some value. -/
def reachesB (properties : Value) : PathPattern Expr :=
  ⟨none, .all, ⟨some "a", [], some (of (.literal properties))⟩,
    [⟨⟨none, ["R"], .outgoing, none, some ⟨none, none⟩⟩, ⟨none, ["B"], none⟩⟩]⟩

/-- A match in a row that binds its start; and properties that are no map. -/
theorem existence_agrees_linked :
    let env : Env := (Context.mk [] 8 .zero).on (Store.run Query.linkedPair {})
    let row : Row := [("a", .node 0)]
    let value (e : Expr) := e.meaning.eval env none row
    value (hasMatch (reachesB (.map []))) = .ok (.bool true) ∧
    value (existsMatch (reachesB (.map []))) = .ok (.bool true) ∧
    value (countsMatches (reachesB (.map []))) = .ok (.bool true) ∧
    env.matcher.rows [Meaning.parts ((reachesB .null).map meaning) env] row =
      .error (.type (.patternProperties "Null")) := by
  intro env row value
  have hfound : env.matcher.rows
      [Meaning.parts ((reachesB (.map [])).map meaning) env] row = .ok [row] := by
    decide +kernel
  have hfails : value (hasMatch (reachesB .null)) = .error (.type (.patternProperties "Null")) := by
    decide +kernel
  have hagree := (existence_agrees env none row (reachesB (.map []))).1 [row] hfound
  exact ⟨hagree _ (by simp), hagree _ (by simp), hagree _ (by simp),
    (existence_agrees env none row (reachesB .null)).2 _ hfails⟩

end Cypher.Expr

end PropertyGraph
