import PropertyGraph.Meaning.Layer
import PropertyGraph.Proofs.Cypher.Map
import PropertyGraph.Proofs.Except

/-!
The constructs of expressions are the same for two meanings of their parts that are the same in the
rows where the parts are evaluated.
-/

namespace PropertyGraph

open Cypher

namespace Meaning

/-- Two meanings of a part are the same in a row. -/
def Alike {ε : Type} (F G : ε → Meaning) (env : Env) (group : Option (List Row)) (row : Row)
    (x : ε) : Prop :=
  (F x).eval env group row = (G x).eval env group row

variable {ε : Type} {F G : ε → Meaning} {env : Env} {group : Option (List Row)} {row : Row}

/-! ### Parts -/

lemma Alike.holds {x : ε} (h : Alike F G env group row x) :
    (F x).holds env group row = (G x).holds env group row := by
  rw [Meaning.holds, Meaning.holds, h]

lemma value?_congr {x : Option ε} (h : ∀ y ∈ x, Alike F G env group row y) :
    value? (x.map F) env group row = value? (x.map G) env group row := by
  cases x with
  | none => rfl
  | some y => exact congrArg (some <$> ·) (h y rfl)

lemma evals_congr {xs : List ε} (h : ∀ x ∈ xs, Alike F G env group row x) :
    ((xs.map F).mapM fun m => m.eval env group row) =
      (xs.map G).mapM fun m => m.eval env group row := by
  rw [List.mapM_map, List.mapM_map]
  exact mapM_congr h

lemma filterRows_congr {w : Option ε} {rows : List Row}
    (h : ∀ r ∈ rows, ∀ x ∈ w, Alike F G env none r x) :
    filterRows (w.map F) env rows = filterRows (w.map G) env rows := by
  cases w with
  | none => rfl
  | some x => exact filterM_congr fun r hr => (h r hr x rfl).holds

lemma parts_map (p : PathPattern ε) : parts (p.map F) env = p.map fun x => (F x).part env :=
  PathPattern.map_map F _ p

/-! ### Lists -/

lemma overItems_congr {x : ε} (h : Alike F G env group row x)
    {f g : List Value → Except Error Value} (hfg : ∀ vs, f vs = g vs) :
    overItems env group row (F x) f = overItems env group row (G x) g := by
  rw [overItems, overItems, listItems?, listItems?, h, funext hfg]

lemma valuesWhere_congr {w : Option ε} {m m' : Meaning} {rows : List Row}
    (hw : ∀ r ∈ rows, ∀ x ∈ w, Alike F G env group r x)
    (hm : ∀ r ∈ rows, m.eval env group r = m'.eval env group r) :
    valuesWhere env group (w.map F) m rows = valuesWhere env group (w.map G) m' rows := by
  have hfilter (r : Row) (hr : r ∈ rows) :
      (w.map F).elim (.ok true) (fun m => m.holds env group r) =
        (w.map G).elim (.ok true) fun m => m.holds env group r := by
    cases w with
    | none => rfl
    | some x => exact (hw r hr x rfl).holds
  rw [valuesWhere, valuesWhere, filterMapM_congr fun r hr => by rw [hfilter r hr, hm r hr]]

lemma listOf_congr {n : String} {x : ε} {w p : Option ε} (hx : Alike F G env group row x)
    (hw : ∀ v, ∀ y ∈ w, Alike F G env group (Dict.insert row n v) y)
    (hp : ∀ v, ∀ y ∈ p, Alike F G env group (Dict.insert row n v) y) :
    listOf env group row n (F x) (w.map F) (p.map F) =
      listOf env group row n (G x) (w.map G) (p.map G) := by
  refine overItems_congr hx fun vs => valuesWhere_congr ?_ ?_
  · rintro r hr
    obtain ⟨v, -, rfl⟩ := List.mem_map.1 hr
    exact hw v
  · rintro r hr
    obtain ⟨v, -, rfl⟩ := List.mem_map.1 hr
    cases p with
    | none => rfl
    | some y => exact hp v y rfl

lemma quantified_congr {q : Quantifier} {n : String} {x p : ε} (hx : Alike F G env group row x)
    (hp : ∀ v, Alike F G env group (Dict.insert row n v) p) :
    quantified env group row q n (F x) (F p) = quantified env group row q n (G x) (G p) := by
  refine overItems_congr hx fun vs => ?_
  rw [mapM_congr fun v _ => by rw [hp v]]

lemma reduce_congr {a n : String} {i x b : ε} (hi : Alike F G env group row i)
    (hx : Alike F G env group row x)
    (hb : ∀ u v, Alike F G env group (Dict.insert (Dict.insert row a u) n v) b) :
    reduce env group row a (F i) n (F x) (F b) = reduce env group row a (G i) n (G x) (G b) := by
  rw [reduce, reduce, hi]
  exact bind_congr fun start => overItems_congr hx fun vs => foldlM_congr (fun v _ u => hb u v) _

/-! ### Maps -/

lemma mapOf_congr {n : String} {is : List (MapItem ε)}
    (h : ∀ x ∈ is.flatMap MapItem.parts, Alike F G env group row x) :
    mapOf env group row n (is.map (·.map F)) = mapOf env group row n (is.map (·.map G)) := by
  have hentries (source : Properties) :
      (is.map (·.map F)).mapM (mapEntries env group row source) =
        (is.map (·.map G)).mapM (mapEntries env group row source) := by
    rw [List.mapM_map, List.mapM_map]
    refine mapM_congr fun i hi => ?_
    cases i with
    | entry k x =>
      have hx := h x (List.mem_flatMap.2 ⟨_, hi, List.mem_singleton_self x⟩)
      simp only [Function.comp, MapItem.map, mapEntries]
      rw [hx]
    | everything | property | name => rfl
  simp only [mapOf, hentries]

/-! ### Choices -/

lemma firstBranch_congr {taken taken' : Meaning → Except Error Bool} {d : Option ε}
    {bs : List (ε × ε)} (hd : ∀ x ∈ d, Alike F G env group row x)
    (hb : ∀ b ∈ bs, taken (F b.1) = taken' (G b.1) ∧ Alike F G env group row b.2) :
    firstBranch env group row taken (d.map F) (bs.map fun b => (F b.1, F b.2)) =
      firstBranch env group row taken' (d.map G) (bs.map fun b => (G b.1, G b.2)) := by
  induction bs with
  | nil => simp only [List.map_nil, firstBranch, value?_congr hd]
  | cons b bs ih =>
    rw [List.forall_mem_cons] at hb
    simp only [List.map_cons, firstBranch, hb.1.1, ih hb.2]
    rw [hb.1.2]

lemma choice_congr {s d : Option ε} {bs : List (ε × ε)}
    (hs : ∀ x ∈ s, Alike F G env group row x)
    (hb : ∀ b ∈ bs, Alike F G env group row b.1 ∧ Alike F G env group row b.2)
    (hd : ∀ x ∈ d, Alike F G env group row x) :
    choice env group row (s.map F) (bs.map fun b => (F b.1, F b.2)) (d.map F) =
      choice env group row (s.map G) (bs.map fun b => (G b.1, G b.2)) (d.map G) := by
  rw [choice, choice, value?_congr hs]
  refine bind_congr fun v => ?_
  cases v with
  | none => exact firstBranch_congr hd fun b h => ⟨(hb b h).1.holds, (hb b h).2⟩
  | some v => exact firstBranch_congr hd fun b h => ⟨by rw [(hb b h).1], (hb b h).2⟩

/-! ### Calls -/

lemma aggregate_congr {a : Aggregate} {n : String} {distinct : Bool} {xs : List ε}
    (h : ∀ rows ∈ group, ∀ r ∈ rows, ∀ x ∈ xs, Alike F G env none r x) :
    aggregate env group a n distinct (xs.map F) = aggregate env group a n distinct (xs.map G) := by
  cases group with
  | none => rfl
  | some rows =>
    rcases xs with _ | ⟨x, _ | _⟩
    · rfl
    · have hvalues : (rows.mapM fun r => (F x).value env r) =
          rows.mapM fun r => (G x).value env r :=
        mapM_congr fun r hr => h rows rfl r hr x List.mem_cons_self
      simp only [List.map_cons, List.map_nil, aggregate, hvalues]
    · rfl

lemma call_congr {n : String} {distinct : Bool} {xs : List ε}
    (ha : (Aggregate.ofName? n).isSome →
      ∀ rows ∈ group, ∀ r ∈ rows, ∀ x ∈ xs, Alike F G env none r x)
    (hx : (Aggregate.ofName? n).isSome = false → ∀ x ∈ xs, Alike F G env group row x) :
    call env group row n distinct (xs.map F) = call env group row n distinct (xs.map G) := by
  rw [call, call]
  cases hn : Aggregate.ofName? n with
  | some a => exact aggregate_congr (ha (by rw [hn]; rfl))
  | none => simp only [evals_congr (hx (by rw [hn]; rfl))]

/-! ### Patterns -/

lemma matchesOf_congr {p : PathPattern ε} {w : Option ε} {x : ε}
    (hrows : env.matcher.rows [parts (p.map F) env] row =
      env.matcher.rows [parts (p.map G) env] row)
    (hw : ∀ rows, env.matcher.rows [parts (p.map G) env] row = .ok rows → ∀ r ∈ rows,
      ∀ y ∈ w.toList ++ [x], Alike F G env group r y) :
    matchesOf env group row (p.map F) (w.map F) (F x) =
      matchesOf env group row (p.map G) (w.map G) (G x) := by
  rw [matchesOf, matchesOf, hrows]
  cases h : env.matcher.rows [parts (p.map G) env] row with
  | error e => rfl
  | ok rows =>
    refine valuesWhere_congr (fun r hr y hy => ?_) fun r hr => ?_
    · exact hw rows h r hr y (List.mem_append_left _ (Option.mem_toList.2 hy))
    · exact hw rows h r hr x (List.mem_append_right _ (List.mem_singleton_self x))

end Meaning

end PropertyGraph
