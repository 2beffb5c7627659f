import PropertyGraph.Proofs.Cypher.Parts
import PropertyGraph.Proofs.Except
import PropertyGraph.Proofs.Meaning.Frame

/-!
The constructs of expressions do not see a frame if their parts do not.
-/

namespace PropertyGraph

open Cypher

variable {fr : Frame}

namespace Meaning

variable (env : Env) (group : Option (List Row)) (row : Row)

/-! ### Parts -/

lemma Steady.holds {m : Meaning} (hm : m.Steady fr) :
    m.holds (env.within fr) = m.holds env := by
  funext group row
  rw [Meaning.holds, Meaning.holds, hm.eval]

lemma Steady.value {m : Meaning} (hm : m.Steady fr) :
    m.value (env.within fr) = m.value env := by
  funext row
  rw [Meaning.value, Meaning.value, hm.eval]

lemma value?_within {m : Option Meaning} (hm : ∀ x ∈ m, x.Steady fr) :
    value? m (env.within fr) group row = value? m env group row := by
  cases m with
  | none => rfl
  | some m => rw [value?, value?, (hm m rfl).eval]

lemma evals_within {ms : List Meaning} (hm : ∀ x ∈ ms, x.Steady fr) :
    ms.mapM (fun m => m.eval (env.within fr) group row) = ms.mapM fun m => m.eval env group row :=
  mapM_congr fun m h => by rw [(hm m h).eval]

lemma filterRows_within {m : Option Meaning} (hm : ∀ x ∈ m, x.Steady fr) (rows : List Row) :
    filterRows m (env.within fr) rows = filterRows m env rows := by
  cases m with
  | none => rfl
  | some m => rw [filterRows, filterRows, (hm m rfl).holds]

lemma parts_within {p : PathPattern Meaning} (hp : ∀ x ∈ p.properties, x.Steady fr) :
    parts p (env.within fr) = parts p env :=
  PathPattern.map_congr fun m hm => (hp m hm).value env

lemma matcher_within : (env.within fr).matcher = env.matcher.above fr.older := rfl

/-! ### Constructs -/

lemma overItems_within {source : Meaning} (hs : source.Steady fr)
    (f : List Value → Except Error Value) :
    overItems (env.within fr) group row source f = overItems env group row source f := by
  simp only [overItems, listItems?, hs.eval]

lemma valuesWhere_within {filter : Option Meaning} {projection : Meaning}
    (hf : ∀ x ∈ filter, x.Steady fr) (hp : projection.Steady fr) (rows : List Row) :
    valuesWhere (env.within fr) group filter projection rows =
      valuesWhere env group filter projection rows := by
  cases filter with
  | none => simp only [valuesWhere, hp.eval, Option.elim_none]
  | some w => simp only [valuesWhere, hp.eval, Option.elim_some, (hf w rfl).holds]

lemma listOf_within {source : Meaning} (hs : source.Steady fr) {filter projection : Option Meaning}
    (hf : ∀ x ∈ filter, x.Steady fr) (hp : ∀ x ∈ projection, x.Steady fr) (name : String) :
    listOf (env.within fr) group row name source filter projection =
      listOf env group row name source filter projection := by
  have hproj : (projection.getD (ofName name)).Steady fr := by
    cases projection with
    | none => exact steady_ofName fr name
    | some x => exact hp x rfl
  simp only [listOf, overItems_within env group row hs, valuesWhere_within env group hf hproj]

lemma quantified_within {source predicate : Meaning} (hs : source.Steady fr)
    (hp : predicate.Steady fr) (q : Quantifier) (name : String) :
    quantified (env.within fr) group row q name source predicate =
      quantified env group row q name source predicate := by
  simp only [quantified, overItems_within env group row hs, hp.eval]

lemma reduce_within {init source body : Meaning} (hi : init.Steady fr) (hs : source.Steady fr)
    (hb : body.Steady fr) (accumulator name : String) :
    reduce (env.within fr) group row accumulator init name source body =
      reduce env group row accumulator init name source body := by
  simp only [reduce, overItems_within env group row hs, hi.eval, hb.eval]

lemma mapOf_within {items : List (MapItem Meaning)} (hi : ∀ i ∈ items, ∀ x ∈ i.parts, x.Steady fr)
    (name : String) :
    mapOf (env.within fr) group row name items = mapOf env group row name items := by
  have hsource (v : Value) : mapSource? (env.within fr).store v = mapSource? env.store v := by
    cases v <;> rfl
  have hitems (source : Properties) :
      items.mapM (mapEntries (env.within fr) group row source) =
        items.mapM (mapEntries env group row source) := by
    refine mapM_congr fun i hmem => ?_
    cases i with
    | entry k m => rw [mapEntries, mapEntries, (hi _ hmem m (by simp [MapItem.parts])).eval]
    | _ => rfl
  simp only [mapOf, hsource, hitems]

lemma firstBranch_within {taken taken' : Meaning → Except Error Bool} {fallback : Option Meaning}
    {branches : List (Meaning × Meaning)} (hf : ∀ x ∈ fallback, x.Steady fr)
    (hb : ∀ b ∈ branches, b.2.Steady fr ∧ taken b.1 = taken' b.1) :
    firstBranch (env.within fr) group row taken fallback branches =
      firstBranch env group row taken' fallback branches := by
  induction branches with
  | nil => rw [firstBranch, firstBranch, value?_within env group row hf]
  | cons b bs ih =>
    obtain ⟨hv, ht⟩ := hb b (by simp)
    rw [firstBranch, firstBranch, hv.eval, ht, ih fun b h => hb b (by simp [h])]

lemma choice_within {subject fallback : Option Meaning} {branches : List (Meaning × Meaning)}
    (hs : ∀ x ∈ subject, x.Steady fr) (hb : ∀ b ∈ branches, b.1.Steady fr ∧ b.2.Steady fr)
    (hf : ∀ x ∈ fallback, x.Steady fr) :
    choice (env.within fr) group row subject branches fallback =
      choice env group row subject branches fallback := by
  rw [choice, choice, value?_within env group row hs]
  refine congrArg _ (funext fun v => ?_)
  cases v with
  | none =>
    refine firstBranch_within env group row hf fun b h => ⟨(hb b h).2, ?_⟩
    rw [(hb b h).1.holds]
  | some v =>
    refine firstBranch_within env group row hf fun b h => ⟨(hb b h).2, ?_⟩
    rw [(hb b h).1.eval]

lemma aggregate_within {args : List Meaning} (ha : ∀ x ∈ args, x.Steady fr) (a : Aggregate)
    (name : String) (distinct : Bool) :
    aggregate (env.within fr) group a name distinct args =
      aggregate env group a name distinct args := by
  cases group with
  | none => rfl
  | some rows =>
    match args with
    | [m] => simp only [aggregate, (ha m (by simp)).value]
    | [] | _ :: _ :: _ => rfl

lemma call_within {args : List Meaning} (ha : ∀ x ∈ args, x.Steady fr) {name : String}
    (hn : Text.asciiLower name ≠ Function.timestampName) (distinct : Bool) :
    call (env.within fr) group row name distinct args = call env group row name distinct args := by
  simp only [call, aggregate_within env group ha, evals_within env group row ha,
    Call.answer_within fr hn]

lemma pathsIn_within {p : PathPattern Meaning} (hp : ∀ x ∈ p.properties, x.Steady fr) :
    pathsIn (env.within fr) row p = pathsIn env row p := by
  rw [pathsIn, pathsIn, parts_within env hp, matcher_within, Matcher.paths_above]

end Meaning

end PropertyGraph
