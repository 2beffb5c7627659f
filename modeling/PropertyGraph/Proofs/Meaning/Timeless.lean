import PropertyGraph.Proofs.Query.Read

/-!
Expressions that do not ask for the time do not see a frame.

Each layer passes this on from its parts, and so induction over expressions gives it for all.
-/

namespace PropertyGraph

open Cypher

variable {fr : Frame}

/-- Whether a layer asks for the time. -/
def Cypher.Layer.asksTime {ε : Type} : Layer ε → Bool
  | .call n _ _ => Text.asciiLower n == Function.timestampName
  | _ => false

namespace Meaning

lemma evalLayer_within {l : Layer Meaning} (hl : ¬ l.asksTime) (h : ∀ x ∈ l.parts, x.Steady fr)
    (env : Env) (group : Option (List Row)) (row : Row) :
    evalLayer (env.within fr) group row l = evalLayer env group row l := by
  cases l with
  | literal v => rfl
  | parameter n => rfl
  | name n => rfl
  | countRows => rfl
  | property t k =>
    have ht := h t (by simp [Layer.parts])
    simp only [evalLayer, ht.eval, env.store_within, Value.property_above]
  | index t i =>
    have ht := h t (by simp [Layer.parts])
    have hi := h i (by simp [Layer.parts])
    simp only [evalLayer, ht.eval, hi.eval, env.store_within, Value.index_above]
  | slice t a b =>
    have ht := h t (by simp [Layer.parts])
    have ha : ∀ x ∈ a, x.Steady fr := fun x hx => h x (by simp_all [Layer.parts])
    have hb : ∀ x ∈ b, x.Steady fr := fun x hx => h x (by simp_all [Layer.parts])
    simp only [evalLayer, ht.eval, value?_within env group row ha, value?_within env group row hb]
  | list xs =>
    have hxs : ∀ x ∈ xs, x.Steady fr := h
    simp only [evalLayer, evals_within env group row hxs]
  | map es =>
    have hes : es.mapM (fun e => do return (e.1, ← e.2.eval (env.within fr) group row)) =
        es.mapM fun e => do return (e.1, ← e.2.eval env group row) :=
      mapM_congr fun e he => by rw [(h e.2 (List.mem_map_of_mem he)).eval]
    simp only [evalLayer, hes]
  | binary op x y =>
    have hx := h x (by simp [Layer.parts])
    have hy := h y (by simp [Layer.parts])
    simp only [evalLayer, hx.eval, hy.eval]
  | unary op x | isNull x _ | existsValue x =>
    have hx := h x (by simp [Layer.parts])
    simp only [evalLayer, hx.eval]
  | hasLabels x ls =>
    have hx := h x (by simp [Layer.parts])
    have hlabels (v : Value) : hasLabels (env.within fr) ls v = hasLabels env ls v := by
      cases v <;> rfl
    simp only [evalLayer, hx.eval, hlabels]
  | call n d xs => exact call_within env group row h (by simpa [Layer.asksTime] using hl) d
  | case s bs d =>
    refine choice_within env group row (fun x hx => h x (by simp_all [Layer.parts]))
      (fun b hb => ⟨h _ ?_, h _ ?_⟩) fun x hx => h x (by simp_all [Layer.parts])
    · simp only [Layer.parts, List.mem_append, List.mem_flatMap]
      exact .inl (.inr ⟨b, hb, by simp⟩)
    · simp only [Layer.parts, List.mem_append, List.mem_flatMap]
      exact .inl (.inr ⟨b, hb, by simp⟩)
  | listOf n s w p =>
    have hs := h s (by simp [Layer.parts])
    exact listOf_within env group row hs (fun x hx => h x (by simp_all [Layer.parts]))
      (fun x hx => h x (by simp_all [Layer.parts])) n
  | quantified q n s p =>
    have hs := h s (by simp [Layer.parts])
    exact quantified_within env group row hs (h p (by simp [Layer.parts])) q n
  | reduce a i n s b =>
    have hi := h i (by simp [Layer.parts])
    have hs := h s (by simp [Layer.parts])
    exact reduce_within env group row hi hs (h b (by simp [Layer.parts])) a n
  | matchesOf p w x =>
    have hx := h x (by simp [Layer.parts])
    have hw : ∀ x ∈ w, x.Steady fr := fun x hx => h x (by simp_all [Layer.parts])
    have hp : ∀ x ∈ p.properties, x.Steady fr := fun x hx => h x (by simp_all [Layer.parts])
    simp only [evalLayer, matchesOf, valuesWhere_within env group hw hx, parts_within env hp,
      matcher_within, Matcher.rows_above]
  | matched p =>
    simp only [evalLayer, parts_within env h, matcher_within, Matcher.hasMatch_above]
  | mapOf n is =>
    exact mapOf_within env group row (fun i hi x hx => h x (List.mem_flatMap.2 ⟨i, hi, hx⟩)) n
  | existsQuery q => simp only [evalLayer, Query.read_within env h]
  | paths p => simp only [evalLayer, pathValue, pathsIn_within env row h]

/-- A layer that does not ask for the time does not see a frame unless a part of it does. -/
lemma steady_ofLayer {l : Layer Meaning} (hl : ¬ l.asksTime) (h : ∀ x ∈ l.parts, x.Steady fr) :
    (ofLayer l).Steady fr where
  eval env := funext fun group => funext fun row => evalLayer_within hl h env group row
  paths f hf env := by
    cases l with
    | paths p =>
      obtain rfl := Option.some.inj hf
      funext row
      simp only [joinedPaths, pathsIn_within env row h]
    | _ => exact nomatch hf

end Meaning

namespace Cypher

/-- Whether nothing in an expression asks for the time. -/
def Expr.timeless : Expr → Bool := Expr.fold fun l => !l.asksTime && l.parts.all id

def QueryOf.timeless (q : Query Expr) : Bool := q.parts.all Expr.timeless

lemma Expr.timeless_of (l : Layer Expr) :
    (of l).timeless = (!l.asksTime && l.parts.all Expr.timeless) := by
  have hasks (f : Layer Bool → Bool) : (foldLayer f l).asksTime = l.asksTime := by
    cases l <;> rfl
  rw [timeless, fold, parts_foldLayer, hasks, List.all_map]
  rfl

/-- **What does not ask for the time does not see a frame.** -/
theorem Expr.steady_meaning {x : Expr} (hx : x.timeless) : x.meaning.Steady fr := by
  induction x using layerInduction with
  | _ l ih =>
    rw [timeless_of, Bool.and_eq_true, List.all_eq_true] at hx
    have hasks : (foldLayer Meaning.ofLayer l).asksTime = l.asksTime := by cases l <;> rfl
    refine Meaning.steady_ofLayer (by simpa [hasks] using hx.1) ?_
    rw [parts_foldLayer, List.forall_mem_map]
    exact fun y hy => ih y hy (hx.2 y hy)

lemma QueryOf.steady_parts {q : Query Expr} (hq : q.timeless) :
    ∀ x ∈ (queryMeaning q).parts, x.Steady fr := by
  rw [queryMeaning, Expr.parts_foldQuery, List.forall_mem_map]
  exact fun x hx => Expr.steady_meaning (List.all_eq_true.1 hq x hx)

end Cypher

end PropertyGraph
