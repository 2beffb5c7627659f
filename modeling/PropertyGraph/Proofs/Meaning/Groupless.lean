import PropertyGraph.Proofs.Cypher.Parts
import PropertyGraph.Proofs.Except
import PropertyGraph.Meaning.Layer

/-!
What an expression gives in a row without a group, it gives there with any group.

Only aggregates look at the group, and without one they fail. A construct that has a value without a
group has got by without them, whichever of its parts it went through.
-/

namespace PropertyGraph

open Cypher

/-! ### Computations that give no less -/

/-- What the first computation gives, the second one gives as well. -/
def Refines {ε α : Type} (x y : Except ε α) : Prop := ∀ a, x = .ok a → y = .ok a

namespace Refines

variable {ε α β : Type}

lemma refl (x : Except ε α) : Refines x x := fun _ h => h

lemma error (e : ε) (y : Except ε α) : Refines (.error e) y := nofun

lemma bind {x y : Except ε α} {f g : α → Except ε β} (h : Refines x y)
    (hf : ∀ a, Refines (f a) (g a)) : Refines (x >>= f) (y >>= g) := by
  intro b hb
  obtain ⟨a, ha, hb⟩ := bind_eq_ok.1 hb
  exact bind_eq_ok.2 ⟨a, h a ha, hf a b hb⟩

/-- The same is made of what both give. -/
lemma andThen {x y : Except ε α} (h : Refines x y) (f : α → Except ε β) :
    Refines (x >>= f) (y >>= f) :=
  h.bind fun a => .refl (f a)

lemma map {x y : Except ε α} (h : Refines x y) (f : α → β) : Refines (f <$> x) (f <$> y) := by
  intro b hb
  cases x with
  | error e => cases hb
  | ok a =>
    rw [h a rfl]
    exact hb

variable {xs : List α}

lemma mapM {f g : α → Except ε β} (h : ∀ x ∈ xs, Refines (f x) (g x)) :
    Refines (xs.mapM f) (xs.mapM g) := by
  induction xs with
  | nil => exact .refl _
  | cons x xs ih =>
    rw [List.forall_mem_cons] at h
    rw [List.mapM_cons, List.mapM_cons]
    exact h.1.bind fun y => (ih h.2).andThen _

lemma filterMapM {f g : α → Except ε (Option β)} (h : ∀ x ∈ xs, Refines (f x) (g x)) :
    Refines (xs.filterMapM f) (xs.filterMapM g) := by
  induction xs with
  | nil => exact .refl _
  | cons x xs ih =>
    rw [List.forall_mem_cons] at h
    rw [List.filterMapM_cons, List.filterMapM_cons]
    refine h.1.bind fun o => ?_
    cases o with
    | none => exact ih h.2
    | some y => exact (ih h.2).andThen _

lemma foldlM {f g : β → α → Except ε β} (h : ∀ b, ∀ x ∈ xs, Refines (f b x) (g b x)) (b : β) :
    Refines (xs.foldlM f b) (xs.foldlM g b) := by
  induction xs generalizing b with
  | nil => exact .refl _
  | cons x xs ih =>
    rw [List.foldlM_cons, List.foldlM_cons]
    exact (h b x List.mem_cons_self).bind
      fun c => ih (fun d y hy => h d y (List.mem_cons_of_mem x hy)) c

end Refines

/-! ### Constructs -/

namespace Meaning

/-- What is given without a group is given with any. -/
def Groupless (m : Meaning) : Prop :=
  ∀ (env : Env) (group : Option (List Row)) (row : Row),
    Refines (m.eval env none row) (m.eval env group row)

lemma groupless_ofName (n : String) : (ofName n).Groupless := fun _ _ _ => .refl _

section

variable (env : Env) (group : Option (List Row)) (row : Row)

lemma Groupless.holds {m : Meaning} (hm : m.Groupless) :
    Refines (m.holds env none row) (m.holds env group row) :=
  (hm env group row).andThen _

lemma value?_groupless {m : Option Meaning} (hm : ∀ x ∈ m, x.Groupless) :
    Refines (value? m env none row) (value? m env group row) := by
  cases m with
  | none => exact .refl _
  | some m => exact (hm m rfl env group row).map some

lemma evals_groupless {ms : List Meaning} (hm : ∀ x ∈ ms, x.Groupless) :
    Refines (ms.mapM fun m => m.eval env none row) (ms.mapM fun m => m.eval env group row) :=
  .mapM fun m h => hm m h env group row

lemma overItems_groupless {source : Meaning} (hs : source.Groupless)
    {f g : List Value → Except Error Value} (hf : ∀ vs, Refines (f vs) (g vs)) :
    Refines (overItems env none row source f) (overItems env group row source g) := by
  refine ((hs env group row).andThen _).bind fun vs => ?_
  cases vs with
  | none => exact .refl _
  | some vs => exact hf vs

lemma valuesWhere_groupless {filter : Option Meaning} {projection : Meaning}
    (hf : ∀ x ∈ filter, x.Groupless) (hp : projection.Groupless) (rows : List Row) :
    Refines (valuesWhere env none filter projection rows)
      (valuesWhere env group filter projection rows) := by
  refine (Refines.filterMapM fun r _ => ?_).andThen _
  have hfilter : Refines (filter.elim (.ok true) fun w => w.holds env none r)
      (filter.elim (.ok true) fun w => w.holds env group r) := by
    cases filter with
    | none => exact .refl _
    | some w => exact (hf w rfl).holds env group r
  refine hfilter.bind fun b => ?_
  cases b with
  | false => exact .refl _
  | true => exact (hp env group r).andThen _

lemma listOf_groupless {source : Meaning} (hs : source.Groupless)
    {filter projection : Option Meaning} (hf : ∀ x ∈ filter, x.Groupless)
    (hp : ∀ x ∈ projection, x.Groupless) (name : String) :
    Refines (listOf env none row name source filter projection)
      (listOf env group row name source filter projection) := by
  have hproj : (projection.getD (ofName name)).Groupless := by
    cases projection with
    | none => exact groupless_ofName name
    | some x => exact hp x rfl
  exact overItems_groupless env group row hs fun _ => valuesWhere_groupless env group hf hproj _

lemma quantified_groupless {source predicate : Meaning} (hs : source.Groupless)
    (hp : predicate.Groupless) (q : Quantifier) (name : String) :
    Refines (quantified env none row q name source predicate)
      (quantified env group row q name source predicate) :=
  overItems_groupless env group row hs fun _ =>
    (Refines.mapM fun v _ => (hp env group (Dict.insert row name v)).andThen _).andThen _

lemma reduce_groupless {init source body : Meaning} (hi : init.Groupless) (hs : source.Groupless)
    (hb : body.Groupless) (accumulator name : String) :
    Refines (reduce env none row accumulator init name source body)
      (reduce env group row accumulator init name source body) :=
  (hi env group row).bind fun start => overItems_groupless env group row hs fun _ =>
    .foldlM (fun _ _ _ => hb env group _) start

lemma mapOf_groupless {items : List (MapItem Meaning)}
    (hi : ∀ i ∈ items, ∀ x ∈ i.parts, x.Groupless) (name : String) :
    Refines (mapOf env none row name items) (mapOf env group row name items) := by
  refine (Refines.refl _).bind fun source => ?_
  cases source with
  | none => exact .refl _
  | some source =>
    refine (Refines.mapM fun i hmem => ?_).andThen _
    cases i with
    | entry k m => exact (hi _ hmem m (by simp [MapItem.parts]) env group row).andThen _
    | everything | property | name => exact .refl _

lemma firstBranch_groupless {taken taken' : Meaning → Except Error Bool}
    {fallback : Option Meaning} {branches : List (Meaning × Meaning)}
    (hf : ∀ x ∈ fallback, x.Groupless)
    (hb : ∀ b ∈ branches, b.2.Groupless ∧ Refines (taken b.1) (taken' b.1)) :
    Refines (firstBranch env none row taken fallback branches)
      (firstBranch env group row taken' fallback branches) := by
  induction branches with
  | nil => exact (value?_groupless env group row hf).andThen _
  | cons b bs ih =>
    rw [List.forall_mem_cons] at hb
    rw [firstBranch, firstBranch]
    refine hb.1.2.bind fun chosen => ?_
    cases chosen with
    | false => exact ih hb.2
    | true => exact hb.1.1 env group row

lemma choice_groupless {subject fallback : Option Meaning} {branches : List (Meaning × Meaning)}
    (hs : ∀ x ∈ subject, x.Groupless) (hb : ∀ b ∈ branches, b.1.Groupless ∧ b.2.Groupless)
    (hf : ∀ x ∈ fallback, x.Groupless) :
    Refines (choice env none row subject branches fallback)
      (choice env group row subject branches fallback) := by
  refine (value?_groupless env group row hs).bind fun v => ?_
  cases v with
  | none =>
    exact firstBranch_groupless env group row hf
      fun b h => ⟨(hb b h).2, (hb b h).1.holds env group row⟩
  | some v =>
    exact firstBranch_groupless env group row hf
      fun b h => ⟨(hb b h).2, ((hb b h).1 env group row).andThen _⟩

lemma call_groupless {args : List Meaning} (ha : ∀ x ∈ args, x.Groupless) (name : String)
    (distinct : Bool) :
    Refines (call env none row name distinct args) (call env group row name distinct args) := by
  rw [call, call]
  cases Aggregate.ofName? name with
  | some a => exact .error _ _
  | none => exact (evals_groupless env group row ha).andThen _

lemma binary_refines {x y : Except Error Value} (h : Refines x y) (op : BinaryOp) (v : Value) :
    Refines (v.binary op fun _ => x) (v.binary op fun _ => y) := by
  have htruth (user : String) (f : Option Bool → Except Error Value) :
      Refines (x >>= fun w => w.truth user >>= f) (y >>= fun w => w.truth user >>= f) :=
    h.andThen _
  cases op with
  | and | or =>
    refine (Refines.refl _).bind fun a => ?_
    rcases a with _ | (_ | _)
    all_goals first | exact .refl _ | exact htruth _ _
  | xor => exact (Refines.refl _).bind fun a => htruth _ _
  | _ => exact h.andThen _

end

/-- A layer has no less with a group than without one if this is so for its parts. -/
lemma groupless_ofLayer {l : Layer Meaning} (h : ∀ x ∈ l.parts, x.Groupless) :
    (ofLayer l).Groupless := by
  intro env group row
  change Refines (evalLayer env none row l) (evalLayer env group row l)
  cases l with
  | literal | parameter | name | matched | existsQuery | paths => exact .refl _
  | countRows => exact .error _ _
  | property t k => exact (h t (by simp [Layer.parts]) env group row).andThen _
  | index t i =>
    exact (h t (by simp [Layer.parts]) env group row).bind
      fun v => (h i (by simp [Layer.parts]) env group row).andThen _
  | slice t a b =>
    have ha : ∀ x ∈ a, x.Groupless := fun x hx => h x (by simp_all [Layer.parts])
    have hb : ∀ x ∈ b, x.Groupless := fun x hx => h x (by simp_all [Layer.parts])
    exact (h t (by simp [Layer.parts]) env group row).bind fun v =>
      (value?_groupless env group row ha).bind fun a =>
        (value?_groupless env group row hb).andThen _
  | list xs => exact (evals_groupless env group row h).andThen _
  | map es =>
    refine (Refines.mapM fun e he => ?_).andThen _
    exact (h e.2 (List.mem_map_of_mem he) env group row).andThen _
  | binary op x y =>
    exact (h x (by simp [Layer.parts]) env group row).bind
      fun v => binary_refines (h y (by simp [Layer.parts]) env group row) op v
  | unary op x | isNull x _ | existsValue x | hasLabels x _ =>
    exact (h x (by simp [Layer.parts]) env group row).andThen _
  | call n d xs => exact call_groupless env group row h n d
  | case s bs d =>
    refine choice_groupless env group row (fun x hx => h x (by simp_all [Layer.parts]))
      (fun b hb => ⟨h _ ?_, h _ ?_⟩) fun x hx => h x (by simp_all [Layer.parts])
    all_goals
      simp only [Layer.parts, List.mem_append, List.mem_flatMap]
      exact .inl (.inr ⟨b, hb, by simp⟩)
  | listOf n s w p =>
    exact listOf_groupless env group row (h s (by simp [Layer.parts]))
      (fun x hx => h x (by simp_all [Layer.parts])) (fun x hx => h x (by simp_all [Layer.parts])) n
  | quantified q n s p =>
    exact quantified_groupless env group row (h s (by simp [Layer.parts]))
      (h p (by simp [Layer.parts])) q n
  | reduce a i n s b =>
    exact reduce_groupless env group row (h i (by simp [Layer.parts]))
      (h s (by simp [Layer.parts])) (h b (by simp [Layer.parts])) a n
  | matchesOf p w x =>
    have hw : ∀ x ∈ w, x.Groupless := fun x hx => h x (by simp_all [Layer.parts])
    exact (Refines.refl _).bind
      fun rows => valuesWhere_groupless env group hw (h x (by simp [Layer.parts])) rows
  | mapOf n is =>
    exact mapOf_groupless env group row (fun i hi x hx => h x (List.mem_flatMap.2 ⟨i, hi, hx⟩)) n

end Meaning

/-- **What an expression gives without a group, it gives with any.** -/
theorem Cypher.Expr.groupless_meaning (x : Expr) : x.meaning.Groupless := by
  induction x using Expr.layerInduction with
  | _ l ih =>
    refine Meaning.groupless_ofLayer ?_
    rw [Expr.parts_foldLayer, List.forall_mem_map]
    exact ih

end PropertyGraph
