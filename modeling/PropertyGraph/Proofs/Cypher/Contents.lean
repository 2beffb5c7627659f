import PropertyGraph.Cypher.Grammar.Statement
import PropertyGraph.Proofs.Cypher.Parts
import PropertyGraph.Proofs.Except
import PropertyGraph.Proofs.Value.Operator

/-!
What can stand in a text.

Parsers make an expression or a clause of what they have read inside of it. So a condition that
passes on to whatever is made that way is met by all that is read from a text. There is one lemma
for each rule of the grammar that makes something of expressions.
-/

namespace PropertyGraph

namespace Cypher

/-! ### Conditions that pass on -/

section

variable {ε : Type}

/-- Whether a layer is made of expressions alone. -/
def Layer.isSimple : Layer ε → Bool
  | literal _ | existsQuery _ => false
  | _ => true

/-- Whether a clause is made of expressions alone. -/
def Clause.isSimple : Clause ε → Bool
  | foreach _ _ _ | subquery _ => false
  | _ => true

/-- How clauses follow each other in a text: there is one, nothing follows RETURN, and the last one
gives a result or changes the graph if that is asked for. -/
structure Clause.Follow (needsResult : Bool) (cs : List (Clause ε)) : Prop where
  before : ∀ c ∈ cs.dropLast, ¬ c.isReturn
  last : ∃ c ∈ cs.getLast?, needsResult → c.canConclude

namespace QueryOf

/-- The sequences of clauses that UNION joins. -/
def sequences {κ : Type} (q : QueryOf κ) : List (List κ) := q.first :: q.unions.map Branch.clauses

/-- A query as it stands in a text, of clauses that meet a condition. -/
def Of (C : Clause ε → Prop) (needsResult : Bool) (q : Query ε) : Prop :=
  ∀ cs ∈ q.sequences, Clause.Follow needsResult cs ∧ ∀ c ∈ cs, C c

end QueryOf

lemma Clause.forall_mem_allParts {P : ε → Prop} {cs : List (Clause ε)} :
    (∀ x ∈ allParts cs, P x) ↔ ∀ c ∈ cs, ∀ x ∈ c.parts, P x := by
  induction cs with
  | nil => simp [allParts]
  | cons c cs ih => rw [allParts, List.forall_mem_append, List.forall_mem_cons, ih]

/-- The parts of a query are those of its clauses. -/
lemma QueryOf.forall_mem_parts {P : ε → Prop} {q : Query ε} :
    (∀ x ∈ q.parts, P x) ↔ ∀ cs ∈ q.sequences, ∀ c ∈ cs, ∀ x ∈ c.parts, P x := by
  have hunions (bs : List (Branch (Clause ε))) : (∀ x ∈ Clause.branchParts bs, P x) ↔
      ∀ b ∈ bs, ∀ c ∈ b.clauses, ∀ x ∈ c.parts, P x := by
    induction bs with
    | nil => simp [Clause.branchParts]
    | cons b bs ih =>
      rw [Clause.branchParts, List.forall_mem_append, List.forall_mem_cons, ih,
        Clause.forall_mem_allParts]
  rw [parts, sequences, List.forall_mem_append, List.forall_mem_cons, List.forall_mem_map,
    Clause.forall_mem_allParts, hunions]

end

/-- Conditions on expressions and on clauses that pass on to all that a text can make of them. -/
structure PassOn (P : Expr → Prop) (C : Clause Expr → Prop) : Prop where
  literal {v : Value} (hv : v.isScalar) : P (.of (.literal v))
  layer {l : Layer Expr} (hl : l.isSimple) (h : ∀ x ∈ l.parts, P x) : P (.of l)
  existsQuery {q : Query Expr} (h : q.Of C false) : P (.of (.existsQuery q))
  /-- What is changed is read as one of its properties first. -/
  target {x : Expr} {k : String} (h : P (.of (.property x k))) : P x
  clause {c : Clause Expr} (hc : c.isSimple) (h : ∀ x ∈ c.parts, P x) : C c
  foreach {n : String} {x : Expr} {cs : List (Clause Expr)} (hx : P x) (hne : cs ≠ [])
    (hcs : ∀ c ∈ cs, c.isWrite ∧ C c) : C (.foreach n x cs)
  subquery {q : Query Expr} (h : q.Of C false) : C (.subquery q)

namespace Grammar

variable {α β : Type}

/-! ### What parsers give -/

/-- What a parser reads, if anything, meets a condition. -/
def Builds (Q : α → Prop) (p : Parser α) : Prop := ∀ c, Gives (fun r => Q r.1) (p c)

namespace Builds

variable {Q : α → Prop} {R : β → Prop}

lemma pure {a : α} (h : Q a) : Builds Q (Pure.pure a : Parser α) := fun _ => .ok h

lemma fail (f : ParseFault) : Builds Q (Grammar.fail f : Parser α) := fun _ => .error _

lemma bind {p : Parser α} {f : α → Parser β} (hp : Builds Q p) (hf : ∀ a, Q a → Builds R (f a)) :
    Builds R (p >>= f) := fun c => .bind (hp c) fun r hr => hf r.1 hr r.2

/-- Something comes first that does not matter. -/
lemma after {p : Parser α} {f : α → Parser β} (hf : ∀ a, Builds R (f a)) : Builds R (p >>= f) :=
  fun _ => .after fun r => hf r.1 r.2

lemma map {p : Parser α} (hp : Builds Q p) {f : α → β} (hf : ∀ a, Q a → R (f a)) :
    Builds R (f <$> p) := .bind hp fun a ha => .pure (hf a ha)

lemma ite {c : Prop} [Decidable c] {p q : Parser α} (hp : Builds Q p) (hq : Builds Q q) :
    Builds Q (if c then p else q) := by
  split_ifs
  · exact hp
  · exact hq

/-- A branch that ends in the same continuation on both sides. -/
lemma iteBind {c : Prop} [Decidable c] {p q : Parser α} {f : α → Parser β} (hp : Builds Q p)
    (hq : Builds Q q) (hf : ∀ a, Q a → Builds R (f a)) :
    Builds R (if c then p >>= f else q >>= f) := .ite (.bind hp hf) (.bind hq hf)

/-- A branch that does not matter to what follows it. -/
lemma iteAfter {c : Prop} [Decidable c] {p q : Parser α} {f : α → Parser β}
    (hf : ∀ a, Builds R (f a)) : Builds R (if c then p >>= f else q >>= f) :=
  .ite (.after hf) (.after hf)

lemma unexpected (e : Expected) : Builds Q (Grammar.unexpected e : Parser α) :=
  .after fun _ => .fail _

lemma steps {step : α → Parser (Option α)} (h : ∀ a, Q a → Builds (fun o => ∀ b ∈ o, Q b) (step a))
    (fuel : Nat) {a : α} (ha : Q a) : Builds Q (Grammar.steps step fuel a) := by
  induction fuel generalizing a with
  | zero => exact .pure ha
  | succ fuel ih =>
    refine .bind (h a ha) fun o ho => ?_
    cases o with
    | none => exact .pure ha
    | some b => exact ih (ho b rfl)

lemma iterate {step : α → Parser (Option α)}
    (h : ∀ a, Q a → Builds (fun o => ∀ b ∈ o, Q b) (step a)) {a : α} (ha : Q a) :
    Builds Q (Grammar.iterate step a) := .after fun _ => .steps h _ ha

lemma some {p : Parser α} (hp : Builds Q p) :
    Builds (fun o => ∀ a ∈ o, Q a) (Option.some <$> p) :=
  .map hp fun a ha => by rintro _ ⟨⟩; exact ha

lemma none : Builds (fun o => ∀ a ∈ o, Q a) (Pure.pure Option.none : Parser (Option α)) :=
  .pure nofun

lemma manyWhile {test : Parser Bool} {item : Parser α} (hi : Builds Q item) :
    Builds (fun xs => ∀ x ∈ xs, Q x) (Grammar.manyWhile test item) := by
  refine .map (Q := fun xs => ∀ x ∈ xs, Q x) (.iterate (fun xs hxs => .after fun b => ?_) (by simp))
    (by simp)
  refine .ite (.bind hi fun x hx => .pure ?_) (.pure nofun)
  rintro _ ⟨⟩
  exact List.forall_mem_cons.2 ⟨hx, hxs⟩

lemma sepBy {item : Parser α} (hi : Builds Q item) :
    Builds (fun xs => ∀ x ∈ xs, Q x) (Grammar.sepBy item) :=
  .bind hi fun _ hx => .bind (.manyWhile hi) fun _ hxs =>
    .pure (List.forall_mem_cons.2 ⟨hx, hxs⟩)

lemma listUntil (close : Symbol) {item : Parser α} (hi : Builds Q item) :
    Builds (fun xs => ∀ x ∈ xs, Q x) (Grammar.listUntil close item) :=
  .after fun _ => .ite (.pure (by simp)) <|
    .bind (.sepBy hi) fun _ hxs => .after fun _ => .pure hxs

lemma afterKeyword? (w : String) {item : Parser α} (hi : Builds Q item) :
    Builds (fun o => ∀ a ∈ o, Q a) (Grammar.afterKeyword? w item) :=
  .after fun _ => .ite (.some hi) .none

lemma chainLeft {operator : Parser (Option (α → α → α))} {operand : Parser α}
    (ho : Builds (fun o => ∀ f ∈ o, ∀ x y, Q x → Q y → Q (f x y)) operator)
    (h : Builds Q operand) : Builds Q (Grammar.chainLeft operator operand) := by
  refine .bind h fun first hfirst => .iterate (fun left hleft => .bind ho fun o hf => ?_) hfirst
  cases o with
  | none => exact .none
  | some f =>
    refine .bind h fun right hright => .pure ?_
    rintro _ ⟨⟩
    exact hf f rfl left right hleft hright

end Builds

/-- The parsers for what is inside give what meets the conditions. -/
structure Inner.Builds (P : Expr → Prop) (C : Clause Expr → Prop) (i : Inner) : Prop where
  expr : Grammar.Builds P i.expr
  clause : Grammar.Builds C i.clause

variable {P : Expr → Prop} {C : Clause Expr → Prop} (hP : PassOn P C) {inner : Inner}
  (h : inner.Builds P C)

/-! ### Patterns -/

section

include h

lemma builds_mapEntry : Builds (fun e => P e.2) (mapEntry inner) :=
  .after fun _ => .after fun _ => .bind h.expr fun _ hx => .pure hx

lemma builds_condition? : Builds (fun o => ∀ x ∈ o, P x) (condition? inner) :=
  .afterKeyword? "WHERE" h.expr

end

include hP h

lemma builds_mapLiteral : Builds P (mapLiteral inner) :=
  .after fun _ => .bind (.listUntil .rightBrace (builds_mapEntry h)) fun _ hes =>
    .pure (hP.layer rfl (List.forall_mem_map.2 hes))

lemma builds_properties? : Builds (fun o => ∀ x ∈ o, P x) (properties? inner) := by
  refine .after fun c => ?_
  split
  · exact .some (builds_mapLiteral hP h)
  · refine .after fun _ => .pure ?_
    rintro _ ⟨⟩
    exact hP.layer rfl nofun
  · exact .none

lemma builds_nodePattern : Builds (fun n => ∀ x ∈ n.properties, P x) (nodePattern inner) :=
  .after fun _ => .after fun _ => .after fun _ => .iteAfter fun _ =>
    .bind (builds_properties? hP h) fun _ hps => .after fun _ => .pure hps

lemma builds_relPattern : Builds (fun r => ∀ x ∈ r.properties, P x) (relPattern inner) := by
  refine .after fun _ => .after fun _ => .after fun _ => ?_
  extract_lets finish
  have hfinish (body : RelPattern Expr) (hbody : ∀ x ∈ body.properties, P x) :
      Builds (fun r => ∀ x ∈ r.properties, P x) (finish body) :=
    .after fun _ => .after fun _ => .pure hbody
  refine .ite (.after fun _ => .after fun _ => .iteAfter fun _ => .after fun _ => ?_)
    (.bind (.pure (by simp)) hfinish)
  exact .iteAfter fun _ => .bind (builds_properties? hP h) fun _ hps => .after fun _ =>
    .bind (.pure hps) hfinish

/-- The parts of a hop meet a condition. -/
lemma builds_hop :
    Builds (fun k => (∀ x ∈ k.rel.properties, P x) ∧ ∀ x ∈ k.node.properties, P x) (hop inner) :=
  .bind (builds_relPattern hP h) fun _ hr => .bind (builds_nodePattern hP h) fun _ hn =>
    .pure ⟨hr, hn⟩

lemma builds_pathPattern : Builds (fun p => ∀ x ∈ p.properties, P x) (pathPattern inner) := by
  refine .after fun _ => ?_
  extract_lets body
  have hbody (name : Option String) : Builds (fun p => ∀ x ∈ p.properties, P x) (body name) := by
    refine .after fun selector => ?_
    extract_lets pattern
    have hpattern (u : Unit) :
        Builds (fun p => ∀ x ∈ p.properties, P x) (pattern u) := by
      refine .bind (builds_nodePattern hP h) fun start hstart =>
        .bind (.manyWhile (builds_hop hP h)) fun hops hhops => ?_
      have hp : ∀ x ∈ (⟨name, selector, start, hops⟩ : PathPattern Expr).properties, P x := by
        simp only [PathPattern.properties, List.forall_mem_append, List.forall_mem_flatMap,
          Option.mem_toList]
        exact ⟨⟨hstart, fun k hk => (hhops k hk).2⟩, fun k hk => (hhops k hk).1⟩
      exact .ite (.after fun _ => .ite (.after fun _ => .pure hp) (.pure hp)) (.pure hp)
    exact .ite (.after hpattern) (hpattern ())
  exact .ite (.after fun _ => .after fun _ => .after hbody) (.after hbody)

lemma builds_patterns :
    Builds (fun ps => ∀ p ∈ ps, ∀ x ∈ p.properties, P x) (patterns inner) :=
  .sepBy (builds_pathPattern hP h)

/-! ### Queries as expressions -/

omit hP in
lemma builds_clauses (needsResult : Bool) :
    Builds (fun cs => Clause.Follow needsResult cs ∧ ∀ c ∈ cs, C c) (clauses inner needsResult) := by
  -- The clauses are read in reverse, and RETURN can only be the last one so far.
  refine .bind (Q := fun cs => (∀ c ∈ cs.tail, ¬ c.isReturn) ∧ ∀ c ∈ cs, C c)
    (.iterate (fun cs hcs => .after fun ended => .ite .none ?_) (by simp)) fun reversed hcs => ?_
  · by_cases hreturn : cs.head?.any Clause.isReturn = true
    · rw [if_pos hreturn]
      exact .fail _
    · rw [if_neg hreturn]
      refine .bind h.clause fun c hc => .pure ?_
      rintro _ ⟨⟩
      refine ⟨fun k hk => ?_, List.forall_mem_cons.2 ⟨hc, hcs.2⟩⟩
      cases cs with
      | nil => cases hk
      | cons k cs =>
        rcases List.mem_cons.1 hk with rfl | hk
        · exact hreturn
        · exact hcs.1 _ hk
  · cases reversed with
    | nil => exact .unexpected _
    | cons last before =>
      by_cases hlast : (needsResult && !last.canConclude) = true
      · dsimp only
        rw [if_pos hlast]
        exact .fail _
      · dsimp only
        rw [if_neg hlast]
        refine .pure ⟨⟨by simpa using hcs.1, last, by simp, fun hneeds => ?_⟩,
          fun c hc => hcs.2 c (List.mem_reverse.1 hc)⟩
        simpa [hneeds] using hlast

omit hP in
lemma builds_query (needsResult : Bool) :
    Builds (fun q => q.Of C needsResult) (query inner needsResult) := by
  have hbranch : Builds
      (fun b : Branch (Clause Expr) => Clause.Follow needsResult b.clauses ∧ ∀ c ∈ b.clauses, C c)
      (do
        let all ← eatKeyword "ALL"
        return (⟨all, ← clauses inner needsResult⟩ : Branch (Clause Expr))) :=
    .after fun _ => .bind (builds_clauses h needsResult) fun _ hcs => .pure hcs
  exact .bind (builds_clauses h needsResult) fun _ hfirst => .bind (.manyWhile hbranch)
    fun _ hunions => .pure (List.forall_mem_cons.2 ⟨hfirst, List.forall_mem_map.2 hunions⟩)

lemma builds_existsBody : Builds P (existsBody inner) := by
  refine .after fun _ => ?_
  extract_lets rest body
  have hrest (q : Query Expr) (hq : q.Of C false) : Builds P (rest q) :=
    .after fun _ => .pure (hP.existsQuery hq)
  have hbody (bare : Bool) : Builds P (body bare) := by
    refine .ite ?_ (.bind (builds_query h false) hrest)
    refine .bind (builds_patterns hP h) fun ps hps => .bind (builds_condition? h) fun w hw =>
      .bind (.pure ?_) hrest
    have hc : C (.matching false ps w) := hP.clause rfl (by
      simp only [Clause.parts, List.forall_mem_append, List.forall_mem_flatMap, Option.mem_toList]
      exact ⟨hps, hw⟩)
    exact List.forall_mem_singleton.2 ⟨⟨by simp, _, rfl, by simp⟩, by simpa using hc⟩
  exact .iteAfter hbody

/-! ### Operands -/

lemma builds_listBody : Builds P (listBody inner) := by
  refine .after fun _ => ?_
  extract_lets body
  have hbody (named : Bool) : Builds P (body named) := by
    refine .after fun _ => .ite ?_ (.after fun _ => .ite ?_ ?_)
    · refine .bind (builds_pathPattern hP h) fun p hp => .bind (builds_condition? h) fun w hw =>
        .after fun _ => .bind h.expr fun x hx => .after fun _ => .pure (hP.layer rfl ?_)
      simp only [Layer.parts, List.forall_mem_append, List.forall_mem_cons, Option.mem_toList]
      exact ⟨⟨hx, hp⟩, hw⟩
    · refine .after fun n => .after fun _ => .bind h.expr fun s hs =>
        .bind (builds_condition? h) fun w hw => .after fun _ => .iteBind (.some h.expr) .none
          fun x hx => .after fun _ => .pure (hP.layer rfl ?_)
      simp only [Layer.parts, List.forall_mem_append, List.forall_mem_cons, Option.mem_toList]
      exact ⟨⟨hs, hw⟩, hx⟩
    · exact .bind (.listUntil .rightBracket h.expr) fun _ hxs => .pure (hP.layer rfl hxs)
  exact .iteAfter hbody

lemma builds_caseBody : Builds P (caseBody inner) := by
  have hbranch : Builds (fun b : Expr × Expr => P b.1 ∧ P b.2) (do
      let c ← inner.expr
      keyword "THEN"
      return (c, ← inner.expr)) :=
    .bind h.expr fun _ hc => .after fun _ => .bind h.expr fun _ hx => .pure ⟨hc, hx⟩
  refine .after fun _ => .iteBind .none (.some h.expr) fun subject hs =>
    .bind (.manyWhile hbranch) fun branches hbs => .ite (.unexpected _) ?_
  refine .bind (.afterKeyword? "ELSE" h.expr) fun fallback hd => .after fun _ =>
    .pure (hP.layer rfl ?_)
  simp only [Layer.parts, List.forall_mem_append, List.forall_mem_flatMap, List.forall_mem_cons,
    Option.mem_toList]
  exact ⟨⟨hs, fun b hb => ⟨(hbs b hb).1, (hbs b hb).2, by simp⟩⟩, hd⟩

omit hP in
lemma builds_mapItem : Builds (fun i => ∀ x ∈ i.parts, P x) (mapItem inner) := by
  refine .after fun _ => .ite ?_ (.after fun _ => .ite ?_ ?_)
  · exact .after fun _ => .ite (.pure nofun) (.after fun _ => .pure nofun)
  · exact .after fun _ => .after fun _ => .bind h.expr fun _ hx =>
      .pure (List.forall_mem_singleton.2 hx)
  · exact .after fun _ => .pure nofun

lemma builds_nameOrMap (n : String) : Builds P (nameOrMap inner n) :=
  .after fun _ => .ite (.bind (.listUntil .rightBrace (builds_mapItem h)) fun _ his =>
    .pure (hP.layer rfl (List.forall_mem_flatMap.2 his))) (.pure (hP.layer rfl nofun))

lemma builds_existsArgument : Builds P (existsArgument inner) := by
  refine .bind h.expr fun x hx => .after fun _ => ?_
  split
  · exact .pure hx
  · exact .pure (hP.layer rfl (List.forall_mem_singleton.2 hx))

lemma builds_quantifiedBody (q : Quantifier) : Builds P (quantifiedBody inner q) :=
  .after fun _ => .after fun _ => .bind h.expr fun s hs => .after fun _ =>
    .bind h.expr fun p hp => .after fun _ =>
      .pure (hP.layer rfl (by simpa [Layer.parts] using ⟨hs, hp⟩))

lemma builds_reduceBody : Builds P (reduceBody inner) :=
  .after fun _ => .after fun _ => .bind h.expr fun i hi => .after fun _ => .after fun _ =>
    .after fun _ => .bind h.expr fun s hs => .after fun _ => .bind h.expr fun x hx =>
      .after fun _ => .pure (hP.layer rfl (by simpa [Layer.parts] using ⟨hi, hs, hx⟩))

lemma builds_callBody (function : String) : Builds P (callBody inner function) :=
  .after fun _ => .bind (.listUntil .rightParen h.expr) fun _ hxs => .pure (hP.layer rfl hxs)

lemma builds_wordCall (w : String) : Builds P (wordCall inner w) := by
  refine .after fun stars => .after fun binds => ?_
  refine .ite (.after fun _ => .pure (hP.layer rfl nofun)) ?_
  refine .ite (.after fun _ => builds_existsArgument hP h) ?_
  refine .ite (.after fun _ => builds_reduceBody hP h) ?_
  refine .ite (.bind (builds_pathPattern hP h) fun _ hp => .pure (hP.layer rfl hp))
    (.after fun _ => ?_)
  split
  · exact .ite (builds_quantifiedBody hP h _) (builds_callBody hP h w)
  · exact builds_callBody hP h w

omit hP h in
lemma isScalar_of_constant? {upper : String} {v : Value} (hv : constant? upper = some v) :
    v.isScalar := by
  rw [constant?.eq_def] at hv
  split at hv <;> cases hv <;> rfl

lemma builds_wordOperand (w : String) : Builds P (wordOperand inner w) := by
  rw [wordOperand]
  split
  · next v hv => exact .after fun _ => .pure (hP.literal (isScalar_of_constant? hv))
  · refine .ite (.after fun _ => builds_caseBody hP h) ?_
    refine .after fun _ => .ite (.after fun _ => builds_existsBody hP h) ?_
    refine .after fun _ => .ite (builds_wordCall hP h w) ?_
    exact .ite (.unexpected _) (.after fun _ => builds_nameOrMap hP h w)

omit h in
lemma builds_literal {v : Value} (hv : v.isScalar) : Builds P (literal v) :=
  .after fun _ => .pure (hP.literal hv)

lemma builds_operand : Builds P (operand inner) := by
  refine .after fun c => ?_
  split
  · exact builds_literal hP rfl
  · exact builds_literal hP rfl
  · exact .after fun _ => .pure (hP.layer rfl nofun)
  · refine .after fun _ => .ite ?_ ?_
    · exact .bind (builds_pathPattern hP h) fun _ hp => .pure (hP.layer rfl hp)
    · exact .after fun _ => .bind h.expr fun _ hx => .after fun _ => .pure hx
  · exact .after fun _ => builds_listBody hP h
  · exact builds_mapLiteral hP h
  · exact .after fun _ => builds_nameOrMap hP h _
  · exact builds_wordOperand hP h _
  · exact .unexpected _
  · exact .unexpected _

/-! ### What follows an operand -/

lemma builds_sliceEnd {target : Expr} {start : Option Expr} (ht : P target)
    (hs : ∀ x ∈ start, P x) : Builds P (sliceEnd inner target start) := by
  refine .after fun _ => .iteBind .none (.some h.expr) fun stop hstop => .after fun _ =>
    .pure (hP.layer rfl ?_)
  simp only [Layer.parts, List.forall_mem_append, List.forall_mem_cons, Option.mem_toList]
  exact ⟨⟨ht, hs⟩, hstop⟩

lemma builds_indexBody {target : Expr} (ht : P target) : Builds P (indexBody inner target) := by
  refine .after fun _ => .ite (builds_sliceEnd hP h ht nofun) ?_
  refine .bind h.expr fun first hfirst => .after fun _ => .ite ?_ ?_
  · exact builds_sliceEnd hP h ht (by rintro _ ⟨⟩; exact hfirst)
  · exact .after fun _ => .pure (hP.layer rfl (by simpa [Layer.parts] using ⟨ht, hfirst⟩))

lemma builds_suffix? (allowLabels : Bool) {x : Expr} (hx : P x) :
    Builds (fun o => ∀ y ∈ o, P y) (suffix? inner allowLabels x) := by
  have hpart {l : Layer Expr} (hl : l.isSimple) (hparts : l.parts = [x]) :
      Builds (fun o => ∀ y ∈ o, P y) (Pure.pure (some (.of l))) := by
    refine .pure ?_
    rintro _ ⟨⟩
    exact hP.layer hl (hparts ▸ List.forall_mem_singleton.2 hx)
  refine .after fun _ => .ite (.some (builds_indexBody hP h hx)) ?_
  refine .after fun _ => .ite ?_ .none
  refine .after fun _ => .ite (.after fun _ => hpart rfl rfl) ?_
  exact .after fun _ => .ite (.after fun _ => hpart rfl rfl) .none

lemma builds_postfixed (allowLabels : Bool) : Builds P (postfixed inner allowLabels) :=
  .bind (builds_operand hP h) fun _ hx =>
    .iterate (fun _ hy => builds_suffix? hP h allowLabels hy) hx

/-! ### Operators -/

omit h in
lemma PassOn.withSign (s : Sign) {x : Expr} (hx : P x) : P (withSign s x) := by
  rw [Grammar.withSign.eq_def]
  split
  · exact hP.literal rfl
  · exact hP.layer rfl (List.forall_mem_singleton.2 hx)
  · exact hP.layer rfl (List.forall_mem_singleton.2 hx)

lemma builds_signed : Builds P (signed inner) := by
  refine .after fun signs => .bind (builds_postfixed hP h true) fun x hx => .pure ?_
  exact List.foldlRecOn signs _ hx fun y hy s _ => PassOn.withSign hP s hy

/-- What an operator makes of operands that meet a condition. -/
def Joins (P : Expr → Prop) (o : Option (Expr → Expr → Expr)) : Prop :=
  ∀ f ∈ o, ∀ x y, P x → P y → P (f x y)

section

omit h

lemma joins_binary (op : BinaryOp) : Joins P (some (binary op)) := by
  rintro _ ⟨⟩ x y hx hy
  exact hP.layer rfl (by simpa [Layer.parts] using ⟨hx, hy⟩)

lemma builds_oneOf (table : List (Symbol × BinaryOp)) : Builds (Joins P) (oneOf table) := by
  refine .after fun c => ?_
  extract_lets next
  split
  · exact .after fun _ => .pure (joins_binary hP _)
  · exact .pure nofun

lemma builds_word? (w : String) (op : BinaryOp) : Builds (Joins P) (word? w op) := by
  refine .after fun b => .pure ?_
  split_ifs
  · exact joins_binary hP op
  · exact nofun

lemma builds_comparisonOperator : Builds (Joins P) comparisonOperator := by
  have hsome (op : BinaryOp) : Builds (Joins P) (Pure.pure (some (binary op))) :=
    .pure (joins_binary hP op)
  refine .bind (builds_oneOf hP _) fun o ho => ?_
  split
  · exact .pure ho
  refine .after fun _ => .ite (hsome _) (.after fun _ => .ite (hsome _) ?_)
  refine .after fun _ => .ite (.after fun _ => .ite (.after fun _ => hsome _) ?_) (.pure nofun)
  exact .after fun _ => .ite (.after fun _ => hsome _) (.pure nofun)

end

lemma builds_powers : Builds P (powers inner) := .chainLeft (builds_oneOf hP _) (builds_signed hP h)

lemma builds_products : Builds P (products inner) :=
  .chainLeft (builds_oneOf hP _) (builds_powers hP h)

lemma builds_sums : Builds P (sums inner) := .chainLeft (builds_oneOf hP _) (builds_products hP h)

lemma builds_comparison? {left : Expr} (hleft : P left) :
    Builds (fun o => ∀ x ∈ o, P x) (comparison? inner left) := by
  refine .after fun _ => .ite (.after fun negated => .after fun _ => .pure ?_)
    (.bind (builds_comparisonOperator hP) fun o ho => ?_)
  · rintro _ ⟨⟩
    exact hP.layer rfl (List.forall_mem_singleton.2 hleft)
  · split
    · next f =>
      refine .bind (builds_sums hP h) fun right hright => .pure ?_
      rintro _ ⟨⟩
      exact ho f rfl left right hleft hright
    · exact .none

lemma builds_comparisons : Builds P (comparisons inner) :=
  .bind (builds_sums hP h) fun _ hx => .iterate (fun _ hy => builds_comparison? hP h hy) hx

lemma builds_negations : Builds P (negations inner) := by
  refine .after fun nots => .bind (builds_comparisons hP h) fun x hx => .pure ?_
  exact List.foldlRecOn nots _ hx fun y hy _ _ =>
    hP.layer rfl (List.forall_mem_singleton.2 hy)

lemma builds_conjunctions : Builds P (conjunctions inner) :=
  .chainLeft (builds_word? hP _ _) (builds_negations hP h)

lemma builds_exclusions : Builds P (exclusions inner) :=
  .chainLeft (builds_word? hP _ _) (builds_conjunctions hP h)

lemma builds_expression : Builds P (expression inner) :=
  .chainLeft (builds_word? hP _ _) (builds_exclusions hP h)

/-! ### Clauses -/

omit hP in
lemma builds_projection : Builds (fun b => ∀ x ∈ b.parts, P x) (projection inner) := by
  have hitem : Builds (fun i => P i.expr) (projectionItem inner) :=
    .after fun _ => .bind h.expr fun _ hx => .after fun _ => .after fun _ => .pure hx
  have hsort : Builds (fun i => P i.expr) (sortItem inner) :=
    .bind h.expr fun _ hx => .after fun _ => .after fun _ => .pure hx
  have horder : Builds (fun is => ∀ i ∈ is, P i.expr) (do keyword "BY"; sepBy (sortItem inner)) :=
    .after fun _ => .sepBy hsort
  refine .after fun distinct => .after fun star => .iteAfter fun more =>
    .iteBind (.sepBy hitem) (.pure (by simp)) fun items hitems => ?_
  refine .bind (.afterKeyword? "ORDER" horder) fun order ho =>
    .bind (.afterKeyword? "SKIP" h.expr) fun skip hskip =>
      .bind (.afterKeyword? "LIMIT" h.expr) fun limit hlimit => .pure ?_
  simp only [Projection.parts, List.forall_mem_append, List.forall_mem_map, Option.mem_toList]
  refine ⟨⟨⟨hitems, ?_⟩, hskip⟩, hlimit⟩
  cases order with
  | none => simp
  | some is => exact ho is rfl

lemma builds_propertyTarget : Builds (fun t => P t.1) (propertyTarget inner) := by
  refine .bind (builds_postfixed hP h false) fun x hx => ?_
  split
  · exact .pure (hP.target hx)
  · exact .fail _

lemma builds_setItem : Builds (fun i => ∀ x ∈ i.parts, P x) (setItem inner) := by
  refine .after fun _ => .ite ?_ ?_
  · exact .after fun _ => .after fun _ => .bind h.expr fun _ hx =>
      .pure (List.forall_mem_singleton.2 hx)
  refine .after fun _ => .ite ?_ ?_
  · exact .after fun _ => .after fun _ => .bind h.expr fun _ hx =>
      .pure (List.forall_mem_singleton.2 hx)
  refine .after fun _ => .ite (.after fun _ => .after fun _ => .pure nofun) ?_
  exact .bind (builds_propertyTarget hP h) fun _ ht => .after fun _ => .bind h.expr fun _ hx =>
    .pure (by simpa [SetItem.parts] using ⟨ht, hx⟩)

lemma builds_setItems : Builds (fun is => ∀ i ∈ is, ∀ x ∈ i.parts, P x) (setItems inner) :=
  .sepBy (builds_setItem hP h)

lemma builds_removeItem : Builds (fun i => ∀ x ∈ i.parts, P x) (removeItem inner) := by
  refine .after fun _ => .ite (.after fun _ => .after fun _ => .pure nofun) ?_
  exact .bind (builds_propertyTarget hP h) fun _ ht => .pure (List.forall_mem_singleton.2 ht)

lemma builds_mergeClause : Builds C (mergeClause inner) := by
  have haction : Builds (fun a => ∀ i ∈ a.2, ∀ x ∈ i.parts, P x) (mergeAction inner) :=
    .after fun _ => .after fun _ => .bind (builds_setItems hP h) fun _ his => .pure his
  refine .bind (builds_pathPattern hP h) fun p hp => .bind (.manyWhile haction)
    fun actions hactions => .pure (hP.clause rfl ?_)
  have hselect (onMatch : Bool) :
      ∀ a ∈ actions.filter (·.1 = onMatch), ∀ i ∈ a.2, ∀ x ∈ i.parts, P x :=
    fun a ha => hactions a (List.mem_of_mem_filter ha)
  simp only [Clause.parts, List.forall_mem_append, List.forall_mem_flatMap]
  exact ⟨⟨hp, hselect false⟩, hselect true⟩

lemma builds_deleteClause (detach : Bool) : Builds C (deleteClause inner detach) :=
  .bind (.sepBy h.expr) fun _ hxs => .pure (hP.clause rfl hxs)

lemma builds_foreach : Builds C (foreach inner) := by
  have hclause : Builds (fun c => c.isWrite ∧ C c) (foreachClause inner) := by
    refine .after fun _ => .ite (.unexpected _) (.bind h.clause fun c hc => ?_)
    split_ifs with hw
    · exact .pure ⟨hw, hc⟩
    · exact .fail _
  refine .after fun _ => .after fun n => .after fun _ => .bind h.expr fun s hs => .after fun _ =>
    .bind (.manyWhile hclause) fun body hbody => .after fun _ => ?_
  split_ifs with hempty
  · exact .fail _
  · exact .pure (hP.foreach hs (by simpa using hempty) hbody)

lemma builds_procedureCall : Builds C (procedureCall inner) := by
  have hcall {n : String} {args : List Expr} {yields : Option (List YieldItem)}
      {filter : Option Expr} (hargs : ∀ x ∈ args, P x) (hf : ∀ x ∈ filter, P x) :
      C (.call ⟨n, args, yields, filter⟩) := hP.clause rfl (by
    simp only [Clause.parts, ProcedureCall.parts, List.forall_mem_append, Option.mem_toList]
    exact ⟨hargs, hf⟩)
  refine .after fun n => .after fun _ => .iteBind (.listUntil .rightParen h.expr)
    (.pure (by simp)) fun args hargs => .after fun _ => .ite ?_ (.pure (hcall hargs (by simp)))
  exact .after fun _ => .iteAfter fun yields => .bind (builds_condition? h) fun _ hf =>
    .pure (hcall hargs hf)

lemma builds_matching (optional : Bool) : Builds C (matching inner optional) := by
  refine .bind (builds_patterns hP h) fun ps hps => .bind (builds_condition? h) fun w hw =>
    .pure (hP.clause rfl ?_)
  simp only [Clause.parts, List.forall_mem_append, List.forall_mem_flatMap, Option.mem_toList]
  exact ⟨hps, hw⟩

lemma builds_unwind : Builds C (unwind inner) :=
  .bind h.expr fun _ hx => .after fun _ => .after fun _ =>
    .pure (hP.clause rfl (List.forall_mem_singleton.2 hx))

lemma builds_withClause : Builds C (withClause inner) := by
  refine .bind (builds_projection h) fun b hb => .bind (builds_condition? h) fun w hw =>
    .pure (hP.clause rfl ?_)
  simp only [Clause.parts, List.forall_mem_append, Option.mem_toList]
  exact ⟨hb, hw⟩

lemma builds_subquery : Builds C (subquery inner) :=
  .bind (builds_query h false) fun _ hq => .after fun _ => .pure (hP.subquery hq)

lemma builds_of_mem_clauseTable : ∀ e ∈ clauseTable inner, Builds C e.2 := by
  simp only [clauseTable, List.forall_mem_cons]
  refine ⟨.after fun _ => builds_matching hP h true, builds_matching hP h false,
    builds_unwind hP h, builds_withClause hP h,
    .map (builds_projection h) fun _ hb => hP.clause rfl hb,
    .map (builds_patterns hP h) fun _ hps => hP.clause rfl (List.forall_mem_flatMap.2 hps),
    builds_mergeClause hP h,
    .map (builds_setItems hP h) fun _ his => hP.clause rfl (List.forall_mem_flatMap.2 his),
    .map (.sepBy (builds_removeItem hP h)) fun _ his =>
      hP.clause rfl (List.forall_mem_flatMap.2 his),
    .after fun _ => builds_deleteClause hP h true, builds_deleteClause hP h false,
    builds_foreach hP h, ?_, nofun⟩
  exact .after fun _ => .ite (builds_subquery hP h) (builds_procedureCall hP h)

lemma builds_clause : Builds C (clause inner) := by
  refine .after fun c => ?_
  split
  · next e he =>
    exact .after fun _ => builds_of_mem_clauseTable hP h e (List.mem_of_find?_eq_some he)
  · exact .unexpected _

omit h in
/-- However deep the nesting. -/
lemma builds_nested (depth : Nat) : (nested depth).Builds P C := by
  induction depth with
  | zero => exact ⟨.fail _, .fail _⟩
  | succ depth ih => exact ⟨builds_expression hP ih, builds_clause hP ih⟩

end Grammar

/-! ### Statements -/

/-- A statement as it stands in a text, with clauses that meet a condition. -/
def Statement.Of (C : Clause Expr → Prop) : Statement → Prop
  | .query q => q.Of C true
  | _ => True

namespace Grammar

variable {P : Expr → Prop} {C : Clause Expr → Prop} {inner : Inner} (h : inner.Builds P C)
include h

omit h in
lemma builds_dropStatement : Builds (Statement.Of C) dropStatement := by
  refine .after fun _ => .ite (.after fun _ => .after fun _ => .pure trivial) ?_
  refine .after fun _ => .ite (.after fun _ => .after fun _ => .pure trivial) ?_
  exact .after fun _ => .ite (.after fun _ => .pure trivial) (.unexpected _)

omit h in
lemma builds_createCommand? : Builds (fun o => ∀ k ∈ o, Statement.Of C k) createCommand? := by
  have hschema (p : Parser SchemaCommand) : Builds (fun o => ∀ k ∈ o, Statement.Of C k)
      (do return some (.schema (← p))) := by
    refine .after fun k => .pure ?_
    rintro _ ⟨⟩
    trivial
  refine .after fun _ => .ite ?_ .none
  refine .after fun _ => .ite (.after fun _ => .after fun n => .after fun b => .pure ?_) ?_
  · rintro _ ⟨⟩
    trivial
  refine .after fun _ => .ite (.after fun _ => hschema _) ?_
  exact .after fun _ => .ite (.after fun _ => hschema _) .none

lemma builds_statement : Builds (Statement.Of C) (statement inner) := by
  refine .after fun _ => .ite (.pure trivial) (.after fun _ => ?_)
  split
  · exact .pure trivial
  refine .after fun _ => .ite (.after fun _ => .pure trivial) ?_
  refine .after fun _ => .ite (.after fun _ => .pure trivial) ?_
  refine .bind (builds_createCommand? (C := C)) fun o ho => ?_
  split
  · next k => exact .pure (ho k rfl)
  · exact .after fun _ => .ite builds_dropStatement
      (.bind (builds_query h true) fun _ hq => .pure hq)

lemma builds_statements : Builds (fun ks => ∀ k ∈ ks, Statement.Of C k) (statements inner) := by
  refine .manyWhile (.bind (builds_statement h) fun k hk => ?_)
  exact .after fun _ => .ite (.pure hk) (.after fun _ => .ite (.pure hk) (.unexpected _))

end Grammar

/-- **What stands in a text** meets every condition that passes on. -/
theorem PassOn.of_parse {P : Expr → Prop} {C : Clause Expr → Prop} (hP : PassOn P C)
    {source : String} {ks : List Statement} (h : parse source = .ok ks) : ∀ k ∈ ks, k.Of C := by
  rw [parse] at h
  split at h
  · cases h
  · obtain ⟨⟨read, c⟩, hread, h⟩ := bind_eq_ok.1 h
    cases read with
    | nil => cases h
    | cons k read =>
      obtain rfl := Except.ok.inj h
      exact Grammar.builds_statements (Grammar.builds_nested hP _) _ _ hread

end Cypher

end PropertyGraph
