import PropertyGraph.Proofs.Cypher.Levels

/-!
Reading back what is printed. A term that is printed where some level is expected brings the loop of
that level to where the term is what has been read; what follows the term decides whether the loop
goes on.
-/

namespace PropertyGraph

namespace Cypher

namespace Term

variable {μ : Type}

/-- What the text of a term is read as: a minus belongs to the number that follows it. -/
def reading : Term μ → Expr
  | whole n _ => .of (.literal (.num (.ofNat n)))
  | string s => .of (.literal (.str s))
  | bool b => .of (.literal (.bool b))
  | null => .of (.literal .null)
  | name _ n => .of (.name n.text)
  | property t k => .of (.property t.reading k.text)
  | index t i => .of (.index t.reading i.reading)
  | unary .not t => .of (.unary .not t.reading)
  | unary .negate t => Grammar.withSign .minus t.reading
  | unary .plus t => Grammar.withSign .plus t.reading
  | isNull t n => .of (.isNull t.reading n)
  | binary op l r => .of (.binary op l.reading r.reading)

lemma withSign_minus {t : Term μ} (h : t.isWhole = false) :
    Grammar.withSign .minus t.tree = .of (.unary .negate t.tree) := by
  cases t with
  | whole n small => cases h
  | _ => rfl

/-- A proper term is read as its tree. -/
lemma reading_eq_tree {t : Term μ} (h : t.Proper) : t.reading = t.tree := by
  induction t with
  | property t k ih => rw [reading, tree, ih h]
  | index t i iht ihi => rw [reading, tree, iht h.1, ihi h.2]
  | unary op t ih =>
    cases op with
    | not => rw [reading, tree, ih h.1]
    | negate => rw [reading, tree, ih h.1, withSign_minus (h.2 rfl)]
    | plus =>
      rw [reading, tree, ih h.1]
      cases t <;> rfl
  | isNull t n ih => rw [reading, tree, ih h]
  | binary op l r ihl ihr => rw [reading, tree, ihl h.1, ihr h.2]
  | _ => rfl

end Term

/-! ### Relationships after a parenthesis -/

/-- Whether lexemes start a relationship. -/
def opensRel : List Lexeme → Bool
  | .symbol .minus :: .symbol s :: _ => s = .minus || s = .leftBracket
  | .symbol .less :: .symbol s :: _ => s = .minus
  | _ => false

/-- Whether a relationship starts after a name in parentheses, which then is read as a node. -/
def clashes : List Lexeme → Bool
  | [] => false
  | l :: ls =>
    (match l :: ls with
      | .symbol .leftParen :: n :: .symbol .rightParen :: ms => n.name?.isSome && opensRel ms
      | _ => false) || clashes ls

lemma clashes_append {ls ms : List Lexeme} (h : clashes (ls ++ ms) = false) :
    clashes ms = false := by
  induction ls with
  | nil => exact h
  | cons l ls ih => exact ih (Bool.or_eq_false_iff.1 h).2

lemma not_keyword_of_isBare {w k : String} (h : isBare w = true)
    (hk : k ∈ ["TRUE", "FALSE", "NULL", "CASE", "NOT", "DISTINCT"]) :
    (Lexeme.word w).isKeyword k = false := by
  simp only [isBare, Bool.and_eq_true, Bool.not_eq_true', List.any_eq_false] at h
  exact Bool.eq_false_iff.2 (h.2 k hk)

namespace Grammar

/-! ### Prefixes -/

/-- Takes one more item. -/
def gather {α : Type} (p : Parser (Option α)) (xs : List α) : Parser (Option (List α)) := do
  return (← p).map (· :: xs)

section Gather

variable {α : Type} {p : Parser (Option α)} {c d e : Cursor} {xs ys zs : List α} {a : α}

lemma reads_steps_gather (xs : List α) {fuel : Nat} (h : Reads (steps (gather p) fuel ys) c zs e) :
    Reads (steps (gather p) fuel (ys ++ xs)) c (zs ++ xs) e := by
  induction fuel generalizing c ys with
  | zero =>
    obtain ⟨rfl, rfl⟩ := Prod.mk.inj (Except.ok.inj h)
    rfl
  | succ fuel ih =>
    obtain ⟨⟨o, d⟩, ho, h⟩ := bind_eq_ok.1 h
    obtain ⟨⟨o', d'⟩, ho', ho⟩ := bind_eq_ok.1 ho
    obtain ⟨rfl, rfl⟩ := Prod.mk.inj (Except.ok.inj ho)
    refine .bind (.bind ho' (.pure _ _)) ?_
    cases o' with
    | none =>
      obtain ⟨rfl, rfl⟩ := Prod.mk.inj (Except.ok.inj h)
      rfl
    | some a => exact ih h

lemma reads_gather_next (h : Reads p c (some a) d) (hlt : d.rest.length + 1 = c.rest.length)
    (hr : Reads (iterate (gather p) []) d xs e) :
    Reads (iterate (gather p) []) c (xs ++ [a]) e := by
  refine .bind (.get c) (.bind (.bind h (.pure _ _)) ?_)
  have := reads_steps_gather [a] (show Reads (steps (gather p) _ []) d xs e from hr)
  rw [← hlt]
  exact this

lemma reads_gather_stop (h : Reads p c none c) : Reads (iterate (gather p) []) c [] c :=
  (Loops.stop (.bind (f := fun o => pure (o.map (· :: []))) h (.pure _ _))).iterate

end Gather

section Prefix

variable {inner : Inner} {c e : Cursor} {x : Expr} {ls : List Lexeme} {l : Lexeme}

lemma length_rest_drop (h : c.lexemes = l :: ls) : (c.drop 1).rest.length + 1 = c.rest.length := by
  have := congrArg List.length h
  rw [Cursor.length_lexemes, List.length_cons] at this
  rw [Cursor.rest_drop, List.length_drop]
  omega

/-- One NOT. -/
def not? : Parser (Option Unit) := do
  if ← eatKeyword "NOT" then return some () else return none

lemma manyWhile_not : manyWhile (eatKeyword "NOT") (return ()) =
    List.reverse <$> iterate (gather not?) [] := by
  refine congrArg (fun f => List.reverse <$> iterate f []) (funext fun us => ?_)
  simp only [gather, not?, bind_assoc]
  refine bind_congr fun b => ?_
  cases b <;> rfl

lemma negations_eq : negations inner = (iterate (gather not?) [] >>= fun us => do
    return us.reverse.foldl (fun x _ => .of (.unary .not x)) (← comparisons inner)) := by
  rw [negations, manyWhile_not, bind_map_left]

lemma foldl_units (g : Expr → Expr) (us : List Unit) (y : Expr) :
    us.foldl (fun x _ => g x) (g y) = g (us.foldl (fun x _ => g x) y) := by
  induction us generalizing y with
  | nil => rfl
  | cons u us ih => exact ih (g y)

lemma reads_not (h : c.lexemes = .word "NOT" :: ls) (hr : Reads (negations inner) (c.drop 1) x e) :
    Reads (negations inner) c (.of (.unary .not x)) e := by
  rw [negations_eq] at hr ⊢
  obtain ⟨⟨us, d⟩, hu, hr⟩ := bind_eq_ok.1 hr
  obtain ⟨⟨y, e'⟩, hy, hr⟩ := bind_eq_ok.1 hr
  obtain ⟨rfl, rfl⟩ := Prod.mk.inj (Except.ok.inj hr)
  have hn : Reads not? c (some ()) (c.drop 1) :=
    .bind (.eatKeyword h (beq_self_eq_true _)) (.pure _ _)
  refine .bind (reads_gather_next hn (length_rest_drop h) hu) (.bind hy ?_)
  rw [List.reverse_append, List.reverse_singleton, List.singleton_append, List.foldl_cons,
    foldl_units]
  exact .pure _ _

lemma reads_negations (h : ∀ l ∈ c.lexemes.head?, l.isKeyword "NOT" = false)
    (hr : Reads (comparisons inner) c x e) : Reads (negations inner) c x e := by
  rw [negations_eq]
  exact .bind (reads_gather_stop (.bind (.eatKeyword_not h) (.pure none c))) (.bind hr (.pure _ _))

def Sign.symbol : Sign → Symbol
  | .minus => .minus
  | .plus => .plus

lemma reads_sign (s : Sign) (h : c.lexemes = .symbol s.symbol :: ls)
    (hr : Reads (signed inner) (c.drop 1) x e) : Reads (signed inner) c (withSign s x) e := by
  obtain ⟨⟨ss, d⟩, hs, hr⟩ := bind_eq_ok.1 hr
  obtain ⟨⟨y, e'⟩, hy, hr⟩ := bind_eq_ok.1 hr
  obtain ⟨rfl, rfl⟩ := Prod.mk.inj (Except.ok.inj hr)
  have hn : Reads sign? c (some s) (c.drop 1) := by
    cases s with
    | minus => exact .bind (.eatSymbol h) (.pure _ _)
    | plus =>
      refine .bind (.eatSymbol_not fun l hl => ?_) (.bind (.eatSymbol h) (.pure _ _))
      rw [h] at hl
      cases hl
      nofun
  refine .bind (reads_gather_next hn (length_rest_drop h) hs) (.bind hy ?_)
  rw [List.foldl_append]
  exact .pure _ _

lemma reads_signed (h : ∀ l ∈ c.lexemes.head?, l ≠ .symbol .minus ∧ l ≠ .symbol .plus)
    (hr : Reads (postfixed inner true) c x e) : Reads (signed inner) c x e :=
  .bind (reads_gather_stop (.bind (.eatSymbol_not fun l hl => (h l hl).1)
    (.bind (.eatSymbol_not fun l hl => (h l hl).2) (.pure none c)))) (.bind hr (.pure _ _))

end Prefix

/-! ### Terms at their levels -/

section Levels

variable {μ : Type} (wrapped : μ → Bool)

/-- No variable bears parentheses of its own, or none of those that do is read as a node. -/
def Plainly (ls : List Lexeme) : Prop := (∀ m, wrapped m = false) ∨ clashes ls = false

/-- Lexemes, followed by what does not go on with them more tightly, bring the loop of a level to
where an expression is what has been read. -/
def Opens (d : Nat) (ls : List Lexeme) (x : Expr) (n : Nat) : Prop :=
  ∀ ⦃c e : Cursor⦄ ⦃y : Expr⦄ ⦃tail : List Lexeme⦄, c.lexemes = ls ++ tail → Ends (n + 1) tail →
    Plainly wrapped (ls ++ tail) → Loops (step (nested d) n) x (c.drop ls.length) y e →
    Reads (rule (nested d) n) c y e

variable {wrapped} {d n : Nat} {ls ms tail : List Lexeme} {c : Cursor} {x : Expr}

lemma Plainly.append (h : Plainly wrapped (ls ++ ms)) : Plainly wrapped ms :=
  h.imp_right clashes_append

lemma Plainly.of_cons {l : Lexeme} (h : Plainly wrapped (l :: ls)) : Plainly wrapped ls :=
  h.imp_right fun h => (Bool.or_eq_false_iff.1 h).2

lemma lexemes_after (hc : c.lexemes = ls ++ tail) : (c.drop ls.length).lexemes = tail := by
  simp [hc]

lemma Opens.reads (h : Opens wrapped d ls x n) (hc : c.lexemes = ls ++ tail) (he : Ends n tail)
    (hp : Plainly wrapped (ls ++ tail)) :
    Reads (rule (nested d) n) c x (c.drop ls.length) :=
  h hc (he.mono (Nat.le_succ n)) hp <|
    .stop (reads_step_not (by rw [lexemes_after hc]; exact he) x)

/-- A level that takes nothing itself has read an expression as soon as the next one has. -/
lemma loops_pure {y : Expr} {e : Cursor} (h : Loops (fun _ => pure none) x c y e) :
    y = x ∧ e = c := by
  cases h with
  | stop h => exact ⟨rfl, (Prod.mk.inj (Except.ok.inj h)).2.symm⟩
  | next h => cases (Prod.mk.inj (Except.ok.inj h)).1

lemma not_keyword_of_begins {l : Lexeme} (h : begins 4 l = true) : l.isKeyword "NOT" = false := by
  cases l with
  | word w =>
    simp only [begins, Bool.or_eq_true, Nat.reduceLeDiff, decide_false, Bool.false_and,
      Bool.false_eq_true, or_false, decide_eq_true_eq, List.mem_cons, List.not_mem_nil] at h
    rcases h with h | rfl | rfl | rfl
    · exact not_keyword_of_isBare h (by simp)
    all_goals cbv
  | _ => rfl

lemma not_sign_of_begins {l : Lexeme} (h : begins 9 l = true) :
    l ≠ .symbol .minus ∧ l ≠ .symbol .plus := by
  constructor <;> rintro rfl <;> simp [begins] at h

lemma Opens.down (h : Opens wrapped d ls x (n + 1)) (hn : n < 10) (hb : Begins (n + 1) ls) :
    Opens wrapped d ls x n := by
  intro c e y tail hc he hp hl
  have hr := h.reads hc he hp
  have hhead (p : Lexeme → Prop) (hp : ∀ l, begins (n + 1) l = true → p l) :
      ∀ l ∈ c.lexemes.head?, p l := by
    obtain ⟨k, hk, hb⟩ := hb.append tail
    intro l hl
    rw [hc, hk] at hl
    cases hl
    exact hp k hb
  match n with
  | 0 | 1 | 2 | 4 | 5 | 6 | 7 | 9 =>
    rw [rule_eq _ _ (by decide)]
    exact .bind hr hl.iterate
  | 3 =>
    obtain ⟨rfl, rfl⟩ := loops_pure hl
    exact reads_negations (hhead _ fun l hb => not_keyword_of_begins hb) hr
  | 8 =>
    obtain ⟨rfl, rfl⟩ := loops_pure hl
    exact reads_signed (hhead _ fun l hb => not_sign_of_begins hb) hr

lemma Opens.downTo {k : Nat} (h : Opens wrapped d ls x k) (hk : k ≤ 10) (hb : Begins k ls)
    (hn : n ≤ k) : Opens wrapped d ls x n := by
  induction k with
  | zero =>
    obtain rfl := Nat.le_zero.1 hn
    exact h
  | succ k ih =>
    rcases Nat.lt_or_ge k n with hlt | hle
    · obtain rfl : n = k + 1 := Nat.le_antisymm hn hlt
      exact h
    · exact ih (h.down hk hb) (Nat.le_of_succ_le hk) (hb.mono (Nat.le_succ k)) hle

lemma lexeme?_head {l : Lexeme} (hc : c.lexemes = l :: tail) : c.lexeme? 0 = some l := by
  rw [Cursor.lexeme?_eq, hc]
  rfl

lemma reads_patternAhead_not (h : startsPattern c.rest = false) :
    Reads (patternAhead 0) c false c := by
  change Except.ok (startsPattern (c.rest.drop 0), c) = _
  rw [List.drop_zero, h]

/-- An expression in parentheses is an operand. -/
lemma Opens.enclosed (h : Opens wrapped d ls x 0)
    (hq : ∀ {c : Cursor} {tail : List Lexeme},
      c.lexemes = .symbol .leftParen :: (ls ++ .symbol .rightParen :: tail) →
      Plainly wrapped (.symbol .leftParen :: (ls ++ .symbol .rightParen :: tail)) →
      startsPattern c.rest = false) :
    Opens wrapped (d + 1) (.symbol .leftParen :: (ls ++ [.symbol .rightParen])) x 10 := by
  intro c e y tail hc he hp hl
  obtain ⟨rfl, rfl⟩ := loops_pure hl
  rw [List.cons_append, List.append_assoc, List.singleton_append] at hc hp
  have h₁ : (c.drop 1).lexemes = ls ++ .symbol .rightParen :: tail := by
    rw [Cursor.lexemes_drop, hc]; rfl
  have hx := h.reads h₁ (ends_cons (by decide_cbv) _) hp.of_cons
  have h₂ := lexemes_after h₁
  rw [List.length_cons, List.length_append, List.length_singleton,
    Nat.add_comm (ls.length + 1) 1, ← Cursor.drop_drop, ← Cursor.drop_drop]
  refine .bind (.get c) ?_
  simp only [lexeme?_head hc]
  refine .bind (reads_patternAhead_not (hq hc hp)) ?_
  exact .bind (.skip 1 c) (.bind hx (.bind (.symbol h₂) (.pure _ _)))

/-! ### Operands -/

section Operand

variable {inner : Inner} {l : Lexeme} {ls : List Lexeme}

lemma reads_literal (v : Value) (c : Cursor) :
    Reads (literal v) c (.of (.literal v)) (c.drop 1) :=
  .bind (.skip 1 c) (.pure _ _)

lemma reads_number {v : Number} (hc : c.lexemes = .number v :: ls) :
    Reads (operand inner) c (.of (.literal (.num v))) (c.drop 1) := by
  refine .bind (.get c) ?_
  simp only [lexeme?_head hc]
  exact reads_literal _ c

lemma reads_string {v : String} (hc : c.lexemes = .string v :: ls) :
    Reads (operand inner) c (.of (.literal (.str v))) (c.drop 1) := by
  refine .bind (.get c) ?_
  simp only [lexeme?_head hc]
  exact reads_literal _ c

lemma reads_constant {w : String} {v : Value} (hc : c.lexemes = .word w :: ls)
    (hv : constant? (Text.asciiUpper w) = some v) :
    Reads (operand inner) c (.of (.literal v)) (c.drop 1) := by
  refine .bind (.get c) ?_
  simp only [lexeme?_head hc, wordOperand, hv]
  exact reads_literal _ c

lemma constant?_of_isBare {w : String} (h : isBare w = true) :
    constant? (Text.asciiUpper w) = none := by
  have hk (k : String) (hk : k ∈ ["TRUE", "FALSE", "NULL", "CASE", "NOT", "DISTINCT"]) :
      Text.asciiUpper w ≠ Text.asciiUpper k := by
    have := not_keyword_of_isBare h hk
    simpa [Lexeme.isKeyword] using this
  unfold constant?
  split
  · rename_i heq
    exact absurd heq (hk "TRUE" (by simp))
  · rename_i heq
    exact absurd heq (hk "FALSE" (by simp))
  · rename_i heq
    exact absurd heq (hk "NULL" (by simp))
  · rfl

lemma reads_nameOrMap (n : String) (he : ∀ l ∈ c.lexemes.head?, l ≠ .symbol .leftBrace) :
    Reads (nameOrMap inner n) c (.of (.name n)) c :=
  .bind (.eatSymbol_not he) (.pure _ _)

/-- A name, unless a parenthesis or a brace follows. -/
lemma reads_name (n : Name) (hc : c.lexemes = n.piece.lexeme :: ls) (he : Ends 11 ls) :
    Reads (operand inner) c (.of (.name n.text)) (c.drop 1) := by
  have h11 : ∀ l ∈ ls.head?, goesOn 11 l = false := he 11 (Nat.le_refl _)
  simp only [goesOn, Bool.or_eq_false_iff, decide_eq_false_iff_not] at h11
  have hd : (c.drop 1).lexemes = ls := by
    rw [Cursor.lexemes_drop, hc]
    rfl
  have hm : Reads (nameOrMap inner n.text) (c.drop 1) (.of (.name n.text)) (c.drop 1) := by
    refine reads_nameOrMap n.text ?_
    rw [hd]
    exact fun l hl => (h11 l hl).2
  obtain ⟨w, bare, fits⟩ := n
  refine .bind (.get c) ?_
  cases bare with
  | false =>
    simp only [lexeme?_head hc]
    exact .bind (.skip 1 c) hm
  | true =>
    replace hc : c.lexemes = .word w :: ls := hc
    have h₁ {s : Symbol} (hs : ∀ l ∈ ls.head?, l ≠ .symbol s) :
        Reads (isSymbol s 1) c false c := by
      have := Reads.isSymbol s 1 c
      rw [hc, List.getElem?_cons_succ, ← List.head?_eq_getElem?,
        (Option.any_eq_false _ _).2 fun l hl => beq_eq_false_iff_ne.2 (hs l hl)] at this
      exact this
    have hcase : Text.asciiUpper w ≠ "CASE" := by
      have := not_keyword_of_isBare fits (k := "CASE") (by simp)
      exact beq_eq_false_iff_ne.1 this
    have hres : (Lexeme.word w).isReserved = false := by
      simp only [isBare, Bool.and_eq_true, Bool.not_eq_true'] at fits
      exact fits.1.2
    simp only [lexeme?_head hc, wordOperand, constant?_of_isBare fits, if_neg hcase]
    refine .bind (h₁ fun l hl => (h11 l hl).2) ?_
    rw [Bool.and_false, if_neg Bool.false_ne_true]
    refine .bind (h₁ fun l hl => (h11 l hl).1) ?_
    rw [if_neg Bool.false_ne_true, if_neg (Bool.eq_false_iff.1 hres)]
    exact .bind (.skip 1 c) hm

end Operand

/-! ### Terms -/

variable (wrapped) in
/-- A term is read back at its own level. -/
def Own (t : Term μ) : Prop :=
  ∀ ⦃d : Nat⦄, (t.print wrapped).length ≤ d →
    Opens wrapped d (lexemesOf (t.print wrapped)) t.reading t.level

lemma level_le (t : Term μ) : t.level ≤ 10 := by
  cases t with
  | unary op t => cases op <;> simp [Term.level, UnaryOp.level]
  | binary op l r => cases op <;> simp [Term.level, BinaryOp.level]
  | _ => simp [Term.level]

/-- Then it is read back wherever it is printed. -/
lemma Own.opens {t : Term μ} (h : Own wrapped t) {n : Nat} (hn : n ≤ 10)
    (hd : (enclose (t.level < n) (t.print wrapped)).length ≤ d) :
    Opens wrapped d (lexemesOf (enclose (t.level < n) (t.print wrapped))) t.reading n := by
  by_cases hlt : t.level < n
  · rw [decide_eq_true hlt] at hd ⊢
    simp only [enclose, if_true, List.length_cons, List.length_append, List.length_nil] at hd ⊢
    obtain ⟨d, rfl⟩ := Nat.exists_eq_add_of_le' (Nat.le_trans (Nat.le_add_left 1 _) hd)
    have h0 := (h (d := d) (by omega)).downTo (level_le t) (begins_print wrapped t) (Nat.zero_le _)
    have hq {c : Cursor} {tail : List Lexeme}
        (hc : c.lexemes =
          .symbol .leftParen :: (lexemesOf (t.print wrapped) ++ .symbol .rightParen :: tail)) :
        startsPattern c.rest = false :=
      startsPattern_of_quiet hc (quiet_print t fun h => absurd h (by omega))
    have h10 := Opens.enclosed h0 fun hc _ => hq hc
    simpa using h10.downTo (Nat.le_refl _) ⟨_, rfl, rfl⟩ hn
  · rw [decide_eq_false hlt] at hd ⊢
    exact (h hd).downTo (level_le t) (begins_print wrapped t) (Nat.le_of_not_lt hlt)

/-- An operand of one lexeme. -/
lemma opens_operand {p : Piece} {x : Expr}
    (h : ∀ {c : Cursor} {ls : List Lexeme}, c.lexemes = p.lexeme :: ls → Ends 11 ls →
      Reads (operand (nested d)) c x (c.drop 1)) :
    Opens wrapped d (lexemesOf [p]) x 10 := by
  intro c e y tail hc he _ hl
  obtain ⟨rfl, rfl⟩ := loops_pure hl
  exact h hc he

lemma startsRel_eq {t : Token} (ht : t.lexeme = .symbol .rightParen) (ts : List Token) :
    startsRel (t :: ts) = opensRel (ts.map Token.lexeme) := by
  rcases ts with _ | ⟨⟨a, _, _⟩, _ | ⟨⟨b, _, _⟩, ts⟩⟩
  · simp [startsRel, opensRel]
  · simp [startsRel, opensRel]
  · simp only [startsRel, opensRel, List.take_succ_cons, List.take_zero, List.map_cons,
      List.map_nil, ht]
    split <;> split <;> simp_all

/-- A name in parentheses is no pattern, unless a relationship follows. -/
lemma startsPattern_of_clashes {n l : Lexeme} (hn : n.name?.isSome = true)
    (hl : l = .symbol .rightParen) {ts : List Token}
    (hs : clashes (.symbol .leftParen :: n :: l :: ls) = false)
    (h : ts.map Token.lexeme = .symbol .leftParen :: n :: l :: ls) : startsPattern ts = false := by
  subst hl
  obtain _ | ⟨⟨l₀, _, _⟩, _ | ⟨t₁, _ | ⟨t₂, ts⟩⟩⟩ := ts
  · cases h
  · cases h
  · cases h
  simp only [List.map_cons, List.cons.injEq] at h
  obtain ⟨rfl, rfl, h₂, rfl⟩ := h
  change (dropProperties (dropLabels (dropName (t₁ :: t₂ :: ts)))).any startsRel = false
  have hl : dropLabels (t₂ :: ts) = t₂ :: ts := by
    cases ts <;> simp [dropLabels, h₂]
  have hp : dropProperties (t₂ :: ts) = some (t₂ :: ts) := by
    obtain ⟨l, a, b⟩ := t₂
    cases h₂
    rfl
  rw [dropName, if_pos hn, hl, hp, Option.any_some, startsRel_eq h₂]
  have := (Bool.or_eq_false_iff.1 hs).1
  simpa [hn] using this

lemma own_name (m : μ) (n : Name) : Own wrapped (.name m n) := by
  intro d hd
  have h {d : Nat} : Opens wrapped d (lexemesOf [n.piece]) (.of (.name n.text)) 10 :=
    opens_operand fun hc he => reads_name n hc he
  simp only [Term.print] at hd ⊢
  cases hm : wrapped m with
  | false => exact h
  | true =>
    rw [hm] at hd
    obtain ⟨d, rfl⟩ := Nat.exists_eq_add_of_le' (Nat.le_trans (Nat.le_add_left 1 2) hd)
    have h0 := (h (d := d)).downTo (Nat.le_refl _) ⟨_, rfl, begins_name n 10⟩ (Nat.zero_le _)
    refine Opens.enclosed h0 fun hc hp => startsPattern_of_clashes ?_ rfl ?_ hc
    · obtain ⟨w, bare, fits⟩ := n
      cases bare <;> rfl
    · exact hp.resolve_left fun h => Bool.false_ne_true ((h m).symm.trans hm)

section Suffix

variable {inner : Inner} {l : Lexeme} {y : Expr}

lemma length_drop_lt (hc : c.lexemes = l :: ls) (hn : 0 < n) :
    (c.drop n).rest.length < c.rest.length := by
  have := congrArg List.length hc
  rw [Cursor.length_lexemes, List.length_cons] at this
  rw [Cursor.rest_drop, List.length_drop]
  omega

lemma reads_property {k : String} (hc : c.lexemes = .symbol .dot :: l :: ls)
    (hl : l.name? = some k) :
    Reads (suffix? inner true x) c (some (.of (.property x k))) (c.drop 2) := by
  have hn : Reads (isName 1) c true c := by
    have := Reads.isName 1 c
    rw [hc, List.getElem?_cons_succ, List.getElem?_cons_zero, Option.any_some, hl] at this
    exact this
  have h₁ : (c.drop 1).lexemes = l :: ls := by
    rw [Cursor.lexemes_drop, hc]
    rfl
  refine .bind (.eatSymbol_not fun l hl => ?_) ?_
  · rw [hc] at hl
    cases hl
    nofun
  exact .bind hn (.bind (.eatSymbol hc) (.bind (.name h₁ hl) (.pure _ _)))

lemma reads_index (hc : c.lexemes = .symbol .leftBracket :: (ls ++ .symbol .rightBracket :: tail))
    (hb : Begins 0 ls) (hi : Reads inner.expr (c.drop 1) y ((c.drop 1).drop ls.length)) :
    Reads (suffix? inner true x) c (some (.of (.index x y)))
      (((c.drop 1).drop ls.length).drop 1) := by
  have h₁ : (c.drop 1).lexemes = ls ++ .symbol .rightBracket :: tail := by
    rw [Cursor.lexemes_drop, hc]
    rfl
  have h₂ := lexemes_after h₁
  refine .bind (.eatSymbol hc) (.map some ?_)
  refine .bind (.eatSymbol_not fun l hl => ?_) (.bind hi (.bind (.eatSymbol_not fun l hl => ?_) ?_))
  · obtain ⟨k, hk, hb⟩ := hb.append (.symbol .rightBracket :: tail)
    rw [h₁, hk] at hl
    cases hl
    rintro rfl
    simp [begins] at hb
  · rw [h₂] at hl
    cases hl
    simp
  · exact .bind (.symbol h₂) (.pure _ _)

lemma reads_isNull :
    (c.lexemes = .word "IS" :: .word "NULL" :: ls →
      Reads (comparison? inner x) c (some (.of (.isNull x false))) (c.drop 2)) ∧
    (c.lexemes = .word "IS" :: .word "NOT" :: .word "NULL" :: ls →
      Reads (comparison? inner x) c (some (.of (.isNull x true))) (c.drop 3)) := by
  have hself (w : String) : (Lexeme.word w).isKeyword w = true := beq_self_eq_true _
  constructor
  · intro hc
    have h₁ : (c.drop 1).lexemes = .word "NULL" :: ls := by
      rw [Cursor.lexemes_drop, hc]
      rfl
    refine .bind (.eatKeyword hc (hself _)) (.bind (.eatKeyword_not fun l hl => ?_) ?_)
    · rw [h₁] at hl
      cases hl
      cbv
    · exact .bind (.keyword h₁ (hself _)) (.pure _ _)
  · intro hc
    have h₁ : (c.drop 1).lexemes = .word "NOT" :: .word "NULL" :: ls := by
      rw [Cursor.lexemes_drop, hc]
      rfl
    have h₂ : (c.drop 2).lexemes = .word "NULL" :: ls := by
      rw [Cursor.lexemes_drop, hc]
      rfl
    exact .bind (.eatKeyword hc (hself _)) <| .bind (.eatKeyword h₁ (hself _)) <|
      .bind (.keyword h₂ (hself _)) (.pure _ _)

end Suffix

lemma own_property {t : Term μ} (ht : Own wrapped t) (k : Name) :
    Own wrapped (.property t k) := by
  intro d hd c e y tail hc he hp hl
  rw [Term.print, lexemesOf_append, List.append_assoc] at hc hp
  rw [Term.print, lexemesOf_append, List.length_append, ← Cursor.drop_drop] at hl
  rw [Term.print, List.length_append] at hd
  have ho := ht.opens (n := 9) (by decide) (Nat.le_of_add_right_le hd)
  have h₁ := lexemes_after hc
  refine ho hc (ends_cons (by decide_cbv) _) hp (.next (reads_property h₁ ?_) ?_ hl)
  · obtain ⟨w, bare, fits⟩ := k
    cases bare <;> rfl
  · exact length_drop_lt h₁ (by decide)

lemma own_index {t i : Term μ} (ht : Own wrapped t) (hi : Own wrapped i) :
    Own wrapped (.index t i) := by
  intro d hd c e y tail hc he hp hl
  rw [Term.print, lexemesOf_append, lexemesOf_cons, lexemesOf_append, List.append_assoc,
    List.cons_append, List.append_assoc] at hc hp
  simp only [Term.print, lexemesOf_append, lexemesOf_cons, lexemesOf_nil, List.length_append,
    List.length_cons, List.length_nil, length_lexemesOf] at hd hl
  have ho := ht.opens (d := d) (n := 9) (by decide) (by omega)
  obtain ⟨d, rfl⟩ := Nat.exists_eq_add_of_le' (show 1 ≤ d by omega)
  have h₁ := lexemes_after hc
  have h₂ : ((c.drop (lexemesOf (enclose (t.level < 9) (t.print wrapped))).length).drop 1).lexemes =
      lexemesOf (i.print wrapped) ++ .symbol .rightBracket :: tail := by
    rw [Cursor.lexemes_drop, h₁]
    rfl
  have hb := begins_print wrapped i
  have hx := ((hi (d := d) (by omega)).downTo (level_le i) hb (Nat.zero_le _)).reads h₂
    (ends_cons (by decide_cbv) _) hp.append.of_cons
  have hs : Reads (suffix? (nested (d + 1)) true t.reading) _ _ _ :=
    reads_index h₁ (hb.mono (Nat.zero_le _)) hx
  refine ho hc (ends_cons (by decide_cbv) _) hp (.next hs ?_ ?_)
  · rw [Cursor.drop_drop, Cursor.drop_drop]
    exact length_drop_lt h₁ (by omega)
  · have hlen (a : Nat) : 1 + (a + 1) = a + (0 + 1) + 1 := by omega
    rw [Cursor.drop_drop, Cursor.drop_drop, Cursor.drop_drop, length_lexemesOf, length_lexemesOf,
      hlen]
    exact hl

lemma own_unary (op : UnaryOp) {t : Term μ} (ht : Own wrapped t) : Own wrapped (.unary op t) := by
  intro d hd c e y tail hc he hp hl
  rw [Term.print, lexemesOf_cons, List.cons_append] at hc hp
  rw [Term.print, List.length_cons] at hd
  rw [Term.print, lexemesOf_cons, List.length_cons, Nat.add_comm, ← Cursor.drop_drop] at hl
  have ho := ht.opens (d := d) (n := op.level) (by cases op <;> decide) (by omega)
  have h₁ : (c.drop 1).lexemes =
      lexemesOf (enclose (t.level < op.level) (t.print wrapped)) ++ tail := by
    rw [Cursor.lexemes_drop, hc]
    rfl
  have hr : Reads (rule (nested d) op.level) (c.drop 1) t.reading
      ((c.drop 1).drop (lexemesOf (enclose (t.level < op.level) (t.print wrapped))).length) :=
    ho h₁ he hp.of_cons (.stop (by cases op <;> exact .pure none _))
  cases op with
  | not =>
    obtain ⟨rfl, rfl⟩ := loops_pure hl
    exact reads_not hc hr
  | negate =>
    obtain ⟨rfl, rfl⟩ := loops_pure hl
    exact reads_sign .minus hc hr
  | plus =>
    obtain ⟨rfl, rfl⟩ := loops_pure hl
    exact reads_sign .plus hc hr

lemma own_isNull {t : Term μ} (ht : Own wrapped t) (n : Bool) : Own wrapped (.isNull t n) := by
  intro d hd c e y tail hc he hp hl
  rw [Term.print, lexemesOf_append, List.append_assoc] at hc hp
  rw [Term.print, lexemesOf_append, List.length_append, ← Cursor.drop_drop] at hl
  rw [Term.print, List.length_append] at hd
  have ho := ht.opens (n := 4) (by decide) (Nat.le_of_add_right_le hd)
  have h₁ := lexemes_after hc
  refine ho hc (ends_cons (by decide_cbv) _) hp (.next ?_ ?_ hl)
  · cases n with
    | false => exact reads_isNull.1 h₁
    | true => exact reads_isNull.2 h₁
  · exact length_drop_lt h₁ (by simp)

lemma ends_op (op : BinaryOp) (ls : List Lexeme) :
    Ends (op.level + 1) (lexemesOf op.pieces ++ ls) := by
  cases op <;> exact ends_cons (by decide_cbv) _

lemma own_binary (op : BinaryOp) {l r : Term μ} (hl : Own wrapped l) (hr : Own wrapped r) :
    Own wrapped (.binary op l r) := by
  intro d hd c e y tail hc he hp hloop
  rw [Term.print, lexemesOf_append, lexemesOf_append, List.append_assoc, List.append_assoc] at hc hp
  rw [Term.print, lexemesOf_append, lexemesOf_append, List.length_append, List.length_append,
    ← Cursor.drop_drop, ← Cursor.drop_drop, length_lexemesOf op.pieces] at hloop
  rw [Term.print, List.length_append, List.length_append] at hd
  have hk : op.level ≤ 7 := by cases op <;> decide
  have hol := hl.opens (d := d) (n := op.level) (by omega) (by omega)
  have hor := hr.opens (d := d) (n := op.level + 1) (by omega) (by omega)
  have h₁ := lexemes_after hc
  have h₂ := lexemes_after h₁
  rw [length_lexemesOf op.pieces] at h₂
  have hs : Reads (step (nested d) op.level l.reading) _ _ _ :=
    reads_step_binary h₁ (hor.reads h₂ he hp.append.append)
  refine hol hc (ends_op op _) hp (.next hs ?_ hloop)
  obtain ⟨k, ks, hop, -⟩ := inert_op op
  have hpos : 0 < op.pieces.length := by cases op <;> decide
  rw [hop] at h₁
  rw [Cursor.drop_drop]
  exact length_drop_lt h₁ (by omega)

/-- **Every term is read back at its own level.** -/
theorem own (wrapped : μ → Bool) (t : Term μ) : Own wrapped t := by
  induction t with
  | whole n small => exact fun d _ => opens_operand (p := .whole n) fun hc _ => reads_number hc
  | string s => exact fun d _ => opens_operand (p := .string s) fun hc _ => reads_string hc
  | bool b =>
    cases b
    · exact fun d _ => opens_operand (p := .word "FALSE") fun hc _ => reads_constant hc rfl
    · exact fun d _ => opens_operand (p := .word "TRUE") fun hc _ => reads_constant hc rfl
  | null => exact fun d _ => opens_operand (p := .word "NULL") fun hc _ => reads_constant hc rfl
  | name m n => exact own_name m n
  | property t k ih => exact own_property ih k
  | index t i iht ihi => exact own_index iht ihi
  | unary op t ih => exact own_unary op ih
  | isNull t n ih => exact own_isNull ih n
  | binary op l r ihl ihr => exact own_binary op ihl ihr

end Levels

end Grammar

end Cypher

end PropertyGraph
