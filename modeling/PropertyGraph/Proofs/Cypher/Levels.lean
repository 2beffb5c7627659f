import PropertyGraph.Proofs.Cypher.Printed
import PropertyGraph.Proofs.Cypher.Reads

/-!
Levels of the grammar, counted from the loosest. Each reads an operand of the next one and then
takes operators of its own as long as there are any; the next lexeme tells which level goes on. How
a term begins tells parentheses around a term from a pattern.
-/

namespace PropertyGraph

namespace Cypher

namespace Grammar

/-! ### Levels -/

/-- An operator and its right operand after a left one. -/
def link (operator : Parser (Option (Expr → Expr → Expr))) (operand : Parser Expr) (left : Expr) :
    Parser (Option Expr) := do
  match ← operator with
  | some f => return some (f left (← operand))
  | none => return none

/-- The parser of a level. -/
def rule (inner : Inner) : Nat → Parser Expr
  | 0 => expression inner
  | 1 => exclusions inner
  | 2 => conjunctions inner
  | 3 => negations inner
  | 4 => comparisons inner
  | 5 => sums inner
  | 6 => products inner
  | 7 => powers inner
  | 8 => signed inner
  | 9 => postfixed inner true
  | _ => operand inner

/-- What a level takes after its first operand, as often as it can. -/
def step (inner : Inner) : Nat → Expr → Parser (Option Expr)
  | 0 => link (word? "OR" .or) (exclusions inner)
  | 1 => link (word? "XOR" .xor) (conjunctions inner)
  | 2 => link (word? "AND" .and) (negations inner)
  | 4 => comparison? inner
  | 5 => link (oneOf [(.plus, .add), (.minus, .sub)]) (products inner)
  | 6 => link (oneOf [(.star, .mul), (.slash, .div), (.percent, .rem)]) (powers inner)
  | 7 => link (oneOf [(.caret, .pow)]) (signed inner)
  | 9 => suffix? inner true
  | _ => fun _ => pure none

lemma chainLeft_eq (operator : Parser (Option (Expr → Expr → Expr))) (operand : Parser Expr) :
    chainLeft operator operand = (operand >>= iterate (link operator operand)) := by
  have h : link operator operand = fun left => operator >>= fun
      | some f => operand >>= fun x => return some (f left x)
      | none => return none := by
    funext left
    refine bind_congr fun f => ?_
    cases f <;> rfl
  rw [h]
  refine bind_congr fun x => congrArg (iterate · x) (funext fun left => bind_congr fun f => ?_)
  cases f <;> rfl

lemma rule_eq (inner : Inner) : ∀ n ∈ [0, 1, 2, 4, 5, 6, 7, 9],
    rule inner n = (rule inner (n + 1) >>= iterate (step inner n)) := by
  have hc := chainLeft_eq
  simp only [List.forall_mem_cons, List.not_mem_nil, false_imp_iff, implies_true, and_true]
  exact ⟨hc _ _, hc _ _, hc _ _, rfl, hc _ _, hc _ _, hc _ _, rfl⟩

/-- Whether a lexeme goes on with what a level has read. -/
def goesOn : Nat → Lexeme → Bool
  | 0, l => l.isKeyword "OR"
  | 1, l => l.isKeyword "XOR"
  | 2, l => l.isKeyword "AND"
  | 4, l => comparisonSymbols.any (fun e => l = .symbol e.1) ||
      ["IS", "IN", "CONTAINS", "STARTS", "ENDS"].any l.isKeyword
  | 5, l => l = .symbol .plus || l = .symbol .minus
  | 6, l => l = .symbol .star || l = .symbol .slash || l = .symbol .percent
  | 7, l => l = .symbol .caret
  | 9, l => l = .symbol .leftBracket || l = .symbol .dot || l = .symbol .colon
  | 11, l => l = .symbol .leftParen || l = .symbol .leftBrace
  | _, _ => false

/-- Nothing goes on with what a level or a tighter one has read. -/
def Ends (n : Nat) (ls : List Lexeme) : Prop := ∀ k, n ≤ k → ∀ l ∈ ls.head?, goesOn k l = false

lemma Ends.mono {m n : Nat} {ls : List Lexeme} (h : Ends m ls) (hmn : m ≤ n) : Ends n ls :=
  fun k hk => h k (Nat.le_trans hmn hk)

lemma ends_nil (n : Nat) : Ends n [] := fun _ _ => nofun

lemma ends_cons {n : Nat} {l : Lexeme} (h : ∀ k < 12, n ≤ k → goesOn k l = false)
    (ls : List Lexeme) : Ends n (l :: ls) := by
  rintro k hk _ ⟨⟩
  by_cases hk' : k < 12
  · exact h k hk' hk
  · obtain ⟨k, rfl⟩ := Nat.exists_eq_add_of_le (Nat.le_of_not_lt hk')
    rw [Nat.add_comm]
    rfl

section Stop

variable {c : Cursor} {inner : Inner}

lemma reads_word?_not {w : String} (op : BinaryOp)
    (h : ∀ l ∈ c.lexemes.head?, l.isKeyword w = false) : Reads (word? w op) c none c :=
  .bind (.eatKeyword_not h) (.pure none c)

lemma reads_link_not {operator : Parser (Option (Expr → Expr → Expr))} {operand : Parser Expr}
    (h : Reads operator c none c) (x : Expr) : Reads (link operator operand x) c none c :=
  .bind h (.pure none c)

lemma reads_comparison?_not (h : ∀ l ∈ c.lexemes.head?, goesOn 4 l = false) (x : Expr) :
    Reads (comparison? inner x) c none c := by
  simp only [goesOn, Bool.or_eq_false_iff, List.any_eq_false, decide_eq_true_eq,
    List.forall_mem_cons, Bool.not_eq_true, List.not_mem_nil, false_imp_iff, implies_true,
    and_true] at h
  refine .bind (.eatKeyword_not fun l hl => (h l hl).2.1) ?_
  rw [if_neg Bool.false_ne_true]
  refine .bind (a := none) ?_ (.pure none c)
  refine .bind (reads_oneOf_not fun l hl => (h l hl).1) ?_
  refine .bind (.eatKeyword_not fun l hl => (h l hl).2.2.1) ?_
  rw [if_neg Bool.false_ne_true]
  refine .bind (.eatKeyword_not fun l hl => (h l hl).2.2.2.1) ?_
  rw [if_neg Bool.false_ne_true]
  refine .bind (.isKeyword _ _ _) ?_
  split
  · refine .bind (.eatKeyword_not fun l hl => (h l hl).2.2.2.2.1) ?_
    rw [if_neg Bool.false_ne_true]
    refine .bind (.eatKeyword_not fun l hl => (h l hl).2.2.2.2.2) ?_
    rw [if_neg Bool.false_ne_true]
    exact .pure none c
  · exact .pure none c

lemma reads_suffix?_not (h : ∀ l ∈ c.lexemes.head?, goesOn 9 l = false) (x : Expr) :
    Reads (suffix? inner true x) c none c := by
  simp only [goesOn, Bool.or_eq_false_iff, decide_eq_false_iff_not] at h
  refine .bind (.eatSymbol_not fun l hl => (h l hl).1.1) ?_
  rw [if_neg Bool.false_ne_true]
  refine .bind (.isName _ _) ?_
  split
  · refine .bind (.eatSymbol_not fun l hl => (h l hl).1.2) ?_
    rw [if_neg Bool.false_ne_true]
    refine .bind (.isSymbol_not fun l hl => (h l hl).2) ?_
    rw [if_neg Bool.false_ne_true]
    exact .pure none c
  · exact .pure none c

/-- A level stops where nothing goes on with it. -/
lemma reads_step_not {n : Nat} (h : Ends n c.lexemes) (x : Expr) :
    Reads (step inner n x) c none c := by
  have hn : ∀ l ∈ c.lexemes.head?, goesOn n l = false := h n (Nat.le_refl _)
  match n with
  | 0 | 1 | 2 => exact reads_link_not (reads_word?_not _ hn) x
  | 4 => exact reads_comparison?_not hn x
  | 5 | 6 | 7 =>
    refine reads_link_not (reads_oneOf_not fun l hl => ?_) x
    simpa [goesOn, and_assoc] using hn l hl
  | 9 => exact reads_suffix?_not hn x
  | 3 | 8 | n + 10 => exact .pure none c

end Stop

section Go

variable {c d e : Cursor} {inner : Inner} {ls : List Lexeme} {x y : Expr}

lemma reads_word? {w : String} {l : Lexeme} (op : BinaryOp) (h : c.lexemes = l :: ls)
    (hl : l.isKeyword w = true) : Reads (word? w op) c (some (binary op)) (c.drop 1) :=
  .bind (.eatKeyword h hl) (.pure _ _)

lemma reads_oneOf {table : List (Symbol × BinaryOp)} {s : Symbol} {op : BinaryOp}
    (h : c.lexemes = .symbol s :: ls)
    (ht : (table.find? fun e => some (Lexeme.symbol s) = some (.symbol e.1)) = some (s, op)) :
    Reads (oneOf table) c (some (binary op)) (c.drop 1) := by
  refine .bind (.get c) ?_
  simp only [Cursor.lexeme?_eq, h, List.getElem?_cons_zero, ht]
  exact .bind (.skip 1 c) (.pure _ _)

lemma reads_link {operator : Parser (Option (Expr → Expr → Expr))} {operand : Parser Expr}
    {f : Expr → Expr → Expr} (h : Reads operator c (some f) d) (hr : Reads operand d y e) :
    Reads (link operator operand x) c (some (f x y)) e :=
  .bind h (.bind hr (.pure _ _))

lemma reads_comparison?_symbol {s : Symbol} {op : BinaryOp} (h : c.lexemes = .symbol s :: ls)
    (ht : (comparisonSymbols.find? fun e => some (Lexeme.symbol s) = some (.symbol e.1)) =
      some (s, op))
    (hr : Reads (sums inner) (c.drop 1) y e) :
    Reads (comparison? inner x) c (some (binary op x y)) e := by
  refine .bind (.eatKeyword_not fun l hl => ?_) ?_
  · rw [h] at hl
    cases hl
    rfl
  rw [if_neg Bool.false_ne_true]
  refine .bind (a := some (binary op)) ?_ (.bind hr (.pure _ _))
  exact .bind (reads_oneOf h ht) (.pure _ _)

lemma reads_comparison?_word {w : String} {op : BinaryOp} {n : Nat}
    (h : c.lexemes = .word w :: ls) (hn : (Lexeme.word w).isKeyword "IS" = false)
    (ho : Reads comparisonOperator c (some (binary op)) (c.drop n))
    (hr : Reads (sums inner) (c.drop n) y e) :
    Reads (comparison? inner x) c (some (binary op x y)) e := by
  refine .bind (.eatKeyword_not fun l hl => ?_) ?_
  · rw [h] at hl
    cases hl
    exact hn
  rw [if_neg Bool.false_ne_true]
  exact .bind ho (.bind hr (.pure _ _))

lemma reads_comparison? {op : BinaryOp} (hop : op.level = 4)
    (h : c.lexemes = op.pieces.map Piece.lexeme ++ ls)
    (hr : Reads (sums inner) (c.drop op.pieces.length) y e) :
    Reads (comparison? inner x) c (some (binary op x y)) e := by
  have hs {w : String} {ms : List Lexeme} (h : c.lexemes = .word w :: ms) :
      Reads (oneOf comparisonSymbols) c none c := by
    refine reads_oneOf_not fun l hl => ?_
    rw [h] at hl
    cases hl
    nofun
  have hn {v w : String} {ms : List Lexeme} (h : c.lexemes = .word v :: ms)
      (hw : (Lexeme.word v).isKeyword w = false) : Reads (eatKeyword w) c false c := by
    refine .eatKeyword_not fun l hl => ?_
    rw [h] at hl
    cases hl
    exact hw
  have hwith {v : String} {ms : List Lexeme} (h : c.lexemes = .word v :: .word "WITH" :: ms) :
      Reads (isKeyword "WITH" 1) c true c := by
    have := Reads.isKeyword "WITH" 1 c
    rw [h] at this
    exact this
  cases op with
  | eq | ne | lt | le | gt | ge | regexMatch => exact reads_comparison?_symbol h rfl hr
  | isIn =>
    refine reads_comparison?_word h (by cbv) ?_ hr
    exact .bind (hs h) (.bind (.eatKeyword h (by cbv)) (.pure _ _))
  | contains =>
    refine reads_comparison?_word h (by cbv) ?_ hr
    exact .bind (hs h) <| .bind (hn h (by cbv)) <|
      .bind (.eatKeyword h (by cbv)) (.pure _ _)
  | startsWith =>
    refine reads_comparison?_word h (by cbv) ?_ hr
    exact .bind (hs h) <| .bind (hn h (by cbv)) <| .bind (hn h (by cbv)) <|
      .bind (hwith h) <| .bind (.eatKeyword h (by cbv)) <| .bind (.skip 1 _) (.pure _ _)
  | endsWith =>
    refine reads_comparison?_word h (by cbv) ?_ hr
    exact .bind (hs h) <| .bind (hn h (by cbv)) <| .bind (hn h (by cbv)) <|
      .bind (hwith h) <| .bind (hn h (by cbv)) <|
      .bind (.eatKeyword h (by cbv)) <| .bind (.skip 1 _) (.pure _ _)
  | or | xor | and | add | sub | mul | div | rem | pow => cases hop

/-- A level takes its operators. -/
lemma reads_step_binary {op : BinaryOp} (h : c.lexemes = op.pieces.map Piece.lexeme ++ ls)
    (hr : Reads (rule inner (op.level + 1)) (c.drop op.pieces.length) y e) :
    Reads (step inner op.level x) c (some (binary op x y)) e := by
  cases op with
  | or | xor | and => exact reads_link (reads_word? _ h (beq_self_eq_true _)) hr
  | add | sub | mul | div | rem | pow => exact reads_link (reads_oneOf h rfl) hr
  | _ => exact reads_comparison? rfl h hr

end Go

/-! ### How terms begin -/

/-- Whether a term begins with a lexeme where a level is expected. -/
def begins (n : Nat) : Lexeme → Bool
  | .word w => isBare w || w ∈ ["TRUE", "FALSE", "NULL"] || (decide (n ≤ 3) && w == "NOT")
  | .quoted _ | .string _ | .number _ => true
  | .symbol s => s = .leftParen || (decide (n ≤ 8) && (s = .plus || s = .minus))
  | .parameter _ => false

lemma begins_mono {m n : Nat} (hmn : m ≤ n) {l : Lexeme} (h : begins n l = true) :
    begins m l = true := by
  have h3 (hn : n ≤ 3) : m ≤ 3 := Nat.le_trans hmn hn
  have h8 (hn : n ≤ 8) : m ≤ 8 := Nat.le_trans hmn hn
  cases l with
  | word w =>
    simp only [begins, Bool.or_eq_true, Bool.and_eq_true, decide_eq_true_eq] at h ⊢
    exact h.imp_right (.imp_left h3)
  | symbol s =>
    simp only [begins, Bool.or_eq_true, Bool.and_eq_true, decide_eq_true_eq] at h ⊢
    exact h.imp_right (.imp_left h8)
  | _ => exact h

/-- The lexemes of pieces. -/
def lexemesOf (ps : List Piece) : List Lexeme := ps.map Piece.lexeme

@[simp] lemma lexeme_symbol (s : Symbol) : (Piece.symbol s).lexeme = .symbol s := rfl

@[simp] lemma lexeme_word (w : String) : (Piece.word w).lexeme = .word w := rfl

@[simp] lemma lexemesOf_cons (p : Piece) (ps : List Piece) :
    lexemesOf (p :: ps) = p.lexeme :: lexemesOf ps := rfl

@[simp] lemma lexemesOf_nil : lexemesOf [] = [] := rfl

@[simp] lemma lexemesOf_append (ps qs : List Piece) :
    lexemesOf (ps ++ qs) = lexemesOf ps ++ lexemesOf qs := List.map_append

@[simp] lemma length_lexemesOf (ps : List Piece) : (lexemesOf ps).length = ps.length :=
  List.length_map _

variable {μ : Type} {wrapped : μ → Bool}

lemma begins_name (n : Name) (k : Nat) : begins k n.piece.lexeme = true := by
  obtain ⟨w, bare, fits⟩ := n
  cases bare with
  | true => simpa [Name.piece, Piece.word, begins] using Or.inl (Or.inl fits)
  | false => rfl

/-- What begins with a lexeme that a level allows. -/
def Begins (n : Nat) (ls : List Lexeme) : Prop := ∃ l ∈ ls.head?, begins n l = true

lemma Begins.append {n : Nat} {ls : List Lexeme} (h : Begins n ls) (ms : List Lexeme) :
    Begins n (ls ++ ms) := by
  obtain ⟨l, hl, hb⟩ := h
  cases ls with
  | nil => cases hl
  | cons k ls => exact ⟨l, hl, hb⟩

lemma Begins.mono {m n : Nat} {ls : List Lexeme} (h : Begins n ls) (hmn : m ≤ n) : Begins m ls := by
  obtain ⟨l, hl, hb⟩ := h
  exact ⟨l, hl, begins_mono hmn hb⟩

lemma begins_enclose {m n : Nat} {ps : List Piece} (h : Begins m (lexemesOf ps)) :
    Begins n (lexemesOf (enclose (m < n) ps)) := by
  by_cases hmn : m < n
  · rw [decide_eq_true hmn]
    exact ⟨_, rfl, rfl⟩
  · rw [decide_eq_false hmn]
    exact h.mono (Nat.le_of_not_lt hmn)

lemma begins_print (wrapped : μ → Bool) (t : Term μ) :
    Begins t.level (lexemesOf (t.print wrapped)) := by
  induction t with
  | whole n small => exact ⟨_, rfl, rfl⟩
  | string s => exact ⟨_, rfl, rfl⟩
  | bool b => cases b <;> exact ⟨_, rfl, by simp [Piece.word, begins]⟩
  | null => exact ⟨_, rfl, by simp [Piece.word, begins]⟩
  | name m n =>
    simp only [Term.print, Term.level]
    cases wrapped m with
    | true => exact ⟨_, rfl, rfl⟩
    | false => exact ⟨_, rfl, begins_name n 10⟩
  | property t k ih =>
    rw [Term.print, lexemesOf_append]
    exact (begins_enclose ih).append _
  | index t i iht =>
    rw [Term.print, lexemesOf_append]
    exact (begins_enclose iht).append _
  | unary op t => cases op <;> exact ⟨_, rfl, rfl⟩
  | isNull t n ih =>
    rw [Term.print, lexemesOf_append]
    exact (begins_enclose ih).append _
  | binary op l r ihl =>
    rw [Term.print, lexemesOf_append, lexemesOf_append, List.append_assoc]
    exact (begins_enclose ihl).append _

/-! ### Parentheses that are no patterns -/

/-- A lexeme that is no part of a node pattern, unless it is its name. -/
def inert : Lexeme → Bool
  | .symbol s => s ≠ .rightParen && s ≠ .colon && s ≠ .leftBrace
  | .parameter _ => false
  | _ => true

/-- What follows an opening parenthesis is no node pattern. -/
def quiet : List Lexeme → Bool
  | [] => true
  | l :: ls => if l.name?.isSome then ls.head?.all inert else inert l

lemma inert_of_begins {n : Nat} {l : Lexeme} (h : begins n l = true) : inert l = true := by
  cases l with
  | symbol s => cases s <;> first | rfl | simp [begins] at h
  | parameter n => exact h
  | _ => rfl

lemma startsRel_of_inert {t : Token} {ts : List Token} (h : inert t.lexeme = true) :
    (dropProperties (dropLabels (t :: ts))).any startsRel = false := by
  have hl : dropLabels (t :: ts) = t :: ts := by
    cases ts with
    | nil => rfl
    | cons u us =>
      have : t.lexeme ≠ .symbol .colon := fun e => by simp [e, inert] at h
      simp [dropLabels, this]
  have hp : dropProperties (t :: ts) = some (t :: ts) := by
    unfold dropProperties
    split
    · rename_i heq
      obtain ⟨rfl, -⟩ := List.cons.inj heq
      cases h
    · rename_i heq
      obtain ⟨rfl, -⟩ := List.cons.inj heq
      cases h
    · rfl
  have hr : startsRel (t :: ts) = false := by
    have : t.lexeme ≠ .symbol .rightParen := fun e => by simp [e, inert] at h
    unfold startsRel
    split <;> simp_all
  rw [hl, hp, Option.any_some, hr]

lemma startsPattern_of_quiet {ts : List Token} {ls : List Lexeme}
    (h : ts.map Token.lexeme = .symbol .leftParen :: ls) (hq : quiet ls = true) :
    startsPattern ts = false := by
  obtain _ | ⟨⟨l, a, b⟩, ts⟩ := ts
  · rfl
  obtain ⟨rfl, rfl⟩ := List.cons.inj h
  change (dropProperties (dropLabels (dropName ts))).any startsRel = false
  cases ts with
  | nil => rfl
  | cons t ts =>
    simp only [List.map_cons, quiet] at hq
    split at hq
    · rename_i hn
      rw [dropName, if_pos hn]
      cases ts with
      | nil => rfl
      | cons u ts => exact startsRel_of_inert hq
    · rename_i hn
      rw [dropName, if_neg hn]
      exact startsRel_of_inert hq

lemma quiet_enclose {b : Bool} {ps : List Piece} {ls : List Lexeme}
    (h : quiet (lexemesOf ps ++ ls) = true) : quiet (lexemesOf (enclose b ps) ++ ls) = true := by
  cases b with
  | true => rfl
  | false => exact h

lemma quiet_begins {n : Nat} {l : Lexeme} {ls ms : List Lexeme} (hl : inert l = true)
    (h : Begins n ls) : quiet (l :: (ls ++ ms)) = true := by
  obtain ⟨k, hk, hb⟩ := h
  cases ls with
  | nil => cases hk
  | cons k' ls =>
    cases hk
    simp [quiet, hl, inert_of_begins hb]

lemma quiet_name (n : Name) {l : Lexeme} (hl : inert l = true) (ls : List Lexeme) :
    quiet (n.piece.lexeme :: l :: ls) = true := by
  obtain ⟨w, bare, fits⟩ := n
  cases bare <;> simpa [Name.piece, Piece.word, quiet, Lexeme.name?] using hl

lemma inert_op (op : BinaryOp) : ∃ l ls, lexemesOf op.pieces = l :: ls ∧ inert l = true := by
  cases op <;> exact ⟨_, _, rfl, rfl⟩

/-- An operand alone in parentheses may be a node, but nothing else is. -/
lemma quiet_print (t : Term μ) {ls : List Lexeme}
    (h : t.level = 10 → ∃ l ms, ls = l :: ms ∧ inert l = true) :
    quiet (lexemesOf (t.print wrapped) ++ ls) = true := by
  induction t generalizing ls with
  | whole n small => rfl
  | string s => rfl
  | bool b =>
    obtain ⟨l, ms, rfl, hl⟩ := h rfl
    simpa [Term.print, Piece.word, quiet, Lexeme.name?] using hl
  | null =>
    obtain ⟨l, ms, rfl, hl⟩ := h rfl
    simpa [Term.print, Piece.word, quiet, Lexeme.name?] using hl
  | name m n =>
    obtain ⟨l, ms, rfl, hl⟩ := h rfl
    exact quiet_enclose (quiet_name n hl ms)
  | property t k ih =>
    rw [Term.print, lexemesOf_append, List.append_assoc]
    exact quiet_enclose (ih fun _ => ⟨_, _, rfl, rfl⟩)
  | index t i ih =>
    rw [Term.print, lexemesOf_append, List.append_assoc]
    exact quiet_enclose (ih fun _ => ⟨_, _, rfl, rfl⟩)
  | unary op t =>
    rw [Term.print, lexemesOf_cons, List.cons_append]
    exact quiet_begins (by cases op <;> rfl) (begins_enclose (begins_print wrapped t))
  | isNull t n ih =>
    rw [Term.print, lexemesOf_append, List.append_assoc]
    exact quiet_enclose (ih fun _ => ⟨_, _, rfl, rfl⟩)
  | binary op l r ih =>
    obtain ⟨k, ks, hop, hk⟩ := inert_op op
    rw [Term.print, lexemesOf_append, lexemesOf_append, List.append_assoc, List.append_assoc, hop]
    exact quiet_enclose (ih fun _ => ⟨_, _, rfl, hk⟩)

end Grammar

end Cypher

end PropertyGraph
