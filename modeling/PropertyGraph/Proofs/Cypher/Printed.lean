import PropertyGraph.Cypher.Grammar.Statement
import PropertyGraph.Proofs.Cypher.Scan
import PropertyGraph.Proofs.Value.Whole

/-!
Expressions as trees of operators, and their texts, in which parentheses stand only where the levels
of the operators ask for them. A text is a row of pieces with blanks between them, so the scanner
finds the pieces again.
-/

namespace PropertyGraph

namespace Cypher

/-! ### Pieces of text -/

/-- A lexeme as it is written. -/
structure Piece where
  lexeme : Lexeme
  text : List Char

namespace Piece

def word (w : String) : Piece := ⟨.word w, w.toList⟩

def symbol (s : Symbol) : Piece := ⟨.symbol s, s.chars⟩

def whole (n : Nat) : Piece := ⟨.number (.ofNat n), Nat.toDigits 10 n⟩

/-- A character of a string: the quote and the backslash need a backslash. -/
def escape (c : Char) : List Char := if c = '\\' ∨ c = '\'' then ['\\', c] else [c]

def string (s : String) : Piece := ⟨.string s, '\'' :: (s.toList.flatMap escape ++ ['\''])⟩

/-- Pieces with a blank before each. -/
def spaced (ps : List Piece) : List Char := ps.flatMap fun p => ' ' :: p.text

/-- Pieces with blanks between them. -/
def joined (ps : List Piece) : String := String.ofList ((spaced ps).drop 1)

/-- The tokens of pieces with a blank before each. -/
def place : Nat → List Piece → List Token
  | _, [] => []
  | offset, p :: ps =>
    let stop := offset + 1 + byteLength p.text
    ⟨p.lexeme, offset + 1, stop⟩ :: place stop ps

/-- What the scanner takes for this lexeme, at the end of a text or before a blank. -/
structure Scans (p : Piece) : Prop where
  scan : ∀ rest : List Char, (∀ c ∈ rest.head?, c = ' ') →
    scan? (p.text ++ rest) = some ⟨p.lexeme, p.text, rest⟩
  solid : ∃ c cs, p.text = c :: cs ∧ isSpace c = false ∧ (c = '/' → cs = [])

end Piece

/-! ### Names -/

/-- Whether a word is read as a name where an operand is expected. -/
def isBare (w : String) : Bool :=
  (name? w.toList == some (w.toList, [])) && !(Lexeme.word w).isReserved &&
    !(["TRUE", "FALSE", "NULL", "CASE", "NOT", "DISTINCT"].any (Lexeme.word w).isKeyword)

/-- A name as it is written: as a bare word or in backticks. -/
structure Name where
  text : String
  bare : Bool
  fits : if bare then isBare text = true else '`' ∉ text.toList

def Name.piece (n : Name) : Piece :=
  if n.bare then .word n.text else ⟨.quoted n.text, '`' :: (n.text.toList ++ ['`'])⟩

/-! ### Levels -/

/-- The level of an operator, counted from the loosest one. -/
def BinaryOp.level : BinaryOp → Nat
  | or => 0
  | xor => 1
  | and => 2
  | eq | ne | lt | le | gt | ge | isIn | startsWith | endsWith | contains | regexMatch => 4
  | add | sub => 5
  | mul | div | rem => 6
  | pow => 7

def BinaryOp.pieces : BinaryOp → List Piece
  | or => [.word "OR"]
  | xor => [.word "XOR"]
  | and => [.word "AND"]
  | eq => [.symbol .equals]
  | ne => [.symbol .notEquals]
  | lt => [.symbol .less]
  | le => [.symbol .lessEquals]
  | gt => [.symbol .greater]
  | ge => [.symbol .greaterEquals]
  | add => [.symbol .plus]
  | sub => [.symbol .minus]
  | mul => [.symbol .star]
  | div => [.symbol .slash]
  | rem => [.symbol .percent]
  | pow => [.symbol .caret]
  | isIn => [.word "IN"]
  | startsWith => [.word "STARTS", .word "WITH"]
  | endsWith => [.word "ENDS", .word "WITH"]
  | contains => [.word "CONTAINS"]
  | regexMatch => [.symbol .regexMatch]

def UnaryOp.level : UnaryOp → Nat
  | not => 3
  | negate | plus => 8

def UnaryOp.piece : UnaryOp → Piece
  | not => .word "NOT"
  | negate => .symbol .minus
  | plus => .symbol .plus

/-! ### Terms -/

/-- An expression of literals, variables and operators. Each occurrence of a variable bears a
mark. -/
inductive Term (μ : Type)
  | whole (n : Nat) (small : n < 2 ^ 53)
  | string (s : String)
  | bool (b : Bool)
  | null
  | name (mark : μ) (n : Name)
  | property (t : Term μ) (key : Name)
  | index (t i : Term μ)
  | unary (op : UnaryOp) (t : Term μ)
  | isNull (t : Term μ) (negated : Bool)
  | binary (op : BinaryOp) (l r : Term μ)

/-- Puts parentheses around pieces, if they are needed. -/
def enclose (needed : Bool) (ps : List Piece) : List Piece :=
  if needed then .symbol .leftParen :: (ps ++ [.symbol .rightParen]) else ps

namespace Term

variable {μ : Type}

def level : Term μ → Nat
  | property _ _ | index _ _ => 9
  | unary op _ => op.level
  | isNull _ _ => 4
  | binary op _ _ => op.level
  | _ => 10

/-- The tree as the language has it. -/
def tree : Term μ → Expr
  | whole n _ => .of (.literal (.num (.ofNat n)))
  | string s => .of (.literal (.str s))
  | bool b => .of (.literal (.bool b))
  | null => .of (.literal .null)
  | name _ n => .of (.name n.text)
  | property t k => .of (.property t.tree k.text)
  | index t i => .of (.index t.tree i.tree)
  | unary op t => .of (.unary op t.tree)
  | isNull t n => .of (.isNull t.tree n)
  | binary op l r => .of (.binary op l.tree r.tree)

/-- Whether a term is a number. -/
def isWhole : Term μ → Bool
  | whole _ _ => true
  | _ => false

/-- No minus stands directly before a number: it would belong to the number. -/
def Proper : Term μ → Prop
  | property t _ | isNull t _ => t.Proper
  | unary op t => t.Proper ∧ (op = .negate → t.isWhole = false)
  | index l r | binary _ l r => l.Proper ∧ r.Proper
  | _ => True

variable (wrapped : μ → Bool)

/-- The pieces of a term, with parentheses around what is looser than its place allows, and
around the variables whose marks ask for them. -/
def print : Term μ → List Piece
  | whole n _ => [.whole n]
  | string s => [.string s]
  | bool b => [.word (if b then "TRUE" else "FALSE")]
  | null => [.word "NULL"]
  | name m n => enclose (wrapped m) [n.piece]
  | property t k => enclose (t.level < 9) t.print ++ [.symbol .dot, k.piece]
  | index t i =>
    enclose (t.level < 9) t.print ++ .symbol .leftBracket :: (i.print ++ [.symbol .rightBracket])
  | unary op t => op.piece :: enclose (t.level < op.level) t.print
  | isNull t n =>
    enclose (t.level < 4) t.print ++
      .word "IS" :: if n then [.word "NOT", .word "NULL"] else [.word "NULL"]
  | binary op l r =>
    enclose (l.level < op.level) l.print ++ op.pieces ++ enclose (r.level < op.level + 1) r.print

/-- The pieces of a term where an operand of some level is expected. -/
def printAt (l : Nat) (t : Term μ) : List Piece := enclose (t.level < l) (t.print wrapped)

/-- The text of a term. -/
def text (t : Term μ) : String := Piece.joined (t.print wrapped)

end Term

/-! ### Scanning -/

section Blank

variable {rest : List Char} (hr : ∀ c ∈ rest.head?, c = ' ')

include hr

lemma blank_false {p : Char → Bool} (hp : p ' ' = false) : ∀ c ∈ rest.head?, p c = false := by
  intro c hc
  rw [hr c hc, hp]

lemma number?_toDigits {n : Nat} (hn : n < 2 ^ 53) :
    number? (Nat.toDigits 10 n ++ rest) =
      some ⟨.number (.ofNat n), Nat.toDigits 10 n, rest⟩ := by
  have hd : ∀ c ∈ Nat.toDigits 10 n, Number.isDigit c = true := by
    intro c hc
    have := Nat.isDigit_of_mem_toDigits (by omega) (by omega) hc
    simp only [Char.isDigit, ge_iff_le, Bool.and_eq_true, decide_eq_true_eq] at this
    simp only [Number.isDigit, Bool.and_eq_true, decide_eq_true_eq]
    exact this
  have hs : Number.spanDigits (Nat.toDigits 10 n ++ rest) = (Nat.toDigits 10 n, rest) :=
    span_of_all hd (blank_false hr (by decide))
  have hv : Number.ofDigits (Nat.toDigits 10 n) = n := by
    have := Nat.ofDigitChars_toDigits (b := 10) (n := n) (by omega) (by omega)
    rwa [Nat.ofDigitChars_eq_foldl] at this
  obtain ⟨c, cs, hc⟩ := List.exists_cons_of_ne_nil (Nat.toDigits_ne_nil (n := n) (b := 10))
  rw [hc] at hs hv ⊢
  -- Neither a point nor an exponent follows.
  have : number? (c :: cs ++ rest) =
      some ⟨.number (.ofParts false (c :: cs) [] 0), c :: cs ++ [] ++ [] ++ [], rest⟩ := by
    cases rest with
    | nil => simp only [number?, hs]; rfl
    | cons d ds =>
      obtain rfl := hr d rfl
      simp only [number?, hs]
      rfl
  rw [this, Number.ofParts, List.append_nil, hv]
  simp only [List.length_nil, Int.natCast_zero, Int.sub_zero, Number.toNumber_whole hn,
    List.append_nil]

end Blank

lemma stringBody?_escape (cs rest : List Char) :
    stringBody? '\'' (cs.flatMap Piece.escape ++ '\'' :: rest) =
      some (cs, cs.flatMap Piece.escape ++ ['\''], rest) := by
  induction cs with
  | nil =>
    rw [List.flatMap_nil, List.nil_append, stringBody?.eq_def]
    simp
  | cons c cs ih =>
    rw [List.flatMap_cons]
    by_cases h₁ : c = '\\'
    · subst h₁
      simp [Piece.escape, stringBody?, ih, unescape]
    by_cases h₂ : c = '\''
    · subst h₂
      simp [Piece.escape, stringBody?, ih, unescape]
    · simp only [Piece.escape, h₁, h₂, or_self, if_false, List.cons_append, List.nil_append]
      rw [stringBody?.eq_def]
      simp [h₁, h₂, ih]

namespace Piece

lemma scans_whole {n : Nat} (hn : n < 2 ^ 53) : (whole n).Scans where
  scan rest hr := by
    simp only [scan?, whole, number?_toDigits hr hn]
    rfl
  solid := by
    obtain ⟨c, cs, hc⟩ := List.exists_cons_of_ne_nil (Nat.toDigits_ne_nil (n := n) (b := 10))
    have hd : c.isDigit = true :=
      Nat.isDigit_of_mem_toDigits (b := 10) (n := n) (by omega) (by omega) (by simp [hc])
    refine ⟨c, cs, hc, ?_, ?_⟩
    · rw [isSpace]
      by_contra h
      simp only [Bool.or_eq_true, beq_iff_eq, Bool.not_eq_false] at h
      rcases h with ((rfl | rfl) | rfl) | rfl <;> exact absurd hd (by decide)
    · rintro rfl
      exact absurd hd (by decide)

lemma scans_string (s : String) : (string s).Scans where
  scan rest hr := by
    have hb := stringBody?_escape s.toList rest
    have hn : number? ('\'' :: (s.toList.flatMap escape ++ '\'' :: rest)) = none := rfl
    simp only [scan?, string, List.cons_append, List.append_assoc, List.nil_append, hn, string?, hb]
    simp
  solid := ⟨_, _, rfl, by decide, fun h => absurd h (by decide)⟩

lemma scans_symbol (s : Symbol) : (symbol s).Scans where
  scan rest hr := by
    cases rest with
    | nil => cases s <;> rfl
    | cons c cs =>
      obtain rfl := hr c rfl
      cases s <;> rfl
  solid := by cases s <;> exact ⟨_, _, rfl, by decide, by simp⟩

lemma scans_quoted {n : String} (h : '`' ∉ n.toList) :
    (⟨.quoted n, '`' :: (n.toList ++ ['`'])⟩ : Piece).Scans where
  scan rest hr := by
    have hs : (n.toList ++ '`' :: rest).span (· != '`') = (n.toList, '`' :: rest) :=
      span_of_all (fun c hc => bne_iff_ne.2 fun e => h (e ▸ hc)) (by simp)
    have hq : quoted? ('`' :: (n.toList ++ '`' :: rest)) =
        some ⟨.quoted n, '`' :: (n.toList ++ ['`']), rest⟩ := by
      simp only [quoted?, hs, String.ofList_toList, List.cons_append]
    simp only [scan?, List.cons_append, List.append_assoc, List.nil_append, hq]
    rfl
  solid := ⟨_, _, rfl, by decide, fun h => absurd h (by decide)⟩

lemma scans_word {w : String} (h : name? w.toList = some (w.toList, [])) : (word w).Scans := by
  obtain ⟨c, cs, hw, hall, hd⟩ : ∃ c cs, w.toList = c :: cs ∧
      (∀ d ∈ c :: cs, isNameChar d = true) ∧ Number.isDigit c = false := by
    rw [name?] at h
    split at h
    · cases h
    · rename_i c cs rest hs
      split_ifs at h with hd
      obtain ⟨hw, -⟩ := Prod.mk.inj (Option.some.inj h)
      refine ⟨c, cs, hw.symm, fun d hd => ?_, Bool.eq_false_iff.2 hd⟩
      rw [List.span_eq_takeWhile_dropWhile] at hs
      rw [← (Prod.mk.inj hs).1] at hd
      exact List.all_eq_true.1 List.all_takeWhile d hd
  have hc : ∀ d, isNameChar d = false → c ≠ d := by
    rintro d hd rfl
    exact absurd (hall c List.mem_cons_self) (Bool.eq_false_iff.1 hd)
  refine ⟨fun rest hr => ?_, c, cs, hw, ?_, fun e => absurd e (hc '/' (by decide))⟩
  · have hs : (c :: (cs ++ rest)).span isNameChar = (c :: cs, rest) :=
      span_of_all hall (blank_false hr (by decide))
    have hn : Number.spanDigits (c :: (cs ++ rest)) = ([], c :: (cs ++ rest)) := by
      rw [Number.spanDigits, List.span_eq_takeWhile_dropWhile,
        List.takeWhile_cons_of_neg (by simp [hd]), List.dropWhile_cons_of_neg (by simp [hd])]
    have h₁ := hc '\'' (by decide)
    have h₂ := hc '"' (by decide)
    have h₃ := hc '$' (by decide)
    have h₄ := hc '`' (by decide)
    have hp : parameter? (c :: (cs ++ rest)) = none := by simp [parameter?, h₃]
    have hq : quoted? (c :: (cs ++ rest)) = none := by simp [quoted?, h₄]
    simp only [scan?, word, hw, List.cons_append, number?, hn, string?, word?, name?, hs, hd, hp,
      hq]
    simp [h₁, h₂, ← hw]
  · simp [isSpace, hc ' ' (by decide), hc '\t' (by decide), hc '\r' (by decide),
      hc '\n' (by decide)]

lemma scans_name (n : Name) : n.piece.Scans := by
  obtain ⟨w, bare, fits⟩ := n
  cases bare with
  | true =>
    simp only [if_true, isBare, Bool.and_eq_true, beq_iff_eq] at fits
    exact scans_word fits.1.1
  | false => exact scans_quoted (by simpa using fits)

/-! ### The tokens of a text -/

lemma Scans.trivia? {p : Piece} (h : p.Scans) {rest : List Char}
    (hr : ∀ c ∈ rest.head?, c = ' ') : trivia? (p.text ++ rest) = none := by
  obtain ⟨c, cs, ht, hs, hc⟩ := h.solid
  have hspan : (c :: (cs ++ rest)).span isSpace = ([], c :: (cs ++ rest)) := by
    rw [List.span_eq_takeWhile_dropWhile, List.takeWhile_cons_of_neg (by simp [hs]),
      List.dropWhile_cons_of_neg (by simp [hs])]
  rw [ht, List.cons_append, Cypher.trivia?, hspan]
  by_cases h' : c = '/'
  · subst h'
    rw [hc rfl, List.nil_append]
    cases rest with
    | nil => rfl
    | cons d ds =>
      obtain rfl := hr d rfl
      simp [lineComment?, blockComment?]
  · simp [lineComment?, blockComment?, h']

lemma Scans.skipTrivia {p : Piece} (h : p.Scans) {rest : List Char}
    (hr : ∀ c ∈ rest.head?, c = ' ') (fuel offset : Nat) :
    skipTrivia fuel offset (p.text ++ rest) = (offset, p.text ++ rest) := by
  cases fuel with
  | zero => rfl
  | succ fuel => rw [Cypher.skipTrivia, h.trivia? hr]

lemma skipTrivia_space {p : Piece} (h : p.Scans) {rest : List Char}
    (hr : ∀ c ∈ rest.head?, c = ' ') (fuel offset : Nat) :
    Cypher.skipTrivia (fuel + 1) offset (' ' :: (p.text ++ rest)) =
      (offset + 1, p.text ++ rest) := by
  obtain ⟨c, cs, ht, hs, -⟩ := h.solid
  have hspan : (' ' :: (p.text ++ rest)).span isSpace = ([' '], p.text ++ rest) := by
    refine (span_of_all (by simp [isSpace]) ?_ : ([' '] ++ (p.text ++ rest)).span isSpace = _)
    simp [ht, hs]
  have htr : Cypher.trivia? (' ' :: (p.text ++ rest)) = some ([' '], p.text ++ rest) := by
    rw [Cypher.trivia?, hspan]
  rw [Cypher.skipTrivia, htr]
  exact h.skipTrivia hr fuel _

lemma head_spaced (ps : List Piece) : ∀ c ∈ (spaced ps).head?, c = ' ' := by
  cases ps with
  | nil => nofun
  | cons p ps => simp [spaced]

/-- One token is cut off. -/
lemma tokensFrom_piece {p : Piece} (h : p.Scans) {cs rest : List Char} {offset start : Nat}
    (hr : ∀ c ∈ rest.head?, c = ' ')
    (hs : Cypher.skipTrivia cs.length offset cs = (start, p.text ++ rest)) (fuel : Nat) :
    tokensFrom (fuel + 1) offset cs =
      (tokensFrom fuel (start + byteLength p.text) rest).map
        (⟨p.lexeme, start, start + byteLength p.text⟩ :: ·) := by
  obtain ⟨c, ds, ht, -, hc⟩ := h.solid
  have hscan := h.scan rest hr
  rw [tokensFrom, hs]
  rw [ht, List.cons_append] at hscan ⊢
  split
  · rename_i heq
    cases heq
  · rename_i heq
    obtain ⟨-, rfl, hd⟩ : _ ∧ c = '/' ∧ ds ++ rest = '*' :: _ := by simpa using heq
    rw [hc rfl, List.nil_append] at hd
    exact absurd (hr '*' (by simp [hd])) (by decide)
  · rename_i heq
    cases heq
    rw [hscan]
    rfl

lemma tokensFrom_spaced {ps : List Piece} (h : ∀ p ∈ ps, p.Scans) {fuel : Nat} (offset : Nat)
    (hf : ps.length < fuel) : tokensFrom fuel offset (spaced ps) = .ok (place offset ps) := by
  induction ps generalizing fuel offset with
  | nil =>
    obtain ⟨fuel, rfl⟩ := Nat.exists_eq_succ_of_ne_zero (Nat.ne_of_gt hf)
    rfl
  | cons p ps ih =>
    obtain ⟨fuel, rfl⟩ := Nat.exists_eq_succ_of_ne_zero (Nat.ne_of_gt (Nat.zero_lt_of_lt hf))
    have hp := h p List.mem_cons_self
    have hs : Cypher.skipTrivia (' ' :: (p.text ++ spaced ps)).length offset
        (' ' :: (p.text ++ spaced ps)) = _ := skipTrivia_space hp (head_spaced ps) _ offset
    change tokensFrom (fuel + 1) offset (' ' :: (p.text ++ spaced ps)) = _
    rw [tokensFrom_piece hp (head_spaced ps) hs,
      ih (fun q hq => h q (List.mem_cons_of_mem p hq)) _ (by simpa using hf)]
    rfl

/-- A text that starts with a piece. -/
theorem tokenize_spaced {p : Piece} {ps : List Piece} (hp : p.Scans) (h : ∀ q ∈ ps, q.Scans) :
    tokenize (String.ofList (p.text ++ spaced ps)) =
      .ok (⟨p.lexeme, 0, byteLength p.text⟩ :: place (byteLength p.text) ps) := by
  have hlen : ps.length < (p.text ++ spaced ps).length := by
    obtain ⟨c, cs, ht, -⟩ := hp.solid
    have : ps.length ≤ (spaced ps).length := by
      induction ps with
      | nil => simp
      | cons q ps ih =>
        have := ih fun r hr => h r (List.mem_cons_of_mem q hr)
        simp only [spaced, List.flatMap_cons, List.length_append, List.length_cons] at this ⊢
        omega
    simp only [ht, List.length_append, List.length_cons]
    omega
  rw [tokenize]
  simp only [String.toList_ofList]
  rw [tokensFrom_piece hp (head_spaced ps) (hp.skipTrivia (head_spaced ps) _ 0),
    tokensFrom_spaced h _ hlen, Nat.zero_add]
  rfl

/-- The words that terms are written with. -/
def keywords : List String :=
  ["OR", "XOR", "AND", "NOT", "IN", "STARTS", "ENDS", "WITH", "CONTAINS", "IS", "NULL", "TRUE",
    "FALSE"]

lemma scans_keyword : ∀ w ∈ keywords, (word w).Scans := by
  have h : ∀ w ∈ keywords, name? w.toList = some (w.toList, []) := by decide +kernel
  exact fun w hw => scans_word (h w hw)

lemma scans_op (op : BinaryOp) : ∀ p ∈ op.pieces, p.Scans := by
  have hk := scans_keyword
  simp only [keywords, List.forall_mem_cons] at hk
  cases op <;> simp [BinaryOp.pieces, scans_symbol, hk]

end Piece

lemma scans_enclose {b : Bool} {ps : List Piece} (h : ∀ p ∈ ps, p.Scans) :
    ∀ p ∈ enclose b ps, p.Scans := by
  cases b with
  | false => exact h
  | true =>
    simp only [enclose, if_true, List.mem_cons, List.mem_append, List.not_mem_nil, or_false]
    rintro p (rfl | hp | rfl)
    · exact Piece.scans_symbol _
    · exact h p hp
    · exact Piece.scans_symbol _

lemma Term.scans_print {μ : Type} (wrapped : μ → Bool) (t : Term μ) :
    ∀ p ∈ t.print wrapped, p.Scans := by
  have hk {w : String} (h : w ∈ Piece.keywords) : (Piece.word w).Scans := Piece.scans_keyword w h
  induction t with
  | whole n small => simpa [print] using Piece.scans_whole small
  | string s => simpa [print] using Piece.scans_string s
  | bool b => cases b <;> simpa [print] using hk (by simp [Piece.keywords])
  | null => simpa [print] using hk (by simp [Piece.keywords])
  | name m n =>
    refine scans_enclose ?_
    simpa using Piece.scans_name n
  | property t k ih =>
    simp only [print, List.forall_mem_append, List.forall_mem_cons]
    exact ⟨scans_enclose ih, Piece.scans_symbol _, Piece.scans_name k, by simp⟩
  | index t i iht ihi =>
    simp only [print, List.forall_mem_append, List.forall_mem_cons]
    exact ⟨scans_enclose iht, Piece.scans_symbol _, ihi, Piece.scans_symbol _, by simp⟩
  | unary op t ih =>
    simp only [print, List.forall_mem_cons]
    refine ⟨?_, scans_enclose ih⟩
    cases op
    · exact hk (by simp [Piece.keywords])
    · exact Piece.scans_symbol _
    · exact Piece.scans_symbol _
  | isNull t n ih =>
    simp only [print, List.forall_mem_append, List.forall_mem_cons]
    refine ⟨scans_enclose ih, hk (by simp [Piece.keywords]), ?_⟩
    cases n
    · simpa using hk (by simp [Piece.keywords])
    · simpa using ⟨hk (w := "NOT") (by simp [Piece.keywords]),
        hk (w := "NULL") (by simp [Piece.keywords])⟩
  | binary op l r ihl ihr =>
    simp only [print, List.forall_mem_append]
    exact ⟨⟨scans_enclose ihl, Piece.scans_op op⟩, scans_enclose ihr⟩

end Cypher

end PropertyGraph
