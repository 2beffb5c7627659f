import PropertyGraph.Cypher.Grammar.Statement
import PropertyGraph.Proofs.Cypher.Failure

/-!
What parsers read: a parser that reads an expression or a list goes from one place of the text to
another and gives a value. Most parsers look at the lexemes ahead only.
-/

namespace PropertyGraph

namespace Cypher

/-! ### Slices -/

lemma dropBytes_append (cs ds : List Char) : dropBytes (byteLength cs) (cs ++ ds) = ds := by
  induction cs with
  | nil => cases ds <;> rfl
  | cons c cs ih =>
    have hpos := c.utf8Size_pos
    change dropBytes (c.utf8Size + byteLength cs) (c :: (cs ++ ds)) = ds
    rw [dropBytes, if_neg (by omega), Nat.add_sub_cancel_left, ih]

lemma takeBytes_append (cs ds : List Char) : takeBytes (byteLength cs) (cs ++ ds) = cs := by
  induction cs with
  | nil => cases ds <;> rfl
  | cons c cs ih =>
    have hpos := c.utf8Size_pos
    change takeBytes (c.utf8Size + byteLength cs) (c :: (cs ++ ds)) = c :: cs
    rw [takeBytes, if_neg (by omega), Nat.add_sub_cancel_left, ih]

/-- The text between two others. -/
lemma sliceBytes_append (cs ds es : List Char) :
    sliceBytes (String.ofList (cs ++ (ds ++ es))) (byteLength cs) (byteLength cs + byteLength ds) =
      String.ofList ds := by
  rw [sliceBytes, String.toList_ofList, dropBytes_append, Nat.add_sub_cancel_left, takeBytes_append]

namespace Cursor

/-- What stands ahead. -/
def lexemes (c : Cursor) : List Lexeme := c.rest.map Token.lexeme

/-- The place some tokens ahead. -/
def drop (c : Cursor) (n : Nat) : Cursor := n.repeat advance c

@[simp] lemma drop_zero (c : Cursor) : c.drop 0 = c := rfl

lemma repeat_add (m n : Nat) (c : Cursor) :
    (m + n).repeat advance c = n.repeat advance (m.repeat advance c) := by
  induction n with
  | zero => rfl
  | succ n ih => exact congrArg advance ih

@[simp] lemma drop_drop (c : Cursor) (m n : Nat) : (c.drop m).drop n = c.drop (m + n) :=
  (repeat_add m n c).symm

lemma rest_advance (c : Cursor) : c.advance.rest = c.rest.drop 1 := by
  obtain ⟨s, b, rest⟩ := c
  cases rest <;> rfl

@[simp] lemma rest_drop (c : Cursor) (n : Nat) : (c.drop n).rest = c.rest.drop n := by
  induction n with
  | zero => rfl
  | succ n ih =>
    change (c.drop n).advance.rest = _
    rw [rest_advance, ih, List.drop_drop]

@[simp] lemma lexemes_drop (c : Cursor) (n : Nat) : (c.drop n).lexemes = c.lexemes.drop n := by
  simp [lexemes]

lemma lexeme?_eq (c : Cursor) (n : Nat) : c.lexeme? n = c.lexemes[n]? := by
  simp [lexeme?, lexemes]

lemma length_lexemes (c : Cursor) : c.lexemes.length = c.rest.length := List.length_map _

end Cursor

namespace Grammar

variable {α β : Type} {c d e : Cursor}

/-- A parser gives a value and gets from one place to another. -/
def Reads (p : Parser α) (c : Cursor) (a : α) (d : Cursor) : Prop := p c = .ok (a, d)

namespace Reads

lemma pure (a : α) (c : Cursor) : Reads (Pure.pure a : Parser α) c a c := rfl

lemma bind {p : Parser α} {f : α → Parser β} {a : α} {b : β} (hp : Reads p c a d)
    (hf : Reads (f a) d b e) : Reads (p >>= f) c b e :=
  bind_eq_ok.2 ⟨(a, d), hp, hf⟩

lemma of_bind {p : Parser α} {f : α → Parser β} {b : β} (h : Reads (p >>= f) c b e) :
    ∃ a d, Reads p c a d ∧ Reads (f a) d b e := by
  obtain ⟨⟨a, d⟩, hp, hf⟩ := bind_eq_ok.1 h
  exact ⟨a, d, hp, hf⟩

lemma bind_eq {p : Parser α} {a : α} (h : Reads p c a d) (f : α → Parser β) :
    (p >>= f) c = f a d := by
  change p c >>= _ = _
  rw [h]
  rfl

lemma map {p : Parser α} {a : α} (f : α → β) (h : Reads p c a d) : Reads (f <$> p) c (f a) d :=
  bind_eq_ok.2 ⟨(a, d), h, rfl⟩

lemma get (c : Cursor) : Reads (MonadState.get : Parser Cursor) c c c := rfl

lemma skip (n : Nat) (c : Cursor) : Reads (Grammar.skip n) c () (c.drop n) := rfl

lemma isEnd (c : Cursor) : Reads isEnd c c.lexemes.isEmpty c := by
  rw [Cursor.lexemes, List.isEmpty_map]
  rfl

lemma isAt (n : Nat) (p : Lexeme → Bool) (c : Cursor) :
    Reads (isAt n p) c ((c.lexemes[n]?).any p) c := by
  rw [← Cursor.lexeme?_eq]
  rfl

lemma isSymbol (s : Symbol) (n : Nat) (c : Cursor) :
    Reads (isSymbol s n) c ((c.lexemes[n]?).any (· == .symbol s)) c := isAt _ _ _

lemma isKeyword (w : String) (n : Nat) (c : Cursor) :
    Reads (isKeyword w n) c ((c.lexemes[n]?).any (·.isKeyword w)) c := isAt _ _ _

lemma isName (n : Nat) (c : Cursor) :
    Reads (isName n) c ((c.lexemes[n]?).any (·.name?.isSome)) c := isAt _ _ _

lemma eatIf {test : Parser Bool} {b : Bool} (h : Reads test c b c) :
    Reads (eatIf test) c b (if b then c.drop 1 else c) := by
  refine h.bind ?_
  cases b
  · exact .pure false c
  · exact .bind (.skip 1 c) (.pure true _)

variable {l : Lexeme} {ls : List Lexeme}

lemma eat {p : Lexeme → Bool} (h : c.lexemes = l :: ls) (hl : p l = true) :
    Reads (Grammar.eatIf (Grammar.isAt 0 p)) c true (c.drop 1) := by
  have ht := isAt 0 p c
  rw [h] at ht
  simpa [hl] using eatIf ht

lemma isAt_not {p : Lexeme → Bool} (h : ∀ l ∈ c.lexemes.head?, p l = false) :
    Reads (Grammar.isAt 0 p) c false c := by
  have ht := isAt 0 p c
  rwa [← List.head?_eq_getElem?, (Option.any_eq_false _ _).2 h] at ht

lemma eat_not {p : Lexeme → Bool} (h : ∀ l ∈ c.lexemes.head?, p l = false) :
    Reads (Grammar.eatIf (Grammar.isAt 0 p)) c false c := eatIf (isAt_not h)

lemma isSymbol_not {s : Symbol} (h : ∀ l ∈ c.lexemes.head?, l ≠ .symbol s) :
    Reads (Grammar.isSymbol s) c false c := isAt_not fun l hl => beq_eq_false_iff_ne.2 (h l hl)

lemma eatSymbol {s : Symbol} (h : c.lexemes = .symbol s :: ls) :
    Reads (eatSymbol s) c true (c.drop 1) := eat h (beq_self_eq_true _)

lemma eatSymbol_not {s : Symbol} (h : ∀ l ∈ c.lexemes.head?, l ≠ .symbol s) :
    Reads (Grammar.eatSymbol s) c false c := eat_not fun l hl => beq_eq_false_iff_ne.2 (h l hl)

lemma eatKeyword {w : String} (h : c.lexemes = l :: ls) (hl : l.isKeyword w = true) :
    Reads (eatKeyword w) c true (c.drop 1) := eat h hl

lemma eatKeyword_not {w : String} (h : ∀ l ∈ c.lexemes.head?, l.isKeyword w = false) :
    Reads (Grammar.eatKeyword w) c false c := eat_not h

lemma symbol {s : Symbol} (h : c.lexemes = .symbol s :: ls) : Reads (symbol s) c () (c.drop 1) :=
  .bind (eatSymbol h) (.pure _ _)

lemma keyword {w : String} (h : c.lexemes = l :: ls) (hl : l.isKeyword w = true) :
    Reads (keyword w) c () (c.drop 1) :=
  .bind (eatKeyword h hl) (.pure _ _)

lemma name {what n : String} (h : c.lexemes = l :: ls) (hl : l.name? = some n) :
    Reads (name what) c n (c.drop 1) := by
  refine .bind (.get c) ?_
  have hn : (c.lexeme? 0).bind Lexeme.name? = some n := by
    rw [Cursor.lexeme?_eq, h]
    exact hl
  simp only [hn]
  exact .bind (.skip 1 c) (.pure n _)

end Reads

lemma reads_oneOf_not {table : List (Symbol × BinaryOp)}
    (h : ∀ l ∈ c.lexemes.head?, ∀ e ∈ table, l ≠ .symbol e.1) : Reads (oneOf table) c none c := by
  refine .bind (.get c) ?_
  have hf : (table.find? fun e => c.lexeme? 0 = some (.symbol e.1)) = none := by
    refine List.find?_eq_none.2 fun e he => ?_
    rw [Cursor.lexeme?_eq, ← List.head?_eq_getElem?, decide_eq_true_eq]
    exact fun hl => h _ hl e he rfl
  simp only [hf]
  exact .pure none c

/-! ### Repetition -/

/-- Steps until one has nothing to give, each but the last of which gets ahead. -/
inductive Loops (step : α → Parser (Option α)) : α → Cursor → α → Cursor → Prop
  | stop {a : α} {c d : Cursor} : Reads (step a) c none d → Loops step a c a d
  | next {a b x : α} {c d e : Cursor} : Reads (step a) c (some b) d →
      d.rest.length < c.rest.length → Loops step b d x e → Loops step a c x e

variable {step : α → Parser (Option α)} {a x : α}

lemma Loops.steps (h : Loops step a c x e) :
    ∀ {fuel : Nat}, c.rest.length < fuel → Reads (steps step fuel a) c x e := by
  induction h with
  | stop h =>
    rintro (_ | fuel) hf
    · exact absurd hf (Nat.not_lt_zero _)
    · exact h.bind (.pure _ _)
  | next h hlt _ ih =>
    rintro (_ | fuel) hf
    · exact absurd hf (Nat.not_lt_zero _)
    · exact h.bind (ih (by omega))

lemma Loops.iterate (h : Loops step a c x e) : Reads (iterate step a) c x e :=
  .bind (.get c) (h.steps (Nat.lt_succ_self _))

end Grammar

end Cypher

end PropertyGraph
