import PropertyGraph.Cypher.Grammar.Pattern
import PropertyGraph.Proofs.Cypher.Lines

/-!
How far ahead it is looked to tell a pattern from an expression in parentheses: over a whole map, to
the brace that closes it. If what is read from there has a partner for each of its braces, that is
not beyond what is read, so what is behind does not matter.
-/

namespace PropertyGraph

namespace Cypher

namespace Lexeme

def isBrace (l : Lexeme) : Bool := l == .symbol .leftBrace || l == .symbol .rightBrace

lemma isBrace_of_isKeyword {l : Lexeme} {w : String} (h : l.isKeyword w = true) :
    l.isBrace = false := by
  cases l with
  | symbol s => cases h
  | _ => rfl

lemma isBrace_of_name? {l : Lexeme} (h : l.name?.isSome) : l.isBrace = false := by
  cases l with
  | symbol s => cases h
  | _ => rfl

end Lexeme

/-- Tokens in which each brace has its partner. -/
inductive Balanced : List Token → Prop
  | nil : Balanced []
  | cons {t : Token} {ts : List Token} : t.lexeme.isBrace = false → Balanced ts → Balanced (t :: ts)
  | braces {l r : Token} {ts us : List Token} : l.lexeme = .symbol .leftBrace →
      r.lexeme = .symbol .rightBrace → Balanced ts → Balanced us → Balanced (l :: (ts ++ r :: us))

namespace Balanced

variable {t : Token} {ts us : List Token}

lemma append (h : Balanced ts) (hu : Balanced us) : Balanced (ts ++ us) := by
  induction h with
  | nil => exact hu
  | cons ht _ ih => exact .cons ht ih
  | braces hl hr h _ _ ih =>
    rw [List.cons_append, List.append_assoc, List.cons_append]
    exact .braces hl hr h ih

lemma tail (h : Balanced (t :: ts)) (ht : t.lexeme.isBrace = false) : Balanced ts := by
  cases h with
  | cons _ h => exact h
  | braces hl =>
    rw [hl] at ht
    cases ht

lemma of_forall (h : ∀ t ∈ ts, t.lexeme.isBrace = false) : Balanced ts := by
  induction ts with
  | nil => exact .nil
  | cons t ts ih =>
    rw [List.forall_mem_cons] at h
    exact .cons h.1 (ih h.2)

end Balanced

namespace Grammar

variable {t : Token} {ts us : List Token}

/-! ### What is dropped -/

/-- Balanced tokens do not change how deep braces are. -/
lemma dropBraces_balanced (h : Balanced ts) (depth : Nat) (us : List Token) :
    dropBraces (depth + 1) (ts ++ us) = dropBraces (depth + 1) us := by
  induction h generalizing depth us with
  | nil => rfl
  | @cons t ts ht _ ih =>
    rw [List.cons_append, dropBraces]
    split
    · rename_i heq
      rw [heq] at ht
      cases ht
    · rename_i heq
      rw [heq] at ht
      cases ht
    · exact ih depth us
  | @braces l r ts vs hl hr _ _ ih ihv =>
    have hd : ¬ depth + 1 + 1 ≤ 1 := by omega
    rw [List.cons_append, List.append_assoc, List.cons_append, dropBraces, hl]
    dsimp only
    rw [ih, dropBraces, hr]
    dsimp only
    rw [if_neg hd]
    exact ihv depth us

/-- A brace that has its partner is dropped with what is between them. -/
lemma dropBraces_closed (h : Balanced (t :: ts)) (ht : t.lexeme = .symbol .leftBrace)
    (us : List Token) : (dropBraces 1 (ts ++ us)).isSome := by
  cases h with
  | cons hb =>
    rw [ht] at hb
    cases hb
  | @braces l r ts vs hl hr hts _ =>
    rw [List.append_assoc, List.cons_append, dropBraces_balanced hts, dropBraces, hr]
    rfl

lemma balanced_dropName (h : Balanced ts) : Balanced (dropName ts) := by
  cases ts with
  | nil => exact h
  | cons t ts =>
    rw [dropName]
    split_ifs with hn
    · exact h.tail (Lexeme.isBrace_of_name? hn)
    · exact h

lemma balanced_dropLabels (h : Balanced ts) : Balanced (dropLabels ts) := by
  fun_induction dropLabels ts with
  | case1 t u ts hc ih =>
    simp only [Bool.and_eq_true, decide_eq_true_eq] at hc
    exact ih ((h.tail (by rw [hc.1]; rfl)).tail (Lexeme.isBrace_of_name? hc.2))
  | case2 => exact h
  | case3 => exact h

/-! ### Tokens behind -/

/-- The first of some tokens goes on with no part of a node. -/
def Stops (ts : List Token) : Prop :=
  ∀ t ∈ ts.head?, ∃ s ∈ [Symbol.semicolon, .rightParen, .rightBracket], t.lexeme = .symbol s

lemma dropName_append (hu : Stops us) (ts : List Token) :
    dropName (ts ++ us) = dropName ts ++ us := by
  cases ts with
  | nil =>
    cases us with
    | nil => rfl
    | cons u us =>
      obtain ⟨s, -, hs⟩ := hu u rfl
      simp [dropName, hs, Lexeme.name?]
  | cons t ts =>
    simp only [List.cons_append, dropName]
    split_ifs <;> rfl

lemma dropLabels_append (hu : Stops us) (ts : List Token) :
    dropLabels (ts ++ us) = dropLabels ts ++ us := by
  fun_induction dropLabels ts with
  | case1 t u ts hc ih => rw [List.cons_append, List.cons_append, dropLabels, if_pos hc, ih]
  | case2 t u ts hc => rw [List.cons_append, List.cons_append, dropLabels, if_neg hc]
  | case3 ts hne =>
    rcases us with _ | ⟨u, us⟩
    · rw [List.append_nil]
      exact dropLabels.eq_2 ts hne
    obtain ⟨s, hmem, hs⟩ := hu u rfl
    rcases ts with _ | ⟨t, _ | ⟨v, ts⟩⟩
    · rcases us with _ | ⟨v, us⟩
      · rfl
      · have : s ≠ .colon := by
          rintro rfl
          simp at hmem
        simp [dropLabels, hs, this]
    · simp [dropLabels, hs, Lexeme.name?]
    · exact absurd rfl (hne t v ts)

lemma dropBraces_append {depth : Nat} {rs : List Token} (h : dropBraces depth ts = some rs)
    (us : List Token) : dropBraces depth (ts ++ us) = some (rs ++ us) := by
  fun_induction dropBraces depth ts with
  | case1 => cases h
  | case2 depth t ts heq ih =>
    rw [List.cons_append, dropBraces, heq]
    exact ih h
  | case3 depth t ts heq hd =>
    cases h
    rw [List.cons_append, dropBraces, heq]
    exact if_pos hd
  | case4 depth t ts heq hd ih =>
    rw [List.cons_append, dropBraces, heq]
    exact (if_neg hd).trans (ih h)
  | case5 depth t ts hl hr ih =>
    rw [List.cons_append, dropBraces]
    split
    · rename_i heq
      exact absurd heq hl
    · rename_i heq
      exact absurd heq hr
    · exact ih h

lemma dropProperties_append {rs : List Token} (hu : Stops us) (h : dropProperties ts = some rs) :
    dropProperties (ts ++ us) = some (rs ++ us) := by
  rcases ts with _ | ⟨⟨l, a, b⟩, ts⟩
  · obtain rfl := Option.some.inj h
    rcases us with _ | ⟨⟨l, a, b⟩, us⟩
    · rfl
    · obtain ⟨s, hmem, hs⟩ := hu _ rfl
      obtain rfl : l = .symbol s := hs
      simp only [List.mem_cons, List.not_mem_nil, or_false] at hmem
      rcases hmem with rfl | rfl | rfl <;> rfl
  · rw [List.cons_append]
    cases l with
    | symbol s =>
      cases s with
      | leftBrace => exact dropBraces_append h us
      | _ =>
        obtain rfl := Option.some.inj h
        rfl
    | _ =>
      obtain rfl := Option.some.inj h
      rfl

lemma startsRel_cases (h : startsRel ts = true) : ∃ t u v rs, ts = t :: u :: v :: rs ∧
    ∀ w ∈ [t, u, v], w.lexeme ≠ .symbol .semicolon := by
  unfold startsRel at h
  rcases ts with _ | ⟨t, _ | ⟨u, _ | ⟨v, rs⟩⟩⟩
  · cases h
  · split at h <;> simp_all
  · split at h <;> simp_all
  · refine ⟨t, u, v, rs, rfl, ?_⟩
    simp only [List.take_succ_cons, List.take_zero, List.map_cons, List.map_nil] at h
    split at h
    · rename_i heq
      simp only [List.cons.injEq, and_true] at heq
      rintro w hw hl
      simp only [List.mem_cons, List.not_mem_nil, or_false] at hw
      rcases hw with rfl | rfl | rfl <;> simp_all
    · rename_i heq
      simp only [List.cons.injEq, and_true] at heq
      rintro w hw hl
      simp only [List.mem_cons, List.not_mem_nil, or_false] at hw
      rcases hw with rfl | rfl | rfl <;> simp_all
    · cases h

lemma startsRel_append (hu : ∀ t ∈ us.head?, t.lexeme = .symbol .semicolon) (ts : List Token) :
    startsRel (ts ++ us) = startsRel ts := by
  rcases us with _ | ⟨w, us⟩
  · rw [List.append_nil]
  have hw := hu w rfl
  rw [Bool.eq_iff_iff]
  constructor
  · intro h
    obtain ⟨t, u, v, rs, heq, hne⟩ := startsRel_cases h
    rcases ts with _ | ⟨t', _ | ⟨u', _ | ⟨v', ts⟩⟩⟩
    · cases heq
      exact absurd hw (hne w (by simp))
    · cases heq
      exact absurd hw (hne w (by simp))
    · cases heq
      exact absurd hw (hne w (by simp))
    · exact h
  · intro h
    obtain ⟨t, u, v, rs, rfl, -⟩ := startsRel_cases h
    exact h

/-! ### Tokens of a text further ahead -/

variable (k : Nat)

lemma dropName_map (ts : List Token) :
    dropName (ts.map (Token.shift k)) = (dropName ts).map (Token.shift k) := by
  cases ts with
  | nil => rfl
  | cons t ts =>
    simp only [List.map_cons, dropName, Token.shift]
    split_ifs <;> rfl

lemma dropLabels_map (ts : List Token) :
    dropLabels (ts.map (Token.shift k)) = (dropLabels ts).map (Token.shift k) := by
  fun_induction dropLabels ts with
  | case1 t u ts hc ih => rw [List.map_cons, List.map_cons, dropLabels, ← ih]; exact if_pos hc
  | case2 t u ts hc => rw [List.map_cons, List.map_cons, dropLabels]; exact if_neg hc
  | case3 ts hne =>
    rcases ts with _ | ⟨t, _ | ⟨v, ts⟩⟩
    · rfl
    · rfl
    · exact absurd rfl (hne t v ts)

lemma dropBraces_map (depth : Nat) (ts : List Token) :
    dropBraces depth (ts.map (Token.shift k)) =
      (dropBraces depth ts).map (·.map (Token.shift k)) := by
  induction ts generalizing depth with
  | nil => rfl
  | cons t ts ih =>
    obtain ⟨l, a, b⟩ := t
    rw [List.map_cons, dropBraces, dropBraces]
    simp only [Token.shift, ih]
    split
    · rfl
    · split_ifs <;> rfl
    · rfl

lemma dropProperties_map (ts : List Token) :
    dropProperties (ts.map (Token.shift k)) =
      (dropProperties ts).map (·.map (Token.shift k)) := by
  rcases ts with _ | ⟨⟨l, a, b⟩, ts⟩
  · rfl
  cases l with
  | symbol s =>
    cases s with
    | leftBrace => exact dropBraces_map k 1 ts
    | _ => rfl
  | _ => rfl

lemma startsRel_map (ts : List Token) : startsRel (ts.map (Token.shift k)) = startsRel ts := by
  simp only [startsRel, ← List.map_take, List.map_map]
  rfl

/-! ### Whole nodes -/

/-- The lookahead for a pattern does not run to the end of some tokens: they do not start with a
node in which a map is not closed. -/
def Closes : List Token → Prop
  | ⟨.symbol .leftParen, _, _⟩ :: ts => (dropProperties (dropLabels (dropName ts))).isSome
  | _ => True

lemma closes_of_startsPattern (h : startsPattern ts = true) : Closes ts := by
  unfold startsPattern at h
  split at h
  · rename_i ts
    rw [Closes]
    cases hd : dropProperties (dropLabels (dropName ts)) with
    | none =>
      rw [hd] at h
      cases h
    | some _ => rfl
  · cases h

lemma startsPattern_append (hu : ∀ t ∈ us.head?, t.lexeme = .symbol .semicolon) (h : Closes ts) :
    startsPattern (ts.map (Token.shift k) ++ us) = startsPattern ts := by
  have hs : Stops us := fun t ht => ⟨_, .head _, hu t ht⟩
  have hskip (ts : List Token) : dropLabels (dropName (ts.map (Token.shift k) ++ us)) =
      (dropLabels (dropName ts)).map (Token.shift k) ++ us := by
    rw [dropName_append hs, dropLabels_append hs, dropName_map, dropLabels_map]
  rcases ts with _ | ⟨⟨l, a, b⟩, ts⟩
  · rcases us with _ | ⟨⟨l, a, b⟩, us⟩
    · rfl
    · obtain rfl : l = .symbol .semicolon := hu _ rfl
      rfl
  cases l with
  | symbol s =>
    cases s with
    | leftParen =>
      obtain ⟨rs, hrs⟩ := Option.isSome_iff_exists.1 h
      have hmap := (dropProperties_map k _).trans (congrArg _ hrs)
      change (dropProperties (dropLabels (dropName (ts.map (Token.shift k) ++ us)))).any _ =
        (dropProperties (dropLabels (dropName ts))).any startsRel
      rw [hskip, dropProperties_append hs hmap, hrs]
      exact (startsRel_append hu _).trans (startsRel_map k rs)
    | _ => rfl
  | _ => rfl

lemma isSome_dropProperties {u : Token} (h : Balanced ts) (hu : Stops (u :: us)) :
    (dropProperties (ts ++ u :: us)).isSome := by
  rcases ts with _ | ⟨⟨l, a, b⟩, ts⟩
  · rw [dropProperties_append hu (rfl : dropProperties [] = some [])]
    rfl
  rw [List.cons_append]
  cases l with
  | symbol s =>
    cases s with
    | leftBrace => exact dropBraces_closed h rfl _
    | _ => rfl
  | _ => rfl

/-- What is balanced up to a closing parenthesis or bracket does not run to its end. -/
lemma closes_of_balanced {u : Token} (h : Balanced ts) (hu : Stops (u :: us)) :
    Closes (ts ++ u :: us) := by
  rcases ts with _ | ⟨⟨l, a, b⟩, ts⟩
  · obtain ⟨s, hmem, hs⟩ := hu u rfl
    obtain ⟨l, a, b⟩ := u
    obtain rfl : l = .symbol s := hs
    simp only [List.mem_cons, List.not_mem_nil, or_false] at hmem
    rcases hmem with rfl | rfl | rfl <;> trivial
  rw [List.cons_append]
  cases l with
  | symbol s =>
    cases s with
    | leftParen =>
      change (dropProperties (dropLabels (dropName (ts ++ u :: us)))).isSome
      rw [dropName_append hu, dropLabels_append hu]
      exact isSome_dropProperties (balanced_dropLabels (balanced_dropName (h.tail rfl))) hu
    | _ => trivial
  | _ => trivial

end Grammar

end Cypher

end PropertyGraph
