import PropertyGraph.Cypher.Grammar.Statement
import PropertyGraph.Proofs.Cypher.Scan

/-!
Where parsers fail: always at a place between tokens of the text, which is never before the place
where they started. So a failure is flagged as one at the end exactly if no token is left there.

All parsers are put together from a few, and what holds of these passes to whatever is put together
from them. So there is one lemma for each rule of the grammar.
-/

namespace PropertyGraph

namespace Cypher

/-- A place of a text is not before another one. -/
structure Cursor.After (d c : Cursor) : Prop where
  source : d.source = c.source
  rest : d.rest <:+ c.rest

namespace Cursor.After

variable {c d e : Cursor}

lemma refl (c : Cursor) : c.After c := ⟨rfl, List.suffix_rfl⟩

lemma trans (h : e.After d) (h' : d.After c) : e.After c :=
  ⟨h.source.trans h'.source, h.rest.trans h'.rest⟩

lemma advance (c : Cursor) : c.advance.After c := by
  obtain ⟨s, b, rest⟩ := c
  cases rest with
  | nil => exact .refl _
  | cons t ts => exact ⟨rfl, List.suffix_cons t ts⟩

lemma skip (n : Nat) (c : Cursor) : (n.repeat Cursor.advance c).After c := by
  induction n with
  | zero => exact .refl c
  | succ n ih => exact (advance _).trans ih

end Cursor.After

namespace Grammar

variable {α β : Type}

/-- A parser goes on to a place that is not before the one where it starts, or fails at one. -/
structure Stays (p : Parser α) : Prop where
  ok : ∀ {c d : Cursor} {a : α}, p c = .ok (a, d) → d.After c
  error : ∀ {c : Cursor} {e : ParseError}, p c = .error e →
    ∃ (d : Cursor) (f : ParseFault), d.After c ∧ e = d.fail f

namespace Stays

lemma pure (a : α) : Stays (Pure.pure a : Parser α) where
  ok := by
    rintro c _ _ ⟨⟩
    exact .refl c
  error := nofun

lemma get : Stays (MonadState.get : Parser Cursor) where
  ok := by
    rintro c _ _ ⟨⟩
    exact .refl c
  error := nofun

lemma fail (f : ParseFault) : Stays (Grammar.fail f : Parser α) where
  ok := nofun
  error := by
    rintro c _ ⟨⟩
    exact ⟨c, f, .refl c, rfl⟩

lemma bind {p : Parser α} {f : α → Parser β} (hp : Stays p) (hf : ∀ a, Stays (f a)) :
    Stays (p >>= f) where
  ok := by
    intro c e b h
    obtain ⟨⟨a, d⟩, hd, h⟩ := bind_eq_ok.1 h
    exact ((hf a).ok h).trans (hp.ok hd)
  error := by
    intro c x h
    change (p c >>= fun r => f r.1 r.2) = _ at h
    cases hc : p c with
    | error y =>
      rw [hc] at h
      obtain rfl := Except.error.inj h
      exact hp.error hc
    | ok r =>
      rw [hc] at h
      obtain ⟨d, g, hd, rfl⟩ := (hf r.1).error h
      exact ⟨d, g, hd.trans (hp.ok hc), rfl⟩

lemma map {p : Parser α} (hp : Stays p) (f : α → β) : Stays (f <$> p) := .bind hp fun _ => .pure _

lemma ite {c : Prop} [Decidable c] {p q : Parser α} (hp : Stays p) (hq : Stays q) :
    Stays (if c then p else q) := by
  split_ifs
  · exact hp
  · exact hq

/-- A branch that ends in the same continuation on both sides. -/
lemma iteBind {c : Prop} [Decidable c] {p q : Parser α} {f : α → Parser β} (hp : Stays p)
    (hq : Stays q) (hf : ∀ a, Stays (f a)) : Stays (if c then p >>= f else q >>= f) :=
  .ite (.bind hp hf) (.bind hq hf)

lemma unexpected (e : Expected) : Stays (Grammar.unexpected e : Parser α) :=
  .bind .get fun _ => .fail _

lemma skip (n : Nat) : Stays (Grammar.skip n) where
  ok := by
    rintro c _ _ ⟨⟩
    exact .skip n c
  error := nofun

lemma steps {step : α → Parser (Option α)} (h : ∀ a, Stays (step a)) (fuel : Nat) (a : α) :
    Stays (Grammar.steps step fuel a) := by
  induction fuel generalizing a with
  | zero => exact .pure a
  | succ fuel ih =>
    refine .bind (h a) fun b => ?_
    cases b with
    | none => exact .pure a
    | some b => exact ih b

lemma iterate {step : α → Parser (Option α)} (h : ∀ a, Stays (step a)) (a : α) :
    Stays (Grammar.iterate step a) :=
  .bind .get fun _ => .steps h _ a

end Stays

/-! ### Looking ahead and taking tokens -/

end Grammar

end Cypher

end PropertyGraph
