import PropertyGraph.Proofs.Cypher.Braces
import PropertyGraph.Proofs.Cypher.Reads

/-!
What is read from a text is read from a longer one as well, in which other text stands before it
and nothing or a semicolon behind.

A parser is compared with another one, which may be allowed a deeper nesting. Where the first
succeeds in the text, so does the second one in the longer text, with the same value and over the
same tokens. With that goes what these tokens are: a closing brace for each opening one, and at
least one token where a loop has to get ahead.
-/

namespace PropertyGraph

namespace Cypher

lemma takeBytes_append_of_le {n : Nat} {cs : List Char} (h : n ≤ byteLength cs) (ds : List Char) :
    takeBytes n (cs ++ ds) = takeBytes n cs := by
  induction cs generalizing n with
  | nil =>
    obtain rfl := Nat.le_zero.1 h
    cases ds <;> rfl
  | cons c cs ih =>
    have h : n ≤ c.utf8Size + byteLength cs := h
    rw [List.cons_append, takeBytes, takeBytes, ih (by omega)]

namespace Cursor

@[simp] lemma source_drop (c : Cursor) (n : Nat) : (c.drop n).source = c.source := by
  induction n with
  | zero => rfl
  | succ n ih =>
    change (c.drop n).advance.source = _
    rw [← ih]
    obtain ⟨s, b, _ | _⟩ := c.drop n <;> rfl

lemma before_drop_succ {c : Cursor} {n : Nat} (h : n < c.rest.length) :
    (c.drop (n + 1)).before = c.rest[n].stop := by
  have hn : (c.drop n).rest = c.rest[n] :: c.rest.drop (n + 1) := by
    rw [rest_drop, List.drop_eq_getElem_cons h]
  change (c.drop n).advance.before = _
  rw [advance, hn]

/-- A place in a text, and the same place in a longer one: that has `k` bytes before the text, and
behind it tokens of which the first is a semicolon. -/
structure Within (c c' : Cursor) (k : Nat) (more : List Token) : Prop where
  rest : c'.rest = c.rest.map (Token.shift k) ++ more
  more : ∀ t ∈ more.head?, t.lexeme = .symbol .semicolon
  source : ∃ front back, c'.source.toList = front ++ (c.source.toList ++ back) ∧
    byteLength front = k
  places : ∀ t ∈ c.rest, (∃ ds, ds <:+ c.source.toList ∧
    t.start + byteLength ds = byteLength c.source.toList) ∧ t.stop ≤ byteLength c.source.toList

namespace Within

variable {c c' : Cursor} {k n : Nat} {more : List Token}

lemma drop (w : c.Within c' k more) (hn : n ≤ c.rest.length) :
    (c.drop n).Within (c'.drop n) k more where
  rest := by
    rw [rest_drop, rest_drop, w.rest, List.map_drop,
      List.drop_append_of_le_length (by rwa [List.length_map])]
  more := w.more
  source := by simpa using w.source
  places := by
    rw [rest_drop, source_drop]
    exact fun t ht => w.places t (List.mem_of_mem_drop ht)

lemma lexemes (w : c.Within c' k more) : c'.lexemes = c.lexemes ++ more.map Token.lexeme := by
  rw [Cursor.lexemes, Cursor.lexemes, w.rest, List.map_append, List.map_map]
  rfl

/-- A look ahead that goes no further than to the first token behind, which is a semicolon. -/
lemma any (w : c.Within c' k more) {p : Lexeme → Bool} (hp : p (.symbol .semicolon) = false)
    (hn : n ≤ c.rest.length) : (c'.lexemes[n]?).any p = (c.lexemes[n]?).any p := by
  rw [← length_lexemes] at hn
  rw [w.lexemes]
  rcases Nat.lt_or_eq_of_le hn with hn | rfl
  · rw [List.getElem?_append_left hn]
  · rw [List.getElem?_append_right (Nat.le_refl _), Nat.sub_self,
      List.getElem?_eq_none (Nat.le_refl _)]
    rcases more with _ | ⟨t, more⟩
    · rfl
    · have := w.more t rfl
      simp [this, hp]

/-- The next lexeme is the same, unless there is none. -/
lemma next (w : c.Within c' k more) :
    (c.lexeme? 0 = none ∧ (c'.lexeme? 0 = none ∨ c'.lexeme? 0 = some (.symbol .semicolon))) ∨
      ∃ l ls, c.lexemes = l :: ls ∧ c.lexeme? 0 = some l ∧ c'.lexeme? 0 = some l := by
  rw [lexeme?_eq, lexeme?_eq, w.lexemes]
  rcases c.lexemes with _ | ⟨l, ls⟩
  · refine .inl ⟨rfl, ?_⟩
    rcases more with _ | ⟨t, more⟩
    · exact .inl rfl
    · exact .inr (congrArg some (w.more t rfl))
  · exact .inr ⟨l, ls, rfl, rfl, rfl⟩

/-- Behind the text there is nothing, or a semicolon. -/
lemma stop (w : c.Within c' k more) (h : c.rest = []) :
    ∀ l ∈ c'.lexemes.head?, l = .symbol .semicolon := by
  rw [w.lexemes, Cursor.lexemes, h]
  rcases more with _ | ⟨t, more⟩
  · rintro _ ⟨⟩
  · rintro _ ⟨⟩
    exact w.more t rfl

/-- If a semicolon is next or nothing, so it is in the longer text. -/
lemma ends (w : c.Within c' k more) (h : ∀ l ∈ c.lexemes.head?, l = .symbol .semicolon) :
    ∀ l ∈ c'.lexemes.head?, l = .symbol .semicolon := by
  rcases hc : c.lexemes with _ | ⟨l, ls⟩
  · exact w.stop (List.map_eq_nil_iff.1 hc)
  · rw [w.lexemes, hc]
    rwa [hc] at h

lemma length_le (w : c.Within c' k more) : c.rest.length ≤ c'.rest.length := by
  rw [w.rest, List.length_append, List.length_map]
  exact Nat.le_add_right ..

/-- The text of some tokens. -/
lemma slice (w : c.Within c' k more) (hn : n ≤ c.rest.length) (h0 : n ≠ 0) :
    sliceBytes (c'.drop n).source c'.offset (c'.drop n).before =
      sliceBytes (c.drop n).source c.offset (c.drop n).before := by
  obtain ⟨m, rfl⟩ := Nat.exists_eq_succ_of_ne_zero h0
  obtain ⟨front, back, hsource, rfl⟩ := w.source
  have hplaces := w.places
  have hm : m < c'.rest.length := by
    rw [w.rest, List.length_append, List.length_map]
    omega
  have hstop : (c'.drop (m + 1)).before = byteLength front + (c.drop (m + 1)).before := by
    rw [before_drop_succ hm, before_drop_succ hn]
    simp only [w.rest]
    rw [List.getElem_append_left (by rwa [List.length_map]), List.getElem_map]
    rfl
  have hle : (c.drop (m + 1)).before ≤ byteLength c.source.toList := by
    rw [before_drop_succ hn]
    exact (hplaces _ (List.getElem_mem hn)).2
  obtain ⟨t, ts, ht⟩ : ∃ t ts, c.rest = t :: ts :=
    List.exists_cons_of_length_pos (Nat.zero_lt_of_lt hn)
  have hstart : c.offset = t.start := by
    rw [offset, ht]
    rfl
  have hstart' : c'.offset = byteLength front + t.start := by
    rw [offset, w.rest, ht]
    rfl
  obtain ⟨ds, ⟨us, hds⟩, hus⟩ := (hplaces t (by simp [ht])).1
  rw [← hds, byteLength_append] at hus hle
  obtain hus : t.start = byteLength us := by omega
  have hdrop := dropBytes_append us ds
  have hdrop' := dropBytes_append (front ++ us) (ds ++ back)
  rw [sliceBytes, sliceBytes, hstart, hstart', hstop, Nat.add_sub_add_left, source_drop,
    source_drop, hsource, ← hds, hus, ← byteLength_append, hdrop]
  rw [List.append_assoc] at hdrop'
  rw [List.append_assoc, hdrop', takeBytes_append_of_le (by omega)]

end Within

end Cursor

namespace Grammar

variable {α β γ : Type}

/-! ### What is read from both texts -/

/-- If a parser succeeds at a place, another one succeeds at another place with the same value and
over as many tokens, of which something holds. -/
def AgreesAt (B : α → List Token → Prop) (p q : Parser α) (c c' : Cursor) : Prop :=
  ∀ ⦃a : α⦄ ⦃d : Cursor⦄, Reads p c a d →
    ∃ n ≤ c.rest.length, d = c.drop n ∧ B a (c.rest.take n) ∧ Reads q c' a (c'.drop n)

/-- What a parser reads from a text, another one reads from a longer one. -/
def Agrees (B : α → List Token → Prop) (p q : Parser α) : Prop :=
  ∀ ⦃c c' : Cursor⦄ ⦃k : Nat⦄ ⦃more : List Token⦄, c.Within c' k more → AgreesAt B p q c c'

/-! ### What holds of the tokens -/

def balanced (_ : α) (ts : List Token) : Prop := Balanced ts

def filled (_ : α) (ts : List Token) : Prop := Balanced ts ∧ ts ≠ []

/-- There are tokens if there is a value. -/
def stepped (o : Option α) (ts : List Token) : Prop := Balanced ts ∧ (o.isSome → ts ≠ [])

/-- There are tokens if something has been eaten. -/
def eaten (b : Bool) (ts : List Token) : Prop := Balanced ts ∧ (b = true → ts ≠ [])

/-- The last token closes what was opened before. -/
def closed (s : Symbol) (_ : α) (ts : List Token) : Prop :=
  ∃ us t, ts = us ++ [t] ∧ Balanced us ∧ t.lexeme = .symbol s

def nonempty (_ : α) (ts : List Token) : Prop := ts ≠ []

def anything (_ : α) (_ : List Token) : Prop := True

/-- Nothing is taken, and something is known of the value. -/
def looked (P : α → Prop) (a : α) (ts : List Token) : Prop := ts = [] ∧ P a

/-- The tokens are balanced. -/
class Even (B : α → List Token → Prop) : Prop where
  even : ∀ {a : α} {ts : List Token}, B a ts → Balanced ts

/-- Balanced tokens may stand before. -/
class Absorbs (B : α → List Token → Prop) : Prop where
  append : ∀ {a : α} {ts us : List Token}, Balanced ts → B a us → B a (ts ++ us)

/-- Balanced tokens, of which there are any, make more of what is behind. -/
class Fills (A B : α → List Token → Prop) : Prop where
  append : ∀ {a : α} {ts us : List Token}, Balanced ts → ts ≠ [] → A a us → B a (ts ++ us)

instance : Even (balanced (α := α)) := ⟨id⟩

instance : Even (filled (α := α)) := ⟨And.left⟩

instance : Even (stepped (α := α)) := ⟨And.left⟩

instance : Even eaten := ⟨And.left⟩

instance : Absorbs (balanced (α := α)) := ⟨.append⟩

instance : Absorbs (filled (α := α)) :=
  ⟨fun h hu => ⟨h.append hu.1, by simp [hu.2]⟩⟩

instance : Absorbs (stepped (α := α)) :=
  ⟨fun h hu => ⟨h.append hu.1, fun ho => by simp [hu.2 ho]⟩⟩

instance : Absorbs eaten := ⟨fun h hu => ⟨h.append hu.1, fun ho => by simp [hu.2 ho]⟩⟩

instance (s : Symbol) : Absorbs (closed (α := α) s) := by
  refine ⟨?_⟩
  rintro _ ts _ h ⟨us, t, rfl, hu, ht⟩
  exact ⟨ts ++ us, t, (List.append_assoc ..).symm, h.append hu, ht⟩

instance : Absorbs (nonempty (α := α)) := ⟨fun _ hu => by simp [nonempty, show _ ≠ [] from hu]⟩

instance : Absorbs (anything (α := α)) := ⟨fun _ _ => trivial⟩

instance : Fills (balanced (α := α)) filled := ⟨fun h hne hu => ⟨h.append hu, by simp [hne]⟩⟩

instance : Fills (balanced (α := α)) balanced := ⟨fun h _ hu => h.append hu⟩

instance : Fills (balanced (α := Option α)) stepped :=
  ⟨fun h hne hu => ⟨h.append hu, fun _ => by simp [hne]⟩⟩

instance : Fills (balanced (α := Bool)) eaten :=
  ⟨fun h hne hu => ⟨h.append hu, fun _ => by simp [hne]⟩⟩

instance : Fills (anything (α := α)) nonempty := ⟨fun _ hne _ => by simp [nonempty, hne]⟩

/-! ### Putting parsers together -/

section

variable {p q : Parser α} {f g : α → Parser β} {c c' : Cursor} {k : Nat} {more : List Token}

namespace AgreesAt

lemma bindWith {A : α → List Token → Prop} {C : α → β → List Token → Prop}
    {B : β → List Token → Prop}
    (happend : ∀ {a b ts us}, A a ts → C a b us → B b (ts ++ us)) (hp : AgreesAt A p q c c')
    (hf : ∀ a n, n ≤ c.rest.length → A a (c.rest.take n) →
      AgreesAt (C a) (f a) (g a) (c.drop n) (c'.drop n)) :
    AgreesAt B (p >>= f) (q >>= g) c c' := by
  intro b e h
  obtain ⟨⟨a, d⟩, hd, h⟩ := bind_eq_ok.1 h
  obtain ⟨n, hn, rfl, ha, hq⟩ := hp hd
  obtain ⟨m, hm, rfl, hb, hg⟩ := hf a n hn ha h
  rw [Cursor.rest_drop, List.length_drop] at hm
  rw [Cursor.rest_drop] at hb
  rw [Cursor.drop_drop] at hg
  refine ⟨n + m, by omega, Cursor.drop_drop .., ?_, hq.bind hg⟩
  rw [List.take_add]
  exact happend ha hb

lemma bind {A : α → List Token → Prop} {B : β → List Token → Prop} [Even A] [Absorbs B]
    (hp : AgreesAt A p q c c')
    (hf : ∀ a n, n ≤ c.rest.length → A a (c.rest.take n) →
      AgreesAt B (f a) (g a) (c.drop n) (c'.drop n)) :
    AgreesAt B (p >>= f) (q >>= g) c c' :=
  bindWith (fun ha hb => Absorbs.append (Even.even ha) hb) hp hf

lemma first {A B : β → List Token → Prop} [Fills A B] (hp : AgreesAt filled p q c c')
    (hf : ∀ a n, n ≤ c.rest.length → AgreesAt A (f a) (g a) (c.drop n) (c'.drop n)) :
    AgreesAt B (p >>= f) (q >>= g) c c' :=
  bindWith (fun ha hb => Fills.append ha.1 ha.2 hb) hp fun a n hn _ => hf a n hn

lemma pure (a : α) : AgreesAt balanced (Pure.pure a) (Pure.pure a) c c' := by
  rintro b d ⟨⟩
  exact ⟨0, Nat.zero_le _, rfl, .nil, rfl⟩

lemma looked {P : α → Prop} {a : α} (h : P a) :
    AgreesAt (looked P) (Pure.pure a) (Pure.pure a) c c' := by
  rintro _ _ ⟨⟩
  exact ⟨0, Nat.zero_le _, rfl, ⟨rfl, h⟩, rfl⟩

/-- Both give a value and take some tokens. -/
lemma of_reads {B : α → List Token → Prop} {a : α} {n : Nat} (hn : n ≤ c.rest.length)
    (hB : B a (c.rest.take n)) (hp : Reads p c a (c.drop n)) (hq : Reads q c' a (c'.drop n)) :
    AgreesAt B p q c c' := by
  intro b d h
  obtain ⟨rfl, rfl⟩ := Prod.mk.inj (Except.ok.inj (hp.symm.trans h))
  exact ⟨n, hn, rfl, hB, hq⟩

lemma look {P : α → Prop} {B : β → List Token → Prop} (hp : AgreesAt (Grammar.looked P) p q c c')
    (hf : ∀ a, P a → AgreesAt B (f a) (g a) c c') : AgreesAt B (p >>= f) (q >>= g) c c' := by
  refine .bindWith (C := fun _ => B) ?_ hp fun a n hn ha => ?_
  · rintro a b _ ts ⟨rfl, -⟩ hb
    exact hb
  · obtain rfl : n = 0 := by
      have := congrArg List.length ha.1
      rwa [List.length_take, Nat.min_eq_left hn] at this
    exact hf a ha.2

lemma mono {A B : α → List Token → Prop} (hAB : ∀ {a ts}, A a ts → B a ts)
    (h : AgreesAt A p q c c') : AgreesAt B p q c c' := by
  intro a d hp
  obtain ⟨n, hn, hd, ha, hq⟩ := h hp
  exact ⟨n, hn, hd, hAB ha, hq⟩

lemma get {f g : Cursor → Parser α} {B : α → List Token → Prop} (h : AgreesAt B (f c) (g c') c c') :
    AgreesAt B (MonadState.get >>= f) (MonadState.get >>= g) c c' := h

lemma ite {P : Prop} [Decidable P] {p' q' : Parser α} {B : α → List Token → Prop}
    (hp : P → AgreesAt B p q c c') (hq : ¬P → AgreesAt B p' q' c c') :
    AgreesAt B (if P then p else p') (if P then q else q') c c' := by
  split_ifs with h
  · exact hp h
  · exact hq h

/-- A look ahead. -/
lemma isAt {f g : Bool → Parser α} {B : α → List Token → Prop} {n : Nat} {t : Lexeme → Bool}
    (w : c.Within c' k more) (ht : t (.symbol .semicolon) = false) (hn : n ≤ c.rest.length)
    (h : ∀ b, (c.lexemes[n]?).any t = b → AgreesAt B (f b) (g b) c c') :
    AgreesAt B (Grammar.isAt n t >>= f) (Grammar.isAt n t >>= g) c c' := by
  have hb := h _ rfl
  intro a d hp
  change f ((c.lexeme? n).any t) c = _ at hp
  rw [Cursor.lexeme?_eq] at hp
  obtain ⟨m, hm, hd, ha, hq⟩ := hb hp
  refine ⟨m, hm, hd, ha, .bind (Reads.isAt n t c') ?_⟩
  rwa [w.any ht hn]

/-- Tokens are taken of which it is known what they are. -/
lemma skip (ls : List Lexeme) {ms : List Lexeme} (h : c.lexemes = ls ++ ms)
    (hls : ∀ l ∈ ls, l.isBrace = false) (hne : ls ≠ []) :
    AgreesAt filled (Grammar.skip ls.length) (Grammar.skip ls.length) c c' := by
  rintro _ _ ⟨⟩
  have htake : (c.rest.take ls.length).map Token.lexeme = ls := by
    rw [List.map_take]
    exact (congrArg (List.take ls.length) h).trans (List.take_left ..)
  have hle : ls.length ≤ c.rest.length := by
    rw [← Cursor.length_lexemes, h, List.length_append]
    omega
  refine ⟨ls.length, hle, rfl, ⟨.of_forall fun t ht => hls _ ?_, ?_⟩, rfl⟩
  · rw [← htake]
    exact List.mem_map_of_mem ht
  · rintro hnil
    rw [hnil] at htake
    exact hne htake.symm

/-- The next token is taken. -/
lemma skipOne {l : Lexeme} {ls : List Lexeme} (h : c.lexemes = l :: ls) (hl : l.isBrace = false) :
    AgreesAt filled (Grammar.skip 1) (Grammar.skip 1) c c' :=
  .skip [l] h (by simpa using hl) (List.cons_ne_nil _ _)

lemma skipTwo {l m : Lexeme} {ls : List Lexeme} (h : c.lexemes = l :: m :: ls)
    (hl : l.isBrace = false) (hm : m.isBrace = false) :
    AgreesAt filled (Grammar.skip 2) (Grammar.skip 2) c c' :=
  .skip [l, m] h (List.forall_mem_cons.2 ⟨hl, List.forall_mem_singleton.2 hm⟩)
    (List.cons_ne_nil _ _)

/-- A look whether anything is left. -/
lemma isEnd {f g : Bool → Parser α} {B : α → List Token → Prop} (w : c.Within c' k more)
    (hend : c.rest = [] → AgreesAt B (f true) (g c'.rest.isEmpty) c c')
    (h : c.rest ≠ [] → AgreesAt B (f false) (g false) c c') :
    AgreesAt B (Grammar.isEnd >>= f) (Grammar.isEnd >>= g) c c' := by
  intro a d hp
  change f c.rest.isEmpty c = _ at hp
  change ∃ n ≤ c.rest.length, d = c.drop n ∧ B a (c.rest.take n) ∧
    g c'.rest.isEmpty c' = .ok (a, c'.drop n)
  by_cases hc : c.rest = []
  · rw [List.isEmpty_iff.2 hc] at hp
    exact hend hc hp
  · have hc' : c'.rest ≠ [] := by
      rw [w.rest]
      simp [hc]
    rw [List.isEmpty_eq_false_iff.2 hc] at hp
    rw [List.isEmpty_eq_false_iff.2 hc']
    exact h hc hp

end AgreesAt

namespace Agrees

lemma bind {A : α → List Token → Prop} {B : β → List Token → Prop} [Even A] [Absorbs B]
    (hp : Agrees A p q) (hf : ∀ a, Agrees B (f a) (g a)) : Agrees B (p >>= f) (q >>= g) :=
  fun _ _ _ _ w => .bind (hp w) fun a _ hn _ => hf a (w.drop hn)

lemma first {A B : β → List Token → Prop} [Fills A B] (hp : Agrees filled p q)
    (hf : ∀ a, Agrees A (f a) (g a)) : Agrees B (p >>= f) (q >>= g) :=
  fun _ _ _ _ w => .first (hp w) fun a _ hn => hf a (w.drop hn)

lemma pure (a : α) : Agrees balanced (Pure.pure a) (Pure.pure a) := fun _ _ _ _ _ => .pure a

lemma mono {A B : α → List Token → Prop} (h : Agrees A p q) (hAB : ∀ {a ts}, A a ts → B a ts) :
    Agrees B p q :=
  fun _ _ _ _ w => (h w).mono hAB

lemma even {A : α → List Token → Prop} [Even A] (h : Agrees A p q) : Agrees balanced p q :=
  h.mono Even.even

lemma none : Agrees stepped (Pure.pure (none : Option α)) (Pure.pure none) := by
  rintro _ _ _ _ _ _ _ ⟨⟩
  exact ⟨0, Nat.zero_le _, rfl, ⟨.nil, nofun⟩, rfl⟩

lemma false : Agrees eaten (Pure.pure Bool.false) (Pure.pure Bool.false) := by
  rintro _ _ _ _ _ _ _ ⟨⟩
  exact ⟨0, Nat.zero_le _, rfl, ⟨.nil, nofun⟩, rfl⟩

lemma fail (f : ParseFault) (q : Parser α) (B : α → List Token → Prop) :
    Agrees B (Grammar.fail f) q := nofun

lemma unexpected (e : Expected) (q : Parser α) (B : α → List Token → Prop) :
    Agrees B (Grammar.unexpected e) q := nofun

lemma ite {P : Prop} [Decidable P] {p' q' : Parser α} {B : α → List Token → Prop}
    (hp : Agrees B p q) (hq : Agrees B p' q') :
    Agrees B (if P then p else p') (if P then q else q') :=
  fun _ _ _ _ w => .ite (fun _ => hp w) fun _ => hq w

lemma iteBind {P : Prop} [Decidable P] {A : α → List Token → Prop} {B : β → List Token → Prop}
    [Even A] [Absorbs B] {p' q' : Parser α} (hp : Agrees A p q) (hq : Agrees A p' q')
    (hf : ∀ a, Agrees B (f a) (g a)) :
    Agrees B (if P then p >>= f else p' >>= f) (if P then q >>= g else q' >>= g) :=
  .ite (.bind hp hf) (.bind hq hf)

/-- Something is done with the value. -/
lemma andPure {A : α → List Token → Prop} {B : β → List Token → Prop} (h : Agrees A p q)
    (f : α → β) (hAB : ∀ {a ts}, A a ts → B (f a) ts) :
    Agrees B (p >>= fun a => Pure.pure (f a)) (q >>= fun a => Pure.pure (f a)) := by
  intro c c' k more w
  refine .bindWith (C := fun a b us => b = f a ∧ us = []) ?_ (h w) fun a n _ _ => ?_
  · rintro a _ ts _ ha ⟨rfl, rfl⟩
    rw [List.append_nil]
    exact hAB ha
  · rintro _ _ ⟨⟩
    exact ⟨0, Nat.zero_le _, rfl, ⟨rfl, rfl⟩, rfl⟩

lemma map {A : α → List Token → Prop} {B : β → List Token → Prop} (h : Agrees A p q)
    (f : α → β) (hAB : ∀ {a ts}, A a ts → B (f a) ts) : Agrees B (f <$> p) (f <$> q) :=
  h.andPure f hAB

/-- If something is eaten, what follows may be less. -/
lemma ifEaten {A B : α → List Token → Prop} [Fills A B] [Absorbs B] {t t' : Parser Bool}
    {p' q' : Parser α} (ht : Agrees eaten t t') (hp : Agrees A p q) (hq : Agrees B p' q') :
    Agrees B (t >>= fun b => if b then p else p') (t' >>= fun b => if b then q else q') := by
  intro c c' k more w
  refine .bindWith (C := fun b => if b then A else B) ?_ (ht w) fun b n hn _ => ?_
  · rintro (_ | _) a ts us hb ha
    · exact Absorbs.append hb.1 ha
    · exact Fills.append hb.1 (hb.2 rfl) (show A a us from ha)
  · cases b
    · exact hq (w.drop hn)
    · exact hp (w.drop hn)

/-- If there is a value, what follows may be less. -/
lemma ifSome {A B : β → List Token → Prop} [Fills A B] [Absorbs B] {o o' : Parser (Option α)}
    {f g : Option α → Parser β} (ho : Agrees stepped o o')
    (hsome : ∀ a, Agrees A (f (some a)) (g (some a)))
    (hnone : Agrees B (f Option.none) (g Option.none)) :
    Agrees B (o >>= f) (o' >>= g) := by
  intro c c' k more w
  refine .bindWith (C := fun x => if x.isSome then A else B) ?_ (ho w) fun x n hn _ => ?_
  · rintro (_ | a) b ts us hx hb
    · exact Absorbs.append hx.1 hb
    · exact Fills.append hx.1 (hx.2 rfl) (show A b us from hb)
  · cases x with
    | none => exact hnone (w.drop hn)
    | some a => exact hsome a (w.drop hn)

end Agrees

end

/-! ### Looking ahead and taking tokens -/

lemma agrees_isAt {t : Lexeme → Bool} (ht : t (.symbol .semicolon) = false) :
    Agrees balanced (isAt 0 t) (isAt 0 t) := by
  intro c c' k more w
  have h : AgreesAt balanced (isAt 0 t >>= pure) (isAt 0 t >>= pure) c c' :=
    .isAt w ht (Nat.zero_le _) fun b _ => .pure b
  rwa [bind_pure] at h

lemma agrees_isSymbol (s : Symbol) (h : s ≠ .semicolon) :
    Agrees balanced (isSymbol s) (isSymbol s) :=
  agrees_isAt (beq_eq_false_iff_ne.2 fun e => h (Lexeme.symbol.inj e).symm)

lemma agrees_isKeyword (w : String) : Agrees balanced (isKeyword w) (isKeyword w) := agrees_isAt rfl

lemma agrees_isName : Agrees balanced isName isName := agrees_isAt rfl

lemma length_of_any {c : Cursor} {n : Nat} {t : Lexeme → Bool}
    (h : (c.lexemes[n]?).any t = true) : n + 1 ≤ c.rest.length := by
  rw [← Cursor.length_lexemes]
  by_contra hn
  rw [List.getElem?_eq_none (by omega)] at h
  cases h

lemma cons_of_any {c : Cursor} {t : Lexeme → Bool} (h : (c.lexemes[0]?).any t = true) :
    ∃ l ls, c.lexemes = l :: ls ∧ t l = true := by
  rcases hc : c.lexemes with _ | ⟨l, ls⟩
  · rw [hc] at h
    cases h
  · rw [hc] at h
    exact ⟨l, ls, rfl, h⟩

lemma length_pos_of_lexemes {c : Cursor} {l : Lexeme} {ls : List Lexeme}
    (hc : c.lexemes = l :: ls) : 0 < c.rest.length := by
  rw [← Cursor.length_lexemes, hc]
  exact Nat.succ_pos _

lemma second_of_any {c : Cursor} {t : Lexeme → Bool} {l : Lexeme} {ls : List Lexeme}
    (hc : c.lexemes = l :: ls) (h : (c.lexemes[1]?).any t = true) :
    ∃ m ms, ls = m :: ms ∧ t m = true := by
  rw [hc] at h
  rcases ls with _ | ⟨m, ms⟩
  · cases h
  · exact ⟨m, ms, rfl, h⟩

/-- A look at a lexeme, and at the one behind it. -/
lemma AgreesAt.isAt_then {B : α → List Token → Prop} {f g : Bool → Parser α} {c c' : Cursor}
    {k n : Nat} {more : List Token} {t u : Lexeme → Bool} (w : c.Within c' k more)
    (ht : t (.symbol .semicolon) = false) (hu : u (.symbol .semicolon) = false)
    (hn : n ≤ c.rest.length)
    (h : ∀ b, (b = true → ∃ l m ls, c.lexemes.drop n = l :: m :: ls ∧ t l = true ∧ u m = true) →
      AgreesAt B (f b) (g b) c c') :
    AgreesAt B ((do if ← Grammar.isAt n t then Grammar.isAt (n + 1) u else return false) >>= f)
      ((do if ← Grammar.isAt n t then Grammar.isAt (n + 1) u else return false) >>= g) c c' := by
  rw [bind_assoc, bind_assoc]
  refine .isAt w ht hn fun b hb => ?_
  cases b with
  | false => exact h false nofun
  | true =>
    refine .isAt w hu (length_of_any hb) fun b hb' => h b fun htrue => ?_
    subst htrue
    obtain ⟨l, hl, htl⟩ := (Option.any_eq_true _ _).1 hb
    obtain ⟨m, hm, hum⟩ := (Option.any_eq_true _ _).1 hb'
    obtain ⟨_, rfl⟩ := List.getElem?_eq_some_iff.1 hl
    obtain ⟨_, rfl⟩ := List.getElem?_eq_some_iff.1 hm
    exact ⟨_, _, _, by rw [List.drop_eq_getElem_cons, List.drop_eq_getElem_cons], htl, hum⟩

lemma agrees_isAt_then {t u : Lexeme → Bool} (ht : t (.symbol .semicolon) = false)
    (hu : u (.symbol .semicolon) = false) :
    Agrees balanced (do if ← isAt 0 t then isAt 1 u else return false)
      (do if ← isAt 0 t then isAt 1 u else return false) := by
  intro c c' k more w
  have h := AgreesAt.isAt_then (f := pure) (g := pure) w ht hu (Nat.zero_le _) fun b _ => .pure b
  rwa [bind_pure] at h

/-- What is eaten where something is looked for. -/
def exactly (t : Lexeme → Bool) (b : Bool) (ts : List Token) : Prop :=
  if b then ∃ u, ts = [u] ∧ t u.lexeme = true else ts = []

lemma agrees_eatExactly {t : Lexeme → Bool} (ht : t (.symbol .semicolon) = false) :
    Agrees (exactly t) (eatIf (isAt 0 t)) (eatIf (isAt 0 t)) := by
  intro c c' k more w
  refine .isAt w ht (Nat.zero_le _) fun b hb => ?_
  cases b with
  | false =>
    rintro _ _ ⟨⟩
    exact ⟨0, Nat.zero_le _, rfl, rfl, rfl⟩
  | true =>
    obtain ⟨l, ls, hc, hl⟩ := cons_of_any hb
    obtain ⟨u, us, hu, rfl, -⟩ := List.map_eq_cons_iff.1 hc
    rintro _ _ ⟨⟩
    exact ⟨1, by simp [hu], rfl, ⟨u, by simp [hu], hl⟩, rfl⟩

lemma eq_toNat_of_exactly {t : Lexeme → Bool} {b : Bool} {ts : List Token} {n : Nat}
    (h : exactly t b (ts.take n)) (hn : n ≤ ts.length) : n = b.toNat := by
  rw [← List.length_take_of_le hn]
  cases b with
  | false => exact congrArg List.length (show ts.take n = [] from h)
  | true =>
    obtain ⟨u, hu, -⟩ := h
    exact congrArg List.length hu

lemma eaten_of_exactly {t : Lexeme → Bool} (hb : ∀ l, t l = true → l.isBrace = false) {b : Bool}
    {ts : List Token} (h : exactly t b ts) : eaten b ts := by
  cases b with
  | false =>
    obtain rfl := h
    exact ⟨.nil, nofun⟩
  | true =>
    obtain ⟨u, rfl, hu⟩ := h
    exact ⟨.cons (hb _ hu) .nil, fun _ => List.cons_ne_nil _ _⟩

lemma agrees_eat {t : Lexeme → Bool} (ht : t (.symbol .semicolon) = false)
    (hb : ∀ l, t l = true → l.isBrace = false) :
    Agrees eaten (eatIf (isAt 0 t)) (eatIf (isAt 0 t)) :=
  (agrees_eatExactly ht).mono (eaten_of_exactly hb)

/-- Whether a symbol is no brace and no semicolon. -/
def isPlain : Symbol → Bool
  | .leftBrace | .rightBrace | .semicolon => false
  | _ => true

lemma agrees_eatSymbol (s : Symbol) (h : isPlain s = true) :
    Agrees eaten (eatSymbol s) (eatSymbol s) := by
  refine agrees_eat (beq_eq_false_iff_ne.2 ?_) fun l hl => ?_
  · rintro e
    obtain rfl := Lexeme.symbol.inj e
    cases h
  · obtain rfl := beq_iff_eq.1 hl
    revert h
    cases s <;> decide

lemma agrees_eatKeyword (w : String) : Agrees eaten (eatKeyword w) (eatKeyword w) :=
  agrees_eat rfl fun _ => Lexeme.isBrace_of_isKeyword

lemma agrees_symbol (s : Symbol) (h : isPlain s = true) :
    Agrees filled (symbol s) (symbol s) :=
  .ifEaten (agrees_eatSymbol s h) (.pure _) (.unexpected _ _ _)

lemma agrees_keyword (w : String) : Agrees filled (keyword w) (keyword w) :=
  .ifEaten (agrees_eatKeyword w) (.pure _) (.unexpected _ _ _)

/-- A name is a single token. -/
def named (s : String) (ts : List Token) : Prop :=
  ∃ l, ts.map Token.lexeme = [l] ∧ l.name? = some s

lemma agrees_named (what : String) : Agrees named (name what) (name what) := by
  intro c c' k more w
  refine .get ?_
  rcases w.next with ⟨hn, -⟩ | ⟨l, ls, hc, h, h'⟩
  · rw [hn]
    exact Agrees.unexpected _ _ _ w
  · simp only [h, h', Option.bind_some]
    cases hl : l.name? with
    | none => exact Agrees.unexpected _ _ _ w
    | some s =>
      obtain ⟨t, ts, ht, rfl, -⟩ := List.map_eq_cons_iff.1 hc
      rintro _ _ ⟨⟩
      exact ⟨1, by simp [ht], rfl, ⟨_, by simp [ht], hl⟩, rfl⟩

lemma filled_of_named {s : String} {ts : List Token} (h : named s ts) : filled s ts := by
  obtain ⟨l, hl, hs⟩ := h
  obtain ⟨t, us, rfl, rfl, hnil⟩ := List.map_eq_cons_iff.1 hl
  obtain rfl := List.map_eq_nil_iff.1 hnil
  exact ⟨.cons (Lexeme.isBrace_of_name? (by simp [hs])) .nil, List.cons_ne_nil _ _⟩

lemma agrees_name (what : String) : Agrees filled (name what) (name what) :=
  (agrees_named what).mono filled_of_named

lemma agrees_namedVariable : Agrees named variableName variableName := by
  intro c c' k more w
  exact .isAt w rfl (Nat.zero_le _) fun b _ =>
    .ite (fun _ => Agrees.unexpected _ _ _ w) fun _ => agrees_named _ w

lemma agrees_variableName : Agrees filled variableName variableName :=
  agrees_namedVariable.mono filled_of_named

/-- A name and a symbol behind it, which is known. -/
lemma AgreesAt.nameAndSkip {A B : α → List Token → Prop} [Fills A B] [Absorbs B] {p : Parser String}
    {f g : String → Parser α} {c c' : Cursor} {k : Nat} {more : List Token} {l : Lexeme}
    {s : Symbol} {ls : List Lexeme} (hp : Agrees named p p) (w : c.Within c' k more)
    (hc : c.lexemes = l :: .symbol s :: ls) (hs : isPlain s = true)
    (hf : ∀ n, Agrees A (f n) (g n)) :
    AgreesAt B (p >>= fun n => Grammar.skip >>= fun _ => f n)
      (p >>= fun n => Grammar.skip >>= fun _ => g n) c c' := by
  refine .bindWith (C := fun _ => B) (fun ha hb => Absorbs.append (filled_of_named ha).1 hb)
    (hp w) fun n m hm ⟨x, hx, _⟩ => ?_
  obtain rfl : m = 1 := by
    have := congrArg List.length hx
    rwa [List.length_map, List.length_take, Nat.min_eq_left hm] at this
  have hsymbol : (c.drop 1).lexemes = [.symbol s] ++ ls := by
    rw [Cursor.lexemes_drop, hc]
    rfl
  have w := w.drop hm
  refine .first (.skip _ hsymbol ?_ (List.cons_ne_nil _ _)) fun _ _ hn => hf n (w.drop hn)
  rw [List.forall_mem_singleton]
  revert hs
  cases s <;> decide

/-! ### Braces -/

def one (s : Symbol) (_ : α) (ts : List Token) : Prop := ∃ t, ts = [t] ∧ t.lexeme = .symbol s

lemma agrees_eatSymbolExactly (s : Symbol) (h : s ≠ .semicolon) :
    Agrees (exactly (· == .symbol s)) (eatSymbol s) (eatSymbol s) :=
  agrees_eatExactly (beq_eq_false_iff_ne.2 fun e => h (Lexeme.symbol.inj e).symm)

lemma agrees_one (s : Symbol) (h : s ≠ .semicolon) :
    Agrees (one s) (symbol s) (symbol s) := by
  intro c c' k more w
  refine .bindWith (C := fun b _ us => b = true ∧ us = []) ?_ (agrees_eatSymbolExactly s h w)
    fun b n hn _ => ?_
  · rintro _ _ _ _ hts ⟨rfl, rfl⟩
    obtain ⟨t, rfl, ht⟩ := hts
    exact ⟨t, rfl, beq_iff_eq.1 ht⟩
  · cases b with
    | false => exact Agrees.unexpected _ _ _ (w.drop hn)
    | true =>
      rintro _ _ ⟨⟩
      exact ⟨0, Nat.zero_le _, rfl, ⟨rfl, rfl⟩, rfl⟩

/-- The end of what is in parentheses, brackets or braces. -/
lemma agrees_close (s : Symbol) (h : s ≠ .semicolon) :
    Agrees (closed s) (symbol s) (symbol s) := by
  refine (agrees_one s h).mono ?_
  rintro _ _ ⟨t, rfl, ht⟩
  exact ⟨[], t, rfl, .nil, ht⟩

lemma balanced_of_closed {s : Symbol} {a : α} {ts : List Token} (hs : isPlain s = true)
    (h : closed s a ts) : filled a ts := by
  obtain ⟨us, t, rfl, hu, ht⟩ := h
  have hb : t.lexeme.isBrace = false := by
    rw [ht]
    revert hs
    cases s <;> decide
  exact ⟨hu.append (.cons hb .nil), by simp⟩

lemma balanced_of_braces {t : Token} {a : α} {ts : List Token}
    (ht : t.lexeme = .symbol .leftBrace) (h : closed .rightBrace a ts) : Balanced (t :: ts) := by
  obtain ⟨us, u, rfl, hu, hr⟩ := h
  exact .braces ht hr hu .nil

section

variable {p q p' q' : Parser α}

lemma agrees_ifBrace (hp : Agrees (closed .rightBrace) p q) (hp' : Agrees balanced p' q') :
    Agrees balanced (do if ← eatSymbol .leftBrace then p else p')
      (do if ← eatSymbol .leftBrace then q else q') := by
  intro c c' k more w
  refine .bindWith (C := fun b => if b then closed .rightBrace else balanced) ?_
    (agrees_eatSymbolExactly .leftBrace nofun w) fun b n hn _ => ?_
  · rintro (_ | _) a ts us hts hus
    · obtain rfl : ts = [] := hts
      exact hus
    · obtain ⟨t, rfl, ht⟩ := hts
      exact balanced_of_braces (a := a) (beq_iff_eq.1 ht) hus
  · cases b
    · exact hp' (w.drop hn)
    · exact hp (w.drop hn)

lemma agrees_braces (hp : Agrees (closed .rightBrace) p q) :
    Agrees filled (do symbol .leftBrace; p) (do symbol .leftBrace; q) := by
  intro c c' k more w
  refine .bindWith ?_ (agrees_one .leftBrace nofun w) fun _ n hn _ => hp (w.drop hn)
  rintro _ a _ us ⟨t, rfl, ht⟩ hus
  exact ⟨balanced_of_braces ht hus, List.cons_ne_nil _ _⟩

end

/-! ### Repetition -/

section

variable {step step' : α → Parser (Option α)}

/-- There are tokens if the value is another than the first. -/
def grown (a x : α) (ts : List Token) : Prop := Balanced ts ∧ (ts = [] → x = a)

instance (a : α) : Even (grown a) := ⟨And.left⟩

lemma agrees_steps (h : ∀ a, Agrees stepped (step a) (step' a)) (a : α) {c c' : Cursor} {k : Nat}
    {more : List Token} (w : c.Within c' k more) {m n : Nat} (hm : c.rest.length < m)
    (hn : c'.rest.length < n) : AgreesAt (grown a) (steps step m a) (steps step' n a) c c' := by
  induction m generalizing a c c' n with
  | zero => exact absurd hm (Nat.not_lt_zero _)
  | succ m ih =>
    obtain ⟨n, rfl⟩ := Nat.exists_eq_succ_of_ne_zero (Nat.ne_of_gt (Nat.zero_lt_of_lt hn))
    refine .bindWith (C := fun o x us => o.elim (x = a ∧ us = []) fun _ => Balanced us) ?_ (h a w)
      fun o l hl ho => ?_
    · rintro (_ | b) x ts us hts hus
      · obtain ⟨rfl, rfl⟩ := hus
        rw [List.append_nil]
        exact ⟨hts.1, fun _ => rfl⟩
      · exact ⟨hts.1.append hus, fun hnil => absurd (List.append_eq_nil_iff.1 hnil).1 (hts.2 rfl)⟩
    · cases o with
      | none =>
        rintro _ _ ⟨⟩
        exact ⟨0, Nat.zero_le _, rfl, ⟨rfl, rfl⟩, rfl⟩
      | some b =>
        have h0 : l ≠ 0 := by
          rintro rfl
          exact ho.2 rfl (List.take_zero ..)
        have hle := w.length_le
        refine (ih b (w.drop hl) ?_ ?_).mono And.left
        · rw [Cursor.rest_drop, List.length_drop]
          omega
        · rw [Cursor.rest_drop, List.length_drop]
          omega

lemma agrees_iterate (h : ∀ a, Agrees stepped (step a) (step' a)) (a : α) :
    Agrees (grown a) (iterate step a) (iterate step' a) :=
  fun _ _ _ _ w => .get (agrees_steps h a w (Nat.lt_succ_self _) (Nat.lt_succ_self _))

end

section

variable {item item' : Parser α}

/-- Items that each take a token. -/
lemma agrees_manyWhile {test test' : Parser Bool} (ht : Agrees balanced test test')
    (hi : Agrees filled item item') :
    Agrees balanced (manyWhile test item) (manyWhile test' item') :=
  .bind (agrees_iterate (fun _ => .bind ht fun _ =>
    .ite (.first hi fun _ => .pure _) .none) []) fun _ => .pure _

/-- Items behind something that is eaten. -/
lemma agrees_manyEaten {test test' : Parser Bool} (ht : Agrees eaten test test')
    (hi : Agrees balanced item item') :
    Agrees balanced (manyWhile test item) (manyWhile test' item') :=
  .bind (agrees_iterate (fun _ => .ifEaten ht (.bind hi fun _ => .pure _) .none) [])
    fun _ => .pure _

lemma agrees_sepBy {A : α → List Token → Prop} [Even A] (h : Agrees A item item') :
    Agrees balanced (sepBy item) (sepBy item') :=
  .bind h fun _ => .bind (agrees_manyEaten (agrees_eatSymbol .comma rfl) h.even) fun _ => .pure _

lemma agrees_listUntil {A : α → List Token → Prop} [Even A] (close : Symbol)
    (hs : close ≠ .semicolon) (h : Agrees A item item') :
    Agrees (closed close) (listUntil close item) (listUntil close item') := by
  intro c c' k more w
  refine .bindWith (C := fun b xs us => if b then us = [] else closed close xs us) ?_
    (agrees_eatSymbolExactly close hs w) fun b n hn _ => ?_
  · rintro (_ | _) xs ts us hts hus
    · obtain rfl : ts = [] := hts
      exact hus
    · obtain ⟨t, rfl, ht⟩ := hts
      obtain rfl : us = [] := hus
      exact ⟨[], t, rfl, .nil, beq_iff_eq.1 ht⟩
  · cases b with
    | false =>
      have hclose : Agrees (closed close) (do
          let items ← sepBy item
          symbol close
          return items) (do
          let items ← sepBy item'
          symbol close
          return items) :=
        .bind (agrees_sepBy h) fun _ => .andPure (agrees_close close hs) _ id
      exact hclose (w.drop hn)
    | true =>
      rintro _ _ ⟨⟩
      exact ⟨0, Nat.zero_le _, rfl, rfl, rfl⟩

lemma agrees_list {A : α → List Token → Prop} [Even A] (close : Symbol)
    (hs : isPlain close = true) (h : Agrees A item item') :
    Agrees filled (listUntil close item) (listUntil close item') := by
  refine (agrees_listUntil close ?_ h).mono (balanced_of_closed hs)
  rintro rfl
  cases hs

lemma agrees_chainLeft {operator operator' : Parser (Option (α → α → α))}
    (ho : Agrees stepped operator operator') (h : Agrees filled item item') :
    Agrees filled (chainLeft operator item) (chainLeft operator' item') := by
  refine .first h fun first => (agrees_iterate (fun left => ?_) first).even
  exact .ifSome ho (fun f => .bind h fun _ => .pure _) .none

lemma agrees_afterKeyword? {A : α → List Token → Prop} [Even A] (w : String)
    (h : Agrees A item item') : Agrees balanced (afterKeyword? w item) (afterKeyword? w item') :=
  .ifEaten (agrees_eatKeyword w) (.bind h fun _ => .pure _) (.pure _)

lemma agrees_dottedName (what : String) {more more' : Parser Bool}
    (h : Agrees balanced (eatIf more) (eatIf more')) :
    Agrees filled (dottedName what more) (dottedName what more') :=
  .first (agrees_name what) fun _ => .bind (agrees_manyWhile h (agrees_name what)) fun _ => .pure _

end

end Grammar

end Cypher

end PropertyGraph
