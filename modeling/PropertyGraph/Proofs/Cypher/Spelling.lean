import PropertyGraph.Proofs.Cypher.Lines

/-!
How lexemes are spelled.

Each kind of lexeme has its texts, and the scanner takes nothing else for a lexeme. A text may have
others in it, as a name has shorter names, so it depends on what follows how far the scanner goes.
But no lexeme goes on over a blank: a spelled text with a blank or nothing behind it is one lexeme,
and the one that it spells.
-/

namespace PropertyGraph

namespace Cypher

/-! ### Texts -/

structure Digits (ds : List Char) : Prop where
  ne_nil : ds ≠ []
  all : ∀ c ∈ ds, Number.isDigit c = true

/-- The texts of an exponent of ten. -/
inductive Exponent : List Char → Int → Prop
  | unsigned {c : Char} {ds : List Char} : c = 'e' ∨ c = 'E' → Digits ds →
      Exponent (c :: ds) (Number.ofDigits ds)
  | plus {c : Char} {ds : List Char} : c = 'e' ∨ c = 'E' → Digits ds →
      Exponent (c :: '+' :: ds) (Number.ofDigits ds)
  | minus {c : Char} {ds : List Char} : c = 'e' ∨ c = 'E' → Digits ds →
      Exponent (c :: '-' :: ds) (-(Number.ofDigits ds : Int))

/-- A fraction with its point, or nothing. -/
def pointed (ds : List Char) : List Char := if ds.isEmpty then [] else '.' :: ds

structure IsName (cs : List Char) : Prop where
  ne_nil : cs ≠ []
  all : ∀ c ∈ cs, isNameChar c = true
  head : ∀ c ∈ cs.head?, Number.isDigit c = false

/-- The texts between two quotes, and the strings that they stand for. -/
inductive Body (quote : Char) : List Char → List Char → Prop
  | nil : Body quote [] []
  | char {c : Char} {cs vs : List Char} : c ≠ quote → c ≠ '\\' → Body quote cs vs →
      Body quote (c :: cs) (c :: vs)
  | escape {c : Char} {cs vs : List Char} : Body quote cs vs →
      Body quote ('\\' :: c :: cs) (unescape c ++ vs)

/-- The texts of a lexeme. -/
inductive Spells : List Char → Lexeme → Prop
  | number {whole fraction exponent : List Char} {e : Int} : Digits whole →
      fraction = [] ∨ Digits fraction → exponent = [] ∧ e = 0 ∨ Exponent exponent e →
      Spells (whole ++ pointed fraction ++ exponent) (.number (.ofParts false whole fraction e))
  | string {quote : Char} {cs vs : List Char} : quote = '\'' ∨ quote = '"' → Body quote cs vs →
      Spells (quote :: (cs ++ [quote])) (.string (String.ofList vs))
  | parameter {cs : List Char} : IsName cs ∨ Digits cs →
      Spells ('$' :: cs) (.parameter (String.ofList cs))
  | quoted {cs : List Char} : '`' ∉ cs → Spells ('`' :: (cs ++ ['`'])) (.quoted (String.ofList cs))
  | word {cs : List Char} : IsName cs → Spells cs (.word (String.ofList cs))
  | symbol (s : Symbol) : Spells s.chars (.symbol s)

/-- What may follow a lexeme that stands apart: a blank, or nothing. -/
def Apart (rest : List Char) : Prop := ∀ c ∈ rest.head?, isSpace c = true

/-! ### Blanks -/

lemma space_cases {c : Char} (h : isSpace c = true) : c = ' ' ∨ c = '\t' ∨ c = '\r' ∨ c = '\n' := by
  simpa [isSpace, or_assoc] using h

lemma isDigit_of_isSpace {c : Char} (h : isSpace c = true) : Number.isDigit c = false := by
  rcases space_cases h with rfl | rfl | rfl | rfl <;> decide

lemma isNameChar_of_isSpace {c : Char} (h : isSpace c = true) : isNameChar c = false := by
  rcases space_cases h with rfl | rfl | rfl | rfl <;> decide

/-! ### Digits and exponents -/

lemma all_of_span {p : Char → Bool} {cs text rest : List Char} (h : cs.span p = (text, rest)) :
    ∀ c ∈ text, p c = true := by
  rw [List.span_eq_takeWhile_dropWhile] at h
  rw [← (Prod.mk.inj h).1]
  exact List.all_eq_true.1 List.all_takeWhile

lemma digits_of_span {cs ds rest : List Char} {d : Char}
    (h : Number.spanDigits cs = (d :: ds, rest)) : Digits (d :: ds) :=
  ⟨List.cons_ne_nil _ _, all_of_span h⟩

/-- Nothing that digits could go on with. -/
def NoDigit (rest : List Char) : Prop := ∀ c ∈ rest.head?, Number.isDigit c = false

lemma Apart.noDigit {rest : List Char} (h : Apart rest) : NoDigit rest :=
  fun c hc => isDigit_of_isSpace (h c hc)

lemma spanDigits_digits {ds rest : List Char} (hd : Digits ds) (hr : NoDigit rest) :
    Number.spanDigits (ds ++ rest) = (ds, rest) :=
  span_of_all hd.all hr

lemma ofDigits?_digits {ds rest : List Char} (f : List Char → Int) (hd : Digits ds)
    (hr : NoDigit rest) : ofDigits? f (ds ++ rest) = some (f ds, rest) := by
  have hspan := spanDigits_digits hd hr
  obtain ⟨d, ds, rfl⟩ := List.exists_cons_of_ne_nil hd.ne_nil
  rw [ofDigits?, hspan]

lemma exists_digits {f : List Char → Int} {cs : List Char} {r : Int × List Char}
    (h : ofDigits? f cs = some r) : ∃ ds, cs = ds ++ r.2 ∧ Digits ds ∧ f ds = r.1 := by
  rw [ofDigits?] at h
  rcases hs : Number.spanDigits cs with ⟨_ | ⟨d, ds⟩, rest⟩
  · simp [hs] at h
  · obtain rfl : (f (d :: ds), rest) = r := by simpa [hs] using h
    exact ⟨d :: ds, (span_eq hs).symm, digits_of_span hs, rfl⟩

section

variable {c : Char} (hc : c = 'e' ∨ c = 'E')

include hc

lemma exponentPart?_minus (cs : List Char) : Number.exponentPart? (c :: '-' :: cs) =
    ofDigits? (fun ds => -(Number.ofDigits ds : Int)) cs := by
  rw [Number.exponentPart?, if_pos (by simpa using hc)]
  rfl

lemma exponentPart?_plus (cs : List Char) : Number.exponentPart? (c :: '+' :: cs) =
    ofDigits? (fun ds => Number.ofDigits ds) cs := by
  rw [Number.exponentPart?, if_pos (by simpa using hc)]
  rfl

lemma exponentPart?_unsigned {cs : List Char} (hcs : ∀ d ∈ cs.head?, d ≠ '-' ∧ d ≠ '+') :
    Number.exponentPart? (c :: cs) = ofDigits? (fun ds => Number.ofDigits ds) cs := by
  rw [Number.exponentPart?, if_pos (by simpa using hc)]
  · rfl
  · rintro ds rfl
    exact (hcs '-' rfl).1 rfl
  · rintro ds rfl
    exact (hcs '+' rfl).2 rfl

end

lemma Exponent.exponentPart? {text rest : List Char} {e : Int} (h : Exponent text e)
    (hr : NoDigit rest) : Number.exponentPart? (text ++ rest) = some (e, rest) := by
  cases h with
  | @unsigned c ds hc hd =>
    have hsign : ∀ d ∈ (ds ++ rest).head?, d ≠ '-' ∧ d ≠ '+' := by
      obtain ⟨d, ds, rfl⟩ := List.exists_cons_of_ne_nil hd.ne_nil
      have hdigit := hd.all d List.mem_cons_self
      rintro _ ⟨⟩
      constructor <;> rintro rfl <;> exact absurd hdigit (by decide)
    rw [List.cons_append, exponentPart?_unsigned hc hsign, ofDigits?_digits _ hd hr]
  | plus hc hd =>
    rw [List.cons_append, List.cons_append, exponentPart?_plus hc, ofDigits?_digits _ hd hr]
  | minus hc hd =>
    rw [List.cons_append, List.cons_append, exponentPart?_minus hc, ofDigits?_digits _ hd hr]

lemma exists_exponent {cs : List Char} {r : Int × List Char}
    (h : Number.exponentPart? cs = some r) : ∃ text, cs = text ++ r.2 ∧ Exponent text r.1 := by
  rcases cs with _ | ⟨c, cs⟩
  · cases h
  have hc : c = 'e' ∨ c = 'E' := by
    by_contra hc
    rw [Number.exponentPart?.eq_def] at h
    dsimp only at h
    rw [if_neg (by simpa using hc)] at h
    cases h
  rcases cs with _ | ⟨d, cs⟩
  · rw [exponentPart?_unsigned hc (by simp)] at h
    cases h
  by_cases hm : d = '-'
  · subst hm
    rw [exponentPart?_minus hc] at h
    obtain ⟨ds, rfl, hd, he⟩ := exists_digits h
    exact ⟨c :: '-' :: ds, rfl, he ▸ .minus hc hd⟩
  by_cases hp : d = '+'
  · subst hp
    rw [exponentPart?_plus hc] at h
    obtain ⟨ds, rfl, hd, he⟩ := exists_digits h
    exact ⟨c :: '+' :: ds, rfl, he ▸ .plus hc hd⟩
  · rw [exponentPart?_unsigned hc (by rintro _ ⟨⟩; exact ⟨hm, hp⟩)] at h
    obtain ⟨ds, hcs, hd, he⟩ := exists_digits h
    exact ⟨c :: ds, by rw [hcs, List.cons_append], he ▸ .unsigned hc hd⟩

lemma exponentPart?_apart {rest : List Char} (h : Apart rest) :
    Number.exponentPart? rest = none := by
  cases rest with
  | nil => rfl
  | cons c cs => rcases space_cases (h c rfl) with rfl | rfl | rfl | rfl <;> rfl

/-! ### Numbers -/

section

variable {whole fraction exponent rest : List Char} {e : Int}

/-- The end of a number: an exponent or nothing, and what follows. -/
structure Ends (exponent : List Char) (e : Int) (rest : List Char) : Prop where
  part : (Number.exponentPart? (exponent ++ rest)).getD (0, exponent ++ rest) = (e, rest)
  text : exponentText (exponent ++ rest) = exponent
  noDigit : NoDigit (exponent ++ rest)
  noPoint : '.' ∉ (exponent ++ rest).head?

lemma ends_of_apart (he : exponent = [] ∧ e = 0 ∨ Exponent exponent e) (hr : Apart rest) :
    Ends exponent e rest := by
  have hpart :
      (Number.exponentPart? (exponent ++ rest)).getD (0, exponent ++ rest) = (e, rest) := by
    rcases he with ⟨rfl, rfl⟩ | he
    · rw [List.nil_append, exponentPart?_apart hr]
      rfl
    · rw [he.exponentPart? hr.noDigit]
      rfl
  have htext := exponentText_append (exponent ++ rest)
  rw [hpart] at htext
  refine ⟨hpart, List.append_cancel_right htext, ?_, ?_⟩
  · rcases he with ⟨rfl, -⟩ | (⟨hc, -⟩ | ⟨hc, -⟩ | ⟨hc, -⟩)
    · exact hr.noDigit
    all_goals rintro d ⟨⟩
    all_goals rcases hc with rfl | rfl <;> decide
  · rcases he with ⟨rfl, -⟩ | (⟨hc, -⟩ | ⟨hc, -⟩ | ⟨hc, -⟩)
    · exact fun h => absurd (hr '.' h) (by decide)
    all_goals rintro ⟨⟩
    all_goals rcases hc with hc | hc <;> exact absurd hc (by decide)

/-- A number is read up to where its exponent ends. -/
lemma number?_of_ends (hw : Digits whole) (hf : fraction = [] ∨ Digits fraction)
    (he : Ends exponent e rest) :
    number? (whole ++ pointed fraction ++ exponent ++ rest) =
      some ⟨.number (.ofParts false whole fraction e), whole ++ pointed fraction ++ exponent,
        rest⟩ := by
  have htail : NoDigit (pointed fraction ++ (exponent ++ rest)) := by
    rw [pointed]
    split_ifs
    · exact he.noDigit
    · rintro c ⟨⟩
      decide
  have hspan := spanDigits_digits hw htail
  obtain ⟨w, ws, rfl⟩ := List.exists_cons_of_ne_nil hw.ne_nil
  rw [List.append_assoc, List.append_assoc, number?, hspan]
  rcases hf with rfl | hf
  · -- no point follows, so there is no fraction
    obtain ⟨hpart, htext, -, hpoint⟩ := he
    generalize exponent ++ rest = more at hpart htext hpoint ⊢
    cases more with
    | nil => simp [pointed, hpart, htext]
    | cons c cs =>
      have hc : c ≠ '.' := fun h => hpoint (by simp [h])
      simp [pointed, hc, hpart, htext]
  · have hspan := spanDigits_digits hf he.noDigit
    obtain ⟨f, fs, rfl⟩ := List.exists_cons_of_ne_nil hf.ne_nil
    rw [List.cons_append] at hspan
    simp [pointed, hspan, he.part, he.text]

lemma spells_of_number? {cs : List Char} {s : Scanned} (h : number? cs = some s) :
    Spells s.text s.lexeme := by
  have hexponent (ds : List Char) :
      exponentText ds = [] ∧ ((Number.exponentPart? ds).getD (0, ds)).1 = 0 ∨
        Exponent (exponentText ds) ((Number.exponentPart? ds).getD (0, ds)).1 := by
    cases hp : Number.exponentPart? ds with
    | none => exact .inl ⟨by rw [exponentText, hp], rfl⟩
    | some r =>
      obtain ⟨text, hds, htext⟩ := exists_exponent hp
      have happend := exponentText_append ds
      rw [hp, Option.getD_some] at happend
      have hcancel : exponentText ds = text := List.append_cancel_right (happend.trans hds)
      rw [hcancel]
      exact .inr htext
  rw [number?] at h
  rcases hw : Number.spanDigits cs with ⟨_ | ⟨w, ws⟩, rest⟩
  · simp [hw] at h
  have hwhole := digits_of_span hw
  rw [hw] at h
  have hread (fraction ds : List Char) (hf : fraction = [] ∨ Digits fraction)
      (hs : s = ⟨.number (.ofParts false (w :: ws) fraction
          ((Number.exponentPart? ds).getD (0, ds)).1),
        w :: ws ++ pointed fraction ++ exponentText ds,
        ((Number.exponentPart? ds).getD (0, ds)).2⟩) : Spells s.text s.lexeme := by
    subst hs
    exact .number hwhole hf (hexponent ds)
  rcases rest with _ | ⟨d, more⟩
  · exact hread [] [] (.inl rfl) (by simpa [pointed] using h.symm)
  by_cases hd : d = '.'
  · subst hd
    rcases hf : Number.spanDigits more with ⟨_ | ⟨f, fs⟩, rest⟩
    · exact hread [] ('.' :: more) (.inl rfl) (by simpa [hf, pointed] using h.symm)
    · exact hread (f :: fs) rest (.inr (digits_of_span hf)) (by simpa [hf, pointed] using h.symm)
  · exact hread [] (d :: more) (.inl rfl) (by simpa [hd, pointed] using h.symm)

end

/-! ### Strings -/

lemma Body.stringBody? {quote : Char} {cs vs : List Char} (h : Body quote cs vs)
    (hq : quote ≠ '\\') (rest : List Char) :
    stringBody? quote (cs ++ quote :: rest) = some (vs, cs ++ [quote], rest) := by
  induction h with
  | nil =>
    rw [List.nil_append, stringBody?.eq_def]
    simp
  | @char c cs vs hc he _ ih =>
    rw [List.cons_append, stringBody?.eq_def]
    simp [hc, he, ih]
  | @escape c cs vs _ ih =>
    rw [List.cons_append, List.cons_append, stringBody?.eq_def]
    simp [hq.symm, ih]

lemma body_of_stringBody? {quote : Char} {cs : List Char} {r : List Char × List Char × List Char}
    (h : stringBody? quote cs = some r) :
    ∃ body, r.2.1 = body ++ [quote] ∧ Body quote body r.1 := by
  fun_induction stringBody? quote cs generalizing r with
  | case1 => cases h
  | case2 cs =>
    cases h
    exact ⟨[], rfl, .nil⟩
  | case3 => cases h
  | case4 e cs _ ih =>
    obtain ⟨q, hq, rfl⟩ := Option.map_eq_some_iff.1 h
    obtain ⟨body, htext, hbody⟩ := ih hq
    exact ⟨'\\' :: e :: body, by simp [htext], .escape hbody⟩
  | case5 c cs hc he ih =>
    obtain ⟨q, hq, rfl⟩ := Option.map_eq_some_iff.1 h
    obtain ⟨body, htext, hbody⟩ := ih hq
    exact ⟨c :: body, by simp [htext], .char hc he hbody⟩

/-! ### Names -/

section

variable {cs rest : List Char}

lemma IsName.name? (h : IsName cs) (hr : Apart rest) : name? (cs ++ rest) = some (cs, rest) := by
  have hspan : (cs ++ rest).span isNameChar = (cs, rest) :=
    span_of_all h.all fun c hc => isNameChar_of_isSpace (hr c hc)
  obtain ⟨c, cs, rfl⟩ := List.exists_cons_of_ne_nil h.ne_nil
  have hc : Number.isDigit c = false := h.head c rfl
  rw [Cypher.name?, hspan]
  simp only [hc, Bool.false_eq_true, if_false]

lemma isName_of_name? {r : List Char × List Char} (h : name? cs = some r) : IsName r.1 := by
  rw [name?] at h
  split at h
  · cases h
  · rename_i hspan
    split_ifs at h with hc
    cases h
    refine ⟨List.cons_ne_nil _ _, all_of_span hspan, ?_⟩
    rintro d ⟨⟩
    exact Bool.eq_false_iff.2 hc

lemma name?_digit {d : Char} (hd : Number.isDigit d = true) : name? (d :: cs) = none := by
  rw [name?]
  split
  · rfl
  · rename_i hspan
    obtain ⟨rfl, -⟩ := List.cons.inj (span_eq hspan)
    rw [if_pos hd]

lemma Digits.digits? (h : Digits cs) (hr : NoDigit rest) :
    digits? (cs ++ rest) = some (cs, rest) := by
  have hspan := spanDigits_digits h hr
  obtain ⟨d, ds, rfl⟩ := List.exists_cons_of_ne_nil h.ne_nil
  rw [Cypher.digits?, hspan]

lemma digits_of_digits? {r : List Char × List Char} (h : digits? cs = some r) : Digits r.1 := by
  rw [digits?] at h
  rcases hs : Number.spanDigits cs with ⟨_ | ⟨d, ds⟩, rest⟩
  · simp [hs] at h
  · obtain rfl : (d :: ds, rest) = r := by simpa [hs] using h
    exact digits_of_span hs

lemma parameter?_of_name (h : IsName cs ∨ Digits cs) (hr : Apart rest) :
    parameter? ('$' :: cs ++ rest) =
      some ⟨.parameter (String.ofList cs), '$' :: cs, rest⟩ := by
  have hname : (name? (cs ++ rest) <|> digits? (cs ++ rest)) = some (cs, rest) := by
    rcases h with h | h
    · rw [h.name? hr]
      rfl
    · have hdigits := h.digits? hr.noDigit
      obtain ⟨d, ds, rfl⟩ := List.exists_cons_of_ne_nil h.ne_nil
      rw [hdigits, List.cons_append, name?_digit (h.all d List.mem_cons_self)]
      rfl
  rw [List.cons_append, parameter?, hname]
  rfl

lemma quoted?_of_name (h : '`' ∉ cs) (rest : List Char) :
    quoted? ('`' :: (cs ++ ['`']) ++ rest) =
      some ⟨.quoted (String.ofList cs), '`' :: (cs ++ ['`']), rest⟩ := by
  have hspan : (cs ++ '`' :: rest).span (· != '`') = (cs, '`' :: rest) :=
    span_of_all (fun c hc => bne_iff_ne.2 fun e => h (e ▸ hc)) (by simp)
  simp only [List.cons_append, List.append_assoc, List.nil_append, quoted?, hspan]

end

/-! ### Lexemes -/

lemma number?_none {c : Char} (hc : Number.isDigit c = false) (cs : List Char) :
    number? (c :: cs) = none := by
  rw [number?, Number.spanDigits, span_cons_of_neg hc]

lemma parameter?_none {c : Char} (hc : c ≠ '$') (cs : List Char) : parameter? (c :: cs) = none := by
  simp [parameter?, hc]

lemma not_quote_of_isNameChar {c : Char} (h : isNameChar c = true) : isQuote c = false := by
  refine Bool.eq_false_iff.2 fun hq => ?_
  rcases quote_cases hq with rfl | rfl | rfl <;> exact absurd h (by decide)

/-- **A spelled text that stands apart is scanned as a whole**, and for the lexeme that it
spells. -/
theorem scan?_of_spells {text rest : List Char} {l : Lexeme} (h : Spells text l)
    (hr : Apart rest) : scan? (text ++ rest) = some ⟨l, text, rest⟩ := by
  cases h with
  | number hw hf he =>
    rw [scan?, number?_of_ends hw hf (ends_of_apart he hr)]
    rfl
  | @string quote cs vs hq hb =>
    have hs : string? (quote :: (cs ++ [quote]) ++ rest) =
        some ⟨.string (String.ofList vs), quote :: (cs ++ [quote]), rest⟩ := by
      have hbody := hb.stringBody? (by rcases hq with rfl | rfl <;> decide) rest
      simp [string?, hq, hbody]
    rw [List.cons_append] at hs ⊢
    rw [scan?_quote (by rcases hq with rfl | rfl <;> rfl), hs]
    rfl
  | @parameter cs hn =>
    have hp := parameter?_of_name hn hr
    rw [List.cons_append] at hp ⊢
    rw [scan?_not_quote (by decide), number?_none (by decide), hp]
    rfl
  | @quoted cs hn =>
    have hq := quoted?_of_name hn rest
    rw [List.cons_append] at hq ⊢
    rw [scan?_quote (by decide), hq]
    rfl
  | word hn =>
    have hname := hn.name? hr
    obtain ⟨c, cs, rfl⟩ := List.exists_cons_of_ne_nil hn.ne_nil
    have hc := hn.all c List.mem_cons_self
    have hd : c ≠ '$' := by
      rintro rfl
      exact absurd hc (by decide)
    rw [List.cons_append] at hname ⊢
    rw [scan?_not_quote (not_quote_of_isNameChar hc), number?_none (hn.head c rfl),
      parameter?_none hd, word?, hname]
    rfl
  | symbol s =>
    cases rest with
    | nil => cases s <;> rfl
    | cons c cs => rcases space_cases (hr c rfl) with rfl | rfl | rfl | rfl <;> cases s <;> rfl

/-- **What is scanned for a lexeme spells it.** -/
theorem spells_of_scan? {cs : List Char} {s : Scanned} (h : scan? cs = some s) :
    Spells s.text s.lexeme := by
  simp only [scan?, Option.orElse_eq_some] at h
  rcases h with h | ⟨-, h | ⟨-, h | ⟨-, h | ⟨-, h | ⟨-, h⟩⟩⟩⟩⟩
  · exact spells_of_number? h
  · rw [string?.eq_def] at h
    split at h
    · cases h
    · split_ifs at h with hq
      obtain ⟨r, hr, rfl⟩ := Option.map_eq_some_iff.1 h
      obtain ⟨body, htext, hbody⟩ := body_of_stringBody? hr
      rw [htext]
      exact .string (by simpa using hq) hbody
  · rw [parameter?.eq_def] at h
    split at h
    · obtain ⟨r, hr, rfl⟩ := Option.map_eq_some_iff.1 h
      refine .parameter ?_
      rcases (Option.orElse_eq_some ..).1 hr with hr | ⟨-, hr⟩
      · exact .inl (isName_of_name? hr)
      · exact .inr (digits_of_digits? hr)
    · cases h
  · rw [quoted?.eq_def] at h
    split at h
    · split at h
      · rename_i text c rest hspan
        cases h
        obtain rfl : c = '`' := by simpa using span_head hspan c rfl
        exact .quoted fun hmem => by simpa using all_of_span hspan '`' hmem
      · cases h
    · cases h
  · obtain ⟨r, hr, rfl⟩ := Option.map_eq_some_iff.1 h
    exact .word (isName_of_name? hr)
  · obtain ⟨s, -, rfl⟩ := Option.map_eq_some_iff.1 h
    exact .symbol s

/-- A spelled text starts with no blank, and with a slash only if it is one. -/
lemma Spells.solid {text : List Char} {l : Lexeme} (h : Spells text l) :
    ∃ c cs, text = c :: cs ∧ isSpace c = false ∧ (c = '/' → cs = []) := by
  have name {c : Char} {cs : List Char} (hc : isNameChar c = true) :
      isSpace c = false ∧ (c = '/' → cs = []) := by
    refine ⟨Bool.eq_false_iff.2 fun hs => ?_, ?_⟩
    · rw [isNameChar_of_isSpace hs] at hc
      cases hc
    · rintro rfl
      exact absurd hc (by decide)
  cases h with
  | number hw hf he =>
    obtain ⟨d, ds, rfl⟩ := List.exists_cons_of_ne_nil hw.ne_nil
    have hd := hw.all d List.mem_cons_self
    refine ⟨d, _, rfl, Bool.eq_false_iff.2 fun hs => ?_, ?_⟩
    · rw [isDigit_of_isSpace hs] at hd
      cases hd
    · rintro rfl
      exact absurd hd (by decide)
  | string hq _ => exact ⟨_, _, rfl, by rcases hq with rfl | rfl <;> exact ⟨by decide, by simp⟩⟩
  | parameter | quoted => exact ⟨_, _, rfl, by decide, by simp⟩
  | word hn =>
    obtain ⟨c, cs, rfl⟩ := List.exists_cons_of_ne_nil hn.ne_nil
    exact ⟨c, cs, rfl, name (hn.all c List.mem_cons_self)⟩
  | symbol s => cases s <;> exact ⟨_, _, rfl, by decide, by simp⟩

/-- Neither a blank nor a comment stands in front of a spelled text. -/
lemma trivia?_of_spells {text rest : List Char} {l : Lexeme} (h : Spells text l)
    (hr : Apart rest) : trivia? (text ++ rest) = none ∧ ¬ ['/', '*'] <+: text ++ rest := by
  obtain ⟨c, cs, rfl, hc, hslash⟩ := h.solid
  rw [List.cons_append, trivia?_not_space hc]
  by_cases hs : c = '/'
  · subst hs
    obtain rfl := hslash rfl
    cases rest with
    | nil => exact ⟨rfl, by simp⟩
    | cons d ds => rcases space_cases (hr d rfl) with rfl | rfl | rfl | rfl <;> exact ⟨rfl, by simp⟩
  · refine ⟨by rw [lineComment?_cons hs, blockComment?_cons hs]; rfl, ?_⟩
    rintro ⟨more, hmore⟩
    exact hs (List.cons.inj hmore).1.symm

end Cypher

end PropertyGraph
