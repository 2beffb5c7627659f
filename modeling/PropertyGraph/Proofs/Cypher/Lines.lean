import PropertyGraph.Proofs.Cypher.Scan

/-!
The tokens of a text with a line feed and more behind it. No scanner takes that line feed unless
it runs into the end of the text without it, so the tokens of the text are found again, and what is
behind the line feed is cut as if it stood alone.

There is one exception. Two slashes start a comment if their line ends at the end of the text or at
a line feed, with or without a carriage return before it, but not if it ends with a carriage return
at the end of the text. So a line feed behind that one makes a comment of the line.
-/

namespace PropertyGraph

namespace Cypher

section

variable (us : List Char)

/-! ### Single tokens -/

lemma span_line {p : Char → Bool} (hp : p '\n' = false) (cs : List Char) :
    (cs ++ '\n' :: us).span p = ((cs.span p).1, (cs.span p).2 ++ '\n' :: us) := by
  refine span_append_of_head fun c hc => ?_
  rcases hs : cs.span p with ⟨text, _ | ⟨d, rest⟩⟩
  · rw [hs] at hc
    cases hc
    exact hp
  · rw [hs] at hc
    cases hc
    exact span_head hs c rfl

/-- With more text behind it. -/
def Scanned.before (s : Scanned) : Scanned := { s with rest := s.rest ++ '\n' :: us }

lemma spanDigits_line (cs : List Char) : Number.spanDigits (cs ++ '\n' :: us) =
    ((Number.spanDigits cs).1, (Number.spanDigits cs).2 ++ '\n' :: us) :=
  span_line us (by decide) cs

/-- What is made of the digits in front, if there are any. -/
def ofDigits? (f : List Char → Int) (cs : List Char) : Option (Int × List Char) :=
  match Number.spanDigits cs with
  | ([], _) => none
  | (ds, rest) => some (f ds, rest)

lemma ofDigits?_line (f : List Char → Int) (cs : List Char) : ofDigits? f (cs ++ '\n' :: us) =
    (ofDigits? f cs).map fun r => (r.1, r.2 ++ '\n' :: us) := by
  rw [ofDigits?, ofDigits?, spanDigits_line]
  rcases Number.spanDigits cs with ⟨_ | _, _⟩ <;> rfl

lemma exponentPart?_line (cs : List Char) : Number.exponentPart? (cs ++ '\n' :: us) =
    (Number.exponentPart? cs).map fun r => (r.1, r.2 ++ '\n' :: us) := by
  rw [Number.exponentPart?.eq_def, Number.exponentPart?.eq_def cs]
  cases cs with
  | nil => rfl
  | cons c cs =>
    rw [List.cons_append]
    dsimp only
    by_cases hc : (c = 'e' || c = 'E') = true
    · rw [if_pos hc, if_pos hc]
      -- the line feed is no sign
      rcases cs with _ | ⟨d, cs⟩
      · exact ofDigits?_line us (fun ds => Number.ofDigits ds) []
      by_cases hm : d = '-'
      · subst hm
        exact ofDigits?_line us _ cs
      by_cases hp : d = '+'
      · subst hp
        exact ofDigits?_line us _ cs
      simp only [List.cons_append, List.cons.injEq, hm, hp, false_and, imp_self, implies_true]
      exact ofDigits?_line us (fun ds => Number.ofDigits ds) (d :: cs)
    · rw [if_neg hc, if_neg hc]
      rfl

lemma exponentText_line (cs : List Char) :
    exponentText (cs ++ '\n' :: us) = exponentText cs := by
  rw [exponentText, exponentText, exponentPart?_line]
  cases h : Number.exponentPart? cs with
  | none => rfl
  | some r =>
    have hle := (exponentPart?_eq_some h).length_le
    have hlen : (cs ++ '\n' :: us).length - (r.2 ++ '\n' :: us).length =
        cs.length - r.2.length := by
      simp only [List.length_append]
      omega
    simp only [Option.map_some, hlen]
    exact List.take_append_of_le_length (Nat.sub_le ..)

lemma number?_line (cs : List Char) :
    number? (cs ++ '\n' :: us) = (number? cs).map (·.before us) := by
  let finish (whole fraction ds : List Char) (r : Int × List Char) : Option Scanned :=
    some
      { lexeme := .number (.ofParts false whole fraction r.1)
        text := whole ++ (if fraction.isEmpty then [] else ['.']) ++ fraction ++ exponentText ds
        rest := r.2 }
  have hfinish (whole fraction ds : List Char) :
      finish whole fraction (ds ++ '\n' :: us)
          ((Number.exponentPart? (ds ++ '\n' :: us)).getD (0, ds ++ '\n' :: us)) =
        (finish whole fraction ds ((Number.exponentPart? ds).getD (0, ds))).map (·.before us) := by
    simp only [finish, exponentPart?_line, exponentText_line]
    cases Number.exponentPart? ds <;> rfl
  rw [number?, number?, spanDigits_line]
  rcases Number.spanDigits cs with ⟨_ | ⟨w, ws⟩, rest⟩
  · rfl
  rcases rest with _ | ⟨d, more⟩
  · exact hfinish (w :: ws) [] []
  by_cases hd : d = '.'
  · subst hd
    simp only [List.cons_append, spanDigits_line]
    rcases Number.spanDigits more with ⟨_ | ⟨f, fs⟩, rest⟩
    · exact hfinish (w :: ws) [] ('.' :: more)
    · exact hfinish (w :: ws) (f :: fs) rest
  · simp only [List.cons_append, List.cons.injEq, hd, false_and, imp_self, implies_true]
    exact hfinish (w :: ws) [] (d :: more)

lemma stringBody?_line {quote : Char} {cs : List Char} {r : List Char × List Char × List Char}
    (h : stringBody? quote cs = some r) :
    stringBody? quote (cs ++ '\n' :: us) = some (r.1, r.2.1, r.2.2 ++ '\n' :: us) := by
  fun_induction stringBody? quote cs generalizing r with
  | case1 => cases h
  | case2 cs =>
    cases h
    rw [List.cons_append, stringBody?.eq_def]
    simp only [if_true]
  | case3 => cases h
  | case4 e cs hq ih =>
    obtain ⟨q, hr, rfl⟩ := Option.map_eq_some_iff.1 h
    rw [List.cons_append, List.cons_append, stringBody?, if_neg hq, if_pos rfl]
    simp only [ih hr]
    rfl
  | case5 c cs hq he ih =>
    obtain ⟨q, hr, rfl⟩ := Option.map_eq_some_iff.1 h
    rw [List.cons_append, stringBody?.eq_def]
    simp only [if_neg hq, if_neg he, ih hr]
    rfl

lemma string?_line {cs : List Char} {s : Scanned} (h : string? cs = some s) :
    string? (cs ++ '\n' :: us) = some (s.before us) := by
  cases cs with
  | nil => cases h
  | cons q cs =>
    rw [string?] at h
    split_ifs at h with hq
    obtain ⟨r, hr, rfl⟩ := Option.map_eq_some_iff.1 h
    rw [List.cons_append, string?, if_pos hq, stringBody?_line us hr]
    rfl

lemma name?_line (cs : List Char) :
    name? (cs ++ '\n' :: us) = (name? cs).map fun r => (r.1, r.2 ++ '\n' :: us) := by
  rw [name?, name?, span_line us (by decide)]
  rcases cs.span isNameChar with ⟨_ | ⟨c, text⟩, rest⟩
  · rfl
  · dsimp only
    split_ifs <;> rfl

lemma digits?_line (cs : List Char) :
    digits? (cs ++ '\n' :: us) = (digits? cs).map fun r => (r.1, r.2 ++ '\n' :: us) := by
  rw [digits?, digits?, spanDigits_line]
  rcases Number.spanDigits cs with ⟨_ | ⟨c, text⟩, rest⟩ <;> rfl

lemma parameter?_line (cs : List Char) :
    parameter? (cs ++ '\n' :: us) = (parameter? cs).map (·.before us) := by
  rcases cs with _ | ⟨c, cs⟩
  · rfl
  by_cases hc : c = '$'
  · subst hc
    rw [List.cons_append, parameter?, parameter?, name?_line, digits?_line]
    cases name? cs
    · cases digits? cs <;> rfl
    · rfl
  · simp [parameter?, hc]

lemma quoted?_line {cs : List Char} {s : Scanned} (h : quoted? cs = some s) :
    quoted? (cs ++ '\n' :: us) = some (s.before us) := by
  rw [quoted?.eq_def] at h
  split at h
  · rename_i cs
    rw [List.cons_append, quoted?]
    split at h
    · rename_i text c rest heq
      cases h
      have hc : c = '`' := by simpa using span_head heq c rfl
      rw [span_append_of_head (by rw [heq]; simp [hc]), heq]
      rfl
    · cases h
  · cases h

lemma word?_line (cs : List Char) :
    word? (cs ++ '\n' :: us) = (word? cs).map (·.before us) := by
  rw [word?, word?, name?_line]
  cases name? cs <;> rfl

lemma isPrefixOf_line {cs : List Char} (hcs : '\n' ∉ cs) (ds : List Char) :
    cs.isPrefixOf (ds ++ '\n' :: us) = cs.isPrefixOf ds := by
  induction cs generalizing ds with
  | nil => rfl
  | cons c cs ih =>
    rw [List.mem_cons, not_or] at hcs
    cases ds with
    | nil => simp [List.isPrefixOf, Ne.symm hcs.1]
    | cons d ds => rw [List.cons_append, List.isPrefixOf, List.isPrefixOf, ih hcs.2]

lemma symbol?_line (cs : List Char) :
    symbol? (cs ++ '\n' :: us) = (symbol? cs).map (·.before us) := by
  have hfind : (fun s : Symbol => s.chars.isPrefixOf (cs ++ '\n' :: us)) =
      fun s => s.chars.isPrefixOf cs :=
    funext fun s => isPrefixOf_line us (by cases s <;> decide) cs
  rw [symbol?, symbol?, hfind]
  cases h : Symbol.all.find? fun s => s.chars.isPrefixOf cs with
  | none => rfl
  | some s =>
    have hpre := List.find?_some h
    have hle := (List.isPrefixOf_iff_prefix.1 hpre).length_le
    simp only [Option.map_some, Scanned.before]
    rw [List.drop_append_of_le_length hle]

/-! ### The next token -/

/-- The characters that strings and quoted names start with. -/
def isQuote (c : Char) : Bool := c == '\'' || c == '"' || c == '`'

lemma quote_cases {c : Char} (h : isQuote c = true) : c = '\'' ∨ c = '"' ∨ c = '`' := by
  simpa [isQuote, or_assoc] using h

lemma span_cons_of_neg {p : Char → Bool} {c : Char} (hc : p c = false) (cs : List Char) :
    (c :: cs).span p = ([], c :: cs) :=
  @span_of_all p [] (c :: cs) nofun (by simpa using hc)

lemma number?_quote {c : Char} (h : isQuote c = true) (cs : List Char) :
    number? (c :: cs) = none := by
  have hc : Number.isDigit c = false := by rcases quote_cases h with rfl | rfl | rfl <;> decide
  rw [number?, Number.spanDigits, span_cons_of_neg hc]

lemma parameter?_quote {c : Char} (h : isQuote c = true) (cs : List Char) :
    parameter? (c :: cs) = none := by
  rcases quote_cases h with rfl | rfl | rfl <;> rfl

lemma word?_quote {c : Char} (h : isQuote c = true) (cs : List Char) :
    word? (c :: cs) = none := by
  have hc : isNameChar c = false := by rcases quote_cases h with rfl | rfl | rfl <;> decide
  rw [word?, name?, span_cons_of_neg hc]
  rfl

lemma symbol?_quote {c : Char} (h : isQuote c = true) (cs : List Char) :
    symbol? (c :: cs) = none := by
  rcases quote_cases h with rfl | rfl | rfl <;> rfl

lemma string?_not_quote {c : Char} (h : isQuote c = false) (cs : List Char) :
    string? (c :: cs) = none := by
  simp only [isQuote, Bool.or_eq_false_iff, beq_eq_false_iff_ne] at h
  rw [string?, if_neg (by simp [h.1.1, h.1.2])]

lemma quoted?_not_quote {c : Char} (h : isQuote c = false) (cs : List Char) :
    quoted? (c :: cs) = none := by
  simp only [isQuote, Bool.or_eq_false_iff, beq_eq_false_iff_ne] at h
  simp [quoted?, h.2]

lemma scan?_quote {c : Char} (h : isQuote c = true) (cs : List Char) :
    scan? (c :: cs) = (string? (c :: cs) <|> quoted? (c :: cs)) := by
  rw [scan?, number?_quote h, parameter?_quote h, word?_quote h, symbol?_quote h]
  cases string? (c :: cs) <;> cases quoted? (c :: cs) <;> rfl

lemma scan?_not_quote {c : Char} (h : isQuote c = false) (cs : List Char) :
    scan? (c :: cs) =
      (number? (c :: cs) <|> parameter? (c :: cs) <|> word? (c :: cs) <|> symbol? (c :: cs)) := by
  rw [scan?, string?_not_quote h, quoted?_not_quote h]
  rfl

/-- **The first token of a text is found as well with a line feed and more behind the text.** -/
theorem scan?_line {cs : List Char} {s : Scanned} (h : scan? cs = some s) :
    scan? (cs ++ '\n' :: us) = some (s.before us) := by
  rcases cs with _ | ⟨c, cs⟩
  · cases h
  rw [List.cons_append]
  cases hc : isQuote c with
  | true =>
    rw [scan?_quote hc] at h ⊢
    rcases (Option.orElse_eq_some ..).1 h with h | ⟨hs, h⟩
    · exact (Option.orElse_eq_some ..).2 (.inl (string?_line us h))
    · refine (Option.orElse_eq_some ..).2 (.inr ⟨?_, quoted?_line us h⟩)
      rcases quote_cases hc with rfl | rfl | rfl
      · cases h
      · cases h
      · rfl
  | false =>
    rw [scan?_not_quote hc] at h ⊢
    rw [← List.cons_append, number?_line, parameter?_line, word?_line, symbol?_line]
    have hline := congrArg (Option.map (·.before us)) h
    revert hline
    cases number? (c :: cs) <;> cases parameter? (c :: cs) <;> cases word? (c :: cs) <;>
      exact id

/-! ### Blanks and comments -/

lemma trivia?_space {c : Char} (hc : isSpace c = true) (cs : List Char) :
    trivia? (c :: cs) = some (c :: (cs.span isSpace).1, (cs.span isSpace).2) := by
  have hspan : (c :: cs).span isSpace = (c :: (cs.span isSpace).1, (cs.span isSpace).2) := by
    simp only [List.span_eq_takeWhile_dropWhile, List.takeWhile_cons_of_pos hc,
      List.dropWhile_cons_of_pos hc]
  rw [trivia?, hspan]

lemma trivia?_not_space {c : Char} (hc : isSpace c = false) (cs : List Char) :
    trivia? (c :: cs) = (lineComment? (c :: cs) <|> blockComment? (c :: cs)) := by
  rw [trivia?, span_cons_of_neg hc]

lemma lineComment?_line {cs text rest : List Char} (h : lineComment? cs = some (text, rest)) :
    lineComment? (cs ++ '\n' :: us) = some (text, rest ++ '\n' :: us) := by
  rw [lineComment?.eq_def] at h
  split at h
  · rename_i cs
    simp only [List.cons_append, lineComment?,
      span_line us (p := fun c => c != '\n' && c != '\r') rfl]
    dsimp only at h
    split at h
    · rename_i heq
      cases h
      rw [heq]
      rfl
    · rename_i heq
      cases h
      rw [heq]
      rfl
    · rename_i heq
      cases h
      rw [heq]
      rfl
    · cases h
  · cases h

lemma splitAfterClose?_line {cs : List Char} {r : List Char × List Char}
    (h : splitAfterClose? cs = some r) :
    splitAfterClose? (cs ++ '\n' :: us) = some (r.1, r.2 ++ '\n' :: us) := by
  fun_induction splitAfterClose? cs generalizing r with
  | case1 rest =>
    cases h
    rfl
  | case2 c rest hne ih =>
    obtain ⟨q, hq, rfl⟩ := Option.map_eq_some_iff.1 h
    rw [List.cons_append, splitAfterClose?, ih hq]
    · rfl
    · rintro ds rfl hds
      rcases rest with _ | ⟨d, rest⟩
      · cases hds
      · obtain ⟨rfl, -⟩ := List.cons.inj hds
        exact hne rest rfl rfl
  | case3 => cases h

lemma blockComment?_line {cs text rest : List Char} (h : blockComment? cs = some (text, rest)) :
    blockComment? (cs ++ '\n' :: us) = some (text, rest ++ '\n' :: us) := by
  rw [blockComment?.eq_def] at h
  split at h
  · obtain ⟨q, hq, h⟩ := Option.map_eq_some_iff.1 h
    cases h
    simp only [List.cons_append, blockComment?, splitAfterClose?_line us hq]
    rfl
  · cases h

end

/-- What is left of a text behind the blanks and comments in front of it. -/
inductive Skips : List Char → List Char → Prop
  | stop {cs : List Char} : trivia? cs = none → Skips cs cs
  | next {cs text rest ds : List Char} : trivia? cs = some (text, rest) → Skips rest ds →
      Skips cs ds

namespace Skips

variable {cs ds rs : List Char}

lemma unique (h : Skips cs ds) (h' : Skips cs rs) : ds = rs := by
  induction h with
  | stop hn =>
    cases h' with
    | stop => rfl
    | next hs => cases hn.symm.trans hs
  | next hs _ ih =>
    cases h' with
    | stop hn => cases hn.symm.trans hs
    | next hs' h' =>
      cases Option.some.inj (hs.symm.trans hs')
      exact ih h'

lemma trivia?_eq_none (h : Skips cs ds) : trivia? ds = none := by
  induction h with
  | stop hn => exact hn
  | next _ _ ih => exact ih

lemma isSuffix (h : Skips cs ds) : ds <:+ cs := by
  induction h with
  | stop => exact List.suffix_rfl
  | next hs _ ih => exact ih.trans ⟨_, trivia?_eq_some hs⟩

lemma space {c : Char} (hc : isSpace c = true) (h : Skips cs ds) : Skips (c :: cs) ds := by
  refine .next (trivia?_space hc cs) ?_
  rcases cs with _ | ⟨d, cs⟩
  · exact h
  cases hd : isSpace d with
  | false =>
    rw [span_cons_of_neg hd]
    exact h
  | true =>
    have hs := trivia?_space hd cs
    cases h with
    | stop hn => cases hn.symm.trans hs
    | next hs' h =>
      obtain ⟨-, rfl⟩ := Prod.mk.inj (Option.some.inj (hs'.symm.trans hs))
      simpa [List.span_eq_takeWhile_dropWhile, List.dropWhile_cons_of_pos hd] using h

lemma spaces {text : List Char} (ht : ∀ c ∈ text, isSpace c = true) (h : Skips cs ds) :
    Skips (text ++ cs) ds := by
  induction text with
  | nil => exact h
  | cons c text ih =>
    rw [List.forall_mem_cons] at ht
    exact space ht.1 (ih ht.2)

/-- Skipping goes on behind a line feed. -/
lemma line {us : List Char} (h : Skips cs ds) (hr : Skips (ds ++ '\n' :: us) rs) :
    Skips (cs ++ '\n' :: us) rs := by
  induction h with
  | stop => exact hr
  | @next cs text rest ds hs _ ih =>
    have hr := ih hr
    rcases cs with _ | ⟨c, cs⟩
    · cases hs
    cases hc : isSpace c with
    | true =>
      have ht : ∀ d ∈ c :: (cs.span isSpace).1, isSpace d = true := by
        rw [List.span_eq_takeWhile_dropWhile, List.forall_mem_cons]
        exact ⟨hc, List.all_eq_true.1 List.all_takeWhile⟩
      obtain ⟨rfl, rfl⟩ := Prod.mk.inj (Option.some.inj ((trivia?_space hc cs).symm.trans hs))
      have := spaces ht hr
      rwa [← List.append_assoc, List.cons_append, span_append] at this
    | false =>
      refine .next (?_ : _ = some (text, _)) hr
      rw [trivia?_not_space hc] at hs
      rw [List.cons_append, trivia?_not_space hc, ← List.cons_append]
      rcases (Option.orElse_eq_some ..).1 hs with hs | ⟨hn, hs⟩
      · exact (Option.orElse_eq_some ..).2 (.inl (lineComment?_line us hs))
      · refine (Option.orElse_eq_some ..).2 (.inr ⟨?_, blockComment?_line us hs⟩)
        rw [blockComment?.eq_def] at hs
        split at hs
        · rename_i heq
          rw [heq]
          rfl
        · cases hs

end Skips

lemma lineComment?_cons {c : Char} (h : c ≠ '/') (cs : List Char) :
    lineComment? (c :: cs) = none := by
  simp [lineComment?, h]

lemma blockComment?_cons {c : Char} (h : c ≠ '/') (cs : List Char) :
    blockComment? (c :: cs) = none := by
  simp [blockComment?, h]

/-- Two slashes that start no comment start none with a line feed behind the text, unless the text
ends with a carriage return. -/
lemma lineComment?_slashes {cs : List Char} (us : List Char)
    (hn : lineComment? ('/' :: '/' :: cs) = none) :
    lineComment? ('/' :: '/' :: (cs ++ '\n' :: us)) = none ∨
      ∃ text, cs = text ++ ['\r'] ∧
        lineComment? ('/' :: '/' :: (cs ++ ['\n'])) = some ('/' :: '/' :: text, ['\r', '\n']) := by
  rcases hs : cs.span fun c => c != '\n' && c != '\r' with ⟨text, rest⟩
  simp only [lineComment?, span_line _ (p := fun c => c != '\n' && c != '\r') rfl, hs] at hn ⊢
  rcases rest with _ | ⟨c, rest⟩
  · cases hn
  have hc : c = '\n' ∨ c = '\r' := by
    simpa [Bool.and_eq_false_iff, or_iff_not_imp_left] using span_head hs c rfl
  rcases hc with rfl | rfl
  · cases hn
  rcases rest with _ | ⟨d, rest⟩
  · exact .inr ⟨text, (span_eq hs).symm, rfl⟩
  · by_cases hd : d = '\n'
    · subst hd
      cases hn
    · exact .inl (by simp [hd])

/-- What is no comment is none with a line feed behind it, unless it ends with a carriage return. -/
lemma trivia?_line {ds : List Char} (us : List Char) (hn : trivia? ds = none) (hne : ds ≠ [])
    (hopen : ¬ ['/', '*'] <+: ds) :
    trivia? (ds ++ '\n' :: us) = none ∨
      ds.getLast? = some '\r' ∧ Skips (ds ++ ['\n']) [] := by
  obtain ⟨c, cs, rfl⟩ := List.exists_cons_of_ne_nil hne
  cases hc : isSpace c with
  | true => cases hn.symm.trans (trivia?_space hc cs)
  | false =>
    rw [trivia?_not_space hc, Option.orElse_eq_none] at hn
    simp only [List.cons_append, trivia?_not_space hc, Option.orElse_eq_none]
    by_cases hslash : c = '/'
    · subst hslash
      rcases cs with _ | ⟨d, cs⟩
      · exact .inl ⟨rfl, rfl⟩
      by_cases hd : d = '/'
      · subst hd
        refine (lineComment?_slashes us hn.1).imp (fun h => ⟨h, rfl⟩) ?_
        rintro ⟨text, rfl, h⟩
        have hblank : Skips ['\r', '\n'] [] := .space rfl (.space rfl (.stop rfl))
        refine ⟨?_, .next (?_ : _ = some ('/' :: '/' :: text, _)) hblank⟩
        · exact List.getLast?_concat (l := '/' :: '/' :: text)
        · rw [trivia?_not_space rfl]
          exact (Option.orElse_eq_some ..).2 (.inl h)
      · have hs : d ≠ '*' := by
          rintro rfl
          exact hopen ⟨cs, rfl⟩
        exact .inl ⟨by simp [lineComment?, hd], by simp [blockComment?, hs]⟩
    · exact .inl ⟨lineComment?_cons hslash _, blockComment?_cons hslash _⟩

/-! ### All tokens -/

/-- A token in a text that starts further ahead. -/
def Token.shift (k : Nat) (t : Token) : Token := { t with start := k + t.start, stop := k + t.stop }

/-- The tokens of a text that starts at an offset. -/
inductive Cuts : Nat → List Char → List Token → Prop
  | done {offset : Nat} {cs : List Char} : Skips cs [] → Cuts offset cs []
  | token {offset : Nat} {cs ds : List Char} {s : Scanned} {t : Token} {ts : List Token} :
      Skips cs ds → ¬ ['/', '*'] <+: ds → scan? ds = some s → t.lexeme = s.lexeme →
      t.start + byteLength ds = offset + byteLength cs → t.stop = t.start + byteLength s.text →
      Cuts t.stop s.rest ts → Cuts offset cs (t :: ts)

lemma length_lt_of_trivia? {cs : List Char} {r : List Char × List Char}
    (h : trivia? cs = some r) : r.2.length < cs.length := by
  have hsplit := trivia?_eq_some h
  have htext : r.1 ≠ [] := by
    rcases cs with _ | ⟨c, cs⟩
    · cases h
    cases hc : isSpace c with
    | true =>
      rw [trivia?_space hc] at h
      cases h
      exact List.cons_ne_nil _ _
    | false =>
      rw [trivia?_not_space hc] at h
      rcases (Option.orElse_eq_some ..).1 h with h | ⟨-, h⟩
      · rw [lineComment?.eq_def] at h
        split at h
        · dsimp only at h
          split at h
          all_goals cases h
          all_goals exact List.cons_ne_nil _ _
        · cases h
      · rw [blockComment?.eq_def] at h
        split at h
        · obtain ⟨q, -, rfl⟩ := Option.map_eq_some_iff.1 h
          exact List.cons_ne_nil _ _
        · cases h
  have := congrArg List.length hsplit
  have := List.length_pos_iff.2 htext
  rw [List.length_append] at *
  omega

lemma skips_skipTrivia {fuel : Nat} {cs : List Char} (h : cs.length ≤ fuel) (offset : Nat) :
    Skips cs (skipTrivia fuel offset cs).2 := by
  induction fuel generalizing offset cs with
  | zero =>
    obtain rfl := List.length_eq_zero_iff.1 (Nat.le_zero.1 h)
    exact .stop rfl
  | succ fuel ih =>
    rw [skipTrivia]
    cases hs : trivia? cs with
    | none => exact .stop hs
    | some r =>
      have := length_lt_of_trivia? hs
      exact .next hs (ih (by omega) _)

lemma name?_ne_nil {cs : List Char} {r : List Char × List Char} (h : name? cs = some r) :
    r.1 ≠ [] := by
  rw [name?] at h
  split at h
  · cases h
  · split_ifs at h
    cases h
    exact List.cons_ne_nil _ _

lemma text_ne_nil {cs : List Char} {s : Scanned} (h : scan? cs = some s) : s.text ≠ [] := by
  simp only [scan?, Option.orElse_eq_some] at h
  rcases h with h | ⟨-, h | ⟨-, h | ⟨-, h | ⟨-, h | ⟨-, h⟩⟩⟩⟩⟩
  · rw [number?] at h
    split at h
    · cases h
    · rename_i whole rest hne heq
      have hwhole : whole ≠ [] := hne
      cases h
      simp [hwhole]
  · rw [string?.eq_def] at h
    split at h
    · cases h
    · split_ifs at h
      obtain ⟨r, -, rfl⟩ := Option.map_eq_some_iff.1 h
      exact List.cons_ne_nil _ _
  · rw [parameter?.eq_def] at h
    split at h
    · obtain ⟨r, -, rfl⟩ := Option.map_eq_some_iff.1 h
      exact List.cons_ne_nil _ _
    · cases h
  · rw [quoted?.eq_def] at h
    split at h
    · split at h
      · cases h
        exact List.cons_ne_nil _ _
      · cases h
    · cases h
  · obtain ⟨r, hr, rfl⟩ := Option.map_eq_some_iff.1 h
    exact name?_ne_nil hr
  · obtain ⟨r, -, rfl⟩ := Option.map_eq_some_iff.1 h
    cases r <;> exact List.cons_ne_nil _ _

lemma length_lt_of_scan? {cs : List Char} {s : Scanned} (h : scan? cs = some s) :
    s.rest.length < cs.length := by
  have hpos := List.length_pos_iff.2 (text_ne_nil h)
  rw [← scan?_eq_some h, List.length_append]
  omega

lemma tokensFrom_iff {fuel offset : Nat} {cs : List Char} {ts : List Token}
    (hf : cs.length < fuel) : tokensFrom fuel offset cs = .ok ts ↔ Cuts offset cs ts := by
  induction fuel generalizing offset cs ts with
  | zero => exact absurd hf (Nat.not_lt_zero _)
  | succ fuel ih =>
    have hskip := skips_skipTrivia (Nat.le_refl cs.length) offset
    have hoffset := skipTrivia_offset cs.length offset cs
    rw [tokensFrom]
    split
    · rename_i heq
      rw [heq] at hskip
      constructor
      · rintro ⟨⟩
        exact .done hskip
      · rintro (_ | ⟨hs, -, hscan, -, -, -, -⟩)
        · rfl
        · cases hskip.unique hs
          cases hscan
    · rename_i rest heq
      rw [heq] at hskip
      constructor
      · rintro ⟨⟩
      rintro (hs | ⟨hs, hopen, -, -, -, -, -⟩)
      · cases hskip.unique hs
      · cases hskip.unique hs
        exact absurd ⟨rest, rfl⟩ hopen
    · rename_i start c rest hopen heq
      rw [heq] at hskip hoffset
      dsimp only at hskip hoffset
      have hle := hskip.isSuffix.length_le
      constructor
      · intro h
        cases hs : scan? (c :: rest) with
        | none =>
          rw [hs] at h
          cases h
        | some s =>
          rw [hs] at h
          obtain ⟨us, hus, h⟩ := bind_eq_ok.1 h
          cases h
          have hlt := length_lt_of_scan? hs
          refine .token hskip ?_ hs rfl hoffset rfl ((ih (by omega)).1 hus)
          rintro ⟨more, hmore⟩
          obtain ⟨hc, hrest⟩ := List.cons.inj hmore
          exact hopen more hc.symm hrest.symm
      · intro h
        rcases h with hs |
          @⟨_, _, _, s, ⟨l, start', stop⟩, ts, hs, hopen', hscan, hl, hstart, hstop, hts⟩
        · cases hskip.unique hs
        · cases hskip.unique hs
          obtain rfl : start' = start := Nat.add_right_cancel (hstart.trans hoffset.symm)
          obtain rfl : l = s.lexeme := hl
          obtain rfl : stop = start' + byteLength s.text := hstop
          have hlt := length_lt_of_scan? hscan
          rw [hscan]
          exact bind_eq_ok.2 ⟨_, (ih (by omega)).2 hts, rfl⟩

lemma tokenize_iff {source : String} {ts : List Token} :
    tokenize source = .ok ts ↔ Cuts 0 source.toList ts :=
  tokensFrom_iff (Nat.lt_succ_self _)

namespace Cuts

variable {offset : Nat} {cs us : List Char} {ts vs : List Token}

lemma getLast?_of_isSuffix {rs : List Char} {c : Char} (h : rs <:+ cs)
    (hr : rs.getLast? = some c) : cs.getLast? = some c := by
  obtain ⟨ds, rfl⟩ := h
  rw [List.getLast?_append, hr]
  rfl

/-- A token is found where it was, unless blanks and comments then reach to the end. -/
lemma token_line {ds : List Char} {s : Scanned} {t : Token} (hs : Skips cs ds)
    (hopen : ¬ ['/', '*'] <+: ds) (hscan : scan? ds = some s) (hl : t.lexeme = s.lexeme)
    (hstart : t.start + byteLength ds = offset + byteLength cs)
    (hstop : t.stop = t.start + byteLength s.text) :
    (Cuts t.stop (s.rest ++ '\n' :: us) ts ↔ Cuts offset (cs ++ '\n' :: us) (t :: ts)) ∨
    ds.getLast? = some '\r' ∧ Skips (cs ++ ['\n']) [] := by
  have hne : ds ≠ [] := by
    rintro rfl
    cases hscan
  have hscan' := scan?_line us hscan
  have hstart' : t.start + byteLength (ds ++ '\n' :: us) =
      offset + byteLength (cs ++ '\n' :: us) := by
    rw [byteLength_append, byteLength_append, ← Nat.add_assoc, hstart, Nat.add_assoc]
  refine (trivia?_line us hs.trivia?_eq_none hne hopen).imp (fun hn => ?_)
    (fun h => ⟨h.1, hs.line h.2⟩)
  have hs' := hs.line (.stop hn)
  constructor
  · refine .token hs' ?_ hscan' hl hstart' hstop
    rwa [← List.isPrefixOf_iff_prefix, isPrefixOf_line us (by decide), List.isPrefixOf_iff_prefix]
  · rintro (_ | ⟨hs₂, -, hscan₂, -, -, -, hts⟩)
    cases hs'.unique hs₂
    cases Option.some.inj (hscan₂.symm.trans hscan')
    exact hts

/-- What is behind a line feed is cut as if it stood alone. -/
lemma line (h : Cuts offset cs ts)
    (hcr : cs.getLast? = some '\r' → Cuts offset (cs ++ ['\n']) ts)
    (hus : Cuts (offset + byteLength cs) ('\n' :: us) vs) :
    Cuts offset (cs ++ '\n' :: us) (ts ++ vs) := by
  induction h with
  | @done offset cs hs =>
    cases hus with
    | done hu => exact .done (hs.line hu)
    | token hu hopen hscan hl hstart hstop hts =>
      refine .token (hs.line hu) hopen hscan hl ?_ hstop hts
      rw [hstart, byteLength_append, Nat.add_assoc]
  | @token offset cs ds s t ts hs hopen hscan hl hstart hstop hts ih =>
    have hsuffix : s.rest <:+ ds := ⟨s.text, scan?_eq_some hscan⟩
    have hlength := congrArg byteLength (scan?_eq_some hscan)
    rw [byteLength_append] at hlength
    have hbad (hlast : ds.getLast? = some '\r') : ¬ Skips (cs ++ ['\n']) [] := fun hend => by
      cases hcr (getLast?_of_isSuffix hs.isSuffix hlast) with
      | token hs₂ _ hscan₂ _ _ _ _ =>
        cases hend.unique hs₂
        cases hscan₂
    have hnext (us : List Char) (ts : List Token) :
        Cuts t.stop (s.rest ++ '\n' :: us) ts ↔ Cuts offset (cs ++ '\n' :: us) (t :: ts) :=
      (token_line hs hopen hscan hl hstart hstop).resolve_right fun h => hbad h.1 h.2
    refine (hnext us _).1 (ih (fun hlast => (hnext [] ts).2 (hcr ?_)) ?_)
    · exact getLast?_of_isSuffix (hsuffix.trans hs.isSuffix) hlast
    · rwa [hstop, Nat.add_assoc, hlength, hstart]

lemma newline (h : Cuts (offset + 1) cs ts) : Cuts offset ('\n' :: cs) ts := by
  cases h with
  | done hs => exact .done (hs.space rfl)
  | token hs hopen hscan hl hstart hstop hts =>
    exact .token (hs.space rfl) hopen hscan hl (hstart.trans (Nat.add_assoc ..)) hstop hts

/-- A text that starts further ahead. -/
lemma shift (k : Nat) (h : Cuts offset cs ts) : Cuts (k + offset) cs (ts.map (Token.shift k)) := by
  induction h with
  | done hs => exact .done hs
  | token hs hopen hscan hl hstart hstop _ ih =>
    refine .token hs hopen hscan hl ?_ ?_ ih
    · exact (Nat.add_assoc ..).trans ((congrArg (k + ·) hstart).trans (Nat.add_assoc ..).symm)
    · exact (congrArg (k + ·) hstop).trans (Nat.add_assoc ..).symm

/-- Tokens start at characters of the text and stop in it. -/
lemma places (h : Cuts offset cs ts) : ∀ t ∈ ts,
    (∃ ds, ds <:+ cs ∧ t.start + byteLength ds = offset + byteLength cs) ∧
      t.stop ≤ offset + byteLength cs := by
  induction h with
  | done => nofun
  | @token offset cs ds s t ts hs _ hscan _ hstart hstop _ ih =>
    have hsuffix : s.rest <:+ ds := ⟨s.text, scan?_eq_some hscan⟩
    have hlength := congrArg byteLength (scan?_eq_some hscan)
    rw [byteLength_append] at hlength
    have hend : t.stop + byteLength s.rest = offset + byteLength cs := by omega
    rw [List.forall_mem_cons]
    refine ⟨⟨⟨ds, hs.isSuffix, hstart⟩, by omega⟩, fun u hu => ?_⟩
    rw [← hend]
    obtain ⟨⟨rs, hrs, hu⟩, hle⟩ := ih u hu
    exact ⟨⟨rs, hrs.trans (hsuffix.trans hs.isSuffix), hu⟩, hle⟩

end Cuts

/-- **The tokens of two texts with a semicolon between them** are those of the first, the semicolon
and those of the second, if a line feed does not make a comment of the end of the first. -/
theorem tokenize_lines {s₁ s₂ : String} {ts us : List Token} (h₁ : tokenize s₁ = .ok ts)
    (h₂ : tokenize s₂ = .ok us)
    (hcr : s₁.toList.getLast? = some '\r' → tokenize (s₁ ++ "\n") = .ok ts) :
    tokenize (s₁ ++ "\n;\n" ++ s₂) = .ok (ts ++
      ⟨.symbol .semicolon, s₁.utf8ByteSize + 1, s₁.utf8ByteSize + 2⟩ ::
        us.map (Token.shift (s₁.utf8ByteSize + 3))) := by
  have hsemicolon (cs : List Char) :
      scan? (';' :: cs) = some ⟨.symbol .semicolon, [';'], cs⟩ := rfl
  have htext : (s₁ ++ "\n;\n" ++ s₂).toList = s₁.toList ++ '\n' :: ';' :: '\n' :: s₂.toList := by
    simp
  rw [tokenize_iff] at h₁ h₂ ⊢
  rw [htext]
  refine h₁.line (fun hlast => ?_) ?_
  · have := tokenize_iff.1 (hcr hlast)
    rwa [String.toList_append] at this
  · rw [Nat.zero_add, byteLength_toList]
    refine .token (.space rfl (.stop ?_)) (by simp) (hsemicolon _) rfl ?_ rfl ?_
    · rw [trivia?_not_space rfl]
      rfl
    · exact Nat.add_assoc ..
    · exact (h₂.shift _).newline

end Cypher

end PropertyGraph
