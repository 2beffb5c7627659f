import PropertyGraph.Proofs.Cypher.Reads
import PropertyGraph.Proofs.Cypher.Spelling

/-!
Nothing of a text is lost when it is cut into tokens, and the spacing does not matter. What lies
between the tokens is blanks and comments, and the texts of the tokens with other blanks between
them are cut into the same lexemes.

A comment to the end of the line depends on what follows it, so a gap between tokens is one in
front of a text.
-/

namespace PropertyGraph

namespace Cypher

/-! ### Gaps -/

/-- The end of a line, or of the text. -/
def AtLineEnd (cs : List Char) : Prop := cs = [] ∨ ['\n'] <+: cs ∨ ['\r', '\n'] <+: cs

/-- Blanks and comments in front of a text. -/
inductive Gap (after : List Char) : List Char → Prop
  | nil : Gap after []
  | blank {c : Char} {cs : List Char} : isSpace c = true → Gap after cs → Gap after (c :: cs)
  | line {body cs : List Char} : '\n' ∉ body → '\r' ∉ body → AtLineEnd (cs ++ after) →
      Gap after cs → Gap after ('/' :: '/' :: (body ++ cs))
  | block {body cs : List Char} : ¬ ['*', '/'] <:+: body → Gap after cs →
      Gap after ('/' :: '*' :: (body ++ '*' :: '/' :: cs))

section

variable {after cs text rest : List Char}

lemma Gap.blanks (ht : ∀ c ∈ text, isSpace c = true) (h : Gap after cs) :
    Gap after (text ++ cs) := by
  induction text with
  | nil => exact h
  | cons c text ih =>
    rw [List.forall_mem_cons] at ht
    exact .blank ht.1 (ih ht.2)

lemma exists_line (h : lineComment? cs = some (text, rest)) :
    ∃ body, text = '/' :: '/' :: body ∧ '\n' ∉ body ∧ '\r' ∉ body ∧ AtLineEnd rest := by
  rw [lineComment?.eq_def] at h
  split at h
  · rename_i cs
    rcases hs : cs.span fun c => c != '\n' && c != '\r' with ⟨body, more⟩
    have hall := all_of_span hs
    have hn : '\n' ∉ body := fun hc => absurd (hall _ hc) (by decide)
    have hr : '\r' ∉ body := fun hc => absurd (hall _ hc) (by decide)
    simp only [hs] at h
    split at h
    · cases h
      exact ⟨body, rfl, hn, hr, .inr (.inr ⟨_, rfl⟩)⟩
    · cases h
      exact ⟨body, rfl, hn, hr, .inr (.inl ⟨_, rfl⟩)⟩
    · cases h
      exact ⟨body, rfl, hn, hr, .inl rfl⟩
    · cases h
  · cases h

lemma exists_close {r : List Char × List Char} (h : splitAfterClose? cs = some r) :
    ∃ body, r.1 = body ++ ['*', '/'] ∧ ¬ ['*', '/'] <:+: body := by
  fun_induction splitAfterClose? cs generalizing r with
  | case1 rest =>
    cases h
    exact ⟨[], rfl, by simp⟩
  | case2 c rest hne ih =>
    obtain ⟨q, hq, rfl⟩ := Option.map_eq_some_iff.1 h
    obtain ⟨body, htext, hbody⟩ := ih hq
    refine ⟨c :: body, by rw [htext, List.cons_append], fun hin => ?_⟩
    rcases List.infix_cons_iff.1 hin with ⟨more, hmore⟩ | hin
    · -- the comment would have ended here already
      obtain ⟨rfl, rfl⟩ := List.cons.inj hmore
      have hrest := splitAfterClose?_eq_some hq
      rw [htext] at hrest
      exact hne _ rfl hrest.symm
    · exact hbody hin
  | case3 => cases h

lemma exists_block (h : blockComment? cs = some (text, rest)) :
    ∃ body, text = '/' :: '*' :: (body ++ ['*', '/']) ∧ ¬ ['*', '/'] <:+: body := by
  rw [blockComment?.eq_def] at h
  split at h
  · obtain ⟨r, hr, h⟩ := Option.map_eq_some_iff.1 h
    obtain ⟨body, htext, hbody⟩ := exists_close hr
    cases h
    exact ⟨body, by rw [htext], hbody⟩
  · cases h

/-- What is dropped between tokens is a gap. -/
lemma gap_of_trivia? (h : trivia? cs = some (text, rest ++ after))
    (hrest : Gap after rest) : Gap after (text ++ rest) := by
  rcases cs with _ | ⟨c, cs⟩
  · cases h
  cases hc : isSpace c with
  | true =>
    rw [trivia?_space hc] at h
    obtain ⟨rfl, -⟩ := Prod.mk.inj (Option.some.inj h)
    have hspan : cs.span isSpace = ((cs.span isSpace).1, (cs.span isSpace).2) := rfl
    refine hrest.blanks ?_
    rw [List.forall_mem_cons]
    exact ⟨hc, all_of_span hspan⟩
  | false =>
    rw [trivia?_not_space hc] at h
    rcases (Option.orElse_eq_some ..).1 h with h | ⟨-, h⟩
    · obtain ⟨body, rfl, hn, hr, hend⟩ := exists_line h
      exact .line hn hr hend hrest
    · obtain ⟨body, rfl, hbody⟩ := exists_block h
      rw [List.cons_append, List.cons_append, List.append_assoc]
      exact .block hbody hrest

lemma Skips.exists_gap (h : Skips cs after) : ∃ gap, cs = gap ++ after ∧ Gap after gap := by
  induction h with
  | stop => exact ⟨[], rfl, .nil⟩
  | next hs _ ih =>
    obtain ⟨gap, rfl, hgap⟩ := ih
    exact ⟨_, by rw [List.append_assoc, trivia?_eq_some hs], gap_of_trivia? hs hgap⟩

end

/-! ### Tokens in their places -/

/-- Tokens with the gaps around them, in a text that starts behind another. -/
inductive Laid : List Char → List Char → List Token → Prop
  | done {before gap : List Char} : Gap [] gap → Laid before gap []
  | token {before gap text rest : List Char} {t : Token} {ts : List Token} :
      Gap (text ++ rest) gap → Spells text t.lexeme → t.start = byteLength (before ++ gap) →
      t.stop = byteLength (before ++ (gap ++ text)) → Laid (before ++ (gap ++ text)) rest ts →
      Laid before (gap ++ (text ++ rest)) (t :: ts)

lemma Cuts.laid {offset : Nat} {before cs : List Char} {ts : List Token} (h : Cuts offset cs ts)
    (hb : offset = byteLength before) : Laid before cs ts := by
  induction h generalizing before with
  | done hs =>
    obtain ⟨gap, rfl, hgap⟩ := hs.exists_gap
    rw [List.append_nil]
    exact .done hgap
  | @token offset cs ds s t ts hs _ hscan hl hstart hstop _ ih =>
    obtain ⟨gap, rfl, hgap⟩ := hs.exists_gap
    obtain rfl := scan?_eq_some hscan
    have hspells := spells_of_scan? hscan
    rw [← hl] at hspells
    rw [byteLength_append gap, ← Nat.add_assoc] at hstart
    have hstart : t.start = byteLength (before ++ gap) := by
      rw [byteLength_append, ← hb]
      exact Nat.add_right_cancel hstart
    have hstop : t.stop = byteLength (before ++ (gap ++ s.text)) := by
      rw [hstop, hstart, ← List.append_assoc, byteLength_append (before ++ gap)]
    exact .token hgap hspells hstart hstop (ih hstop)

/-- The text of a token. -/
def Token.textIn (source : String) (t : Token) : String := sliceBytes source t.start t.stop

lemma isValid_append (cs ds : List Char) :
    String.Pos.Raw.IsValid (String.ofList (cs ++ ds)) ⟨byteLength cs⟩ := by
  rw [String.Pos.Raw.isValid_iff_exists_append]
  refine ⟨String.ofList cs, String.ofList ds, String.ofList_append, ?_⟩
  rw [← utf8ByteSize_ofList]
  rfl

lemma sliceBytes_after (cs ds : List Char) :
    sliceBytes (String.ofList (cs ++ ds)) (byteLength cs) (byteLength (cs ++ ds)) =
      String.ofList ds := by
  have h := sliceBytes_append cs ds []
  rwa [List.append_nil, ← byteLength_append] at h

namespace Laid

variable {before cs : List Char} {ts : List Token}

lemma places (h : Laid before cs ts) : ∀ t ∈ ts,
    byteLength before ≤ t.start ∧ t.start < t.stop ∧ t.stop ≤ byteLength (before ++ cs) ∧
      String.Pos.Raw.IsValid (String.ofList (before ++ cs)) ⟨t.start⟩ ∧
      String.Pos.Raw.IsValid (String.ofList (before ++ cs)) ⟨t.stop⟩ := by
  induction h with
  | done => nofun
  | @token before gap text rest t ts _ hspells hstart hstop _ ih =>
    rw [← List.append_assoc gap, ← List.append_assoc before]
    rw [List.forall_mem_cons]
    obtain ⟨c, text, rfl, -⟩ := hspells.solid
    have hpos := byteLength_cons_pos c text
    refine ⟨⟨?_, ?_, ?_, ?_, ?_⟩, fun u hu => ?_⟩
    · rw [hstart, byteLength_append]
      exact Nat.le_add_right ..
    · rw [hstart, hstop, ← List.append_assoc, byteLength_append (before ++ gap)]
      omega
    · rw [hstop, byteLength_append _ rest]
      exact Nat.le_add_right ..
    · have hvalid := isValid_append (before ++ gap) (c :: text ++ rest)
      rw [← hstart] at hvalid
      rwa [List.append_assoc before, List.append_assoc gap, ← List.append_assoc before]
    · rw [hstop]
      exact isValid_append ..
    · obtain ⟨hle, hplace⟩ := ih u hu
      rw [byteLength_append] at hle
      exact ⟨by omega, hplace⟩

lemma ordered (h : Laid before cs ts) : ts.Pairwise fun t u => t.stop ≤ u.start := by
  induction h with
  | done => exact .nil
  | token _ _ _ hstop hrest ih =>
    refine .cons (fun u hu => ?_) ih
    rw [hstop]
    exact (hrest.places u hu).1

lemma spells (h : Laid before cs ts) :
    ∀ t ∈ ts, Spells (t.textIn (String.ofList (before ++ cs))).toList t.lexeme := by
  induction h with
  | done => nofun
  | @token before gap text rest t ts _ hspells hstart hstop _ ih =>
    rw [← List.append_assoc gap, ← List.append_assoc before]
    rw [List.forall_mem_cons]
    refine ⟨?_, ih⟩
    have hslice : sliceBytes (String.ofList (before ++ (gap ++ text) ++ rest)) t.start t.stop =
        String.ofList text := by
      rw [hstart, hstop, ← List.append_assoc before, byteLength_append (before ++ gap),
        List.append_assoc (before ++ gap)]
      exact sliceBytes_append ..
    rw [Token.textIn, hslice, String.toList_ofList]
    exact hspells

/-- The gaps around the tokens, the last one up to the end of the text. -/
lemma gaps (h : Laid before cs ts) :
    ∀ p ∈ (byteLength before :: ts.map Token.stop).zip
        (ts.map Token.start ++ [byteLength (before ++ cs)]),
      Gap (sliceBytes (String.ofList (before ++ cs)) p.2 (byteLength (before ++ cs))).toList
        (sliceBytes (String.ofList (before ++ cs)) p.1 p.2).toList := by
  induction h with
  | @done before gap hgap =>
    intro p hp
    obtain rfl := List.mem_singleton.1 hp
    have hend := sliceBytes_after (before ++ gap) []
    rw [List.append_nil] at hend
    rw [hend, sliceBytes_after, String.toList_ofList, String.toList_ofList]
    exact hgap
  | @token before gap text rest t ts hgap _ hstart hstop _ ih =>
    rw [← hstop] at ih
    rw [List.map_cons, List.map_cons, List.cons_append, List.zip_cons_cons, List.forall_mem_cons]
    constructor
    · have hslice := sliceBytes_append before gap (text ++ rest)
      have hafter := sliceBytes_after (before ++ gap) (text ++ rest)
      rw [← byteLength_append, ← hstart] at hslice
      rw [← hstart, List.append_assoc] at hafter
      rw [hslice, hafter, String.toList_ofList, String.toList_ofList]
      exact hgap
    · rw [← List.append_assoc gap, ← List.append_assoc before]
      exact ih

end Laid

/-! ### Other spacing -/

/-- Texts with blanks between them. -/
def spaced (blanks texts : List String) : String :=
  String.join (List.zipWith (· ++ ·) ("" :: blanks) texts)

/-- A text between tokens that is nothing but blanks. -/
def Blank (s : String) : Prop := s ≠ "" ∧ ∀ c ∈ s.toList, isSpace c = true

lemma apart_join {b : String} (hb : Blank b) (texts : List String) (blanks : List String) :
    Apart (String.join (List.zipWith (· ++ ·) (b :: blanks) texts)).toList := by
  obtain ⟨hne, hspace⟩ := hb
  obtain ⟨c, cs, hcs⟩ := List.exists_cons_of_ne_nil fun h => hne (String.toList_eq_nil_iff.1 h)
  rw [hcs, List.forall_mem_cons] at hspace
  cases texts with
  | nil => nofun
  | cons text texts =>
    intro d hd
    simp only [List.zipWith_cons_cons, String.join_cons, String.toList_append, hcs,
      List.cons_append, List.head?_cons, Option.mem_def, Option.some.injEq] at hd
    exact hd ▸ hspace.1

/-- Spelled texts are cut into the lexemes that they spell, with whatever blanks between them. -/
lemma exists_cuts {α : Type} {text : α → String} {lexeme : α → Lexeme} {as : List α}
    (h : ∀ a ∈ as, Spells (text a).toList (lexeme a)) (lead : String) {blanks : List String}
    (hlead : ∀ c ∈ lead.toList, isSpace c = true) (hblanks : ∀ b ∈ blanks, Blank b)
    (hlength : as.length ≤ blanks.length + 1) (offset : Nat) :
    ∃ us,
      Cuts offset (String.join (List.zipWith (· ++ ·) (lead :: blanks) (as.map text))).toList us ∧
      us.map Token.lexeme = as.map lexeme := by
  induction as generalizing lead blanks offset with
  | nil => exact ⟨[], .done (.stop rfl), rfl⟩
  | cons a as ih =>
    rw [List.forall_mem_cons] at h
    rw [List.map_cons, List.zipWith_cons_cons, String.join_cons, String.toList_append,
      String.toList_append, List.append_assoc]
    generalize hrest : (String.join (List.zipWith (· ++ ·) blanks (as.map text))).toList = rest
    have hnext : Apart rest ∧ ∀ stop, ∃ us, Cuts stop rest us ∧
        us.map Token.lexeme = as.map lexeme := by
      subst hrest
      cases blanks with
      | nil =>
        obtain rfl : as = [] := List.length_eq_zero_iff.1 (by simpa using hlength)
        exact ⟨nofun, fun _ => ⟨[], .done (.stop rfl), rfl⟩⟩
      | cons b blanks =>
        rw [List.forall_mem_cons] at hblanks
        exact ⟨apart_join hblanks.1 _ _,
          ih h.2 b hblanks.1.2 hblanks.2 (Nat.le_of_succ_le_succ hlength)⟩
    obtain ⟨hapart, hnext⟩ := hnext
    obtain ⟨htrivia, hopen⟩ := trivia?_of_spells h.1 hapart
    let t : Token := ⟨lexeme a, offset + byteLength lead.toList,
      offset + byteLength lead.toList + byteLength (text a).toList⟩
    obtain ⟨us, hus, hlexemes⟩ := hnext t.stop
    refine ⟨t :: us, .token (.spaces hlead (.stop htrivia)) hopen (scan?_of_spells h.1 hapart) rfl
      ?_ rfl hus, congrArg (lexeme a :: ·) hlexemes⟩
    rw [byteLength_append lead.toList, Nat.add_assoc]

/-- What tokens keep of a text. -/
structure Lossless (source : String) (ts : List Token) : Prop where
  /-- Each token takes some of the text, from one character to another. -/
  inside : ∀ t ∈ ts, t.start < t.stop ∧ t.stop ≤ source.utf8ByteSize ∧
    String.Pos.Raw.IsValid source ⟨t.start⟩ ∧ String.Pos.Raw.IsValid source ⟨t.stop⟩
  /-- The tokens stand in their order. -/
  ordered : ts.Pairwise fun t u => t.stop ≤ u.start
  /-- Around them there are blanks and comments only. -/
  gaps : ∀ p ∈ (0 :: ts.map Token.stop).zip (ts.map Token.start ++ [source.utf8ByteSize]),
    Gap (sliceBytes source p.2 source.utf8ByteSize).toList (sliceBytes source p.1 p.2).toList
  /-- Their texts with other blanks between them have the same lexemes. -/
  respaced : ∀ blanks : List String, (∀ b ∈ blanks, Blank b) → ts.length ≤ blanks.length + 1 →
    ∃ us, tokenize (spaced blanks (ts.map (Token.textIn source))) = .ok us ∧
      us.map Token.lexeme = ts.map Token.lexeme

/-- **A text is cut into tokens without loss**, and its spacing does not matter. -/
theorem tokenize_lossless {source : String} {ts : List Token} (h : tokenize source = .ok ts) :
    Lossless source ts := by
  have hlaid : Laid [] source.toList ts := (tokenize_iff.1 h).laid rfl
  have hsource : String.ofList ([] ++ source.toList) = source := String.ofList_toList
  have hsize : byteLength ([] ++ source.toList) = source.utf8ByteSize := byteLength_toList source
  have hplaces := hlaid.places
  have hspells := hlaid.spells
  have hgaps := hlaid.gaps
  rw [hsource] at hplaces hspells hgaps
  rw [hsize] at hplaces hgaps
  refine ⟨fun t ht => (hplaces t ht).2, hlaid.ordered, hgaps, fun blanks hblanks hlength => ?_⟩
  obtain ⟨us, hus, hlexemes⟩ := exists_cuts hspells "" nofun hblanks hlength 0
  exact ⟨us, tokenize_iff.2 hus, hlexemes⟩

/-- Two points are no fraction, and an escaped quote ends no string. -/
theorem tokenize_lossless_range : ∃ ts, tokenize "/* a */ 1..3e2 'it\\'s' // b" = .ok ts ∧
    ts.map Token.start = [8, 9, 11, 15] ∧ Lossless "/* a */ 1..3e2 'it\\'s' // b" ts :=
  ⟨[⟨.number (.ofParts false ['1'] [] 0), 8, 9⟩, ⟨.symbol .dots, 9, 11⟩,
      ⟨.number (.ofParts false ['3'] [] 2), 11, 14⟩, ⟨.string "it's", 15, 22⟩],
    by decide +kernel, rfl, tokenize_lossless (by decide +kernel)⟩

end Cypher

end PropertyGraph
