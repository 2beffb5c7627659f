import PropertyGraph.Proofs.Cypher.Precedence

/-!
The text of a term after RETURN parses to the tree of the term. Parentheses around a variable change
nothing, unless the parser takes the variable for a node because a relationship seems to follow.
-/

namespace PropertyGraph

namespace Cypher

open Piece

/-- The query that returns one expression, which is written in a text. -/
def returning (x : Expr) (source : String) : Statement :=
  .query ⟨[.returnItems ⟨false, false, [⟨x, none, source⟩], [], none, none⟩], []⟩

namespace Grammar

/-! ### The query of a term -/

section Query

variable {inner : Inner} {c e : Cursor} {x : Expr}

lemma reads_none {α : Type} {w : String} (item : Parser α) (he : e.lexemes = []) :
    Reads (afterKeyword? w item) e none e :=
  .bind (.eatKeyword_not (by simp [he])) (.pure none e)

lemma reads_manyWhile_not {α : Type} {test : Parser Bool} (item : Parser α)
    (h : Reads test c false c) : Reads (manyWhile test item) c [] c :=
  .map List.reverse (Loops.iterate (.stop (.bind h (.pure none c))))

lemma not_distinct_of_begins {l : Lexeme} (h : begins 0 l = true) :
    l.isKeyword "DISTINCT" = false := by
  cases l with
  | word w =>
    simp only [begins, Bool.or_eq_true, decide_eq_true_eq, List.mem_cons, List.not_mem_nil,
      or_false, Bool.and_eq_true, beq_iff_eq] at h
    rcases h with (h | rfl | rfl | rfl) | ⟨-, rfl⟩
    · exact not_keyword_of_isBare h (by simp)
    all_goals cbv
  | _ => rfl

/-- A projection of one expression without a name, up to the end of the text. -/
lemma reads_projection (hx : Reads inner.expr c x e) (hb : Begins 0 c.lexemes)
    (he : e.lexemes = []) :
    Reads (projection inner) c
      ⟨false, false, [⟨x, none, sliceBytes e.source c.offset e.before⟩], [], none, none⟩ e := by
  obtain ⟨l, hl, hb⟩ := hb
  have hd : ∀ k ∈ c.lexemes.head?, k.isKeyword "DISTINCT" = false := by
    intro k hk
    obtain rfl := Option.some.inj (hk.symm.trans hl)
    exact not_distinct_of_begins hb
  have hs : ∀ k ∈ c.lexemes.head?, k ≠ .symbol .star := by
    intro k hk
    obtain rfl := Option.some.inj (hk.symm.trans hl)
    rintro rfl
    simp [begins] at hb
  have hitem : Reads (projectionItem inner) c
      ⟨x, none, sliceBytes e.source c.offset e.before⟩ e :=
    .bind (.get c) (.bind hx (.bind (.get e) (.bind (reads_none _ he) (.pure _ _))))
  have hitems : Reads (sepBy (projectionItem inner)) c
      [⟨x, none, sliceBytes e.source c.offset e.before⟩] e := by
    refine .bind hitem (.bind (reads_manyWhile_not _ ?_) (.pure _ _))
    exact .eatSymbol_not (by simp [he])
  exact .bind (.eatKeyword_not hd) <| .bind (.eatSymbol_not hs) <| .bind (.pure true c) <|
    .bind hitems <| .bind (reads_none _ he) <| .bind (reads_none _ he) <|
    .bind (reads_none _ he) (.pure _ _)

lemma reads_clause {ls : List Lexeme} (hc : c.lexemes = .word "RETURN" :: ls)
    (hx : Reads inner.expr (c.drop 1) x e) (hb : Begins 0 ls) (he : e.lexemes = []) :
    Reads (clause inner) c
      (.returnItems ⟨false, false,
        [⟨x, none, sliceBytes e.source (c.drop 1).offset e.before⟩], [], none, none⟩) e := by
  have h₁ : (c.drop 1).lexemes = ls := by
    rw [Cursor.lexemes_drop, hc]
    rfl
  have hp := reads_projection hx (h₁ ▸ hb) he
  have hf : ((clauseTable inner).find? fun e => (c.lexeme? 0).any (·.isKeyword e.1)) =
      some ("RETURN", .returnItems <$> projection inner) := by
    have hk : ∀ w ∈ ["OPTIONAL", "MATCH", "UNWIND", "WITH"],
        (Lexeme.word "RETURN").isKeyword w = false := by decide_cbv
    have hr : (Lexeme.word "RETURN").isKeyword "RETURN" = true := by cbv
    simp only [List.forall_mem_cons] at hk
    simp only [lexeme?_head hc, clauseTable, List.find?_cons, Option.any_some, hk, hr]
  refine .bind (.get c) ?_
  simp only [hf]
  exact .bind (.skip 1 c) (hp.map _)

section Word

variable {w : String} {ls : List Lexeme} (hc : c.lexemes = .word w :: ls)

include hc

lemma reads_isEnd_cons : Reads isEnd c false c := by
  have := Reads.isEnd c
  rwa [hc] at this

lemma symbol_not {s : Symbol} : ∀ l ∈ c.lexemes.head?, l ≠ .symbol s := by
  rw [hc]
  rintro l ⟨⟩
  nofun

lemma keyword_not {k : String} (hk : (Lexeme.word w).isKeyword k = false) :
    ∀ l ∈ c.lexemes.head?, l.isKeyword k = false := by
  rw [hc]
  rintro l ⟨⟩
  exact hk

lemma reads_keyword_not {k : String} (hk : (Lexeme.word w).isKeyword k = false) :
    Reads (isKeyword k) c false c := .isAt_not (keyword_not hc hk)

end Word

lemma reads_isEnd_nil (he : e.lexemes = []) : Reads isEnd e true e := by
  have := Reads.isEnd e
  rwa [he] at this

lemma reads_clauses {ls : List Lexeme} {y : Clause Expr} (hc : c.lexemes = .word "RETURN" :: ls)
    (hy : Reads inner.clause c y e) (he : e.lexemes = []) (hr : y.canConclude = true) :
    Reads (clauses inner true) c [y] e := by
  have hnot : Reads clausesEnd c false c :=
    .bind (reads_isEnd_cons hc) <| .bind (.isSymbol_not (symbol_not hc)) <|
      .bind (.isSymbol_not (symbol_not hc)) (reads_keyword_not hc (by cbv))
  have hend : Reads clausesEnd e true e := .bind (reads_isEnd_nil he) (.pure _ _)
  have hlt : e.rest.length < c.rest.length := by
    rw [← Cursor.length_lexemes, ← Cursor.length_lexemes, he, hc]
    exact Nat.succ_pos _
  refine .bind (Loops.iterate (.next (b := [y]) (d := e) ?_ hlt (.stop (d := e) ?_))) ?_
  · exact .bind hnot (.bind hy (.pure _ _))
  · exact .bind hend (.pure _ _)
  · simp only [hr, Bool.not_true, Bool.and_false, Bool.false_eq_true, if_false]
    exact .pure [y] e

lemma reads_query {ls : List Lexeme} {y : Clause Expr} (hc : c.lexemes = .word "RETURN" :: ls)
    (hy : Reads inner.clause c y e) (he : e.lexemes = []) (hr : y.canConclude = true) :
    Reads (query inner true) c ⟨[y], []⟩ e :=
  .bind (reads_clauses hc hy he hr) <|
    .bind (reads_manyWhile_not _ (.eatKeyword_not (by simp [he]))) (.pure _ _)

/-- No other statement starts with RETURN. -/
lemma reads_statement {ls : List Lexeme} {q : Query Expr} (hc : c.lexemes = .word "RETURN" :: ls)
    (hq : Reads (query inner true) c q e) : Reads (statement inner) c (.query q) e := by
  have hw {w : String} (h : (Lexeme.word "RETURN").isKeyword w = false) :
      Reads (eatKeyword w) c false c := .eatKeyword_not (keyword_not hc h)
  have ht : Reads transactionCommand? c none c := by
    refine .bind (.get c) ?_
    have hk : ∀ w ∈ ["BEGIN", "COMMIT", "ROLLBACK"],
      (Lexeme.word "RETURN").isKeyword w = false := by
      decide_cbv
    simp only [List.forall_mem_cons] at hk
    simp only [lexeme?_head hc, List.find?_cons, Option.any_some, hk, List.find?_nil]
    exact .pure none c
  exact .bind (.bind (.isSymbol_not (symbol_not hc)) (hw (by cbv))) <| .bind ht <|
    .bind (hw (by cbv)) <| .bind (hw (by cbv)) <|
    .bind (.bind (reads_keyword_not hc (by cbv)) (.pure none c)) <|
    .bind (hw (by cbv)) (hq.map _)

lemma reads_statements {ls : List Lexeme} {s : Statement} (hc : c.lexemes = .word "RETURN" :: ls)
    (hs : Reads (statement inner) c s e) (he : e.lexemes = []) :
    Reads (statements inner) c [s] e := by
  have hlt : e.rest.length < c.rest.length := by
    rw [← Cursor.length_lexemes, ← Cursor.length_lexemes, he, hc]
    exact Nat.succ_pos _
  have hsemi {d : Cursor} (h : ∀ l ∈ d.lexemes.head?, l ≠ .symbol .semicolon) :
      Reads (manyWhile (eatSymbol .semicolon) (return ())) d [] d :=
    reads_manyWhile_not _ (.eatSymbol_not h)
  refine .map List.reverse (Loops.iterate (.next (b := [s]) (d := e) ?_ hlt (.stop (d := e) ?_)))
  · exact .bind (.bind (hsemi (symbol_not hc)) (.bind (reads_isEnd_cons hc) (.pure true c))) <|
      .bind (.bind hs (.bind (reads_isEnd_nil he) (.pure s e))) (.pure _ _)
  · exact .bind (.bind (hsemi (by simp [he])) (.bind (reads_isEnd_nil he) (.pure false e)))
      (.pure none e)

end Query

end Grammar

/-! ### The text of a term -/

lemma drop_place (source : String) (before : Nat) (ps : List Piece) :
    (⟨source, before, place before ps⟩ : Cursor).drop ps.length =
      ⟨source, before + byteLength (spaced ps), []⟩ := by
  induction ps generalizing before with
  | nil => rfl
  | cons p ps ih =>
    rw [List.length_cons, Nat.add_comm, ← Cursor.drop_drop]
    refine (ih _).trans ?_
    have : byteLength (spaced (p :: ps)) = 1 + byteLength p.text + byteLength (spaced ps) := by
      rw [spaced, List.flatMap_cons, byteLength_append]
      rfl
    rw [this, ← Nat.add_assoc, ← Nat.add_assoc]

lemma map_lexeme_place (offset : Nat) (ps : List Piece) :
    (place offset ps).map Token.lexeme = Grammar.lexemesOf ps := by
  induction ps generalizing offset with
  | nil => rfl
  | cons p ps ih => simp [place, ih]

lemma spaced_eq {ps : List Piece} (hps : ps ≠ []) : spaced ps = ' ' :: (joined ps).toList := by
  obtain ⟨p, ps, rfl⟩ := List.exists_cons_of_ne_nil hps
  rw [joined, String.toList_ofList]
  rfl

lemma slice_joined {ps : List Piece} (hps : ps ≠ []) :
    sliceBytes (String.ofList ("RETURN".toList ++ spaced ps)) 7 (6 + byteLength (spaced ps)) =
      joined ps := by
  have h7 : byteLength ("RETURN".toList ++ [' ']) = 7 := by cbv
  have h := sliceBytes_append ("RETURN".toList ++ [' ']) (joined ps).toList []
  rw [h7, List.append_nil, List.append_assoc, List.singleton_append, ← spaced_eq hps,
    String.ofList_toList] at h
  have hb : byteLength (spaced ps) = 1 + byteLength (joined ps).toList := by
    rw [spaced_eq hps]
    rfl
  rw [hb, ← Nat.add_assoc]
  exact h

variable {μ : Type} {wrapped : μ → Bool}

/-- A term after RETURN is read, if none of its parentheses seems to be a node. -/
theorem parse_reading (t : Term μ)
    (h : Grammar.Plainly wrapped (Grammar.lexemesOf (t.print wrapped))) :
    parse ("RETURN " ++ t.text wrapped) = .ok [returning t.reading (t.text wrapped)] := by
  have hb := Grammar.begins_print wrapped t
  have htok : tokenize (String.ofList ("RETURN".toList ++ spaced (t.print wrapped))) =
      .ok (⟨.word "RETURN", 0, 6⟩ :: place 6 (t.print wrapped)) :=
    tokenize_spaced (p := .word "RETURN") (scans_word (by cbv)) (t.scans_print wrapped)
  have hown := Grammar.own wrapped t (Nat.le_refl _)
  rw [Term.text]
  generalize t.print wrapped = ps at h hb htok hown ⊢
  have hne : ps ≠ [] := by
    rintro rfl
    obtain ⟨l, hl, -⟩ := hb
    cases hl
  have htext : "RETURN " ++ joined ps = String.ofList ("RETURN".toList ++ spaced ps) := by
    rw [spaced_eq hne, ← List.singleton_append, ← List.append_assoc, String.ofList_append,
      String.ofList_toList]
    rfl
  have hlen : (place 6 ps).length = ps.length := by
    have := congrArg List.length (map_lexeme_place 6 ps)
    rwa [List.length_map, Grammar.length_lexemesOf] at this
  have hslice := slice_joined hne
  rw [htext]
  generalize String.ofList ("RETURN".toList ++ spaced ps) = source at hslice htok
  let c : Cursor := ⟨source, 0, ⟨.word "RETURN", 0, 6⟩ :: place 6 ps⟩
  let e : Cursor := ⟨source, 6 + byteLength (spaced ps), []⟩
  have hc : c.lexemes = .word "RETURN" :: Grammar.lexemesOf ps :=
    congrArg _ (map_lexeme_place 6 ps)
  have h₁ : (c.drop 1).lexemes = Grammar.lexemesOf ps ++ [] := by
    rw [Cursor.lexemes_drop, hc, List.append_nil]
    rfl
  have he : (c.drop 1).drop (Grammar.lexemesOf ps).length = e := by
    rw [Grammar.length_lexemesOf]
    exact drop_place source 6 ps
  have hstart : (c.drop 1).offset = 7 := by
    obtain ⟨p, ps, rfl⟩ := List.exists_cons_of_ne_nil hne
    rfl
  have hx : Grammar.Reads (Grammar.nested (ps.length + 1)).expr (c.drop 1) t.reading e := by
    have := (hown.downTo (Grammar.level_le t) hb (Nat.zero_le _)).reads h₁
      (Grammar.ends_nil 0) (by rwa [List.append_nil])
    rwa [he] at this
  have hy := Grammar.reads_clause hc hx (hb.mono (Nat.zero_le _)) rfl
  rw [hstart, hslice] at hy
  have hq : Grammar.Reads (Grammar.query (Grammar.nested (ps.length + 2)) true) c _ e :=
    Grammar.reads_query hc hy rfl rfl
  have hs := Grammar.reads_statements hc (Grammar.reads_statement hc hq) rfl
  rw [parse, htok]
  simp only [List.length_cons, hlen]
  exact bind_eq_ok.2 ⟨(_, e), hs, rfl⟩

/-- **Precedence and associativity.** A proper term is read back from its text. -/
theorem parse_text (t : Term μ) (ht : t.Proper) :
    parse ("RETURN " ++ t.text fun _ => false) =
      .ok [returning t.tree (t.text fun _ => false)] := by
  rw [← t.reading_eq_tree ht]
  exact parse_reading t (.inl fun _ => rfl)

/-- A difference whose parentheses are needed. -/
def difference : Term Unit :=
  .binary .sub (.whole 3 (by decide)) (.binary .sub (.whole 2 (by decide)) (.whole 1 (by decide)))

theorem parse_difference :
    difference.Proper ∧ difference.text (fun _ => false) = "3 - ( 2 - 1 )" ∧
      parse ("RETURN " ++ difference.text fun _ => false) =
        .ok [returning difference.tree (difference.text fun _ => false)] :=
  ⟨⟨trivial, trivial, trivial⟩, by cbv, parse_text difference ⟨trivial, trivial, trivial⟩⟩

/-! ### Parentheses around variables -/

/-- **Parentheses around variables change nothing**, as long as none of them is followed by what
starts a relationship: the text with them is read as the text without them. -/
theorem parse_wrapped (t : Term Bool)
    (h : clashes (Grammar.lexemesOf (t.print id)) = false) :
    parse ("RETURN " ++ t.text id) = .ok [returning t.reading (t.text id)] ∧
      parse ("RETURN " ++ t.text fun _ => false) =
        .ok [returning t.reading (t.text fun _ => false)] ∧
      (t.Proper → t.reading = t.tree) :=
  ⟨parse_reading t (.inr h), parse_reading t (.inl fun _ => rfl), t.reading_eq_tree⟩

/-- Parentheses around both operands of a difference. -/
def wrappedDifference : Term Bool :=
  .binary .sub (.name true ⟨"a", true, by cbv⟩) (.name true ⟨"b", true, by cbv⟩)

theorem parse_wrappedDifference :
    clashes (Grammar.lexemesOf (wrappedDifference.print id)) = false ∧
      wrappedDifference.text id = "( a ) - ( b )" ∧
      parse ("RETURN " ++ wrappedDifference.text id) =
        .ok [returning wrappedDifference.tree (wrappedDifference.text id)] :=
  ⟨by cbv, by cbv, (parse_wrapped wrappedDifference (by cbv)).1⟩

/-- A difference with a negated variable, which looks like a relationship without arrows. -/
def dashes : Term Bool :=
  .binary .sub (.name true ⟨"a", true, by cbv⟩)
    (.unary .negate (.name true ⟨"b", true, by cbv⟩))

/-- Whether a text is read as a query that returns whether a pattern matches. -/
def returnsPattern (source : String) : Bool :=
  match parse source with
  | .ok [.query ⟨[.returnItems ⟨_, _, [⟨.of (.matched _), _, _⟩], _, _, _⟩], []⟩] => true
  | _ => false

/-- Two nodes with a relationship between them, and no difference, are read where a negated variable
in parentheses is taken from one. -/
theorem returnsPattern_dashes :
    dashes.text id = "( a ) - - ( b )" ∧ returnsPattern ("RETURN " ++ dashes.text id) = true ∧
      ¬ ∃ source, parse ("RETURN " ++ dashes.text id) = .ok [returning dashes.tree source] := by
  have hp : returnsPattern ("RETURN " ++ dashes.text id) = true := by decide +kernel
  refine ⟨by cbv, hp, ?_⟩
  rintro ⟨source, h⟩
  rw [returnsPattern, h] at hp
  exact Bool.false_ne_true hp

end Cypher

end PropertyGraph
