import PropertyGraph.Cypher.Grammar.Clause
import PropertyGraph.Proofs.Cypher.Within

/-!
Every rule for expressions and clauses reads the same from a text and from a longer one, which goes
on with a semicolon.

Most rules are put together from others, and look no further ahead than to the next token. Those
that look further do so where it is known what comes first; the lookahead for a pattern is not
beyond the parenthesis or bracket that closes what is read.
-/

namespace PropertyGraph

namespace Cypher

namespace Grammar

variable {α : Type}

/-- What the parsers for what is inside read from a text, others read from a longer one. -/
structure Inner.Agrees (i j : Inner) : Prop where
  expr : Grammar.Agrees filled i.expr j.expr
  clause : Grammar.Agrees filled i.clause j.clause

/-! ### Telling a pattern from an expression in parentheses -/

/-- A look ahead for a pattern, after which it is an expression up to a closing symbol if no pattern
is seen. -/
lemma AgreesAt.patternAhead {A B : α → List Token → Prop} {f g : Bool → Parser α} {c c' : Cursor}
    {k n : Nat} {more : List Token} (w : c.Within c' k more) (hn : n ≤ c.rest.length)
    (htrue : startsPattern (c.rest.drop n) = true → AgreesAt B (f true) (g true) c c')
    (hfalse : startsPattern (c.rest.drop n) = false → AgreesAt A (f false) (g false) c c')
    (hAB : ∀ {a ts}, A a ts → B a ts)
    (hcloses : ∀ {a m}, A a (c.rest.take m) → Closes (c.rest.drop n)) :
    AgreesAt B (Grammar.patternAhead n >>= f) (Grammar.patternAhead n >>= g) c c' := by
  intro a d hp
  change f (startsPattern (c.rest.drop n)) c = _ at hp
  change ∃ m ≤ c.rest.length, d = c.drop m ∧ B a (c.rest.take m) ∧
    g (startsPattern (c'.rest.drop n)) c' = .ok (a, c'.drop m)
  have hrest : c'.rest.drop n = (c.rest.drop n).map (Token.shift k) ++ more := by
    rw [← Cursor.rest_drop, ← Cursor.rest_drop, (w.drop hn).rest]
  rw [hrest]
  cases hs : startsPattern (c.rest.drop n) with
  | false =>
    rw [hs] at hp
    obtain ⟨m, hm, hd, ha, hq⟩ := hfalse hs hp
    refine ⟨m, hm, hd, hAB ha, ?_⟩
    rw [startsPattern_append k w.more (hcloses ha), hs]
    exact hq
  | true =>
    rw [hs] at hp
    obtain ⟨m, hm, hd, ha, hq⟩ := htrue hs hp
    refine ⟨m, hm, hd, ha, ?_⟩
    rw [startsPattern_append k w.more (closes_of_startsPattern hs), hs]
    exact hq

/-- At the end of the text and at a semicolon there is no step. -/
lemma AgreesAt.none {p : Parser (Option α)} {c c' : Cursor} {k : Nat} {more : List Token}
    (w : c.Within c' k more) (hc : c.rest = [])
    (h : ∀ c : Cursor, (∀ l ∈ c.lexemes.head?, l = .symbol .semicolon) → Reads p c none c) :
    AgreesAt stepped p p c c' :=
  .of_reads (a := Option.none) (Nat.zero_le _) ⟨.nil, nofun⟩ (h c (by simp [Cursor.lexemes, hc]))
    (h c' (w.stop hc))

lemma closes_of_closed {s : Symbol} {a : α} {ts : List Token} {m : Nat}
    (hs : s = .rightParen ∨ s = .rightBracket) (h : closed s a (ts.take m)) : Closes ts := by
  obtain ⟨us, t, hts, hu, ht⟩ := h
  rw [← List.take_append_drop m ts, hts, List.append_assoc]
  refine closes_of_balanced hu fun u hmem => ⟨s, ?_, ?_⟩
  · rcases hs with rfl | rfl <;> simp
  · obtain rfl := Option.some.inj hmem
    exact ht

/-- What closes is not the first token, if that is something else. -/
lemma closed_tail {s : Symbol} {a : α} {t : Token} {ts : List Token} {m : Nat}
    (h : closed s a ((t :: ts).take m)) (ht : t.lexeme.isBrace = false)
    (hs : t.lexeme ≠ .symbol s) : ∃ n, closed s a (ts.take n) := by
  obtain ⟨us, v, hts, hu, hv⟩ := h
  obtain ⟨n, rfl⟩ : ∃ n, m = n + 1 := by
    refine Nat.exists_eq_succ_of_ne_zero ?_
    rintro rfl
    simp at hts
  rw [List.take_succ_cons] at hts
  rcases us with _ | ⟨w, us⟩
  · obtain ⟨rfl, -⟩ := List.cons.inj hts
    exact absurd hv hs
  · obtain ⟨rfl, htail⟩ := List.cons.inj hts
    exact ⟨n, us, v, htail, hu.tail ht, hv⟩

section

variable {i j : Inner} (h : i.Agrees j)

/-! ### Patterns -/

lemma agrees_labels : Agrees filled labels labels :=
  .first (agrees_symbol .colon rfl) fun _ => .bind (agrees_name _) fun _ =>
    .bind (agrees_manyEaten (agrees_eatSymbol .colon rfl) (agrees_name _).even) fun _ => .pure _

lemma agrees_mapKey : Agrees filled mapKey mapKey := by
  intro c c' k more w
  refine .get ?_
  rcases w.next with ⟨hn, hn' | hn'⟩ | ⟨l, ls, hc, hl, hl'⟩
  · simp only [hn, hn']
    exact agrees_name _ w
  · simp only [hn, hn']
    exact agrees_name _ w
  · simp only [hl, hl']
    cases l with
    | string s => exact .first (.skipOne hc rfl) fun _ _ _ => .pure _
    | _ => exact agrees_name _ w

lemma agrees_variableName? : Agrees balanced variableName? variableName? :=
  .bind agrees_isName fun _ => .ite (.map agrees_variableName.even _ id) (.pure _)

lemma agrees_count? : Agrees balanced count? count? := by
  intro c c' k more w
  refine .get ?_
  rcases w.next with ⟨hn, hn' | hn'⟩ | ⟨l, ls, hc, hl, hl'⟩
  · simp only [hn, hn']
    exact .pure _
  · simp only [hn, hn']
    exact .pure _
  · simp only [hl, hl']
    cases l with
    | number n =>
      dsimp only
      cases n.toIndex? with
      | some m => exact .bind (.skipOne hc rfl) fun _ _ _ _ => .pure _
      | none => exact .pure _
    | _ => exact .pure _

lemma agrees_hopRange : Agrees balanced hopRange hopRange := by
  refine .bind agrees_count? fun min => ?_
  have hmax (a : Option Nat) : Agrees balanced (do return (⟨a, ← count?⟩ : HopRange))
      (do return (⟨a, ← count?⟩ : HopRange)) :=
    .bind agrees_count? fun _ => .pure _
  cases min with
  | some min => exact .bind (agrees_eatSymbol .dots rfl) fun _ => .ite (hmax _) (.pure _)
  | none => exact .bind (agrees_eatSymbol .dots rfl) fun _ => .ite (hmax _) (.pure _)

lemma agrees_relTypes : Agrees filled relTypes relTypes :=
  .first (agrees_name _) fun _ => .bind (agrees_manyEaten (agrees_eatSymbol .bar rfl)
    (.bind (agrees_eatSymbol .colon rfl) fun _ => (agrees_name _).even)) fun _ => .pure _

lemma agrees_hopAhead : Agrees balanced hopAhead hopAhead :=
  .bind (agrees_isSymbol .minus nofun) fun _ => .ite (.pure true) (agrees_isAt_then rfl rfl)

/-- If a selector is seen, there are its word and a parenthesis. -/
lemma agrees_selector {c c' : Cursor} {k : Nat} {more : List Token} (w : c.Within c' k more)
    (hne : c.rest ≠ []) : AgreesAt (looked fun s => s ≠ .all →
      ∃ l ls, c.lexemes = l :: .symbol .leftParen :: ls ∧ l.isBrace = false)
      selector selector c c' := by
  refine .isAt w rfl (List.length_pos_iff.2 hne) fun b hb => .ite (fun hb' => ?_)
    fun _ => .looked fun hs => absurd rfl hs
  have hword {v : String} (hv : (c.lexemes[0]?).any (·.isKeyword v) = true) :
      ∃ l ls, c.lexemes = l :: .symbol .leftParen :: ls ∧ l.isBrace = false := by
    obtain ⟨l, ls, hc, hl⟩ := cons_of_any hv
    obtain ⟨m, ms, rfl, hm⟩ := second_of_any hc (hb.trans hb')
    obtain rfl := beq_iff_eq.1 hm
    exact ⟨l, ms, hc, Lexeme.isBrace_of_isKeyword hl⟩
  refine .isAt w rfl (Nat.zero_le _) fun b hb => .ite (fun hb' => ?_) fun _ =>
    .isAt w rfl (Nat.zero_le _) fun b hb => .ite (fun hb' => ?_)
      fun _ => .looked fun hs => absurd rfl hs
  · exact .looked fun _ => hword (hb.trans hb')
  · exact .looked fun _ => hword (hb.trans hb')

lemma agrees_assignmentAhead : Agrees balanced assignmentAhead assignmentAhead :=
  agrees_isAt_then rfl rfl

include h

lemma agrees_mapEntry : Agrees filled (mapEntry i) (mapEntry j) :=
  .first agrees_mapKey fun _ => .bind (agrees_symbol .colon rfl) fun _ =>
    .bind h.expr fun _ => .pure _

lemma agrees_mapLiteral : Agrees filled (mapLiteral i) (mapLiteral j) :=
  agrees_braces (.andPure (agrees_listUntil .rightBrace nofun (agrees_mapEntry h)) _ id)

lemma agrees_condition? : Agrees balanced (condition? i) (condition? j) :=
  agrees_afterKeyword? "WHERE" h.expr

lemma agrees_properties? : Agrees balanced (properties? i) (properties? j) := by
  intro c c' k more w
  refine .get ?_
  rcases w.next with ⟨hn, hn' | hn'⟩ | ⟨l, ls, hc, hl, hl'⟩
  · simp only [hn, hn']
    exact .pure _
  · simp only [hn, hn']
    exact .pure _
  · simp only [hl, hl']
    cases l with
    | symbol s =>
      cases s with
      | leftBrace => exact (agrees_mapLiteral h).even.map some id w
      | _ => exact .pure _
    | parameter n => exact .bind (.skipOne hc rfl) fun _ _ _ _ => .pure _
    | _ => exact .pure _

lemma agrees_nodePattern : Agrees filled (nodePattern i) (nodePattern j) :=
  .first (agrees_symbol .leftParen rfl) fun _ => .bind agrees_variableName? fun _ =>
    .bind (agrees_isSymbol .colon nofun) fun _ => .iteBind agrees_labels.even (.pure []) fun _ =>
      .bind (agrees_properties? h) fun _ => .bind (agrees_symbol .rightParen rfl) fun _ => .pure _

lemma agrees_relPattern : Agrees filled (relPattern i) (relPattern j) := by
  refine .bind (agrees_eatSymbol .less rfl) fun _ =>
    .first (A := balanced) (agrees_symbol .minus rfl) fun _ =>
      .bind (agrees_eatSymbol .leftBracket rfl) fun _ => ?_
  extract_lets finish
  have hfinish (body : RelPattern Expr) : Agrees balanced (finish body) (finish body) :=
    .bind (agrees_symbol .minus rfl) fun _ => .bind (agrees_eatSymbol .greater rfl) fun _ => .pure _
  refine .ite (.bind agrees_variableName? fun _ => .bind (agrees_eatSymbol .colon rfl) fun _ => ?_)
    (.bind (.pure _) hfinish)
  refine .iteBind agrees_relTypes.even (.pure []) fun _ =>
    .bind (agrees_eatSymbol .star rfl) fun _ => ?_
  exact .iteBind (.map agrees_hopRange some id) (.pure none) fun _ =>
    .bind (agrees_properties? h) fun _ => .bind (agrees_symbol .rightBracket rfl) fun _ =>
      .bind (.pure _) hfinish

lemma agrees_hop : Agrees filled (hop i) (hop j) :=
  .first (agrees_relPattern h) fun _ => .bind (agrees_nodePattern h) fun _ => .pure _

lemma agrees_pathPattern : Agrees filled (pathPattern i) (pathPattern j) := by
  intro c c' k more w
  rw [pathPattern, pathPattern]
  extract_lets body body'
  have hbody (name : Option String) : Agrees filled (body name) (body' name) := by
    intro c c' k more w
    by_cases hc : c.rest = []
    · -- the node at the start is missing
      obtain ⟨source, before, rest⟩ := c
      obtain rfl : rest = [] := hc
      nofun
    refine .look (agrees_selector w hc) fun selector hselector => ?_
    extract_lets pattern pattern'
    have hpattern (u : Unit) : Agrees filled (pattern u) (pattern' u) := by
      refine .first (A := balanced) (agrees_nodePattern h) fun _ =>
        .bind (agrees_manyWhile agrees_hopAhead (agrees_hop h)) fun _ => ?_
      exact .ite (.bind (agrees_symbol .rightParen rfl) fun _ =>
        .ite (.bind (.fail _ _ balanced) fun _ => .pure _) (.pure _)) (.pure _)
    refine .ite (fun hs => ?_) fun _ => hpattern () w
    obtain ⟨l, ls, hc, hl⟩ := hselector hs
    exact .first (.skipTwo hc hl rfl) fun u _ hn => (hpattern u).even (w.drop hn)
  refine .isAt_then w rfl rfl (Nat.zero_le _) fun b hb => .ite (fun hb' => ?_)
    fun _ => (Agrees.bind (.pure none) hbody) w
  obtain ⟨l, m, ls, hc, hl, hm⟩ := hb hb'
  obtain rfl := beq_iff_eq.1 hm
  exact .nameAndSkip agrees_namedVariable w hc rfl fun _ =>
    .bind (.pure _) fun name => (hbody name).even

lemma agrees_patterns : Agrees balanced (patterns i) (patterns j) :=
  agrees_sepBy (agrees_pathPattern h)

/-! ### Queries as expressions -/

/-- Whether a sequence of clauses is over before a lexeme. -/
def endsClauses (l : Lexeme) : Bool :=
  l == .symbol .semicolon || l == .symbol .rightBrace || l.isKeyword "UNION"

omit h in
lemma reads_clausesEnd (c : Cursor) : Reads clausesEnd c ((c.lexeme? 0).all endsClauses) c := by
  rw [Cursor.lexeme?_eq]
  refine .bind (.isEnd c) ?_
  cases hc : c.lexemes with
  | nil => exact .pure true c
  | cons l ls =>
    have hat (p : Lexeme → Bool) : Reads (isAt 0 p) c (p l) c := by
      have h := Reads.isAt 0 p c
      rwa [hc] at h
    refine .bind (hat _) ?_
    change Reads _ c (l == .symbol .semicolon || l == .symbol .rightBrace || l.isKeyword "UNION") c
    cases l == .symbol .semicolon with
    | true => exact .pure true c
    | false =>
      refine .bind (hat _) ?_
      cases l == .symbol .rightBrace with
      | true => exact .pure true c
      | false => exact hat _

omit h in
lemma agrees_clausesEnd : Agrees balanced clausesEnd clausesEnd := by
  intro c c' k more w
  have hp := reads_clausesEnd c
  have hq := reads_clausesEnd c'
  rcases w.next with ⟨hn, hn' | hn'⟩ | ⟨l, ls, -, hl, hl'⟩
  · rw [hn] at hp
    rw [hn'] at hq
    exact .of_reads (Nat.zero_le _) .nil hp hq
  · rw [hn] at hp
    rw [hn'] at hq
    exact .of_reads (Nat.zero_le _) .nil hp hq
  · rw [hl] at hp
    rw [hl'] at hq
    exact .of_reads (Nat.zero_le _) .nil hp hq

lemma agrees_clauses (needsResult : Bool) :
    Agrees filled (clauses i needsResult) (clauses j needsResult) := by
  have hstep : ∀ cs : List (Clause Expr), Agrees stepped (do
      if ← clausesEnd then return none
      else if cs.head?.any Clause.isReturn then fail .clauseAfterReturn
      else return some ((← i.clause) :: cs)) (do
      if ← clausesEnd then return none
      else if cs.head?.any Clause.isReturn then fail .clauseAfterReturn
      else return some ((← j.clause) :: cs)) := fun _ =>
    .bind agrees_clausesEnd fun _ => .ite .none <|
      .ite (.fail _ _ _) (.first h.clause fun _ => .pure _)
  intro c c' k more w
  refine .bindWith (C := fun cs _ us => us = [] ∧ cs ≠ []) ?_ (agrees_iterate hstep [] w)
    fun reversed n hn _ => ?_
  · rintro cs _ ts _ hts ⟨rfl, hcs⟩
    rw [List.append_nil]
    exact ⟨hts.1, fun hnil => hcs (hts.2 hnil)⟩
  · cases reversed with
    | nil => exact Agrees.unexpected _ _ _ (w.drop hn)
    | cons last before =>
      refine .ite (fun _ => Agrees.fail _ _ _ (w.drop hn)) fun _ => ?_
      rintro _ _ ⟨⟩
      exact ⟨0, Nat.zero_le _, rfl, ⟨rfl, List.cons_ne_nil _ _⟩, rfl⟩

lemma agrees_query (needsResult : Bool) :
    Agrees filled (query i needsResult) (query j needsResult) := by
  have hbranch : Agrees balanced (do
      let all ← eatKeyword "ALL"
      return (⟨all, ← clauses i needsResult⟩ : Branch (Clause Expr))) (do
      let all ← eatKeyword "ALL"
      return (⟨all, ← clauses j needsResult⟩ : Branch (Clause Expr))) :=
    .bind (agrees_eatKeyword "ALL") fun _ => .bind (agrees_clauses h needsResult) fun _ => .pure _
  exact .first (agrees_clauses h needsResult) fun _ =>
    .bind (agrees_manyEaten (agrees_eatKeyword "UNION") hbranch) fun _ => .pure _

lemma agrees_existsBody : Agrees (closed .rightBrace) (existsBody i) (existsBody j) := by
  refine .bind (agrees_isSymbol .leftParen nofun) fun _ => ?_
  extract_lets rest body body'
  have hrest (q : Query Expr) : Agrees (closed .rightBrace) (rest q) (rest q) :=
    .andPure (agrees_close .rightBrace nofun) _ id
  have hbody (bare : Bool) : Agrees (closed .rightBrace) (body bare) (body' bare) := by
    refine .ite ?_ (.bind (agrees_query h false) hrest)
    exact .bind (agrees_patterns h) fun _ => .bind (agrees_condition? h) fun _ =>
      .bind (.pure _) hrest
  exact .iteBind (.pure true) agrees_assignmentAhead hbody

/-! ### Operands -/

omit h in
lemma agrees_listAhead : Agrees balanced listAhead listAhead := agrees_isAt_then rfl rfl

lemma agrees_matchesBody : Agrees (closed .rightBracket) (do
    let p ← pathPattern i
    let w ← condition? i
    symbol .bar
    let x ← i.expr
    symbol .rightBracket
    return Expr.of (.matchesOf p w x)) (do
    let p ← pathPattern j
    let w ← condition? j
    symbol .bar
    let x ← j.expr
    symbol .rightBracket
    return .of (.matchesOf p w x)) :=
  .bind (agrees_pathPattern h) fun _ => .bind (agrees_condition? h) fun _ =>
    .bind (agrees_symbol .bar rfl) fun _ => .bind h.expr fun _ =>
      .andPure (agrees_close .rightBracket nofun) _ id

lemma agrees_itemsBody : Agrees (closed .rightBracket) (do
    if ← listAhead then
      let n ← variableName
      keyword "IN"
      let s ← i.expr
      let w ← condition? i
      let x ← if ← eatSymbol .bar then some <$> i.expr else pure none
      symbol .rightBracket
      return Expr.of (.listOf n s w x)
    else return .of (.list (← listUntil .rightBracket i.expr))) (do
    if ← listAhead then
      let n ← variableName
      keyword "IN"
      let s ← j.expr
      let w ← condition? j
      let x ← if ← eatSymbol .bar then some <$> j.expr else pure none
      symbol .rightBracket
      return .of (.listOf n s w x)
    else return .of (.list (← listUntil .rightBracket j.expr))) := by
  refine .bind agrees_listAhead fun _ => .ite ?_ ?_
  · refine .bind agrees_variableName fun _ => .bind (agrees_keyword "IN") fun _ =>
      .bind h.expr fun _ => .bind (agrees_condition? h) fun _ =>
        .bind (agrees_eatSymbol .bar rfl) fun _ => ?_
    exact .iteBind (.map h.expr.even some id) (.pure none) fun _ =>
      .andPure (agrees_close .rightBracket nofun) _ id
  · exact .andPure (agrees_listUntil .rightBracket nofun h.expr) _ id

lemma agrees_listBody : Agrees (closed .rightBracket) (listBody i) (listBody j) := by
  intro c c' k more w
  rw [listBody, listBody]
  extract_lets body body'
  have hbody (named : Bool) : AgreesAt (closed .rightBracket) (body named) (body' named) c c' := by
    refine .patternAhead w (Nat.zero_le _) (fun _ => ?_) (fun _ => ?_) id
      (closes_of_closed (.inr rfl))
    · rw [Bool.or_true]
      exact agrees_matchesBody h w
    · rw [Bool.or_false]
      cases named
      · exact agrees_itemsBody h w
      · exact agrees_matchesBody h w
  refine .isAt_then w rfl rfl (Nat.zero_le _) fun b hb => .ite (fun hb' => ?_) fun _ => hbody false
  obtain ⟨l, m, ls, hc, hl, hm⟩ := hb hb'
  obtain ⟨t, ts, ht, rfl, hts⟩ := List.map_eq_cons_iff.1 hc
  obtain ⟨u, us, rfl, rfl, -⟩ := List.map_eq_cons_iff.1 hts
  have hm := beq_iff_eq.1 hm
  refine .patternAhead w (by simp [ht]) (fun _ => hbody true) (fun _ => hbody false) id ?_
  -- the name and the equals sign are not what closes
  rintro a n ha
  rw [ht] at ha ⊢
  have hname : t.lexeme ≠ .symbol .rightBracket := by
    rintro hs
    rw [hs] at hl
    cases hl
  obtain ⟨n, ha⟩ := closed_tail ha (Lexeme.isBrace_of_name? hl) hname
  obtain ⟨n, ha⟩ := closed_tail ha (by rw [hm]; rfl) (by rw [hm]; nofun)
  exact closes_of_closed (.inr rfl) ha

lemma agrees_caseBody : Agrees balanced (caseBody i) (caseBody j) := by
  have hbranch : Agrees balanced (do
      let c ← i.expr
      keyword "THEN"
      return (c, ← i.expr)) (do
      let c ← j.expr
      keyword "THEN"
      return (c, ← j.expr)) :=
    .bind h.expr fun _ => .bind (agrees_keyword "THEN") fun _ => .bind h.expr fun _ => .pure _
  refine .bind (agrees_isKeyword "WHEN") fun _ =>
    .iteBind (.pure none) (.map h.expr.even some id) fun subject => ?_
  refine .bind (agrees_manyEaten (agrees_eatKeyword "WHEN") hbranch) fun _ => ?_
  exact .ite (.unexpected _ _ _) (.bind (agrees_afterKeyword? "ELSE" h.expr) fun _ =>
    .bind (agrees_keyword "END") fun _ => .pure _)

lemma agrees_mapItem : Agrees balanced (mapItem i) (mapItem j) := by
  refine .bind (agrees_eatSymbol .dot rfl) fun _ => .ite ?_ fun c c' k more w => ?_
  · exact .bind (agrees_eatSymbol .star rfl) fun _ => .ite (.pure _) ((agrees_name _).even.map _ id)
  · refine .isAt_then w rfl rfl (Nat.zero_le _) fun b hb => .ite (fun hb' => ?_)
      fun _ => agrees_variableName.even.map MapItem.name id w
    obtain ⟨l, m, ls, hc, -, hm⟩ := hb hb'
    obtain rfl := beq_iff_eq.1 hm
    exact .nameAndSkip (agrees_named _) w hc rfl fun _ => .bind h.expr fun _ => .pure _

lemma agrees_nameOrMap (n : String) : Agrees balanced (nameOrMap i n) (nameOrMap j n) :=
  agrees_ifBrace (.andPure (agrees_listUntil .rightBrace nofun (agrees_mapItem h)) _ id) (.pure _)

lemma agrees_existsArgument : Agrees balanced (existsArgument i) (existsArgument j) := by
  refine .bind h.expr fun x => .bind (agrees_symbol .rightParen rfl) fun _ => ?_
  split
  · exact .pure _
  · exact .pure _

lemma agrees_quantifiedBody (q : Quantifier) :
    Agrees balanced (quantifiedBody i q) (quantifiedBody j q) :=
  .bind agrees_variableName fun _ => .bind (agrees_keyword "IN") fun _ => .bind h.expr fun _ =>
    .bind (agrees_keyword "WHERE") fun _ => .bind h.expr fun _ =>
      .bind (agrees_symbol .rightParen rfl) fun _ => .pure _

lemma agrees_reduceBody : Agrees balanced (reduceBody i) (reduceBody j) :=
  .bind agrees_variableName fun _ => .bind (agrees_symbol .equals rfl) fun _ =>
    .bind h.expr fun _ => .bind (agrees_symbol .comma rfl) fun _ =>
      .bind agrees_variableName fun _ => .bind (agrees_keyword "IN") fun _ =>
        .bind h.expr fun _ => .bind (agrees_symbol .bar rfl) fun _ =>
          .bind h.expr fun _ => .bind (agrees_symbol .rightParen rfl) fun _ => .pure _

lemma agrees_callBody (function : String) :
    Agrees balanced (callBody i function) (callBody j function) :=
  .bind (agrees_eatKeyword "DISTINCT") fun _ =>
    .bind (agrees_list .rightParen rfl h.expr) fun _ => .pure _

lemma agrees_wordCall (name : String) {c c' : Cursor} {k : Nat} {more : List Token}
    (w : c.Within c' k more) {ls : List Lexeme}
    (hc : c.lexemes = .word name :: .symbol .leftParen :: ls) :
    AgreesAt filled (wordCall i name) (wordCall j name) c c' := by
  have hlen : 2 ≤ c.rest.length := by
    rw [← Cursor.length_lexemes, hc]
    simp
  have hskip {q q' : Parser Expr} (hq : Agrees balanced q q') :
      AgreesAt filled (do skip 2; q) (do skip 2; q') c c' :=
    .first (.skipTwo hc rfl rfl) fun _ _ hn => hq (w.drop hn)
  refine .isAt_then w rfl rfl hlen fun stars hstars =>
    .isAt_then w rfl rfl hlen fun binds _ => .ite (fun hcount => ?_) fun _ => ?_
  · obtain ⟨l, m, ms, hls, hl, hm⟩ := hstars (Bool.and_eq_true_iff.1 hcount).2
    obtain rfl := beq_iff_eq.1 hl
    obtain rfl := beq_iff_eq.1 hm
    rw [hc] at hls
    obtain rfl : ls = .symbol .star :: .symbol .rightParen :: ms := hls
    refine .first (.skip [_, _, _, _] hc ?_ (List.cons_ne_nil _ _)) fun _ _ _ => .pure _
    simp [Lexeme.isBrace]
  refine .ite (fun _ => hskip (agrees_existsArgument h)) fun _ =>
    .ite (fun _ => hskip (agrees_reduceBody h)) fun _ => .ite (fun _ => ?_) fun _ => hskip ?_
  · exact (agrees_pathPattern h).andPure (fun p => Expr.of (.paths p)) id w
  · split
    · exact .ite (agrees_quantifiedBody h _) (agrees_callBody h name)
    · exact agrees_callBody h name

lemma agrees_wordOperand (name : String) {c c' : Cursor} {k : Nat} {more : List Token}
    (w : c.Within c' k more) {ls : List Lexeme} (hc : c.lexemes = .word name :: ls) :
    AgreesAt filled (wordOperand i name) (wordOperand j name) c c' := by
  have hlen := length_pos_of_lexemes hc
  have hskip {q q' : Parser Expr} (hq : Agrees balanced q q') :
      AgreesAt filled (do skip; q) (do skip; q') c c' :=
    .first (.skipOne hc rfl) fun _ _ hn => hq (w.drop hn)
  rw [wordOperand, wordOperand]
  split
  · exact hskip (.pure _)
  refine .ite (fun _ => hskip (agrees_caseBody h)) fun _ => .isAt w rfl hlen fun b hb =>
    .ite (fun hexists => ?_) fun _ => .isAt w rfl hlen fun b' hb' => .ite (fun hparen => ?_)
      fun _ => .ite (fun _ => Agrees.unexpected _ _ _ w) fun _ => hskip (agrees_nameOrMap h name)
  · -- the brace that is taken with the word is closed by the body
    obtain ⟨m, ms, rfl, hm⟩ := second_of_any hc (hb.trans (Bool.and_eq_true_iff.1 hexists).2)
    obtain ⟨t, ts, ht, hname, hts⟩ := List.map_eq_cons_iff.1 hc
    obtain ⟨u, us, rfl, rfl, -⟩ := List.map_eq_cons_iff.1 hts
    have hskip : AgreesAt (fun _ ts => ts = [t, u]) (skip 2) (skip 2) c c' := by
      rintro _ _ ⟨⟩
      exact ⟨2, by simp [ht], rfl, by simp [ht], rfl⟩
    refine .bindWith (C := fun _ => closed .rightBrace) ?_ hskip
      fun _ n hn _ => agrees_existsBody h (w.drop hn)
    rintro _ a _ us rfl hus
    exact ⟨.cons (by rw [hname]; rfl) (balanced_of_braces (a := a) (beq_iff_eq.1 hm) hus),
      List.cons_ne_nil _ _⟩
  · obtain ⟨m, ms, rfl, hm⟩ := second_of_any hc (hb'.trans hparen)
    obtain rfl := beq_iff_eq.1 hm
    exact agrees_wordCall h name w hc

lemma agrees_operand : Agrees filled (operand i) (operand j) := by
  intro c c' k more w
  refine .get ?_
  rcases w.next with ⟨hn, -⟩ | ⟨l, ls, hc, hl, hl'⟩
  · simp only [hn]
    exact Agrees.unexpected _ _ _ w
  simp only [hl, hl']
  have hskip {l : Lexeme} {ls : List Lexeme} (hc : c.lexemes = l :: ls) (hl : l.isBrace = false)
      {q q' : Parser Expr} (hq : Agrees balanced q q') :
      AgreesAt filled (do skip; q) (do skip; q') c c' :=
    .first (.skipOne hc hl) fun _ _ hn => hq (w.drop hn)
  cases l with
  | number n => exact hskip hc rfl (.pure _)
  | string s => exact hskip hc rfl (.pure _)
  | parameter n => exact hskip hc rfl (.pure _)
  | quoted n => exact hskip hc rfl (agrees_nameOrMap h n)
  | word name => exact agrees_wordOperand h name w hc
  | symbol s =>
    cases s with
    | leftParen =>
      refine .patternAhead (A := closed .rightParen) w (Nat.zero_le _)
        (fun _ => (agrees_pathPattern h).andPure (fun p => Expr.of (.matched p)) id w) (fun _ => ?_)
        (balanced_of_closed rfl) (closes_of_closed (.inl rfl))
      exact .bind (.skipOne hc rfl) fun _ _ hn _ => Agrees.bind (B := closed .rightParen) h.expr
        (fun x => (agrees_close .rightParen nofun).andPure (fun _ => x) id) (w.drop hn)
    | leftBracket => exact hskip hc rfl ((agrees_listBody h).mono (balanced_of_closed rfl)).even
    | leftBrace => exact agrees_mapLiteral h w
    | _ => exact Agrees.unexpected _ _ _ w

/-! ### What follows an operand -/

lemma agrees_sliceEnd (target : Expr) (start : Option Expr) :
    Agrees balanced (sliceEnd i target start) (sliceEnd j target start) :=
  .bind (agrees_isSymbol .rightBracket nofun) fun _ =>
    .iteBind (.pure none) (.map h.expr.even some id) fun _ =>
      .bind (agrees_symbol .rightBracket rfl) fun _ => .pure _

lemma agrees_indexBody (target : Expr) :
    Agrees balanced (indexBody i target) (indexBody j target) :=
  .bind (agrees_eatSymbol .dots rfl) fun _ => .ite (agrees_sliceEnd h target none) <|
    .bind h.expr fun _ => .bind (agrees_eatSymbol .dots rfl) fun _ =>
      .ite (agrees_sliceEnd h target _) <| .bind (agrees_symbol .rightBracket rfl) fun _ => .pure _

lemma agrees_suffix? (allowLabels : Bool) (x : Expr) :
    Agrees stepped (suffix? i allowLabels x) (suffix? j allowLabels x) := by
  refine .ifEaten (A := balanced) (agrees_eatSymbol .leftBracket rfl)
    ((agrees_indexBody h x).map some id) fun c c' k more w => ?_
  by_cases hc : c.rest = []
  · refine .none w hc fun d hd => .bind (.isName 1 d) ?_
    have hnot (s : Symbol) (hs : s ≠ .semicolon) : ∀ l ∈ d.lexemes.head?, l ≠ .symbol s := by
      intro l hl
      rw [hd l hl]
      exact fun e => hs (Lexeme.symbol.inj e).symm
    have hcolon : Reads (if allowLabels then isSymbol .colon else pure false) d false d := by
      cases allowLabels with
      | true => exact .isSymbol_not (hnot _ (by decide))
      | false => exact .pure false d
    cases (d.lexemes[1]?).any (·.name?.isSome) with
    | true => exact .bind (.eatSymbol_not (hnot _ (by decide))) (.bind hcolon (.pure none d))
    | false => exact .pure none d
  have hlen := List.length_pos_iff.2 hc
  refine .isAt w rfl hlen fun _ _ => .ite (fun _ => ?_) fun _ => Agrees.none w
  refine Agrees.ifEaten (agrees_eatSymbol .dot rfl) (.bind (agrees_name _) fun _ => .pure _) ?_ w
  exact .bind (.ite (agrees_isSymbol .colon nofun) (.pure false)) fun _ =>
    .ite (.first agrees_labels fun _ => .pure _) .none

lemma agrees_postfixed (allowLabels : Bool) :
    Agrees filled (postfixed i allowLabels) (postfixed j allowLabels) :=
  .first (agrees_operand h) fun _ => (agrees_iterate (agrees_suffix? h allowLabels) _).even

/-! ### Operators -/

omit h in
lemma agrees_sign? : Agrees stepped sign? sign? :=
  .ifEaten (agrees_eatSymbol .minus rfl) (.pure _) <|
    .ifEaten (agrees_eatSymbol .plus rfl) (.pure _) .none

lemma agrees_signed : Agrees filled (signed i) (signed j) := by
  refine .bind (agrees_iterate (fun ss => .andPure agrees_sign? (Option.map (· :: ss)) ?_) [])
    fun _ => .first (agrees_postfixed h true) fun _ => .pure _
  exact fun hs => ⟨hs.1, fun ho => hs.2 (by simpa using ho)⟩

omit h in
lemma agrees_oneOf {table : List (Symbol × BinaryOp)} (htable : ∀ e ∈ table, isPlain e.1 = true) :
    Agrees stepped (oneOf table) (oneOf table) := by
  intro c c' k more w
  rcases w.next with ⟨hn, -⟩ | ⟨l, ls, hc, hl, hl'⟩
  · refine .none w (by simpa [Cursor.lexeme?] using hn) fun d hd => reads_oneOf_not ?_
    rintro l hl e he rfl
    have hplain := htable e he
    rw [Lexeme.symbol.inj (hd _ hl)] at hplain
    cases hplain
  · refine .get ?_
    simp only [hl, hl']
    split
    · rename_i e he
      have hl : l = .symbol e.1 := by simpa using List.find?_some he
      refine .first (.skipOne hc ?_) fun _ _ _ => .pure _
      have hplain := htable e (List.mem_of_find?_eq_some he)
      rw [hl]
      revert hplain
      cases e.1 <;> decide
    · exact Agrees.none w

omit h in
lemma agrees_word? (w : String) (op : BinaryOp) : Agrees stepped (word? w op) (word? w op) := by
  refine .andPure (agrees_eatKeyword w) (fun b => if b then some (binary op) else none) ?_
  rintro (_ | _) ts hts
  · exact ⟨hts.1, nofun⟩
  · exact ⟨hts.1, fun _ => hts.2 rfl⟩

lemma agrees_powers : Agrees filled (powers i) (powers j) :=
  agrees_chainLeft (agrees_oneOf (by decide)) (agrees_signed h)

lemma agrees_products : Agrees filled (products i) (products j) :=
  agrees_chainLeft (agrees_oneOf (by decide)) (agrees_powers h)

lemma agrees_sums : Agrees filled (sums i) (sums j) :=
  agrees_chainLeft (agrees_oneOf (by decide)) (agrees_products h)

omit h in
lemma agrees_comparisonOperator : Agrees stepped comparisonOperator comparisonOperator := by
  refine .ifSome (agrees_oneOf (by decide)) (fun _ => .pure _) ?_
  refine .ifEaten (A := balanced) (agrees_eatKeyword "IN") (.pure _) ?_
  refine .ifEaten (A := balanced) (agrees_eatKeyword "CONTAINS") (.pure _) fun c c' k more w => ?_
  rcases hc : c.lexemes with _ | ⟨l, ls⟩
  · refine .none w (List.map_eq_nil_iff.1 hc) fun d hd => .bind (.isKeyword _ 1 d) ?_
    have hnot (v : String) : Reads (eatKeyword v) d false d := .eatKeyword_not fun l hl => by
      rw [hd l hl]
      rfl
    cases (d.lexemes[1]?).any (·.isKeyword "WITH") with
    | true => exact .bind (hnot "STARTS") (.bind (hnot "ENDS") (.pure none d))
    | false => exact .pure none d
  have hlen := length_pos_of_lexemes hc
  refine .isAt w rfl hlen fun b hb => .ite (fun hb' => ?_) fun _ => Agrees.none w
  obtain ⟨m, ms, rfl, hm⟩ := second_of_any hc (hb.trans hb')
  have hsecond : (c.drop 1).lexemes = m :: ms := by
    rw [Cursor.lexemes_drop, hc]
    rfl
  have htwo (v : String) (op : BinaryOp) {q : Parser (Option (Expr → Expr → Expr))}
      (hq : AgreesAt stepped q q c c') : AgreesAt stepped (do
        if ← eatKeyword v then
          skip
          return some (binary op)
        else q) (do
        if ← eatKeyword v then
          skip
          return some (binary op)
        else q) c c' := by
    refine .bindWith (C := fun _ => stepped) (fun ha hb => ?_)
      (agrees_eatExactly (t := (·.isKeyword v)) rfl w) fun eaten n hn he => ?_
    · exact Absorbs.append (eaten_of_exactly (fun _ => Lexeme.isBrace_of_isKeyword) ha).1 hb
    obtain rfl := eq_toNat_of_exactly he hn
    cases eaten with
    | false => exact hq
    | true =>
      exact .first (.skipOne hsecond (Lexeme.isBrace_of_isKeyword hm)) fun _ _ _ => .pure _
  exact htwo "STARTS" .startsWith (htwo "ENDS" .endsWith (Agrees.none w))

lemma agrees_comparison? (left : Expr) :
    Agrees stepped (comparison? i left) (comparison? j left) := by
  refine .ifEaten (A := balanced) (agrees_eatKeyword "IS") ?_ ?_
  · exact .bind (agrees_eatKeyword "NOT") fun _ => .bind (agrees_keyword "NULL") fun _ => .pure _
  · exact .ifSome agrees_comparisonOperator (fun _ => .bind (agrees_sums h) fun _ => .pure _) .none

lemma agrees_comparisons : Agrees filled (comparisons i) (comparisons j) :=
  .first (agrees_sums h) fun _ => (agrees_iterate (agrees_comparison? h) _).even

lemma agrees_negations : Agrees filled (negations i) (negations j) :=
  .bind (agrees_manyEaten (agrees_eatKeyword "NOT") (.pure ())) fun _ =>
    .first (agrees_comparisons h) fun _ => .pure _

lemma agrees_conjunctions : Agrees filled (conjunctions i) (conjunctions j) :=
  agrees_chainLeft (agrees_word? _ _) (agrees_negations h)

lemma agrees_exclusions : Agrees filled (exclusions i) (exclusions j) :=
  agrees_chainLeft (agrees_word? _ _) (agrees_conjunctions h)

lemma agrees_expression : Agrees filled (expression i) (expression j) :=
  agrees_chainLeft (agrees_word? _ _) (agrees_exclusions h)

/-! ### Clauses -/

lemma agrees_projectionItem : Agrees balanced (projectionItem i) (projectionItem j) := by
  intro c c' k more w
  refine .get (.bind (h.expr w) fun x n hn hx => .get ?_)
  have hn0 : n ≠ 0 := by
    rintro rfl
    exact hx.2 (List.take_zero ..)
  rw [w.slice hn hn0]
  exact Agrees.bind (agrees_afterKeyword? "AS" agrees_variableName) (fun _ => .pure _) (w.drop hn)

omit h in
lemma agrees_descending : Agrees balanced descending descending := by
  refine .bind (agrees_eatKeyword "DESC") fun _ => .ite (.pure true) ?_
  refine .bind (agrees_eatKeyword "DESCENDING") fun _ => .ite (.pure true) ?_
  exact .bind (agrees_eatKeyword "ASC") fun _ =>
    .ite (.pure false) (.bind (agrees_eatKeyword "ASCENDING") fun _ => .pure false)

omit h in
lemma agrees_nullsFirst? : Agrees balanced nullsFirst? nullsFirst? := by
  have hfirst : Agrees balanced (do
      if ← eatKeyword "FIRST" then return true
      else
        keyword "LAST"
        return false) (do
      if ← eatKeyword "FIRST" then return true
      else
        keyword "LAST"
        return false) :=
    .bind (agrees_eatKeyword "FIRST") fun _ =>
      .ite (.pure true) (.bind (agrees_keyword "LAST") fun _ => .pure false)
  exact agrees_afterKeyword? "NULLS" hfirst

lemma agrees_sortItem : Agrees filled (sortItem i) (sortItem j) :=
  .first h.expr fun _ => .bind agrees_descending fun _ => .bind agrees_nullsFirst? fun _ => .pure _

lemma agrees_projection : Agrees balanced (projection i) (projection j) := by
  have horder : Agrees balanced (do keyword "BY"; sepBy (sortItem i))
      (do keyword "BY"; sepBy (sortItem j)) :=
    .bind (agrees_keyword "BY") fun _ => agrees_sepBy (agrees_sortItem h)
  refine .bind (agrees_eatKeyword "DISTINCT") fun _ => .bind (agrees_eatSymbol .star rfl) fun _ =>
    .iteBind (agrees_eatSymbol .comma rfl).even (.pure true) fun _ =>
      .iteBind (agrees_sepBy (agrees_projectionItem h)) (.pure []) fun _ => ?_
  exact .bind (agrees_afterKeyword? "ORDER" horder) fun _ =>
    .bind (agrees_afterKeyword? "SKIP" h.expr) fun _ =>
      .bind (agrees_afterKeyword? "LIMIT" h.expr) fun _ => .pure _

lemma agrees_propertyTarget : Agrees balanced (propertyTarget i) (propertyTarget j) := by
  refine .bind (agrees_postfixed h false) fun x => ?_
  split
  · exact .pure _
  · exact .fail _ _ _

lemma agrees_setItem : Agrees balanced (setItem i) (setItem j) := by
  intro c c' k more w
  have hassign {s : Symbol} (f : String → Expr → SetItem Expr) {l m : Lexeme} {ls : List Lexeme}
      (hc : c.lexemes.drop 0 = l :: m :: ls) (hm : (m == .symbol s) = true)
      (hs : isPlain s = true) : AgreesAt balanced (do
        let n ← variableName
        skip
        return f n (← i.expr)) (do
        let n ← variableName
        skip
        return f n (← j.expr)) c c' := by
    obtain rfl := beq_iff_eq.1 hm
    exact .nameAndSkip agrees_namedVariable w hc hs fun _ => .bind h.expr fun _ => .pure _
  refine .isAt_then w rfl rfl (Nat.zero_le _) fun b hb => .ite (fun hb' => ?_) fun _ => ?_
  · obtain ⟨l, m, ls, hc, -, hm⟩ := hb hb'
    exact hassign .replace hc hm rfl
  refine .isAt_then w rfl rfl (Nat.zero_le _) fun b hb => .ite (fun hb' => ?_) fun _ => ?_
  · obtain ⟨l, m, ls, hc, -, hm⟩ := hb hb'
    exact hassign .extend hc hm rfl
  have hlabels : Agrees balanced (do
      let n ← variableName
      return SetItem.labels (ε := Expr) n (← labels)) (do
      let n ← variableName
      return .labels n (← labels)) :=
    .bind agrees_variableName fun _ => .bind agrees_labels fun _ => .pure _
  have hproperty : Agrees balanced (do
      let p ← propertyTarget i
      symbol .equals
      return SetItem.property p.1 p.2 (← i.expr)) (do
      let p ← propertyTarget j
      symbol .equals
      return .property p.1 p.2 (← j.expr)) :=
    .bind (agrees_propertyTarget h) fun _ => .bind (agrees_symbol .equals rfl) fun _ =>
      .bind h.expr fun _ => .pure _
  exact Agrees.bind (agrees_isAt_then rfl rfl) (fun _ => .ite hlabels hproperty) w

lemma agrees_setItems : Agrees balanced (setItems i) (setItems j) := agrees_sepBy (agrees_setItem h)

lemma agrees_removeItem : Agrees balanced (removeItem i) (removeItem j) := by
  refine .bind (agrees_isAt_then rfl rfl) fun _ => .ite ?_ ?_
  · exact .bind agrees_variableName fun _ => .bind agrees_labels fun _ => .pure _
  · exact .bind (agrees_propertyTarget h) fun _ => .pure _

omit h in
lemma agrees_mergeEvent : Agrees balanced mergeEvent mergeEvent :=
  .bind (agrees_eatKeyword "CREATE") fun _ => .ite (.pure false) <|
    .bind (agrees_eatKeyword "MATCH") fun _ => .ite (.pure true) (.unexpected _ _ _)

lemma agrees_mergeAction : Agrees balanced (mergeAction i) (mergeAction j) :=
  .bind agrees_mergeEvent fun _ => .bind (agrees_keyword "SET") fun _ =>
    .bind (agrees_setItems h) fun _ => .pure _

lemma agrees_mergeClause : Agrees balanced (mergeClause i) (mergeClause j) :=
  .bind (agrees_pathPattern h) fun _ =>
    .bind (agrees_manyEaten (agrees_eatKeyword "ON") (agrees_mergeAction h)) fun _ => .pure _

lemma agrees_deleteClause (detach : Bool) :
    Agrees balanced (deleteClause i detach) (deleteClause j detach) :=
  .bind (agrees_sepBy h.expr) fun _ => .pure _

lemma agrees_foreachClause : Agrees filled (foreachClause i) (foreachClause j) := by
  intro c c' k more w
  refine .isEnd w (fun _ => Agrees.unexpected _ _ _ w) fun _ => ?_
  have hclause : Agrees filled (do
      let c ← i.clause
      if c.isWrite then return c else fail (.notInForeach c.name)) (do
      let c ← j.clause
      if c.isWrite then return c else fail (.notInForeach c.name)) :=
    .first h.clause fun _ => .ite (.pure _) (.fail _ _ _)
  exact hclause w

lemma agrees_foreach : Agrees balanced (foreach i) (foreach j) := by
  have hmore : Agrees balanced (do return !(← isSymbol .rightParen))
      (do return !(← isSymbol .rightParen)) :=
    .bind (agrees_isSymbol .rightParen nofun) fun _ => .pure _
  refine .bind (agrees_symbol .leftParen rfl) fun _ => .bind agrees_variableName fun _ =>
    .bind (agrees_keyword "IN") fun _ => .bind h.expr fun _ =>
      .bind (agrees_symbol .bar rfl) fun _ => ?_
  exact .bind (agrees_manyWhile hmore (agrees_foreachClause h)) fun _ =>
    .bind (agrees_symbol .rightParen rfl) fun _ => .ite (.fail _ _ _) (.pure _)

omit h in
lemma agrees_yieldItem : Agrees balanced yieldItem yieldItem :=
  .bind (agrees_name _) fun _ =>
    .bind (agrees_afterKeyword? "AS" agrees_variableName) fun _ => .pure _

lemma agrees_procedureCall : Agrees balanced (procedureCall i) (procedureCall j) := by
  refine .bind (agrees_dottedName _ (agrees_eatSymbol .dot rfl).even) fun _ =>
    .bind (agrees_eatSymbol .leftParen rfl) fun _ =>
      .iteBind (agrees_list .rightParen rfl h.expr).even (.pure []) fun _ => ?_
  refine .bind (agrees_eatKeyword "YIELD") fun _ => .ite ?_ (.pure _)
  exact .bind (agrees_eatSymbol .star rfl) fun _ =>
    .iteBind (.pure none) (.map (agrees_sepBy agrees_yieldItem) some id) fun _ =>
      .bind (agrees_condition? h) fun _ => .pure _

lemma agrees_matching (optional : Bool) :
    Agrees balanced (matching i optional) (matching j optional) :=
  .bind (agrees_patterns h) fun _ => .bind (agrees_condition? h) fun _ => .pure _

lemma agrees_unwind : Agrees balanced (unwind i) (unwind j) :=
  .bind h.expr fun _ => .bind (agrees_keyword "AS") fun _ =>
    .bind agrees_variableName fun _ => .pure _

lemma agrees_withClause : Agrees balanced (withClause i) (withClause j) :=
  .bind (agrees_projection h) fun _ => .bind (agrees_condition? h) fun _ => .pure _

lemma agrees_subquery : Agrees (closed .rightBrace) (subquery i) (subquery j) :=
  .bind (agrees_query h false) fun _ => .andPure (agrees_close .rightBrace nofun) _ id

omit h in
lemma find?_of_forall₂ {β : Type} {R : α → β → Prop} {p : α → Bool} {q : β → Bool}
    (hpq : ∀ a b, R a b → p a = q b) {xs : List α} {ys : List β} (h : List.Forall₂ R xs ys) {a : α}
    (ha : xs.find? p = some a) : ∃ b, ys.find? q = some b ∧ R a b := by
  induction h with
  | nil => cases ha
  | @cons x y xs ys hxy _ ih =>
    rw [List.find?_cons] at ha ⊢
    rw [← hpq x y hxy]
    cases hp : p x with
    | true =>
      rw [hp] at ha
      obtain rfl := Option.some.inj ha
      exact ⟨y, rfl, hxy⟩
    | false =>
      rw [hp] at ha
      exact ih ha

/-- Rules of one name agree. -/
lemma agrees_clauseTable : List.Forall₂ (fun e f => e.1 = f.1 ∧ Agrees balanced e.2 f.2)
    (clauseTable i) (clauseTable j) := by
  simp only [clauseTable, List.forall₂_cons, true_and]
  refine ⟨?_, agrees_matching h false, agrees_unwind h, agrees_withClause h,
    (agrees_projection h).map _ id, (agrees_patterns h).map _ id, agrees_mergeClause h,
    (agrees_setItems h).map _ id, (agrees_sepBy (agrees_removeItem h)).map _ id, ?_,
    agrees_deleteClause h false, agrees_foreach h, ?_, .nil⟩
  · exact .bind (agrees_keyword "MATCH") fun _ => agrees_matching h true
  · exact .bind (agrees_keyword "DELETE") fun _ => agrees_deleteClause h true
  · exact agrees_ifBrace (agrees_subquery h) (agrees_procedureCall h)

lemma agrees_clause : Agrees filled (clause i) (clause j) := by
  intro c c' k more w
  refine .get ?_
  rcases w.next with ⟨hn, -⟩ | ⟨l, ls, hc, hl, hl'⟩
  · simp only [hn, Option.any_none, List.find?_eq_none.2 (fun _ _ => Bool.false_ne_true)]
    exact Agrees.unexpected _ _ _ w
  · simp only [hl, hl', Option.any_some]
    cases he : (clauseTable i).find? fun e => l.isKeyword e.1 with
    | none => exact Agrees.unexpected _ _ _ w
    | some e =>
      obtain ⟨f, hf, -, hagrees⟩ := find?_of_forall₂ (q := fun e => l.isKeyword e.1)
        (fun e f hef => by rw [hef.1]) (agrees_clauseTable h) he
      have hword : l.isKeyword e.1 = true := by simpa using List.find?_some he
      simp only [hf]
      exact .first (.skipOne hc (Lexeme.isBrace_of_isKeyword hword)) fun _ _ hn =>
        hagrees (w.drop hn)

omit h in
/-- A text may be nested deeper where more is allowed. -/
lemma agrees_nested {m n : Nat} (h : m ≤ n) : (nested m).Agrees (nested n) := by
  induction m generalizing n with
  | zero => exact ⟨.fail _ _ _, .fail _ _ _⟩
  | succ m ih =>
    obtain ⟨n, rfl⟩ := Nat.exists_eq_add_of_le' (Nat.zero_lt_of_lt h)
    have ih := ih (Nat.le_of_succ_le_succ h)
    exact ⟨agrees_expression ih, agrees_clause ih⟩

end

end Grammar

end Cypher

end PropertyGraph
