import PropertyGraph.Cypher.Grammar.Statement
import PropertyGraph.Proofs.Cypher.Agreement

/-!
The statements of two texts with a semicolon between them.

The rules for statements read the same from a text and from a longer one, which goes on with a
semicolon. So the statements of the first text are read first, up to the semicolon, and then those
of the second one, with nothing behind.
-/

namespace PropertyGraph

namespace Cypher

namespace Grammar

/-! ### Repetition as long as lexemes are alike -/

section

variable {p : Lexeme → Bool} {test : Parser Bool} {item : Parser Unit}

/-- As long as the lexemes are as asked for, the test and the item take one of them. -/
lemma reads_manyWhile
    (hyes : ∀ (c : Cursor) (l : Lexeme) (ls : List Lexeme), c.lexemes = l :: ls → p l = true →
      ∃ d, Reads test c true d ∧ Reads item d () (c.drop 1))
    (hno : ∀ c : Cursor, (∀ l ∈ c.lexemes.head?, p l = false) → Reads test c false c)
    (c : Cursor) :
    ∃ us, Reads (manyWhile test item) c us (c.drop (c.lexemes.takeWhile p).length) := by
  have hloops (xs : List Unit) : ∃ ys, Loops (fun xs => do
      if ← test then return some ((← item) :: xs) else return none) xs c ys
      (c.drop (c.lexemes.takeWhile p).length) := by
    induction hc : c.lexemes generalizing xs c with
    | nil => exact ⟨xs, .stop (.bind (hno c (by simp [hc])) (.pure none c))⟩
    | cons l ls ih =>
      cases hl : p l with
      | false =>
        rw [List.takeWhile_cons_of_neg (by simp [hl])]
        exact ⟨xs, .stop (.bind (hno c (by simp [hc, hl])) (.pure none c))⟩
      | true =>
        obtain ⟨ys, h⟩ := ih (c.drop 1) (() :: xs) (by rw [Cursor.lexemes_drop, hc]; rfl)
        obtain ⟨d, ht, hi⟩ := hyes c l ls hc hl
        have hlt : (c.drop 1).rest.length < c.rest.length := by
          rw [Cursor.rest_drop, List.length_drop]
          exact Nat.sub_lt (length_pos_of_lexemes hc) Nat.one_pos
        refine ⟨ys, .next (.bind ht (.bind hi (.pure _ _))) hlt ?_⟩
        rw [List.takeWhile_cons_of_pos hl, List.length_cons, Nat.add_comm]
        rwa [Cursor.drop_drop] at h
  obtain ⟨ys, h⟩ := hloops []
  exact ⟨_, h.iterate.map List.reverse⟩

end

/-! ### Rules -/

lemma agrees_databaseName : Agrees filled databaseName databaseName := by
  refine agrees_dottedName _ fun c c' k more w => ?_
  refine .isAt_then w rfl rfl (Nat.zero_le _) fun b hb => .ite (fun hb' => ?_)
    fun _ => Agrees.false.even w
  obtain ⟨l, m, ls, hc, hl, -⟩ := hb hb'
  obtain rfl := beq_iff_eq.1 hl
  exact .bind (.skipOne hc rfl) fun _ _ _ _ => .pure true

lemma agrees_ifNotExists : Agrees balanced ifNotExists ifNotExists :=
  .bind (agrees_eatKeyword "IF") fun _ => .ite (.bind (agrees_keyword "NOT") fun _ =>
    .bind (agrees_keyword "EXISTS") fun _ => .pure true) (.pure false)

lemma agrees_ifExists : Agrees balanced ifExists ifExists :=
  .bind (agrees_eatKeyword "IF") fun _ =>
    .ite (.bind (agrees_keyword "EXISTS") fun _ => .pure true) (.pure false)

lemma agrees_ruleName? (what : String) : Agrees balanced (ruleName? what) (ruleName? what) :=
  .bind (agrees_isAt rfl) fun _ => .bind agrees_isName fun _ =>
    .ite ((agrees_name what).even.map some id) (.pure none)

lemma agrees_labelled : Agrees balanced labelled labelled :=
  .bind (agrees_symbol .leftParen rfl) fun _ => .bind agrees_variableName fun _ =>
    .bind (agrees_symbol .colon rfl) fun _ => .bind (agrees_name _) fun _ =>
      .bind (agrees_symbol .rightParen rfl) fun _ => .pure _

lemma agrees_propertyOf (declared : String) :
    Agrees balanced (propertyOf declared) (propertyOf declared) :=
  .bind agrees_variableName fun _ =>
    .ite (.fail _ _ _) (.bind (agrees_symbol .dot rfl) fun _ => (agrees_name _).even)

lemma agrees_labelProperty : Agrees balanced labelProperty labelProperty :=
  .bind (agrees_symbol .colon rfl) fun _ => .bind (agrees_name _) fun _ =>
    .bind (agrees_symbol .leftParen rfl) fun _ => .bind (agrees_name _) fun _ =>
      .bind (agrees_symbol .rightParen rfl) fun _ => .pure _

lemma agrees_createConstraint : Agrees balanced createConstraint createConstraint := by
  refine .bind (agrees_ruleName? _) fun _ => .bind agrees_ifNotExists fun _ =>
    .bind (agrees_eatKeyword "ON") fun _ => ?_
  extract_lets rule
  have hrule (u : Unit) : Agrees balanced (rule u) (rule u) := by
    refine .bind agrees_labelled fun target => .bind (agrees_eatKeyword "ASSERT") fun _ => ?_
    extract_lets assertion
    have hassertion (u : Unit) : Agrees balanced (assertion u) (assertion u) := by
      refine .bind (agrees_eatSymbol .leftParen rfl) fun _ =>
        .bind (agrees_propertyOf _) fun _ => ?_
      extract_lets unique
      have hunique (u : Unit) : Agrees balanced (unique u) (unique u) :=
        .bind (agrees_keyword "IS") fun _ => .bind (agrees_keyword "UNIQUE") fun _ => .pure _
      exact .ite (.bind (agrees_symbol .rightParen rfl) hunique) (hunique ())
    exact .ite (hassertion ()) (.bind (agrees_keyword "REQUIRE") hassertion)
  exact .ite (hrule ()) (.bind (agrees_keyword "FOR") hrule)

lemma agrees_createIndex : Agrees balanced createIndex createIndex := by
  refine .bind (agrees_ruleName? _) fun _ => .bind agrees_ifNotExists fun _ =>
    .bind (agrees_eatKeyword "FOR") fun _ => .ite ?_ ?_
  · exact .bind agrees_labelled fun _ => .bind (agrees_keyword "ON") fun _ =>
      .bind (agrees_symbol .leftParen rfl) fun _ => .bind (agrees_propertyOf _) fun _ =>
        .bind (agrees_symbol .rightParen rfl) fun _ => .pure _
  · exact .bind (agrees_keyword "ON") fun _ => .bind agrees_labelProperty fun _ => .pure _

lemma agrees_dropIndex : Agrees balanced dropIndex dropIndex :=
  .bind (agrees_eatKeyword "ON") fun _ => .ite (.bind agrees_labelProperty fun _ => .pure _) <|
    .bind (agrees_name _) fun _ => .bind agrees_ifExists fun _ => .pure _

lemma agrees_dropStatement : Agrees balanced dropStatement dropStatement := by
  refine .bind (agrees_eatKeyword "DATABASE") fun _ => .ite ?_ ?_
  · exact .bind agrees_databaseName fun _ => .bind agrees_ifExists fun _ => .pure _
  refine .bind (agrees_eatKeyword "CONSTRAINT") fun _ => .ite ?_ ?_
  · exact .bind (agrees_name _) fun _ => .bind agrees_ifExists fun _ => .pure _
  · exact .bind (agrees_eatKeyword "INDEX") fun _ =>
      .ite (.bind agrees_dropIndex fun _ => .pure _) (.unexpected _ _ _)

/-! ### Other commands -/

lemma agrees_transactionCommand? : Agrees stepped transactionCommand? transactionCommand? := by
  intro c c' k more w
  rcases w.next with ⟨hn, -⟩ | ⟨l, ls, hc, hl, hl'⟩
  · refine .none w (by simpa [Cursor.lexeme?] using hn) fun d hd => ?_
    have hnot (v : String) : (d.lexeme? 0).any (·.isKeyword v) = false := by
      refine (Option.any_eq_false _ _).2 fun l hl => ?_
      rw [Cursor.lexeme?_eq, ← List.head?_eq_getElem?] at hl
      rw [hd l hl]
      rfl
    refine .bind (.get d) ?_
    simp only [hnot, List.find?_eq_none.2 (fun _ _ => Bool.false_ne_true)]
    exact .pure none d
  · refine .get ?_
    simp only [hl, hl']
    split
    · rename_i e he
      have hword : l.isKeyword e.1 = true := by simpa using List.find?_some he
      exact .first (.skipOne hc (Lexeme.isBrace_of_isKeyword hword)) fun _ _ hn =>
        (Agrees.bind (agrees_eatKeyword "TRANSACTION") fun _ => .pure _) (w.drop hn)
    · exact Agrees.none w

lemma agrees_createCommand? : Agrees stepped createCommand? createCommand? := by
  intro c c' k more w
  refine .isAt w rfl (Nat.zero_le _) fun b hb => .ite (fun hb' => ?_) fun _ => Agrees.none w
  obtain ⟨l, ls, hc, hl⟩ := cons_of_any (hb.trans hb')
  have hlen := length_pos_of_lexemes hc
  have hskip {v : String} {q : Parser (Option Statement)} {b : Bool}
      (hb : (c.lexemes[1]?).any (·.isKeyword v) = b) (hb' : b = true) (hq : Agrees balanced q q) :
      AgreesAt stepped (do skip 2; q) (do skip 2; q) c c' := by
    obtain ⟨m, ms, rfl, hm⟩ := second_of_any hc (hb.trans hb')
    exact .first (.skipTwo hc (Lexeme.isBrace_of_isKeyword hl) (Lexeme.isBrace_of_isKeyword hm))
      fun _ _ hn => hq (w.drop hn)
  refine .isAt w rfl hlen fun _ hb => .ite (fun hb' => hskip hb hb' ?_) fun _ => ?_
  · exact .bind agrees_databaseName fun _ => .bind agrees_ifNotExists fun _ => .pure _
  refine .isAt w rfl hlen fun _ hb => .ite (fun hb' => hskip hb hb' ?_) fun _ => ?_
  · exact .bind agrees_createConstraint fun _ => .pure _
  refine .isAt w rfl hlen fun _ hb => .ite (fun hb' => hskip hb hb' ?_) fun _ => Agrees.none w
  exact .bind agrees_createIndex fun _ => .pure _

lemma agrees_eatHelp : Agrees eaten eatHelp eatHelp := by
  intro c c' k more w
  refine .isAt w rfl (Nat.zero_le _) fun b hb => .ite (fun hb' => ?_)
    fun _ => agrees_eatKeyword "HELP" w
  obtain ⟨l, ls, hc, hl⟩ := cons_of_any (hb.trans hb')
  obtain rfl := beq_iff_eq.1 hl
  have hlen := length_pos_of_lexemes hc
  refine .isAt w rfl hlen fun found hb => .ite (fun hb' => ?_) fun hb' => ?_
  · obtain ⟨m, ms, rfl, hm⟩ := second_of_any hc (hb.trans hb')
    exact .first (.skipTwo hc rfl (Lexeme.isBrace_of_isKeyword hm)) fun _ _ _ => .pure _
  · obtain rfl := Bool.eq_false_iff.2 hb'
    exact Agrees.false w

lemma reads_unfinished (c : Cursor) : Reads (do
    if ← isEnd then return false
    else return !(← isSymbol .semicolon)) c (c.lexemes.head?.any (· != .symbol .semicolon)) c := by
  refine .bind (.isEnd c) ?_
  cases hc : c.lexemes with
  | nil => exact .pure false c
  | cons l ls =>
    have hat := Reads.isSymbol .semicolon 0 c
    rw [hc] at hat
    exact .bind hat (.pure _ c)

/-- How many lexemes stand before the first semicolon. -/
def statementLength (ls : List Lexeme) : Nat := (ls.takeWhile (· != .symbol .semicolon)).length

lemma reads_skipStatement (c : Cursor) : ∃ us, Reads (manyWhile (do
    if ← isEnd then return false
    else return !(← isSymbol .semicolon)) skip) c us (c.drop (statementLength c.lexemes)) := by
  refine reads_manyWhile (fun c l ls hc hl => ⟨c, ?_, .skip 1 c⟩) (fun c hc => ?_) c
  · have ht := reads_unfinished c
    rwa [hc, List.head?_cons, Option.any_some, hl] at ht
  · have ht := reads_unfinished c
    rwa [(Option.any_eq_false _ _).2 hc] at ht

lemma statementLength_within {c c' : Cursor} {k : Nat} {more : List Token}
    (w : c.Within c' k more) : statementLength c'.lexemes = statementLength c.lexemes := by
  rw [statementLength, statementLength, w.lexemes, List.takeWhile_append]
  split_ifs with hall
  · rcases more with _ | ⟨t, more⟩
    · simp [hall]
    · simp [hall, w.more t rfl]
  · rfl

lemma agrees_showTarget : Agrees anything showTarget showTarget := by
  refine .bind (agrees_eatKeyword "ALL") fun _ c c' k more w => .get (.get ?_)
  rcases w.next with ⟨hn, -⟩ | ⟨l, ls, hc, hl, hl'⟩
  · simp only [hn]
    exact Agrees.unexpected _ _ _ w
  simp only [hl, hl']
  cases l with
  | word v =>
    dsimp only
    cases showTarget? (Text.asciiUpper v) with
    | some t => exact .bind (.skipOne hc rfl) fun _ _ _ _ => (AgreesAt.pure _).mono fun _ => trivial
    | none =>
      have hlen : 1 + statementLength (c.drop 1).lexemes ≤ c.rest.length := by
        rw [← Cursor.length_lexemes, Cursor.lexemes_drop, hc, List.drop_one, List.tail_cons,
          List.length_cons, Nat.add_comm]
        exact Nat.succ_le_succ (List.takeWhile_sublist _).length_le
      have hreads (d : Cursor) : Reads (do
          skip
          let _ ← manyWhile (do
            if ← isEnd then return false
            else return !(← isSymbol .semicolon)) skip
          let e ← get
          return ShowTarget.other (sliceBytes e.source d.offset e.before)) d
          (.other (sliceBytes (d.drop (1 + statementLength (d.drop 1).lexemes)).source d.offset
            (d.drop (1 + statementLength (d.drop 1).lexemes)).before))
          (d.drop (1 + statementLength (d.drop 1).lexemes)) := by
        obtain ⟨us, h⟩ := reads_skipStatement (d.drop 1)
        rw [Cursor.drop_drop] at h
        exact .bind (.skip 1 d) (.bind h (.bind (.get _) (.pure _ _)))
      have hq := hreads c'
      rw [statementLength_within (w.drop (length_pos_of_lexemes hc)),
        w.slice hlen (Nat.add_comm 1 _ ▸ Nat.succ_ne_zero _)] at hq
      exact .of_reads hlen trivial (hreads c) hq
  | _ => exact Agrees.unexpected _ _ _ w

section

variable {i j : Inner} (h : i.Agrees j)

include h

lemma agrees_statement : Agrees nonempty (statement i) (statement j) := by
  have htrivial {α : Type} {p q : Parser α} {A : α → List Token → Prop} (hp : Agrees A p q) :
      Agrees anything p q := hp.mono fun _ => trivial
  refine .ifEaten (A := anything) agrees_eatHelp (htrivial (.pure _)) ?_
  refine .ifSome (A := anything) agrees_transactionCommand? (fun _ => htrivial (.pure _)) ?_
  refine .ifEaten (A := anything) (agrees_eatKeyword "SHOW")
    (agrees_showTarget.andPure _ fun _ => trivial) ?_
  refine .ifEaten (A := anything) (agrees_eatKeyword "USE")
    (agrees_databaseName.andPure _ fun _ => trivial) ?_
  refine .ifSome (A := anything) agrees_createCommand? (fun _ => htrivial (.pure _)) ?_
  refine .ifEaten (A := anything) (agrees_eatKeyword "DROP")
    (htrivial agrees_dropStatement) ?_
  exact (agrees_query h true).andPure _ And.right

end

/-! ### One statement after another -/

/-- How many semicolons stand first. -/
def leading (ls : List Lexeme) : Nat := (ls.takeWhile (· == .symbol .semicolon)).length

lemma leading_append (ls ms : List Lexeme) :
    leading (ls ++ ms) = if leading ls = ls.length then ls.length + leading ms else leading ls := by
  rw [leading, leading, leading, List.takeWhile_append]
  split_ifs
  · rw [List.length_append]
  · rfl

lemma reads_semicolons (c : Cursor) :
    ∃ us, Reads (manyWhile (eatSymbol .semicolon) (return ())) c us
    (c.drop (leading c.lexemes)) := by
  refine reads_manyWhile (fun c l ls hc hl => ⟨c.drop 1, ?_, .pure _ _⟩) (fun c hc => ?_) c
  · exact .eatSymbol (hc.trans (congrArg (· :: ls) (beq_iff_eq.1 hl)))
  · exact .eatSymbol_not fun l hl => beq_eq_false_iff_ne.1 (hc l hl)

/-- A statement up to a semicolon or the end. -/
def endedStatement (inner : Inner) : Parser Statement := do
  let s ← statement inner
  if ← isEnd then return s
  else if ← isSymbol .semicolon then return s
  else unexpected (.item "';' or end of input")

lemma reads_endedStatement {i : Inner} {c d : Cursor} {s : Statement} :
    Reads (endedStatement i) c s d ↔
      Reads (statement i) c s d ∧ ∀ l ∈ d.lexemes.head?, l = .symbol .semicolon := by
  have hend (s : Statement) (c : Cursor) (t : Statement) : Reads (do
      if ← isEnd then return s
      else if ← isSymbol .semicolon then return s
      else unexpected (.item "';' or end of input")) c t d ↔
        s = t ∧ c = d ∧ ∀ l ∈ c.lexemes.head?, l = .symbol .semicolon := by
    obtain ⟨source, before, _ | ⟨u, us⟩⟩ := c
    · constructor
      · rintro ⟨⟩
        exact ⟨rfl, rfl, nofun⟩
      · rintro ⟨rfl, rfl, -⟩
        rfl
    · change (if (u.lexeme == .symbol .semicolon) = true then pure s else unexpected _ :
        Parser Statement) _ = _ ↔ _
      split_ifs with hu
      · constructor
        · rintro ⟨⟩
          refine ⟨rfl, rfl, ?_⟩
          rintro _ ⟨⟩
          exact beq_iff_eq.1 hu
        · rintro ⟨rfl, rfl, -⟩
          rfl
      · refine iff_of_false nofun fun h => hu (beq_iff_eq.2 (h.2.2 _ rfl))
  constructor
  · intro h
    obtain ⟨t, d', hs, h⟩ := Reads.of_bind h
    obtain ⟨rfl, rfl, hd⟩ := (hend t d' s).1 h
    exact ⟨hs, hd⟩
  · rintro ⟨hs, hd⟩
    exact hs.bind ((hend s d s).2 ⟨rfl, rfl, hd⟩)

/-- Another statement, if there is one. -/
def nextStatement (inner : Inner) (ss : List Statement) : Parser (Option (List Statement)) := do
  let more : Parser Bool := do
    let _ ← manyWhile (eatSymbol .semicolon) (return ())
    return !(← isEnd)
  if ← more then return some ((← endedStatement inner) :: ss) else return none

lemma nextStatement_eq (i : Inner) (ss : List Statement) (c : Cursor) :
    nextStatement i ss c = (do
      if ← isEnd then return none
      else return some ((← endedStatement i) :: ss)) (c.drop (leading c.lexemes)) := by
  obtain ⟨us, h⟩ := reads_semicolons c
  have hend := Reads.isEnd (c.drop (leading c.lexemes))
  have hmore : Reads (do
      let _ ← manyWhile (eatSymbol .semicolon) (return ())
      return !(← isEnd)) c (!(c.drop (leading c.lexemes)).lexemes.isEmpty)
        (c.drop (leading c.lexemes)) :=
    h.bind (hend.bind (.pure _ _))
  rw [nextStatement, hmore.bind_eq, hend.bind_eq]
  cases (c.drop (leading c.lexemes)).lexemes.isEmpty <;> rfl

variable {i j : Inner}

/-- Semicolons that stand first do not matter. -/
lemma Loops.leading {ss ts : List Statement} {c e : Cursor} {n : Nat}
    (h : Loops (nextStatement i) ss (c.drop n) ts e)
    (hn : leading c.lexemes = n + leading (c.drop n).lexemes) :
    Loops (nextStatement i) ss c ts e := by
  have hstep (ss : List Statement) : nextStatement i ss (c.drop n) = nextStatement i ss c := by
    rw [nextStatement_eq, nextStatement_eq, hn, Cursor.drop_drop]
  cases h with
  | stop h =>
    rw [Reads, hstep] at h
    exact .stop h
  | next h hlt hs =>
    rw [Reads, hstep] at h
    refine .next h (Nat.lt_of_lt_of_le hlt ?_) hs
    rw [Cursor.rest_drop, List.length_drop]
    exact Nat.sub_le ..

/-- The statements of a text are read in a longer one, up to where the text ends, before what
follows there. -/
lemma loops_within (hij : i.Agrees j) {c c' : Cursor} {k : Nat} {more : List Token}
    (w : c.Within c' k more) {fuel : Nat} {ss ss' : List Statement} {e : Cursor}
    (hs : Reads (steps (nextStatement i) fuel ss) c ss' e) (hfuel : c.rest.length < fuel)
    {ts : List Statement} {f : Cursor}
    (hmore : ∀ us, Loops (nextStatement j) us (c'.drop c.rest.length) (ts.reverse ++ us) f) :
    ∃ rs : List Statement, ss' = rs.reverse ++ ss ∧
      ∀ us, Loops (nextStatement j) us c' (ts.reverse ++ (rs.reverse ++ us)) f := by
  induction fuel generalizing c c' ss with
  | zero => exact absurd hfuel (Nat.not_lt_zero _)
  | succ fuel ih =>
    obtain ⟨o, d, ho, hs⟩ := Reads.of_bind hs
    rw [Reads, nextStatement_eq, (Reads.isEnd _).bind_eq] at ho
    have hle : leading c.lexemes ≤ c.rest.length := by
      rw [← Cursor.length_lexemes]
      exact (List.takeWhile_sublist _).length_le
    have hlead := leading_append c.lexemes (more.map Token.lexeme)
    rw [← w.lexemes] at hlead
    cases hend : (c.drop (leading c.lexemes)).lexemes.isEmpty with
    | true =>
      rw [hend] at ho
      obtain ⟨rfl, rfl⟩ := Prod.mk.inj (Except.ok.inj ho)
      obtain ⟨rfl, rfl⟩ := Prod.mk.inj (Except.ok.inj hs)
      refine ⟨[], rfl, fun us => (hmore us).leading ?_⟩
      have hall : leading c.lexemes = c.lexemes.length := by
        rw [Cursor.lexemes_drop, List.isEmpty_iff, List.drop_eq_nil_iff] at hend
        exact Nat.le_antisymm (List.takeWhile_sublist _).length_le hend
      rw [hlead, if_pos hall, Cursor.lexemes_drop, w.lexemes, ← Cursor.length_lexemes,
        List.drop_left]
    | false =>
      rw [hend] at ho
      obtain ⟨s, d', hs', ho⟩ := Reads.of_bind ho
      obtain ⟨rfl, rfl⟩ := Prod.mk.inj (Except.ok.inj ho)
      obtain ⟨hs', hd⟩ := reads_endedStatement.1 hs'
      obtain ⟨n, hn, rfl, hne, hs''⟩ := agrees_statement hij (w.drop hle) hs'
      have w' := (w.drop hle).drop hn
      have hn0 : n ≠ 0 := by
        rintro rfl
        exact hne (List.take_zero ..)
      have hpart : leading c.lexemes ≠ c.lexemes.length := fun hall => by
        rw [Cursor.lexemes_drop, hall, List.drop_length] at hend
        cases hend
      have hfull : (c'.drop (leading c.lexemes)).lexemes.isEmpty = false := by
        rw [List.isEmpty_eq_false_iff] at hend ⊢
        rw [(w.drop hle).lexemes]
        exact List.append_ne_nil_of_left_ne_nil hend _
      have hnext (us : List Statement) : Reads (nextStatement j us) c' (some (s :: us))
          ((c'.drop (leading c.lexemes)).drop n) := by
        rw [Reads, nextStatement_eq, hlead, if_neg hpart, (Reads.isEnd _).bind_eq, hfull]
        exact (reads_endedStatement.2 ⟨hs'', w'.ends hd⟩).bind (.pure _ _)
      rw [Cursor.rest_drop, List.length_drop] at hn
      have hlength : ((c.drop (leading c.lexemes)).drop n).rest.length =
          c.rest.length - (leading c.lexemes + n) := by
        rw [Cursor.drop_drop, Cursor.rest_drop, List.length_drop]
      have hmore' (us : List Statement) : Loops (nextStatement j) us
          (((c'.drop (leading c.lexemes)).drop n).drop
            ((c.drop (leading c.lexemes)).drop n).rest.length) (ts.reverse ++ us) f := by
        rw [hlength, Cursor.drop_drop, Cursor.drop_drop, ← Nat.add_assoc,
          Nat.add_sub_cancel' (by omega)]
        exact hmore us
      obtain ⟨rs, rfl, hloops⟩ := ih w' hs (by omega) hmore'
      refine ⟨s :: rs, by simp, fun us => .next (hnext us) ?_ ?_⟩
      · have hle' := w.length_le
        rw [Cursor.drop_drop, Cursor.rest_drop, List.length_drop]
        omega
      · simpa using hloops (s :: us)

lemma steps_of_statements {c d : Cursor} {ss : List Statement} (h : Reads (statements i) c ss d) :
    Reads (steps (nextStatement i) (c.rest.length + 1) []) c ss.reverse d := by
  obtain ⟨⟨xs, e⟩, hsteps, h⟩ := bind_eq_ok.1 h
  obtain ⟨rfl, rfl⟩ := Prod.mk.inj (Except.ok.inj h)
  rw [List.reverse_reverse]
  exact hsteps

/-- Statements before others. -/
lemma loops_of_statements (hij : i.Agrees j) {c c' d e : Cursor} {k : Nat} {more : List Token}
    (w : c.Within c' k more) {ss ts : List Statement} (h : Reads (statements i) c ss d)
    (hmore : ∀ us, Loops (nextStatement j) us (c'.drop c.rest.length) (ts.reverse ++ us) e)
    (us : List Statement) : Loops (nextStatement j) us c' ((ss ++ ts).reverse ++ us) e := by
  obtain ⟨rs, hrs, hloops⟩ := loops_within hij w (steps_of_statements h) (Nat.lt_succ_self _) hmore
  rw [List.append_nil, List.reverse_inj] at hrs
  rw [List.reverse_append, List.append_assoc, hrs]
  exact hloops us

/-- Statements, a semicolon, and statements up to the end. -/
lemma reads_sequence {i₁ i₂ : Inner} (hi₁ : i₁.Agrees j) (hi₂ : i₂.Agrees j)
    {c₁ c₂ d₁ d₂ c : Cursor} {k₁ k₂ : Nat} {t : Token} {more : List Token}
    {ss₁ ss₂ : List Statement} (w₁ : c₁.Within c k₁ (t :: more))
    (w₂ : c₂.Within ((c.drop c₁.rest.length).drop 1) k₂ [])
    (h₁ : Reads (statements i₁) c₁ ss₁ d₁) (h₂ : Reads (statements i₂) c₂ ss₂ d₂) :
    ∃ e, Reads (statements j) c (ss₁ ++ ss₂) e := by
  have hnil : (((c.drop c₁.rest.length).drop 1).drop c₂.rest.length).lexemes = [] := by
    rw [Cursor.lexemes_drop, w₂.lexemes, ← Cursor.length_lexemes]
    simp
  have hstop (e : Cursor) (he : e.lexemes = []) (us : List Statement) :
      Loops (nextStatement j) us e ([].reverse ++ us) e := by
    refine .stop ?_
    rw [Reads, nextStatement_eq, (Reads.isEnd _).bind_eq, Cursor.lexemes_drop, he]
    rfl
  have hsecond := loops_of_statements hi₂ w₂ h₂ (hstop _ hnil)
  rw [List.append_nil] at hsecond
  have hlead : leading (c.drop c₁.rest.length).lexemes =
      1 + leading ((c.drop c₁.rest.length).drop 1).lexemes := by
    have hsemicolon := w₁.more t rfl
    rw [Cursor.lexemes_drop _ 1, Cursor.lexemes_drop, w₁.lexemes, ← Cursor.length_lexemes,
      List.drop_left, List.map_cons, hsemicolon, Nat.add_comm]
    rfl
  have hfirst := loops_of_statements hi₁ w₁ h₁ (fun us => (hsecond us).leading hlead) []
  have hreads := hfirst.iterate.map List.reverse
  rw [List.append_nil, List.reverse_reverse] at hreads
  exact ⟨_, hreads⟩

end Grammar

/-! ### Texts -/

lemma parse_eq_ok {source : String} {ss : List Statement} :
    parse source = .ok ss ↔ ss ≠ [] ∧ ∃ ts d, tokenize source = .ok ts ∧
      Grammar.Reads (Grammar.statements (Grammar.nested (ts.length + 1))) ⟨source, 0, ts⟩ ss d := by
  rw [parse]
  cases ht : tokenize source with
  | error e => exact iff_of_false nofun fun ⟨_, _, _, h, _⟩ => nomatch h
  | ok ts =>
    dsimp only
    constructor
    · intro h
      obtain ⟨⟨rs, d⟩, hr, h⟩ := bind_eq_ok.1 h
      cases rs with
      | nil => cases h
      | cons s rs =>
        cases h
        exact ⟨List.cons_ne_nil _ _, ts, d, rfl, hr⟩
    · rintro ⟨hne, _, d, ⟨⟩, hr⟩
      refine bind_eq_ok.2 ⟨(ss, d), hr, ?_⟩
      cases ss with
      | nil => exact absurd rfl hne
      | cons s ss => rfl

/-- A text in a longer one. -/
lemma Cursor.within_text (front back : String) {s : String} {k : Nat} {ts more : List Token}
    {c : Cursor} (h : tokenize s = .ok ts) (hsource : c.source = front ++ s ++ back)
    (hk : front.utf8ByteSize = k) (hrest : c.rest = ts.map (Token.shift k) ++ more)
    (hmore : ∀ t ∈ more.head?, t.lexeme = .symbol .semicolon) :
    Cursor.Within ⟨s, 0, ts⟩ c k more where
  rest := hrest
  more := hmore
  source := ⟨front.toList, back.toList, by simp [hsource], (byteLength_toList front).trans hk⟩
  places := by simpa only [Nat.zero_add] using (tokenize_iff.1 h).places

lemma Token.shift_zero : Token.shift 0 = id := by
  funext t
  simp [Token.shift]

/-- **The statements of two texts with a semicolon between them** are those of the first and those
of the second, unless the first ends in a carriage return and the line feed behind it changes what
it is cut into. -/
theorem parse_sequence {s₁ s₂ : String} {ss₁ ss₂ : List Statement} (h₁ : parse s₁ = .ok ss₁)
    (h₂ : parse s₂ = .ok ss₂)
    (hcr : s₁.toList.getLast? = some '\r' → tokenize (s₁ ++ "\n") = tokenize s₁) :
    parse (s₁ ++ "\n;\n" ++ s₂) = .ok (ss₁ ++ ss₂) := by
  obtain ⟨hne, ts, d, hts, hr₁⟩ := parse_eq_ok.1 h₁
  obtain ⟨-, us, e, hus, hr₂⟩ := parse_eq_ok.1 h₂
  have htokens := tokenize_lines hts hus fun hlast => (hcr hlast).trans hts
  obtain ⟨t, ht⟩ : ∃ t : Token,
      t = ⟨.symbol .semicolon, s₁.utf8ByteSize + 1, s₁.utf8ByteSize + 2⟩ := ⟨_, rfl⟩
  rw [← ht] at htokens
  obtain ⟨c, hc⟩ : ∃ c : Cursor, c = ⟨s₁ ++ "\n;\n" ++ s₂, 0,
      ts ++ t :: us.map (Token.shift (s₁.utf8ByteSize + 3))⟩ := ⟨_, rfl⟩
  have w₁ : Cursor.Within ⟨s₁, 0, ts⟩ c 0 (t :: us.map (Token.shift (s₁.utf8ByteSize + 3))) := by
    refine Cursor.within_text "" ("\n;\n" ++ s₂) hts ?_ rfl ?_ ?_
    · simp [hc, String.append_assoc]
    · simp [hc, Token.shift_zero]
    · rintro _ ⟨⟩
      rw [ht]
  have w₂ : Cursor.Within ⟨s₂, 0, us⟩ ((c.drop ts.length).drop 1) (s₁.utf8ByteSize + 3) [] := by
    refine Cursor.within_text (s₁ ++ "\n;\n") "" hus ?_ ?_ ?_ nofun
    · simp [hc]
    · rw [String.utf8ByteSize_append]
      rfl
    · simp [hc]
  have hnested {n : Nat} (h : n ≤ c.rest.length) :=
    Grammar.agrees_nested (Nat.succ_le_succ h)
  have hlength : c.rest.length = ts.length + (us.length + 1) := by simp [hc]
  obtain ⟨f, hf⟩ := Grammar.reads_sequence (hnested (by omega)) (hnested (by omega)) w₁ w₂ hr₁ hr₂
  rw [hc] at hf
  exact parse_eq_ok.2 ⟨by simp [hne], _, f, htokens, hf⟩

example : (parse "RETURN 1\n;\nRETURN 2").map List.length = .ok 2 := by decide +kernel

/-- The first text ends in a carriage return, which is a blank with a line feed behind it and
without. -/
theorem parse_sequence_carriage_return : ∃ ss₁ ss₂, parse "RETURN 1\r" = .ok ss₁ ∧
    parse "RETURN 2" = .ok ss₂ ∧
    parse ("RETURN 1\r" ++ "\n;\n" ++ "RETURN 2") = .ok (ss₁ ++ ss₂) := by
  have h₁ : (parse "RETURN 1\r").toOption.isSome := by decide +kernel
  have h₂ : (parse "RETURN 2").toOption.isSome := by decide +kernel
  cases hs₁ : parse "RETURN 1\r" with
  | error e =>
    rw [hs₁] at h₁
    cases h₁
  | ok ss₁ =>
    cases hs₂ : parse "RETURN 2" with
    | error e =>
      rw [hs₂] at h₂
      cases h₂
    | ok ss₂ =>
      exact ⟨ss₁, ss₂, rfl, rfl, parse_sequence hs₁ hs₂ fun _ => by decide +kernel⟩

/-- Two slashes in a line that ends with a carriage return at the end of the text are no comment,
and so there are two statements. With a line feed behind it they are one, which takes the semicolon
and the second statement with it. -/
theorem not_parse_sequence_of_slashes :
    (parse "SHOW X // ; RETURN 1\r").map List.length = .ok 2 ∧
      (parse "RETURN 2").map List.length = .ok 1 ∧
      (parse ("SHOW X // ; RETURN 1\r" ++ "\n;\n" ++ "RETURN 2")).map List.length = .ok 2 ∧
      ¬ ∀ (s₁ s₂ : String) (ss₁ ss₂ : List Statement), parse s₁ = .ok ss₁ → parse s₂ = .ok ss₂ →
        parse (s₁ ++ "\n;\n" ++ s₂) = .ok (ss₁ ++ ss₂) := by
  have h₁ : (parse "SHOW X // ; RETURN 1\r").map List.length = .ok 2 := by decide +kernel
  have h₂ : (parse "RETURN 2").map List.length = .ok 1 := by decide +kernel
  have h : (parse ("SHOW X // ; RETURN 1\r" ++ "\n;\n" ++ "RETURN 2")).map List.length = .ok 2 := by
    decide +kernel
  refine ⟨h₁, h₂, h, fun hall => ?_⟩
  cases hs₁ : parse "SHOW X // ; RETURN 1\r" with
  | error e =>
    rw [hs₁] at h₁
    cases h₁
  | ok ss₁ =>
    cases hs₂ : parse "RETURN 2" with
    | error e =>
      rw [hs₂] at h₂
      cases h₂
    | ok ss₂ =>
      rw [hs₁] at h₁
      rw [hs₂] at h₂
      rw [hall _ _ _ _ hs₁ hs₂] at h
      have hl₁ := Except.ok.inj h₁
      have hl₂ := Except.ok.inj h₂
      have hl := Except.ok.inj h
      rw [List.length_append] at hl
      omega

end Cypher

end PropertyGraph
