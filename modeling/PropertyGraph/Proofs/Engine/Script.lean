import PropertyGraph.Proofs.Engine.Reachable

/-!
A script of one statement over several lines.

As long as the lines that wait are only incomplete, each line is joined to them and nothing else is
done. So a statement that is complete with its last line, and not before, makes a single request,
for the text that its lines are joined to. That is answered like a request for the text as it
stands if both are parsed to the same.
-/

namespace PropertyGraph

open Cypher

namespace Script

/-- The text that some lines are joined to. -/
def joined (lines : List String) : String := lines.foldl join ""

/-- A text ends before its statement does, and not with a semicolon. -/
structure Unfinished (text : String) : Prop where
  semicolon : endsInSemicolon text = false
  settled : isSettled (Cypher.parse text) = false

lemma joined_append (lines : List String) (line : String) :
    joined (lines ++ [line]) = join (joined lines) line := List.foldl_append ..

lemma endsInSemicolon_join (waiting : String) {line : String} (h : line.isEmpty = false) :
    endsInSemicolon (join waiting line) = endsInSemicolon line := by
  have hline : line.toList ≠ [] := by
    rw [String.isEmpty_eq_false_iff] at h
    simpa using h
  rw [join]
  split_ifs
  · rfl
  · rw [endsInSemicolon, endsInSemicolon, String.toList_append, String.toList_append,
      List.getLast?_append_of_ne_nil _ hline]

/-- No request ends with a line as long as what waits is unfinished. -/
lemma Unfinished.ends {waiting line : String} (h : Unfinished (join waiting line))
    (hline : line.isEmpty = false) : Script.ends line (join waiting line) = false := by
  rw [Script.ends, ← endsInSemicolon_join waiting hline, h.semicolon, h.settled]
  rfl

lemma isEmpty_of_mem_lines {text line : String} (h : line ∈ lines text) : line.isEmpty = false := by
  have hkept := (List.mem_filter.1 h).2
  rw [Bool.and_eq_true, Bool.not_eq_true'] at hkept
  exact hkept.1

end Script

namespace Engine

open Script

variable {e : Engine}

/-- Lines that leave their statement unfinished are joined, and nothing else is done. -/
lemma runLines_unfinished (he : e.cache.Valid) (request : String → Request)
    {done more : List String} (rest : List String) (hmore : ∀ l ∈ more, l.isEmpty = false)
    (h : ∀ ls, ls <+: more → ls ≠ [] → Unfinished (joined (done ++ ls))) :
    ∃ cache : Cache, cache.Valid ∧ e.runLines request (more ++ rest) (joined done) =
      { e with cache }.runLines request rest (joined (done ++ more)) := by
  induction more generalizing done e with
  | nil => exact ⟨e.cache, he, by simp⟩
  | cons l more ih =>
    rw [List.forall_mem_cons] at hmore
    have hfirst : Unfinished (join (joined done) l) := by
      rw [← joined_append]
      exact h [l] (by simp) (List.cons_ne_nil _ _)
    have hrest (ls : List String) (hls : ls <+: more) (_ : ls ≠ []) :
        Unfinished (joined ((done ++ [l]) ++ ls)) := by
      rw [List.append_assoc]
      exact h (l :: ls) (List.cons_prefix_cons.2 ⟨rfl, hls⟩) (List.cons_ne_nil _ _)
    obtain ⟨cache, hcache, hc⟩ := completes_eq he l (join (joined done) l)
    obtain ⟨cache', hcache', hrun⟩ := ih (e := { e with cache }) hcache hmore.2 hrest
    refine ⟨cache', hcache', ?_⟩
    rw [List.cons_append, runLines]
    dsimp only
    rw [hc, hfirst.ends hmore.1, ← joined_append]
    dsimp only
    rw [hrun, List.append_assoc]
    rfl

/-- The last line makes a request of all that waits, whether the text is complete with it or not. -/
lemma runLines_last (he : e.cache.Valid) (request : String → Request) (line waiting : String)
    (h : (join waiting line).isEmpty = false) : ∃ cache : Cache, cache.Valid ∧
    e.runLines request [line] waiting =
      ([({ e with cache }.run (request (join waiting line))).1],
        ({ e with cache }.run (request (join waiting line))).2) := by
  obtain ⟨cache, hcache, hc⟩ := completes_eq he line (join waiting line)
  refine ⟨cache, hcache, ?_⟩
  rw [runLines]
  dsimp only
  rw [hc]
  cases Script.ends line (join waiting line) with
  | true => rfl
  | false =>
    dsimp only
    rw [runLines, h]
    rfl

/-- Requests of texts that are parsed to the same do the same. -/
lemma run_congr {f : Engine} (he : e.cache.Valid) (hf : f.cache.Valid)
    (hconfig : f.config = e.config) (hserver : f.server = e.server) (r : Request) {text : String}
    (htext : Cypher.parse text = Cypher.parse r.text) :
    (f.run { r with text }).1 = (e.run r).1 ∧
      (f.run { r with text }).2.server = (e.run r).2.server := by
  obtain ⟨cache, -, h⟩ := run_eq he r
  obtain ⟨cache', -, h'⟩ := run_eq hf { r with text }
  have hprepared : ({ r with text } : Request).prepared = r.prepared := by
    rw [Request.prepared, Request.prepared, ← htext]
    rfl
  rw [h, h', hprepared]
  cases r.prepared with
  | error x => exact ⟨rfl, hserver⟩
  | ok p =>
    have hcontext : f.context { r with text } p.1 = e.context r p.1 := by
      rw [context, context, hconfig]
    dsimp only
    rw [hcontext, hserver]
    rcases ExceptT.run (runStatements (e.context r p.1) p.2) e.server with ⟨x | reply, s⟩
    · exact ⟨rfl, rfl⟩
    · exact ⟨rfl, rfl⟩

/-- **A script of one statement does what the statement does**, and gives its response, if the
statement is complete with the last line and not before, and if trimming the lines and leaving out
those that are blank or a comment does not change what the text is parsed to. -/
theorem runScript_eq_run (he : e.Reachable) (r : Request) {s : Statement}
    (hparse : Cypher.parse r.text = .ok [s])
    (hsame : Cypher.parse (joined (lines r.text)) = .ok [s])
    (hfronts : ∀ ls, ls <+: lines r.text → ls ≠ [] → ls ≠ lines r.text → Unfinished (joined ls)) :
    (e.runScript r).1 = [(e.run r).1] ∧
      (e.runScript r).2.server.catalog = (e.run r).2.server.catalog ∧
      (e.runScript r).2.server.session = (e.run r).2.server.session := by
  have hcache := he.lawful.cache
  have hempty : Cypher.parse "" ≠ .ok [s] := by
    have h : (Cypher.parse "").toOption.isNone = true := by decide
    intro hs
    rw [hs] at h
    cases h
  rcases List.eq_nil_or_concat' (lines r.text) with hnil | ⟨more, last, hlines⟩
  · rw [hnil] at hsame
    exact absurd hsame hempty
  have hmem (l : String) (hl : l ∈ more ++ [last]) : l.isEmpty = false :=
    isEmpty_of_mem_lines (hlines ▸ hl)
  have hunfinished (ls : List String) (hls : ls <+: more) (hne : ls ≠ []) :
      Unfinished (joined ([] ++ ls)) := by
    refine hfronts ls (hlines ▸ hls.trans (List.prefix_append _ _)) hne ?_
    rintro rfl
    rw [hlines] at hls
    simpa using hls.length_le
  obtain ⟨cache, hcache₁, hmore⟩ := runLines_unfinished hcache (fun text => { r with text }) [last]
    (fun l hl => hmem l (List.mem_append_left _ hl)) hunfinished
  have hjoined : join (joined more) last = joined (lines r.text) := by
    rw [hlines, joined_append]
  have hne : (join (joined more) last).isEmpty = false := by
    rw [hjoined, String.isEmpty_eq_false_iff]
    intro h
    rw [h] at hsame
    exact hempty hsame
  obtain ⟨cache', hcache₂, hlast⟩ := runLines_last (e := { e with cache }) hcache₁
    (fun text => { r with text }) last (joined more) hne
  have hscript : e.runScript r = ([({ e with cache := cache' }.run { r with
      text := joined (lines r.text) }).1], ({ e with cache := cache' }.run { r with
      text := joined (lines r.text) }).2) := by
    rw [← hjoined, runScript, hlines]
    exact hmore.trans hlast
  obtain ⟨hresponse, hserver⟩ := run_congr (f := { e with cache := cache' }) hcache hcache₂ rfl rfl r
    (hsame.trans hparse.symm)
  rw [hscript]
  dsimp only
  rw [hresponse, hserver]
  exact ⟨rfl, rfl, rfl⟩

/-- Whether a text is the command that creates a database of a name. -/
def createsDatabase (name text : String) : Bool :=
  match Cypher.parse text with
  | .ok [.database (.create n false)] => n == name
  | _ => false

lemma parse_of_createsDatabase {name text : String} (h : createsDatabase name text = true) :
    Cypher.parse text = .ok [.database (.create name false)] := by
  rw [createsDatabase] at h
  split at h
  · next hn => rw [hn, beq_iff_eq.1 h]
  · cases h

/-- A command over three lines, with a blank line and a comment between them. -/
theorem runScript_eq_run_command :
    let e := ofConfig {}
    let r : Request := { text := "CREATE\n\n  // for the sales\n\tDATABASE\n  sales", clock := .zero }
    (e.runScript r).1 = [(e.run r).1] ∧
      (e.runScript r).2.server.catalog = (e.run r).2.server.catalog ∧
      (e.runScript r).2.server.session = (e.run r).2.server.session := by
  intro e r
  have hlines : lines r.text = ["CREATE", "DATABASE", "sales"] := by decide +kernel
  refine runScript_eq_run (.ofConfig {}) r (s := .database (.create "sales" false))
    (parse_of_createsDatabase (by decide +kernel)) (parse_of_createsDatabase (by decide +kernel))
    fun ls hls hne hall => ?_
  rw [hlines] at hls hall
  simp only [List.prefix_cons_iff, List.prefix_nil] at hls
  obtain rfl | ⟨_, rfl, rfl | ⟨_, rfl, rfl | ⟨_, rfl, rfl⟩⟩⟩ := hls
  · exact absurd rfl hne
  · exact ⟨by decide +kernel, by decide +kernel⟩
  · exact ⟨by decide +kernel, by decide +kernel⟩
  · exact absurd rfl hall

lemma eq_of_append_newline {cs ds es fs : List Char} (h : cs ++ '\n' :: ds = es ++ '\n' :: fs)
    (hcs : '\n' ∉ cs) (hds : '\n' ∉ ds) : es = cs := by
  have hes : '\n' ∉ es := by
    intro hmem
    have hcount := congrArg (List.count '\n') h
    rw [List.count_append, List.count_append, List.count_cons_self, List.count_cons_self,
      List.count_eq_zero.2 hcs, List.count_eq_zero.2 hds] at hcount
    have := List.count_pos_iff.2 hmem
    omega
  have htake {as : List Char} (bs : List Char) (has : '\n' ∉ as) :
      (as ++ '\n' :: bs).takeWhile (· != '\n') = as := by
    rw [List.takeWhile_append_of_pos fun c hc => bne_iff_ne.2 (ne_of_mem_of_not_mem hc has)]
    simp
  rw [← htake fs hes, ← h, htake ds hcs]

/-- The blanks that a line of a string starts with are lost in a script. -/
theorem not_runScript_eq_run_of_string :
    ¬ ∀ (e : Engine) (r : Request) (s : Statement), e.Reachable → Cypher.parse r.text = .ok [s] →
      (∀ front back, r.text = front ++ "\n" ++ back → Unfinished front) →
        (e.runScript r).1 = [(e.run r).1] := by
  intro h
  let e := ofConfig {}
  let r : Request := { text := "RETURN 'a\n  b' AS x", clock := .zero }
  have hparse : (soleQuery? r.text).isSome = true := by decide +kernel
  have hresponses : (e.runScript r).1.map (·.json.text) ≠ [(e.run r).1].map (·.json.text) := by
    decide +kernel
  obtain ⟨q, hq⟩ := Option.isSome_iff_exists.1 hparse
  refine hresponses (congrArg _ (h e r (.query q) (.ofConfig {}) (parse_of_soleQuery? hq) ?_))
  intro front back htext
  have htext : "RETURN 'a".toList ++ '\n' :: "  b' AS x".toList =
      front.toList ++ '\n' :: back.toList := by
    simpa [r] using congrArg String.toList htext
  obtain rfl : front = "RETURN 'a" :=
    String.toList_inj.1 (eq_of_append_newline htext (by decide) (by decide))
  exact ⟨by decide +kernel, by decide +kernel⟩

end Engine

end PropertyGraph
