import Mathlib.Data.List.Induction
import PropertyGraph.Proofs.Engine.Caching
import PropertyGraph.Proofs.Engine.Script

/-!
The requests that a script is assembled to.

The lines of a script are cut into groups, and each group makes one request. A group ends with the
first line after which more lines could not mend what has been read, so the groups are determined by
what is said of them: two ways to cut the same lines would have to differ in a first group, and the
shorter one of the two would be a front of the longer one that should have ended it. Running a
script is running the texts of its groups one after the other. All that is done between them is to
look up fronts of the groups in the cache, which cannot be seen from outside.
-/

namespace PropertyGraph

open Cypher

namespace Script

/-! ### Texts of lines -/

/-- Some lines, one under the other. -/
def textOf (lines : List String) : String := "\n".intercalate lines

lemma isEmpty_join (waiting : String) {line : String} (h : line.isEmpty = false) :
    (join waiting line).isEmpty = false := by
  rw [join]
  split_ifs
  · exact h
  · rw [String.isEmpty_eq_false_iff] at h ⊢
    simp [h]

lemma joined_eq_textOf {ls : List String} (h : ∀ l ∈ ls, l.isEmpty = false) :
    joined ls = textOf ls ∧ (ls ≠ [] → (joined ls).isEmpty = false) := by
  induction ls using List.reverseRecOn with
  | nil => exact ⟨rfl, fun hne => absurd rfl hne⟩
  | append_singleton ls l ih =>
    have hl := h l (by simp)
    obtain ⟨heq, hne⟩ := ih fun m hm => h m (by simp [hm])
    rw [joined_append]
    refine ⟨?_, fun _ => isEmpty_join _ hl⟩
    rcases eq_or_ne ls [] with rfl | hls
    · rfl
    · rw [join, hne hls, heq, textOf, textOf,
        String.intercalate_append_of_ne_nil hls (List.cons_ne_nil _ _),
        String.intercalate_singleton]
      rfl

lemma join_eq_textOf {ls : List String} {line : String}
    (h : ∀ l ∈ ls ++ [line], l.isEmpty = false) :
    join (joined ls) line = textOf (ls ++ [line]) := by
  rw [← joined_append, (joined_eq_textOf h).1]

/-- Texts of lines that are put under each other are the text of all the lines. -/
lemma textOf_map_textOf {bs : List (List String)} (h : ∀ b ∈ bs, b ≠ []) :
    textOf (bs.map textOf) = textOf bs.flatten := by
  induction bs with
  | nil => rfl
  | cons b bs ih =>
    rw [List.forall_mem_cons] at h
    rcases eq_or_ne bs [] with rfl | hbs
    · simp [textOf]
    · have hflat : bs.flatten ≠ [] := by
        obtain ⟨c, hc⟩ := List.exists_mem_of_ne_nil bs hbs
        exact fun hnil => h.2 c hc (List.flatten_eq_nil_iff.1 hnil c hc)
      rw [List.map_cons, textOf, String.intercalate_cons_of_ne_nil (by simpa using hbs),
        List.flatten_cons]
      refine (congrArg (textOf b ++ "\n" ++ ·) (ih h.2)).trans ?_
      exact (String.intercalate_append_of_ne_nil h.1 hflat).symm

/-! ### Groups of lines -/

/-- A text makes a request as it is: it ends in a semicolon, or it is parsed, or it fails to be for
another reason than that it ends too early. -/
inductive Closed (text : String) : Prop
  | semicolon (h : endsInSemicolon text = true)
  | parsed {ks : List Statement} (h : Cypher.parse text = .ok ks)
  | failed {x : ParseError} (h : Cypher.parse text = .error x) (hx : x.atEnd = false)

lemma ends_join_iff (waiting : String) {line : String} (h : line.isEmpty = false) :
    ends line (join waiting line) = true ↔ Closed (join waiting line) := by
  rw [ends, ← endsInSemicolon_join waiting h, Bool.or_eq_true]
  constructor
  · rintro (hsemicolon | hsettled)
    · exact .semicolon hsemicolon
    · cases hp : Cypher.parse (join waiting line) with
      | ok ks => exact .parsed hp
      | error x =>
        rw [hp] at hsettled
        exact .failed hp (by simpa [isSettled] using hsettled)
  · rintro (hsemicolon | hp | ⟨hp, hx⟩)
    · exact .inl hsemicolon
    · rw [hp]
      exact .inr rfl
    · rw [hp]
      exact .inr (by simpa [isSettled] using hx)

/-- Lines that wait: none of their fronts makes a request as it is. -/
def Open (ls : List String) : Prop := ∀ front, front <+: ls → front ≠ [] → ¬ Closed (textOf front)

/-- **How lines are cut into groups that make a request each.** Nothing is left out, repeated or
moved; each group but the last one makes a request as it is, and no front of a group does. -/
structure Assembled (lines : List String) (groups : List (List String)) : Prop where
  flatten : groups.flatten = lines
  ne_nil : ∀ b ∈ groups, b ≠ []
  closed : ∀ b ∈ groups.dropLast, Closed (textOf b)
  first : ∀ b ∈ groups, ∀ front, front <+: b → front ≠ [] → front ≠ b → ¬ Closed (textOf front)

namespace Assembled

variable {ls b c : List String} {bs cs : List (List String)}

lemma nil : Assembled [] [] := ⟨rfl, nofun, nofun, nofun⟩

lemma cons (hne : b ≠ []) (hclosed : Closed (textOf b))
    (hfirst : ∀ front, front <+: b → front ≠ [] → front ≠ b → ¬ Closed (textOf front))
    (h : Assembled ls bs) : Assembled (b ++ ls) (b :: bs) where
  flatten := by rw [List.flatten_cons, h.flatten]
  ne_nil := List.forall_mem_cons.2 ⟨hne, h.ne_nil⟩
  closed := by
    rcases eq_or_ne bs [] with rfl | hbs
    · nofun
    · rw [List.dropLast_cons_of_ne_nil hbs]
      exact List.forall_mem_cons.2 ⟨hclosed, h.closed⟩
  first := List.forall_mem_cons.2 ⟨hfirst, h.first⟩

lemma tail (h : Assembled ls (b :: bs)) : Assembled bs.flatten bs where
  flatten := rfl
  ne_nil := (List.forall_mem_cons.1 h.ne_nil).2
  closed := by
    rcases eq_or_ne bs [] with rfl | hbs
    · nofun
    · have := h.closed
      rw [List.dropLast_cons_of_ne_nil hbs] at this
      exact (List.forall_mem_cons.1 this).2
  first := (List.forall_mem_cons.1 h.first).2

/-- What comes first in two ways to cut the same lines cannot be shorter in one of them. -/
lemma eq_of_front (hb : Assembled ls (b :: bs)) (hc : Assembled ls (c :: cs)) (h : b <+: c) :
    b = c := by
  by_contra hne
  have hopen : ¬ Closed (textOf b) := hc.first c (by simp) b h (hb.ne_nil b (by simp)) hne
  have hbs : bs = [] := by
    by_contra hbs
    refine hopen (hb.closed b ?_)
    rw [List.dropLast_cons_of_ne_nil hbs]
    simp
  subst hbs
  have hle : c.length ≤ b.length := by
    have h₁ := congrArg List.length hb.flatten
    have h₂ := congrArg List.length hc.flatten
    simp only [List.flatten_cons, List.flatten_nil, List.length_append, List.append_nil] at h₁ h₂
    omega
  exact hne (h.eq_of_length_le hle)

/-- **There is one way only to cut lines into groups.** -/
theorem unique (hb : Assembled ls bs) (hc : Assembled ls cs) : bs = cs := by
  induction bs generalizing ls cs with
  | nil =>
    cases cs with
    | nil => rfl
    | cons c cs =>
      have hflat := hc.flatten.trans hb.flatten.symm
      exact absurd (List.append_eq_nil_iff.1 hflat).1 (hc.ne_nil c (by simp))
  | cons b bs ih =>
    cases cs with
    | nil =>
      have hflat := hb.flatten.trans hc.flatten.symm
      exact absurd (List.append_eq_nil_iff.1 hflat).1 (hb.ne_nil b (by simp))
    | cons c cs =>
      have hbl : b <+: ls := ⟨bs.flatten, hb.flatten⟩
      have hcl : c <+: ls := ⟨cs.flatten, hc.flatten⟩
      obtain rfl : b = c := by
        rcases List.prefix_or_prefix_of_prefix hbl hcl with h | h
        · exact eq_of_front hb hc h
        · exact (eq_of_front hc hb h).symm
      have hflat : bs.flatten = cs.flatten :=
        List.append_cancel_left (hb.flatten.trans hc.flatten.symm)
      rw [ih (hflat ▸ hb.tail) hc.tail]

end Assembled

/-- The groups of the lines after some that wait. -/
def groups : List String → List String → List (List String)
  | [], waiting => if waiting.isEmpty then [] else [waiting]
  | line :: lines, waiting =>
    if ends line (join (joined waiting) line) then (waiting ++ [line]) :: groups lines []
    else groups lines (waiting ++ [line])

lemma assembled_groups {lines waiting : List String} (hw : Open waiting)
    (h : ∀ l ∈ waiting ++ lines, l.isEmpty = false) :
    Assembled (waiting ++ lines) (groups lines waiting) := by
  induction lines generalizing waiting with
  | nil =>
    rw [groups, List.append_nil]
    cases waiting with
    | nil => exact .nil
    | cons l ls =>
      exact ⟨by simp, by simp, nofun, fun b hb front hfront hne _ =>
        hw front (List.mem_singleton.1 hb ▸ hfront) hne⟩
  | cons line lines ih =>
    rw [groups]
    rw [List.append_cons] at h ⊢
    have htext : join (joined waiting) line = textOf (waiting ++ [line]) :=
      join_eq_textOf fun l hl => h l (List.mem_append_left _ hl)
    have hends := ends_join_iff (joined waiting) (h line (by simp))
    rw [htext] at hends
    rw [htext]
    split_ifs with hend
    · have hrest : Assembled lines (groups lines []) := by
        refine ih (fun front hfront hne => absurd (List.prefix_nil.1 hfront) hne) fun l hl => ?_
        exact h l (List.mem_append_right _ hl)
      refine hrest.cons (by simp) (hends.1 hend) fun front hfront hne hlt => ?_
      exact hw front ((List.prefix_concat_iff.1 hfront).resolve_left hlt) hne
    · refine ih (fun front hfront hne => ?_) h
      rcases List.prefix_concat_iff.1 hfront with rfl | hfront
      · exact fun hclosed => hend (hends.2 hclosed)
      · exact hw front hfront hne

/-- The texts that are looked up as lines come after what waits. -/
def probed : List String → String → List String
  | [], _ => []
  | line :: lines, waiting =>
    probes line (join waiting line) ++ probed lines (join waiting line)

lemma probed_append (ls : List String) (line waiting : String) :
    probed (ls ++ [line]) waiting = probed ls waiting ++
      probes line (join (ls.foldl join waiting) line) := by
  induction ls generalizing waiting with
  | nil => simp [probed]
  | cons l ls ih =>
    rw [List.cons_append, probed, ih, probed, List.append_assoc]
    rfl

end Script

/-! ### Running groups -/

lemma Cache.Valid.lookUp {c : Cache} (hc : c.Valid) (texts : List String) :
    (c.lookUp texts).Valid := by
  induction texts generalizing c with
  | nil => exact hc
  | cons text texts ih => exact ih (hc.parse text)

namespace Engine

open Script

variable {e f : Engine}

/-- The engine after some texts have been looked up. -/
def lookUp (texts : List String) (e : Engine) : Engine :=
  { e with cache := e.cache.lookUp texts }

lemma lookUp_append (texts texts' : List String) (e : Engine) :
    e.lookUp (texts ++ texts') = (e.lookUp texts).lookUp texts' := by
  rw [lookUp, Cache.lookUp_append]
  rfl

/-- Runs the texts of some groups of lines, one after the other. Before a text is run, its fronts
are looked up. -/
def runGroups (request : String → Request) :
    List (List String) → Engine → List Response × Engine
  | [], e => ([], e)
  | b :: bs, e =>
    let (r, e) := (e.lookUp (probed b "")).run (request (textOf b))
    let (rs, e) := runGroups request bs e
    (r :: rs, e)

lemma valid_run (he : e.cache.Valid) (r : Request) : (e.run r).2.cache.Valid := by
  rw [cache_run]
  exact he.lookUp _

/-- **The lines of a script are run as the groups they make.** What has been looked up for the lines
that wait belongs to their group. -/
theorem runLines_eq_runGroups (he : e.cache.Valid) (request : String → Request)
    {lines waiting : List String} (h : ∀ l ∈ waiting ++ lines, l.isEmpty = false) :
    (e.lookUp (probed waiting "")).runLines request lines (joined waiting) =
      e.runGroups request (groups lines waiting) := by
  induction lines generalizing waiting e with
  | nil =>
    rw [List.append_nil] at h
    obtain ⟨htext, hne⟩ := joined_eq_textOf h
    rw [runLines, groups]
    cases waiting with
    | nil => rfl
    | cons l ls =>
      rw [hne (List.cons_ne_nil _ _), htext]
      rfl
  | cons line lines ih =>
    rw [List.append_cons] at h
    have hcache : (e.lookUp (probed waiting "")).cache.Valid := he.lookUp _
    have hnext : (e.lookUp (probed waiting "")).lookUp
        (probes line (join (joined waiting) line)) =
          e.lookUp (probed (waiting ++ [line]) "") := by
      rw [probed_append, lookUp_append]
      rfl
    have hcompletes : (e.lookUp (probed waiting "")).completes line (join (joined waiting) line) =
        (Script.ends line (join (joined waiting) line),
          e.lookUp (probed (waiting ++ [line]) "")) := by
      rw [completes_probes hcache, ← hnext]
      rfl
    have htext : join (joined waiting) line = textOf (waiting ++ [line]) :=
      join_eq_textOf fun l hl => h l (List.mem_append_left _ hl)
    rw [runLines, groups]
    dsimp only
    rw [hcompletes]
    cases Script.ends line (join (joined waiting) line) with
    | true =>
      rw [if_pos rfl, runGroups, ← htext]
      have hprobed : (e.lookUp (probed (waiting ++ [line]) "")).cache.Valid := he.lookUp _
      have hlines (l : String) (hl : l ∈ [] ++ lines) : l.isEmpty = false :=
        h l (List.mem_append_right _ hl)
      have hrest := ih (valid_run hprobed (request (join (joined waiting) line))) hlines
      dsimp only
      rw [← hrest]
      rfl
    | false =>
      rw [if_neg Bool.false_ne_true, ← ih he h, joined_append]

/-- Looking up texts cannot be seen from outside. -/
lemma Twin.lookUp (h : Twin e f) (texts : List String) : Twin (e.lookUp texts) f :=
  ⟨h.defaultDatabase, h.maxHops, h.server, h.left.lookUp texts, h.right⟩

lemma Twin.runGroups (h : Twin e f) (request : String → Request) (bs : List (List String)) :
    (f.session (bs.map fun b => .action (.run (request (textOf b))))).1 =
        (e.runGroups request bs).1.map .response ∧
      Twin (e.runGroups request bs).2
        (f.session (bs.map fun b => .action (.run (request (textOf b))))).2 := by
  induction bs generalizing e f with
  | nil => exact ⟨rfl, h⟩
  | cons b bs ih =>
    obtain ⟨hresponse, htwin⟩ := (h.lookUp (probed b "")).run (request (textOf b))
    obtain ⟨hresponses, htwin'⟩ := ih htwin
    exact ⟨congrArg₂ List.cons (congrArg Answer.response hresponse) hresponses, htwin'⟩

/-- **A script loses and repeats nothing.** There is exactly one way to cut its lines (without
blanks around them, empty lines and comments) into groups of which each but the last one makes a
request as it is, and no front of one does. The script runs the texts of these groups in order, with one
response for each; under each other they are the lines of the script. Between them it only looks up
fronts of the groups, so the responses and the server are those of the same requests made alone. -/
theorem runScript_assembles (he : e.Reachable) (r : Request) :
    ∃ bs : List (List String), (∀ cs, Assembled (lines r.text) cs ↔ cs = bs) ∧
      textOf (bs.map textOf) = textOf (lines r.text) ∧
      e.runScript r = e.runGroups (fun text => { r with text }) bs ∧
      (e.session (bs.map fun b => .action (.run { r with text := textOf b }))).1 =
        (e.runScript r).1.map .response ∧
      (e.session (bs.map fun b => .action (.run { r with text := textOf b }))).2.server =
        (e.runScript r).2.server := by
  have hcache := he.lawful.cache
  have hlines (l : String) (hl : l ∈ [] ++ lines r.text) : l.isEmpty = false :=
    isEmpty_of_mem_lines hl
  have hbs : Assembled (lines r.text) (groups (lines r.text) []) :=
    assembled_groups (fun front hfront hne => absurd (List.prefix_nil.1 hfront) hne) hlines
  have hrun :
      e.runScript r = e.runGroups (fun text => { r with text }) (groups (lines r.text) []) :=
    runLines_eq_runGroups hcache _ hlines
  have htwin : Twin e e := ⟨rfl, rfl, rfl, hcache, hcache⟩
  obtain ⟨hresponses, htwin'⟩ :=
    htwin.runGroups (fun text => { r with text }) (groups (lines r.text) [])
  refine ⟨groups (lines r.text) [], fun cs => ?_, ?_, hrun, ?_, ?_⟩
  · constructor
    · exact fun hcs => hcs.unique hbs
    · rintro rfl
      exact hbs
  · rw [textOf_map_textOf hbs.ne_nil, hbs.flatten]
  · rw [hrun]
    exact hresponses
  · rw [hrun]
    exact htwin'.server

/-- A semicolon, a text that is read, a comment that would hide one, and an end that is missing. -/
theorem runScript_assembles_mixed :
    let e := ofConfig {}
    let r : Request :=
      { text := "RETURN\n  1 AS x;\n\n// RETURN 2 AS x\nRETURN 3 AS x\n RETURN", clock := .zero }
    let bs := [["RETURN", "1 AS x;"], ["RETURN 3 AS x"], ["RETURN"]]
    Assembled (lines r.text) bs ∧ e.runScript r = e.runGroups (fun text => { r with text }) bs ∧
      (e.session (["RETURN\n1 AS x;", "RETURN 3 AS x", "RETURN"].map fun text =>
        .action (.run { r with text }))).1 = (e.runScript r).1.map .response := by
  intro e r bs
  have hgroups : groups (lines r.text) [] = bs := by decide +kernel
  have hbs : Assembled (lines r.text) bs := by
    rw [← hgroups]
    exact assembled_groups (fun front hfront hne => absurd (List.prefix_nil.1 hfront) hne)
      fun l hl => isEmpty_of_mem_lines hl
  obtain ⟨bs', hunique, -, hrun, hresponses, -⟩ := runScript_assembles (.ofConfig {}) r
  obtain rfl := (hunique bs).1 hbs
  exact ⟨hbs, hrun, hresponses⟩

end Engine

end PropertyGraph
