import PropertyGraph.Matching.Trail
import PropertyGraph.Meaning.Layer
import PropertyGraph.Proofs.Dict
import PropertyGraph.Proofs.Store.Frame

/-!
A run can be put in a frame: on top of older changes, and at another time. Reading does not see
the frame, but for the one function that tells the time.

Matching looks at a graph and not at its journal: walks, shortest paths and matches are the same
with older changes below.
-/

namespace PropertyGraph

section

variable (older : List Change)

namespace Store

variable (s : Store)

lemma steps_above (via : Passage) (used : List RelId) (n : NodeId) :
    (s.above older).steps via used n = s.steps via used n := rfl

lemma walks_above (via : Passage) (max min : Nat) (used : List RelId) (n : NodeId) :
    (s.above older).walks via max min used n = s.walks via max min used n := by
  induction max generalizing min used n with
  | zero => rfl
  | succ max ih => simp only [walks, steps_above, ih]

end Store

namespace Search

variable (s : Search)

/-- The search in the graph with older changes below. -/
def above : Search := { s with store := s.store.above older }

lemma levels_above (fuel depth : Nat) (seen : List NodeId) (frontier : List Path) :
    (s.above older).levels fuel depth seen frontier = s.levels fuel depth seen frontier := by
  induction fuel generalizing depth seen frontier with
  | zero => rfl
  | succ fuel ih =>
    rw [levels, levels, ih]
    rfl

lemma first?_above (fuel depth : Nat) (seen : List NodeId) (frontier : List Path) :
    (s.above older).first? fuel depth seen frontier = s.first? fuel depth seen frontier := by
  induction fuel generalizing depth seen frontier with
  | zero => rfl
  | succ fuel ih =>
    rw [first?, first?]
    simp only [ih]
    rfl

lemma find_above (all : Bool) (start : NodeId) :
    (s.above older).find all start = s.find all start := by
  rw [find, find, levels_above, first?_above]
  rfl

end Search

namespace Matcher

variable (m : Matcher)

/-- The matcher for the graph with older changes below. -/
def above : Matcher := { m with store := m.store.above older }

lemma hopMove_above (h : Cypher.Hop Part) (t : Trail) :
    (m.above older).hopMove h t = m.hopMove h t := by
  have hwalks (p : Cypher.RelPattern Part) (required : Properties) (origin : NodeId) :
      (m.above older).hopWalks p required t origin = m.hopWalks p required t origin := by
    rw [hopWalks, hopWalks]
    split
    · rfl
    · exact m.store.walks_above older ..
  simp only [hopMove, hwalks]
  rfl

lemma shortestMove_above (all : Bool) (h : Cypher.Hop Part) (t : Trail) :
    (m.above older).shortestMove all h t = m.shortestMove all h t := by
  have hfind (via : Passage) (min max : Nat) (stop origin : NodeId) :
      Search.find ⟨(m.above older).store, via, min, max, stop⟩ all origin =
        Search.find ⟨m.store, via, min, max, stop⟩ all origin :=
    Search.find_above older ⟨m.store, via, min, max, stop⟩ all origin
  simp only [shortestMove, hfind]
  rfl

lemma move_above (t : Trail) (v : Move) : (m.above older).move t v = m.move t v := by
  cases v with
  | start p => rfl
  | hop h => exact m.hopMove_above older h t
  | shortest p =>
    rw [move, move]
    split
    · exact m.shortestMove_above older _ _ t
    · rfl
  | close name => rfl

lemma follow_above (vs : List Move) : (m.above older).follow vs = m.follow vs := by
  induction vs with
  | nil => rfl
  | cons v vs ih =>
    funext t
    rw [follow, follow, move_above, ih]

lemma reaches_above (vs : List Move) : (m.above older).reaches vs = m.reaches vs := by
  induction vs with
  | nil => rfl
  | cons v vs ih =>
    funext t
    rw [reaches, reaches, move_above, ih]

/-- **Matches** are the same with older changes below. -/
theorem rows_above (ps : List (Cypher.PathPattern Part)) (row : Row) :
    (m.above older).rows ps row = m.rows ps row := by rw [rows, rows, follow_above]

lemma hasMatch_above (p : Cypher.PathPattern Part) (row : Row) :
    (m.above older).hasMatch p row = m.hasMatch p row := by rw [hasMatch, hasMatch, reaches_above]

lemma paths_above (p : Cypher.PathPattern Part) (row : Row) :
    (m.above older).paths p row = m.paths p row := by rw [paths, paths, follow_above]

end Matcher

end

/-! ### Frames -/

structure Frame where
  older : List Change
  time : Number → Number

/-- The frame that changes nothing. -/
def Frame.bare : Frame := ⟨[], id⟩

variable (fr : Frame)

def Context.within (c : Context) : Context := { c with clock := fr.time c.clock }

def Env.within (env : Env) : Env := (env.toContext.within fr).on (env.store.above fr.older)

lemma Env.store_within (env : Env) : (env.within fr).store = env.store.above fr.older := rfl

lemma Env.within_bare (env : Env) : env.within .bare = env :=
  congrArg env.toContext.on env.store.above_nil

/-- A meaning that does not see a frame. -/
structure Meaning.Steady (m : Meaning) : Prop where
  eval : ∀ env, m.eval (env.within fr) = m.eval env
  paths : ∀ f ∈ m.paths, ∀ env, f (env.within fr) = f env

lemma Meaning.steady_bare (m : Meaning) : m.Steady .bare where
  eval env := by rw [env.within_bare]
  paths f _ env := by rw [env.within_bare]

lemma Meaning.steady_ofName (n : String) : (ofName n).Steady fr := ⟨fun _ => rfl, nofun⟩

/-! ### Values -/

namespace Value

variable (older : List Change) (s : Store)

lemma property_above (k : String) (v : Value) : v.property (s.above older) k = v.property s k := by
  cases v <;> rfl

lemma index_above (v i : Value) : v.index (s.above older) i = v.index s i := by
  cases v <;> cases i <;> rfl

end Value

/-! ### Functions -/

namespace Function

/-- A function that does not see the frame of a call. -/
def Steady (f : Function) : Prop :=
  ∀ c : Call, f.body { c with store := c.store.above fr.older, clock := fr.time c.clock } = f.body c

/-- The name of the function that tells the time, in lower case. -/
def timestampName : String := "timestamp"

lemma steady_of_mem {f : Function}
    (hf : f ∈ graphFunctions ++ sequenceFunctions ++ numericFunctions ++ textFunctions)
    (hname : Text.asciiLower f.name ≠ timestampName) : f.Steady fr := by
  have hall : ∀ f ∈ graphFunctions ++ sequenceFunctions ++ numericFunctions ++ textFunctions,
      Text.asciiLower f.name = timestampName ∨ f.Steady fr := by
    simp only [graphFunctions, sequenceFunctions, numericFunctions, textFunctions,
      List.cons_append, List.nil_append, List.forall_mem_cons, List.not_mem_nil, false_implies,
      implies_true, and_true]
    -- no body looks at the journal, and only one at the clock
    and_intros
    all_goals first
      | exact .inr fun _ => rfl
      | exact .inl rfl
  exact (hall f hf).resolve_left hname

lemma steady_ofName {n : String} {f : Function} (hf : ofName? n = some f)
    (hn : Text.asciiLower n ≠ timestampName) : f.Steady fr := by
  obtain ⟨g, hg, heq⟩ := List.mem_map.1 (Dict.mem_ofList (Dict.mem_of_get? hf))
  obtain ⟨hname, rfl⟩ := Prod.mk.inj heq
  exact steady_of_mem fr hg (hname ▸ hn)

end Function

/-- **Calls do not see a frame**, unless they tell the time. -/
theorem Call.answer_within {n : String} (hn : Text.asciiLower n ≠ Function.timestampName)
    (args : List Value) (env : Env) :
    Call.answer ⟨n, args, (env.within fr).store, (env.within fr).clock⟩ =
      Call.answer ⟨n, args, env.store, env.clock⟩ := by
  rw [answer, answer]
  cases hf : Function.ofName? n with
  | none => rfl
  | some f =>
    have hbody := Function.steady_ofName fr hf hn ⟨n, args, env.store, env.clock⟩
    exact congrArg (fun a => if f.takes args.length then a else _) hbody

end PropertyGraph
