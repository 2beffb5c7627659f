import PropertyGraph.Engine.Script
import PropertyGraph.Proofs.Engine.Step
import PropertyGraph.Proofs.Except

/-!
The engines that requests, scripts and resets lead to. All their graphs are lawful, and the
cache gives for a text what the parser gives.

What every statement of a kind keeps is kept by requests of such statements, and by scripts that
make such requests; so for an engine only statements have to be looked at.
-/

namespace PropertyGraph

open Cypher

/-! ### Catalogs -/

namespace Catalog

variable {c d : Catalog} {n : String}

/-- All graphs are lawful. -/
def Lawful (c : Catalog) : Prop := ∀ n g, c.get? n = some g → g.Lawful

lemma get?_put (c : Catalog) (n m : String) (g : Store) :
    (c.put n g).get? m = if n = m then (c.get? m).map fun _ => g else c.get? m :=
  Dict.get?_modify c.databases n m fun _ => g

lemma contains_iff : c.contains n ↔ ∃ g, c.get? n = some g :=
  Option.isSome_iff_exists

lemma contains_put (c : Catalog) (n m : String) (g : Store) :
    (c.put n g).contains m = c.contains m := by
  rw [contains, contains, Dict.contains, Dict.contains]
  change ((c.put n g).get? m).isSome = (c.get? m).isSome
  rw [get?_put]
  split_ifs
  · rw [Option.isSome_map]
  · rfl

lemma names_put (c : Catalog) (n : String) (g : Store) : (c.put n g).names = c.names := by
  have hfst (e : String × Store) : (if e.1 = n then (e.1, g) else e).1 = e.1 := by
    split_ifs <;> rfl
  exact (List.map_map ..).trans (List.map_congr_left fun e _ => hfst e)

lemma get?_create (h : c.create n = .ok d) (m : String) :
    d.get? m = if n = m then some {} else c.get? m := by
  rw [create] at h
  split_ifs at h
  obtain rfl := Except.ok.inj h
  exact Dict.get?_insert ..

lemma get?_drop (h : c.drop n = .ok d) (m : String) :
    d.get? m = if n = m then none else c.get? m := by
  rw [drop] at h
  split_ifs at h
  obtain rfl := Except.ok.inj h
  exact Dict.get?_erase ..

/-- All graphs have a property. -/
def All (P : Store → Prop) (c : Catalog) : Prop := ∀ n g, c.get? n = some g → P g

variable {P : Store → Prop}

lemma all_ofDefault (h : P {}) (n : String) : (ofDefault n).All P := by
  intro m g hg
  rw [get?, ofDefault, Dict.get?_cons] at hg
  split_ifs at hg
  · obtain rfl := Option.some.inj hg
    exact h
  · simp at hg

lemma All.put (hc : c.All P) {g : Store} (hg : P g) (n : String) : (c.put n g).All P := by
  intro m h hm
  rw [get?_put] at hm
  split_ifs at hm
  · obtain ⟨-, -, rfl⟩ := Option.map_eq_some_iff.1 hm
    exact hg
  · exact hc m _ hm

lemma All.create (hc : c.All P) (hP : P {}) (h : c.create n = .ok d) : d.All P := by
  intro m g hm
  rw [get?_create h] at hm
  split_ifs at hm
  · obtain rfl := Option.some.inj hm
    exact hP
  · exact hc m _ hm

lemma All.drop (hc : c.All P) (h : c.drop n = .ok d) : d.All P := by
  intro m g hm
  rw [get?_drop h] at hm
  split_ifs at hm
  exact hc m _ hm

lemma lawful_ofDefault (n : String) : (ofDefault n).Lawful := all_ofDefault Store.lawful_empty n

end Catalog

/-! ### Servers -/

/-- A property of the empty graph that commits and rollbacks keep. -/
structure Store.Lasting (P : Store → Prop) : Prop where
  empty : P {}
  commit : ∀ {g : Store}, P g → P g.commit
  rollbackTo : ∀ {g : Store}, P g → ∀ m, P (g.rollbackTo m)

lemma Store.lasting_lawful : Store.Lasting Store.Lawful := ⟨lawful_empty, .commit, .rollbackTo⟩

namespace Server

variable {s t : Server} {r : Except Error Reply}

lemma settled_catalog (s : Server) : s.settled.catalog = s.catalog := by
  rw [settled]
  split_ifs <;> rfl

/-- **A step keeps a lasting property of all graphs** if edits do. -/
theorem StepBy.all {L : Store → Store → Prop} {P : Store → Prop} (h : s.StepBy L r t)
    (hP : Store.Lasting P) (hL : ∀ g h, L g h → P g → P h) (hs : s.catalog.All P) :
    t.catalog.All P := by
  cases h with
  | refuse => exact hs
  | tell => exact hs
  | edit hg hl =>
    have hh := hL _ _ hl (hs _ _ hg)
    refine hs.put ?_ _
    split_ifs
    · exact hh
    · exact hP.commit hh
  | undo hg hl => exact hs.put (hP.rollbackTo (hL _ _ hl (hs _ _ hg)) _) _
  | create _ hc => exact hs.create hP.empty hc
  | drop _ hc => rw [settled_catalog]; exact hs.drop hc
  | settle => rw [settled_catalog]; exact hs
  | use => exact hs
  | start => exact hs
  | commit hg => exact hs.put (hP.commit (hs _ _ hg)) _
  | rollback hg => exact hs.put (hP.commit (hP.rollbackTo (hs _ _ hg) _)) _

/-- **A step keeps all graphs lawful.** -/
theorem Step.lawful (h : s.Step r t) (hs : s.catalog.Lawful) : t.catalog.Lawful :=
  h.all Store.lasting_lawful (fun _ _ hl hg => hg.leads hl) hs

end Server

/-! ### What statements keep -/

/-- The parameters are those of a request. -/
def Context.Requested (c : Context) : Prop := ∃ r : Engine.Request, r.bindings = .ok c.parameters

/-- A property of servers that statements of a kind keep, whatever they are requested with. -/
def Server.KeptBy (I : Server → Prop) (A : Statement → Prop) : Prop :=
  ∀ (c : Context) (k : Statement) (s : Server), c.Requested → A k → I s →
    I (ExceptT.run (k.run c) s).2

/-- All statements of a text are of a kind, if it can be parsed. -/
def Cypher.Only (A : Statement → Prop) (text : String) : Prop :=
  ∀ ks, Cypher.parse text = .ok ks → ∀ k ∈ ks, A k

lemma Cypher.Only.imp {A B : Statement → Prop} {text : String} (h : Only A text)
    (hAB : ∀ k, A k → B k) : Only B text :=
  fun ks hks k hk => hAB k (h ks hks k hk)

instance {A : Statement → Prop} [DecidablePred A] (text : String) :
    Decidable (Cypher.Only A text) :=
  match h : Cypher.parse text with
  | .ok ks => decidable_of_iff (∀ k ∈ ks, A k)
      ⟨fun hA _ h' => Except.ok.inj (h.symm.trans h') ▸ hA, fun hA => hA ks h⟩
  | .error _ => .isTrue fun _ h' => nomatch h.symm.trans h'

lemma Cypher.keeps_runStatements {I : Server → Prop} {c : Context} {ks : List Statement}
    (h : ∀ k ∈ ks, ∀ s, I s → I (ExceptT.run (k.run c) s).2) (reply : Reply) {s : Server}
    (hs : I s) : I (ExceptT.run (ks.foldlM (fun _ k => k.run c) reply) s).2 := by
  induction ks generalizing reply s with
  | nil => exact hs
  | cons k ks ih =>
    have hk := h k (by simp) s hs
    rw [List.foldlM_cons, run_bind]
    rcases hrun : ExceptT.run (k.run c) s with ⟨x | r, t⟩
    · rwa [hrun] at hk
    · rw [hrun] at hk
      exact ih (fun k hk => h k (by simp [hk])) r hk

lemma Server.keptBy_lawful : KeptBy (fun s => s.catalog.Lawful) fun _ => True :=
  fun c k s _ _ hs => (k.step_run c s).lawful hs

lemma Cypher.lawful_runStatements (c : Context) (ks : List Statement) (reply : Reply)
    {s : Server} (hs : s.catalog.Lawful) :
    (ExceptT.run (ks.foldlM (fun _ k => k.run c) reply) s).2.catalog.Lawful :=
  keeps_runStatements (I := fun s => s.catalog.Lawful)
    (fun k _ s hs => (k.step_run c s).lawful hs) reply hs

/-! ### Caches -/

namespace Cache

/-- The statements that are kept are those of their texts. -/
def Valid (c : Cache) : Prop := ∀ text ks, (text, ks) ∈ c.entries → Cypher.parse text = .ok ks

variable {c : Cache}

/-- Looking up a text that is kept changes no more than the order. -/
lemma perm_of_take? {text : String} {es rest : List (String × List Statement)}
    {ks : List Statement} (h : take? text es = some (ks, rest)) : es.Perm ((text, ks) :: rest) := by
  induction es generalizing rest with
  | nil => simp [take?] at h
  | cons e es ih =>
    rw [take?] at h
    split_ifs at h with he
    · obtain ⟨rfl, rfl⟩ := Prod.mk.inj (Option.some.inj h)
      rw [← he]
    · obtain ⟨⟨ks', rest'⟩, ht, heq⟩ := Option.map_eq_some_iff.1 h
      obtain ⟨rfl, rfl⟩ := Prod.mk.inj heq
      exact ((ih ht).cons e).trans (.swap _ _ _)

/-- **The cache changes no result.** -/
theorem Valid.parse_fst (hc : c.Valid) (text : String) :
    (c.parse text).1 = Cypher.parse text := by
  rw [Cache.parse]
  split_ifs
  · rfl
  · split
    next ks rest ht => exact (hc _ _ ((perm_of_take? ht).mem_iff.2 List.mem_cons_self)).symm
    next => cases Cypher.parse text <;> rfl

lemma Valid.parse (hc : c.Valid) (text : String) : (c.parse text).2.Valid := by
  rw [Cache.parse]
  split_ifs
  · exact hc
  · split
    next ks rest ht => exact fun _ _ h => hc _ _ ((perm_of_take? ht).mem_iff.2 h)
    next =>
      cases hp : Cypher.parse text with
      | error x => exact hc
      | ok ks =>
        intro text' ks' h
        rcases List.mem_cons.1 (List.mem_of_mem_take h) with h | h
        · obtain ⟨rfl, rfl⟩ := Prod.mk.inj h
          exact hp
        · exact hc _ _ h

end Cache

/-! ### Scripts -/

namespace Script

/-- Whether a request ends with a line. -/
def ends (line waiting : String) : Bool :=
  endsInSemicolon line || isSettled (Cypher.parse waiting)

/-- The texts of the requests that a script makes of its lines. -/
def requests : List String → String → List String
  | [], waiting => if waiting.isEmpty then [] else [waiting]
  | line :: lines, waiting =>
    let waiting := join waiting line
    if ends line waiting then waiting :: requests lines "" else requests lines waiting

end Script

/-! ### Engines -/

namespace Engine

inductive Reachable : Engine → Prop
  | ofConfig (c : Config) : Reachable (ofConfig c)
  | execute {e : Engine} (h : Reachable e) (r : Request) : Reachable (e.execute r).2
  | run {e : Engine} (h : Reachable e) (r : Request) : Reachable (e.run r).2
  | runScript {e : Engine} (h : Reachable e) (r : Request) : Reachable (e.runScript r).2
  | reset {e : Engine} (h : Reachable e) : Reachable e.reset

variable {e : Engine}

/-- What has to be right about a request before its first statement runs. -/
def Request.prepared (r : Request) : Except Error (Dict String Value × List Statement) := do
  let bindings ← r.bindings
  return (bindings, ← checked (Cypher.parse r.text))

lemma parse_of_prepared {r : Request} {p : Dict String Value × List Statement}
    (h : r.prepared = .ok p) : Cypher.parse r.text = .ok p.2 := by
  obtain ⟨bindings, -, h⟩ := bind_eq_ok.1 h
  obtain ⟨ks, hks, h⟩ := bind_eq_ok.1 h
  obtain ⟨ks', hparse, h'⟩ := bind_eq_ok.1 hks
  obtain ⟨u, -, hks'⟩ := bind_eq_ok.1 h'
  obtain rfl := Except.ok.inj h
  obtain rfl := Except.ok.inj hks'
  cases hp : Cypher.parse r.text with
  | error x => rw [hp] at hparse; cases hparse
  | ok ks'' => rw [hp] at hparse; exact congrArg _ (Except.ok.inj hparse)

lemma bindings_of_prepared {r : Request} {p : Dict String Value × List Statement}
    (h : r.prepared = .ok p) : r.bindings = .ok p.1 := by
  obtain ⟨bindings, hb, h⟩ := bind_eq_ok.1 h
  obtain ⟨ks, -, h⟩ := bind_eq_ok.1 h
  obtain rfl := Except.ok.inj h
  exact hb

/-- What the statements of a request are run with. -/
def context (e : Engine) (r : Request) (bindings : Dict String Value) : Context :=
  ⟨bindings, e.config.maxHops, r.clock⟩

/-- What a request does, but for the cache. -/
lemma execute_eq (he : e.cache.Valid) (r : Request) : ∃ cache : Cache, cache.Valid ∧
    e.execute r = match r.prepared with
      | .error x => (.error x, { e with cache })
      | .ok (bindings, ks) =>
        let (reply, server) := ExceptT.run (runStatements (e.context r bindings) ks) e.server
        (reply, { e with server, cache }) := by
  rw [Request.prepared, execute]
  cases hb : r.bindings with
  | error x => exact ⟨e.cache, he, rfl⟩
  | ok bindings =>
    refine ⟨(e.cache.parse r.text).2, he.parse r.text, ?_⟩
    rw [← he.parse_fst r.text]
    dsimp only
    cases hc : checked (e.cache.parse r.text).1 with
    | error x => rfl
    | ok ks => rfl

/-- What a request is answered, but for the cache. -/
lemma run_eq (he : e.cache.Valid) (r : Request) : ∃ cache : Cache, cache.Valid ∧
    e.run r = match r.prepared with
      | .error x => (.ofError x, { e with cache })
      | .ok (bindings, ks) =>
        match ExceptT.run (runStatements (e.context r bindings) ks) e.server with
        | (.error x, server) => (.ofError x, { e with server, cache })
        | (.ok reply, server) =>
          (match server.store with
            | .ok g => .ofReply g reply
            | .error x => .ofError x, { e with server, cache }) := by
  obtain ⟨cache, hcache, h⟩ := execute_eq he r
  refine ⟨cache, hcache, ?_⟩
  rw [run, h]
  cases r.prepared with
  | error x => rfl
  | ok p =>
    dsimp only
    rcases ExceptT.run (runStatements (e.context r p.1) p.2) e.server with ⟨x | reply, s⟩
    · rfl
    · dsimp only
      cases s.store <;> rfl

lemma completes_eq (he : e.cache.Valid) (line waiting : String) : ∃ cache : Cache, cache.Valid ∧
    e.completes line waiting = (Script.ends line waiting, { e with cache }) := by
  rw [completes, Script.ends]
  cases Script.endsInSemicolon line with
  | true => exact ⟨e.cache, he, rfl⟩
  | false =>
    refine ⟨(e.cache.parse waiting).2, he.parse waiting, ?_⟩
    rw [← he.parse_fst waiting]
    rfl

lemma run_snd (r : Request) (e : Engine) : (e.run r).2 = (e.execute r).2 := by
  rw [run]
  rcases e.execute r with ⟨x | reply, e'⟩
  · rfl
  · dsimp only
    cases e'.server.store <;> rfl

/-- An engine whose server has a property, and whose cache gives what the parser gives. -/
structure Holds (I : Server → Prop) (e : Engine) : Prop where
  server : I e.server
  cache : e.cache.Valid

namespace Holds

variable {I : Server → Prop} {A : Statement → Prop} (hI : Server.KeptBy I A)
include hI

lemma execute (he : e.Holds I) {r : Request} (hr : Only A r.text) : (e.execute r).2.Holds I := by
  obtain ⟨cache, hcache, h⟩ := execute_eq he.cache r
  rw [h]
  cases hp : r.prepared with
  | error x => exact ⟨he.server, hcache⟩
  | ok p =>
    have hc : (e.context r p.1).Requested := ⟨r, bindings_of_prepared hp⟩
    have hA := hr _ (parse_of_prepared hp)
    exact ⟨keeps_runStatements (fun k hk s hs => hI _ k s hc (hA k hk) hs) _ he.server, hcache⟩

lemma run (he : e.Holds I) {r : Request} (hr : Only A r.text) : (e.run r).2.Holds I := by
  rw [run_snd]
  exact he.execute hI hr

/-- **Scripts keep what the statements of their requests keep.** -/
theorem runLines (he : e.Holds I) (request : String → Request)
    (htext : ∀ text, (request text).text = text) {lines : List String} {waiting : String}
    (h : ∀ text ∈ Script.requests lines waiting, Only A text) :
    (runLines request lines waiting e).2.Holds I := by
  induction lines generalizing waiting e with
  | nil =>
    rw [Engine.runLines]
    rw [Script.requests] at h
    split_ifs at h ⊢
    · exact he
    · exact he.run hI (by rw [htext]; exact h waiting (by simp))
  | cons line lines ih =>
    rw [Engine.runLines]
    rw [Script.requests] at h
    obtain ⟨cache, hcache, hc⟩ := completes_eq he.cache line (Script.join waiting line)
    rw [hc]
    have he' : Holds I { e with cache } := ⟨he.server, hcache⟩
    cases hend : Script.ends line (Script.join waiting line) with
    | true =>
      simp only [hend, if_true, List.forall_mem_cons] at h
      exact ih (he'.run hI (by rw [htext]; exact h.1)) h.2
    | false =>
      simp only [hend, Bool.false_eq_true, if_false] at h
      exact ih he' h

end Holds

/-- **A property of servers that all statements of a text keep holds of every engine that can be
reached**, if it holds of a server with a default database alone. -/
theorem Reachable.holds_of (h : e.Reachable) {I : Server → Prop} {A : Statement → Prop}
    (hI : Server.KeptBy I A) (hA : ∀ text, Only A text) (hinit : ∀ name, I (.ofDefault name)) :
    e.Holds I := by
  induction h with
  | ofConfig c => exact ⟨hinit _, fun _ _ h => absurd h List.not_mem_nil⟩
  | execute _ r ih => exact ih.execute hI (hA _)
  | run _ r ih => exact ih.run hI (hA _)
  | runScript _ r ih => exact ih.runLines hI _ (fun _ => rfl) fun text _ => hA text
  | reset _ ih => exact ⟨hinit _, fun _ _ h => absurd h List.not_mem_nil⟩

/-- So do properties that all statements keep. -/
theorem Reachable.holds (h : e.Reachable) {I : Server → Prop}
    (hI : Server.KeptBy I fun _ => True) (hinit : ∀ name, I (.ofDefault name)) : e.Holds I :=
  h.holds_of hI (fun _ _ _ _ _ => trivial) hinit

/-- All graphs of an engine are lawful. -/
abbrev Lawful (e : Engine) : Prop := e.Holds fun s => s.catalog.Lawful

lemma Lawful.graphs (h : e.Lawful) : e.server.catalog.Lawful := h.server

/-- **Every engine that can be reached is lawful.** -/
theorem Reachable.lawful (h : e.Reachable) : e.Lawful :=
  h.holds Server.keptBy_lawful Catalog.lawful_ofDefault

end Engine

end PropertyGraph
