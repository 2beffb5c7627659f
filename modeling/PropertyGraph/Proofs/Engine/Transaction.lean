import PropertyGraph.Proofs.Engine.Atomic

/-!
Transactions that are rolled back.

Outside of a transaction nothing waits in any journal, so that a transaction goes back to the
beginning of the journal of its graph. Whatever is run inside of it only adds to that journal, or
goes back in it to where a statement began; no other graph is touched. So a rollback leaves of the
transaction nothing but the ids that it used up.
-/

namespace PropertyGraph

open Cypher

/-! ### Outside of transactions -/

namespace Server

/-- The default database and the current one are there, and only what a transaction has done
waits in a journal. -/
structure Tidy (s : Server) : Prop where
  ascending : Dict.Ascending s.catalog.databases
  default : s.catalog.contains s.catalog.defaultName
  current : s.catalog.contains s.session.database
  journals : ∀ n g, s.catalog.get? n = some g →
    (n = s.session.database → s.session.transaction = none) → g.journal = []

variable {s t : Server}

lemma tidy_ofDefault (name : String) : (ofDefault name).Tidy where
  ascending := List.pairwise_singleton _ _
  default := by simp [ofDefault, Catalog.ofDefault, Catalog.contains, Dict.contains, Dict.get?_cons]
  current := by simp [ofDefault, Catalog.ofDefault, Catalog.contains, Dict.contains, Dict.get?_cons]
  journals n g hg _ := by
    rw [Catalog.get?, ofDefault, Catalog.ofDefault, Dict.get?_cons] at hg
    split_ifs at hg
    · obtain rfl := Option.some.inj hg
      rfl
    · cases hg

lemma transaction_eq_none (h : s.session.inTransaction = false) : s.session.transaction = none :=
  Option.isSome_eq_false_iff.1 h |> Option.isNone_iff_eq_none.1

namespace Tidy

/-- There is a current graph, and nothing waits in its journal outside of a transaction. -/
lemma store (hs : s.Tidy) (ht : s.session.transaction = none) :
    ∃ g, s.store? = some g ∧ g.journal = [] := by
  obtain ⟨g, hg⟩ := Catalog.contains_iff.1 hs.current
  exact ⟨g, hg, hs.journals _ g hg fun _ => ht⟩

lemma put (hs : s.Tidy) {g : Store} (session : Session)
    (hdatabase : session.database = s.session.database)
    (hg : session.transaction = none → g.journal = []) :
    ({ s.put g with session } : Server).Tidy where
  ascending := hs.ascending.modify s.session.database fun _ => g
  default := (Catalog.contains_put ..).trans hs.default
  current := by
    change (s.catalog.put _ _).contains session.database = true
    rw [Catalog.contains_put, hdatabase]
    exact hs.current
  journals n g' hg' hn := by
    change (s.catalog.put s.session.database g).get? n = some g' at hg'
    rw [Catalog.get?_put] at hg'
    split_ifs at hg' with hcur
    · obtain ⟨-, -, rfl⟩ := Option.map_eq_some_iff.1 hg'
      exact hg (hn (hcur.symm.trans hdatabase.symm))
    · exact hs.journals n g' hg' fun h => absurd h.symm hcur

lemma settled (hasc : Dict.Ascending s.catalog.databases)
    (hdefault : s.catalog.contains s.catalog.defaultName)
    (hj : ∀ n g, s.catalog.get? n = some g → g.journal = []) : s.settled.Tidy := by
  rw [Server.settled]
  split_ifs with hcur
  · exact ⟨hasc, hdefault, hcur, fun n g hg _ => hj n g hg⟩
  · exact ⟨hasc, hdefault, hdefault, fun n g hg _ => hj n g hg⟩

end Tidy

/-- **A step keeps a server tidy.** -/
theorem Step.tidy {r : Except Error Reply} (h : s.Step r t) (hs : s.Tidy) : t.Tidy := by
  have hall (ht : s.session.inTransaction = false) (n : String) (g : Store)
      (hg : s.catalog.get? n = some g) : g.journal = [] :=
    hs.journals n g hg fun _ => transaction_eq_none ht
  cases h with
  | refuse => exact hs
  | tell => exact hs
  | @edit g h hg hl =>
    refine hs.put s.session rfl fun ht => ?_
    rw [if_neg (by simp [Session.inTransaction, ht])]
    rfl
  | @undo g h hg hl =>
    refine hs.put s.session rfl fun ht => ?_
    have hmark : g.mark = 0 := by rw [Store.mark, hs.journals _ g hg fun _ => ht]; rfl
    rw [Store.journal_rollbackTo, hmark]
    exact List.drop_length
  | @create n c ht hc =>
    have hget := Catalog.get?_create hc
    have hcontains (m : String) (hm : s.catalog.contains m) : c.contains m := by
      obtain ⟨g, hg⟩ := Catalog.contains_iff.1 hm
      rw [Catalog.contains_iff, hget]
      split_ifs
      · exact ⟨_, rfl⟩
      · exact ⟨g, hg⟩
    have hdefault : c.defaultName = s.catalog.defaultName := by
      rw [Catalog.create] at hc
      split_ifs at hc
      rw [← Except.ok.inj hc]
    refine ⟨?_, hdefault ▸ hcontains _ hs.default, hcontains _ hs.current, fun m g hg _ => ?_⟩
    · rw [Catalog.create] at hc
      split_ifs at hc
      rw [← Except.ok.inj hc]
      exact hs.ascending.insert _ _
    · rw [hget] at hg
      split_ifs at hg
      · rw [← Option.some.inj hg]
      · exact hall ht m g hg
  | @drop n c ht hc =>
    have hget := Catalog.get?_drop hc
    rw [Catalog.drop] at hc
    split_ifs at hc with hne hn
    obtain rfl := Except.ok.inj hc
    refine .settled (hs.ascending.erase _) ?_ fun m g hg => ?_
    · obtain ⟨g, hg⟩ := Catalog.contains_iff.1 hs.default
      exact Catalog.contains_iff.2 ⟨g, by rw [hget, if_neg hne]; exact hg⟩
    · rw [hget] at hg
      split_ifs at hg
      exact hall ht m g hg
  | settle ht => exact .settled hs.ascending hs.default (hall ht)
  | use ht hn => exact ⟨hs.ascending, hs.default, hn, fun m g hg _ => hall ht m g hg⟩
  | start hg ht =>
    exact ⟨hs.ascending, hs.default, hs.current, fun m g hg _ => hall ht m g hg⟩
  | commit => exact hs.put { s.session with transaction := none } rfl fun _ => rfl
  | rollback => exact hs.put { s.session with transaction := none } rfl fun _ => rfl

lemma keptBy_tidy : KeptBy Tidy fun _ => True := fun c k s _ _ hs => (k.step_run c s).tidy hs

end Server

/-- **Every engine that can be reached is tidy.** -/
theorem Engine.Reachable.tidy {e : Engine} (h : e.Reachable) : e.server.Tidy :=
  (h.holds Server.keptBy_tidy Server.tidy_ofDefault).server

/-! ### The commands -/

namespace Cypher.Statement

variable (c : Context) {s : Server} {g : Store} {t : Transaction}

lemma run_start (hg : s.store? = some g) (ht : s.session.transaction = none) :
    ExceptT.run (run c (.transaction .start)) s =
      (.ok (.note "Transaction started"), { s with session := { s.session with
        transaction := some ⟨s.session.started + 1, s.session.database, g.mark, c.clock⟩
        started := s.session.started + 1 } }) := by
  change ExceptT.run (Command.transaction c.clock .start) s = _
  rw [Command.transaction, Command.run_get_bind, Command.run_ensure_bind, Server.store, hg]
  dsimp only
  rw [if_neg (by simp [Session.inTransaction, ht])]
  rfl

lemma run_commit (hg : s.store? = some g) (ht : s.session.transaction = some t) :
    ExceptT.run (run c (.transaction .commit)) s = (.ok (.note "Transaction committed"),
      { s.put g.commit with session := { s.session with transaction := none } }) := by
  change ExceptT.run (Command.transaction c.clock .commit) s = _
  rw [Command.transaction, run_bind, Command.run_endTransaction, hg, ht]
  rfl

lemma run_rollback (hg : s.store? = some g) (ht : s.session.transaction = some t) :
    ExceptT.run (run c (.transaction .rollback)) s = (.ok (.note "Transaction rolled back"),
      { s.put (g.rollbackTo t.mark).commit with
        session := { s.session with transaction := none } }) := by
  change ExceptT.run (Command.transaction c.clock .rollback) s = _
  rw [Command.transaction, run_bind, Command.run_endTransaction, hg, ht]
  rfl

end Cypher.Statement

/-! ### Inside of a transaction -/

/-- Whether a statement ends a transaction. -/
def Cypher.Statement.endsTransaction : Statement → Bool
  | .transaction .commit | .transaction .rollback => true
  | _ => false

/-- The command of a statement that begins or ends a transaction. -/
def Cypher.Statement.command? : Statement → Option TransactionCommand
  | .transaction k => some k
  | _ => none

lemma Cypher.Statement.transaction_run (c : Context) {k : Statement} (hk : ¬ k.endsTransaction)
    {s : Server} {t : Transaction} (ht : s.session.transaction = some t) :
    (ExceptT.run (k.run c) s).2.session.transaction = some t := by
  have hedit {α : Type} (e : Edit α) :
      (ExceptT.run (Command.edit e) s).2.session.transaction = some t := by
    rw [Command.run_edit]
    cases s.store? with
    | none => exact ht
    | some g =>
      dsimp only
      exact ht
  have hin : s.session.inTransaction = true := by rw [Session.inTransaction, ht]; rfl
  cases k with
  | query q => rw [run]; exact hedit _
  | schema k => rw [run]; exact hedit _
  | database k =>
    change (ExceptT.run (Command.database k) s).2.session.transaction = _
    rw [Command.database, Command.run_get_bind, if_pos hin]
    exact ht
  | listing target =>
    rw [run, Command.run_get_bind]
    cases s.listing target with
    | ok r => exact ht
    | error x => exact ht
  | transaction k =>
    cases k with
    | start =>
      change (ExceptT.run (Command.transaction c.clock .start) s).2.session.transaction = _
      rw [Command.transaction, Command.run_get_bind, Command.run_ensure_bind]
      cases s.store with
      | error x => exact ht
      | ok g =>
        dsimp only
        rw [if_pos hin]
        exact ht
    | commit => exact absurd rfl hk
    | rollback => exact absurd rfl hk
  | help => exact ht

namespace Server

/-- What a server is in a transaction that began on another one. -/
structure Inside (s₀ s : Server) : Prop where
  database : s.session.database = s₀.session.database
  transaction : ∃ t, s.session.transaction = some t ∧ t.mark = 0
  defaultName : s.catalog.defaultName = s₀.catalog.defaultName
  names : s.catalog.names = s₀.catalog.names
  others : ∀ n, n ≠ s₀.session.database → s.catalog.get? n = s₀.catalog.get? n
  current : ∃ g calls, s₀.store? = some g ∧ (∀ k ∈ calls, k.keeps 0) ∧
    s.store? = some (Store.run calls g)

variable {s₀ s t : Server}

lemma Inside.put (hs : s₀.Inside s) {g : Store} (hg : s.store? = some g) {calls : List Store.Call}
    (hc : ∀ k ∈ calls, k.keeps 0) : s₀.Inside (s.put (Store.run calls g)) where
  database := hs.database
  transaction := hs.transaction
  defaultName := hs.defaultName
  names := (Catalog.names_put ..).trans hs.names
  others n hn := by
    change (s.catalog.put _ _).get? n = _
    rw [Catalog.get?_put, if_neg fun h => hn (h.symm.trans hs.database)]
    exact hs.others n hn
  current := by
    obtain ⟨g₀, calls₀, hg₀, hc₀, hs₀⟩ := hs.current
    obtain rfl := Option.some.inj (hs₀.symm.trans hg)
    refine ⟨g₀, calls₀ ++ calls, hg₀, fun k hk => ?_, ?_⟩
    · exact (List.mem_append.1 hk).elim (hc₀ k) (hc k)
    · change (s.catalog.put s.session.database _).get? s.session.database = _
      rw [Catalog.get?_put, if_pos rfl]
      change Option.map _ s.store? = _
      rw [hg, Option.map_some, Store.run, Store.run, Store.run, List.foldl_append]

/-- **A step that does not end a transaction stays inside of it.** -/
theorem Step.inside {r : Except Error Reply} (h : s.Step r t) (hs : s₀.Inside s)
    (ht : t.session.transaction = s.session.transaction) : s₀.Inside t := by
  obtain ⟨x, hx, -⟩ := hs.transaction
  have hin : s.session.inTransaction = true := by rw [Session.inTransaction, hx]; rfl
  have hout : s.session.inTransaction ≠ false := by simp [hin]
  cases h with
  | refuse => exact hs
  | tell => exact hs
  | edit hg hl =>
    rw [if_pos hin]
    obtain ⟨calls, hc, rfl⟩ := hl
    exact hs.put hg fun k hk => Store.Call.keeps_of_isChange (hc k hk) 0
  | @undo g h hg hl =>
    obtain ⟨calls, hc, rfl⟩ := hl
    have hrun : (Store.run calls g).rollbackTo g.mark =
        Store.run (calls ++ [.rollbackTo g.mark]) g := by
      rw [Store.run, Store.run, List.foldl_append]
      rfl
    rw [hrun]
    refine hs.put hg fun k hk => ?_
    rcases List.mem_append.1 hk with hk | hk
    · exact Store.Call.keeps_of_isChange (hc k hk) 0
    · rw [List.mem_singleton.1 hk]
      rfl
  | create hno => exact absurd hno hout
  | drop hno => exact absurd hno hout
  | settle hno => exact absurd hno hout
  | use hno => exact absurd hno hout
  | start _ hno => exact absurd hno hout
  | commit => exact absurd (ht.trans hx) nofun
  | rollback => exact absurd (ht.trans hx) nofun

lemma keptBy_inside (s₀ : Server) : KeptBy s₀.Inside fun k => ¬ k.endsTransaction := by
  intro c k s _ hk hs
  obtain ⟨x, hx, -⟩ := hs.transaction
  exact (k.step_run c s).inside hs ((k.transaction_run c hk hx).trans hx.symm)

/-- The same databases with the same graphs, no transaction, and nothing in any journal. -/
structure Restored (s t : Server) : Prop where
  database : t.session.database = s.session.database
  transaction : t.session.transaction = none
  defaultName : t.catalog.defaultName = s.catalog.defaultName
  names : t.catalog.names = s.catalog.names
  graphs : ∀ n g, s.catalog.get? n = some g → ∃ h, t.catalog.get? n = some h ∧ g.Advances h
  journals : ∀ n h, t.catalog.get? n = some h → h.journal = []

lemma inside_start {c : Context} (hs : s.Tidy) (ht : s.session.transaction = none) :
    s.Inside (ExceptT.run (Statement.run c (.transaction .start)) s).2 := by
  obtain ⟨g, hg, hj⟩ := hs.store ht
  rw [Statement.run_start c hg ht]
  refine ⟨rfl, ⟨_, rfl, ?_⟩, rfl, rfl, fun _ _ => rfl, g, [], hg, by simp, hg⟩
  rw [Store.mark, hj]
  rfl

/-- **A rollback restores the server on which the transaction began.** -/
theorem Inside.restored {c : Context} (hs₀ : s₀.Tidy) (ht : s₀.session.transaction = none)
    (hl : s₀.catalog.Lawful) (hs : s₀.Inside s) :
    s₀.Restored (ExceptT.run (Statement.run c (.transaction .rollback)) s).2 := by
  obtain ⟨x, hx, hmark⟩ := hs.transaction
  obtain ⟨g, calls, hg, hc, hcur⟩ := hs.current
  set h := ((Store.run calls g).rollbackTo x.mark).commit with hh
  have hrun : (ExceptT.run (Statement.run c (.transaction .rollback)) s).2 =
      { s.put h with session := { s.session with transaction := none } } :=
    congrArg Prod.snd (Statement.run_rollback c hcur hx)
  have hj : g.journal = [] := hs₀.journals _ g hg fun _ => ht
  have hlg : g.Lawful := hl _ _ hg
  have hadv : g.Advances h := by
    have hle := Store.counters_le_run hlg calls
    have hback := Store.rollbackTo_run hlg (Nat.zero_le _) hc
    have hback₀ : g.rollbackTo 0 = g := Store.rollbackTo_of_le (by rw [Store.mark, hj]; rfl)
    rw [hback₀] at hback
    rw [hh, hmark, hback]
    exact ⟨hle.1, hle.2, by rw [hj]; rfl⟩
  have hget (n : String) : (s.put h).catalog.get? n =
      if s₀.session.database = n then some h else s₀.catalog.get? n := by
    change (s.catalog.put _ _).get? n = _
    rw [Catalog.get?_put, hs.database]
    split_ifs with hn
    · subst hn
      rw [← hs.database]
      change Option.map _ s.store? = _
      rw [hcur, Option.map_some]
    · exact hs.others n (Ne.symm hn)
  rw [hrun]
  refine ⟨hs.database, rfl, hs.defaultName, (Catalog.names_put ..).trans hs.names, ?_, ?_⟩
  · intro n g' hg'
    change ∃ h', (s.put h).catalog.get? n = some h' ∧ _
    rw [hget]
    split_ifs with hn
    · subst hn
      obtain rfl := Option.some.inj (hg'.symm.trans hg)
      exact ⟨h, rfl, hadv⟩
    · exact ⟨g', hg', .refl g'⟩
  · intro n g' hg'
    change (s.put h).catalog.get? n = some g' at hg'
    rw [hget] at hg'
    split_ifs at hg' with hn
    · rw [← Option.some.inj hg']
      rfl
    · exact hs₀.journals n g' hg' fun _ => ht

end Server

/-! ### Requests and scripts -/

namespace Engine

/-- What can be asked of an engine, short of a reset. -/
inductive Action
  | execute (r : Request)
  | run (r : Request)
  | runScript (r : Request)

namespace Action

def perform (e : Engine) : Action → Engine
  | execute r => (e.execute r).2
  | run r => (e.run r).2
  | runScript r => (e.runScript r).2

/-- The texts of the requests that are made. -/
def texts : Action → List String
  | execute r | run r => [r.text]
  | runScript r => Script.requests (Script.lines r.text) ""

end Action

variable {e : Engine} {I : Server → Prop} {A : Statement → Prop}

lemma Holds.perform (hI : Server.KeptBy I A) (he : e.Holds I) {a : Action}
    (ha : ∀ text ∈ a.texts, Only A text) : (a.perform e).Holds I := by
  cases a with
  | execute r => exact he.execute hI (ha r.text (by simp [Action.texts]))
  | run r => exact he.run hI (ha r.text (by simp [Action.texts]))
  | runScript r => exact he.runLines hI _ (fun _ => rfl) ha

lemma Holds.performs (hI : Server.KeptBy I A) (he : e.Holds I) {actions : List Action}
    (ha : ∀ a ∈ actions, ∀ text ∈ a.texts, Only A text) :
    (actions.foldl Action.perform e).Holds I := by
  induction actions generalizing e with
  | nil => exact he
  | cons a actions ih =>
    exact ih (he.perform hI (ha a (by simp))) fun b hb => ha b (by simp [hb])

/-- A request of one statement does what the statement does. -/
lemma execute_single (he : e.cache.Valid) {r : Request} {bindings : Dict String Value}
    {k : Statement} (hr : r.prepared = .ok (bindings, [k])) : ∃ cache : Cache, cache.Valid ∧
      e.execute r = ((ExceptT.run (k.run (e.context r bindings)) e.server).1,
        { e with server := (ExceptT.run (k.run (e.context r bindings)) e.server).2, cache }) := by
  obtain ⟨cache, hcache, h⟩ := execute_eq he r
  refine ⟨cache, hcache, ?_⟩
  rw [h, hr]
  dsimp only
  rw [runStatements, List.foldlM_cons, run_bind]
  rcases ExceptT.run (k.run (e.context r bindings)) e.server with ⟨x | reply, s⟩
  · rfl
  · rfl

/-- **A rollback erases the transaction**: whatever was run since it began, all databases are
again what they were, but for ids that are used up. -/
theorem rollback_restores (he : e.Reachable) (ht : e.server.session.transaction = none)
    {start rollback : Request} {bindings bindings' : Dict String Value}
    (hstart : start.prepared = .ok (bindings, [.transaction .start]))
    (hrollback : rollback.prepared = .ok (bindings', [.transaction .rollback]))
    (actions : List Action)
    (hactions : ∀ a ∈ actions, ∀ text ∈ a.texts, Only (fun k => ¬ k.endsTransaction) text) :
    e.server.Restored ((actions.foldl Action.perform (e.run start).2).run rollback).2.server := by
  have hl := he.lawful
  have hin : (e.run start).2.Holds e.server.Inside := by
    obtain ⟨cache, hcache, h⟩ := execute_single hl.cache hstart
    rw [run_snd, h]
    exact ⟨Server.inside_start he.tidy ht, hcache⟩
  have hin' := hin.performs (Server.keptBy_inside _) hactions
  obtain ⟨cache, -, h⟩ := execute_single hin'.cache hrollback
  rw [run_snd, h]
  exact hin'.server.restored he.tidy ht hl.graphs

-- statements cannot be compared, but commands can
lemma prepared_of_command {r : Request} {k : TransactionCommand}
    (h : r.prepared.map (fun p => (p.1.map Prod.fst, p.2.map Statement.command?)) =
      .ok ([], [some k])) :
    r.prepared = .ok ([], [.transaction k]) := by
  cases hp : r.prepared with
  | error x =>
    rw [hp] at h
    cases h
  | ok p =>
    obtain ⟨bindings, ks⟩ := p
    rw [hp] at h
    obtain ⟨hbindings, hks⟩ := Prod.mk.inj (Except.ok.inj h)
    obtain ⟨s, rfl, hs⟩ := List.map_eq_singleton_iff.1 hks
    obtain rfl : bindings = [] := List.map_eq_nil_iff.1 hbindings
    cases s with
    | transaction k' => rw [Option.some.inj hs]
    | _ => cases hs

lemma prepared_commands :
    Request.prepared { text := "BEGIN", clock := .zero } = .ok ([], [.transaction .start]) ∧
      Request.prepared { text := "COMMIT", clock := .zero } = .ok ([], [.transaction .commit]) ∧
      Request.prepared { text := "ROLLBACK", clock := .zero } =
        .ok ([], [.transaction .rollback]) := by
  refine ⟨?_, ?_, ?_⟩ <;> exact prepared_of_command (by decide +kernel)

/-- Of a node, of a statement that fails and of commands that are refused nothing is left. -/
theorem rollback_restores_create :
    let e := ofConfig {}
    let request (text : String) : Request := { text, clock := .zero }
    let actions : List Action := [.run (request "CREATE (:A)"),
      .execute (request "CREATE () DELETE true"), .run (request "MATCH (n) SET n.k = 1;BEGIN"),
      .execute (request "USE other")]
    e.server.Restored ((actions.foldl Action.perform (e.run (request "BEGIN")).2).run
      (request "ROLLBACK")).2.server := by
  intro e request actions
  obtain ⟨hbegin, -, hrollback⟩ := prepared_commands
  have hactions : ∀ a ∈ actions, ∀ text ∈ a.texts, Only (fun k => ¬ k.endsTransaction) text := by
    decide +kernel
  exact @rollback_restores e (.ofConfig {}) rfl (request "BEGIN") (request "ROLLBACK") [] []
    hbegin hrollback actions hactions

end Engine

end PropertyGraph
