import PropertyGraph.Proofs.Engine.Transaction
import PropertyGraph.Proofs.Meaning.Timeless

/-!
A transaction that is committed does what its statements do by themselves.

A server inside of a transaction is followed beside one that commits each statement: its graph is
the same on top of the changes that the transaction has made so far. Nothing but the time and the
list of transactions tells them apart, and a statement that fails is undone down to where it began
on both sides. So they stay beside each other, and a commit takes the changes away.
-/

namespace PropertyGraph

open Cypher

/-! ### Catalogs -/

namespace Catalog

lemma put_put (c : Catalog) (n : String) (g h : Store) : (c.put n g).put n h = c.put n h := by
  have hmap (e : String × Store) : (if (if e.1 = n then (e.1, g) else e).1 = n then
      ((if e.1 = n then (e.1, g) else e).1, h) else if e.1 = n then (e.1, g) else e) =
      if e.1 = n then (e.1, h) else e := by
    by_cases he : e.1 = n <;> simp [he]
  rw [put, put, Dict.modify, Dict.modify, List.map_map]
  exact congrArg (Catalog.mk · c.defaultName) (List.map_congr_left fun e _ => hmap e)

lemma put_self {c : Catalog} {n : String} {g : Store} (hc : Dict.Ascending c.databases)
    (hg : c.get? n = some g) : c.put n g = c := by
  have hmap : ∀ e ∈ c.databases, (if e.1 = n then (e.1, g) else e) = e := by
    intro e he
    split_ifs with hn
    · have hget : c.get? n = some e.2 := Dict.get?_of_mem hc (hn ▸ he)
      rw [Option.some.inj (hg.symm.trans hget)]
    · rfl
  exact congrArg (Catalog.mk · c.defaultName) ((List.map_congr_left hmap).trans (List.map_id _))

end Catalog

/-! ### Edits -/

/-- **An edit that is part of a transaction** ends as it does by itself, and leaves the graph that
it leaves then, on top of the changes of the transaction. -/
theorem Edit.Made.atomically {α : Type} {fr : Frame} {e : Context → Edit α} (he : Made fr e)
    (c : Context) {g : Store} (hg : g.journal = []) : ∃ r h older, h.journal = [] ∧
      (e c).atomically false g = (r, h) ∧
      (e (c.within fr)).atomically true (g.above fr.older) = (r, h.above older) := by
  have hframed := he.framed c ⟨g, {}⟩
  rw [Draft.within] at hframed
  have hmark : g.mark = 0 := by rw [Store.mark, hg, List.length_nil]
  have hmark' : (g.above fr.older).mark = fr.older.length := by
    rw [Store.mark_above, hmark, Nat.zero_add]
  rw [Edit.atomically, Edit.atomically, hframed]
  -- a failure goes back to a mark, which counts the older changes as well
  rcases ExceptT.run (e c) ⟨g, {}⟩ with ⟨x | a, d⟩
  · have hj : (d.store.rollbackTo 0).journal = [] :=
      List.length_eq_zero_iff.1 ((Store.mark_rollbackTo ..).trans (Nat.zero_min _))
    refine ⟨.error x, d.store.rollbackTo 0, fr.older, hj, ?_, ?_⟩
    · rw [hmark]
    · rw [hmark']
      exact congrArg (Except.error x, ·) (d.store.rollbackTo_above fr.older)
  · refine ⟨.ok a, d.store.commit, d.store.journal ++ fr.older, rfl, rfl, rfl⟩

/-! ### Servers -/

/-- A statement whose reply and effect are the same inside of a transaction. -/
def Cypher.Statement.plain : Statement → Bool
  | .query q => q.timeless
  | .schema _ | .help => true
  | .listing t => t ≠ .transactions
  | .database _ | .transaction _ => false

namespace Server

/-- A server inside of a transaction beside one that commits each statement. -/
structure Beside (s t : Server) : Prop where
  transaction : s.session.transaction.isSome
  outside : t.session.transaction = none
  database : t.session.database = s.session.database
  /-- The current graph of one is that of the other on top of older changes; all others are the
  same. -/
  graphs : ∃ g older, g.journal = [] ∧ s.store? = some (Store.above g older) ∧
    t.catalog = s.catalog.put s.session.database g

variable {s t : Server}

lemma Beside.put (h : s.Beside t) {g : Store} (hg : g.journal = []) (older : List Change) :
    (s.put (g.above older)).Beside (t.put g) where
  transaction := h.transaction
  outside := h.outside
  database := h.database
  graphs := by
    obtain ⟨g₀, older₀, -, hs, ht⟩ := h.graphs
    refine ⟨g, older, hg, ?_, ?_⟩
    · change (s.catalog.put _ _).get? s.session.database = _
      rw [Catalog.get?_put, if_pos rfl]
      exact congrArg (Option.map _) hs
    · change t.catalog.put t.session.database g =
        (s.catalog.put s.session.database _).put s.session.database g
      rw [h.database, ht, Catalog.put_put, Catalog.put_put]

lemma Beside.store? (h : s.Beside t) : ∃ g older, g.journal = [] ∧
    s.store? = some (Store.above g older) ∧ t.store? = some g := by
  obtain ⟨g, older, hg, hs, ht⟩ := h.graphs
  refine ⟨g, older, hg, hs, ?_⟩
  change t.catalog.get? t.session.database = some g
  rw [h.database, ht, Catalog.get?_put, if_pos rfl]
  exact congrArg (Option.map _) hs

lemma Beside.edit {e : Context → Edit Reply} (he : ∀ fr, Edit.Made fr e) (h : s.Beside t)
    (c : Context) (clock : Number) :
    (ExceptT.run (Command.edit (e { c with clock })) s).1 =
        (ExceptT.run (Command.edit (e c)) t).1 ∧
      (ExceptT.run (Command.edit (e { c with clock })) s).2.Beside
        (ExceptT.run (Command.edit (e c)) t).2 := by
  obtain ⟨g, older, hg, hs, ht⟩ := h.store?
  obtain ⟨r, g', older', hg', halone, hwithin⟩ := (he ⟨older, fun _ => clock⟩).atomically c hg
  have hin : s.session.inTransaction = true := h.transaction
  have hout : t.session.inTransaction = false := by rw [Session.inTransaction, h.outside]; rfl
  change (e { c with clock }).atomically true (g.above older) = _ at hwithin
  rw [Command.run_edit, Command.run_edit, hs, ht, hin, hout]
  dsimp only
  rw [halone, hwithin]
  exact ⟨rfl, h.put hg' older'⟩

lemma Beside.listing (h : s.Beside t) {target : ShowTarget} (htarget : target ≠ .transactions) :
    s.listing target = t.listing target := by
  obtain ⟨g, older, hg, hs, ht⟩ := h.store?
  obtain ⟨_, _, -, -, hcatalog⟩ := h.graphs
  have hnames : t.catalog.names = s.catalog.names := by rw [hcatalog, Catalog.names_put]
  have hdefault : t.catalog.defaultName = s.catalog.defaultName := by rw [hcatalog]; rfl
  rw [Server.listing, Server.listing, Server.store, Server.store, hs, ht]
  cases target with
  | databases =>
    change Except.ok s.listDatabases = Except.ok t.listDatabases
    rw [listDatabases, listDatabases, hnames, hdefault, h.database]
  | transactions => exact absurd rfl htarget
  | _ => rfl

/-- **A plain statement** replies the same inside of a transaction, and keeps the servers beside
each other. -/
theorem Beside.run (h : s.Beside t) {k : Statement} (hk : k.plain) (c : Context) (clock : Number) :
    (ExceptT.run (k.run { c with clock }) s).1 = (ExceptT.run (k.run c) t).1 ∧
      (ExceptT.run (k.run { c with clock }) s).2.Beside (ExceptT.run (k.run c) t).2 := by
  cases k with
  | query q =>
    have hmade (fr : Frame) : Edit.Made fr fun c => Query.reply c (queryMeaning q) :=
      Query.made_reply (QueryOf.steady_parts hk)
    exact h.edit hmade c clock
  | schema k =>
    have hmade (fr : Frame) : Edit.Made fr fun _ => k.reply := k.made_reply
    exact h.edit hmade c clock
  | listing target =>
    have hlisting := h.listing (by simpa [Statement.plain] using hk)
    rw [Statement.run, Command.run_get_bind, Statement.run, Command.run_get_bind, hlisting]
    cases t.listing target with
    | ok r => exact ⟨rfl, h⟩
    | error x => exact ⟨rfl, h⟩
  | help => exact ⟨rfl, h⟩
  | database k => simp [Statement.plain] at hk
  | transaction k => simp [Statement.plain] at hk

lemma Beside.foldlM {ks : List Statement} (hk : ∀ k ∈ ks, k.plain) (c : Context)
    (clock : Number) (reply : Reply) (h : s.Beside t) :
    (ExceptT.run (ks.foldlM (fun _ k => k.run { c with clock }) reply) s).1 =
        (ExceptT.run (ks.foldlM (fun _ k => k.run c) reply) t).1 ∧
      (ExceptT.run (ks.foldlM (fun _ k => k.run { c with clock }) reply) s).2.Beside
        (ExceptT.run (ks.foldlM (fun _ k => k.run c) reply) t).2 := by
  induction ks generalizing reply s t with
  | nil => exact ⟨rfl, h⟩
  | cons k ks ih =>
    obtain ⟨hreply, hbeside⟩ := h.run (hk k (by simp)) c clock
    rw [List.foldlM_cons, List.foldlM_cons, run_bind, run_bind]
    rcases hs : ExceptT.run (k.run { c with clock }) s with ⟨r, s'⟩
    rcases ht : ExceptT.run (k.run c) t with ⟨r', t'⟩
    rw [hs, ht] at hreply hbeside
    obtain rfl : r = r' := hreply
    cases r with
    | error x => exact ⟨rfl, hbeside⟩
    | ok reply => exact ih (fun k h => hk k (by simp [h])) reply hbeside

lemma Beside.runStatements {ks : List Statement} (hk : ∀ k ∈ ks, k.plain) (c : Context)
    (clock : Number) (h : s.Beside t) :
    (ExceptT.run (runStatements { c with clock } ks) s).1 = (ExceptT.run (runStatements c ks) t).1 ∧
      (ExceptT.run (runStatements { c with clock } ks) s).2.Beside
        (ExceptT.run (runStatements c ks) t).2 :=
  h.foldlM hk c clock (.note "")

/-- **A transaction begins** beside a server that commits each statement. -/
theorem beside_start (c : Context) (ht : t.Tidy) (hout : t.session.transaction = none) :
    (ExceptT.run (Statement.run c (.transaction .start)) t).2.Beside t := by
  obtain ⟨g, hg, hj⟩ := ht.store hout
  rw [Statement.run_start c hg hout]
  exact ⟨rfl, hout, rfl, g, [], hj, by rw [Store.above_nil]; exact hg,
    (Catalog.put_self ht.ascending hg).symm⟩

/-- **A commit** leaves the databases that the other server has. -/
theorem Beside.commit (h : s.Beside t) (c : Context) :
    (ExceptT.run (Statement.run c (.transaction .commit)) s).2.catalog = t.catalog := by
  obtain ⟨g, older, hg, hs, ht⟩ := h.graphs
  obtain ⟨x, hx⟩ := Option.isSome_iff_exists.1 h.transaction
  have hcommit : (g.above older).commit = g := by
    cases g
    cases hg
    rfl
  rw [Statement.run_commit c hs hx, hcommit, ht]
  rfl

end Server

/-! ### Responses -/

lemma EntityForm.ofStore_above (s : Store) (older : List Change) (depth : Nat) :
    ofStore (s.above older) depth = ofStore s depth := by
  induction depth with
  | zero => rfl
  | succ depth ih =>
    rw [ofStore, ofStore, ih]
    rfl

lemma Response.ofReply_above (g : Store) (older : List Change) (reply : Reply) :
    ofReply (g.above older) reply = ofReply g reply := by
  cases reply with
  | rows shape columns lines tally =>
    have hrow : (g.above older).rowJson columns = g.rowJson columns := by
      funext values
      rw [Store.rowJson, Store.rowJson, Store.entityForm, EntityForm.ofStore_above]
      rfl
    rw [ofReply, ofReply, hrow]
  | message text tally => rfl
  | help text => rfl

/-! ### Engines -/

namespace Engine

/-- Requests that differ in their time only. -/
def Request.Alike (q r : Request) : Prop := q.text = r.text ∧ q.parameters = r.parameters

/-- Runs requests one after the other. -/
def runAll : List Request → Engine → List Response × Engine
  | [], e => ([], e)
  | q :: qs, e =>
    let (r, e) := e.run q
    let (rs, e) := runAll qs e
    (r :: rs, e)

/-- An engine inside of a transaction beside one that commits each statement. -/
structure Beside (e f : Engine) : Prop where
  config : e.config = f.config
  server : e.server.Beside f.server
  cache : e.cache.Valid
  cache' : f.cache.Valid

variable {e f : Engine}

/-- **A request of plain statements** gets the same response inside of a transaction. -/
theorem Beside.run (h : e.Beside f) {q r : Request} (hqr : q.Alike r)
    (hplain : Only (fun k => k.plain) q.text) :
    (e.run q).1 = (f.run r).1 ∧ (e.run q).2.Beside (f.run r).2 := by
  obtain ⟨htext, hparameters⟩ := hqr
  have hprepared : q.prepared = r.prepared := by
    rw [Request.prepared, Request.prepared, Request.bindings, Request.bindings, htext, hparameters]
  obtain ⟨cache, hcache, he⟩ := run_eq h.cache q
  obtain ⟨cache', hcache', hf⟩ := run_eq h.cache' r
  rw [he, hf, ← hprepared]
  cases hp : q.prepared with
  | error x => exact ⟨rfl, h.config, h.server, hcache, hcache'⟩
  | ok p =>
    have hks := hplain _ (parse_of_prepared hp)
    have hcontext : e.context q p.1 = { f.context r p.1 with clock := q.clock } := by
      rw [context, context, h.config]
    obtain ⟨hreply, hserver⟩ := h.server.runStatements hks (f.context r p.1) q.clock
    rw [← hcontext] at hreply hserver
    dsimp only
    rcases hs : ExceptT.run (runStatements (e.context q p.1) p.2) e.server with ⟨x, s⟩
    rcases ht : ExceptT.run (runStatements (f.context r p.1) p.2) f.server with ⟨x', t⟩
    rw [hs, ht] at hreply hserver
    obtain rfl : x = x' := hreply
    cases x with
    | error x => exact ⟨rfl, h.config, hserver, hcache, hcache'⟩
    | ok reply =>
      obtain ⟨g, older, -, hg, hg'⟩ := hserver.store?
      dsimp only
      rw [Server.store, Server.store, hg, hg']
      exact ⟨Response.ofReply_above g older reply, h.config, hserver, hcache, hcache'⟩

lemma Beside.runAll (h : e.Beside f) {qs rs : List Request} (hqs : List.Forall₂ Request.Alike qs rs)
    (hplain : ∀ q ∈ qs, Only (fun k => k.plain) q.text) :
    (runAll qs e).1 = (runAll rs f).1 ∧ (runAll qs e).2.Beside (runAll rs f).2 := by
  induction hqs generalizing e f with
  | nil => exact ⟨rfl, h⟩
  | cons hqr _ ih =>
    obtain ⟨hresponse, hrun⟩ := h.run hqr (hplain _ (by simp))
    obtain ⟨hresponses, hruns⟩ := ih hrun fun q hq => hplain q (by simp [hq])
    exact ⟨congrArg₂ _ hresponse hresponses, hruns⟩

/-- **A committed transaction equals autocommit**: requests of plain statements get the same
responses inside of a transaction as without it, whichever of them fail, and the commit leaves the
same databases. -/
theorem commit_eq_autocommit (he : e.Reachable) (ht : e.server.session.transaction = none)
    {start commit : Request} {bindings bindings' : Dict String Value}
    (hstart : start.prepared = .ok (bindings, [.transaction .start]))
    (hcommit : commit.prepared = .ok (bindings', [.transaction .commit]))
    {inside alone : List Request} (halike : List.Forall₂ Request.Alike inside alone)
    (hplain : ∀ q ∈ inside, Only (fun k => k.plain) q.text) :
    (runAll inside (e.run start).2).1 = (runAll alone e).1 ∧
      ((runAll inside (e.run start).2).2.run commit).2.server.catalog =
        (runAll alone e).2.server.catalog := by
  have hl := he.lawful
  have hbegin : (e.run start).2.Beside e := by
    obtain ⟨cache, hcache, h⟩ := execute_single hl.cache hstart
    rw [run_snd, h]
    exact ⟨rfl, Server.beside_start _ he.tidy ht, hcache, hl.cache⟩
  obtain ⟨hresponses, hbeside⟩ := hbegin.runAll halike hplain
  refine ⟨hresponses, ?_⟩
  obtain ⟨cache, -, h⟩ := execute_single hbeside.cache hcommit
  rw [run_snd, h]
  exact hbeside.server.commit _

/-- A node, a rule that it breaks later, failures that use up ids, and listings, at other times. -/
theorem commit_eq_autocommit_failures :
    let e := ofConfig {}
    let request (clock : Nat) (text : String) : Request := { text, clock := .ofNat clock }
    let texts := ["CREATE (n:A) SET n.k = 1", "CREATE () DELETE true",
      "CREATE CONSTRAINT FOR (n:A) REQUIRE n.k IS UNIQUE", "CREATE (n:A) SET n.k = 1",
      "MATCH (n) RETURN n, id(n)", "SHOW STATS", "SHOW NOTHING", "HELP", "MATCH"]
    let inside := texts.map (request 1)
    let alone := texts.map (request 2)
    (runAll inside (e.run (request 0 "BEGIN")).2).1 = (runAll alone e).1 ∧
      ((runAll inside (e.run (request 0 "BEGIN")).2).2.run
        (request 3 "COMMIT")).2.server.catalog = (runAll alone e).2.server.catalog := by
  intro e request texts inside alone
  obtain ⟨hbegin, hcommit, -⟩ := prepared_commands
  have halike : List.Forall₂ Request.Alike inside alone := by
    refine List.forall₂_map_left_iff.2 (List.forall₂_map_right_iff.2 ?_)
    exact List.forall₂_same.2 fun text _ => ⟨rfl, rfl⟩
  have hplain : ∀ q ∈ inside, Only (fun k => k.plain) q.text := by decide +kernel
  exact @commit_eq_autocommit e (.ofConfig {}) rfl (request 0 "BEGIN") (request 3 "COMMIT") [] []
    hbegin hcommit inside alone halike hplain

end Engine

end PropertyGraph
