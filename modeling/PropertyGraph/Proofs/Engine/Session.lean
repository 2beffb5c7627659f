import PropertyGraph.Proofs.Engine.Transaction

/-!
Sessions and the databases beside the one that is used.

The database of a session is always there, so no statement looks for it in vain. Only the graph of
that database is changed, and it alone can have something in its journal, which then belongs to the
transaction that is open. Other databases come and go by the two commands for that, and not while a
transaction is open.
-/

namespace PropertyGraph

open Cypher

namespace Server

variable {s t : Server}

/-- An open transaction is one of the current database, and begins with its journal. -/
structure Bound (s : Server) : Prop where
  tidy : s.Tidy
  transaction : ∀ t, s.session.transaction = some t → t.database = s.session.database ∧ t.mark = 0

lemma bound_ofDefault (name : String) : (ofDefault name).Bound := ⟨tidy_ofDefault name, nofun⟩

lemma transaction_settled (s : Server) :
    s.settled.session.transaction = s.session.transaction := by
  rw [settled]
  split_ifs <;> rfl

/-- **A step keeps the transaction bound** to the current database. -/
theorem Step.bound {r : Except Error Reply} (h : s.Step r t) (hs : s.Bound) : t.Bound := by
  refine ⟨h.tidy hs.tidy, fun x hx => ?_⟩
  have hnone (ht : s.session.inTransaction = false) (hx : s.session.transaction = some x)
      {p : Prop} : p := by
    rw [transaction_eq_none ht] at hx
    cases hx
  cases h with
  | refuse => exact hs.transaction x hx
  | tell => exact hs.transaction x hx
  | edit => exact hs.transaction x hx
  | undo => exact hs.transaction x hx
  | create => exact hs.transaction x hx
  | drop ht =>
    rw [transaction_settled] at hx
    exact hnone ht hx
  | settle ht =>
    rw [transaction_settled] at hx
    exact hnone ht hx
  | use ht => exact hnone ht hx
  | @start g hg ht =>
    obtain rfl := Option.some.inj hx
    have hj : g.journal = [] := hs.tidy.journals _ g hg fun _ => transaction_eq_none ht
    exact ⟨rfl, by rw [Store.mark, hj]; rfl⟩
  | commit => cases hx
  | rollback => cases hx

lemma keptBy_bound : KeptBy Bound fun _ => True := fun c k s _ _ hs => (k.step_run c s).bound hs

lemma Bound.runStatements (hs : s.Bound) (c : Context) (ks : List Statement) :
    (ExceptT.run (runStatements c ks) s).2.Bound :=
  keeps_runStatements (I := Bound) (fun k _ s hs => (k.step_run c s).bound hs) (.note "") hs

lemma get?_put_of_ne (g : Store) {n : String} (hn : n ≠ s.session.database) :
    (s.put g).catalog.get? n = s.catalog.get? n :=
  (Catalog.get?_put ..).trans (if_neg (Ne.symm hn))

end Server

/-! ### Statements and other databases -/

namespace Cypher.Statement

variable (c : Context) (s : Server)

lemma get?_edit {α : Type} (e : Edit α) {n : String} (hn : n ≠ s.session.database) :
    (ExceptT.run (Command.edit e) s).2.catalog.get? n = s.catalog.get? n := by
  rw [Command.run_edit]
  cases s.store? with
  | none => rfl
  | some g => exact Server.get?_put_of_ne _ hn

lemma get?_endTransaction (word : String) (f : Transaction → Store → Store) (reply : Reply)
    {n : String} (hn : n ≠ s.session.database) :
    (ExceptT.run (Command.endTransaction word f >>= fun _ => pure reply) s).2.catalog.get? n =
      s.catalog.get? n := by
  rw [run_bind, Command.run_endTransaction]
  cases s.store? with
  | none => rfl
  | some g =>
    cases s.session.transaction with
    | none => rfl
    | some t => exact Server.get?_put_of_ne _ hn

/-- **Creating a database** adds an empty one, if there is none of the name and no transaction is
open. -/
lemma get?_create (n : String) (tolerant : Bool) (m : String) :
    (ExceptT.run (run c (.database (.create n tolerant))) s).2.catalog.get? m =
      if n = m ∧ s.session.inTransaction = false ∧ s.catalog.contains n = false then some {}
      else s.catalog.get? m := by
  change (ExceptT.run (Command.database (.create n tolerant)) s).2.catalog.get? m = _
  rw [Command.database, Command.run_get_bind]
  cases ht : s.session.inTransaction with
  | true =>
    simp only [if_true, Bool.true_eq_false, false_and, and_false, if_false]
    rfl
  | false =>
    simp only [Bool.false_eq_true, if_false, true_and]
    rw [Command.run_changeCatalog]
    cases hc : s.catalog.create n with
    | ok d =>
      have hfree : s.catalog.contains n = false := by
        rw [Catalog.create] at hc
        split_ifs at hc with h
        exact Bool.eq_false_iff.2 h
      simp only [hfree, and_true]
      exact Catalog.get?_create hc m
    | error f =>
      have htaken : s.catalog.contains n = true := by
        rw [Catalog.create] at hc
        split_ifs at hc with h
        exact h
      rw [if_neg (by simp [htaken])]

/-- **Dropping a database** takes away that one, unless it is the default one or a transaction is
open. -/
lemma get?_drop (n : String) (tolerant : Bool) (m : String) :
    (ExceptT.run (run c (.database (.drop n tolerant))) s).2.catalog.get? m =
      if n = m ∧ s.session.inTransaction = false ∧ n ≠ s.catalog.defaultName then none
      else s.catalog.get? m := by
  change (ExceptT.run (Command.database (.drop n tolerant)) s).2.catalog.get? m = _
  rw [Command.database, Command.run_get_bind]
  cases ht : s.session.inTransaction with
  | true =>
    simp only [if_true, Bool.true_eq_false, false_and, and_false, if_false]
    rfl
  | false =>
    simp only [Bool.false_eq_true, if_false, true_and]
    rw [run_bind, Command.run_changeCatalog]
    cases hc : s.catalog.drop n with
    | ok d =>
      have hne : n ≠ s.catalog.defaultName := by
        rw [Catalog.drop] at hc
        split_ifs at hc with h
        exact h
      simp only [hne, ne_eq, not_false_eq_true, and_true]
      refine Eq.trans ?_ (Catalog.get?_drop hc m)
      exact congrArg (Catalog.get? · m) (Server.settled_catalog { s with catalog := d })
    | error f =>
      have hmissing : n ≠ s.catalog.defaultName → s.catalog.get? n = none := by
        intro hne
        rw [Catalog.drop, if_neg hne] at hc
        split_ifs at hc with h
        exact Option.isNone_iff_eq_none.1 (Option.isSome_eq_false_iff.1 (Bool.eq_false_iff.2 h))
      have hsame : s.catalog.get? m =
          if n = m ∧ n ≠ s.catalog.defaultName then none else s.catalog.get? m := by
        split_ifs with h
        · exact h.1 ▸ hmissing h.2
        · rfl
      rw [← hsame]
      dsimp only
      split_ifs
      · exact congrArg (Catalog.get? · m) (Server.settled_catalog s)
      · rfl

/-- Whether a statement creates or drops a database. -/
def changesCatalog : Statement → Bool
  | .database (.create ..) | .database (.drop ..) => true
  | _ => false

/-- **Other databases are left alone** by all other statements. -/
lemma get?_run {k : Statement} (hk : k.changesCatalog = false) {n : String}
    (hn : n ≠ s.session.database) :
    (ExceptT.run (k.run c) s).2.catalog.get? n = s.catalog.get? n := by
  cases k with
  | query q => rw [run]; exact get?_edit s _ hn
  | schema k => rw [run]; exact get?_edit s _ hn
  | database k =>
    cases k with
    | create => cases hk
    | drop => cases hk
    | use m =>
      change (ExceptT.run (Command.database (.use m)) s).2.catalog.get? n = _
      rw [Command.database, Command.run_get_bind]
      split_ifs
      · rfl
      · dsimp only
        split_ifs <;> rfl
  | listing target =>
    rw [run, Command.run_get_bind]
    cases s.listing target <;> rfl
  | transaction k =>
    cases k with
    | start =>
      change (ExceptT.run (Command.transaction c.clock .start) s).2.catalog.get? n = _
      rw [Command.transaction, Command.run_get_bind, Command.run_ensure_bind]
      cases s.store with
      | error x => rfl
      | ok g =>
        dsimp only
        split_ifs <;> rfl
    | commit => exact get?_endTransaction s _ _ _ hn
    | rollback => exact get?_endTransaction s _ _ _ hn
  | help => rfl

end Cypher.Statement

/-! ### Engines -/

namespace Engine

variable {e : Engine}

/-- **Every engine that can be reached has its transaction bound** to the current database. -/
lemma Reachable.bound (h : e.Reachable) : e.server.Bound :=
  (h.holds Server.keptBy_bound Server.bound_ofDefault).server

/-- **A session and the databases beside its own.** Wherever statements have led an engine that can
be reached, the default database and the current one are there; nothing waits in any journal, but
for that of the current database while a transaction is open, which is then one of this database and
goes back to the beginning of its journal. The next statement leaves all other databases as they
are, but that one command adds an empty database, and one takes away the database it names, never
the default one. -/
theorem session_isolated (he : e.Reachable) (c : Context) (before : List Statement) :
    let s := (ExceptT.run (runStatements c before) e.server).2
    s.catalog.contains s.catalog.defaultName ∧ (∃ g, s.store = .ok g) ∧
    (s.session.transaction = none → ∀ n g, s.catalog.get? n = some g → g.journal = []) ∧
    (∀ t, s.session.transaction = some t → t.database = s.session.database ∧ t.mark = 0 ∧
      ∀ n g, n ≠ s.session.database → s.catalog.get? n = some g → g.journal = []) ∧
    ∀ c' : Context,
      (∀ k : Statement, k.changesCatalog = false → ∀ n, n ≠ s.session.database →
        (ExceptT.run (k.run c') s).2.catalog.get? n = s.catalog.get? n) ∧
      (∀ n tolerant m,
        (ExceptT.run (Statement.run c' (.database (.create n tolerant))) s).2.catalog.get? m =
          if n = m ∧ s.session.inTransaction = false ∧ s.catalog.contains n = false then some {}
          else s.catalog.get? m) ∧
      ∀ n tolerant m,
        (ExceptT.run (Statement.run c' (.database (.drop n tolerant))) s).2.catalog.get? m =
          if n = m ∧ s.session.inTransaction = false ∧ n ≠ s.catalog.defaultName then none
          else s.catalog.get? m := by
  intro s
  have hs : s.Bound := he.bound.runStatements c before
  have hstore : ∃ g, s.store = .ok g := by
    obtain ⟨g, hg⟩ := Catalog.contains_iff.1 hs.tidy.current
    exact ⟨g, by rw [Server.store, Server.store?, hg]⟩
  refine ⟨hs.tidy.default, hstore, fun ht n g hg => hs.tidy.journals n g hg fun _ => ht,
    fun t ht => ?_, fun c' => ⟨fun k hk n hn => Statement.get?_run c' s hk hn,
      Statement.get?_create c' s, Statement.get?_drop c' s⟩⟩
  obtain ⟨hdatabase, hmark⟩ := hs.transaction t ht
  exact ⟨hdatabase, hmark, fun n g hn hg => hs.tidy.journals n g hg fun h => absurd h hn⟩

/-- In a transaction of a database that was created, nothing waits elsewhere. The end of the
transaction leaves the default database alone, and before it the database cannot be dropped. -/
theorem session_isolated_other :
    let request (text : String) : Request := { text, clock := .zero }
    let e := ((ofConfig {}).run (request "CREATE DATABASE other;USE other;BEGIN;CREATE (:A)")).2
    let e' := (e.run (request "COMMIT")).2
    let c : Context := ⟨[], 0, .zero⟩
    let drop : Statement := .database (.drop "other" false)
    e.server.session.database = "other" ∧
      (e.server.store?.map fun g => g.journal.length) = some 1 ∧
      (∃ x, e.server.session.transaction = some x ∧ x.database = "other" ∧ x.mark = 0) ∧
      (∀ g, e.server.catalog.get? "neo4j" = some g → g.journal = []) ∧
      (ExceptT.run (Statement.run c (.transaction .commit)) e.server).2.catalog.get? "neo4j" =
        e.server.catalog.get? "neo4j" ∧
      (ExceptT.run (drop.run c) e.server).2.catalog.get? "other" =
        e.server.catalog.get? "other" ∧
      (ExceptT.run (drop.run c) e'.server).2.catalog.get? "other" = none := by
  intro request e e' c drop
  have he : e.Reachable := .run (.ofConfig {}) _
  have he' : e'.Reachable := .run he _
  have hdatabase : e.server.session.database = "other" := by decide +kernel
  have hjournal : (e.server.store?.map fun g => g.journal.length) = some 1 := by decide +kernel
  have hin : e.server.session.inTransaction = true := by decide +kernel
  have hout : e'.server.session.inTransaction = false ∧
      "other" ≠ e'.server.catalog.defaultName := by decide +kernel
  clear_value e' e
  obtain ⟨x, hx⟩ := Option.isSome_iff_exists.1 hin
  obtain ⟨-, -, -, htransaction, hnext⟩ := session_isolated he c []
  obtain ⟨hx₁, hx₂, hjournals⟩ := htransaction x hx
  have hother : "neo4j" ≠ e.server.session.database := by rw [hdatabase]; decide
  refine ⟨hdatabase, hjournal, ⟨x, hx, hx₁.trans hdatabase, hx₂⟩,
    fun g => hjournals "neo4j" g hother, (hnext c).1 (.transaction .commit) rfl "neo4j" hother,
    ((hnext c).2.2 "other" false "other").trans (if_neg fun h => ?_),
    ((session_isolated he' c []).2.2.2.2 c).2.2 "other" false "other" |>.trans (if_pos ?_)⟩
  · exact absurd (hin.symm.trans h.2.1) (by decide)
  · exact ⟨rfl, hout⟩

end Engine

end PropertyGraph
