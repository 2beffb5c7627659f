import PropertyGraph.Engine
import PropertyGraph.Proofs.Query.Write

/-!
What a statement can do to a server, with what it has checked. Only two of the cases are
failures: nothing has been changed yet, or the changes of one graph are undone.

What edits do to a graph is left open, as there is more than one thing to say of it.
-/

namespace PropertyGraph

namespace Server

/-- The server after it has left a database that is gone. -/
def settled (s : Server) : Server :=
  if s.catalog.contains s.session.database then s else s.use s.catalog.defaultName

/-- A step in which the graph of an edit is related to the one before. -/
inductive StepBy (L : Store → Store → Prop) (s : Server) : Except Error Reply → Server → Prop
  | refuse (x : Error) : StepBy L s (.error x) s
  | tell (r : Reply) : StepBy L s (.ok r) s
  | edit {g h : Store} (hg : s.store? = some g) (hl : L g h) (r : Reply) :
      StepBy L s (.ok r) (s.put (if s.session.inTransaction then h else h.commit))
  | undo {g h : Store} (hg : s.store? = some g) (hl : L g h) (x : Error) :
      StepBy L s (.error x) (s.put (h.rollbackTo g.mark))
  | create {n : String} {c : Catalog} (ht : s.session.inTransaction = false)
      (hc : s.catalog.create n = .ok c) (r : Reply) : StepBy L s (.ok r) { s with catalog := c }
  | drop {n : String} {c : Catalog} (ht : s.session.inTransaction = false)
      (hc : s.catalog.drop n = .ok c) (r : Reply) :
      StepBy L s (.ok r) { s with catalog := c }.settled
  | settle (ht : s.session.inTransaction = false) (r : Reply) : StepBy L s (.ok r) s.settled
  | use {n : String} (ht : s.session.inTransaction = false) (hn : s.catalog.contains n)
      (r : Reply) : StepBy L s (.ok r) (s.use n)
  | start {g : Store} (hg : s.store? = some g) (ht : s.session.inTransaction = false)
      (clock : Number) (r : Reply) :
      StepBy L s (.ok r) { s with session := { s.session with
        transaction := some ⟨s.session.started + 1, s.session.database, g.mark, clock⟩
        started := s.session.started + 1 } }
  | commit {g : Store} {t : Transaction} (hg : s.store? = some g)
      (ht : s.session.transaction = some t) (r : Reply) :
      StepBy L s (.ok r) { s.put g.commit with session := { s.session with transaction := none } }
  | rollback {g : Store} {t : Transaction} (hg : s.store? = some g)
      (ht : s.session.transaction = some t) (r : Reply) :
      StepBy L s (.ok r) { s.put (g.rollbackTo t.mark).commit with
        session := { s.session with transaction := none } }

/-- A step in which edits are done by operations. -/
abbrev Step (s : Server) : Except Error Reply → Server → Prop := StepBy Store.Leads s

end Server

namespace Command

variable {L : Store → Store → Prop} {s : Server}

lemma run_get_bind {α : Type} (f : Server → Command α) (s : Server) :
    ExceptT.run (MonadState.get >>= f) s = ExceptT.run (f s) s := by rw [run_bind]; rfl

lemma run_ensure_bind {α β : Type} (x : Except Error α) (f : α → Command β) (s : Server) :
    ExceptT.run (ensure x >>= f) s = match x with
      | .ok a => ExceptT.run (f a) s
      | .error e => (.error e, s) := by
  rw [run_bind]
  cases x <;> rfl

lemma run_edit {α : Type} (e : Edit α) (s : Server) :
    ExceptT.run (edit e) s = match s.store? with
      | none => (.error (.database (.notFound s.session.database)), s)
      | some g => let (r, g) := e.atomically s.session.inTransaction g; (r, s.put g) := by
  rw [edit, run_get_bind, run_ensure_bind, Server.store]
  cases s.store? with
  | none => rfl
  | some g =>
    change ExceptT.run (MonadState.set _ >>= fun _ => ensure _) s = _
    rw [run_bind]
    change ExceptT.run (ensure (e.atomically s.session.inTransaction g).1) _ = _
    cases h : (e.atomically s.session.inTransaction g).1 <;> simp [ensure, h] <;> rfl

lemma step_edit {e : Edit Reply} (he : ∀ d : Draft, L d.store (ExceptT.run e d).2.store)
    (s : Server) : s.StepBy L (ExceptT.run (edit e) s).1 (ExceptT.run (edit e) s).2 := by
  rw [run_edit]
  cases hg : s.store? with
  | none => exact .refuse _
  | some g =>
    have hl := he ⟨g, {}⟩
    dsimp only
    rw [Edit.atomically]
    rcases h : ExceptT.run e ⟨g, {}⟩ with ⟨x | r, d⟩
    · rw [h] at hl
      exact .undo hg hl x
    · rw [h] at hl
      exact .edit hg hl r

lemma run_changeCatalog (change : Catalog → Except DatabaseFault Catalog)
    (tolerated : DatabaseFault → Bool) (done : String) (s : Server) :
    ExceptT.run (changeCatalog change tolerated done) s = match change s.catalog with
      | .ok c => (.ok (.note done), { s with catalog := c })
      | .error f => (if tolerated f then .ok (.note f.message) else .error (.database f), s) := by
  rw [changeCatalog, run_get_bind]
  cases change s.catalog with
  | ok c => rfl
  | error f => cases h : tolerated f <;> simp [h] <;> rfl

lemma step_database (k : Cypher.DatabaseCommand) (s : Server) :
    s.StepBy L (ExceptT.run (database k) s).1 (ExceptT.run (database k) s).2 := by
  rw [database, run_get_bind]
  cases ht : s.session.inTransaction with
  | true => exact .refuse _
  | false =>
    simp only [Bool.false_eq_true, if_false]
    cases k with
    | create n ifNotExists =>
      dsimp only
      rw [run_changeCatalog]
      cases hc : s.catalog.create n with
      | ok c => exact .create ht hc _
      | error f =>
        dsimp only
        split_ifs
        · exact .tell _
        · exact .refuse _
    | drop n ifExists =>
      dsimp only
      rw [run_bind, run_changeCatalog]
      cases hc : s.catalog.drop n with
      | ok c => exact .drop ht hc _
      | error f =>
        dsimp only
        split_ifs
        · exact .settle ht _
        · exact .refuse _
    | use n =>
      dsimp only
      split_ifs with hn
      · exact .use ht hn _
      · exact .refuse _

lemma run_endTransaction (word : String) (f : Transaction → Store → Store) (s : Server) :
    ExceptT.run (endTransaction word f) s = match s.store?, s.session.transaction with
      | none, _ => (.error (.database (.notFound s.session.database)), s)
      | some _, none => (.error (.transaction (.notActive word)), s)
      | some g, some t =>
        (.ok (), { s.put (f t g) with session := { s.session with transaction := none } }) := by
  rw [endTransaction, run_get_bind, run_ensure_bind, Server.store]
  cases s.store? with
  | none => rfl
  | some g => cases h : s.session.transaction <;> rfl

lemma step_transaction (clock : Number) (k : Cypher.TransactionCommand) (s : Server) :
    s.StepBy L (ExceptT.run (transaction clock k) s).1
      (ExceptT.run (transaction clock k) s).2 := by
  cases k with
  | start =>
    rw [transaction, run_get_bind, run_ensure_bind, Server.store]
    cases hg : s.store? with
    | none => exact .refuse _
    | some g =>
      cases ht : s.session.inTransaction with
      | true => exact .refuse _
      | false => exact .start hg ht clock _
  | commit =>
    rw [transaction, run_bind, run_endTransaction]
    cases hg : s.store? with
    | none => exact .refuse _
    | some g =>
      cases ht : s.session.transaction with
      | none => exact .refuse _
      | some t => exact .commit hg ht _
  | rollback =>
    rw [transaction, run_bind, run_endTransaction]
    cases hg : s.store? with
    | none => exact .refuse _
    | some g =>
      cases ht : s.session.transaction with
      | none => exact .refuse _
      | some t => exact .rollback hg ht _

end Command

namespace Cypher.Statement

/-- The edit that a statement is, if it is one. -/
def edit? (c : Context) : Statement → Option (Edit Reply)
  | query q => some (Query.reply c (queryMeaning q))
  | schema k => some k.reply
  | _ => none

/-- **What a statement does** is one of the steps of a server. -/
theorem stepBy_run {L : Store → Store → Prop} (c : Context) (k : Statement)
    (h : ∀ e ∈ k.edit? c, ∀ d : Draft, L d.store (ExceptT.run e d).2.store) (s : Server) :
    s.StepBy L (ExceptT.run (k.run c) s).1 (ExceptT.run (k.run c) s).2 := by
  cases k with
  | query q => exact Command.step_edit (h _ rfl) s
  | schema k => exact Command.step_edit (h _ rfl) s
  | database k => exact Command.step_database k s
  | listing t =>
    rw [run, Command.run_get_bind]
    cases s.listing t with
    | ok r => exact .tell r
    | error x => exact .refuse x
  | transaction k => exact Command.step_transaction c.clock k s
  | help => exact .tell _

/-- **What a statement does to a graph is done by operations.** -/
theorem step_run (c : Context) (k : Statement) (s : Server) :
    s.Step (ExceptT.run (k.run c) s).1 (ExceptT.run (k.run c) s).2 := by
  refine k.stepBy_run c (fun e he => ?_) s
  cases k with
  | query q =>
    obtain rfl := Option.some.inj he
    exact Query.moves_reply c _
  | schema k =>
    obtain rfl := Option.some.inj he
    exact k.moves_reply c
  | _ => cases he

end Cypher.Statement

end PropertyGraph
