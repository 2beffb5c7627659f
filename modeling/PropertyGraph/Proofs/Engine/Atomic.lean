import PropertyGraph.Proofs.Engine.Reachable

/-!
Requests are done statement by statement, and each statement altogether or not at all: one that
fails leaves the graphs as they were, down to the order of every list and to the journal, and
only ids may have been used up.
-/

namespace PropertyGraph

open Cypher

/-- The same graph with the same journal, in which ids may have been used up. -/
structure Store.Advances (g h : Store) : Prop where
  nextNode_le : g.nextNode ≤ h.nextNode
  nextRel_le : g.nextRel ≤ h.nextRel
  same : h = { g with nextNode := h.nextNode, nextRel := h.nextRel }

/-- The same databases, each with the same graph, and the same session. -/
structure Server.Advances (s t : Server) : Prop where
  session : t.session = s.session
  defaultName : t.catalog.defaultName = s.catalog.defaultName
  names : t.catalog.names = s.catalog.names
  graphs : ∀ n g, s.catalog.get? n = some g → ∃ h, t.catalog.get? n = some h ∧ g.Advances h

namespace Store

lemma Advances.refl (g : Store) : g.Advances g := ⟨le_rfl, le_rfl, rfl⟩

/-- **What operations did to a lawful graph can be undone.** -/
theorem Leads.advances {g h : Store} (hl : g.Leads h) (hg : g.Lawful) :
    g.Advances (h.rollbackTo g.mark) := by
  have hle : g.nextNode ≤ h.nextNode ∧ g.nextRel ≤ h.nextRel := by
    obtain ⟨calls, -, rfl⟩ := hl
    exact counters_le_run hg calls
  exact ⟨by simpa using hle.1, by simpa using hle.2, by rw [hl.undone hg]; rfl⟩

end Store

namespace Server

variable {s t : Server}

lemma Advances.refl (s : Server) : s.Advances s :=
  ⟨rfl, rfl, rfl, fun _ g hg => ⟨g, hg, .refl g⟩⟩

lemma advances_put {g h : Store} (hg : s.store? = some g) (hh : g.Advances h) :
    s.Advances (s.put h) where
  session := rfl
  defaultName := rfl
  names := Catalog.names_put ..
  graphs n g' hg' := by
    have hput : (s.put h).catalog.get? n = _ := Catalog.get?_put s.catalog s.session.database n h
    by_cases hn : s.session.database = n
    · subst hn
      obtain rfl : g' = g := Option.some.inj (hg'.symm.trans hg)
      exact ⟨h, by rw [hput, if_pos rfl, hg']; rfl, hh⟩
    · exact ⟨g', by rw [hput, if_neg hn, hg'], .refl g'⟩

/-- **A failure leaves no trace.** -/
theorem Step.advances {x : Error} (h : s.Step (.error x) t) (hs : s.catalog.Lawful) :
    s.Advances t := by
  cases h with
  | refuse => exact .refl s
  | undo hg hl => exact advances_put hg (hl.advances (hs _ _ hg))

end Server

/-- A failure ends a sequence of statements. -/
lemma Cypher.run_runStatements (c : Context) {pre : List Statement} {k : Statement}
    (post : List Statement) {s v w : Server} {reply : Reply} {x : Error}
    (hpre : ExceptT.run (runStatements c pre) s = (.ok reply, v))
    (hk : ExceptT.run (k.run c) v = (.error x, w)) :
    ExceptT.run (runStatements c (pre ++ k :: post)) s = (.error x, w) := by
  rw [runStatements, List.foldlM_append, run_bind]
  rw [runStatements] at hpre
  rw [hpre]
  dsimp only
  rw [List.foldlM_cons, run_bind, hk]

namespace Engine

/-- **Statements are atomic.** A request that is not right in itself changes nothing. In any other,
a statement that fails ends it, and leaves the databases and the session as the statements
before it did, but for ids that are used up. -/
theorem execute_atomic {e : Engine} (he : e.Reachable) (r : Request) :
    (∀ x, r.prepared = .error x →
      (e.execute r).1 = .error x ∧ (e.execute r).2.server = e.server) ∧
    ∀ (bindings : Dict String Value) (pre : List Statement) (k : Statement) (post : List Statement),
      r.prepared = .ok (bindings, pre ++ k :: post) →
      ∀ reply v, ExceptT.run (runStatements (e.context r bindings) pre) e.server = (.ok reply, v) →
      ∀ x w, ExceptT.run (k.run (e.context r bindings)) v = (.error x, w) →
      (e.execute r).1 = .error x ∧ v.Advances (e.execute r).2.server := by
  have hl := he.lawful
  obtain ⟨cache, -, heq⟩ := execute_eq hl.cache r
  rw [heq]
  constructor
  · intro x hx
    rw [hx]
    exact ⟨rfl, rfl⟩
  · intro bindings pre k post hp reply v hpre x w hk
    have hv := lawful_runStatements (e.context r bindings) pre (.note "") hl.graphs
    rw [← runStatements, hpre] at hv
    have hstep := k.step_run (e.context r bindings) v
    rw [hk] at hstep
    rw [hp]
    dsimp only
    rw [run_runStatements _ post hpre hk]
    exact ⟨rfl, hstep.advances hv⟩

-- statements cannot be compared, but their form can be read off
lemma prepared_create_delete :
    (match Request.prepared { text := "BEGIN;CREATE () DELETE true", clock := .zero } with
      | .ok ([], [.transaction .start, .query ⟨[.create [⟨none, .all, ⟨none, [], none⟩, []⟩],
          .delete false [.of (.literal (.bool true))]], []⟩]) => true
      | _ => false) = true := by decide +kernel

/-- A statement creates a node and then fails: of the node only its id is left. -/
theorem execute_atomic_create_delete :
    let e := ofConfig {}
    let r : Request := { text := "BEGIN;CREATE () DELETE true", clock := .zero }
    ∃ v, ExceptT.run (runStatements (e.context r []) [.transaction .start]) e.server =
        (.ok (.note "Transaction started"), v) ∧
      (e.execute r).1 =
        .error (.type (.expects "DELETE" "a Node, Relationship or Path" "Boolean")) ∧
      v.Advances (e.execute r).2.server ∧
      (e.execute r).2.server.store? = some { nextNode := 1 } := by
  intro e r
  let k : Statement := .query ⟨[.create [⟨none, .all, ⟨none, [], none⟩, []⟩],
    .delete false [.of (.literal (.bool true))]], []⟩
  have hp : r.prepared = .ok ([], [.transaction .start] ++ k :: []) := by
    have h := prepared_create_delete
    split at h
    · assumption
    · simp at h
  obtain ⟨herr, hadv⟩ := (execute_atomic (.ofConfig {}) r).2 [] _ k [] hp _ _ rfl _ _ rfl
  exact ⟨_, rfl, herr, hadv, by decide +kernel⟩

end Engine

end PropertyGraph
