import PropertyGraph.Proofs.Engine.Plain
import PropertyGraph.Proofs.Query.Grounded
import PropertyGraph.Proofs.Store.Rendered

/-!
Rendering ends in every engine that can be reached.

An entity gets its references when it is created, from a text that can name no entity by itself. So
they are to entities from before, and neither changes of properties nor rollbacks turn one around.
-/

namespace PropertyGraph

open Cypher Edit

lemma Store.lasting_grounded : Store.Lasting Store.Grounded :=
  ⟨grounded_empty, .commit, .rollbackTo⟩

/-- Statements as they stand in texts leave grounded graphs grounded. -/
lemma Server.keptBy_grounded : KeptBy (fun s => s.catalog.All Store.Grounded) Statement.Closed :=
  keptBy_all Store.lasting_grounded Store.tended_grounded fun _ _ hc hk d hd =>
    ⟨(Query.grounds_reply hc hk d hd le_rfl).1, fun _ _ => trivial⟩

namespace Engine

variable {e : Engine}

/-- **Every graph of an engine that can be reached is grounded.** -/
theorem Reachable.grounded (h : e.Reachable) : e.server.catalog.All Store.Grounded :=
  (h.holds_of Server.keptBy_grounded (fun _ _ => closed_of_parse)
    fun _ => Catalog.all_ofDefault Store.grounded_empty _).server

/-- **Rendering ends** in all databases, after any requests, scripts and resets. The references from
entity to entity are well-founded, and so is what calls what when a value is rendered, whichever it
is; and entities are written with every reference looked up, which determines how they are. -/
theorem Reachable.rendering_ends (h : e.Reachable) {name : String} {g : Store}
    (hg : e.server.catalog.get? name = some g) :
    (WellFounded fun y x => g.Refers x y) ∧ (WellFounded fun w v => g.Calls v w) ∧
      ∀ f : EntityForm, EntityForm.lookUp g f = f ↔ f = g.entityForm := by
  have hgrounded := h.grounded name g hg
  exact ⟨hgrounded.wellFounded_refers, hgrounded.wellFounded_calls,
    fun _ => hgrounded.lookUp_eq_iff⟩

/-- Requests that create a node with a reference to another one inside of a list, and would turn
that around, by SET and by a copy of the properties. -/
def chained : List Action :=
  let request (text : String) : Request := { text, clock := .zero }
  [.run (request "CREATE (a:A)"), .run (request "BEGIN"),
    .run (request "MATCH (a:A) CREATE (b:B \x7bref: [a]\x7d)"),
    .run (request "MATCH (a:A), (b:B) SET a.ref = b"),
    .run (request "MATCH (a:A), (b:B) SET a = b"), .run (request "COMMIT")]

theorem rendering_ends_chained : (chained.foldl Action.perform (ofConfig {})).Reachable ∧
    ∃ g, (chained.foldl Action.perform (ofConfig {})).server.catalog.get? "neo4j" = some g ∧
      g.node? 0 = some ⟨0, ["A"], []⟩ ∧ g.node? 1 = some ⟨1, ["B"], [("ref", .list [.node 0])]⟩ ∧
      (WellFounded fun y x => g.Refers x y) ∧ (WellFounded fun w v => g.Calls v w) ∧
        ∀ f : EntityForm, EntityForm.lookUp g f = f ↔ f = g.entityForm := by
  have he : (chained.foldl Action.perform (ofConfig {})).Reachable :=
    .run (.run (.run (.run (.run (.run (.ofConfig {}) _) _) _) _) _) _
  have hrun : ((chained.foldl Action.perform (ofConfig {})).server.catalog.get? "neo4j").map
      (fun g => (g.node? 0, g.node? 1)) = some (some ⟨0, ["A"], []⟩,
        some ⟨1, ["B"], [("ref", .list [.node 0])]⟩) := by
    decide +kernel
  obtain ⟨g, hg, hn⟩ := Option.map_eq_some_iff.1 hrun
  obtain ⟨ha, hb⟩ := Prod.mk.inj hn
  exact ⟨he, g, hg, ha, hb, he.rendering_ends hg⟩

end Engine

end PropertyGraph
