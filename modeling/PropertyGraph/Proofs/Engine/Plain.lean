import PropertyGraph.Proofs.Engine.Transaction
import PropertyGraph.Proofs.Query.Plain

/-!
Properties without entities, in all graphs of an engine.

There is one way for an entity into a property: a map in a pattern that CREATE or MERGE creates
from. As long as no request goes that way, whatever else it does, no property holds an entity.
-/

namespace PropertyGraph

open Cypher Edit

lemma Store.lasting_plain : Store.Lasting Store.Plain := ⟨plain_empty, .commit, .rollbackTo⟩

/-- **Requests give plain parameters.** -/
lemma Context.Requested.plain {c : Context} (hc : c.Requested) : c.Plain := by
  obtain ⟨r, hr⟩ := hc
  rw [Engine.Request.bindings.eq_def] at hr
  rw [Context.Plain]
  split at hr
  · rw [← Except.ok.inj hr]
    exact .nil
  · rw [← Except.ok.inj hr]
    exact .nil
  · rw [← Except.ok.inj hr]
    exact Value.plain_ofJsonMembers _
  · cases hr

/-! ### Statements -/

namespace Cypher.Statement

/-- The parts that give the properties of what a statement creates. -/
def creations : Statement → List Expr
  | query q => q.creations
  | _ => []

/-- What a statement creates gets no entity as a property. -/
def CreatesPlain (k : Statement) : Prop := ∀ x ∈ k.creations, x.meaning.Plain

/-- What a statement creates gets only what is made of literals and parameters. -/
def CreatesConstant (k : Statement) : Prop := ∀ x ∈ k.creations, x.Constant

instance : DecidablePred CreatesConstant := fun k =>
  inferInstanceAs (Decidable (∀ x ∈ k.creations, x.Constant))

lemma CreatesConstant.plain {k : Statement} (h : k.CreatesConstant) : k.CreatesPlain :=
  fun x hx => (h x hx).plain_meaning

end Cypher.Statement

/-- **What queries of a kind keep in a graph**, statements of the kind keep in all databases, if it
is a property that modest calls, commits and rollbacks keep. -/
theorem Server.keptBy_all {I : Store → Prop} {A : Statement → Prop} (hI : Store.Lasting I)
    (ht : Store.Tended I) (hq : ∀ (c : Context) (q : Query Expr), c.Plain → A (.query q) →
      Maintains I (Query.reply c (queryMeaning q))) :
    KeptBy (fun s => s.catalog.All I) A := by
  intro c k s hc hk hs
  have hedit (e : Edit Reply) (he : e ∈ k.edit? c) (d : Draft) (hd : I d.store) :
      I (ExceptT.run e d).2.store := by
    cases k with
    | query q =>
      obtain rfl := Option.some.inj he
      exact (hq c q hc.plain hk d hd).1
    | schema k =>
      obtain rfl := Option.some.inj he
      exact (k.maintains_reply ht d hd).1
    | _ => cases he
  exact (k.stepBy_run c hedit s).all hI (fun _ _ h => h) hs

lemma Server.keptBy_plain : KeptBy (fun s => s.catalog.All Store.Plain) Statement.CreatesPlain := by
  refine keptBy_all Store.lasting_plain Store.tended_plain fun c q hc hk =>
    Query.plain_reply hc ?_
  rw [queryMeaning, Expr.creations_foldQuery]
  exact List.forall_mem_map.2 hk

/-! ### Engines -/

namespace Engine

/-- The engines that requests and scripts of statements of a kind lead to, and resets. -/
inductive ReachableBy (A : Statement → Prop) : Engine → Prop
  | ofConfig (c : Config) : ReachableBy A (ofConfig c)
  | perform {e : Engine} (h : ReachableBy A e) (a : Action) (ha : ∀ text ∈ a.texts, Only A text) :
      ReachableBy A (a.perform e)
  | reset {e : Engine} (h : ReachableBy A e) : ReachableBy A e.reset

variable {e : Engine} {A : Statement → Prop}

lemma ReachableBy.performs (h : e.ReachableBy A) {actions : List Action}
    (ha : ∀ a ∈ actions, ∀ text ∈ a.texts, Only A text) :
    (actions.foldl Action.perform e).ReachableBy A := by
  induction actions generalizing e with
  | nil => exact h
  | cons a actions ih =>
    rw [List.forall_mem_cons] at ha
    exact ih (h.perform a ha.1) ha.2

/-- **A property that statements of a kind keep holds of every engine that they lead to.** -/
theorem ReachableBy.holds (h : e.ReachableBy A) {I : Server → Prop} (hI : Server.KeptBy I A)
    (hinit : ∀ name, I (.ofDefault name)) : e.Holds I := by
  induction h with
  | ofConfig c => exact ⟨hinit _, fun _ _ h => absurd h List.not_mem_nil⟩
  | perform _ a ha ih => exact ih.perform hI ha
  | reset _ ih => exact ⟨hinit _, fun _ _ h => absurd h List.not_mem_nil⟩

/-- **Properties hold no entities** in any database, after any requests and scripts with any
parameters, if CREATE and MERGE are never given one in a map of their patterns. -/
theorem properties_plain (h : e.ReachableBy Statement.CreatesPlain) {name : String} {g : Store}
    (hg : e.server.catalog.get? name = some g) :
    (∀ n ∈ Dict.values g.nodes, ∀ v ∈ Dict.values n.properties, ¬ v.mentionsEntity) ∧
      ∀ r ∈ Dict.values g.rels, ∀ v ∈ Dict.values r.properties, ¬ v.mentionsEntity := by
  have hplain := (h.holds Server.keptBy_plain
    fun _ => Catalog.all_ofDefault Store.plain_empty _).server name g hg
  have hvalues {ps : Properties} (hps : Dict.Plain ps) (v : Value) (hv : v ∈ Dict.values ps) :
      ¬ v.mentionsEntity := by
    obtain ⟨e, he, rfl⟩ := List.mem_map.1 hv
    exact Bool.eq_false_iff.1 (hps e he)
  exact ⟨fun n hn => hvalues (hplain.nodes n hn), fun r hr => hvalues (hplain.rels r hr)⟩

/-- Requests that put maps and lists into properties, also from other entities, and one that would
put a node there. -/
def copies : List Action :=
  let request (text : String) : Request :=
    { text, parameters := some (.obj [("p", .obj [("x", .bool true)])]), clock := .zero }
  [.run (request "CREATE (a:A \x7bk: $p\x7d)-[:R \x7bw: [null] + $p\x7d]->(b)"),
    .execute (request "MATCH (a)-[r]->(b) SET b = a, b += r, b.l = keys(a)"),
    .run (request "MATCH (a:A) MERGE (c:C \x7bk: $p\x7d) ON CREATE SET c.ref = a")]

/-- What is copied is plain, and of the node that was to refer to another one nothing is left. -/
theorem properties_plain_copies : (copies.foldl Action.perform (ofConfig {})).ReachableBy
      Statement.CreatesPlain ∧
    ∃ g, (copies.foldl Action.perform (ofConfig {})).server.catalog.get? "neo4j" = some g ∧
      (g.node? 1).map Node.properties = some [("k", .map [("x", .bool true)]),
        ("l", .list [.str "k"]), ("w", .list [.null, .map [("x", .bool true)]])] ∧
      g.node? 2 = none ∧
      (∀ n ∈ Dict.values g.nodes, ∀ v ∈ Dict.values n.properties, ¬ v.mentionsEntity) ∧
        ∀ r ∈ Dict.values g.rels, ∀ v ∈ Dict.values r.properties, ¬ v.mentionsEntity := by
  have htexts : ∀ a ∈ copies, ∀ text ∈ a.texts, Only Statement.CreatesConstant text := by
    decide +kernel
  have he : (copies.foldl Action.perform (ofConfig {})).ReachableBy Statement.CreatesPlain :=
    (ReachableBy.ofConfig {}).performs
      fun a ha text ht => (htexts a ha text ht).imp fun _ h => h.plain
  have hrun : ((copies.foldl Action.perform (ofConfig {})).server.catalog.get? "neo4j").bind
      (fun g => (g.node? 1).map fun n => (n.properties, g.node? 2)) =
        some ([("k", .map [("x", .bool true)]), ("l", .list [.str "k"]),
          ("w", .list [.null, .map [("x", .bool true)]])], none) := by
    decide +kernel
  obtain ⟨g, hg, hn⟩ := Option.bind_eq_some_iff.1 hrun
  obtain ⟨n, hn, heq⟩ := Option.map_eq_some_iff.1 hn
  obtain ⟨hps, hnone⟩ := Prod.mk.inj heq
  exact ⟨he, g, hg, by rw [hn, Option.map_some, hps], hnone, properties_plain he hg⟩

/-- **CREATE stores entities**: so not all engines that can be reached are without them. The same
value is refused by SET. -/
theorem create_stores_entity :
    let request (text : String) : Request := { text, clock := .zero }
    let e := ((ofConfig {}).run (request "CREATE (a:A)")).2
    ((e.execute (request "MATCH (a:A) SET a.ref = a")).1.map fun _ => ()) =
        .error (.type (.propertyValue "Node")) ∧
      ((e.run (request "MATCH (a:A) CREATE (b:B \x7bref: a\x7d)")).2.server.catalog.get?
        "neo4j").map (fun g => g.node? 1) = some (some ⟨1, ["B"], [("ref", .node 0)]⟩) ∧
      ¬ ∀ e : Engine, e.Reachable → ∀ (name : String) (g : Store),
        e.server.catalog.get? name = some g → ∀ n ∈ Dict.values g.nodes,
          ∀ v ∈ Dict.values n.properties, ¬ v.mentionsEntity := by
  intro request e
  have hset : ((e.execute (request "MATCH (a:A) SET a.ref = a")).1.map fun _ => ()) =
      .error (.type (.propertyValue "Node")) := by decide +kernel
  have hcreate : ((e.run (request "MATCH (a:A) CREATE (b:B \x7bref: a\x7d)")).2.server.catalog.get?
      "neo4j").map (fun g => g.node? 1) = some (some ⟨1, ["B"], [("ref", .node 0)]⟩) := by
    decide +kernel
  refine ⟨hset, hcreate, fun h => ?_⟩
  obtain ⟨g, hg, hn⟩ := Option.map_eq_some_iff.1 hcreate
  exact h _ (.run (.run (.ofConfig {}) _) _) "neo4j" g hg _ (Dict.mem_values_of_get? hn) (.node 0)
    (by simp [Dict.values]) rfl

end Engine

end PropertyGraph
