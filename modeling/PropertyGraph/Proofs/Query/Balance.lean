import PropertyGraph.Proofs.Engine.Reachable
import PropertyGraph.Proofs.Query.Counted
import PropertyGraph.Proofs.Store.Operation
import PropertyGraph.Proofs.Store.Pruned

/-!
The counters of nodes and relationships are exact: what a query reports as created and deleted is
the difference that it made to the size of its graph.

Every counted step keeps the balance. That is plain for what is created under an id that is not in
use yet. What is deleted is known as a set, and a map without some of its keys is as much shorter
as there are keys in the set; so the relationships that go with a node are counted once each,
loops as well.
-/

namespace PropertyGraph

/-! ### Sizes of maps -/

namespace Dict

variable {α : Type} {d e : Dict Nat α}

lemma Ascending.card_keys (hd : Ascending d) : (keys d).toFinset.card = d.length := by
  rw [List.toFinset_card_of_nodup hd.nodup_keys, keys, List.length_map]

/-- A map without some keys is as much shorter as there are keys. -/
lemma Ascending.length_add_card (hd : Ascending d) (he : Ascending e) {K : Finset Nat}
    (hK : ∀ k ∈ K, (get? d k).isSome) (h : ∀ k, get? e k = if k ∈ K then none else get? d k) :
    e.length + K.card = d.length := by
  have hkeys : (keys e).toFinset = (keys d).toFinset \ K := by
    ext k
    rw [Finset.mem_sdiff, List.mem_toFinset, List.mem_toFinset, mem_keys_iff, mem_keys_iff, h]
    split_ifs with hk <;> simp [hk]
  have hsub : K ⊆ (keys d).toFinset := fun k hk => List.mem_toFinset.2 (mem_keys_iff.2 (hK k hk))
  rw [← he.card_keys, ← hd.card_keys, hkeys, Finset.card_sdiff_add_card_eq_card hsub]

lemma length_insert {k : Nat} (h : get? d k = none) (v : α) :
    (insert d k v).length = d.length + 1 := by
  induction d with
  | nil => rfl
  | cons e d ih =>
    obtain ⟨j, w⟩ := e
    rw [get?_cons] at h
    split_ifs at h with hj
    rw [insert, if_neg hj]
    split_ifs
    · rfl
    · rw [List.length_cons, ih h, List.length_cons]

end Dict

/-! ### Sizes of graphs -/

namespace Store

variable {s t : Store}

/-- One graph has as many nodes and relationships as another one. -/
structure SameSize (s t : Store) : Prop where
  nodes : t.nodes.length = s.nodes.length
  rels : t.rels.length = s.rels.length

lemma SameSize.refl (s : Store) : SameSize s s := ⟨rfl, rfl⟩

lemma sameSize_removeNodeProperty (i : NodeId) (k : String) (s : Store) :
    SameSize s (removeNodeProperty i k s).2 := by
  rw [removeNodeProperty]
  split
  · exact .refl s
  · split
    · exact .refl s
    · exact ⟨List.length_map _, rfl⟩

lemma sameSize_setNodeProperty (i : NodeId) (k : String) (v : Value) (s : Store) :
    SameSize s (setNodeProperty i k v s).2 := by
  rw [setNodeProperty]
  split_ifs
  · exact sameSize_removeNodeProperty i k s
  · split
    · exact .refl s
    · split
      · exact .refl s
      · exact ⟨List.length_map _, rfl⟩

lemma sameSize_removeRelProperty (i : RelId) (k : String) (s : Store) :
    SameSize s (removeRelProperty i k s).2 := by
  rw [removeRelProperty]
  split
  · exact .refl s
  · split
    · exact .refl s
    · exact ⟨rfl, List.length_map _⟩

lemma sameSize_setRelProperty (i : RelId) (k : String) (v : Value) (s : Store) :
    SameSize s (setRelProperty i k v s).2 := by
  rw [setRelProperty]
  split_ifs
  · exact sameSize_removeRelProperty i k s
  · split
    · exact .refl s
    · exact ⟨rfl, List.length_map _⟩

lemma sameSize_addLabel (i : NodeId) (l : String) (s : Store) : SameSize s (addLabel i l s).2 := by
  rw [addLabel]
  split
  · exact .refl s
  · split_ifs
    · exact .refl s
    · split
      · exact .refl s
      · exact ⟨List.length_map _, rfl⟩

lemma sameSize_removeLabel (i : NodeId) (l : String) (s : Store) :
    SameSize s (removeLabel i l s).2 := by
  rw [removeLabel]
  split
  · exact .refl s
  · split
    · exact .refl s
    · exact ⟨List.length_map _, rfl⟩

lemma length_createNode (hs : Sound s) {labels : List String} {ps : Properties} {i : NodeId}
    (h : createNode labels ps s = (.ok i, t)) :
    t.nodes.length = s.nodes.length + 1 ∧ t.rels.length = s.rels.length := by
  rw [createNode] at h
  split at h
  · cases (Prod.mk.inj h).1
  · obtain ⟨-, rfl⟩ := Prod.mk.inj h
    have hnew : s.node? s.nextNode = none :=
      Option.eq_none_iff_forall_ne_some.2 fun n hn => (hs.node_lt hn).ne rfl
    rw [linkNode_eq]
    exact ⟨Dict.length_insert hnew _, rfl⟩

lemma length_createRel (hs : Sound s) {type : String} {a b : NodeId} {ps : Properties} {i : RelId}
    (h : createRel type a b ps s = (.ok i, t)) :
    t.nodes.length = s.nodes.length ∧ t.rels.length = s.rels.length + 1 := by
  rw [createRel] at h
  split_ifs at h
  · cases (Prod.mk.inj h).1
  · cases (Prod.mk.inj h).1
  · obtain ⟨-, rfl⟩ := Prod.mk.inj h
    have hnew : s.rel? s.nextRel = none :=
      Option.eq_none_iff_forall_ne_some.2 fun r hr => (hs.rel_lt hr).ne rfl
    exact ⟨rfl, Dict.length_insert hnew _⟩

/-- A graph is as much smaller as it has lost. -/
lemma Loses.length {N : Finset NodeId} {R : Finset RelId} (hs : Sound s) (h : s.Loses N R t) :
    t.nodes.length + N.card = s.nodes.length ∧ t.rels.length + R.card = s.rels.length :=
  ⟨hs.nodes.length_add_card h.sound.nodes h.had_node h.node?,
    hs.rels.length_add_card h.sound.rels h.had_rel h.rel?⟩

end Store

/-! ### Steps -/

namespace Draft

/-- What the counters have been told between two drafts is what has become of the graph. -/
structure Balanced (d d' : Draft) : Prop where
  nodes : d'.store.nodes.length + d'.tally.nodesDeleted + d.tally.nodesCreated =
    d.store.nodes.length + d.tally.nodesDeleted + d'.tally.nodesCreated
  rels : d'.store.rels.length + d'.tally.relsDeleted + d.tally.relsCreated =
    d.store.rels.length + d.tally.relsDeleted + d'.tally.relsCreated

variable {P : List String → Prop} {d d' d'' : Draft}

lemma Balanced.refl (d : Draft) : Balanced d d := ⟨rfl, rfl⟩

lemma Balanced.trans (h : Balanced d d') (h' : Balanced d' d'') : Balanced d d'' := by
  obtain ⟨hn, hr⟩ := h
  obtain ⟨hn', hr'⟩ := h'
  constructor <;> omega

/-- A step is balanced if what is counted for it is. -/
lemma balanced_step {s : Store} {t : Tally}
    (hn : s.nodes.length + t.nodesDeleted = d.store.nodes.length + t.nodesCreated)
    (hr : s.rels.length + t.relsDeleted = d.store.rels.length + t.relsCreated) :
    Balanced d ⟨s, d.tally + t⟩ := by
  constructor
  · change s.nodes.length + (d.tally.nodesDeleted + t.nodesDeleted) + d.tally.nodesCreated =
      d.store.nodes.length + d.tally.nodesDeleted + (d.tally.nodesCreated + t.nodesCreated)
    omega
  · change s.rels.length + (d.tally.relsDeleted + t.relsDeleted) + d.tally.relsCreated =
      d.store.rels.length + d.tally.relsDeleted + (d.tally.relsCreated + t.relsCreated)
    omega

/-- A change of properties or labels is balanced: it is counted as nothing else. -/
lemma balanced_change {α : Type} {op : Store.Operation α} {x : Except StoreError α} {s : Store}
    (hd : Store.Sound d.store) (h : op d.store = (x, s))
    (hsteps : Store.Steps d.store (op d.store).2) (hsize : d.store.SameSize (op d.store).2)
    (n a r : Nat) : Store.Sound s ∧
      Balanced d ⟨s, d.tally + { propertiesSet := n, labelsAdded := a, labelsRemoved := r }⟩ := by
  rw [h] at hsteps hsize
  exact ⟨hsteps.sound hd, balanced_step hsize.nodes hsize.rels⟩

/-- **A counted step is balanced.** -/
theorem Step.balanced (hd : Store.Sound d.store) (h : Step P d d') :
    Store.Sound d'.store ∧ Balanced d d' := by
  cases h with
  | createNode _ h =>
    obtain ⟨hn, hr⟩ := Store.length_createNode hd h
    exact ⟨(Store.createNode_eq_ok hd h).sound, balanced_step hn hr⟩
  | createRel h =>
    obtain ⟨hn, hr⟩ := Store.length_createRel hd h
    exact ⟨(Store.createRel_eq_ok hd h).sound, balanced_step hn hr⟩
  | setNodeProperty h =>
    exact balanced_change hd h (Store.steps_setNodeProperty ..) (Store.sameSize_setNodeProperty ..)
      1 0 0
  | setRelProperty h =>
    exact balanced_change hd h (Store.steps_setRelProperty ..) (Store.sameSize_setRelProperty ..)
      1 0 0
  | @removeNodeProperty i k b s h =>
    have hchange := balanced_change hd h (Store.steps_removeNodeProperty ..)
      (Store.sameSize_removeNodeProperty ..)
    cases b with
    | true => exact hchange 1 0 0
    | false => exact hchange 0 0 0
  | @removeRelProperty i k b s h =>
    have hchange := balanced_change hd h (Store.steps_removeRelProperty ..)
      (Store.sameSize_removeRelProperty ..)
    cases b with
    | true => exact hchange 1 0 0
    | false => exact hchange 0 0 0
  | @addLabel i l b s h =>
    have hchange := balanced_change hd h (Store.steps_addLabel ..) (Store.sameSize_addLabel ..)
    cases b with
    | true => exact hchange 0 1 0
    | false => exact hchange 0 0 0
  | @removeLabel i l b s h =>
    have hchange := balanced_change hd h (Store.steps_removeLabel ..)
      (Store.sameSize_removeLabel ..)
    cases b with
    | true => exact hchange 0 0 1
    | false => exact hchange 0 0 0
  | @deleteRel i b s h =>
    have hl := Store.loses_deleteRel hd i
    have hcard := Store.card_relsAmong_singleton d.store i
    rw [h] at hl hcard
    obtain ⟨hn, hr⟩ := hl.length hd
    rw [hcard] at hr
    refine ⟨hl.sound, ?_⟩
    cases b with
    | true => exact balanced_step hn hr
    | false => exact balanced_step hn hr
  | @deleteNode i n s h =>
    have hdel := Store.deletion_deleteNode hd i false
    rw [h] at hdel
    cases hdel with
    | absent => exact ⟨hd, balanced_step rfl rfl⟩
    | gone _ hfree ht =>
      rw [hfree.resolve_left Bool.false_ne_true] at ht
      obtain ⟨hn, hr⟩ := ht.length hd
      exact ⟨ht.sound, balanced_step hn hr⟩
  | @detachNode i n s h =>
    have hdel := Store.deletion_deleteNode hd i true
    rw [h] at hdel
    cases hdel with
    | absent => exact ⟨hd, balanced_step rfl rfl⟩
    | gone _ _ ht =>
      obtain ⟨hn, hr⟩ := ht.length hd
      exact ⟨ht.sound, balanced_step hn hr⟩
  | matched n => exact ⟨hd, balanced_step rfl rfl⟩

/-- **Counted steps are balanced.** -/
theorem Steps.balanced (hd : Store.Sound d.store) (h : Steps P d d') :
    Store.Sound d'.store ∧ Balanced d d' := by
  induction h with
  | refl => exact ⟨hd, .refl d⟩
  | tail _ hstep ih =>
    obtain ⟨hsound, hbalanced⟩ := hstep.balanced ih.1
    exact ⟨hsound, ih.2.trans hbalanced⟩

end Draft

/-! ### Queries -/

/-- The counters that a reply reports. -/
def Reply.tally : Reply → Tally
  | .rows _ _ _ t | .message _ t => t
  | .help _ => {}

namespace Query

open Cypher

variable {P : List String → Prop} {c : Context} {q : Query Meaning} {r : Reply} {d d' : Draft}

/-- A query that succeeds has gone through counted steps, and reports where the counters are. -/
lemma steps_reply (hq : ∀ ls ∈ q.newLabels, P ls)
    (h : ExceptT.run (reply c q) d = (.ok r, d')) :
    Draft.Steps P d d' ∧ r.tally = d'.tally := by
  obtain ⟨o, d₁, hrun, hreply⟩ := run_bind_eq_ok.1 h
  have hsteps := counted_run c .unit hq d o d₁ hrun
  obtain ⟨d₂, d₃, hget, hreply⟩ := run_bind_eq_ok.1 hreply
  obtain ⟨rfl, rfl⟩ : d₁ = d₂ ∧ d₁ = d₃ := by
    obtain ⟨h₁, h₂⟩ := Prod.mk.inj hget
    exact ⟨Except.ok.inj h₁, h₂⟩
  split_ifs at hreply
  · obtain ⟨hr, rfl⟩ := Prod.mk.inj hreply
    obtain rfl := Except.ok.inj hr
    exact ⟨hsteps, rfl⟩
  · obtain ⟨hr, rfl⟩ := Prod.mk.inj hreply
    obtain rfl := Except.ok.inj hr
    exact ⟨hsteps, rfl⟩

end Query

/-- Two graphs differ in size by what counters report. -/
structure Tally.Accounts (t : Tally) (g h : Store) : Prop where
  nodes : h.nodes.length + t.nodesDeleted = g.nodes.length + t.nodesCreated
  rels : h.rels.length + t.relsDeleted = g.rels.length + t.relsCreated

/-- **A query reports by how much its graph has grown and shrunk.** -/
theorem Query.accounts_reply {g : Store} (hg : Store.Sound g) {c : Context}
    {q : Cypher.Query Meaning} {r : Reply} {d : Draft}
    (h : ExceptT.run (reply c q) ⟨g, {}⟩ = (.ok r, d)) : r.tally.Accounts g d.store := by
  obtain ⟨hsteps, htally⟩ := steps_reply (P := fun _ => True) (fun _ _ => trivial) h
  obtain ⟨-, hn, hr⟩ := hsteps.balanced hg
  rw [htally]
  exact ⟨hn, hr⟩

namespace Engine

open Cypher

/-- What a query that succeeds has done to the graph of its session. -/
lemma run_query_eq_ok {c : Context} {q : Query Expr} {r : Reply} {s t : Server}
    (h : ExceptT.run ((Statement.query q).run c) s = (.ok r, t)) :
    ∃ g d, s.store? = some g ∧
      ExceptT.run (Query.reply c (queryMeaning q)) ⟨g, {}⟩ = (.ok r, d) ∧
      t.store? = some (if s.session.inTransaction then d.store else d.store.commit) := by
  rw [Statement.run, Command.run_edit] at h
  cases hg : s.store? with
  | none => rw [hg] at h; cases (Prod.mk.inj h).1
  | some g =>
    rw [hg] at h
    dsimp only [Edit.atomically] at h
    rcases hrun : ExceptT.run (Query.reply c (queryMeaning q)) ⟨g, {}⟩ with ⟨x | r', d⟩
    · rw [hrun] at h
      cases (Prod.mk.inj h).1
    · rw [hrun] at h
      obtain ⟨hr, rfl⟩ := Prod.mk.inj h
      obtain rfl := Except.ok.inj hr
      refine ⟨g, d, rfl, hrun, ?_⟩
      change (s.catalog.put _ _).get? s.session.database = _
      rw [Catalog.get?_put, if_pos rfl]
      change Option.map _ s.store? = _
      rw [hg, Option.map_some]

/-- **The counters of nodes and relationships are exact.** Whatever was asked of an engine before:
if a query succeeds, the sizes of its graph before and after differ by what its reply reports as
created and deleted. -/
theorem counters_exact {e : Engine} (he : e.Reachable) (c : Context) (q : Query Expr) {r : Reply}
    {s : Server} (h : ExceptT.run ((Statement.query q).run c) e.server = (.ok r, s)) :
    ∃ g g', e.server.store? = some g ∧ s.store? = some g' ∧
      g'.nodes.length + r.tally.nodesDeleted = g.nodes.length + r.tally.nodesCreated ∧
      g'.rels.length + r.tally.relsDeleted = g.rels.length + r.tally.relsCreated := by
  obtain ⟨g, d, hg, hrun, hs⟩ := run_query_eq_ok h
  obtain ⟨hn, hrels⟩ := Query.accounts_reply (he.lawful.graphs _ g hg).sound hrun
  refine ⟨g, _, hg, hs, ?_⟩
  split_ifs
  · exact ⟨hn, hrels⟩
  · exact ⟨hn, hrels⟩

/-- A query of several branches that detaches, merges, and deletes again what it has created, on a
graph of one node with a loop. -/
theorem counters_exact_mixed :
    let e := ((ofConfig {}).run { text := "CREATE (x)-[:L]->(x)", clock := .zero }).2
    let text := "MATCH (x) DETACH DELETE x FOREACH (i IN [true, null] | MERGE (:C)) WITH x " ++
      "CALL \x7b CREATE (z)-[:R]->() \x7d RETURN true AS b " ++
      "UNION CREATE (y) DELETE y RETURN true AS b"
    ∃ q r s g, soleQuery? text = some q ∧
      ExceptT.run ((Statement.query q).run ⟨[], 8, .zero⟩) e.server = (.ok r, s) ∧
      s.store? = some g ∧ g.nodes.length + 2 = 1 + 4 ∧ g.rels.length + 1 = 1 + 1 := by
  intro e text
  have hsize : (e.server.store?.map fun g => (g.nodes.length, g.rels.length)) = some (1, 1) := by
    decide +kernel
  have htally : ((soleQuery? text).bind fun q =>
      (ExceptT.run ((Statement.query q).run ⟨[], 8, .zero⟩) e.server).1.toOption.map
        fun r => (r.tally.nodesCreated, r.tally.nodesDeleted, r.tally.relsCreated,
          r.tally.relsDeleted)) = some (4, 2, 1, 1) := by
    decide +kernel
  have he : e.Reachable := .run (.ofConfig {}) _
  clear_value e text
  obtain ⟨q, hq, hrun⟩ := Option.bind_eq_some_iff.1 htally
  obtain ⟨r, hr, ht⟩ := Option.map_eq_some_iff.1 hrun
  rcases hx : ExceptT.run ((Statement.query q).run ⟨[], 8, .zero⟩) e.server with ⟨x, s⟩
  rw [hx] at hr
  obtain rfl := toOption_eq_some.1 hr
  obtain ⟨g, g', hg, hg', hnodes, hrels⟩ := counters_exact he _ q hx
  rw [hg] at hsize
  simp only [Option.map_some, Option.some.injEq, Prod.mk.injEq] at hsize ht
  rw [ht.1, ht.2.1, hsize.1] at hnodes
  rw [ht.2.2.1, ht.2.2.2, hsize.2] at hrels
  exact ⟨q, r, s, g', hq, hx, hg', hnodes, hrels⟩

end Engine

end PropertyGraph
