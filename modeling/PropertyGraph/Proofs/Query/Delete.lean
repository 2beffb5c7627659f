import PropertyGraph.Meaning.Layer
import PropertyGraph.Proofs.Query.Made
import PropertyGraph.Proofs.Store.Pruned
import PropertyGraph.Query.Write

/-!
Deleting is a set operation: what a clause does to a graph depends on which entities its rows
mention, and not on how often, in what order, or in how many lists and paths.

The carrying notion is that of progress: some ids have been mentioned so far, and of the entities
with these ids those are gone that go at once. Each kind of value adds its own ids to them.
-/

namespace PropertyGraph

attribute [ext] Tally

namespace Value

mutual

/-- Whether a value can be deleted: null, an entity, a path, or a list of what can be. -/
def isDeletable : Value → Bool
  | null | node _ | rel _ | path _ => true
  | list vs => itemsDeletable vs
  | _ => false

def itemsDeletable : List Value → Bool
  | [] => true
  | v :: vs => v.isDeletable && itemsDeletable vs

end

mutual

/-- The nodes that deleting a value is about. -/
def nodeIds : Value → List NodeId
  | node i => [i]
  | path p => p.nodes
  | list vs => itemNodeIds vs
  | _ => []

def itemNodeIds : List Value → List NodeId
  | [] => []
  | v :: vs => v.nodeIds ++ itemNodeIds vs

end

mutual

/-- The relationships that deleting a value is about. -/
def relIds : Value → List RelId
  | rel i => [i]
  | path p => p.rels
  | list vs => itemRelIds vs
  | _ => []

def itemRelIds : List Value → List RelId
  | [] => []
  | v :: vs => v.relIds ++ itemRelIds vs

end

end Value

lemma Tally.add_assoc (a b c : Tally) : a + b + c = a + (b + c) :=
  Tally.ext (Nat.add_assoc ..) (Nat.add_assoc ..) (Nat.add_assoc ..) (Nat.add_assoc ..)
    (Nat.add_assoc ..) (Nat.add_assoc ..) (Nat.add_assoc ..) (Nat.add_assoc ..)

namespace Query

open Cypher Store

/-- What some names stand for in some rows, one after the other. -/
def mentioned {α : Type} (ids : Value → List α) (names : List String) (rows : List Row) : List α :=
  rows.flatMap fun row => names.flatMap fun n => ids (Dict.getD row n .null)

/-- The clause that deletes what some names stand for. -/
def deletion (detach : Bool) (names : List String) : Clause Meaning :=
  .delete detach (names.map fun n => (Expr.of (.name n)).meaning)

/-- A graph loses nodes and relationships, and the counters tell how many. -/
structure Loses (d : Draft) (N : Finset NodeId) (R : Finset RelId) (d' : Draft) : Prop where
  store : d.store.Loses N R d'.store
  tally : d'.tally = d.tally + { nodesDeleted := N.card, relsDeleted := R.card }

lemma Loses.trans {d d' d'' : Draft} {N M : Finset NodeId} {R Q : Finset RelId}
    (h : Loses d N R d') (h' : Loses d' M Q d'') : Loses d (N ∪ M) (R ∪ Q) d'' where
  store := h.store.trans h'.store
  tally := by
    obtain ⟨hN, hR⟩ := h.store.disjoint h'.store
    rw [h'.tally, h.tally, Finset.card_union_of_disjoint hN, Finset.card_union_of_disjoint hR]
    exact Tally.add_assoc ..

/-- Graphs that differ in their journals at most, and counters that agree. -/
structure Alike (d d' : Draft) : Prop where
  store : d.store.commit = d'.store.commit
  tally : d.tally = d'.tally

lemma Loses.alike {d d' d'' : Draft} {N : Finset NodeId} {R : Finset RelId} (h : Loses d N R d')
    (h' : Loses d N R d'') : Alike d' d'' where
  store := h.store.commit_eq h'.store
  tally := h.tally.trans h'.tally.symm

/-! ### Single entities -/

lemma run_deleteRel {d : Draft} (hd : Sound d.store) (i : RelId) :
    ∃ d', ExceptT.run (deleteRel i) d = (.ok (), d') ∧ Loses d ∅ (d.store.relsAmong [i]) d' := by
  have hl := loses_deleteRel hd i
  have hc := card_relsAmong_singleton d.store i
  rcases h : Store.deleteRel i d.store with ⟨b, s⟩
  rw [h] at hl hc
  have hstore : ExceptT.run
      (Edit.store fun s => (.ok (s.deleteRel i).1, (s.deleteRel i).2)) d =
        (.ok b, { d with store := s }) := by
    rw [Edit.run_store, h]
    rfl
  have hrun : ExceptT.run (deleteRel i) d =
      ExceptT.run (if b then Edit.count { relsDeleted := 1 } else pure ()) { d with store := s } :=
    run_bind_ok hstore _
  rw [hrun]
  cases b with
  | true => exact ⟨_, rfl, hl, by rw [hc]; rfl⟩
  | false => exact ⟨_, rfl, hl, by rw [hc]; rfl⟩

lemma run_detachNode {d : Draft} (hd : Sound d.store) (i : NodeId) :
    ∃ d', ExceptT.run (detachNode i) d = (.ok (), d') ∧
      Loses d (d.store.nodesAmong [i]) (d.store.touching (d.store.nodesAmong [i])) d' := by
  rw [detachNode, run_bind, Edit.run_store]
  have hdel := deletion_deleteNode hd i true
  generalize Store.deleteNode i true d.store = out at hdel
  cases hdel with
  | absent h =>
    have : d.store.nodesAmong [i] = ∅ := by simp [nodesAmong, h]
    rw [this, touching_empty]
    exact ⟨_, rfl, .refl hd, rfl⟩
  | gone h _ ht =>
    have : d.store.nodesAmong [i] = {i} := by simp [nodesAmong, h]
    rw [this]
    exact ⟨_, rfl, ht, rfl⟩
  | refused _ hd _ => cases hd

/-- A node that is not detached goes unless something touches it. -/
lemma run_deleteNode {d : Draft} (hd : Sound d.store) (i : NodeId) :
    let N := d.store.nodesAmong [i]
    (d.store.touching N = ∅ ∧
        ∃ d', ExceptT.run (deleteNode i) d = (.ok (), d') ∧ Loses d N ∅ d') ∨
      (d.store.touching N).Nonempty ∧ i ∈ N ∧
        ∃ k, ExceptT.run (deleteNode i) d = (.error (.store (.hasRelationships i k)), d) := by
  intro N
  rw [deleteNode, run_bind, Edit.run_store]
  have hdel := deletion_deleteNode hd i false
  generalize Store.deleteNode i false d.store = out at hdel
  cases hdel with
  | absent h =>
    have hN : N = ∅ := by simp [N, nodesAmong, h]
    rw [hN, touching_empty]
    exact .inl ⟨rfl, _, rfl, .refl hd, rfl⟩
  | gone h hfree ht =>
    have hN : N = {i} := by simp [N, nodesAmong, h]
    have hfree : d.store.touching {i} = ∅ := by simpa using hfree
    rw [hfree] at ht
    rw [hN]
    exact .inl ⟨hfree, _, rfl, ht, rfl⟩
  | refused h _ hrels =>
    have hN : N = {i} := by simp [N, nodesAmong, h]
    rw [hN]
    exact .inr ⟨hrels, by simp, _, rfl⟩

/-! ### Progress -/

variable {d₀ d : Draft} {detach : Bool}

/-- The nodes that have gone at once of those that were mentioned. -/
def detached (s : Store) (detach : Bool) (ns : List NodeId) : Finset NodeId :=
  if detach then s.nodesAmong ns else ∅

/-- How far a clause has come that has been about some nodes and relationships: which nodes wait,
and what has gone. -/
structure Progress (d₀ : Draft) (detach : Bool) (ns : List NodeId) (rs : List RelId)
    (waiting : List NodeId) (d : Draft) : Prop where
  loses : Loses d₀ (detached d₀.store detach ns)
    (d₀.store.relsAmong rs ∪ d₀.store.touching (detached d₀.store detach ns)) d
  waiting : ∀ i, i ∈ waiting ↔ detach = false ∧ i ∈ ns

/-- What an edit of the nodes that wait is about, wherever it starts. -/
def About (d₀ : Draft) (detach : Bool) (ns : List NodeId) (rs : List RelId)
    (f : List NodeId → Edit (List NodeId)) : Prop :=
  ∀ ms qs waiting d, Progress d₀ detach ms qs waiting d →
    ∃ waiting' d', ExceptT.run (f waiting) d = (.ok waiting', d') ∧
      Progress d₀ detach (ms ++ ns) (qs ++ rs) waiting' d'

lemma about_pure : About d₀ detach [] [] fun w => return w := by
  intro ms qs waiting d h
  rw [List.append_nil, List.append_nil]
  exact ⟨waiting, d, rfl, h⟩

lemma About.bind {ns ms : List NodeId} {rs qs : List RelId}
    {f g : List NodeId → Edit (List NodeId)} (hf : About d₀ detach ns rs f)
    (hg : About d₀ detach ms qs g) :
    About d₀ detach (ns ++ ms) (rs ++ qs) fun w => f w >>= g := by
  intro ms' qs' w d h
  obtain ⟨w', d', hrun, h'⟩ := hf ms' qs' w d h
  obtain ⟨w'', d'', hrun', h''⟩ := hg _ _ w' d' h'
  rw [List.append_assoc, List.append_assoc] at h''
  exact ⟨w'', d'', (run_bind_ok hrun g).trans hrun', h''⟩

lemma About.foldlM {α : Type} {xs : List α} {f : List NodeId → α → Edit (List NodeId)}
    {ns : α → List NodeId} {rs : α → List RelId}
    (h : ∀ x ∈ xs, About d₀ detach (ns x) (rs x) fun w => f w x) :
    About d₀ detach (xs.flatMap ns) (xs.flatMap rs) fun w => xs.foldlM f w := by
  induction xs with
  | nil => exact about_pure
  | cons x xs ih =>
    rw [List.flatMap_cons, List.flatMap_cons]
    exact (h x (by simp)).bind (ih fun y hy => h y (by simp [hy]))

lemma about_deleteRel (i : RelId) :
    About d₀ detach [] [i] fun w => do
      deleteRel i
      return w := by
  intro ns rs w d h
  obtain ⟨d', hrun, hl⟩ := run_deleteRel h.loses.store.sound i
  refine ⟨w, d', run_bind_ok hrun _, ?_, by simpa using h.waiting⟩
  have := h.loses.trans hl
  rw [h.loses.store.relsAmong, Finset.union_sdiff_self_eq_union, Finset.union_empty,
    Finset.union_right_comm, ← relsAmong_append] at this
  rwa [List.append_nil]

lemma about_deleteRels (is : List RelId) :
    About d₀ detach [] is fun w => do
      is.forM deleteRel
      return w := by
  induction is with
  | nil => exact about_pure
  | cons i is ih =>
    have h := (about_deleteRel i).bind ih
    simpa only [List.forM_eq_forM, List.forM_cons, bind_assoc, pure_bind, List.nil_append,
      List.cons_append] using h

lemma about_dropNode (i : NodeId) : About d₀ detach [i] [] fun w => dropNode detach w i := by
  intro ns rs w d h
  rw [List.append_nil]
  cases detach with
  | false =>
    refine ⟨_, d, rfl, by simpa [detached] using h.loses, fun j => ?_⟩
    have := h.waiting
    by_cases hi : i ∈ w <;> simp_all
  | true =>
    obtain ⟨d', hrun, hl⟩ := run_detachNode h.loses.store.sound i
    refine ⟨w, d', run_bind_ok hrun _, ?_, by simpa using h.waiting⟩
    have hboth := h.loses.trans hl
    rwa [h.loses.store.touching, Finset.union_sdiff_self_eq_union, Finset.union_assoc,
      ← touching_union, h.loses.store.nodesAmong, Finset.union_sdiff_self_eq_union, detached,
      if_pos rfl, ← nodesAmong_append] at hboth

mutual

/-- **What deleting a value is about** are the entities that it mentions. -/
theorem about_deleteValue (v : Value) (hv : v.isDeletable) :
    About d₀ detach v.nodeIds v.relIds fun w => deleteValue detach w v := by
  match v with
  | .null => simpa only [deleteValue, Value.nodeIds, Value.relIds] using about_pure
  | .node i => simpa only [deleteValue, Value.nodeIds, Value.relIds] using about_dropNode i
  | .rel i => simpa only [deleteValue, Value.nodeIds, Value.relIds] using about_deleteRel i
  | .path p =>
    have hnodes : About d₀ detach (p.nodes.flatMap fun i => [i]) (p.nodes.flatMap fun _ => [])
        fun w => p.nodes.foldlM (dropNode detach) w := .foldlM fun i _ => about_dropNode i
    have h := (about_deleteRels p.rels).bind hnodes
    have hnone : (p.nodes.flatMap fun _ => ([] : List RelId)) = [] :=
      List.flatMap_eq_nil_iff.2 fun _ _ => rfl
    simp only [bind_assoc, pure_bind, hnone] at h
    simpa [deleteValue, Value.nodeIds, Value.relIds] using h
  | .list vs =>
    simp only [deleteValue, Value.nodeIds, Value.relIds]
    exact about_deleteItems vs hv

lemma about_deleteItems (vs : List Value) (hvs : Value.itemsDeletable vs) :
    About d₀ detach (Value.itemNodeIds vs) (Value.itemRelIds vs) fun w =>
      deleteItems detach w vs := by
  match vs with
  | [] => simpa only [deleteItems, Value.itemNodeIds, Value.itemRelIds] using about_pure
  | v :: vs =>
    rw [Value.itemsDeletable, Bool.and_eq_true] at hvs
    simp only [deleteItems, Value.itemNodeIds, Value.itemRelIds]
    exact (about_deleteValue v hvs.1).bind (about_deleteItems vs hvs.2)

end

variable {names : List String} {rows : List Row}

/-- Every value that some names have in some rows can be deleted. -/
def Deletable (names : List String) (rows : List Row) : Prop :=
  ∀ row ∈ rows, ∀ n ∈ names, (Dict.getD row n .null).isDeletable

lemma about_deleteRows (c : Context) (h : Deletable names rows) :
    About d₀ detach (mentioned Value.nodeIds names rows) (mentioned Value.relIds names rows)
      fun w => rows.foldlM
        (deleteRow c detach (names.map fun n => (Expr.of (.name n)).meaning)) w := by
  refine .foldlM fun row hrow => ?_
  simp only [deleteRow, List.foldlM_map]
  refine .foldlM fun n hn => ?_
  intro ns rs w d hd
  have hvalue : ExceptT.run (Edit.reading c fun env =>
      (Expr.of (.name n)).meaning.value env row) d = (.ok (Dict.getD row n .null), d) :=
    Edit.run_reading ..
  rw [run_bind_ok hvalue]
  exact about_deleteValue _ (h row hrow n hn) ns rs w d hd

/-! ### Nodes that wait -/

/-- The nodes that wait go unless something is left that touches one of them. -/
lemma run_deleteNodes (ws : List NodeId) (hd : Sound d.store) :
    let N := d.store.nodesAmong ws
    (d.store.touching N = ∅ ∧
        ∃ d', ExceptT.run (ws.forM deleteNode) d = (.ok (), d') ∧ Loses d N ∅ d') ∨
      (d.store.touching N).Nonempty ∧
        ∃ i ∈ N, ∃ k d', ExceptT.run (ws.forM deleteNode) d =
          (.error (.store (.hasRelationships i k)), d') := by
  intro N
  induction ws generalizing d with
  | nil => exact .inl ⟨touching_empty _, d, rfl, .refl hd, rfl⟩
  | cons w ws ih =>
    have hN : N = d.store.nodesAmong [w] ∪ d.store.nodesAmong ws := nodesAmong_append _ [w] ws
    rw [List.forM_eq_forM, List.forM_cons]
    rcases run_deleteNode hd w with ⟨hfree, d', hrun, hl⟩ | ⟨hrels, hw, k, hrun⟩
    · rw [run_bind_ok hrun]
      rw [← Finset.union_sdiff_self_eq_union, ← hl.store.nodesAmong] at hN
      have htouching : d.store.touching N = d'.store.touching (d'.store.nodesAmong ws) := by
        rw [hN, touching_union, hfree, Finset.empty_union, hl.store.touching, Finset.sdiff_empty]
      rcases ih hl.store.sound with ⟨hfree', d'', hrun', hl'⟩ | ⟨hrels, i, hi, k, d'', hrun'⟩
      · exact .inl ⟨htouching.trans hfree', d'', hrun', hN ▸ hl.trans hl'⟩
      · exact .inr ⟨htouching ▸ hrels, i, hN ▸ Finset.mem_union_right _ hi, k, d'', hrun'⟩
    · refine .inr ⟨?_, w, hN ▸ Finset.mem_union_left _ hw, k, d, by rw [run_bind, hrun]⟩
      rw [hN, touching_union]
      exact hrels.mono Finset.subset_union_left

/-! ### Clauses -/

/-- How deleting nodes and relationships ends: they are gone, or the guard finds some other
relationship at one of the nodes. -/
inductive Outcome (d : Draft) (detach : Bool) (N : Finset NodeId) (R : Finset RelId)
    (rows : List Row) : Except Error (List Row) × Draft → Prop
  | done {d' : Draft} (hfree : detach ∨ d.store.touching N ⊆ R)
      (hl : Loses d N (R ∪ d.store.touching N) d') : Outcome d detach N R rows (.ok rows, d')
  | refused {d' : Draft} {i k : Nat} (hrels : ¬ (detach ∨ d.store.touching N ⊆ R)) (hi : i ∈ N) :
      Outcome d detach N R rows (.error (.store (.hasRelationships i k)), d')

lemma run_deletion (hd : Sound d.store) (c : Context) (h : Deletable names rows) :
    Outcome d detach (d.store.nodesAmong (mentioned Value.nodeIds names rows))
      (d.store.relsAmong (mentioned Value.relIds names rows)) rows
      (ExceptT.run (writeClause c rows (deletion detach names)) d) := by
  let N := d.store.nodesAmong (mentioned Value.nodeIds names rows)
  let R := d.store.relsAmong (mentioned Value.relIds names rows)
  have hstart : Progress d detach [] [] [] d := by
    refine ⟨?_, by simp⟩
    have : detached d.store detach [] = ∅ := by cases detach <;> rfl
    rw [this, touching_empty]
    exact ⟨.refl hd, rfl⟩
  obtain ⟨ws, d₁, hrows, hp⟩ := about_deleteRows c h [] [] [] d hstart
  rw [List.nil_append, List.nil_append] at hp
  have hout : ExceptT.run (writeClause c rows (deletion detach names)) d =
      ExceptT.run (ws.forM deleteNode >>= fun _ => pure rows) d₁ := by
    simp only [deletion, writeClause, deleteRows, bind_assoc]
    exact run_bind_ok hrows _
  rw [hout]
  cases detach with
  | true =>
    have hws : ws = [] := List.eq_nil_iff_forall_not_mem.2 fun i hi => by
      simpa using (hp.waiting i).1 hi
    subst hws
    exact .done (.inl rfl) hp.loses
  | false =>
    have hl : Loses d ∅ R d₁ := by simpa [detached] using hp.loses
    have hN : d₁.store.nodesAmong ws = N := by
      rw [hl.store.nodesAmong, Finset.sdiff_empty]
      ext i
      simp [N, hp.waiting]
    have hwait := run_deleteNodes ws hl.store.sound
    simp only [hN, hl.store.touching] at hwait
    rcases hwait with ⟨hfree, d', hrun, hl'⟩ | ⟨hrels, i, hi, k, d', hrun⟩
    · have hR : d.store.touching N ⊆ R := Finset.sdiff_eq_empty_iff_subset.1 hfree
      rw [run_bind_ok hrun]
      refine .done (.inr hR) ?_
      have hboth := hl.trans hl'
      rwa [Finset.empty_union, Finset.union_empty, ← Finset.union_eq_left.2 hR] at hboth
    · rw [run_bind, hrun]
      exact .refused (by simpa [Finset.sdiff_nonempty] using hrels) hi

/-- **Deleting is a set operation.** Let `N` and `R` be the nodes and relationships that there are
among those mentioned. A plain clause succeeds if and only if `R` has all relationships that touch
`N`, and otherwise runs into the guard; one that detaches always succeeds. What it succeeds in is
that the graph loses `N` and `R`, with what touches `N` if it detaches, and that each entity counts
once. So rows and names that mention the same are as good, in any order and number. -/
theorem deletion_run (calls : List Store.Call) (t : Tally) (c : Context) (detach : Bool)
    (names : List String) (rows : List Row) (h : Deletable names rows) :
    let d : Draft := ⟨Store.run calls {}, t⟩
    let N := d.store.nodesAmong (mentioned Value.nodeIds names rows)
    let R := d.store.relsAmong (mentioned Value.relIds names rows)
    let out := ExceptT.run (writeClause c rows (deletion detach names)) d
    (out.1.isOk ↔ detach ∨ d.store.touching N ⊆ R) ∧
      (∀ e, out.1 = .error e → e.kind = .writeGuard) ∧
      (out.1.isOk → out.1 = .ok rows ∧
        Loses d N (if detach then R ∪ d.store.touching N else R) out.2) ∧
      ∀ names' rows', Deletable names' rows' →
        (∀ i, i ∈ mentioned Value.nodeIds names' rows' ↔ i ∈ mentioned Value.nodeIds names rows) →
        (∀ i, i ∈ mentioned Value.relIds names' rows' ↔ i ∈ mentioned Value.relIds names rows) →
        let out' := ExceptT.run (writeClause c rows' (deletion detach names')) d
        out'.1.isOk = out.1.isOk ∧ (out.1.isOk → Alike out'.2 out.2) := by
  intro d N R out
  have hd : Sound d.store := (lawful_empty.run calls).sound
  have hout : Outcome d detach N R rows out := run_deletion hd c h
  have hout' {names' : List String} {rows' : List Row} (h' : Deletable names' rows')
      (hnodes : ∀ i, i ∈ mentioned Value.nodeIds names' rows' ↔
        i ∈ mentioned Value.nodeIds names rows)
      (hrels : ∀ i, i ∈ mentioned Value.relIds names' rows' ↔
        i ∈ mentioned Value.relIds names rows) :
      Outcome d detach N R rows'
        (ExceptT.run (writeClause c rows' (deletion detach names')) d) := by
    have hN : d.store.nodesAmong (mentioned Value.nodeIds names' rows') = N := by
      ext i
      simp [N, hnodes]
    have hR : d.store.relsAmong (mentioned Value.relIds names' rows') = R := by
      ext i
      simp [R, hrels]
    have hout : Outcome d detach _ _ rows' _ := run_deletion hd c h'
    rwa [hN, hR] at hout
  clear_value out
  cases hout with
  | done hfree hl =>
    refine ⟨iff_of_true rfl hfree, ?_, fun _ => ⟨rfl, ?_⟩, fun _ _ h' hn hr => ?_⟩
    · rintro e ⟨⟩
    · split_ifs with hdetach
      · exact hl
      · rwa [Finset.union_eq_left.2 (hfree.resolve_left hdetach)] at hl
    · intro out'
      have hout' : Outcome d detach N R _ out' := hout' h' hn hr
      clear_value out'
      cases hout' with
      | done _ hl' => exact ⟨rfl, fun _ => hl'.alike hl⟩
      | refused hrels _ => exact absurd hfree hrels
  | refused hrels _ =>
    refine ⟨iff_of_false Bool.false_ne_true hrels, ?_, fun hok => absurd hok Bool.false_ne_true,
      fun _ _ h' hn hr => ?_⟩
    · rintro e ⟨⟩
      rfl
    · intro out'
      have hout' : Outcome d detach N R _ out' := hout' h' hn hr
      clear_value out'
      cases hout' with
      | done hfree _ => exact absurd hfree hrels
      | refused _ _ => exact ⟨rfl, fun hok => absurd hok Bool.false_ne_true⟩

/-- A path, lists, and repeated and unknown ids, in rows that are gone through backwards as well. -/
theorem deletion_run_mixed :
    let calls : List Store.Call := [.createNode [] [], .createNode [] [], .createNode [] [],
      .createRel "R" 0 1 [], .createRel "L" 1 1 [], .createRel "R" 1 2 []]
    let names := ["a", "b"]
    let rows : List Row := [[("a", .list [.node 1, .path ⟨[0, 1], [0]⟩, .node 7]), ("b", .rel 2)],
      [("a", .rel 0), ("b", .list [.null, .list [.rel 1, .rel 2]])]]
    let c : Context := ⟨[], 8, .ofNat 0⟩
    let d : Draft := ⟨Store.run calls {}, {}⟩
    let out := ExceptT.run (writeClause c rows (deletion false names)) d
    let out' := ExceptT.run (writeClause c rows.reverse (deletion false names)) d
    Deletable names rows ∧ out.1.isOk ∧ Loses d {0, 1} {0, 1, 2} out.2 ∧ Alike out'.2 out.2 := by
  intro calls names rows c d out out'
  have h : Deletable names rows := by
    change ∀ row ∈ rows, ∀ n ∈ names, (Dict.getD row n .null).isDeletable
    decide
  have hN : d.store.nodesAmong (mentioned Value.nodeIds names rows) = {0, 1} := by decide
  have hR : d.store.relsAmong (mentioned Value.relIds names rows) = {0, 1, 2} := by decide
  have hfree : d.store.touching {0, 1} ⊆ {0, 1, 2} := by decide
  obtain ⟨hiff, -, hdone, hsame⟩ := deletion_run calls {} c false names rows h
  have hok : out.1.isOk := hiff.2 (.inr (by rw [hN, hR]; exact hfree))
  have hl := (hdone hok).2
  rw [hN, hR] at hl
  have hback : Deletable names rows.reverse := fun row hrow => h row (List.mem_reverse.1 hrow)
  have hsame := hsame names rows.reverse hback (by simp [mentioned]) (by simp [mentioned])
  exact ⟨h, hok, hl, hsame.2 hok⟩

end Query

end PropertyGraph
