import Mathlib.Data.Finset.Prod
import PropertyGraph.Proofs.Query.Balance

/-!
The counters of labels. What a query reports as added and removed is the difference that it made to
the number of labels on the nodes of its graph, with two exceptions: the labels that go with a node
are not counted, and a label that the pattern of a new node repeats is counted each time, although
the node has it once. Both leave the graph with fewer labels than reported, so what is reported is
a bound at any rate.

An operation has to do with the labels of one node at most. Two graphs that agree on those of all
other nodes differ, in the number of pairs of a node and a label, by as many labels as this node has
more or less; what is left to be said of each operation is what it makes of the labels of its node.
-/

namespace PropertyGraph

/-! ### Labels of graphs -/

namespace Store

variable {s t : Store}

/-- The labels of a node, none if there is no such node. -/
def nodeLabels (s : Store) (i : NodeId) : List String := (s.node? i).elim [] Node.labels

/-- The pairs of a node and a label that it has. -/
def labelPairs (s : Store) : Finset (NodeId × String) :=
  (s.nodes.flatMap fun e => e.2.labels.map fun l => (e.1, l)).toFinset

namespace Sound

variable (hs : Sound s)
include hs

lemma mem_labelPairs {p : NodeId × String} : p ∈ s.labelPairs ↔ p.2 ∈ s.nodeLabels p.1 := by
  obtain ⟨i, l⟩ := p
  simp only [labelPairs, List.mem_toFinset, List.mem_flatMap, List.mem_map, Prod.mk.injEq]
  constructor
  · rintro ⟨⟨j, n⟩, he, m, hm, rfl, rfl⟩
    have hn : s.node? j = some n := Dict.get?_of_mem hs.nodes he
    rw [nodeLabels, hn]
    exact hm
  · intro hl
    cases hn : s.node? i with
    | none => simp [nodeLabels, hn] at hl
    | some n =>
      rw [nodeLabels, hn] at hl
      exact ⟨(i, n), Dict.mem_of_get? hn, l, hl, rfl, rfl⟩

lemma nodup_nodeLabels (i : NodeId) : (s.nodeLabels i).Nodup := by
  rw [nodeLabels]
  cases hn : s.node? i with
  | none => exact .nil
  | some n => exact (hs.node hn).labels

/-- The pairs of one node are as many as its labels. -/
lemma card_labelPairs_at (i : NodeId) :
    (s.labelPairs.filter fun p => p.1 = i).card = (s.nodeLabels i).length := by
  have heq : (s.labelPairs.filter fun p => p.1 = i) = (s.nodeLabels i).toFinset.image (i, ·) := by
    ext ⟨j, l⟩
    rw [Finset.mem_filter, hs.mem_labelPairs, Finset.mem_image]
    constructor
    · rintro ⟨hl, rfl⟩
      exact ⟨l, List.mem_toFinset.2 hl, rfl⟩
    · rintro ⟨m, hm, he⟩
      obtain ⟨rfl, rfl⟩ := Prod.mk.inj he
      exact ⟨List.mem_toFinset.1 hm, rfl⟩
  rw [heq, Finset.card_image_of_injective _ (Prod.mk_right_injective i),
    List.toFinset_card_of_nodup (hs.nodup_nodeLabels i)]

lemma card_labelPairs_congr (ht : Sound t) (h : t.nodeLabels = s.nodeLabels) :
    t.labelPairs.card = s.labelPairs.card := by
  congr 1
  ext p
  rw [ht.mem_labelPairs, hs.mem_labelPairs, h]

/-- **Where the labels of one node change, the number of pairs changes with that of its labels.** -/
theorem card_labelPairs_add (ht : Sound t) {i : NodeId}
    (h : ∀ j, i ≠ j → t.nodeLabels j = s.nodeLabels j) :
    t.labelPairs.card + (s.nodeLabels i).length = s.labelPairs.card + (t.nodeLabels i).length := by
  have hrest : (t.labelPairs.filter fun p => ¬ p.1 = i) =
      s.labelPairs.filter fun p => ¬ p.1 = i := by
    ext p
    rw [Finset.mem_filter, Finset.mem_filter, ht.mem_labelPairs, hs.mem_labelPairs]
    refine and_congr_left fun hp => ?_
    rw [h p.1 (Ne.symm hp)]
  have hsplit := Finset.card_filter_add_card_filter_not (s := s.labelPairs) fun p => p.1 = i
  have hsplit' := Finset.card_filter_add_card_filter_not (s := t.labelPairs) fun p => p.1 = i
  rw [hs.card_labelPairs_at] at hsplit
  rw [ht.card_labelPairs_at, hrest] at hsplit'
  omega

end Sound

/-! #### Operations that leave labels alone -/

@[simp] lemma nodeLabels_record (s : Store) (c : Change) :
    (s.record c).nodeLabels = s.nodeLabels := rfl

/-- What becomes of the properties of a node does not matter to its labels. -/
lemma nodeLabels_mapNode (f : Node → Properties) (s : Store) (i : NodeId) :
    (s.mapNode i fun n => { n with properties := f n }).nodeLabels = s.nodeLabels := by
  funext j
  rw [nodeLabels, nodeLabels, node?_mapNode]
  split_ifs
  · cases s.node? j with
    | none => rfl
    | some n => rfl
  · rfl

lemma nodeLabels_removeNodeProperty (i : NodeId) (k : String) (s : Store) :
    (removeNodeProperty i k s).2.nodeLabels = s.nodeLabels := by
  rw [removeNodeProperty]
  split
  · rfl
  · split
    · rfl
    · rw [nodeLabels_record, nodeLabels_mapNode]

lemma nodeLabels_setNodeProperty (i : NodeId) (k : String) (v : Value) (s : Store) :
    (setNodeProperty i k v s).2.nodeLabels = s.nodeLabels := by
  rw [setNodeProperty]
  split_ifs
  · exact nodeLabels_removeNodeProperty i k s
  · split
    · rfl
    · split
      · rfl
      · rw [nodeLabels_record, nodeLabels_mapNode]

lemma nodeLabels_removeRelProperty (i : RelId) (k : String) (s : Store) :
    (removeRelProperty i k s).2.nodeLabels = s.nodeLabels := by
  rw [removeRelProperty]
  split
  · rfl
  · split
    · rfl
    · rfl

lemma nodeLabels_setRelProperty (i : RelId) (k : String) (v : Value) (s : Store) :
    (setRelProperty i k v s).2.nodeLabels = s.nodeLabels := by
  rw [setRelProperty]
  split_ifs
  · exact nodeLabels_removeRelProperty i k s
  · split
    · rfl
    · rfl

lemma nodeLabels_createRel (type : String) (a b : NodeId) (ps : Properties) (s : Store) :
    (createRel type a b ps s).2.nodeLabels = s.nodeLabels := by
  rw [createRel]
  split_ifs
  · rfl
  · rfl
  · rfl

lemma nodeLabels_deleteRel (i : RelId) (s : Store) :
    (deleteRel i s).2.nodeLabels = s.nodeLabels := by
  rw [deleteRel]
  split
  · rfl
  · rfl

/-! #### Operations that change labels -/

/-- A new node has each of its labels once. -/
lemma card_labelPairs_createNode (hs : Sound s) {labels : List String} {ps : Properties}
    {i : NodeId} (h : createNode labels ps s = (.ok i, t)) :
    t.labelPairs.card = s.labelPairs.card + labels.eraseDups.length := by
  have ht : Sound t := (createNode_eq_ok hs h).sound
  rw [createNode] at h
  split at h
  · cases (Prod.mk.inj h).1
  · obtain ⟨hi, rfl⟩ := Prod.mk.inj h
    obtain rfl := Except.ok.inj hi
    let n : Node := ⟨s.nextNode, labels.eraseDups, withoutNulls ps⟩
    have hnode (j : NodeId) := node?_linkNode { s with nextNode := s.nextNode + 1 } n j
    have hnew : s.node? s.nextNode = none :=
      Option.eq_none_iff_forall_ne_some.2 fun m hm => (hs.node_lt hm).ne rfl
    have hcard := hs.card_labelPairs_add ht (i := s.nextNode) fun j hj =>
      congrArg (·.elim [] Node.labels) ((hnode j).trans (if_neg hj))
    rw [nodeLabels, hnew] at hcard
    refine hcard.trans ?_
    exact congrArg (fun m : Option Node => s.labelPairs.card + (m.elim [] Node.labels).length)
      ((hnode s.nextNode).trans (if_pos rfl))

/-- Where a node gets other labels, the number of pairs changes with that of its labels. -/
lemma card_labelPairs_relabel (hs : Sound s) (ht : Sound t) {i : NodeId} {n : Node}
    (hn : s.node? i = some n) {f : Node → List String}
    (h : t.nodes = (s.mapNode i fun n => { n with labels := f n }).nodes) :
    t.labelPairs.card + n.labels.length = s.labelPairs.card + (f n).length := by
  have hnode (j : NodeId) : t.node? j =
      if i = j then (s.node? j).map fun n => { n with labels := f n } else s.node? j :=
    (congrArg (Dict.get? · j) h).trans (node?_mapNode s _ i j)
  have hcard := hs.card_labelPairs_add ht (i := i) fun j hj =>
    congrArg (·.elim [] Node.labels) ((hnode j).trans (if_neg hj))
  rw [nodeLabels, nodeLabels, hnode i, if_pos rfl, hn] at hcard
  exact hcard

lemma card_labelPairs_addLabel (hs : Sound s) {i : NodeId} {l : String} {b : Bool}
    (h : addLabel i l s = (.ok b, t)) :
    t.labelPairs.card = s.labelPairs.card + if b then 1 else 0 := by
  have ht : Sound t := by
    have := (steps_addLabel i l s).sound hs
    rwa [h] at this
  rw [addLabel] at h
  cases hn : s.node? i with
  | none =>
    rw [hn] at h
    cases (Prod.mk.inj h).1
  | some n =>
    rw [hn] at h
    dsimp only at h
    split_ifs at h
    · obtain ⟨hb, rfl⟩ := Prod.mk.inj h
      obtain rfl := Except.ok.inj hb
      rfl
    · split at h
      · cases (Prod.mk.inj h).1
      · obtain ⟨hb, rfl⟩ := Prod.mk.inj h
        obtain rfl := Except.ok.inj hb
        have hcard := card_labelPairs_relabel hs ht hn (f := (·.labels ++ [l])) rfl
        rw [List.length_append, List.length_singleton] at hcard
        rw [if_pos rfl]
        omega

lemma card_labelPairs_removeLabel (hs : Sound s) {i : NodeId} {l : String} {b : Bool}
    (h : removeLabel i l s = (.ok b, t)) :
    t.labelPairs.card + (if b then 1 else 0) = s.labelPairs.card := by
  have ht : Sound t := by
    have := (steps_removeLabel i l s).sound hs
    rwa [h] at this
  rw [removeLabel] at h
  cases hn : s.node? i with
  | none =>
    rw [hn] at h
    cases (Prod.mk.inj h).1
  | some n =>
    rw [hn] at h
    dsimp only at h
    cases hp : n.labels.idxOf? l with
    | none =>
      rw [hp] at h
      obtain ⟨hb, rfl⟩ := Prod.mk.inj h
      obtain rfl := Except.ok.inj hb
      rfl
    | some p =>
      rw [hp] at h
      obtain ⟨hb, rfl⟩ := Prod.mk.inj h
      obtain rfl := Except.ok.inj hb
      obtain ⟨hlt, -⟩ := List.idxOf?_eq_some_iff.1 hp
      have hcard := card_labelPairs_relabel hs ht hn (f := (·.labels.eraseIdx p)) rfl
      rw [List.length_eraseIdx_of_lt hlt] at hcard
      rw [if_pos rfl]
      omega

/-- The pairs of what is left were pairs before. -/
lemma Loses.card_labelPairs_le {N : Finset NodeId} {R : Finset RelId} (hs : Sound s)
    (h : s.Loses N R t) : t.labelPairs.card ≤ s.labelPairs.card := by
  refine Finset.card_le_card fun p hp => ?_
  rw [h.sound.mem_labelPairs, nodeLabels, h.node?] at hp
  rw [hs.mem_labelPairs, nodeLabels]
  split_ifs at hp
  · simp at hp
  · exact hp

end Store

/-! ### Steps -/

namespace Draft

/-- What the counters have been told of labels between two drafts bounds what has become of the
graph, and is what has become of it where no node was deleted and no label repeated. -/
structure Labelled (P : List String → Prop) (d d' : Draft) : Prop where
  le : d'.store.labelPairs.card + d'.tally.labelsRemoved + d.tally.labelsAdded ≤
    d.store.labelPairs.card + d.tally.labelsRemoved + d'.tally.labelsAdded
  deleted_le : d.tally.nodesDeleted ≤ d'.tally.nodesDeleted
  eq : (∀ ls, P ls → ls.Nodup) → d'.tally.nodesDeleted = d.tally.nodesDeleted →
    d'.store.labelPairs.card + d'.tally.labelsRemoved + d.tally.labelsAdded =
      d.store.labelPairs.card + d.tally.labelsRemoved + d'.tally.labelsAdded

variable {P : List String → Prop} {d d' d'' : Draft}

lemma Labelled.refl (d : Draft) : Labelled P d d := ⟨le_rfl, le_rfl, fun _ _ => rfl⟩

lemma Labelled.trans (h : Labelled P d d') (h' : Labelled P d' d'') : Labelled P d d'' := by
  obtain ⟨hle, hdel, heq⟩ := h
  obtain ⟨hle', hdel', heq'⟩ := h'
  refine ⟨by omega, hdel.trans hdel', fun hP hsame => ?_⟩
  -- nothing can have been deleted in either part
  have heq := heq hP (by omega)
  have heq' := heq' hP (by omega)
  omega

/-- A step is labelled if what is counted for it is. -/
lemma labelled_step {s : Store} {t : Tally}
    (hle : s.labelPairs.card + t.labelsRemoved ≤ d.store.labelPairs.card + t.labelsAdded)
    (heq : (∀ ls, P ls → ls.Nodup) → t.nodesDeleted = 0 →
      s.labelPairs.card + t.labelsRemoved = d.store.labelPairs.card + t.labelsAdded) :
    Labelled P d ⟨s, d.tally + t⟩ := by
  refine ⟨?_, Nat.le_add_right _ t.nodesDeleted, fun hP hsame => ?_⟩
  · change s.labelPairs.card + (d.tally.labelsRemoved + t.labelsRemoved) + d.tally.labelsAdded ≤
      d.store.labelPairs.card + d.tally.labelsRemoved + (d.tally.labelsAdded + t.labelsAdded)
    omega
  · have heq := heq hP (Nat.add_eq_left.1 hsame)
    change s.labelPairs.card + (d.tally.labelsRemoved + t.labelsRemoved) + d.tally.labelsAdded =
      d.store.labelPairs.card + d.tally.labelsRemoved + (d.tally.labelsAdded + t.labelsAdded)
    omega

/-- A step is labelled if what is counted for it is exact. -/
lemma labelled_exact {s : Store} {t : Tally}
    (h : s.labelPairs.card + t.labelsRemoved = d.store.labelPairs.card + t.labelsAdded) :
    Labelled P d ⟨s, d.tally + t⟩ :=
  labelled_step h.le fun _ _ => h

/-- A change that leaves all labels alone is labelled if no label is counted for it. -/
lemma labelled_same {α : Type} {op : Store.Operation α} {x : Except StoreError α} {s : Store}
    (hd : Store.Sound d.store) (h : op d.store = (x, s)) (hs : Store.Sound s)
    (hsame : (op d.store).2.nodeLabels = d.store.nodeLabels) (t : Tally)
    (ht : t.labelsAdded = 0 ∧ t.labelsRemoved = 0) : Labelled P d ⟨s, d.tally + t⟩ := by
  rw [h] at hsame
  refine labelled_exact ?_
  rw [hd.card_labelPairs_congr hs hsame, ht.1, ht.2]

/-- **A counted step is labelled.** -/
theorem Step.labelled (hd : Store.Sound d.store) (h : Step P d d') : Labelled P d d' := by
  have hd' := (h.balanced hd).1
  cases h with
  | @createNode labels ps i s hl h =>
    have hcard := Store.card_labelPairs_createNode hd h
    have hle := ((Store.nodup_eraseDups labels).subperm fun _ => List.mem_eraseDups.1).length_le
    refine labelled_step (hcard.trans_le (Nat.add_le_add_left hle _)) fun hP _ => ?_
    have hge := ((hP labels hl).subperm fun _ => List.mem_eraseDups.2).length_le
    exact hcard.trans (congrArg _ (hle.antisymm hge))
  | createRel h => exact labelled_same hd h hd' (Store.nodeLabels_createRel ..) _ ⟨rfl, rfl⟩
  | setNodeProperty h =>
    exact labelled_same hd h hd' (Store.nodeLabels_setNodeProperty ..) _ ⟨rfl, rfl⟩
  | setRelProperty h =>
    exact labelled_same hd h hd' (Store.nodeLabels_setRelProperty ..) _ ⟨rfl, rfl⟩
  | @removeNodeProperty i k b s h =>
    refine labelled_same hd h hd' (Store.nodeLabels_removeNodeProperty ..) _ ?_
    cases b <;> exact ⟨rfl, rfl⟩
  | @removeRelProperty i k b s h =>
    refine labelled_same hd h hd' (Store.nodeLabels_removeRelProperty ..) _ ?_
    cases b <;> exact ⟨rfl, rfl⟩
  | @addLabel i l b s h =>
    have hcard := Store.card_labelPairs_addLabel hd h
    cases b with
    | true => exact labelled_exact hcard
    | false => exact labelled_exact hcard
  | @removeLabel i l b s h =>
    have hcard := Store.card_labelPairs_removeLabel hd h
    cases b with
    | true => exact labelled_exact hcard
    | false => exact labelled_exact hcard
  | @deleteRel i b s h =>
    have hsame := Store.nodeLabels_deleteRel i d.store
    rw [h] at hsame
    have hcard := hd.card_labelPairs_congr hd' hsame
    cases b with
    | true => exact labelled_exact hcard
    | false => exact labelled_exact hcard
  | @deleteNode i n s h =>
    have hdel := Store.deletion_deleteNode hd i false
    rw [h] at hdel
    cases hdel with
    | absent => exact labelled_exact rfl
    | gone _ _ ht => exact labelled_step (ht.card_labelPairs_le hd) fun _ h => nomatch h
  | @detachNode i n s h =>
    have hdel := Store.deletion_deleteNode hd i true
    rw [h] at hdel
    cases hdel with
    | absent => exact labelled_exact rfl
    | gone _ _ ht => exact labelled_step (ht.card_labelPairs_le hd) fun _ h => nomatch h
  | matched n => exact labelled_exact rfl

/-- **Counted steps are labelled.** -/
theorem Steps.labelled (hd : Store.Sound d.store) (h : Steps P d d') : Labelled P d d' := by
  induction h with
  | refl => exact .refl d
  | tail hsteps hstep ih => exact ih.trans (hstep.labelled (Steps.balanced hd hsteps).1)

end Draft

/-! ### Queries -/

namespace Engine

open Cypher

/-- **The counters of labels are exact where no new node is given a label twice.** Whatever was
asked of an engine before: if a query succeeds, the labels on the nodes of its graph and those
reported as removed come to no more than the labels before and those reported as added; and to as
many if no node was deleted and no node in a pattern of CREATE or MERGE repeats a label. -/
theorem label_counters_exact {e : Engine} (he : e.Reachable) (c : Context) (q : Query Expr)
    {r : Reply} {s : Server}
    (h : ExceptT.run ((Statement.query q).run c) e.server = (.ok r, s)) :
    ∃ g g', e.server.store? = some g ∧ s.store? = some g' ∧
      g'.labelPairs.card + r.tally.labelsRemoved ≤ g.labelPairs.card + r.tally.labelsAdded ∧
      (r.tally.nodesDeleted = 0 → (∀ ls ∈ q.newLabels, ls.Nodup) →
        g'.labelPairs.card + r.tally.labelsRemoved =
          g.labelPairs.card + r.tally.labelsAdded) := by
  obtain ⟨g, d, hg, hrun, hs⟩ := run_query_eq_ok h
  have hlabels : (queryMeaning q).newLabels = q.newLabels := Expr.newLabels_foldQuery _ q
  obtain ⟨hsteps, htally⟩ := Query.steps_reply (P := (· ∈ q.newLabels)) (hlabels ▸ fun _ => id) hrun
  obtain ⟨hle, -, heq⟩ := hsteps.labelled (he.lawful.graphs _ g hg).sound
  have hpairs : (if e.server.session.inTransaction then d.store else d.store.commit).labelPairs =
      d.store.labelPairs := by
    split_ifs <;> rfl
  refine ⟨g, _, hg, hs, ?_, fun hnone hnodup => ?_⟩
  · rw [hpairs, htally]
    exact hle
  · rw [hpairs, htally]
    exact heq hnodup (htally ▸ hnone)

/-- A query that adds labels that are there and removes such as are not, on a graph of one node. -/
theorem label_counters_exact_mixed :
    let e := ((ofConfig {}).run { text := "CREATE (:A:B)", clock := .zero }).2
    let text := "MATCH (n:A) SET n:B:C REMOVE n:A:D MERGE (m:E:F) ON CREATE SET m:F:G " ++
      "FOREACH (i IN [1, 2] | CREATE (:H))"
    ∃ q r s g, soleQuery? text = some q ∧ (∀ ls ∈ q.newLabels, ls.Nodup) ∧
      ExceptT.run ((Statement.query q).run ⟨[], 8, .zero⟩) e.server = (.ok r, s) ∧
      r.tally.nodesDeleted = 0 ∧ s.store? = some g ∧ g.labelPairs.card + 1 = 2 + 6 := by
  intro e text
  have hsize : (e.server.store?.map fun g => g.labelPairs.card) = some 2 := by decide +kernel
  have htally : ((soleQuery? text).bind fun q =>
      (ExceptT.run ((Statement.query q).run ⟨[], 8, .zero⟩) e.server).1.toOption.map
        fun r => (q.newLabels, r.tally.nodesDeleted, r.tally.labelsAdded,
          r.tally.labelsRemoved)) = some ([["E", "F"], ["H"]], 0, 6, 1) := by
    decide +kernel
  have he : e.Reachable := .run (.ofConfig {}) _
  clear_value e text
  obtain ⟨q, hq, hrun⟩ := Option.bind_eq_some_iff.1 htally
  obtain ⟨r, hr, ht⟩ := Option.map_eq_some_iff.1 hrun
  rcases hx : ExceptT.run ((Statement.query q).run ⟨[], 8, .zero⟩) e.server with ⟨x, s⟩
  rw [hx] at hr
  obtain rfl := toOption_eq_some.1 hr
  obtain ⟨g, g', hg, hg', -, hexact⟩ := label_counters_exact he _ q hx
  rw [hg] at hsize
  simp only [Option.map_some, Option.some.injEq, Prod.mk.injEq] at hsize ht
  have hnodup : ∀ ls ∈ q.newLabels, ls.Nodup := by
    rw [ht.1]
    decide
  have hexact := hexact ht.2.1 hnodup
  rw [ht.2.2.1, ht.2.2.2, hsize] at hexact
  exact ⟨q, r, s, g', hq, hnodup, hx, ht.2.1, hg', hexact⟩

/-- A label that is given to a new node twice is counted twice. -/
theorem not_label_counters_exact_of_repeated :
    ¬ ∀ e : Engine, e.Reachable → ∀ (c : Context) (q : Query Expr) (r : Reply) (s : Server),
      ExceptT.run ((Statement.query q).run c) e.server = (.ok r, s) → r.tally.nodesDeleted = 0 →
        ∃ g g', e.server.store? = some g ∧ s.store? = some g' ∧
          g'.labelPairs.card + r.tally.labelsRemoved =
            g.labelPairs.card + r.tally.labelsAdded := by
  intro hall
  have h : ((soleQuery? "CREATE (:A:A)").bind fun q =>
      let run := ExceptT.run ((Statement.query q).run ⟨[], 8, .zero⟩) (ofConfig {}).server
      run.1.toOption.bind fun r => run.2.store?.map fun g => (g.labelPairs.card,
        r.tally.nodesDeleted, r.tally.labelsAdded, r.tally.labelsRemoved)) = some (1, 0, 2, 0) := by
    decide +kernel
  have hempty : (ofConfig {}).server.store? = some {} := by decide +kernel
  obtain ⟨q, -, h⟩ := Option.bind_eq_some_iff.1 h
  obtain ⟨r, hr, h⟩ := Option.bind_eq_some_iff.1 h
  obtain ⟨g', hg', h⟩ := Option.map_eq_some_iff.1 h
  simp only [Prod.mk.injEq] at h
  obtain ⟨hcard, hdeleted, hadded, hremoved⟩ := h
  obtain ⟨g, g'', hg, hg'', hexact⟩ := hall _ (.ofConfig {}) ⟨[], 8, .zero⟩ q r _
    (Prod.ext (toOption_eq_some.1 hr) rfl) hdeleted
  obtain rfl := Option.some.inj (hempty.symm.trans hg)
  obtain rfl := Option.some.inj (hg'.symm.trans hg'')
  rw [hcard, hadded, hremoved] at hexact
  cases hexact

end Engine

end PropertyGraph
