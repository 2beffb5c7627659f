import PropertyGraph.Proofs.Query.Merge
import PropertyGraph.Proofs.Query.Union
import PropertyGraph.Query.Reply

/-!
Merging a node for each item of a list.

The rows are gone through in order, and each is matched against the graph that those before it have
left. So the induction on the items goes over the graphs: a node that is created for an item takes
all later items of the same key out of those that are missing, since values without null and NaN are
equal exactly if they have one key. A constraint only refuses a value that a node has already, and
then there is a match.
-/

namespace PropertyGraph

open Cypher

namespace Value

/-! ### Values -/

mutual

/-- A value that takes the place of a definite one is equal to it. -/
lemma equals_of_same {u v : Value} (hv : v.isDefinite) (h : u.same v) : u.equals v = some true := by
  cases u <;> cases v <;> simp only [same, Bool.false_eq_true, beq_iff_eq] at h
  case null.null => cases hv
  case num.num a b => rw [equals, h]
  case list.list xs ys => exact itemsEqual_of_sameItems hv h
  case map.map ds es => exact entriesEqual_of_sameEntries hv h
  all_goals simp [equals, h]

lemma itemsEqual_of_sameItems {xs ys : List Value} (hys : itemsDefinite ys)
    (h : sameItems xs ys) : itemsEqual xs ys = some true := by
  match xs, ys with
  | [], [] => rfl
  | [], _ :: _ | _ :: _, [] => cases h
  | x :: xs, y :: ys =>
    rw [itemsDefinite, Bool.and_eq_true] at hys
    rw [sameItems, Bool.and_eq_true] at h
    rw [itemsEqual, Kleene.and_eq_true]
    exact ⟨equals_of_same hys.1 h.1, itemsEqual_of_sameItems hys.2 h.2⟩

lemma entriesEqual_of_sameEntries {ds es : List (String × Value)} (hes : entriesDefinite es)
    (h : sameEntries ds es) : entriesEqual ds es = some true := by
  match ds, es with
  | [], [] => rfl
  | [], _ :: _ | _ :: _, [] => cases h
  | (j, x) :: ds, (k, y) :: es =>
    rw [entriesDefinite, Bool.and_eq_true] at hes
    rw [sameEntries, Bool.and_eq_true, Bool.and_eq_true, beq_iff_eq] at h
    rw [entriesEqual, if_pos h.1.1, Kleene.and_eq_true]
    exact ⟨equals_of_same hes.1 h.1.2, entriesEqual_of_sameEntries hes.2 h.2⟩

end

/-- Definite values are equal exactly if they have one key. -/
lemma equals_iff_key_eq {u v : Value} (hu : u.isDefinite) :
    u.equals v = some true ↔ u.key = v.key := by
  obtain ⟨hnull, hnan⟩ := u.isDefinite_iff.1 hu
  exact ⟨key_eq_of_equals, fun h => (equals_of_key_eq hnan h).2 hnull⟩

/-- What is like the first element is dropped behind it. -/
lemma distinctBy_cons {α β : Type} [DecidableEq β] (f : α → β) (x : α) (xs : List α) :
    distinctBy f (x :: xs) = x :: distinctBy f (xs.filter fun y => f x ≠ f y) := by
  rw [distinctBy_eq_eraseDupsBy, distinctBy_eq_eraseDupsBy, List.eraseDupsBy_cons]
  simp [eq_comm]

end Value

namespace Store

variable {s t : Store} {l k : String} {v : Value}

/-! ### Nodes with a value -/

/-- Whether a node with a label has, under a key, a value that is equal to another one. -/
def holds (s : Store) (label key : String) (v : Value) : Bool :=
  s.nodes.any fun e =>
    label ∈ e.2.labels && (Dict.get? e.2.properties key).any fun w => w.equals v = some true

lemma holds_iff (hs : Sound s) : s.holds l k v ↔ ∃ i ∈ s.nodesWith l,
    (Dict.get? (s.nodeProperties i) k).any fun w => w.equals v = some true := by
  simp only [holds, List.any_eq_true, Bool.and_eq_true, decide_eq_true_iff]
  constructor
  · rintro ⟨⟨i, n⟩, he, hl, hv⟩
    have hn : s.node? i = some n := Dict.get?_of_mem hs.nodes he
    refine ⟨i, hs.mem_nodesWith.2 ⟨n, hn, hl⟩, ?_⟩
    rwa [nodeProperties, hn]
  · rintro ⟨i, hi, hv⟩
    obtain ⟨n, hn, hl⟩ := hs.mem_nodesWith.1 hi
    rw [nodeProperties, hn] at hv
    exact ⟨(i, n), Dict.mem_of_get? hn, hl, hv⟩

/-- A value that no node has yet is in the way of no constraint. -/
lemma clash?_of_not_holds (hs : Sound s) (hv : v.isDefinite) (h : s.holds l k v = false) :
    s.clash? l k v none = none := by
  cases hclash : s.clash? l k v none with
  | none => rfl
  | some j =>
    obtain ⟨c, -, rfl, rfl, -, w, ⟨n, hn, hl, hw⟩, hsame⟩ := exists_of_clash? hs hclash
    have hequal : w.equals v = some true := Value.equals_of_same hv hsame
    have hholds : s.holds c.label c.property v := by
      refine (holds_iff hs).2 ⟨j, hs.mem_nodesWith.2 ⟨n, hn, hl⟩, ?_⟩
      simp [nodeProperties, hn, hw, hequal]
    rw [h] at hholds
    cases hholds

/-- The values of a list that no node of a label has, each once. -/
def missing (s : Store) (label key : String) (vs : List Value) : List Value :=
  Value.distinctBy Value.key (vs.filter fun v => !s.holds label key v)

/-- Nodes of a label, one for each value under a key, with their ids from `id` on. -/
def nodesFor (label key : String) (id : NodeId) : List Value → Dict NodeId Node
  | [] => []
  | v :: vs => (id, ⟨id, [label], [(key, v)]⟩) :: nodesFor label key (id + 1) vs

@[simp] lemma length_nodesFor (id : NodeId) (vs : List Value) :
    (nodesFor l k id vs).length = vs.length := by
  induction vs generalizing id with
  | nil => rfl
  | cons v vs ih => rw [nodesFor, List.length_cons, List.length_cons, ih]

/-- A graph in which there are some more nodes, and nothing else has changed. -/
structure Gains (s : Store) (label key : String) (vs : List Value) (t : Store) : Prop where
  nodes : t.nodes = s.nodes ++ nodesFor label key s.nextNode vs
  nextNode : t.nextNode = s.nextNode + vs.length
  rels : t.rels = s.rels
  outgoing : t.outgoing = s.outgoing
  incoming : t.incoming = s.incoming
  constraints : t.constraints = s.constraints
  indexes : t.indexes = s.indexes
  nextRel : t.nextRel = s.nextRel

namespace Gains

lemma refl (s : Store) : s.Gains l k [] s :=
  ⟨(List.append_nil _).symm, rfl, rfl, rfl, rfl, rfl, rfl, rfl⟩

lemma cons {u : Store} {vs : List Value} (h : s.Gains l k [v] t) (h' : t.Gains l k vs u) :
    s.Gains l k (v :: vs) u where
  nodes := by
    rw [h'.nodes, h.nodes, h.nextNode, List.append_assoc]
    rfl
  nextNode := by
    rw [h'.nextNode, h.nextNode]
    exact Nat.add_right_comm ..
  rels := h'.rels.trans h.rels
  outgoing := h'.outgoing.trans h.outgoing
  incoming := h'.incoming.trans h.incoming
  constraints := h'.constraints.trans h.constraints
  indexes := h'.indexes.trans h.indexes
  nextRel := h'.nextRel.trans h.nextRel

lemma holds {vs : List Value} (h : s.Gains l k vs t) (v : Value) :
    t.holds l k v = (s.holds l k v || vs.any fun w => w.equals v = some true) := by
  have hnew (i : NodeId) : (nodesFor l k i vs).any (fun e => l ∈ e.2.labels &&
      (Dict.get? e.2.properties k).any fun w => w.equals v = some true) =
        vs.any fun w => w.equals v = some true := by
    clear h
    induction vs generalizing i with
    | nil => rfl
    | cons w vs ih => rw [nodesFor, List.any_cons, List.any_cons, ih]; simp [Dict.get?]
  rw [Store.holds, h.nodes, List.any_append, hnew, Store.holds]

/-- A value for which there is a node now is not missing any more. -/
lemma missing_cons (h : s.Gains l k [v] t) (hv : v.isDefinite) (hmissing : s.holds l k v = false)
    (vs : List Value) : s.missing l k (v :: vs) = v :: t.missing l k vs := by
  rw [missing, List.filter_cons_of_pos (by simp [hmissing]), Value.distinctBy_cons,
    List.filter_filter, missing]
  have hholds : ∀ w ∈ vs, (decide (v.key ≠ w.key) && !s.holds l k w) = !t.holds l k w := by
    intro w _
    rw [h.holds, List.any_cons, List.any_nil, Bool.or_false, Bool.not_or, Bool.and_comm]
    simp only [ne_eq, ← Value.equals_iff_key_eq hv, decide_not]
  rw [List.filter_congr hholds]

end Gains

/-- **Creating a node for a value** that no node has. -/
lemma createNode_of_not_holds (hs : Sound s) (hv : v.isDefinite) (h : s.holds l k v = false) :
    ∃ t, createNode [l] [(k, v)] s = (.ok s.nextNode, t) ∧ Sound t ∧ s.Gains l k [v] t := by
  have hnull : v.isNull = false := by
    cases v with
    | null => cases hv
    | _ => rfl
  have hps : withoutNulls [(k, v)] = [(k, v)] :=
    withoutNulls_eq_self (List.pairwise_singleton ..) (by simpa using hnull)
  have hviolation : s.violation? [l] [(k, v)] none = none := by
    simp [violation?, clash?_of_not_holds hs hv h]
  have hcreate : createNode [l] [(k, v)] s = (.ok s.nextNode,
      ({ s with nextNode := s.nextNode + 1 }.linkNode ⟨s.nextNode, [l], [(k, v)]⟩).record
        (.createNode s.nextNode)) := by
    have hdups : [l].eraseDups = [l] := rfl
    rw [createNode, hps, hdups]
    simp only [hviolation]
  refine ⟨_, hcreate, (createNode_eq_ok hs hcreate).sound, ?_⟩
  have hlt : ∀ e ∈ s.nodes, e.1 < s.nextNode := fun e he =>
    hs.node_lt (Dict.get?_of_mem hs.nodes he)
  rw [linkNode_eq]
  exact ⟨Dict.insert_eq_append _ hlt, rfl, rfl, rfl, rfl, rfl, rfl, rfl⟩

end Store

namespace Query

open Matcher

variable {c : Context} {d d' : Draft} {l k : String} {x : Value}

/-! ### The statement -/

/-- The pattern `(n:l {k: x})`. -/
def itemPattern (l k : String) : PathPattern Expr where
  name := none
  selector := .all
  start := ⟨some "n", [l], some (.of (.map [(k, .of (.name "x"))]))⟩
  hops := []

/-- The query `UNWIND $xs AS x MERGE (n:l {k: x})`. -/
def mergeItems (l k : String) : Query Expr :=
  ⟨[.unwind (.of (.parameter "xs")) "x", .merge (itemPattern l k) [] []], []⟩

/-- What is matched and created in the rows of the query. -/
abbrev itemMeaning (l k : String) : PathPattern Meaning := (itemPattern l k).map Expr.meaning

/-- The row of an item. -/
def itemRow (x : Value) : Row := [("x", x)]

/-- The nodes that match for an item: those of the label that have it under the key. -/
def itemNodes (m : Matcher) (l k : String) (x : Value) : List NodeId :=
  (m.store.nodesWith l).filter fun i =>
    (Dict.get? (m.store.nodeProperties i) k).any fun w => w.equals x = some true

lemma nodeFits_item {m : Matcher} (hs : m.store.Sound) (env : Env) {i : NodeId}
    (hi : i ∈ m.store.nodesWith l) :
    m.nodeFits (Meaning.parts (itemMeaning l k) env).start [(k, x)] i =
      (Dict.get? (m.store.nodeProperties i) k).any fun w => w.equals x = some true := by
  obtain ⟨n, hn, hl⟩ := hs.mem_nodesWith.1 hi
  have hlabels : (Meaning.parts (itemMeaning l k) env).start.labels = [l] := rfl
  simp [nodeFits, hn, hlabels, hl, hasProperties, Store.nodeProperties]

lemma candidates_item (env : Env) (hs : env.store.Sound) :
    env.matcher.candidates (Meaning.parts (itemMeaning l k) env).start (itemRow x) =
      .ok (itemNodes env.matcher l k x) := by
  have hrequired : required (Meaning.parts (itemMeaning l k) env).start.properties (itemRow x) =
      .ok [(k, x)] := rfl
  have hunbound : Row.bound? (itemRow x) (Meaning.parts (itemMeaning l k) env).start.name =
      none := by
    simp [Meaning.parts, itemMeaning, itemPattern, PathPattern.map, NodePattern.map, Row.bound?,
      itemRow, Dict.get?]
  rw [candidates, hrequired]
  dsimp only [bind, Except.bind]
  rw [hunbound]
  refine congrArg Except.ok (List.filter_congr fun i hi => ?_)
  exact nodeFits_item hs env hi

lemma rows_item (env : Env) (hs : env.store.Sound) :
    env.matcher.rows [Meaning.parts (itemMeaning l k) env] (itemRow x) =
      .ok ((itemNodes env.matcher l k x).map fun i => Dict.insert (itemRow x) "n" (.node i)) := by
  have hmoves : [Meaning.parts (itemMeaning l k) env].flatMap Move.ofPattern =
      [.start (Meaning.parts (itemMeaning l k) env).start, .close none] := rfl
  have hclose (ts : List Trail) : ts.mapM (env.matcher.follow [.close none]) =
      .ok (ts.map fun t => [t]) := mapM_eq_ok fun t _ => rfl
  rw [Matcher.rows, hmoves, Matcher.follow, Matcher.move, Trail.begin, candidates_item env hs]
  dsimp only [bind, Except.bind, pure, Except.pure]
  rw [hclose]
  dsimp only
  rw [← List.flatMap_def, List.flatMap_singleton', List.map_map]
  rfl

/-! ### One item -/

lemma newProperties_item :
    ExceptT.run (newProperties c (itemMeaning l k).start.properties (itemRow x)) d =
      (.ok [(k, x)], d) := by
  have hread : ExceptT.run (Edit.reading c fun env =>
      Meaning.value? (itemMeaning l k).start.properties env none (itemRow x)) d =
        (.ok (some (.map [(k, x)])), d) := by
    rw [Edit.run_reading]
    rfl
  rw [newProperties, run_bind_ok hread]
  rfl

lemma createPath_item {t : Store}
    (h : Store.createNode [l] [(k, x)] d.store = (.ok d.store.nextNode, t)) :
    ∃ row d', ExceptT.run (createPath c (itemMeaning l k) (itemRow x)) d = (.ok row, d') ∧
      d'.store = t ∧ d'.tally.nodesCreated = d.tally.nodesCreated + 1 := by
  have hunbound : Row.bound? (itemRow x) (itemMeaning l k).start.name = none := by
    simp [itemMeaning, itemPattern, PathPattern.map, NodePattern.map, Row.bound?, itemRow,
      Dict.get?]
  have hstore : ExceptT.run (Edit.store (Store.createNode (itemMeaning l k).start.labels [(k, x)]))
      d = (.ok d.store.nextNode, { d with store := t }) := by
    rw [Edit.run_store, show (itemMeaning l k).start.labels = [l] from rfl, h]
    rfl
  obtain ⟨d', hnode, hd'⟩ : ∃ d', ExceptT.run (createNode c (itemMeaning l k).start (itemRow x)) d =
      (.ok (d.store.nextNode, (itemRow x).bind (itemMeaning l k).start.name
        (.node d.store.nextNode)), d') ∧
      d'.store = t ∧ d'.tally.nodesCreated = d.tally.nodesCreated + 1 := by
    rw [createNode]
    simp only [hunbound]
    rw [run_bind_ok newProperties_item, run_bind_ok hstore]
    exact ⟨_, rfl, rfl, rfl⟩
  refine ⟨(itemRow x).bind (itemMeaning l k).start.name (.node d.store.nextNode), d', ?_, hd'⟩
  rw [createPath, run_bind_ok hnode]
  rfl

/-- **Merging an item**: a match is taken if there is one, and otherwise one node is created. -/
lemma mergeRow_item (hs : d.store.Sound) (hx : x.isDefinite) :
    ∃ rows d', ExceptT.run (mergeRow c (itemMeaning l k) [] [] (itemRow x)) d = (.ok rows, d') ∧
      if d.store.holds l k x then d'.store = d.store ∧ d'.tally.nodesCreated = d.tally.nodesCreated
      else d'.store.Sound ∧ d.store.Gains l k [x] d'.store ∧
        d'.tally.nodesCreated = d.tally.nodesCreated + 1 := by
  have hrows := rows_item (l := l) (k := k) (x := x) (c.on d.store) hs
  split_ifs with hholds
  · obtain ⟨i, hi, hv⟩ := (Store.holds_iff hs).1 hholds
    have hfound : itemNodes (c.on d.store).matcher l k x ≠ [] :=
      List.ne_nil_of_mem (List.mem_filter.2 ⟨hi, hv⟩)
    obtain ⟨found, -, -, hrun⟩ := matchesOnly_of_found (by simpa using hfound) hrows
    exact ⟨_, _, hrun, rfl, rfl⟩
  · rw [Bool.not_eq_true] at hholds
    obtain ⟨t, hcreate, ht, hgains⟩ := Store.createNode_of_not_holds hs hx hholds
    obtain ⟨row, d', hpath, rfl, hcount⟩ := createPath_item (c := c) hcreate
    have hnone : itemNodes (c.on d.store).matcher l k x = [] := by
      refine List.filter_eq_nil_iff.2 fun i hi hv => ?_
      have := (Store.holds_iff hs).2 ⟨i, hi, hv⟩
      rw [hholds] at this
      cases this
    have hread : ExceptT.run (Edit.reading c fun env =>
        env.matcher.rows [Meaning.parts (itemMeaning l k) env] (itemRow x)) d = (.ok [], d) := by
      rw [Edit.run_reading, hrows, hnone]
      rfl
    refine ⟨[row], d', ?_, ht, hgains, hcount⟩
    rw [mergeRow, run_bind_ok hread]
    exact run_bind_ok hpath _

/-! ### All items -/

/-- **Merging items one after the other**: each sees the nodes that those before it created. -/
lemma mapM_mergeRow_items {xs : List Value} (hs : d.store.Sound) (hxs : ∀ x ∈ xs, x.isDefinite) :
    ∃ rows d', ExceptT.run ((xs.map itemRow).mapM (mergeRow c (itemMeaning l k) [] [])) d =
        (.ok rows, d') ∧
      d.store.Gains l k (d.store.missing l k xs) d'.store ∧
      d'.tally.nodesCreated = d.tally.nodesCreated + (d.store.missing l k xs).length ∧
      ∀ x ∈ xs, d'.store.holds l k x := by
  induction xs generalizing d with
  | nil => exact ⟨[], d, rfl, .refl _, rfl, by simp⟩
  | cons x xs ih =>
    rw [List.forall_mem_cons] at hxs
    obtain ⟨rows, d₁, hrun, hstep⟩ := mergeRow_item (c := c) (l := l) (k := k) hs hxs.1
    by_cases hholds : d.store.holds l k x
    · rw [if_pos hholds] at hstep
      obtain ⟨hstore, hcount⟩ := hstep
      obtain ⟨rest, d', hrest, hgains, hcounts, hall⟩ := ih (d := d₁) (hstore ▸ hs) hxs.2
      have hmissing : d.store.missing l k (x :: xs) = d.store.missing l k xs := by
        rw [Store.missing, List.filter_cons_of_neg (by simp [hholds]), Store.missing]
      rw [hstore] at hgains hcounts
      rw [hmissing]
      refine ⟨rows :: rest, d', ?_, hgains, by rw [hcounts, hcount], ?_⟩
      · rw [List.map_cons, List.mapM_cons, run_bind_ok hrun, run_bind_ok hrest]
        rfl
      · refine List.forall_mem_cons.2 ⟨?_, hall⟩
        rw [hgains.holds, hholds, Bool.true_or]
    · rw [if_neg hholds] at hstep
      obtain ⟨hs₁, hgain, hcount⟩ := hstep
      obtain ⟨rest, d', hrest, hgains, hcounts, hall⟩ := ih hs₁ hxs.2
      rw [hgain.missing_cons hxs.1 (Bool.eq_false_of_not_eq_true hholds)]
      refine ⟨rows :: rest, d', ?_, hgain.cons hgains, ?_, ?_⟩
      · rw [List.map_cons, List.mapM_cons, run_bind_ok hrun, run_bind_ok hrest]
        rfl
      · rw [hcounts, hcount, List.length_cons]
        omega
      · refine List.forall_mem_cons.2 ⟨?_, hall⟩
        rw [hgains.holds, hgain.holds, List.any_cons, (Value.equals_self_iff x).2 hxs.1]
        simp

lemma unwind_parameter {s : Store} {xs : List Value}
    (h : Dict.get? c.parameters "xs" = some (.list xs)) :
    unwind (c.on s) (Expr.of (.parameter "xs")).meaning "x" .unit =
      .ok ⟨["x"], xs.map itemRow⟩ := by
  have hvalue : (Expr.of (.parameter "xs")).meaning.value (c.on s) [] = .ok (.list xs) := by
    change Meaning.evalLayer (c.on s) none [] (.parameter "xs") = _
    rw [Meaning.evalLayer, show Dict.get? (c.on s).parameters "xs" = some (.list xs) from h]
    rfl
  rw [unwind, Table.unit, List.mapM_cons, hvalue]
  simp [items, Table.declare, Table.addColumns, itemRow, Dict.insert, bind, Except.bind, pure,
    Except.pure]

/-- **Merging a node for each item of a list**, in every store of a run: it succeeds and creates one
node for each of the different values that no node of the label has, and nothing else changes. Then
every item has its node. -/
theorem mergeItems_exact (calls : List Store.Call) (c : Context) (label key : String)
    (xs : List Value) (hparam : Dict.get? c.parameters "xs" = some (.list xs))
    (hxs : ∀ x ∈ xs, x.hasNull = false ∧ x.hasNaN = false) :
    let s := Store.run calls {}
    let new := s.missing label key xs
    Statement.check (.query (mergeItems label key)) = .ok () ∧
    ∃ d', ExceptT.run (reply c (queryMeaning (mergeItems label key))) ⟨s, {}⟩ =
        (.ok (.message d'.tally.summary d'.tally), d') ∧
      d'.tally.nodesCreated = new.length ∧ d'.store.nodes.length = s.nodes.length + new.length ∧
      s.Gains label key new d'.store ∧ ∀ x ∈ xs, d'.store.holds label key x := by
  intro s new
  have hs : s.Sound := (Store.lawful_empty.run calls).sound
  obtain ⟨rows, d', hrun, hgains, hcount, hall⟩ := mapM_mergeRow_items (c := c) (l := label)
    (k := key) (d := ⟨s, {}⟩) hs fun x hx => x.isDefinite_iff.2 (hxs x hx)
  have hlength : d'.store.nodes.length = s.nodes.length + new.length := by
    rw [hgains.nodes, List.length_append, Store.length_nodesFor]
  refine ⟨rfl, d', ?_, by simpa using hcount, hlength, hgains, hall⟩
  have hunwind : ExceptT.run (runClause c .unit
      (.unwind (Expr.of (.parameter "xs")).meaning "x")) ⟨s, {}⟩ =
        (.ok ⟨["x"], xs.map itemRow⟩, ⟨s, {}⟩) := by
    change ExceptT.run (Edit.reading c fun env => unwind env _ "x" .unit) _ = _
    rw [Edit.run_reading, unwind_parameter hparam]
  have hmerge : ExceptT.run (runClause c ⟨["x"], xs.map itemRow⟩
      (.merge (itemMeaning label key) [] [])) ⟨s, {}⟩ =
        (.ok (Table.declare ⟨["x"], rows.flatten⟩ (itemMeaning label key).names), d') := by
    have hwrite : ExceptT.run (writeClause c (xs.map itemRow)
        (.merge (itemMeaning label key) [] [])) ⟨s, {}⟩ = (.ok rows.flatten, d') := by
      rw [writeClause]
      exact run_bind_ok hrun _
    exact run_bind_ok hwrite _
  have hquery : queryMeaning (mergeItems label key) =
      ⟨[.unwind (Expr.of (.parameter "xs")).meaning "x", .merge (itemMeaning label key) [] []],
        []⟩ := rfl
  have hclauses : ExceptT.run (run c .unit (queryMeaning (mergeItems label key))) ⟨s, {}⟩ =
      (.ok ⟨Table.declare ⟨["x"], rows.flatten⟩ (itemMeaning label key).names, false⟩, d') := by
    simp only [hquery, run, runClauses, runBranches, bind_pure]
    rw [run_bind_ok hunwind, run_bind_ok hmerge]
    rfl
  rw [reply, run_bind_ok hclauses]
  rfl

/-- Whether a query is the one that merges items. -/
def isMergeItems (label key : String) : Query Expr → Bool
  | ⟨[.unwind (.of (.parameter p)) x, .merge ⟨none, .all, ⟨some n, [l],
      some (.of (.map [(k, .of (.name y))]))⟩, []⟩ [] []], []⟩ =>
    p = "xs" && x = "x" && n = "n" && l = label && k = key && y = "x"
  | _ => false

lemma eq_mergeItems {q : Query Expr} (h : isMergeItems l k q) : q = mergeItems l k := by
  unfold isMergeItems at h
  split at h
  · simp only [Bool.and_eq_true, decide_eq_true_iff] at h
    obtain ⟨⟨⟨⟨⟨rfl, rfl⟩, rfl⟩, rfl⟩, rfl⟩, rfl⟩ := h
    rfl
  · cases h

/-- Three items under a constraint: one is there before, and one comes twice. -/
theorem mergeItems_exact_repeated :
    let xs : List Value := [.str "a", .bool true, .str "a"]
    let c : Context := ⟨[("xs", .list xs)], 8, .zero⟩
    let s := Store.run [.createRule .constraint ⟨"one", "K", "v"⟩,
      .createNode ["K"] [("v", .bool true)]] {}
    Cypher.parse "UNWIND $xs AS x MERGE (n:K \x7bv: x\x7d)" = .ok [.query (mergeItems "K" "v")] ∧
    ∃ d', ExceptT.run (reply c (queryMeaning (mergeItems "K" "v"))) ⟨s, {}⟩ =
        (.ok (.message d'.tally.summary d'.tally), d') ∧
      d'.tally.nodesCreated = 1 ∧ s.Gains "K" "v" [.str "a"] d'.store := by
  intro xs c s
  have hparse : (soleQuery? "UNWIND $xs AS x MERGE (n:K \x7bv: x\x7d)").any
      (isMergeItems "K" "v") = true := by decide +kernel
  obtain ⟨q, hq, hshape⟩ := (Option.any_eq_true _ _).1 hparse
  obtain rfl := eq_mergeItems hshape
  have hmissing : s.missing "K" "v" xs = [.str "a"] := by decide +kernel
  obtain ⟨-, d', hrun, hcount, -, hgains, -⟩ := mergeItems_exact
    [.createRule .constraint ⟨"one", "K", "v"⟩, .createNode ["K"] [("v", .bool true)]] c "K" "v" xs
    rfl (by decide)
  rw [hmissing] at hcount hgains
  exact ⟨parse_of_soleQuery? hq, d', hrun, hcount, hgains⟩

end Query

end PropertyGraph
