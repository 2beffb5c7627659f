import PropertyGraph.Matching.Walk
import PropertyGraph.Proofs.Store.Pruned
import PropertyGraph.Proofs.Store.Run

/-!
Whatever counts or lists the relationships at a node agrees with the relationships that are stored.

A loop is on both lists of its node. The degree takes it off the sum of their lengths, a step of a
pattern leaves it out among those that come in, and a deletion leaves out what the first list has
already. All three come to the list that a deletion goes through, which in a sound store holds the
id of each relationship that touches the node, once.
-/

namespace PropertyGraph

/-- Whether a relationship starts or ends at a node. -/
def Relationship.touches (r : Relationship) (a : NodeId) : Bool := r.source = a || r.target = a

lemma Relationship.touches_iff {r : Relationship} {a : NodeId} :
    r.touches a ↔ r.source = a ∨ r.target = a := by
  rw [touches, Bool.or_eq_true, decide_eq_true_eq, decide_eq_true_eq]

namespace Store

variable {s t : Store}

/-- The stored relationships that touch a node. -/
def relsTouching (s : Store) (a : NodeId) : List Relationship :=
  (Dict.values s.rels).filter (·.touches a)

namespace Sound

variable (hs : Sound s)
include hs

/-! ### The stored relationships -/

lemma mem_values {r : Relationship} : r ∈ Dict.values s.rels ↔ s.rel? r.id = some r := by
  rw [Dict.values, List.mem_map]
  constructor
  · rintro ⟨⟨i, q⟩, hq, rfl⟩
    have hi : s.rel? i = some q := Dict.get?_of_mem hs.rels hq
    rwa [hs.rel_id hi]
  · intro hr
    exact ⟨(r.id, r), Dict.mem_of_get? hr, rfl⟩

lemma nodup_values : (Dict.values s.rels).Nodup := by
  have hids : (Dict.values s.rels).map Relationship.id = Dict.keys s.rels := by
    rw [Dict.values, Dict.keys, List.map_map]
    refine List.map_congr_left fun e he => ?_
    exact hs.rel_id (Dict.get?_of_mem hs.rels he)
  exact List.Nodup.of_map Relationship.id (hids ▸ hs.rels.nodup_keys)

lemma mem_relsTouching {a : NodeId} {r : Relationship} :
    r ∈ s.relsTouching a ↔ s.rel? r.id = some r ∧ (r.source = a ∨ r.target = a) := by
  rw [relsTouching, List.mem_filter, hs.mem_values, Relationship.touches_iff]

/-- The relationships at a node are those that touch it, each once. -/
lemma perm_relsTouching (a : NodeId) :
    ((s.relsAt a).filterMap s.rel?).Perm (s.relsTouching a) := by
  have hleft : ((s.relsAt a).filterMap s.rel?).Nodup :=
    (hs.nodup_relsAt a).filterMap fun i j r hi hj => by rw [← hs.rel_id hi, hs.rel_id hj]
  refine (List.perm_ext_iff_of_nodup hleft (hs.nodup_values.filter _)).2 fun r => ?_
  rw [← relsTouching, hs.mem_relsTouching, List.mem_filterMap]
  constructor
  · rintro ⟨i, hi, hr⟩
    obtain rfl := hs.rel_id hr
    refine ⟨hr, ?_⟩
    rcases hs.mem_relsAt.1 hi with ⟨q, hq, ha⟩ | ⟨q, hq, ha⟩
    · obtain rfl := Option.some.inj (hr.symm.trans hq)
      exact .inl ha
    · obtain rfl := Option.some.inj (hr.symm.trans hq)
      exact .inr ha
  · rintro ⟨hr, ha⟩
    exact ⟨r.id, hs.mem_relsAt.2 (ha.imp (⟨r, hr, ·⟩) (⟨r, hr, ·⟩)), hr⟩

lemma length_relsTouching (a : NodeId) : (s.relsTouching a).length = (s.relsAt a).length := by
  rw [← (hs.perm_relsTouching a).length_eq, List.filterMap_length_eq_length]
  intro i hi
  rcases hs.mem_relsAt.1 hi with ⟨r, hr, -⟩ | ⟨r, hr, -⟩
  · rw [hr]; rfl
  · rw [hr]; rfl

/-! ### Degrees -/

/-- The loops among the outgoing relationships are what the two lists of a node share. -/
lemma loops_eq (a : NodeId) : ((s.relsFrom a).filter fun i => (s.rel? i).any (·.target = a)) =
    (s.relsTo a).filter (· ∈ s.relsFrom a) := by
  refine eq_of_mem_iff ((hs.outgoing.sorted a).filter _) ((hs.incoming.sorted a).filter _)
    fun i => ?_
  rw [List.mem_filter, List.mem_filter, decide_eq_true_eq, hs.mem_relsTo, Enters, and_comm,
    and_congr_left_iff, Option.any_eq_true]
  simp

lemma degree_eq (a : NodeId) : s.degree a = (s.relsAt a).length := by
  have hsplit := List.length_eq_length_filter_add (l := s.relsTo a) (· ∈ s.relsFrom a)
  have hout : (s.relsAt a).length = (s.relsFrom a).length +
      ((s.relsTo a).filter fun i => !decide (i ∈ s.relsFrom a)).length := by
    simp [relsAt]
  rw [degree, hs.loops_eq, hout]
  omega

/-! ### Steps of patterns -/

/-- A relationship that comes in is a loop if and only if it also goes out. -/
lemma loop_iff {a : NodeId} {i : RelId} {r : Relationship} (hr : s.rel? i = some r)
    (ha : r.target = a) : r.source = r.target ↔ i ∈ s.relsFrom a := by
  rw [hs.mem_relsFrom, Leaves, ha]
  simp [hr]

/-- Steps in both directions go along the relationships at a node to their other ends. -/
lemma incident_undirected (a : NodeId) : s.incident a .undirected =
    ((s.relsAt a).filterMap s.rel?).map fun r => (r, r.otherEnd a) := by
  have hout : ((s.relsFrom a).filterMap s.rel?).map (fun r => (r, r.target)) =
      ((s.relsFrom a).filterMap s.rel?).map fun r => (r, r.otherEnd a) := by
    refine List.map_congr_left fun r hr => ?_
    obtain ⟨i, hi, hr⟩ := List.mem_filterMap.1 hr
    obtain ⟨q, hq, ha⟩ := hs.mem_relsFrom.1 hi
    obtain rfl := Option.some.inj (hr.symm.trans hq)
    rw [Relationship.otherEnd, if_pos ha]
  -- what comes in and is no loop has not been listed yet
  have hkept : ((s.relsTo a).filterMap s.rel?).filter (fun r => r.source ≠ r.target) =
      ((s.relsTo a).filter (· ∉ s.relsFrom a)).filterMap s.rel? := by
    rw [List.filter_filterMap, List.filterMap_filter]
    refine List.filterMap_congr fun i hi => ?_
    obtain ⟨r, hr, ha⟩ := hs.mem_relsTo.1 hi
    rw [hr, Option.filter_some]
    simp [hs.loop_iff hr ha]
  have hinto : (((s.relsTo a).filterMap s.rel?).map fun r => (r, r.source)).filter
        (fun e => e.1.source ≠ e.1.target) =
      (((s.relsTo a).filter (· ∉ s.relsFrom a)).filterMap s.rel?).map
        fun r => (r, r.otherEnd a) := by
    rw [List.filter_map, ← hkept]
    refine List.map_congr_left fun r hr => ?_
    obtain ⟨hr, hloop⟩ := List.mem_filter.1 hr
    obtain ⟨i, hi, hr⟩ := List.mem_filterMap.1 hr
    obtain ⟨q, hq, ha⟩ := hs.mem_relsTo.1 hi
    obtain rfl := Option.some.inj (hr.symm.trans hq)
    have hne : r.source ≠ a := fun h => of_decide_eq_true hloop (h.trans ha.symm)
    rw [Relationship.otherEnd, if_neg hne]
  rw [incident, relsAt, List.filterMap_append, List.map_append, ← hout, ← hinto]

end Sound

/-! ### Deletions -/

lemma deleteNode_plain {a : NodeId} (ha : (s.node? a).isSome) : (s.deleteNode a false).1 =
    if 0 < (s.relsAt a).length then .error (.hasRelationships a (s.relsAt a).length)
    else .ok (some 0) := by
  obtain ⟨n, hn⟩ := Option.isSome_iff_exists.1 ha
  rw [deleteNode, hn]
  cases s.relsAt a with
  | nil => rfl
  | cons i is => rfl

/-- What is left of the entities when a node goes with all that touches it. -/
lemma Loses.entities_of_node (hs : Sound s) {a : NodeId} (h : s.Loses {a} (s.touching {a}) t) :
    t.nodes = Dict.erase s.nodes a ∧
      t.rels = s.rels.filter fun e => !e.2.touches a := by
  constructor
  · refine Dict.ext_get? h.sound.nodes (hs.nodes.erase a) fun i => (h.node? i).trans ?_
    rw [Dict.get?_erase]
    simp only [Finset.mem_singleton, eq_comm]
    rfl
  · refine Dict.ext_get? h.sound.rels (hs.rels.filter _) fun i => (h.rel? i).trans ?_
    rw [Dict.get?_filter_values hs.rels fun r => !r.touches a]
    change _ = (s.rel? i).filter _
    cases hr : s.rel? i with
    | none => simp
    | some r =>
      have htouches : i ∈ s.touching {a} ↔ r.touches a := by
        rw [mem_touching, Relationship.touches_iff]
        simp [hr]
      rw [Option.filter_some]
      cases hr : r.touches a with
      | true => simp [htouches, hr]
      | false => simp [htouches, hr]

/-- **All that counts or lists the relationships at a node agrees.** Whatever has been called
before, let `d` be how many of the relationships that are stored start or end at a node that there is. Then
`d` is its degree; steps in both directions go along each of them once, to its other end; without
`detach` the deletion of the node is refused, with the number `d`, if `d` is not 0, and only then;
and with it, it gives `d` and takes out the node and these relationships, and nothing else. -/
theorem incidence_run (history : List Call) {a : NodeId}
    (ha : ((run history {}).node? a).isSome) :
    let s := run history {}
    let d := (s.relsTouching a).length
    s.degree a = d ∧
      (s.incident a .undirected).Perm ((s.relsTouching a).map fun r => (r, r.otherEnd a)) ∧
      (s.deleteNode a false).1 =
        (if 0 < d then .error (.hasRelationships a d) else .ok (some 0)) ∧
      ∃ t, s.deleteNode a true = (.ok (some d), t) ∧ Sound t ∧
        t.nodes = Dict.erase s.nodes a ∧
        (t.rels = s.rels.filter fun e => !e.2.touches a) ∧
        t.constraints = s.constraints ∧ t.indexes = s.indexes ∧
        t.nextNode = s.nextNode ∧ t.nextRel = s.nextRel := by
  intro s d
  have hs : Sound s := (lawful_empty.run history).sound
  have hd : d = (s.relsAt a).length := hs.length_relsTouching a
  refine ⟨(hs.degree_eq a).trans hd.symm, ?_, ?_, ?_⟩
  · rw [hs.incident_undirected]
    exact (hs.perm_relsTouching a).map _
  · rw [hd]
    exact deleteNode_plain ha
  · have hdel := deletion_deleteNode hs a true
    rcases hrun : s.deleteNode a true with ⟨x, t⟩
    rw [hrun] at hdel
    cases hdel with
    | absent hn => simp [s, hn] at ha
    | gone _ _ hl =>
      obtain ⟨hnodes, hrels⟩ := hl.entities_of_node hs
      refine ⟨t, ?_, hl.sound, hnodes, hrels, hl.constraints, hl.indexes, hl.nextNode, hl.nextRel⟩
      rw [hd, hs.length_relsAt]
    | refused _ hdetach => cases hdetach

/-- A node with a loop, and with relationships in both directions, one of which is gone again. -/
theorem incidence_run_loop :
    let history : List Call := [.createNode [] [], .createNode [] [], .createRel "L" 0 0 [],
      .createRel "R" 0 1 [], .createRel "R" 1 0 [], .createRel "R" 0 1 [], .deleteRel 3,
      .createRel "L" 1 1 []]
    let s := run history {}
    (s.node? 0).isSome ∧ s.degree 0 = 3 ∧
      (s.deleteNode 0 false).1 = .error (.hasRelationships 0 3) ∧
      ∃ t, s.deleteNode 0 true = (.ok (some 3), t) ∧ Dict.keys t.rels = [4] := by
  intro history s
  have h : (s.node? 0).isSome := by decide
  have hd : (s.relsTouching 0).length = 3 := by decide
  obtain ⟨hdegree, -, hplain, t, ht, -, -, hrels, -⟩ := incidence_run history h
  rw [hd] at hdegree hplain ht
  refine ⟨h, hdegree, hplain, t, ht, ?_⟩
  rw [hrels]
  decide

end Store

end PropertyGraph
