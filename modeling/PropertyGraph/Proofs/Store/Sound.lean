import PropertyGraph.Proofs.Dict
import PropertyGraph.Store.Update

/-!
What holds of the parts of a store: ids and keys agree, relationships end at nodes, and the
adjacency lists and the label lists list the relationships and nodes there are.

The three lists are maps that list a relation, so soundness says with `Dict.Lists` which. Two
sound stores with the same entities and rules therefore differ in counters and journal only,
and an operation with its inverse is compared on the entities alone.
-/

namespace PropertyGraph

attribute [ext] Store

/-- Properties as they are stored: a map, in which nothing is null. -/
structure WellFormed (properties : Properties) : Prop where
  ascending : Dict.Ascending properties
  not_null : ∀ k, Dict.get? properties k ≠ some .null

lemma wellFormed_withoutNulls (ps : Properties) : WellFormed (Store.withoutNulls ps) where
  ascending := Dict.ascending_ofList _
  not_null k h := by
    have := Dict.mem_ofList (Dict.mem_of_get? h)
    simp [Value.isNull] at this

lemma Store.get?_restore (ps : Properties) (k : String) (v : Option Value) (j : String) :
    Dict.get? (Store.restore ps k v) j = if k = j then v else Dict.get? ps j := by
  cases v with
  | none => exact Dict.get?_erase ..
  | some v => exact Dict.get?_insert ..

lemma Store.ascending_restore {ps : Properties} (h : Dict.Ascending ps) (k : String)
    (v : Option Value) : Dict.Ascending (Store.restore ps k v) := by
  cases v with
  | none => exact h.erase k
  | some v => exact h.insert k v

lemma WellFormed.restore {ps : Properties} (h : WellFormed ps) {v : Option Value}
    (hv : v ≠ some .null) (k : String) : WellFormed (Store.restore ps k v) where
  ascending := Store.ascending_restore h.ascending k v
  not_null j := by
    rw [Store.get?_restore]
    split_ifs
    · exact hv
    · exact h.not_null j

/-- What is stored for a node. -/
structure Node.Sound (n : Node) : Prop where
  labels : n.labels.Nodup
  properties : WellFormed n.properties

namespace Store

/-- Whether a node has a label, as the label lists have to say. -/
def HasLabel (s : Store) (i : NodeId) (l : String) : Prop := ∃ n, s.node? i = some n ∧ l ∈ n.labels

/-- Whether a relationship starts at a node, as the lists of outgoing ones have to say. -/
def Leaves (s : Store) (i : RelId) (a : NodeId) : Prop := ∃ r, s.rel? i = some r ∧ r.source = a

/-- Whether a relationship ends at a node. -/
def Enters (s : Store) (i : RelId) (b : NodeId) : Prop := ∃ r, s.rel? i = some r ∧ r.target = b

/-- The representation invariant. -/
structure Sound (s : Store) : Prop where
  nodes : Dict.Ascending s.nodes
  rels : Dict.Ascending s.rels
  node_id : ∀ {i n}, s.node? i = some n → n.id = i
  node_lt : ∀ {i n}, s.node? i = some n → i < s.nextNode
  node : ∀ {i n}, s.node? i = some n → n.Sound
  rel_id : ∀ {i r}, s.rel? i = some r → r.id = i
  rel_lt : ∀ {i r}, s.rel? i = some r → i < s.nextRel
  rel : ∀ {i r}, s.rel? i = some r → WellFormed r.properties
  source : ∀ {i r}, s.rel? i = some r → (s.node? r.source).isSome
  target : ∀ {i r}, s.rel? i = some r → (s.node? r.target).isSome
  outgoing : Dict.Lists s.outgoing s.Leaves
  incoming : Dict.Lists s.incoming s.Enters
  labelled : Dict.Lists s.labelled s.HasLabel

/-- The same graph with other counters and another journal. -/
def reframe (s : Store) (nextNode : NodeId) (nextRel : RelId) (journal : List Change) : Store :=
  { s with nextNode, nextRel, journal }

lemma sound_empty : Sound {} where
  nodes := Dict.ascending_nil
  rels := Dict.ascending_nil
  node_id h := by simp [node?] at h
  node_lt h := by simp [node?] at h
  node h := by simp [node?] at h
  rel_id h := by simp [rel?] at h
  rel_lt h := by simp [rel?] at h
  rel h := by simp [rel?] at h
  source h := by simp [rel?] at h
  target h := by simp [rel?] at h
  outgoing := .nil (by simp [Leaves, rel?])
  incoming := .nil (by simp [Enters, rel?])
  labelled := .nil (by simp [HasLabel, node?])

namespace Sound

variable {s t : Store} (hs : Sound s)
include hs

/-- Sound stores are compared by their entities, rules, counters and journals. -/
theorem ext (ht : Sound t) (hn : s.nodes = t.nodes) (hr : s.rels = t.rels)
    (hc : s.constraints = t.constraints) (hi : s.indexes = t.indexes)
    (hnn : s.nextNode = t.nextNode) (hnr : s.nextRel = t.nextRel) (hj : s.journal = t.journal) :
    s = t := by
  have hleaves : s.Leaves = t.Leaves := by funext i a; simp only [Leaves, rel?, hr]
  have henters : s.Enters = t.Enters := by funext i a; simp only [Enters, rel?, hr]
  have hlabel : s.HasLabel = t.HasLabel := by funext i a; simp only [HasLabel, node?, hn]
  exact Store.ext hn hr (hs.outgoing.ext (hleaves ▸ ht.outgoing))
    (hs.incoming.ext (henters ▸ ht.incoming)) (hs.labelled.ext (hlabel ▸ ht.labelled)) hc hi hnn hnr
    hj

lemma reframe {n r : Nat} (hn : s.nextNode ≤ n) (hr : s.nextRel ≤ r) (j : List Change) :
    Sound (s.reframe n r j) :=
  { hs with
    node_lt := fun h => (hs.node_lt h).trans_le hn
    rel_lt := fun h => (hs.rel_lt h).trans_le hr }

lemma withRules (k : RuleKind) (rs : List Rule) : Sound (s.withRules k rs) := by
  cases k with
  | constraint => exact { hs with }
  | index => exact { hs with }

lemma mem_relsFrom {a : NodeId} {i : RelId} : i ∈ s.relsFrom a ↔ s.Leaves i a := hs.outgoing.mem

lemma mem_relsTo {b : NodeId} {i : RelId} : i ∈ s.relsTo b ↔ s.Enters i b := hs.incoming.mem

lemma mem_nodesWith {l : String} {i : NodeId} : i ∈ s.nodesWith l ↔ s.HasLabel i l :=
  hs.labelled.mem

/-- There are no relationships at what is not a node. -/
lemma relsAt_eq_nil {a : NodeId} (ha : s.node? a = none) : s.relsFrom a = [] ∧ s.relsTo a = [] := by
  constructor
  · refine List.eq_nil_iff_forall_not_mem.2 fun i hi => ?_
    obtain ⟨r, hr, rfl⟩ := hs.mem_relsFrom.1 hi
    simpa [ha] using hs.source hr
  · refine List.eq_nil_iff_forall_not_mem.2 fun i hi => ?_
    obtain ⟨r, hr, rfl⟩ := hs.mem_relsTo.1 hi
    simpa [ha] using hs.target hr

end Sound

end Store

end PropertyGraph
