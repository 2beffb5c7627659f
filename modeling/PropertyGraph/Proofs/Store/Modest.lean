import PropertyGraph.Proofs.Store.Holding
import PropertyGraph.Proofs.Store.Run

/-!
Stores whose properties hold no entities. Every operation that is given plain values leaves a plain
store, and so does going back to any mark.

Calls that create no entity, and store no value that mentions one, bring no reference into a graph,
so they keep more than calls do in general.
-/

namespace PropertyGraph

/-- What undoing a change puts back is plain. -/
def Change.Plain : Change → Prop
  | .deleteNode n => Dict.Plain n.properties
  | .deleteRel r => Dict.Plain r.properties
  | .setNodeProperty _ _ old | .setRelProperty _ _ old => ∀ v ∈ old, v.Plain
  | _ => True

lemma Dict.mem_values_of_get? {κ α : Type} [DecidableEq κ] {d : Dict κ α} {k : κ} {x : α}
    (h : get? d k = some x) : x ∈ values d :=
  List.mem_map.2 ⟨_, mem_of_get? h, rfl⟩

namespace Store

/-- No property holds an entity, and none that a rollback puts back. -/
structure Plain (s : Store) : Prop where
  nodes : ∀ n ∈ Dict.values s.nodes, Dict.Plain n.properties
  rels : ∀ r ∈ Dict.values s.rels, Dict.Plain r.properties
  journal : ∀ c ∈ s.journal, c.Plain

/-- Being plain is a condition that is the same for all entities. -/
lemma plain_iff {s : Store} : s.Plain ↔ s.Holding fun _ v => v.Plain := by
  have hchange (c : Change) : c.Plain ↔ c.Holding fun _ v => v.Plain := by cases c <;> rfl
  constructor
  · intro h
    exact ⟨fun e he => ⟨rfl, h.nodes e.2 (List.mem_map_of_mem he)⟩,
      fun e he => ⟨rfl, h.rels e.2 (List.mem_map_of_mem he)⟩,
      fun c hc => (hchange c).1 (h.journal c hc)⟩
  · intro h
    refine ⟨fun n hn => ?_, fun r hr => ?_, fun c hc => (hchange c).2 (h.journal c hc)⟩
    · obtain ⟨e, he, rfl⟩ := List.mem_map.1 hn
      exact (h.nodes e he).properties
    · obtain ⟨e, he, rfl⟩ := List.mem_map.1 hr
      exact (h.rels e he).properties

lemma plain_empty : Plain {} := plain_iff.2 holding_empty

namespace Plain

variable {s : Store} (h : s.Plain)
include h

lemma commit : s.commit.Plain := plain_iff.2 (plain_iff.1 h).commit

/-- **Going back to a mark leaves a plain store.** -/
theorem rollbackTo (m : Nat) : (s.rollbackTo m).Plain := plain_iff.2 ((plain_iff.1 h).rollbackTo m)

lemma createNode (labels : List String) {ps : Properties} (hps : Dict.Plain ps) :
    (s.createNode labels ps).2.Plain :=
  plain_iff.2 ((plain_iff.1 h).createNode labels hps)

lemma createRel (type : String) (a b : NodeId) {ps : Properties} (hps : Dict.Plain ps) :
    (s.createRel type a b ps).2.Plain :=
  plain_iff.2 ((plain_iff.1 h).createRel type a b hps)

end Plain

end Store

/-! ### Modest calls -/

namespace Store

/-- A call that creates no entity, and stores no value that mentions one. -/
def Call.Modest : Call → Prop
  | createNode .. | createRel .. | commit | rollbackTo _ => False
  | setNodeProperty _ _ v | setRelProperty _ _ v => v.Plain
  | _ => True

/-- A property of graphs that modest calls keep. -/
def Tended (I : Store → Prop) : Prop := ∀ s (c : Call), c.Modest → I s → I (c.run s)

lemma Holding.call {P : Entity → Value → Prop} (hP : ∀ x v, v.Plain → P x v) {s : Store}
    (hs : s.Holding P) {c : Call} (hc : c.Modest) : (c.run s).Holding P := by
  cases c with
  | createNode | createRel | commit | rollbackTo => exact hc.elim
  | setNodeProperty i k v => exact hs.setNodeProperty i k (hP _ v hc)
  | removeNodeProperty i k => exact hs.removeNodeProperty i k
  | setRelProperty i k v => exact hs.setRelProperty i k (hP _ v hc)
  | removeRelProperty i k => exact hs.removeRelProperty i k
  | addLabel i l => exact hs.addLabel i l
  | removeLabel i l => exact hs.removeLabel i l
  | deleteRel i => exact hs.deleteRel i
  | deleteNode i detach => exact hs.deleteNode i detach
  | createRule k rule => exact hs.createRule k rule
  | dropRule k name => exact hs.dropRule k name

lemma tended_plain : Tended Plain := fun _ _ hc hs =>
  plain_iff.2 ((plain_iff.1 hs).call (fun _ _ h => h) hc)

end Store

end PropertyGraph
