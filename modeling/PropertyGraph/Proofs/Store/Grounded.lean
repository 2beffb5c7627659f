import Mathlib.Algebra.Order.BigOperators.Group.List
import PropertyGraph.Proofs.Store.Modest

/-!
Graphs in which an entity refers to older ones only.

Properties can mention entities, and nothing checks that they do not lead in a circle. They do not
since an entity is given its references when it is created: what they mention has an id by then,
and ids are not used twice. The ages are given by a rank, as nodes and relationships are counted
apart. What a rollback puts back was there before, so it refers to older entities as well.
-/

namespace PropertyGraph

namespace Store

variable {s : Store}

/-- The entities whose ids have been handed out. -/
def Knows (s : Store) : Entity → Prop
  | .node i => i < s.nextNode
  | .rel i => i < s.nextRel

/-- All that can be seen of a graph is among some entities: its own, and those that its properties
mention. -/
structure Among (K : Entity → Prop) (s : Store) : Prop where
  sound : s.Sound
  node : ∀ {i n}, s.node? i = some n → K (.node i) ∧ Dict.Among K n.properties
  rel : ∀ {i r}, s.rel? i = some r → K (.rel i) ∧ Dict.Among K r.properties

/-- A value mentions known entities only, and none that does not rank below an entity. -/
def Below (s : Store) (rank : Entity → Nat) (x : Entity) (v : Value) : Prop :=
  v.Among fun y => s.Knows y ∧ rank y < rank x

/-- Every entity refers to older ones only. -/
structure Grounded (s : Store) : Prop where
  lawful : s.Lawful
  ranked : ∃ rank, s.Holding (s.Below rank)

/-! ### Known entities -/

lemma Lawful.knows_call (hs : s.Lawful) (c : Call) : s.Knows ≤ (c.run s).Knows := by
  have hle := counters_le_call hs.sound c
  rintro (i | i) hi
  · exact Nat.lt_of_lt_of_le hi hle.1
  · exact Nat.lt_of_lt_of_le hi hle.2

lemma Grounded.among (hs : s.Grounded) : s.Among s.Knows := by
  obtain ⟨rank, hr⟩ := hs.ranked
  have hbelow {x : Entity} {v : Value} (hv : s.Below rank x v) : v.Among s.Knows :=
    hv.mono fun _ hy => hy.1
  exact ⟨hs.lawful.sound,
    fun hn => ⟨hs.lawful.sound.node_lt hn, (hr.node hn).properties.imp fun _ => hbelow⟩,
    fun hr' => ⟨hs.lawful.sound.rel_lt hr', (hr.rel hr').properties.imp fun _ => hbelow⟩⟩

/-! ### Ranks -/

/-- A condition can be replaced by a weaker one. -/
lemma Holding.imp {P Q : Entity → Value → Prop} (h : s.Holding P) (hs : s.Sound)
    (hPQ : ∀ x v, P x v → Q x v) : s.Holding Q where
  nodes e he := by
    have hid : e.2.id = e.1 := hs.node_id (Dict.get?_of_mem hs.nodes he)
    exact ⟨by rw [hid], (h.nodes e he).properties.imp (hPQ _)⟩
  rels e he := by
    have hid : e.2.id = e.1 := hs.rel_id (Dict.get?_of_mem hs.rels he)
    exact ⟨by rw [hid], (h.rels e he).properties.imp (hPQ _)⟩
  journal c hc := by
    have h := h.journal c hc
    cases c with
    | deleteNode n => exact Dict.Every.imp h (hPQ _)
    | deleteRel r => exact Dict.Every.imp h (hPQ _)
    | setNodeProperty i k old => exact fun v hv => hPQ _ v (h v hv)
    | setRelProperty i k old => exact fun v hv => hPQ _ v (h v hv)
    | _ => trivial

/-- An entity that is not known can be ranked above others, and the known ones keep their ranks. -/
lemma exists_rank (rank : Entity → Nat) {x : Entity} (hx : ¬ s.Knows x) (older : List Entity) :
    ∃ rank' : Entity → Nat, (∀ y, s.Knows y → rank' y = rank y) ∧ (∀ y, rank y ≤ rank' y) ∧
      ∀ y ∈ older, rank y < rank' x := by
  let top := rank x + (older.map rank).sum + 1
  refine ⟨fun y => if y = x then top else rank y, fun y hy => ?_, fun y => ?_, fun y hy => ?_⟩
  · exact if_neg (by rintro rfl; exact hx hy)
  · dsimp only
    split_ifs with h
    · subst h
      omega
    · exact le_rfl
  · have := List.le_sum_of_mem (List.mem_map_of_mem (f := rank) hy)
    simp only [if_true, top]
    omega

/-- **A new entity may refer to all that is known**: the graph stays as it has to be under another
rank, for which what the new entity gets is in order. -/
lemma Grounded.exists_ranked (hs : s.Grounded) {x : Entity} (hx : ¬ s.Knows x) {ps : Properties}
    (hps : Dict.Among s.Knows ps) {t : Store} (ht : s.Knows ≤ t.Knows) :
    ∃ rank, s.Holding (t.Below rank) ∧ Dict.Every (t.Below rank x) ps := by
  obtain ⟨rank, hr⟩ := hs.ranked
  obtain ⟨rank', hsame, hle, hnew⟩ := exists_rank rank hx (Value.map ps).entities
  refine ⟨rank', hr.imp hs.lawful.sound fun y v hv => hv.mono fun z hz => ?_, fun e he z hz => ?_⟩
  · exact ⟨ht z hz.1, by rw [hsame z hz.1]; exact hz.2.trans_le (hle y)⟩
  · have hknown := hps e he z hz
    have hall : (Value.map ps).Among (· ∈ (Value.map ps).entities) := fun _ h => h
    have hmem : z ∈ (Value.map ps).entities := Value.among_map.1 hall e he z hz
    exact ⟨ht z hknown, by rw [hsame z hknown]; exact hnew z hmem⟩

/-! ### What keeps graphs grounded -/

lemma grounded_empty : Grounded {} := ⟨lawful_empty, fun _ => 0, holding_empty⟩

namespace Grounded

variable (hs : s.Grounded)
include hs

lemma commit : s.commit.Grounded :=
  ⟨hs.lawful.commit, hs.ranked.imp fun _ h => h.commit⟩

lemma rollbackTo (m : Nat) : (s.rollbackTo m).Grounded := by
  obtain ⟨rank, h⟩ := hs.ranked
  refine ⟨hs.lawful.rollbackTo m, rank, (h.rollbackTo m).imp (hs.lawful.rollbackTo m).sound ?_⟩
  exact fun x v hv => hv.mono fun y hy => ⟨hs.lawful.knows_call (.rollbackTo m) y hy.1, hy.2⟩

/-- **Modest calls** bring no references in. -/
lemma call {c : Call} (hc : c.Modest) : (c.run s).Grounded := by
  obtain ⟨rank, h⟩ := hs.ranked
  refine ⟨hs.lawful.call c, rank, (h.call (fun _ _ hv => hv.among) hc).imp
    (hs.lawful.call c).sound ?_⟩
  exact fun x v hv => hv.mono fun y hy => ⟨hs.lawful.knows_call c y hy.1, hy.2⟩

/-- **A new node** may refer to all that is known. -/
theorem createNode (labels : List String) {ps : Properties} (hps : Dict.Among s.Knows ps) :
    (s.createNode labels ps).2.Grounded := by
  have hx : ¬ s.Knows (.node s.nextNode) := Nat.lt_irrefl _
  obtain ⟨rank, h, hnew⟩ :=
    hs.exists_ranked hx hps (hs.lawful.knows_call (.createNode labels ps))
  exact ⟨hs.lawful.call (.createNode labels ps), rank, h.createNode labels hnew⟩

/-- **A new relationship** may refer to all that is known. -/
theorem createRel (type : String) (a b : NodeId) {ps : Properties}
    (hps : Dict.Among s.Knows ps) : (s.createRel type a b ps).2.Grounded := by
  have hx : ¬ s.Knows (.rel s.nextRel) := Nat.lt_irrefl _
  obtain ⟨rank, h, hnew⟩ :=
    hs.exists_ranked hx hps (hs.lawful.knows_call (.createRel type a b ps))
  exact ⟨hs.lawful.call (.createRel type a b ps), rank, h.createRel type a b hnew⟩

end Grounded

lemma tended_grounded : Tended Grounded := fun _ _ hc hs => hs.call hc

end Store

end PropertyGraph
