import Mathlib.Data.Finset.Card
import PropertyGraph.Proofs.Store.Grounded
import PropertyGraph.Render

/-!
Rendering follows references from entity to entity, as deep as they go, and ends.

There is no bound on the depth in what rendering is to give: a form of entities that is made from
itself by looking up every reference. In a grounded graph there is exactly one such form. It is
found with as many look-ups as there are entities, as those on a chain of references differ.
-/

namespace PropertyGraph

/-- A reference to an entity. -/
def Entity.value : Entity → Value
  | node i => .node i
  | rel i => .rel i

namespace Store

/-- The properties that are stored with an entity, if it is there. -/
def propertiesOf? (s : Store) : Entity → Option Properties
  | .node i => (s.node? i).map Node.properties
  | .rel i => (s.rel? i).map Relationship.properties

/-- A stored property of an entity mentions another one, at any depth. -/
def Refers (s : Store) (x y : Entity) : Prop :=
  ∃ ps ∈ s.propertiesOf? x, ∃ e ∈ ps, y ∈ e.2.entities

/-- What has to be rendered to render a value. -/
inductive Calls (s : Store) : Value → Value → Prop
  | item {xs : List Value} {x : Value} (h : x ∈ xs) : Calls s (.list xs) x
  | entry {es : List (String × Value)} {e : String × Value} (h : e ∈ es) : Calls s (.map es) e.2
  | node {i : NodeId} {n : Node} (h : s.node? i = some n) : Calls s (.node i) (.map n.properties)
  | rel {i : RelId} {r : Relationship} (h : s.rel? i = some r) :
      Calls s (.rel i) (.map r.properties)
  | pathNode {p : Path} {i : NodeId} (h : i ∈ p.nodes) : Calls s (.path p) (.node i)
  | pathRel {p : Path} {i : RelId} (h : i ∈ p.rels) : Calls s (.path p) (.rel i)

end Store

namespace EntityForm

/-- How a reference to an entity is written. -/
def write (f : EntityForm) : Entity → Json
  | .node i => f.node i
  | .rel i => f.rel i

lemma ext_write {f g : EntityForm} (h : ∀ x, f.write x = g.write x) : f = g := by
  obtain ⟨fnode, frel⟩ := f
  obtain ⟨gnode, grel⟩ := g
  congr 1
  · exact funext fun i => h (.node i)
  · exact funext fun i => h (.rel i)

/-- What a graph holds under the references, with those inside of it written as they are. -/
def lookUp (s : Store) (f : EntityForm) : EntityForm where
  node i := match s.node? i with
    | some n => nodeForm i n.labels (Value.entriesJson f n.properties)
    | none => bare.node i
  rel i := match s.rel? i with
    | some r => relForm i [("type", .str r.type), ("start", .ofNat r.source),
        ("end", .ofNat r.target)] (Value.entriesJson f r.properties)
    | none => bare.rel i

lemma ofStore_succ (s : Store) (depth : Nat) :
    ofStore s (depth + 1) = lookUp s (ofStore s depth) := rfl

end EntityForm

namespace Value

variable {f g : EntityForm}

mutual

/-- Values are written alike if the entities that they mention are. -/
lemma json_congr {v : Value} (h : v.Among fun x => f.write x = g.write x) :
    v.json f = v.json g := by
  match v with
  | .null | .bool _ | .num _ | .str _ => rfl
  | .node i => exact among_node.1 h
  | .rel i => exact among_rel.1 h
  | .path p =>
    obtain ⟨hnodes, hrels⟩ := among_path.1 h
    have hn : p.nodes.map f.node = p.nodes.map g.node := List.map_congr_left hnodes
    have hr : p.rels.map f.rel = p.rels.map g.rel := List.map_congr_left hrels
    simp only [json, hn, hr]
  | .list xs => simp only [json, itemsJson_congr (among_list.1 h)]
  | .map es => simp only [json, entriesJson_congr (among_map.1 h)]

lemma itemsJson_congr {xs : List Value} (h : ∀ x ∈ xs, x.Among fun x => f.write x = g.write x) :
    itemsJson f xs = itemsJson g xs := by
  match xs with
  | [] => rfl
  | x :: xs =>
    rw [List.forall_mem_cons] at h
    simp only [itemsJson, json_congr h.1, itemsJson_congr h.2]

lemma entriesJson_congr {es : List (String × Value)}
    (h : Dict.Among (fun x => f.write x = g.write x) es) : entriesJson f es = entriesJson g es := by
  match es with
  | [] => rfl
  | (_, _) :: es =>
    have h := List.forall_mem_cons.1 h
    simp only [entriesJson, json_congr h.1, entriesJson_congr h.2]

end

end Value

namespace Store

variable {s : Store} {f g : EntityForm}

/-! ### Looking up -/

/-- What is looked up for an entity only depends on the entities it refers to. -/
lemma lookUp_congr {x : Entity} (h : ∀ y, s.Refers x y → f.write y = g.write y) :
    (EntityForm.lookUp s f).write x = (EntityForm.lookUp s g).write x := by
  have hprops {ps : Properties} (hps : ps ∈ s.propertiesOf? x) :
      Value.entriesJson f ps = Value.entriesJson g ps :=
    Value.entriesJson_congr fun e he y hy => h y ⟨ps, hps, e, he, hy⟩
  cases x with
  | node i =>
    cases hn : s.node? i with
    | none => simp only [EntityForm.write, EntityForm.lookUp, hn]
    | some n =>
      simp only [EntityForm.write, EntityForm.lookUp, hn]
      rw [hprops (by simp [propertiesOf?, hn])]
  | rel i =>
    cases hr : s.rel? i with
    | none => simp only [EntityForm.write, EntityForm.lookUp, hr]
    | some r =>
      simp only [EntityForm.write, EntityForm.lookUp, hr]
      rw [hprops (by simp [propertiesOf?, hr])]

/-- The entities that a graph holds. -/
def entities (s : Store) : List Entity := s.nodes.keys.map .node ++ s.rels.keys.map .rel

lemma length_entities (s : Store) : s.entities.length = s.nodes.length + s.rels.length := by
  simp [entities, Dict.keys]

/-- An entity that is gone is written as such. -/
lemma lookUp_of_not_mem {x : Entity} (hx : x ∉ s.entities) (f : EntityForm) :
    (EntityForm.lookUp s f).write x = EntityForm.bare.write x := by
  cases x with
  | node i =>
    have hn : s.node? i = none := by
      by_contra h
      obtain ⟨n, hn⟩ := Option.ne_none_iff_exists'.1 h
      exact hx (List.mem_append_left _ (List.mem_map_of_mem
        (List.mem_map_of_mem (Dict.mem_of_get? hn))))
    simp only [EntityForm.write, EntityForm.lookUp, hn]
  | rel i =>
    have hr : s.rel? i = none := by
      by_contra h
      obtain ⟨r, hr⟩ := Option.ne_none_iff_exists'.1 h
      exact hx (List.mem_append_right _ (List.mem_map_of_mem
        (List.mem_map_of_mem (Dict.mem_of_get? hr))))
    simp only [EntityForm.write, EntityForm.lookUp, hr]

/-! ### References -/

/-- A rank that references descend. -/
def Descends (s : Store) (rank : Entity → Nat) : Prop := ∀ x y, s.Refers x y → rank y < rank x

lemma Grounded.descends (hs : s.Grounded) : ∃ rank, s.Descends rank := by
  obtain ⟨rank, hr⟩ := hs.ranked
  refine ⟨rank, ?_⟩
  rintro (i | i) y ⟨ps, hps, e, he, hy⟩
  · obtain ⟨n, hn, rfl⟩ := Option.map_eq_some_iff.1 hps
    exact ((hr.node hn).properties e he y hy).2
  · obtain ⟨r, hr', rfl⟩ := Option.map_eq_some_iff.1 hps
    exact ((hr.rel hr').properties e he y hy).2

/-- **References end** in a grounded graph. -/
theorem Grounded.wellFounded_refers (hs : s.Grounded) : WellFounded fun y x => s.Refers x y := by
  obtain ⟨rank, hr⟩ := hs.descends
  exact Subrelation.wf (fun {y x} h => hr x y h) (measure rank).wf

/-- The entities of a graph that rank below one. -/
def countBelow (s : Store) (rank : Entity → Nat) (x : Entity) : Nat :=
  (s.entities.toFinset.filter fun y => rank y < rank x).card

lemma countBelow_le (s : Store) (rank : Entity → Nat) (x : Entity) :
    s.countBelow rank x ≤ s.nodes.length + s.rels.length :=
  (Finset.card_filter_le _ _).trans (s.length_entities ▸ List.toFinset_card_le _)

lemma countBelow_lt {rank : Entity → Nat} {x y : Entity} (hy : y ∈ s.entities)
    (h : rank y < rank x) : s.countBelow rank y < s.countBelow rank x := by
  refine Finset.card_lt_card ⟨fun z hz => ?_, fun hsub => ?_⟩
  · rw [Finset.mem_filter] at hz ⊢
    exact ⟨hz.1, hz.2.trans h⟩
  · have hmem := hsub (Finset.mem_filter.2 ⟨List.mem_toFinset.2 hy, h⟩)
    exact Nat.lt_irrefl _ (Finset.mem_filter.1 hmem).2

/-- Once there are as many look-ups as entities below, one more makes no difference. -/
lemma write_ofStore_succ {rank : Entity → Nat} (hr : s.Descends rank) {depth : Nat} {x : Entity}
    (h : s.countBelow rank x ≤ depth) :
    (EntityForm.ofStore s (depth + 1)).write x = (EntityForm.ofStore s (depth + 2)).write x := by
  induction depth generalizing x with
  | zero =>
    refine lookUp_congr fun y hy => ?_
    have hgone : y ∉ s.entities := fun hmem => by
      have := countBelow_lt hmem (hr x y hy)
      omega
    rw [EntityForm.ofStore_succ, lookUp_of_not_mem hgone]
    rfl
  | succ depth ih =>
    refine lookUp_congr fun y hy => ?_
    by_cases hmem : y ∈ s.entities
    · have := countBelow_lt hmem (hr x y hy)
      exact ih (by omega)
    · rw [EntityForm.ofStore_succ, EntityForm.ofStore_succ, lookUp_of_not_mem hmem,
        lookUp_of_not_mem hmem]

namespace Grounded

variable (hs : s.Grounded)
include hs

/-- **Entities are written with every reference looked up**, however deep, and there is no other
form of which this can be said. -/
theorem lookUp_eq_iff {f : EntityForm} : EntityForm.lookUp s f = f ↔ f = s.entityForm := by
  obtain ⟨rank, hr⟩ := hs.descends
  have hform : EntityForm.lookUp s s.entityForm = s.entityForm :=
    EntityForm.ext_write fun x => (write_ofStore_succ hr (countBelow_le s rank x)).symm
  refine ⟨fun h => EntityForm.ext_write fun x => ?_, fun h => h ▸ hform⟩
  induction x using hs.wellFounded_refers.induction with
  | h x ih =>
    rw [← h, ← hform]
    exact lookUp_congr ih

omit hs in
mutual

/-- Rendering a value ends if it does for the entities that the value mentions. -/
lemma acc_calls {v : Value}
    (h : v.Among fun x => Acc (fun w v => s.Calls v w) x.value) :
    Acc (fun w v => s.Calls v w) v := by
  match v with
  | .null | .bool _ | .num _ | .str _ => exact .intro _ fun _ hw => nomatch hw
  | .node i => exact Value.among_node.1 h
  | .rel i => exact Value.among_rel.1 h
  | .path p =>
    obtain ⟨hnodes, hrels⟩ := Value.among_path.1 h
    refine .intro _ fun w hw => ?_
    cases hw with
    | pathNode hi => exact hnodes _ hi
    | pathRel hi => exact hrels _ hi
  | .list xs =>
    refine .intro _ fun w hw => ?_
    cases hw with
    | item hx => exact acc_calls_of_items (Value.among_list.1 h) w hx
  | .map es =>
    refine .intro _ fun w hw => ?_
    cases hw with
    | entry he => exact acc_calls_of_entries (Value.among_map.1 h) _ he

lemma acc_calls_of_items {xs : List Value}
    (h : ∀ x ∈ xs, x.Among fun x => Acc (fun w v => s.Calls v w) x.value) :
    ∀ x ∈ xs, Acc (fun w v => s.Calls v w) x := by
  match xs with
  | [] => exact nofun
  | x :: xs =>
    rw [List.forall_mem_cons] at h ⊢
    exact ⟨acc_calls h.1, acc_calls_of_items h.2⟩

lemma acc_calls_of_entries {es : List (String × Value)}
    (h : Dict.Among (fun x => Acc (fun w v => s.Calls v w) x.value) es) :
    ∀ e ∈ es, Acc (fun w v => s.Calls v w) e.2 := by
  match es with
  | [] => exact nofun
  | (_, _) :: es =>
    have h := List.forall_mem_cons.1 h
    exact List.forall_mem_cons.2 ⟨acc_calls h.1, acc_calls_of_entries h.2⟩

end

/-- **Rendering ends** for every value. -/
theorem wellFounded_calls : WellFounded fun w v => s.Calls v w := by
  have hentity (x : Entity) : Acc (fun w v => s.Calls v w) x.value := by
    induction x using hs.wellFounded_refers.induction with
    | h x ih =>
      refine .intro _ fun w hw => ?_
      have hmap {ps : Properties} (hps : ps ∈ s.propertiesOf? x) :
          Acc (fun w v => s.Calls v w) (.map ps) :=
        acc_calls (Value.among_map.2 fun e he y hy => ih y ⟨ps, hps, e, he, hy⟩)
      cases x with
      | node i =>
        cases hw with
        | node hn => exact hmap (by simp [propertiesOf?, hn])
      | rel i =>
        cases hw with
        | rel hr => exact hmap (by simp [propertiesOf?, hr])
  exact .intro fun v => acc_calls fun x _ => hentity x

end Grounded

end Store

end PropertyGraph
