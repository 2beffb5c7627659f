import PropertyGraph.Proofs.Matching.Walk
import PropertyGraph.Proofs.Query.Made
import PropertyGraph.Proofs.Store.Operation
import PropertyGraph.Query.Create

/-!
What creating a pattern has done, if it succeeded: for each element whether it was bound before or
is new, and for the hops one relationship after the other.
-/

namespace PropertyGraph

namespace Query

open Cypher

variable {c : Context} {row row' : Row} {d d' : Draft}

/-! ### Properties -/

/-- The properties that a part of a pattern gives to a new element. -/
inductive NewProperties (c : Context) (s : Store) (row : Row) : Option Meaning → Properties → Prop
  | absent : NewProperties c s row none []
  | null {m : Meaning} (h : m.value (c.on s) row = .ok .null) : NewProperties c s row (some m) []
  | map {m : Meaning} {ps : Properties} (h : m.value (c.on s) row = .ok (.map ps)) :
      NewProperties c s row (some m) ps

lemma newProperties_eq_ok {part : Option Meaning} {ps : Properties}
    (h : ExceptT.run (newProperties c part row) d = (.ok ps, d')) :
    d' = d ∧ NewProperties c d.store row part ps := by
  obtain ⟨v, u, hv, hps⟩ := run_bind_eq_ok.1 h
  rw [Edit.run_reading] at hv
  obtain ⟨hv, rfl⟩ := Prod.mk.inj hv
  cases part with
  | none =>
    cases hv
    cases hps
    exact ⟨rfl, .absent⟩
  | some m =>
    cases hm : m.value (c.on d.store) row with
    | error e =>
      rw [Meaning.value] at hm
      rw [Meaning.value?, hm] at hv
      cases hv
    | ok w =>
      rw [Meaning.value] at hm
      rw [Meaning.value?, hm] at hv
      cases hv
      cases w with
      | null =>
        cases hps
        exact ⟨rfl, .null hm⟩
      | map es =>
        cases hps
        exact ⟨rfl, .map hm⟩
      | _ => cases hps

/-! ### Elements -/

/-- The node of a pattern was bound before, or is new. -/
inductive NodeCreation (c : Context) (p : NodePattern Meaning) (row : Row) (d : Draft) :
    NodeId → Row → Draft → Prop
  | bound {id : NodeId} (hrow : row.bound? p.name = some (.node id)) (hl : p.labels = [])
      (hp : p.properties = none) : NodeCreation c p row d id row d
  | new {id : NodeId} {ps : Properties} {d' : Draft} (hrow : row.bound? p.name = none)
      (hps : NewProperties c d.store row p.properties ps)
      (h : Store.createNode p.labels ps d.store = (.ok id, d'.store)) :
      NodeCreation c p row d id (row.bind p.name (.node id)) d'

lemma createNode_eq_ok {p : NodePattern Meaning} {id : NodeId}
    (h : ExceptT.run (createNode c p row) d = (.ok (id, row'), d')) :
    NodeCreation c p row d id row' d' := by
  unfold createNode at h
  split at h
  next j hrow =>
    split_ifs at h with hp
    · cases h
      simp only [Bool.and_eq_true, List.isEmpty_iff, Option.isNone_iff_eq_none] at hp
      exact .bound hrow hp.1 hp.2
    · cases h
  · cases h
  next hrow =>
    obtain ⟨ps, u, hps, h₁⟩ := run_bind_eq_ok.1 h
    obtain ⟨rfl, hps⟩ := newProperties_eq_ok hps
    obtain ⟨i, u', hi, h₂⟩ := run_bind_eq_ok.1 h₁
    obtain ⟨hi, -⟩ := Edit.run_store_eq_ok hi
    obtain ⟨_, u'', hcount, h₃⟩ := run_bind_eq_ok.1 h₂
    cases hcount
    cases h₃
    exact .new hrow hps hi

/-- The relationship of a hop is new, and goes between the nodes on its two sides. -/
inductive HopCreation (c : Context) (h : Hop Meaning) (near : NodeId) (row : Row) (d : Draft) :
    NodeId → Row → Draft → Prop
  | mk {type : String} {i : RelId} {far source target : NodeId} {row₁ : Row} {ps : Properties}
      {d₁ d₂ : Draft} (hlength : h.rel.length = none) (htype : h.rel.types = [type])
      (hrow : row.bound? h.rel.name = none) (hnode : NodeCreation c h.node row d far row₁ d₁)
      (hjoins : ∀ r : Relationship, r.source = source → r.target = target →
        r.Joins h.rel.direction near far)
      (hps : NewProperties c d₁.store row₁ h.rel.properties ps)
      (hrel : Store.createRel type source target ps d₁.store = (.ok i, d₂.store)) :
      HopCreation c h near row d far (row₁.bind h.rel.name (.rel i)) d₂

lemma createEnds_eq_ok {dir : Direction} {near far source target : NodeId}
    (h : ExceptT.run (createEnds dir near far) d = (.ok (source, target), d')) :
    d' = d ∧ ∀ r : Relationship, r.source = source → r.target = target → r.Joins dir near far := by
  cases dir with
  | outgoing =>
    cases h
    exact ⟨rfl, fun r hs ht => ⟨hs, ht⟩⟩
  | incoming =>
    cases h
    exact ⟨rfl, fun r hs ht => ⟨ht, hs⟩⟩
  | undirected => cases h

lemma createType_eq_ok {p : RelPattern Meaning} {type : String}
    (h : ExceptT.run (createType p) d = (.ok type, d')) :
    d' = d ∧ p.length = none ∧ p.types = [type] := by
  unfold createType at h
  split at h
  · cases h
  next hlength htypes =>
    cases h
    exact ⟨rfl, hlength, htypes⟩
  · cases h

/-- The runs within a hop that is created. -/
lemma exists_of_createHop {h : Hop Meaning} {near far : NodeId} {i : RelId}
    (hrun : ExceptT.run (createHop c h near row) d = (.ok ((i, far), row'), d')) :
    ∃ type source target ps row₁ d₁, h.rel.length = none ∧ h.rel.types = [type] ∧
      row.bound? h.rel.name = none ∧
      ExceptT.run (createNode c h.node row) d = (.ok (far, row₁), d₁) ∧
      (∀ r : Relationship, r.source = source → r.target = target →
        r.Joins h.rel.direction near far) ∧
      NewProperties c d₁.store row₁ h.rel.properties ps ∧
      Store.createRel type source target ps d₁.store = (.ok i, d'.store) ∧
      row' = row₁.bind h.rel.name (.rel i) := by
  obtain ⟨type, u, htype, h₁⟩ := run_bind_eq_ok.1 hrun
  obtain ⟨rfl, hlength, htypes⟩ := createType_eq_ok htype
  dsimp only at h₁
  split at h₁
  · cases h₁
  next hbound =>
    have hrow : row.bound? h.rel.name = none := by
      cases hn : h.rel.name with
      | none => rfl
      | some n =>
        refine Option.eq_none_iff_forall_ne_some.2 fun v hv => ?_
        exact hbound n v hn (by rwa [hn])
    obtain ⟨⟨far', row₁⟩, d₁, hnode, h₂⟩ := run_bind_eq_ok.1 h₁
    obtain ⟨⟨source, target⟩, u₁, hends, h₃⟩ := run_bind_eq_ok.1 h₂
    obtain ⟨rfl, hjoins⟩ := createEnds_eq_ok hends
    obtain ⟨ps, u₂, hps, h₄⟩ := run_bind_eq_ok.1 h₃
    obtain ⟨rfl, hps⟩ := newProperties_eq_ok hps
    obtain ⟨j, u₃, hrel, h₅⟩ := run_bind_eq_ok.1 h₄
    obtain ⟨hrel, -⟩ := Edit.run_store_eq_ok hrel
    obtain ⟨_, u₄, hcount, h₆⟩ := run_bind_eq_ok.1 h₅
    cases hcount
    cases h₆
    exact ⟨type, source, target, ps, row₁, _, hlength, htypes, hrow, hnode, hjoins, hps, hrel, rfl⟩

lemma createHop_eq_ok {h : Hop Meaning} {near far : NodeId} {i : RelId}
    (hrun : ExceptT.run (createHop c h near row) d = (.ok ((i, far), row'), d')) :
    HopCreation c h near row d far row' d' := by
  obtain ⟨_, _, _, _, _, _, hlength, htypes, hrow, hnode, hjoins, hps, hrel, rfl⟩ :=
    exists_of_createHop hrun
  exact .mk hlength htypes hrow (createNode_eq_ok hnode) hjoins hps hrel

/-! ### Patterns -/

/-- Hops are created one after the other. -/
inductive HopsCreation (c : Context) :
    List (Hop Meaning) → NodeId → Row → Draft → Row → Draft → Prop
  | nil {near : NodeId} {row : Row} {d : Draft} : HopsCreation c [] near row d row d
  | cons {h : Hop Meaning} {hs : List (Hop Meaning)} {near far : NodeId} {row row₁ row' : Row}
      {d d₁ d' : Draft} (hh : HopCreation c h near row d far row₁ d₁)
      (hhs : HopsCreation c hs far row₁ d₁ row' d') :
      HopsCreation c (h :: hs) near row d row' d'

/-- The runs within some hops that are created. -/
lemma exists_of_createHops_cons {h : Hop Meaning} {hs : List (Hop Meaning)} {near : NodeId}
    {w : Walk} (hrun : ExceptT.run (createHops c (h :: hs) near row) d = (.ok (w, row'), d')) :
    ∃ i far walk row₁ d₁, w = (i, far) :: walk ∧
      ExceptT.run (createHop c h near row) d = (.ok ((i, far), row₁), d₁) ∧
      ExceptT.run (createHops c hs far row₁) d₁ = (.ok (walk, row'), d') := by
  obtain ⟨⟨⟨i, far⟩, row₁⟩, d₁, hhop, h₁⟩ := run_bind_eq_ok.1 hrun
  obtain ⟨⟨walk, row₂⟩, d₂, hhops, h₂⟩ := run_bind_eq_ok.1 h₁
  cases h₂
  exact ⟨i, far, walk, row₁, d₁, rfl, hhop, hhops⟩

lemma createHops_eq_ok {hs : List (Hop Meaning)} {near : NodeId} {w : Walk}
    (h : ExceptT.run (createHops c hs near row) d = (.ok (w, row'), d')) :
    HopsCreation c hs near row d row' d' := by
  induction hs generalizing near row d w with
  | nil =>
    cases h
    exact .nil
  | cons hop hs ih =>
    obtain ⟨_, _, _, _, _, -, hhop, hhops⟩ := exists_of_createHops_cons h
    exact .cons (createHop_eq_ok hhop) (ih hhops)

/-- **What creating a pattern has done**: its first node, and then its hops from there. -/
theorem createPath_eq_ok {p : PathPattern Meaning}
    (h : ExceptT.run (createPath c p row) d = (.ok row', d')) :
    ∃ start row₁ d₁ row₂, NodeCreation c p.start row d start row₁ d₁ ∧
      HopsCreation c p.hops start row₁ d₁ row₂ d' := by
  obtain ⟨⟨start, row₁⟩, d₁, hstart, h₁⟩ := run_bind_eq_ok.1 h
  obtain ⟨⟨walk, row₂⟩, d₂, hhops, h₂⟩ := run_bind_eq_ok.1 h₁
  cases h₂
  exact ⟨start, row₁, d₁, row₂, createNode_eq_ok hstart, createHops_eq_ok hhops⟩

end Query

end PropertyGraph
