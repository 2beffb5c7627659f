import PropertyGraph.Proofs.Store.Linking
import PropertyGraph.Proofs.Value.Mention
import PropertyGraph.Store.Update

/-!
Stores whose properties meet a condition, which may depend on the entity that has them.

Undoing puts back what the journal has, so what the journal has must meet it too. Then every
operation that is given values that meet it leaves such a store, and so does going back to any
mark.
-/

namespace PropertyGraph

namespace Dict

variable {κ α : Type} [DecidableEq κ] {P : κ × α → Prop} {d : Dict κ α} {k : κ}

lemma forall_mem_erase (h : ∀ e ∈ d, P e) : ∀ e ∈ erase d k, P e :=
  fun e he => h e (List.mem_of_mem_filter he)

lemma forall_mem_modify (h : ∀ e ∈ d, P e) {f : α → α} (hf : ∀ x, P (k, x) → P (k, f x)) :
    ∀ e ∈ modify d k f, P e := by
  intro e he
  obtain ⟨e', he', rfl⟩ := List.mem_map.1 he
  split_ifs with hk
  · subst hk
    exact hf _ (h e' he')
  · exact h e' he'

lemma forall_mem_insert [LT κ] [DecidableLT κ] (h : ∀ e ∈ d, P e) {x : α} (hx : P (k, x)) :
    ∀ e ∈ insert d k x, P e := by
  intro e he
  rcases mem_insert he with rfl | he
  · exact hx
  · exact h e he

end Dict

variable (P : Entity → Value → Prop)

/-- The properties of a node meet a condition, which does not tell its id from its key. -/
structure Node.Holding (i : NodeId) (n : Node) : Prop where
  id : P (.node n.id) = P (.node i)
  properties : Dict.Every (P (.node i)) n.properties

structure Relationship.Holding (i : RelId) (r : Relationship) : Prop where
  id : P (.rel r.id) = P (.rel i)
  properties : Dict.Every (P (.rel i)) r.properties

/-- What undoing a change puts back meets a condition. -/
def Change.Holding : Change → Prop
  | .deleteNode n => Dict.Every (P (.node n.id)) n.properties
  | .deleteRel r => Dict.Every (P (.rel r.id)) r.properties
  | .setNodeProperty i _ old => ∀ v ∈ old, P (.node i) v
  | .setRelProperty i _ old => ∀ v ∈ old, P (.rel i) v
  | _ => True

namespace Store

/-- All properties meet a condition, and all that a rollback puts back. -/
structure Holding (s : Store) : Prop where
  nodes : ∀ e ∈ s.nodes, e.2.Holding P e.1
  rels : ∀ e ∈ s.rels, e.2.Holding P e.1
  journal : ∀ c ∈ s.journal, c.Holding P

variable {P} {Q : Entity → Value → Prop} {x : Entity}

lemma holding_empty : Holding P {} := ⟨nofun, nofun, nofun⟩

lemma every_withoutNulls {ps : Properties} (h : Dict.Every (P x) ps) :
    Dict.Every (P x) (withoutNulls ps) :=
  (h.filter _).ofList

lemma every_restore {ps : Properties} (h : Dict.Every (P x) ps) (k : String) {v : Option Value}
    (hv : ∀ w ∈ v, P x w) : Dict.Every (P x) (restore ps k v) := by
  cases v with
  | none => exact h.erase k
  | some w => exact h.insert k (hv w rfl)

namespace Holding

variable {s : Store} (h : s.Holding P)
include h

lemma node {i : NodeId} {n : Node} (hn : s.node? i = some n) : n.Holding P i :=
  h.nodes (i, n) (Dict.mem_of_get? hn)

lemma rel {i : RelId} {r : Relationship} (hr : s.rel? i = some r) : r.Holding P i :=
  h.rels (i, r) (Dict.mem_of_get? hr)

/-! ### Single changes -/

lemma record {c : Change} (hc : c.Holding P) : (s.record c).Holding P :=
  ⟨h.nodes, h.rels, List.forall_mem_cons.2 ⟨hc, h.journal⟩⟩

lemma commit : s.commit.Holding P := ⟨h.nodes, h.rels, nofun⟩

lemma reframe (n r : Nat) {j : List Change} (hj : ∀ c ∈ j, c.Holding P) :
    (s.reframe n r j).Holding P :=
  ⟨h.nodes, h.rels, hj⟩

lemma withRules (k : RuleKind) (rs : List Rule) : (s.withRules k rs).Holding P := by
  cases k <;> exact ⟨h.nodes, h.rels, h.journal⟩

lemma indexLabel (i : NodeId) (l : String) : (s.indexLabel i l).Holding P :=
  ⟨h.nodes, h.rels, h.journal⟩

lemma unindexLabel (i : NodeId) (l : String) : (s.unindexLabel i l).Holding P :=
  ⟨h.nodes, h.rels, h.journal⟩

lemma linkNode {n : Node} (hn : Dict.Every (P (.node n.id)) n.properties) :
    (s.linkNode n).Holding P := by
  rw [linkNode_eq]
  exact ⟨Dict.forall_mem_insert h.nodes ⟨rfl, hn⟩, h.rels, h.journal⟩

lemma unlinkNode (n : Node) : (s.unlinkNode n).Holding P := by
  rw [unlinkNode_eq]
  exact ⟨Dict.forall_mem_erase h.nodes, h.rels, h.journal⟩

lemma linkRel {r : Relationship} (hr : Dict.Every (P (.rel r.id)) r.properties) :
    (s.linkRel r).Holding P :=
  ⟨h.nodes, Dict.forall_mem_insert h.rels ⟨rfl, hr⟩, h.journal⟩

lemma unlinkRel (r : Relationship) : (s.unlinkRel r).Holding P :=
  ⟨h.nodes, Dict.forall_mem_erase h.rels, h.journal⟩

lemma mapNode (i : NodeId) {f : Node → Node} (hf : ∀ n, n.Holding P i → (f n).Holding P i) :
    (s.mapNode i f).Holding P :=
  ⟨Dict.forall_mem_modify h.nodes hf, h.rels, h.journal⟩

lemma mapRel (i : RelId) {f : Relationship → Relationship}
    (hf : ∀ r, r.Holding P i → (f r).Holding P i) : (s.mapRel i f).Holding P :=
  ⟨h.nodes, Dict.forall_mem_modify h.rels hf, h.journal⟩

lemma relabel (i : NodeId) (f : Node → List String) :
    (s.mapNode i fun n => { n with labels := f n }).Holding P :=
  h.mapNode i fun _ hn => ⟨hn.id, hn.properties⟩

lemma resetNode (i : NodeId) {f : Properties → Properties}
    (hf : ∀ ps, Dict.Every (P (.node i)) ps → Dict.Every (P (.node i)) (f ps)) :
    (s.mapNode i fun n => { n with properties := f n.properties }).Holding P :=
  h.mapNode i fun _ hn => ⟨hn.id, hf _ hn.properties⟩

lemma resetRel (i : RelId) {f : Properties → Properties}
    (hf : ∀ ps, Dict.Every (P (.rel i)) ps → Dict.Every (P (.rel i)) (f ps)) :
    (s.mapRel i fun r => { r with properties := f r.properties }).Holding P :=
  h.mapRel i fun _ hr => ⟨hr.id, hf _ hr.properties⟩

/-! ### Undoing -/

lemma undo {c : Change} (hc : c.Holding P) : (s.undo c).Holding P := by
  cases c with
  | createNode i =>
    rw [Store.undo]
    cases s.node? i with
    | none => exact ⟨h.nodes, h.rels, h.journal⟩
    | some n => exact h.unlinkNode n
  | createRel i =>
    rw [Store.undo]
    cases s.rel? i with
    | none => exact h
    | some r => exact h.unlinkRel r
  | deleteNode n => exact h.linkNode hc
  | deleteRel r => exact h.linkRel hc
  | setNodeProperty i k old => exact h.resetNode i fun _ hps => every_restore hps k hc
  | setRelProperty i k old => exact h.resetRel i fun _ hps => every_restore hps k hc
  | addLabel i l => exact unindexLabel (h.relabel i _) i l
  | removeLabel i l p =>
    rw [Store.undo]
    split_ifs
    · exact indexLabel (h.relabel i _) i l
    · exact h
  | createRule k name => exact h.withRules k _
  | dropRule k rule p => exact h.withRules k _

/-- **Going back to a mark** leaves all properties as they have to be. -/
theorem rollbackTo (m : Nat) : (s.rollbackTo m).Holding P := by
  have hundo {cs : List Change} (hcs : ∀ c ∈ cs, c.Holding P) {t : Store} (ht : t.Holding P) :
      (cs.foldl Store.undo t).Holding P := by
    induction cs generalizing t with
    | nil => exact ht
    | cons c cs ih =>
      rw [List.forall_mem_cons] at hcs
      exact ih hcs.2 (ht.undo hcs.1)
  exact hundo (fun c hc => h.journal c (List.mem_of_mem_take hc))
    (h.reframe _ _ fun c hc => h.journal c (List.mem_of_mem_drop hc))

/-! ### Operations -/

lemma createNode (labels : List String) {ps : Properties}
    (hps : Dict.Every (P (.node s.nextNode)) ps) : (s.createNode labels ps).2.Holding P := by
  rw [Store.createNode]
  cases s.violation? labels.eraseDups (withoutNulls ps) none with
  | some e => exact h
  | none =>
    exact (linkNode (h.reframe _ s.nextRel h.journal) (every_withoutNulls hps)).record trivial

lemma createRel (type : String) (a b : NodeId) {ps : Properties}
    (hps : Dict.Every (P (.rel s.nextRel)) ps) : (s.createRel type a b ps).2.Holding P := by
  rw [Store.createRel]
  split_ifs
  · exact h
  · exact h
  · exact (linkRel (h.reframe s.nextNode _ h.journal) (every_withoutNulls hps)).record trivial

lemma removeNodeProperty (i : NodeId) (k : String) : (s.removeNodeProperty i k).2.Holding P := by
  rw [Store.removeNodeProperty]
  cases hn : s.node? i with
  | none => exact h
  | some n =>
    cases hk : Dict.get? n.properties k with
    | none => simp only [hk]; exact h
    | some old =>
      simp only [hk]
      refine (h.resetNode i fun _ hps => hps.erase k).record ?_
      rintro _ ⟨⟩
      exact (h.node hn).properties.get? hk

lemma setNodeProperty (i : NodeId) (k : String) {v : Value} (hv : P (.node i) v) :
    (s.setNodeProperty i k v).2.Holding P := by
  rw [Store.setNodeProperty]
  split_ifs
  · exact h.removeNodeProperty i k
  · cases hn : s.node? i with
    | none => exact h
    | some n =>
      cases hc : s.violation? n.labels [(k, v)] (some i) with
      | some e => simp only [hc]; exact h
      | none =>
        simp only [hc]
        exact (h.resetNode i fun _ hps => hps.insert k hv).record
          fun _ hw => (h.node hn).properties.get? hw

lemma removeRelProperty (i : RelId) (k : String) : (s.removeRelProperty i k).2.Holding P := by
  rw [Store.removeRelProperty]
  cases hr : s.rel? i with
  | none => exact h
  | some r =>
    cases hk : Dict.get? r.properties k with
    | none => simp only [hk]; exact h
    | some old =>
      simp only [hk]
      refine (h.resetRel i fun _ hps => hps.erase k).record ?_
      rintro _ ⟨⟩
      exact (h.rel hr).properties.get? hk

lemma setRelProperty (i : RelId) (k : String) {v : Value} (hv : P (.rel i) v) :
    (s.setRelProperty i k v).2.Holding P := by
  rw [Store.setRelProperty]
  split_ifs
  · exact h.removeRelProperty i k
  · cases hr : s.rel? i with
    | none => exact h
    | some r =>
      exact (h.resetRel i fun _ hps => hps.insert k hv).record
        fun _ hw => (h.rel hr).properties.get? hw

lemma addLabel (i : NodeId) (l : String) : (s.addLabel i l).2.Holding P := by
  rw [Store.addLabel]
  cases hn : s.node? i with
  | none => exact h
  | some n =>
    by_cases hl : l ∈ n.labels
    · simp only [hl, if_true]; exact h
    · simp only [hl, if_false]
      cases s.violation? [l] n.properties (some i) with
      | some e => exact h
      | none => exact record (indexLabel (h.relabel i _) i l) trivial

lemma removeLabel (i : NodeId) (l : String) : (s.removeLabel i l).2.Holding P := by
  rw [Store.removeLabel]
  cases hn : s.node? i with
  | none => exact h
  | some n =>
    cases hp : n.labels.idxOf? l with
    | none => simp only [hp]; exact h
    | some p =>
      simp only [hp]
      exact record (unindexLabel (h.relabel i _) i l) trivial

lemma deleteRel (i : RelId) : (s.deleteRel i).2.Holding P := by
  rw [Store.deleteRel]
  cases hr : s.rel? i with
  | none => exact h
  | some r =>
    refine (h.unlinkRel r).record ?_
    rw [Change.Holding, (h.rel hr).id]
    exact (h.rel hr).properties

lemma deleteNode (i : NodeId) (detach : Bool) : (s.deleteNode i detach).2.Holding P := by
  have hrels (is : List RelId) {t : Store} (ht : t.Holding P) :
      (is.foldl (fun t i => (t.deleteRel i).2) t).Holding P := by
    induction is generalizing t with
    | nil => exact ht
    | cons i is ih => exact ih (ht.deleteRel i)
  rw [Store.deleteNode]
  cases hn : s.node? i with
  | none => exact h
  | some n =>
    dsimp only
    split_ifs
    · exact h
    · refine ((hrels (s.relsAt i) h).unlinkNode n).record ?_
      rw [Change.Holding, (h.node hn).id]
      exact (h.node hn).properties

lemma createRule (k : RuleKind) (rule : Rule) : (s.createRule k rule).2.Holding P := by
  unfold Store.createRule
  dsimp only
  split
  · exact h
  · split
    · exact h
    · exact (h.withRules k _).record trivial

lemma dropRule (k : RuleKind) (name : String) : (s.dropRule k name).2.Holding P := by
  rw [Store.dropRule]
  cases (s.rules k).find? (·.name = name) with
  | none => exact h
  | some rule => exact (h.withRules k _).record trivial

end Holding

end Store

end PropertyGraph
