import Mathlib.Data.List.InsertIdx
import Mathlib.Logic.Relation
import PropertyGraph.Proofs.Store.Linking

/-!
Steps of a store: the single recorded changes, each under what the operations check before
they make it.

A step keeps a store sound, and undoing what it recorded gives back the store before it, but
for the counters and the journal. Whatever an operation does is a sequence of steps, so what
holds of steps holds of all operations, refused ones included.
-/

namespace PropertyGraph

namespace Store

/-- Whether a rule stands in the way of another one: it has its name or is on the same. -/
def inTheWay (rule r : Rule) : Bool :=
  r.name = rule.name || (r.label = rule.label && r.property = rule.property)

inductive Step (s : Store) : Store → Prop
  | createNode {labels : List String} {ps : Properties} (hl : labels.Nodup) (hp : WellFormed ps)
      (hv : s.violation? labels ps none = none) :
      Step s (({ s with nextNode := s.nextNode + 1 }.linkNode ⟨s.nextNode, labels, ps⟩).record
        (.createNode s.nextNode))
  | createRel {type : String} {a b : NodeId} {ps : Properties} (hp : WellFormed ps)
      (ha : (s.node? a).isSome) (hb : (s.node? b).isSome) :
      Step s (({ s with nextRel := s.nextRel + 1 }.linkRel ⟨s.nextRel, type, a, b, ps⟩).record
        (.createRel s.nextRel))
  | setNodeProperty {i : NodeId} {n : Node} {k : String} {v : Option Value}
      (hn : s.node? i = some n) (h₀ : v ≠ some .null)
      (hv : ∀ w, v = some w → s.violation? n.labels [(k, w)] (some i) = none) :
      Step s ((s.mapNode i fun n => { n with properties := restore n.properties k v }).record
        (.setNodeProperty i k (Dict.get? n.properties k)))
  | setRelProperty {i : RelId} {r : Relationship} {k : String} {v : Option Value}
      (hr : s.rel? i = some r) (h₀ : v ≠ some .null) :
      Step s ((s.mapRel i fun r => { r with properties := restore r.properties k v }).record
        (.setRelProperty i k (Dict.get? r.properties k)))
  | addLabel {i : NodeId} {n : Node} {l : String} (hn : s.node? i = some n) (hl : l ∉ n.labels)
      (hv : s.violation? [l] n.properties (some i) = none) :
      Step s (((s.mapNode i fun n => { n with labels := n.labels ++ [l] }).indexLabel i l).record
        (.addLabel i l))
  | removeLabel {i : NodeId} {n : Node} {l : String} {p : Nat} (hn : s.node? i = some n)
      (hp : n.labels.idxOf? l = some p) :
      Step s (((s.mapNode i fun n => { n with labels := n.labels.eraseIdx p }).unindexLabel i
        l).record (.removeLabel i l p))
  | deleteRel {i : RelId} {r : Relationship} (hr : s.rel? i = some r) :
      Step s ((s.unlinkRel r).record (.deleteRel r))
  | deleteNode {i : NodeId} {n : Node} (hn : s.node? i = some n)
      (hfree : s.relsFrom i = [] ∧ s.relsTo i = []) :
      Step s ((s.unlinkNode n).record (.deleteNode n))
  | createRule {kind : RuleKind} {rule : Rule} (h : (s.rules kind).find? (inTheWay rule) = none)
      (hd : kind = .constraint → s.duplicate? rule.label rule.property = none) :
      Step s ((s.withRules kind (s.rules kind ++ [rule])).record (.createRule kind rule.name))
  | dropRule {kind : RuleKind} {name : String} {rule : Rule}
      (h : (s.rules kind).find? (·.name = name) = some rule) :
      Step s ((s.withRules kind ((s.rules kind).eraseIdx
        ((s.rules kind).findIdx (·.name = name)))).record
          (.dropRule kind rule ((s.rules kind).findIdx (·.name = name))))

abbrev Steps : Store → Store → Prop := Relation.ReflTransGen Step

variable {s t : Store}

/-! ### Counters and journal -/

lemma undo_reframe (s : Store) (c : Change) (n r : Nat) (j : List Change) :
    (s.reframe n r j).undo c = (s.undo c).reframe n r j := by
  cases c with
  | createNode i =>
    have hn : (s.reframe n r j).node? i = s.node? i := rfl
    rw [undo, undo, hn]
    cases s.node? i with
    | none => rfl
    | some m => simp only [unlinkNode_eq]; rfl
  | createRel i =>
    have hr : (s.reframe n r j).rel? i = s.rel? i := rfl
    rw [undo, undo, hr]
    cases s.rel? i with
    | none => rfl
    | some q => rfl
  | deleteNode m => simp only [undo, linkNode_eq]; rfl
  | removeLabel i l p =>
    have hn : (s.reframe n r j).node? i = s.node? i := rfl
    rw [undo, undo, hn]
    split_ifs <;> rfl
  | createRule k name => cases k <;> rfl
  | dropRule k rule p => cases k <;> rfl
  | _ => rfl

/-- Undoing leaves the counters and the journal alone. -/
lemma undo_eq_reframe (s : Store) (c : Change) :
    s.undo c = (s.undo c).reframe s.nextNode s.nextRel s.journal :=
  undo_reframe s c s.nextNode s.nextRel s.journal

lemma undo_record {c : Change} (h : t.undo c = s) :
    (t.record c).undo c = s.reframe t.nextNode t.nextRel (c :: t.journal) := by
  rw [← h]
  exact undo_reframe t c t.nextNode t.nextRel (c :: t.journal)

/-! ### Single changes and their inverses -/

lemma insertUpTo_eraseIdx {α : Type} {xs : List α} {p : Nat} (h : p < xs.length) :
    insertUpTo p xs[p] (xs.eraseIdx p) = xs := by
  have hp : min p (xs.eraseIdx p).length = p := by rw [List.length_eraseIdx]; split_ifs; omega
  rw [insertUpTo, hp, List.insertIdx_eraseIdx_getElem h]

section

variable (hs : Sound s)
include hs

lemma Sound.setNodeProperty {i : NodeId} {n : Node} (hn : s.node? i = some n) {v : Option Value}
    (h₀ : v ≠ some .null) (k : String) :
    let t := s.mapNode i fun n => { n with properties := restore n.properties k v }
    Sound t ∧ t.undo (.setNodeProperty i k (Dict.get? n.properties k)) = s := by
  have hf : Node.Sound { n with properties := restore n.properties k v } :=
    ⟨(hs.node hn).labels, (hs.node hn).properties.restore h₀ k⟩
  have hd := hs.labelled.congr (relabelled_self hn)
  let f (n : Node) : Node := { n with properties := restore n.properties k v }
  let g (m : Node) : Node :=
    { m with properties := restore m.properties k (Dict.get? n.properties k) }
  have hid : n.id = i := hs.node_id hn
  refine ⟨hs.mapNode (f := f) hn hid hf hd, ?_⟩
  refine mapNode_mapNode (f := f) (g := g) hs hn hid hf ?_ hd hs.labelled
  change Node.mk n.id n.labels (restore _ k _) = n
  rw [restore_restore (hs.node hn).properties.ascending]

lemma Sound.setRelProperty {i : RelId} {r : Relationship} (hr : s.rel? i = some r)
    {v : Option Value} (h₀ : v ≠ some .null) (k : String) :
    let t := s.mapRel i fun r => { r with properties := restore r.properties k v }
    Sound t ∧ t.undo (.setRelProperty i k (Dict.get? r.properties k)) = s := by
  have hw := (hs.rel hr).restore h₀ k
  refine ⟨hs.mapRel hr rfl hw, mapRel_mapRel hs hr rfl hw ?_⟩
  rw [restore_restore (hs.rel hr).ascending]

lemma Sound.addLabel {i : NodeId} {n : Node} (hn : s.node? i = some n) {l : String}
    (hl : l ∉ n.labels) :
    let t := (s.mapNode i fun n => { n with labels := n.labels ++ [l] }).indexLabel i l
    Sound t ∧ t.undo (.addLabel i l) = s := by
  have hf : Node.Sound { n with labels := n.labels ++ [l] } := by
    refine ⟨List.nodup_append.2 ⟨(hs.node hn).labels, by simp, ?_⟩, (hs.node hn).properties⟩
    rintro m hm _ hml rfl
    exact hl (by simpa [List.mem_singleton.1 hml] using hm)
  have hd : Dict.Lists _ (s.Relabelled i (n.labels ++ [l])) :=
    (hs.labelled.add i l).congr fun j m => by
      rw [relabelled_self hn, Relabelled, Relabelled]
      split_ifs with hj
      · simp [hj, eq_comm]
      · simp [Ne.symm hj]
  let f (n : Node) : Node := { n with labels := n.labels ++ [l] }
  have hid : n.id = i := hs.node_id hn
  refine ⟨hs.mapNode (f := f) hn hid hf hd,
    mapNode_mapNode (f := f) hs hn hid hf ?_ hd ?_⟩
  · have : (n.labels ++ [l]).filter (· ≠ l) = n.labels := by
      have hne (m : String) (hm : m ∈ n.labels) : m ≠ l := fun h => hl (h ▸ hm)
      rw [List.filter_append, List.filter_eq_self.2 (by simpa using hne)]
      simp
    change Node.mk n.id ((n.labels ++ [l]).filter (· ≠ l)) n.properties = n
    rw [this]
  · refine (hd.remove i l).congr fun j m => ?_
    rw [relabelled_self hn, Relabelled, Relabelled]
    split_ifs with hj
    · subst hj
      rw [List.mem_append, List.mem_singleton]
      refine ⟨fun h => h.1.resolve_right fun hm => h.2 ⟨rfl, hm.symm⟩, fun h => ⟨.inl h, ?_⟩⟩
      rintro ⟨-, rfl⟩
      exact hl h
    · simp [Ne.symm hj]

lemma Sound.removeLabel {i : NodeId} {n : Node} (hn : s.node? i = some n) {l : String} {p : Nat}
    (hp : n.labels.idxOf? l = some p) :
    let t := (s.mapNode i fun n => { n with labels := n.labels.eraseIdx p }).unindexLabel i l
    Sound t ∧ t.undo (.removeLabel i l p) = s := by
  obtain ⟨hlt, hget⟩ : ∃ h : p < n.labels.length, n.labels[p] = l := by
    obtain ⟨h, hl, -⟩ := List.idxOf?_eq_some_iff.1 hp
    exact ⟨h, by simpa using hl⟩
  have hmem : l ∈ n.labels := hget ▸ List.getElem_mem hlt
  have hf : Node.Sound { n with labels := n.labels.eraseIdx p } :=
    ⟨(hs.node hn).labels.sublist (List.eraseIdx_sublist ..), (hs.node hn).properties⟩
  have herase (m : String) : m ∈ n.labels.eraseIdx p ↔ m ∈ n.labels ∧ l ≠ m := by
    have : n.labels.eraseIdx p = n.labels.erase l := by
      rw [List.erase_eq_eraseIdx, hp]
    rw [this, (hs.node hn).labels.mem_erase_iff]
    tauto
  have hd : Dict.Lists _ (s.Relabelled i (n.labels.eraseIdx p)) :=
    (hs.labelled.remove i l).congr fun j m => by
      rw [relabelled_self hn, Relabelled, Relabelled]
      split_ifs with hj
      · rw [herase]; simp [hj]
      · simp [Ne.symm hj]
  let f (n : Node) : Node := { n with labels := n.labels.eraseIdx p }
  have hid : n.id = i := hs.node_id hn
  have hsome : ((s.mapNode i f).node? i).isSome := by rw [node?_mapNode, if_pos rfl, hn]; rfl
  refine ⟨hs.mapNode (f := f) hn hid hf hd, ?_⟩
  refine (if_pos hsome).trans (mapNode_mapNode (f := f) hs hn hid hf ?_ hd ?_)
  · change Node.mk n.id (insertUpTo p l (n.labels.eraseIdx p)) n.properties = n
    rw [← hget, insertUpTo_eraseIdx hlt]
  · refine (hd.add i l).congr fun j m => ?_
    rw [relabelled_self hn, Relabelled, Relabelled]
    split_ifs with hj
    · subst hj
      rw [herase]
      by_cases hm : l = m
      · simp [← hm, hmem]
      · simp [hm]
    · simp [Ne.symm hj]

end

@[simp] lemma rules_withRules (s : Store) (k : RuleKind) (rs : List Rule) :
    (s.withRules k rs).rules k = rs := by cases k <;> rfl

@[simp] lemma withRules_withRules (s : Store) (k : RuleKind) (rs qs : List Rule) :
    (s.withRules k rs).withRules k qs = s.withRules k qs := by cases k <;> rfl

@[simp] lemma withRules_rules (s : Store) (k : RuleKind) : s.withRules k (s.rules k) = s := by
  cases k <;> rfl

lemma undo_createRule {k : RuleKind} {rule : Rule}
    (h : (s.rules k).find? (inTheWay rule) = none) :
    (s.withRules k (s.rules k ++ [rule])).undo (.createRule k rule.name) = s := by
  have hname (r : Rule) (hr : r ∈ s.rules k) : r.name ≠ rule.name := fun he => by
    have := List.find?_eq_none.1 h r hr
    simp [inTheWay, he] at this
  rw [undo, rules_withRules, withRules_withRules, List.filter_append,
    List.filter_eq_self.2 (by simpa using hname)]
  simp

lemma undo_dropRule {k : RuleKind} {name : String} {rule : Rule}
    (h : (s.rules k).find? (·.name = name) = some rule) :
    (s.withRules k ((s.rules k).eraseIdx ((s.rules k).findIdx (·.name = name)))).undo
      (.dropRule k rule ((s.rules k).findIdx (·.name = name))) = s := by
  obtain ⟨hlt, hget⟩ : ∃ hlt : (s.rules k).findIdx (·.name = name) < (s.rules k).length,
      (s.rules k)[(s.rules k).findIdx (·.name = name)] = rule := by
    obtain ⟨hlt, hget⟩ := List.getElem?_eq_some_iff.1 (List.find?_eq_getElem?_findIdx ▸ h)
    exact ⟨hlt, hget⟩
  rw [undo, rules_withRules, withRules_withRules, ← hget, insertUpTo_eraseIdx hlt, withRules_rules]

/-! ### Steps -/

/-- What a step is: a sound store over the one before, with one more change in its journal, and
undoing that change is going back. -/
structure Undoable (s t : Store) : Prop where
  sound : Sound t
  nextNode_le : s.nextNode ≤ t.nextNode
  nextRel_le : s.nextRel ≤ t.nextRel
  undo : ∃ c, t.journal = c :: s.journal ∧ t.undo c = s.reframe t.nextNode t.nextRel t.journal

lemma undoable_record {u : Store} {c : Change} {n r : Nat} (hu : Sound u)
    (hc : u.undo c = s.reframe n r s.journal) (hn : s.nextNode ≤ n) (hr : s.nextRel ≤ r) :
    Undoable s (u.record c) := by
  have hframe := (undo_eq_reframe u c).symm.trans hc
  have hnode : u.nextNode = n := congrArg Store.nextNode hframe
  have hrel : u.nextRel = r := congrArg Store.nextRel hframe
  have hj : u.journal = s.journal := by simpa [reframe] using congrArg Store.journal hframe
  refine ⟨hu.reframe le_rfl le_rfl _, hnode ▸ hn, hrel ▸ hr, c, congrArg (c :: ·) hj, ?_⟩
  rw [undo_record hc]
  rfl

/-- **A step keeps a store sound, and what it records undoes it.** -/
theorem Step.undoable (hs : Sound s) (h : Step s t) : Undoable s t := by
  have fresh {n r : Nat} (hn : s.nextNode ≤ n) (hr : s.nextRel ≤ r) :
      Sound (s.reframe n r s.journal) := hs.reframe hn hr _
  cases h with
  | @createNode ls ps hl hp hv =>
    have hn := fresh (Nat.le_succ s.nextNode) le_rfl
    have hnew : s.node? s.nextNode = none :=
      Option.eq_none_iff_forall_ne_some.2 fun n h => (hs.node_lt h).ne rfl
    have hlt : s.nextNode < (s.reframe (s.nextNode + 1) s.nextRel s.journal).nextNode :=
      Nat.lt_succ_self _
    refine undoable_record (hn.linkNode (n := ⟨s.nextNode, ls, ps⟩) ⟨hl, hp⟩ hlt hnew) ?_
      (Nat.le_succ _) le_rfl
    have := unlinkNode_linkNode hn (n := ⟨s.nextNode, ls, ps⟩) ⟨hl, hp⟩ hlt hnew
    rw [undo]
    refine Eq.trans ?_ this
    rw [show ({ s with nextNode := s.nextNode + 1 } : Store) = s.reframe _ _ _ from rfl,
      node?_linkNode, if_pos rfl]
  | @createRel type a b ps hp ha hb =>
    have hr := fresh le_rfl (Nat.le_succ s.nextRel)
    have hnew : s.rel? s.nextRel = none :=
      Option.eq_none_iff_forall_ne_some.2 fun r h => (hs.rel_lt h).ne rfl
    have hlt : s.nextRel < (s.reframe s.nextNode (s.nextRel + 1) s.journal).nextRel :=
      Nat.lt_succ_self _
    refine undoable_record
      (hr.linkRel (r := ⟨s.nextRel, type, a, b, ps⟩) hp hlt hnew ha hb) ?_ le_rfl (Nat.le_succ _)
    have := unlinkRel_linkRel hr (r := ⟨s.nextRel, type, a, b, ps⟩) hp hlt hnew ha hb
    rw [undo]
    refine Eq.trans ?_ this
    rw [show ({ s with nextRel := s.nextRel + 1 } : Store) = s.reframe _ _ _ from rfl,
      rel?_linkRel, if_pos rfl]
  | setNodeProperty hn h₀ hv =>
    obtain ⟨ht, hu⟩ := hs.setNodeProperty hn h₀ _
    exact undoable_record ht hu le_rfl le_rfl
  | setRelProperty hr h₀ =>
    obtain ⟨ht, hu⟩ := hs.setRelProperty hr h₀ _
    exact undoable_record ht hu le_rfl le_rfl
  | addLabel hn hl hv =>
    obtain ⟨ht, hu⟩ := hs.addLabel hn hl
    exact undoable_record ht hu le_rfl le_rfl
  | removeLabel hn hp =>
    obtain ⟨ht, hu⟩ := hs.removeLabel hn hp
    exact undoable_record ht hu le_rfl le_rfl
  | deleteRel hr =>
    obtain rfl := hs.rel_id hr
    exact undoable_record (hs.unlinkRel hr) (linkRel_unlinkRel hs hr) le_rfl le_rfl
  | deleteNode hn hfree =>
    obtain rfl := hs.node_id hn
    exact undoable_record (hs.unlinkNode hn hfree) (linkNode_unlinkNode hs hn hfree) le_rfl le_rfl
  | createRule h hd =>
    exact undoable_record (hs.withRules _ _) (undo_createRule h) le_rfl le_rfl
  | dropRule h => exact undoable_record (hs.withRules _ _) (undo_dropRule h) le_rfl le_rfl

lemma Steps.sound (h : Steps s t) (hs : Sound s) : Sound t := by
  induction h with
  | refl => exact hs
  | tail _ hstep ih => exact (hstep.undoable ih).sound

end Store

end PropertyGraph
