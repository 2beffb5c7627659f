import PropertyGraph.Proofs.Store.Sound

/-!
Putting entities into a store and taking them out, and replacing what is stored for one: each
keeps the store sound, and each is undone by its counterpart.
-/

namespace PropertyGraph

namespace Store

variable {s : Store}

lemma foldl_indexLabel (i : NodeId) (ls : List String) (s : Store) :
    ls.foldl (fun s l => s.indexLabel i l) s =
      { s with labelled := Dict.addUnder s.labelled i ls } := by
  induction ls generalizing s with
  | nil => rfl
  | cons l ls ih => rw [List.foldl_cons, ih]; rfl

lemma foldl_unindexLabel (i : NodeId) (ls : List String) (s : Store) :
    ls.foldl (fun s l => s.unindexLabel i l) s =
      { s with labelled := Dict.removeUnder s.labelled i ls } := by
  induction ls generalizing s with
  | nil => rfl
  | cons l ls ih => rw [List.foldl_cons, ih]; rfl

lemma linkNode_eq (s : Store) (n : Node) : s.linkNode n =
    { s with
      nodes := s.nodes.insert n.id n
      labelled := Dict.addUnder s.labelled n.id n.labels } :=
  foldl_indexLabel _ _ _

lemma unlinkNode_eq (s : Store) (n : Node) : s.unlinkNode n =
    { s with
      nodes := s.nodes.erase n.id
      outgoing := s.outgoing.erase n.id
      incoming := s.incoming.erase n.id
      labelled := Dict.removeUnder s.labelled n.id n.labels } :=
  foldl_unindexLabel _ _ _

@[simp] lemma node?_linkNode (s : Store) (n : Node) (i : NodeId) :
    (s.linkNode n).node? i = if n.id = i then some n else s.node? i := by
  rw [linkNode_eq]; exact Dict.get?_insert ..

@[simp] lemma node?_unlinkNode (s : Store) (n : Node) (i : NodeId) :
    (s.unlinkNode n).node? i = if n.id = i then none else s.node? i := by
  rw [unlinkNode_eq]; exact Dict.get?_erase ..

@[simp] lemma rel?_linkRel (s : Store) (r : Relationship) (i : RelId) :
    (s.linkRel r).rel? i = if r.id = i then some r else s.rel? i := Dict.get?_insert ..

@[simp] lemma rel?_unlinkRel (s : Store) (r : Relationship) (i : RelId) :
    (s.unlinkRel r).rel? i = if r.id = i then none else s.rel? i := Dict.get?_erase ..

@[simp] lemma node?_mapNode (s : Store) (f : Node → Node) (i j : NodeId) :
    (s.mapNode i f).node? j = if i = j then (s.node? j).map f else s.node? j := Dict.get?_modify ..

@[simp] lemma rel?_mapRel (s : Store) (f : Relationship → Relationship) (i j : RelId) :
    (s.mapRel i f).rel? j = if i = j then (s.rel? j).map f else s.rel? j := Dict.get?_modify ..

@[simp] lemma rel?_linkNode (s : Store) (n : Node) (i : RelId) :
    (s.linkNode n).rel? i = s.rel? i := by rw [linkNode_eq]; rfl

@[simp] lemma rel?_unlinkNode (s : Store) (n : Node) (i : RelId) :
    (s.unlinkNode n).rel? i = s.rel? i := by rw [unlinkNode_eq]; rfl

@[simp] lemma node?_linkRel (s : Store) (r : Relationship) (i : NodeId) :
    (s.linkRel r).node? i = s.node? i := rfl

@[simp] lemma node?_unlinkRel (s : Store) (r : Relationship) (i : NodeId) :
    (s.unlinkRel r).node? i = s.node? i := rfl

/-! ### Nodes -/

lemma Sound.linkNode (hs : Sound s) {n : Node} (hn : n.Sound) (hlt : n.id < s.nextNode)
    (hnew : s.node? n.id = none) : Sound (s.linkNode n) := by
  have hsome {i : NodeId} (h : (s.node? i).isSome) : ((s.linkNode n).node? i).isSome := by
    rw [node?_linkNode]
    split_ifs
    · rfl
    · exact h
  have hleaves : (s.linkNode n).Leaves = s.Leaves := by funext i a; simp [Leaves]
  have henters : (s.linkNode n).Enters = s.Enters := by funext i a; simp [Enters]
  have hlabel (i : NodeId) (l : String) :
      (s.linkNode n).HasLabel i l ↔ s.HasLabel i l ∨ i = n.id ∧ l ∈ n.labels := by
    by_cases hi : n.id = i
    · subst hi; simp [HasLabel, hnew]
    · simp [HasLabel, hi, Ne.symm hi]
  have hsimp := linkNode_eq s n
  constructor
  case nodes => rw [hsimp]; exact hs.nodes.insert _ _
  case rels => rw [hsimp]; exact hs.rels
  case node_id =>
    intro i m h
    rw [node?_linkNode] at h
    split_ifs at h with hi
    · obtain rfl := Option.some.inj h; exact hi
    · exact hs.node_id h
  case node_lt =>
    intro i m h
    rw [node?_linkNode] at h
    rw [hsimp]
    split_ifs at h with hi
    · exact hi ▸ hlt
    · exact hs.node_lt h
  case node =>
    intro i m h
    rw [node?_linkNode] at h
    split_ifs at h with hi
    · obtain rfl := Option.some.inj h; exact hn
    · exact hs.node h
  case rel_id => intro i r h; exact hs.rel_id (by simpa using h)
  case rel_lt => intro i r h; rw [hsimp]; exact hs.rel_lt (by simpa using h)
  case rel => intro i r h; exact hs.rel (by simpa using h)
  case source => intro i r h; exact hsome (hs.source (by simpa using h))
  case target => intro i r h; exact hsome (hs.target (by simpa using h))
  case outgoing => rw [hleaves, hsimp]; exact hs.outgoing
  case incoming => rw [henters, hsimp]; exact hs.incoming
  case labelled =>
    rw [hsimp]
    exact (hs.labelled.addUnder n.id n.labels).congr fun i l => by rw [← hlabel, hsimp]

/-- A node without relationships can be taken out. -/
lemma Sound.unlinkNode (hs : Sound s) {n : Node} (hn : s.node? n.id = some n)
    (hfree : s.relsFrom n.id = [] ∧ s.relsTo n.id = []) : Sound (s.unlinkNode n) := by
  have hleaves : (s.unlinkNode n).Leaves = s.Leaves := by funext i a; simp [Leaves]
  have henters : (s.unlinkNode n).Enters = s.Enters := by funext i a; simp [Enters]
  have hfrom {i : RelId} (h : s.Leaves i n.id) : False := by
    have := hs.mem_relsFrom.2 h
    simp [hfree.1] at this
  have hto {i : RelId} (h : s.Enters i n.id) : False := by
    have := hs.mem_relsTo.2 h
    simp [hfree.2] at this
  have hlabel (i : NodeId) (l : String) :
      (s.unlinkNode n).HasLabel i l ↔ s.HasLabel i l ∧ ¬ (i = n.id ∧ l ∈ n.labels) := by
    by_cases hi : n.id = i
    · subst hi; simp [HasLabel, hn]
    · simp [HasLabel, hi, Ne.symm hi]
  have hsimp := unlinkNode_eq s n
  have hnode {i : NodeId} {m : Node} (h : (s.unlinkNode n).node? i = some m) :
      s.node? i = some m := by
    rw [node?_unlinkNode] at h
    split_ifs at h
    exact h
  constructor
  case nodes => rw [hsimp]; exact hs.nodes.erase _
  case rels => rw [hsimp]; exact hs.rels
  case node_id => intro i m h; exact hs.node_id (hnode h)
  case node_lt => intro i m h; rw [hsimp]; exact hs.node_lt (hnode h)
  case node => intro i m h; exact hs.node (hnode h)
  case rel_id => intro i r h; exact hs.rel_id (by simpa using h)
  case rel_lt => intro i r h; rw [hsimp]; exact hs.rel_lt (by simpa using h)
  case rel => intro i r h; exact hs.rel (by simpa using h)
  case source =>
    intro i r h
    rw [rel?_unlinkNode] at h
    rw [node?_unlinkNode, if_neg fun he => hfrom ⟨r, h, he.symm⟩]
    exact hs.source h
  case target =>
    intro i r h
    rw [rel?_unlinkNode] at h
    rw [node?_unlinkNode, if_neg fun he => hto ⟨r, h, he.symm⟩]
    exact hs.target h
  case outgoing =>
    rw [hleaves, hsimp]
    refine (hs.outgoing.erase n.id).congr fun i a => and_iff_left_of_imp fun h he => ?_
    exact hfrom (he ▸ h)
  case incoming =>
    rw [henters, hsimp]
    refine (hs.incoming.erase n.id).congr fun i a => and_iff_left_of_imp fun h he => ?_
    exact hto (he ▸ h)
  case labelled =>
    rw [hsimp]
    exact (hs.labelled.removeUnder n.id n.labels).congr fun i l => by rw [← hlabel, hsimp]

/-- **Taking a new node out again gives the store back.** -/
theorem unlinkNode_linkNode (hs : Sound s) {n : Node} (hn : n.Sound) (hlt : n.id < s.nextNode)
    (hnew : s.node? n.id = none) : (s.linkNode n).unlinkNode n = s := by
  have hl := hs.linkNode hn hlt hnew
  have hfree : (s.linkNode n).relsFrom n.id = [] ∧ (s.linkNode n).relsTo n.id = [] := by
    rw [linkNode_eq]; exact hs.relsAt_eq_nil hnew
  have hu := hl.unlinkNode (n := n) (by simp) hfree
  refine hu.ext hs (Dict.ext_get? hu.nodes hs.nodes fun i => ?_) ?_ ?_ ?_ ?_ ?_ ?_
  · have : ((s.linkNode n).unlinkNode n).node? i = s.node? i := by
      rw [node?_unlinkNode, node?_linkNode]
      split_ifs with hi
      · rw [← hi, hnew]
      · rfl
    exact this
  all_goals rw [unlinkNode_eq, linkNode_eq]

/-- **Putting a node back that was taken out gives the store back.** -/
theorem linkNode_unlinkNode (hs : Sound s) {n : Node} (hn : s.node? n.id = some n)
    (hfree : s.relsFrom n.id = [] ∧ s.relsTo n.id = []) : (s.unlinkNode n).linkNode n = s := by
  have hu := hs.unlinkNode hn hfree
  have hl := hu.linkNode (hs.node hn) (by rw [unlinkNode_eq]; exact hs.node_lt hn) (by simp)
  refine hl.ext hs (Dict.ext_get? hl.nodes hs.nodes fun i => ?_) ?_ ?_ ?_ ?_ ?_ ?_
  · have : ((s.unlinkNode n).linkNode n).node? i = s.node? i := by
      rw [node?_linkNode, node?_unlinkNode]
      split_ifs with hi
      · rw [← hi, hn]
      · rfl
    exact this
  all_goals rw [linkNode_eq, unlinkNode_eq]

/-! ### Relationships -/

lemma Sound.linkRel (hs : Sound s) {r : Relationship} (hr : WellFormed r.properties)
    (hlt : r.id < s.nextRel) (hnew : s.rel? r.id = none) (ha : (s.node? r.source).isSome)
    (hb : (s.node? r.target).isSome) : Sound (s.linkRel r) := by
  have hrel {P : RelId → Relationship → Prop} (h₀ : P r.id r)
      (h₁ : ∀ {i q}, s.rel? i = some q → P i q) {i : RelId} {q : Relationship}
      (h : (s.linkRel r).rel? i = some q) : P i q := by
    rw [rel?_linkRel] at h
    split_ifs at h with hi
    · obtain rfl := Option.some.inj h; exact hi ▸ h₀
    · exact h₁ h
  have hlist (f : Relationship → NodeId) (i : RelId) (a : NodeId) :
      (∃ q, (s.linkRel r).rel? i = some q ∧ f q = a) ↔
        (∃ q, s.rel? i = some q ∧ f q = a) ∨ i = r.id ∧ f r = a := by
    by_cases hi : r.id = i
    · subst hi; simp [hnew]
    · simp [hi, Ne.symm hi]
  exact { hs with
    rels := hs.rels.insert _ _
    rel_id := fun h => hrel (P := fun i q => q.id = i) rfl hs.rel_id h
    rel_lt := fun h => hrel (P := fun i _ => i < s.nextRel) hlt hs.rel_lt h
    rel := fun h => hrel (P := fun _ q => WellFormed q.properties) hr hs.rel h
    source := fun h => hrel (P := fun _ q => (s.node? q.source).isSome) ha hs.source h
    target := fun h => hrel (P := fun _ q => (s.node? q.target).isSome) hb hs.target h
    outgoing := (hs.outgoing.add _ _).congr fun i a => (hlist _ i a).symm
    incoming := (hs.incoming.add _ _).congr fun i a => (hlist _ i a).symm }

lemma Sound.unlinkRel (hs : Sound s) {r : Relationship} (hr : s.rel? r.id = some r) :
    Sound (s.unlinkRel r) := by
  have hrel {i : RelId} {q : Relationship} (h : (s.unlinkRel r).rel? i = some q) :
      s.rel? i = some q := by
    rw [rel?_unlinkRel] at h
    split_ifs at h
    exact h
  have hlist (f : Relationship → NodeId) (i : RelId) (a : NodeId) :
      (∃ q, (s.unlinkRel r).rel? i = some q ∧ f q = a) ↔
        (∃ q, s.rel? i = some q ∧ f q = a) ∧ ¬ (i = r.id ∧ f r = a) := by
    by_cases hi : r.id = i
    · subst hi; simp [hr]
    · simp [hi, Ne.symm hi]
  exact { hs with
    rels := hs.rels.erase _
    rel_id := fun h => hs.rel_id (hrel h)
    rel_lt := fun h => hs.rel_lt (hrel h)
    rel := fun h => hs.rel (hrel h)
    source := fun h => hs.source (hrel h)
    target := fun h => hs.target (hrel h)
    outgoing := (hs.outgoing.remove _ _).congr fun i a => (hlist _ i a).symm
    incoming := (hs.incoming.remove _ _).congr fun i a => (hlist _ i a).symm }

/-- **Taking a new relationship out again gives the store back.** -/
theorem unlinkRel_linkRel (hs : Sound s) {r : Relationship} (hr : WellFormed r.properties)
    (hlt : r.id < s.nextRel) (hnew : s.rel? r.id = none) (ha : (s.node? r.source).isSome)
    (hb : (s.node? r.target).isSome) : (s.linkRel r).unlinkRel r = s := by
  have hu := (hs.linkRel hr hlt hnew ha hb).unlinkRel (r := r) (by simp)
  refine hu.ext hs rfl (Dict.ext_get? hu.rels hs.rels fun i => ?_) rfl rfl rfl rfl rfl
  have : ((s.linkRel r).unlinkRel r).rel? i = s.rel? i := by
    rw [rel?_unlinkRel, rel?_linkRel]
    split_ifs with hi
    · rw [← hi, hnew]
    · rfl
  exact this

/-- **Putting a relationship back that was taken out gives the store back.** Its place in the
lists comes from their order. -/
theorem linkRel_unlinkRel (hs : Sound s) {r : Relationship} (hr : s.rel? r.id = some r) :
    (s.unlinkRel r).linkRel r = s := by
  have hl := (hs.unlinkRel hr).linkRel (hs.rel hr) (hs.rel_lt hr) (by simp) (hs.source hr)
    (hs.target hr)
  refine hl.ext hs rfl (Dict.ext_get? hl.rels hs.rels fun i => ?_) rfl rfl rfl rfl rfl
  have : ((s.unlinkRel r).linkRel r).rel? i = s.rel? i := by
    rw [rel?_linkRel, rel?_unlinkRel]
    split_ifs with hi
    · rw [← hi, hr]
    · rfl
  exact this

/-! ### Replacing what is stored -/

lemma restore_self {ps : Properties} (h : Dict.Ascending ps) (k : String) :
    restore ps k (Dict.get? ps k) = ps := by
  refine Dict.ext_get? (ascending_restore h k _) h fun j => ?_
  rw [get?_restore]
  split_ifs with hj
  · rw [hj]
  · rfl

lemma restore_restore {ps : Properties} (h : Dict.Ascending ps) (k : String) (v : Option Value) :
    restore (restore ps k v) k (Dict.get? ps k) = ps := by
  refine Dict.ext_get? (ascending_restore (ascending_restore h k v) k _) h fun j => ?_
  rw [get?_restore, get?_restore]
  split_ifs with hj
  · rw [hj]
  · rfl

/-- The labels of the nodes after those of one node are replaced. -/
def Relabelled (s : Store) (i : NodeId) (ls : List String) (j : NodeId) (l : String) : Prop :=
  if i = j then l ∈ ls else s.HasLabel j l

lemma relabelled_self {i : NodeId} {n : Node} (hn : s.node? i = some n) (j : NodeId) (l : String) :
    s.HasLabel j l ↔ s.Relabelled i n.labels j l := by
  rw [Relabelled]
  split_ifs with hj
  · subst hj; simp [HasLabel, hn]
  · rfl

section Node

variable {i : NodeId} {n : Node} {f g : Node → Node} {d e : Dict String (List NodeId)}

lemma Sound.mapNode (hs : Sound s) (hn : s.node? i = some n) (hid : (f n).id = i)
    (hf : (f n).Sound) (hd : Dict.Lists d (s.Relabelled i (f n).labels)) :
    Sound { s.mapNode i f with labelled := d } := by
  have hnode {P : NodeId → Node → Prop} (h₀ : P i (f n))
      (h₁ : ∀ {j m}, s.node? j = some m → P j m) {j : NodeId} {m : Node}
      (h : (s.mapNode i f).node? j = some m) : P j m := by
    rw [node?_mapNode] at h
    split_ifs at h with hj
    · subst hj
      rw [hn] at h
      obtain rfl := Option.some.inj h
      exact h₀
    · exact h₁ h
  have hsome {j : NodeId} (h : (s.node? j).isSome) : ((s.mapNode i f).node? j).isSome := by
    rw [node?_mapNode]
    split_ifs
    · simpa using h
    · exact h
  exact { hs with
    nodes := hs.nodes.modify _ _
    node_id := fun h => hnode (P := fun j m => m.id = j) hid hs.node_id h
    node_lt := fun h => hnode (P := fun j _ => j < s.nextNode) (hs.node_lt hn) hs.node_lt h
    node := fun h => hnode (P := fun _ m => m.Sound) hf hs.node h
    source := fun h => hsome (hs.source h)
    target := fun h => hsome (hs.target h)
    labelled := hd.congr fun j l => by
      change _ ↔ ∃ m, (s.mapNode i f).node? j = some m ∧ l ∈ m.labels
      rw [node?_mapNode, Relabelled]
      split_ifs with hj
      · subst hj; simp [hn]
      · rfl }

/-- A node is replaced and then replaced by what it was. -/
theorem mapNode_mapNode (hs : Sound s) (hn : s.node? i = some n) (hid : (f n).id = i)
    (hf : (f n).Sound) (hg : g (f n) = n) (hd : Dict.Lists d (s.Relabelled i (f n).labels))
    (he : Dict.Lists e s.HasLabel) :
    { Store.mapNode { s.mapNode i f with labelled := d } i g with labelled := e } = s := by
  have hm := hs.mapNode hn hid hf hd
  have hn' : ({ s.mapNode i f with labelled := d } : Store).node? i = some (f n) :=
    (node?_mapNode s f i i).trans (by rw [if_pos rfl, hn]; rfl)
  have hnode (j : NodeId) :
      (Store.mapNode { s.mapNode i f with labelled := d } i g).node? j = s.node? j := by
    rw [node?_mapNode]
    split_ifs with hj
    · rw [← hj, hn', hn, Option.map_some, hg]
    · exact (node?_mapNode s f i j).trans (if_neg hj)
  have hlabel (j : NodeId) (l : String) : s.HasLabel j l ↔
      ({ s.mapNode i f with labelled := d } : Store).Relabelled i (g (f n)).labels j l := by
    rw [hg, relabelled_self hn, Relabelled, Relabelled]
    split_ifs with hj
    · rfl
    · have := (node?_mapNode s f i j).trans (if_neg hj)
      simp only [HasLabel]
      rw [← this]
      rfl
  have hmm := hm.mapNode hn' (by rw [hg]; exact hs.node_id hn) (by rw [hg]; exact hs.node hn)
    (he.congr hlabel)
  exact hmm.ext hs (Dict.ext_get? hmm.nodes hs.nodes hnode) rfl rfl rfl rfl rfl rfl

end Node

section Relationship

variable {i : RelId} {r : Relationship} {f g : Relationship → Relationship}

lemma Sound.mapRel (hs : Sound s) (hr : s.rel? i = some r)
    (hf : f r = { r with properties := (f r).properties }) (hw : WellFormed (f r).properties) :
    Sound (s.mapRel i f) := by
  have hrel {P : RelId → Relationship → Prop} (h₀ : P i (f r))
      (h₁ : ∀ {j q}, s.rel? j = some q → P j q) {j : RelId} {q : Relationship}
      (h : (s.mapRel i f).rel? j = some q) : P j q := by
    rw [rel?_mapRel] at h
    split_ifs at h with hj
    · subst hj
      rw [hr] at h
      obtain rfl := Option.some.inj h
      exact h₀
    · exact h₁ h
  have hlist (p : Relationship → NodeId) (hp : p (f r) = p r) (j : RelId) (a : NodeId) :
      (∃ q, s.rel? j = some q ∧ p q = a) ↔ ∃ q, (s.mapRel i f).rel? j = some q ∧ p q = a := by
    rw [rel?_mapRel]
    split_ifs with hj
    · subst hj; simp [hr, hp]
    · rfl
  have hsource : (f r).source = r.source := by rw [hf]
  have htarget : (f r).target = r.target := by rw [hf]
  have hid : (f r).id = i := by rw [hf]; change r.id = i; exact hs.rel_id hr
  exact { hs with
    rels := hs.rels.modify _ _
    rel_id := fun h => hrel (P := fun j q => q.id = j) hid hs.rel_id h
    rel_lt := fun h => hrel (P := fun j _ => j < s.nextRel) (hs.rel_lt hr) hs.rel_lt h
    rel := fun h => hrel (P := fun _ q => WellFormed q.properties) hw hs.rel h
    source := fun h => hrel (P := fun _ q => (s.node? q.source).isSome)
      (hsource ▸ hs.source hr) hs.source h
    target := fun h => hrel (P := fun _ q => (s.node? q.target).isSome)
      (htarget ▸ hs.target hr) hs.target h
    outgoing := hs.outgoing.congr (hlist _ hsource)
    incoming := hs.incoming.congr (hlist _ htarget) }

/-- A relationship is replaced and then replaced by what it was. -/
theorem mapRel_mapRel (hs : Sound s) (hr : s.rel? i = some r)
    (hf : f r = { r with properties := (f r).properties }) (hw : WellFormed (f r).properties)
    (hg : g (f r) = r) : (s.mapRel i f).mapRel i g = s := by
  have hm := hs.mapRel hr hf hw
  have hr' : (s.mapRel i f).rel? i = some (f r) := by rw [rel?_mapRel, if_pos rfl, hr]; rfl
  have hmm : Sound ((s.mapRel i f).mapRel i g) :=
    hm.mapRel hr' (by rw [hg, hf]) (by rw [hg]; exact hs.rel hr)
  refine hmm.ext hs rfl (Dict.ext_get? hmm.rels hs.rels fun j => ?_) rfl rfl rfl rfl rfl
  have : ((s.mapRel i f).mapRel i g).rel? j = s.rel? j := by
    rw [rel?_mapRel]
    split_ifs with hj
    · rw [← hj, hr', hr, Option.map_some, hg]
    · rw [rel?_mapRel, if_neg hj]
  exact this

end Relationship

end Store

end PropertyGraph
