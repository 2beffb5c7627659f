import PropertyGraph.Proofs.Store.Rendered
import PropertyGraph.Proofs.Store.Unique

/-!
Properties that are set one after the other.

Null takes a key away, and each key is checked on its own. But a check looks at the value, the
labels and the other nodes, and none of them changes on the way. So it can be told from the graph
before whether a check will fail. If none does, the properties are in the end those that the entries
leave if they are put in one by one. Which these are, their look-ups say.
-/

namespace PropertyGraph

namespace Store

variable {s t u : Store} {x : Entity} {ps qs m : Properties} {k : String} {v : Value}

/-! ### Properties -/

/-- What is stored for a value: nothing for null. -/
def stored? (v : Value) : Option Value := (some v).filter fun v => !v.isNull

lemma stored?_of_isNull (h : v.isNull = true) : stored? v = none := by
  rw [stored?, Option.filter_some, if_neg (by simp [h])]

lemma stored?_of_not_isNull (h : v.isNull = false) : stored? v = some v := by
  rw [stored?, Option.filter_some, if_pos (by simp [h])]

lemma stored?_ne_null (v : Value) : stored? v ≠ some .null := by
  intro h
  simpa [Value.isNull] using (Option.filter_eq_some_iff.1 h).2

/-- Properties after entries are put in; null takes a key away. -/
def putAll (ps es : Properties) : Properties :=
  es.foldl (fun ps p => restore ps p.1 (stored? p.2)) ps

lemma get?_putAll (ps : Properties) {es : Properties} (hes : (Dict.keys es).Nodup) (j : String) :
    Dict.get? (putAll ps es) j = (Dict.get? es j).elim (Dict.get? ps j) stored? := by
  induction es generalizing ps with
  | nil => rfl
  | cons e es ih =>
    obtain ⟨k, v⟩ := e
    rw [Dict.keys, List.map_cons, List.nodup_cons] at hes
    rw [putAll, List.foldl_cons, ← putAll, ih _ hes.2, get?_restore, Dict.get?_cons]
    split_ifs with h
    · have hj : Dict.get? es j = none := by
        rw [← Option.not_isSome_iff_eq_none, ← Dict.mem_keys_iff, ← h]
        exact hes.1
      rw [hj]
      rfl
    · rfl

lemma wellFormed_putAll (h : WellFormed ps) (es : Properties) : WellFormed (putAll ps es) := by
  induction es generalizing ps with
  | nil => exact h
  | cons e es ih => exact ih (h.restore (stored?_ne_null e.2) e.1)

/-- The entries that are not null. -/
def present (m : Properties) : Properties := m.filter fun p => !p.2.isNull

lemma get?_present (hm : Dict.Ascending m) (k : String) :
    Dict.get? (present m) k = (Dict.get? m k).filter fun v => !v.isNull :=
  Dict.get?_filter_values hm (fun v => !v.isNull) k

/-- Properties overridden by the entries of a map, of which null takes a key away. -/
def overridden (ps m : Properties) : Properties :=
  Dict.merge (ps.filter fun p => !Dict.contains m p.1) (present m)

/-- **Putting in a map** overrides the properties. -/
lemma putAll_eq_overridden (h : WellFormed ps) (hm : Dict.Ascending m) :
    putAll ps m = overridden ps m := by
  have hpresent : Dict.Ascending (present m) := hm.filter _
  have hkept : Dict.Ascending (ps.filter fun p => !Dict.contains m p.1) := h.ascending.filter _
  refine Dict.ext_get? (wellFormed_putAll h m).ascending (hkept.merge _) fun k => ?_
  rw [get?_putAll _ hm.nodup_keys, overridden, Dict.get?_merge _ hpresent.nodup_keys,
    get?_present hm, Dict.get?_filter_keys ps fun k => !Dict.contains m k, Dict.contains]
  cases hk : Dict.get? m k with
  | none => rfl
  | some v => simp [stored?]

/-- The keys that properties have and a map has not, each to be set to null. -/
def cleared (ps m : Properties) : Properties :=
  ((Dict.keys ps).filter fun k => !Dict.contains m k).map fun k => (k, .null)

lemma get?_putAll_null (ps : Properties) (ks : List String) (j : String) :
    Dict.get? (putAll ps (ks.map fun k => (k, .null))) j =
      if j ∈ ks then none else Dict.get? ps j := by
  induction ks generalizing ps with
  | nil => rfl
  | cons k ks ih =>
    rw [List.map_cons, putAll, List.foldl_cons, ← putAll, ih, get?_restore]
    have hnull : stored? .null = none := rfl
    by_cases hk : k = j
    · simp [hk, hnull]
    · simp [hk, Ne.symm hk]

/-- **Clearing the other keys first** leaves nothing but the map. -/
lemma putAll_cleared (h : WellFormed ps) (hm : Dict.Ascending m) :
    putAll (putAll ps (cleared ps m)) m = present m := by
  have hw := wellFormed_putAll (wellFormed_putAll h (cleared ps m)) m
  refine Dict.ext_get? hw.ascending (hm.filter _) fun k => ?_
  rw [get?_putAll _ hm.nodup_keys, cleared, get?_putAll_null, get?_present hm]
  simp only [List.mem_filter, Dict.mem_keys_iff, Dict.contains]
  cases hk : Dict.get? m k with
  | some v => rfl
  | none => cases Dict.get? ps k <;> simp

/-! ### Graphs -/

/-- The graph in which an entity has these properties. -/
def withProperties (s : Store) (x : Entity) (ps : Properties) : Store :=
  match x with
  | .node i => s.mapNode i fun n => { n with properties := ps }
  | .rel i => s.mapRel i fun r => { r with properties := ps }

/-- A graph in which an entity has these properties, and all else but the journal is the same. -/
def Assigns (s : Store) (x : Entity) (ps : Properties) (t : Store) : Prop :=
  t = { s.withProperties x ps with journal := t.journal }

lemma Sound.wellFormed (hs : Sound s) (hx : s.propertiesOf? x = some ps) : WellFormed ps := by
  cases x with
  | node i =>
    obtain ⟨n, hn, rfl⟩ := Option.map_eq_some_iff.1 hx
    exact (hs.node hn).properties
  | rel i =>
    obtain ⟨r, hr, rfl⟩ := Option.map_eq_some_iff.1 hx
    exact hs.rel hr

lemma assigns_mapNode (hs : Sound s) {i : NodeId} {n : Node} (hn : s.node? i = some n)
    {f : Node → Node} (hf : f n = { n with properties := ps }) (j : List Change) :
    s.Assigns (.node i) ps { s.mapNode i f with journal := j } := by
  let g (n : Node) : Node := { n with properties := ps }
  rw [Assigns, withProperties, mapNode, mapNode, Dict.modify_congr (g := g) hs.nodes hn hf]

lemma assigns_mapRel (hs : Sound s) {i : RelId} {r : Relationship} (hr : s.rel? i = some r)
    {f : Relationship → Relationship} (hf : f r = { r with properties := ps }) (j : List Change) :
    s.Assigns (.rel i) ps { s.mapRel i f with journal := j } := by
  let g (r : Relationship) : Relationship := { r with properties := ps }
  rw [Assigns, withProperties, mapRel, mapRel, Dict.modify_congr (g := g) hs.rels hr hf]

namespace Assigns

lemma refl (hs : Sound s) (hx : s.propertiesOf? x = some ps) : s.Assigns x ps s := by
  cases x with
  | node i =>
    obtain ⟨n, hn, rfl⟩ := Option.map_eq_some_iff.1 hx
    simpa [mapNode, Dict.modify_id] using assigns_mapNode hs hn (f := id) rfl s.journal
  | rel i =>
    obtain ⟨r, hr, rfl⟩ := Option.map_eq_some_iff.1 hx
    simpa [mapRel, Dict.modify_id] using assigns_mapRel hs hr (f := id) rfl s.journal

lemma trans (h : s.Assigns x ps t) (h' : t.Assigns x qs u) : s.Assigns x qs u := by
  rw [Assigns] at h h' ⊢
  rw [h', h]
  cases x with
  | node i => simp only [withProperties, mapNode, Dict.modify_modify]
  | rel i => simp only [withProperties, mapRel, Dict.modify_modify]

lemma node? {i : NodeId} (h : s.Assigns (.node i) ps t) (j : NodeId) :
    t.node? j = if i = j then (s.node? j).map ({ · with properties := ps }) else s.node? j := by
  rw [h]
  exact node?_mapNode s ({ · with properties := ps }) i j

lemma rel? {i : RelId} (h : s.Assigns (.rel i) ps t) (j : RelId) :
    t.rel? j = if i = j then (s.rel? j).map ({ · with properties := ps }) else s.rel? j := by
  rw [h]
  exact rel?_mapRel s ({ · with properties := ps }) i j

lemma propertiesOf? (h : s.Assigns x ps t) (hx : s.propertiesOf? x = some qs) :
    t.propertiesOf? x = some ps := by
  cases x with
  | node i =>
    obtain ⟨n, hn, -⟩ := Option.map_eq_some_iff.1 hx
    rw [Store.propertiesOf?, h.node?, if_pos rfl, hn]
    rfl
  | rel i =>
    obtain ⟨r, hr, -⟩ := Option.map_eq_some_iff.1 hx
    rw [Store.propertiesOf?, h.rel?, if_pos rfl, hr]
    rfl

end Assigns

/-! ### Refusals -/

/-- Another node has the value that a node is to get under a key, and both have a label for which
such a value must be unique. -/
def HeldElsewhere (s : Store) (i : NodeId) (k : String) (v : Value) : Prop :=
  ∃ c ∈ s.constraints, c.property = k ∧ s.HasLabel i c.label ∧
    ∃ j w, j ≠ i ∧ s.Carries c j w ∧ w.same v

/-- A value that is in the way of a constraint; none is at a relationship. -/
def Clashes (s : Store) : Entity → String → Value → Prop
  | .node i, k, v => v.isNull = false ∧ s.HeldElsewhere i k v
  | .rel _, _, _ => False

/-- An entry that must not be put into the properties of an entity. -/
def Refuses (s : Store) (x : Entity) (p : String × Value) : Prop :=
  p.2.mentionsEntity ∨ s.Clashes x p.1 p.2

lemma not_refuses_null (s : Store) (x : Entity) (k : String) : ¬ s.Refuses x (k, .null) := by
  rintro (h | h)
  · cases h
  · cases x with
    | node i => cases h.1
    | rel i => exact h

lemma Assigns.heldElsewhere {i : NodeId} (h : s.Assigns (.node i) ps t) (k : String) (v : Value) :
    t.HeldElsewhere i k v ↔ s.HeldElsewhere i k v := by
  have hconstraints : t.constraints = s.constraints := by
    rw [h]
    rfl
  have hlabel (l : String) : t.HasLabel i l ↔ s.HasLabel i l := by
    simp [HasLabel, h.node?]
  have hothers (c : Rule) : (∃ j w, j ≠ i ∧ t.Carries c j w ∧ w.same v) ↔
      ∃ j w, j ≠ i ∧ s.Carries c j w ∧ w.same v := by
    refine exists₂_congr fun j w => and_congr_right fun hj => ?_
    rw [Carries, Carries, h.node?, if_neg hj.symm]
  simp only [HeldElsewhere, hconstraints, hlabel, hothers]

lemma Assigns.refuses (h : s.Assigns x ps t) (p : String × Value) :
    t.Refuses x p ↔ s.Refuses x p := by
  cases x with
  | node i => simp only [Refuses, Clashes, h.heldElsewhere]
  | rel i => rfl

/-- **What is checked for one key.** -/
lemma violation?_eq_none_iff (hs : Sound s) {i : NodeId} {n : Node} (hn : s.node? i = some n) :
    s.violation? n.labels [(k, v)] (some i) = none ↔ ¬ s.HeldElsewhere i k v := by
  constructor
  · rintro h ⟨c, hc, rfl, ⟨m, hm, hl⟩, j, w, hj, hw, hsame⟩
    obtain rfl := Option.some.inj (hn.symm.trans hm)
    have hclash := violation?_eq_none h hl (List.mem_singleton_self _)
    rw [clash?_eq_none hs hc hclash (by simpa using hj) hw] at hsame
    cases hsame
  · intro h
    refine List.findSome?_eq_none_iff.2 fun l hl => ?_
    cases hclash : s.clash? l k v (some i) with
    | none => simp [hclash]
    | some j =>
      obtain ⟨c, hc, hk, rfl, hj, w, hw, hsame⟩ := exists_of_clash? hs hclash
      exact absurd ⟨c, hc, hk, ⟨n, hn, hl⟩, j, w, by simpa using hj, hw, hsame⟩ h

/-! ### One key -/

lemma removeNodeProperty_eq_ok (hs : Sound s) {i : NodeId} {n : Node} (hn : s.node? i = some n)
    (k : String) : ∃ b t, removeNodeProperty i k s = (.ok b, t) ∧
      s.Assigns (.node i) (restore n.properties k none) t := by
  have hself := restore_self (hs.node hn).properties.ascending k
  rw [removeNodeProperty]
  simp only [hn]
  cases hk : Dict.get? n.properties k with
  | none =>
    rw [hk] at hself
    exact ⟨false, s, rfl, .refl hs (by rw [propertiesOf?, hn, hself]; rfl)⟩
  | some old => exact ⟨true, _, rfl, assigns_mapNode hs hn rfl _⟩

lemma removeRelProperty_eq_ok (hs : Sound s) {i : RelId} {r : Relationship}
    (hr : s.rel? i = some r) (k : String) : ∃ b t, removeRelProperty i k s = (.ok b, t) ∧
      s.Assigns (.rel i) (restore r.properties k none) t := by
  have hself := restore_self (hs.rel hr).ascending k
  rw [removeRelProperty]
  simp only [hr]
  cases hk : Dict.get? r.properties k with
  | none =>
    rw [hk] at hself
    exact ⟨false, s, rfl, .refl hs (by rw [propertiesOf?, hr, hself]; rfl)⟩
  | some old => exact ⟨true, _, rfl, assigns_mapRel hs hr rfl _⟩

lemma setNodeProperty_eq_ok (hs : Sound s) {i : NodeId} {n : Node} (hn : s.node? i = some n)
    (h : v.isNull = false → ¬ s.HeldElsewhere i k v) : ∃ t, setNodeProperty i k v s = (.ok (), t) ∧
      s.Assigns (.node i) (restore n.properties k (stored? v)) t := by
  rw [setNodeProperty]
  split_ifs with hv
  · obtain ⟨b, t, hremove, ht⟩ := removeNodeProperty_eq_ok hs hn k
    rw [hremove, stored?_of_isNull hv]
    exact ⟨t, rfl, ht⟩
  · rw [Bool.not_eq_true] at hv
    have hviolation := (violation?_eq_none_iff hs hn).2 (h hv)
    simp only [hn, hviolation, stored?_of_not_isNull hv]
    exact ⟨_, rfl, assigns_mapNode hs hn rfl _⟩

lemma setNodeProperty_eq_error (hs : Sound s) {i : NodeId} {n : Node} (hn : s.node? i = some n)
    (hv : v.isNull = false) (h : s.HeldElsewhere i k v) :
    ∃ e, setNodeProperty i k v s = (.error e, s) := by
  rw [setNodeProperty, if_neg (by simp [hv])]
  simp only [hn]
  cases hviolation : s.violation? n.labels [(k, v)] (some i) with
  | none => exact absurd h ((violation?_eq_none_iff hs hn).1 hviolation)
  | some e => exact ⟨e, rfl⟩

lemma setRelProperty_eq_ok (hs : Sound s) {i : RelId} {r : Relationship} (hr : s.rel? i = some r)
    (k : String) (v : Value) : ∃ t, setRelProperty i k v s = (.ok (), t) ∧
      s.Assigns (.rel i) (restore r.properties k (stored? v)) t := by
  rw [setRelProperty]
  split_ifs with hv
  · obtain ⟨b, t, hremove, ht⟩ := removeRelProperty_eq_ok hs hr k
    rw [hremove, stored?_of_isNull hv]
    exact ⟨t, rfl, ht⟩
  · rw [Bool.not_eq_true] at hv
    simp only [hr, stored?_of_not_isNull hv]
    exact ⟨_, rfl, assigns_mapRel hs hr rfl _⟩

/-- Sets a property of an entity; null removes it. -/
def setProperty (x : Entity) (k : String) (v : Value) : Operation Unit :=
  match x with
  | .node i => setNodeProperty i k v
  | .rel i => setRelProperty i k v

lemma Sound.setProperty (hs : Sound s) (x : Entity) (k : String) (v : Value) :
    Sound (setProperty x k v s).2 := by
  cases x with
  | node i => exact (steps_setNodeProperty i k v s).sound hs
  | rel i => exact (steps_setRelProperty i k v s).sound hs

lemma setProperty_eq_ok (hs : Sound s) (hx : s.propertiesOf? x = some ps)
    (h : ¬ s.Clashes x k v) : ∃ t, setProperty x k v s = (.ok (), t) ∧
      s.Assigns x (restore ps k (stored? v)) t := by
  cases x with
  | node i =>
    obtain ⟨n, hn, rfl⟩ := Option.map_eq_some_iff.1 hx
    exact setNodeProperty_eq_ok hs hn fun hv ht => h ⟨hv, ht⟩
  | rel i =>
    obtain ⟨r, hr, rfl⟩ := Option.map_eq_some_iff.1 hx
    exact setRelProperty_eq_ok hs hr k v

lemma setProperty_eq_error (hs : Sound s) (hx : s.propertiesOf? x = some ps)
    (h : s.Clashes x k v) : ∃ e, setProperty x k v s = (.error e, s) := by
  cases x with
  | node i =>
    obtain ⟨n, hn, -⟩ := Option.map_eq_some_iff.1 hx
    exact setNodeProperty_eq_error hs hn h.1 h.2
  | rel i => cases h

end Store

end PropertyGraph
