import PropertyGraph.Proofs.Matching.Trail

/-!
What it takes for a trail to be found, and what a trail that was found tells.

A trail that was found went through all moves of its pattern, so that each element of the pattern
was there, with the properties asked for. The other way round, moves that cannot fail find every
trail there is, also where one name stands for two things in a hop, so that nothing is assumed of
the names.
-/

namespace PropertyGraph

lemma Row.get?_bind (row : Row) (name : Option String) (v : Value) (n : String) :
    Dict.get? (row.bind name v) n = if name = some n then some v else Dict.get? row n := by
  cases name with
  | none => simp [Row.bind]
  | some k => simp [Row.bind, Dict.get?_insert]

namespace Matcher

open Cypher

variable {m : Matcher} {t u w : Trail} {v : Move} {vs : List Move}

/-- A trail comes of another one by some moves. -/
inductive Follows (m : Matcher) : List Move → Trail → Trail → Prop
  | nil (t : Trail) : Follows m [] t t
  | cons {v : Move} {vs : List Move} {t u w : Trail} {ts : List Trail} (hv : m.move t v = .ok ts)
      (hu : u ∈ ts) (h : Follows m vs u w) : Follows m (v :: vs) t w

lemma Follows.append {us : List Move} (h : Follows m vs t u) (h' : Follows m us u w) :
    Follows m (vs ++ us) t w := by
  induction h with
  | nil => exact h'
  | cons hv hu _ ih => exact .cons hv hu (ih h')

lemma follows_of_mem {ts : List Trail} (h : m.follow vs t = .ok ts) (hw : w ∈ ts) :
    Follows m vs t w := by
  induction vs generalizing t ts with
  | nil =>
    cases h
    obtain rfl := List.mem_singleton.1 hw
    exact .nil w
  | cons v vs ih =>
    obtain ⟨us, hv, h⟩ := bind_eq_ok.1 h
    obtain ⟨uss, huss, h⟩ := bind_eq_ok.1 h
    cases h
    obtain ⟨ws, hws, hw⟩ := List.mem_flatten.1 hw
    obtain ⟨u, hu, hu'⟩ := mem_mapM huss hws
    exact .cons hv hu (ih hu' hw)

/-- **Moves that cannot fail find every trail** that comes of them. -/
theorem Follows.mem_follow (h : Follows m vs t w) (hvs : ∀ v ∈ vs, ∀ t, ∃ ts, m.move t v = .ok ts) :
    ∃ ts, m.follow vs t = .ok ts ∧ w ∈ ts := by
  have htotal (vs : List Move) (hvs : ∀ v ∈ vs, ∀ t, ∃ ts, m.move t v = .ok ts) (t : Trail) :
      ∃ ts, m.follow vs t = .ok ts := by
    induction vs generalizing t with
    | nil => exact ⟨[t], rfl⟩
    | cons v vs ih =>
      obtain ⟨us, hus⟩ := hvs v (by simp) t
      choose f hf using ih fun v hv => hvs v (by simp [hv])
      exact ⟨(us.map f).flatten, bind_eq_ok.2 ⟨us, hus,
        bind_eq_ok.2 ⟨us.map f, mapM_eq_ok fun u _ => hf u, rfl⟩⟩⟩
  induction h with
  | nil t => exact ⟨[t], rfl, by simp⟩
  | @cons v vs t u w us hv hu _ ih =>
    choose f hf using htotal vs fun v hv => hvs v (by simp [hv])
    obtain ⟨ws, hws, hw⟩ := ih fun v hv => hvs v (by simp [hv])
    refine ⟨(us.map f).flatten, bind_eq_ok.2 ⟨us, hv,
      bind_eq_ok.2 ⟨us.map f, mapM_eq_ok fun u _ => hf u, rfl⟩⟩, ?_⟩
    refine List.mem_flatten.2 ⟨f u, List.mem_map_of_mem hu, ?_⟩
    obtain rfl := Except.ok.inj ((hf u).symm.trans hws)
    exact hw

/-! ### What a trail tells -/

/-- The properties that a part asks for were found somewhere. -/
def Met (part : Part) : Prop :=
  ∃ row ps actual, required (some part) row = .ok ps ∧ hasProperties actual ps

lemma met_of_nodeFits {p : NodePattern Part} {row : Row} {ps : Properties} {id : NodeId}
    (hps : required p.properties row = .ok ps) (h : m.nodeFits p ps id) {part : Part}
    (hpart : part ∈ p.properties) : Met part := by
  rw [hpart] at hps
  obtain ⟨n, -, hn⟩ := Option.any_eq_true _ _ |>.1 h
  exact ⟨row, ps, n.properties, hps, (Bool.and_eq_true _ _ ▸ hn).2⟩

lemma met_of_start {p : NodePattern Part} {ts : List Trail} (h : m.move t (.start p) = .ok ts)
    (hu : u ∈ ts) {part : Part} (hpart : part ∈ p.properties) : Met part := by
  obtain ⟨ids, hids, h⟩ := bind_eq_ok.1 h
  cases h
  obtain ⟨id, hid, -⟩ := List.mem_map.1 hu
  obtain ⟨ps, hps, hids⟩ := bind_eq_ok.1 hids
  have hfits : m.nodeFits p ps id := by
    split at hids
    · cases hids
      exact (List.mem_filter.1 hid).2
    · cases hids
      cases hid
    · cases hids
      exact (List.mem_filter.1 hid).2
  exact met_of_nodeFits hps hfits hpart

lemma met_of_hop {h : Hop Part} {ts : List Trail} (hlength : h.rel.length = none)
    (hmove : m.move t (.hop h) = .ok ts) (hu : u ∈ ts) {part : Part}
    (hpart : part ∈ h.rel.properties ∨ part ∈ h.node.properties) : Met part := by
  obtain ⟨rs, hrs, hmove⟩ := bind_eq_ok.1 hmove
  obtain ⟨ns, hns, hmove⟩ := bind_eq_ok.1 hmove
  split at hmove
  · cases hmove
    cases hu
  next origin _ =>
    cases hmove
    obtain ⟨w, hw, hsome⟩ := List.mem_filterMap.1 hu
    dsimp only at hsome
    split_ifs at hsome with hend
    rcases hpart with hpart | hpart
    · rw [hopWalks, hlength] at hw
      obtain ⟨e, he, rfl⟩ := List.mem_map.1 hw
      obtain ⟨⟨r, b⟩, hr, rfl⟩ := List.mem_map.1 he
      have haccepts := (List.mem_filter.1 hr).2
      simp only [Bool.and_eq_true] at haccepts
      rw [hpart] at hrs
      exact ⟨t.row, rs, r.properties, hrs, (Bool.and_eq_true _ _ ▸ haccepts.2.2).2⟩
    · exact met_of_nodeFits hns (Bool.and_eq_true _ _ ▸ hend).2 hpart

/-- **A pattern was found only if all its properties were met.** -/
theorem met_of_follows {p : PathPattern Part} (hall : p.selector = .all)
    (hlength : ∀ h ∈ p.hops, h.rel.length = none) (h : Follows m (Move.ofPattern p) t w) :
    ∀ part ∈ p.properties, Met part := by
  have hhops {hs : List (Hop Part)} (hlength : ∀ h ∈ hs, h.rel.length = none) {vs : List Move}
      {t : Trail} (h : Follows m (hs.map .hop ++ vs) t w) :
      ∀ hop ∈ hs, ∀ part, part ∈ hop.rel.properties ∨ part ∈ hop.node.properties → Met part := by
    induction hs generalizing t with
    | nil => simp
    | cons hop hs ih =>
      cases h with
      | cons hv hu hrest =>
        rintro k hk part hpart
        rcases List.mem_cons.1 hk with rfl | hk
        · exact met_of_hop (hlength k (by simp)) hv hu hpart
        · exact ih (fun h hh => hlength h (by simp [hh])) hrest k hk part hpart
  rw [Move.ofPattern, if_pos hall] at h
  cases h with
  | cons hv hu hrest =>
    have hrest := hhops hlength hrest
    simp only [PathPattern.properties, List.mem_append, List.mem_flatMap, Option.mem_toList]
    rintro part ((hpart | ⟨hop, hhop, hpart⟩) | ⟨hop, hhop, hpart⟩)
    · exact met_of_start hv hu hpart
    · exact hrest hop hhop part (.inr hpart)
    · exact hrest hop hhop part (.inl hpart)

/-! ### Finding trails -/

variable {a b : NodeId} {i : RelId}

lemma move_hop_nowhere (h : Hop Properties) (ht : t.path.last? = none) :
    m.move t (.hop (h.map constant)) = .ok [] := by
  rw [move, hopMove, ht]
  change (required (h.rel.properties.map constant) t.row >>= fun _ =>
    required (h.node.properties.map constant) t.row >>= _) = _
  rw [required_constant, required_constant]
  rfl

lemma move_total (hs : m.store.Sound) {p : PathPattern Properties} (hall : p.selector = .all) :
    ∀ v ∈ Move.ofPattern (p.map constant), ∀ t, ∃ ts, m.move t v = .ok ts := by
  intro v hv t
  rw [ofPattern_constant hall, List.mem_cons, List.mem_append, List.mem_map,
    List.mem_singleton] at hv
  rcases hv with rfl | ⟨h, -, rfl⟩ | rfl
  · obtain ⟨ids, -, -, hmove⟩ := yields_start hs p.start t
    exact ⟨_, hmove⟩
  · cases ht : t.path.last? with
    | some a => exact ⟨_, move_hop h ht⟩
    | none => exact ⟨_, move_hop_nowhere h ht⟩
  · exact ⟨_, rfl⟩

/-- The trail that begins at a node that fits is found. -/
lemma follows_start (hs : m.store.Sound) {p : NodePattern Properties} {id : NodeId}
    (hid : m.IsNode p id) (hbound : ∀ v, t.row.bound? p.name = some v → v = .node id) :
    Follows m [.start (p.map constant)] t
      { t with row := t.row.bind p.name (.node id), path := .single id } := by
  obtain ⟨ids, hids, -, hmem⟩ := candidates_constant hs p t.row
  have hmove : m.move t (.start (p.map constant)) = .ok (ids.map fun id =>
      { t with row := t.row.bind p.name (.node id), path := .single id }) := by
    rw [move, hids]
    rfl
  exact .cons hmove (List.mem_map_of_mem ((hmem id).2 ⟨hid, hbound⟩)) (.nil _)

/-- A relationship that leads on to a node that fits is found. -/
lemma follows_hop (hs : m.store.Sound) {h : Hop Properties} (hlength : h.rel.length = none)
    (ht : t.path.last? = some a) (hused : t.used.Nodup) (hi : i ∉ t.used)
    (hedge : m.store.Edge h.rel.direction (Accepts h.rel) i a b)
    (hfree : t.row.bound? h.rel.name = none) (hb : m.IsNode h.node b)
    (hbound : ∀ v, t.row.bound? h.node.name = some v → v = .node b) :
    Follows m [.hop (h.map constant)] t
      { row := (t.row.bind h.rel.name (.rel i)).bind h.node.name (.node b)
        used := t.used ++ [i]
        path := t.path.extend [(i, b)] } := by
  have hwalk : [(i, b)] ∈ m.hopWalks (h.rel.map constant) (h.rel.properties.getD []) t a := by
    refine (mem_hopWalks hs hused).2 ⟨⟨b, .cons hedge (.nil b)⟩, ?_, ?_, fun _ v hv => ?_⟩
    · rw [hlength]
      rfl
    · exact (nodup_used_append hused).2 ⟨List.nodup_singleton i, by simpa using hi⟩
    · rw [hfree] at hv
      cases hv
  refine .cons (move_hop h ht) (List.mem_filterMap.2 ⟨[(i, b)], hwalk, ?_⟩) (.nil _)
  have hend : m.endFits (h.node.map constant) t.row (h.node.properties.getD [])
      (legOf a [(i, b)]).2 := endFits_iff.2 ⟨hb, hbound⟩
  rw [if_pos hend, hlength]
  rfl

end Matcher

end PropertyGraph
