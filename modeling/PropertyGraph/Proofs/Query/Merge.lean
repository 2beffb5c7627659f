import PropertyGraph.Proofs.Matching.Follow
import PropertyGraph.Proofs.Matching.Rows
import PropertyGraph.Proofs.Meaning.Constant
import PropertyGraph.Proofs.Query.Create
import PropertyGraph.Proofs.Value.Equality
import PropertyGraph.Query.Write

/-!
Creating a pattern and matching it agree: what MERGE has created it finds again, if it can be found
at all.

The two go through the pattern in different ways, and bind the names of a hop in a different order.
What carries the induction over the hops is that a name that is free, or stands for a node, in the
row of the one does so in the row of the other; a name that stands for anything else cannot be
used again by a creation that succeeds.
-/

namespace PropertyGraph

namespace Query

open Cypher Matcher

variable {c : Context} {row row' : Row} {d d' : Draft} {f : Expr → Properties}

/-- Every node that a row binds exists. -/
def NodesExist (s : Store) (row : Row) : Prop :=
  ∀ n i, Dict.get? row n = some (.node i) → (s.node? i).isSome

/-- The row of a trail goes along with that of a creation. -/
structure Tracks (created found : Row) : Prop where
  free : ∀ n, Dict.get? created n = none → Dict.get? found n = none
  node : ∀ n i, Dict.get? created n = some (.node i) → Dict.get? found n = some (.node i)

/-- An expression stands for the same properties everywhere, and each is equal to itself. -/
structure Definite (c : Context) (e : Expr) (ps : Properties) : Prop where
  value : ∀ s row, e.meaning.value (c.on s) row = .ok (.map ps)
  ascending : Dict.Ascending ps
  equal : ∀ x ∈ ps, x.2.equals x.2 = some true

/-! ### Properties -/

/-- Definite properties are found where they were stored. -/
lemma fulfils_of_newProperties {part : Option Expr} (hpart : ∀ e ∈ part, Definite c e (f e))
    {s : Store} {ps : Properties} (h : NewProperties c s row (part.map Expr.meaning) ps) :
    Fulfils (part.map f) (Store.withoutNulls ps) := by
  cases part with
  | none => simp [Fulfils]
  | some e =>
    have he := hpart e rfl
    obtain rfl : ps = f e := by
      cases h with
      | null h => simp [he.value] at h
      | map h => simpa [he.value] using h.symm
    have hnull : ∀ x ∈ f e, x.2.isNull = false := by
      intro x hx
      have := he.equal x hx
      cases hv : x.2 <;> simp_all [Value.isNull, Value.equals]
    rw [Store.withoutNulls_eq_self he.ascending hnull]
    intro x hx
    exact ⟨x.2, Dict.get?_of_mem he.ascending hx, he.equal x hx⟩

/-! ### Nodes -/

/-- What creating a node comes to, be it bound before or new. -/
structure NodeCreated (p : NodePattern Meaning) (row : Row) (d : Draft) (id : NodeId) (row' : Row)
    (d' : Draft) : Prop where
  sound : d'.store.Sound
  grows : d.store.Grows d'.store
  nextRel : d'.store.nextRel = d.store.nextRel
  agrees : ∀ v, row.bound? p.name = some v → v = .node id
  row : ∀ n, Dict.get? row' n = Dict.get? (row.bind p.name (.node id)) n
  nodes : NodesExist d'.store row'

lemma NodeCreation.created {p : NodePattern Meaning} {id : NodeId} (hd : d.store.Sound)
    (hrow : NodesExist d.store row) (h : NodeCreation c p row d id row' d') :
    NodeCreated p row d id row' d' := by
  cases h with
  | bound hbound hl hp =>
    obtain ⟨n, hn, hget⟩ := Option.bind_eq_some_iff.1 hbound
    refine ⟨hd, .refl _, rfl, by simp [hbound], fun k => ?_, hrow⟩
    rw [Row.get?_bind]
    split_ifs with hk
    · obtain rfl := Option.some.inj (hn.symm.trans hk)
      exact hget
    · rfl
  | new hbound hps hcreate =>
    have hnew := Store.createNode_eq_ok hd hcreate
    refine ⟨hnew.sound, hnew.grows, hnew.nextRel, by simp [hbound], fun k => rfl, fun k i hk => ?_⟩
    rw [Row.get?_bind] at hk
    split_ifs at hk with hname
    · obtain rfl := Value.node.inj (Option.some.inj hk)
      simp [hnew.node?]
    · obtain ⟨n, hn⟩ := Option.isSome_iff_exists.1 (hrow k i hk)
      simp [hnew.grows.node? hn]

/-- A node that was created fits its pattern, also in a graph that has grown since. -/
lemma NodeCreation.isNode {p : NodePattern Expr} {id : NodeId} (hd : d.store.Sound)
    (hrow : NodesExist d.store row) (hp : ∀ e ∈ p.properties, Definite c e (f e))
    (h : NodeCreation c (p.map Expr.meaning) row d id row' d') {m : Matcher}
    (hgrows : d'.store.Grows m.store) : m.IsNode (p.map f) id := by
  cases h with
  | bound hbound hl hparts =>
    obtain ⟨k, -, hget⟩ := Option.bind_eq_some_iff.1 hbound
    obtain ⟨n, hn⟩ := Option.isSome_iff_exists.1 (hrow k id hget)
    have hparts : p.properties = none := by simpa [NodePattern.map] using hparts
    have hl : p.labels = [] := hl
    exact ⟨n, hgrows.node? hn, by simp [NodePattern.map, hl],
      by simp [NodePattern.map, hparts, Fulfils]⟩
  | new hbound hps hcreate =>
    have hnew := Store.createNode_eq_ok hd hcreate
    refine ⟨_, hgrows.node? hnew.node?, fun l hl => ?_, fulfils_of_newProperties hp hps⟩
    exact List.mem_eraseDups.2 hl

/-! ### Hops -/

/-- What creating a hop comes to. -/
structure HopCreated (d : Draft) (row' : Row) (d' : Draft) : Prop where
  sound : d'.store.Sound
  grows : d.store.Grows d'.store
  nodes : NodesExist d'.store row'

lemma HopCreation.created {h : Hop Meaning} {near far : NodeId} (hd : d.store.Sound)
    (hrow : NodesExist d.store row) (hh : HopCreation c h near row d far row' d') :
    HopCreated d row' d' := by
  cases hh with
  | mk hlength htype hfree hnode hjoins hps hrel =>
    have hfar := hnode.created hd hrow
    have hnew := Store.createRel_eq_ok hfar.sound hrel
    refine ⟨hnew.sound, hfar.grows.trans hnew.grows, fun k i hk => ?_⟩
    rw [Row.get?_bind] at hk
    split_ifs at hk
    · cases hk
    · obtain ⟨n, hn⟩ := Option.isSome_iff_exists.1 (hfar.nodes k i hk)
      simp [hnew.grows.node? hn]

lemma HopsCreation.created {hs : List (Hop Meaning)} {near : NodeId} (hd : d.store.Sound)
    (hrow : NodesExist d.store row) (h : HopsCreation c hs near row d row' d') :
    HopCreated d row' d' := by
  induction h with
  | nil => exact ⟨hd, .refl _, hrow⟩
  | cons hh _ ih =>
    have hhop := hh.created hd hrow
    have hrest := ih hhop.sound hhop.nodes
    exact ⟨hrest.sound, hhop.grows.trans hrest.grows, hrest.nodes⟩

lemma HopsCreation.length {hs : List (Hop Meaning)} {near : NodeId}
    (h : HopsCreation c hs near row d row' d') : ∀ h ∈ hs, h.rel.length = none := by
  induction h with
  | nil => simp
  | cons hh _ ih =>
    cases hh with
    | mk hlength => exact List.forall_mem_cons.2 ⟨hlength, ih⟩

lemma Tracks.bind_node {created found : Row} (h : Tracks created found) {name : Option String}
    {id : NodeId}
    (hrow : ∀ n, Dict.get? row' n = Dict.get? (created.bind name (.node id)) n) :
    Tracks row' (found.bind name (.node id)) := by
  constructor
  · intro n hn
    rw [hrow, Row.get?_bind] at hn
    rw [Row.get?_bind]
    split_ifs at hn ⊢
    exact h.free n hn
  · intro n i hn
    rw [hrow, Row.get?_bind] at hn
    rw [Row.get?_bind]
    split_ifs at hn ⊢
    · exact hn
    · exact h.node n i hn

/-- The names of a hop may be bound in either order: a name that stands for both ends up as the
relationship where that comes last, and then it is of no more use. -/
lemma Tracks.bind_hop {created found : Row} (h : Tracks created found)
    {rel node : Option String} {i : RelId} {id : NodeId}
    (hrow : ∀ n, Dict.get? row' n = Dict.get? (created.bind node (.node id)) n) :
    Tracks (row'.bind rel (.rel i)) ((found.bind rel (.rel i)).bind node (.node id)) := by
  constructor
  · intro n hn
    rw [Row.get?_bind] at hn
    rw [Row.get?_bind, Row.get?_bind]
    split_ifs at hn with hrel
    rw [hrow, Row.get?_bind] at hn
    split_ifs at hn with hnode
    rw [if_neg hnode, if_neg hrel, h.free n hn]
  · intro n j hn
    rw [Row.get?_bind] at hn
    rw [Row.get?_bind, Row.get?_bind]
    split_ifs at hn with hrel
    · cases hn
    · rw [hrow, Row.get?_bind] at hn
      split_ifs at hn with hnode
      · rw [if_pos hnode, hn]
      · rw [if_neg hnode, if_neg hrel, h.node n j hn]

/-! ### Finding what was created -/

lemma Tracks.bound?_eq_none {created found : Row} (h : Tracks created found)
    {name : Option String} (hname : created.bound? name = none) : found.bound? name = none := by
  cases name with
  | none => rfl
  | some n => exact h.free n hname

lemma Tracks.bound?_agrees {created found : Row} (h : Tracks created found) {name : Option String}
    {id : NodeId} (hname : ∀ v, created.bound? name = some v → v = .node id) :
    ∀ v, found.bound? name = some v → v = .node id := by
  intro v hv
  cases hc : created.bound? name with
  | none => simp [h.bound?_eq_none hc] at hv
  | some w =>
    obtain rfl := hname w hc
    obtain ⟨n, rfl, hn⟩ := Option.bind_eq_some_iff.1 hc
    exact Option.some.inj (hv.symm.trans (h.node n id hn))

/-- **Hops that were created are found** in every graph that has grown since, by a trail that has
come to where they start and has used none but older relationships. -/
theorem HopsCreation.follows {hs : List (Hop Expr)} {near : NodeId}
    (h : HopsCreation c (hs.map (·.map Expr.meaning)) near row d row' d')
    (hdef : ∀ h ∈ hs, (∀ e ∈ h.rel.properties, Definite c e (f e)) ∧
      ∀ e ∈ h.node.properties, Definite c e (f e))
    (hd : d.store.Sound) (hrow : NodesExist d.store row) {m : Matcher} (hm : m.store.Sound)
    (hgrows : d'.store.Grows m.store) {t : Trail} (ht : t.path.last? = some near)
    (htracks : Tracks row t.row) (hused : t.used.Nodup) (hold : ∀ i ∈ t.used, i < d.store.nextRel) :
    ∃ u, m.Follows (hs.map fun h => .hop ((h.map f).map constant)) t u := by
  induction hs generalizing near row d t with
  | nil => exact ⟨t, .nil t⟩
  | cons hop hs ih =>
    cases h with
    | @cons _ _ _ far _ row₁ _ _ d₁ _ hh hhs =>
    have hhop := hh.created hd hrow
    have hrest := hhs.created hhop.sound hhop.nodes
    cases hh with
    | @mk type i _ source target row₂ ps d₂ _ hlength htype hfree hnode hjoins hps hrel =>
    obtain ⟨hrelDef, hnodeDef⟩ := hdef hop (by simp)
    have hfar := hnode.created hd hrow
    have hnew := Store.createRel_eq_ok hfar.sound hrel
    have hgrown : d₁.store.Grows m.store := hrest.grows.trans hgrows
    have hi : i = d.store.nextRel := hnew.new.trans hfar.nextRel
    have hedge : m.store.Edge (hop.map f).rel.direction (Accepts (hop.map f).rel) i near far := by
      refine ⟨_, hgrown.rel? hnew.rel?, ⟨.inr ?_, ?_⟩, hjoins _ rfl rfl⟩
      · have : hop.rel.types = [type] := htype
        simp [Hop.map, RelPattern.map, this]
      · exact fulfils_of_newProperties hrelDef hps
    have hstep := follows_hop (h := hop.map f) hm hlength ht hused
      (fun hmem => (hold i hmem).ne hi) hedge (htracks.bound?_eq_none hfree)
      (hnode.isNode hd hrow hnodeDef (hnew.grows.trans hgrown)) (htracks.bound?_agrees hfar.agrees)
    have hused' : (t.used ++ [i]).Nodup :=
      (nodup_used_append hused).2 ⟨List.nodup_singleton i, by
        simpa using fun hmem => (hold i hmem).ne hi⟩
    have hold' : ∀ j ∈ t.used ++ [i], j < d₁.store.nextRel := by
      rw [hnew.nextRel, ← hnew.new]
      intro j hj
      rcases List.mem_append.1 hj with hj | hj
      · exact (hold j hj).trans_le (hi.ge.trans (Nat.le_succ i))
      · exact (List.mem_singleton.1 hj).le.trans_lt (Nat.lt_succ_self i)
    obtain ⟨u, hu⟩ := ih hhs (fun h hh => hdef h (by simp [hh])) hhop.sound hhop.nodes
      (t := ⟨_, t.used ++ [i], t.path.extend [(i, far)]⟩) (by simp [Path.extend, Path.last?])
      (htracks.bind_hop hfar.row) hused' hold'
    exact ⟨u, hstep.append hu⟩

/-- A pattern that was created is found from the row that it was created in. -/
theorem createPath_found {p : PathPattern Expr} (hall : p.selector = .all)
    (hdef : ∀ e ∈ p.properties, Definite c e (f e)) (hd : d.store.Sound)
    (hrow : NodesExist d.store row)
    (h : ExceptT.run (createPath c (p.map Expr.meaning) row) d = (.ok row', d')) :
    ∃ found, found ≠ [] ∧ (c.on d'.store).matcher.rows
      [Meaning.parts (p.map Expr.meaning) (c.on d'.store)] row = .ok found := by
  let m := (c.on d'.store).matcher
  have hparts : Meaning.parts (p.map Expr.meaning) (c.on d'.store) = (p.map f).map constant := by
    rw [Meaning.parts, PathPattern.map_map, PathPattern.map_map]
    exact PathPattern.map_congr fun e he => funext fun row => (hdef e he).value d'.store row
  have hstartDef : ∀ e ∈ p.start.properties, Definite c e (f e) := fun e he =>
    hdef e (by simp_all [PathPattern.properties])
  have hhopsDef : ∀ h ∈ p.hops, (∀ e ∈ h.rel.properties, Definite c e (f e)) ∧
      ∀ e ∈ h.node.properties, Definite c e (f e) := fun h hh =>
    ⟨fun e he => hdef e (List.mem_append_right _ (List.mem_flatMap.2 ⟨h, hh, by simpa using he⟩)),
      fun e he => hdef e (List.mem_append_left _ (List.mem_append_right _
        (List.mem_flatMap.2 ⟨h, hh, by simpa using he⟩)))⟩
  obtain ⟨start, row₁, d₁, row₂, hstart, hhops⟩ := createPath_eq_ok h
  have hfirst := hstart.created hd hrow
  have hrest := hhops.created hfirst.sound hfirst.nodes
  have htracks : Tracks row row := ⟨fun _ h => h, fun _ _ h => h⟩
  have hbegin := follows_start (m := m) (t := .begin row) hrest.sound
    (hstart.isNode hd hrow hstartDef hrest.grows) hfirst.agrees
  obtain ⟨u, hu⟩ := hhops.follows hhopsDef hfirst.sound hfirst.nodes (m := m) hrest.sound (.refl _)
    (t := { Trail.begin row with row := _, path := .single start }) rfl
    (htracks.bind_node hfirst.row) List.nodup_nil (by simp [Trail.begin])
  have hclose : m.Follows [.close p.name] u { u with row := u.row.bind p.name (.path u.path) } :=
    .cons rfl (List.mem_singleton_self _) (.nil _)
  have hmoves : (p.map f).hops.map (fun h => Move.hop (h.map constant)) =
      p.hops.map fun h => .hop ((h.map f).map constant) := List.map_map ..
  obtain ⟨w, hpath⟩ : ∃ w, m.Follows (Move.ofPattern ((p.map f).map constant)) (.begin row) w := by
    rw [ofPattern_constant (p := p.map f) hall, hmoves]
    exact ⟨_, hbegin.append (hu.append hclose)⟩
  obtain ⟨ts, hts, hmem⟩ := hpath.mem_follow (move_total hrest.sound hall)
  refine ⟨ts.map Trail.row, List.ne_nil_of_mem (List.mem_map_of_mem hmem), ?_⟩
  rw [hparts, Matcher.rows, List.flatMap_singleton, hts]
  rfl

/-- What is found was asked for with properties that are equal to themselves. -/
lemma equal_of_found {p : PathPattern Expr} (hall : p.selector = .all)
    (hlength : ∀ h ∈ p.hops, h.rel.length = none) (hconst : ∀ e ∈ p.properties, e.Constant)
    {s s' : Store} {found : List Row} (hfound : found ≠ [])
    (h : (c.on s').matcher.rows [Meaning.parts (p.map Expr.meaning) (c.on s')] row = .ok found) :
    ∀ e ∈ p.properties, ∃ v, e.meaning.value (c.on s) row = .ok v ∧ v.equals v = some true := by
  intro e he
  obtain ⟨ts, hts, hmap⟩ := bind_eq_ok.1 h
  cases hmap
  obtain ⟨t, ht⟩ := List.exists_mem_of_ne_nil ts (by simpa using hfound)
  rw [List.flatMap_singleton] at hts
  have hpart : e.meaning.part (c.on s') ∈
      (Meaning.parts (p.map Expr.meaning) (c.on s')).properties := by
    rw [Meaning.parts, PathPattern.properties_map, PathPattern.properties_map, List.map_map]
    exact List.mem_map_of_mem he
  obtain ⟨row', ps, actual, hps, hmet⟩ := met_of_follows hall
    (by simpa [Meaning.parts, PathPattern.map, Hop.map, RelPattern.map] using hlength)
    (follows_of_mem hts ht) _ hpart
  have hvalue : e.meaning.value (c.on s') row' = .ok (.map ps) := by
    obtain ⟨v, hv, hreq⟩ := bind_eq_ok.1 hps
    cases v <;> cases hreq
    exact hv
  refine ⟨.map ps, ((hconst e he).value_eq c s s' row row').trans hvalue, ?_⟩
  refine Value.equals_map_self_iff.2 fun x hx => ?_
  obtain ⟨u, -, hu⟩ := Option.any_eq_true _ _ |>.1 (List.all_eq_true.1 hmet x hx)
  exact Value.equals_self_of_equals (of_decide_eq_true hu)

/-! ### What a creation takes for properties -/

/-- An expression stands for properties somewhere, or for null in their place. -/
def IsProperties (c : Context) (e : Expr) : Prop :=
  ∃ s row v, e.meaning.value (c.on s) row = .ok v ∧ (v = .null ∨ ∃ ps, v = .map ps)

lemma NewProperties.isProperties {part : Option Expr} {s : Store} {ps : Properties}
    (h : NewProperties c s row (part.map Expr.meaning) ps) : ∀ e ∈ part, IsProperties c e := by
  rintro e rfl
  cases h with
  | null h => exact ⟨s, row, _, h, .inl rfl⟩
  | map h => exact ⟨s, row, _, h, .inr ⟨ps, rfl⟩⟩

lemma NodeCreation.isProperties {p : NodePattern Expr} {id : NodeId}
    (h : NodeCreation c (p.map Expr.meaning) row d id row' d') :
    ∀ e ∈ p.properties, IsProperties c e := by
  cases h with
  | bound _ _ hp =>
    have hp : p.properties = none := by simpa [NodePattern.map] using hp
    simp [hp]
  | new _ hps _ => exact NewProperties.isProperties hps

lemma HopsCreation.isProperties {hs : List (Hop Expr)} {near : NodeId}
    (h : HopsCreation c (hs.map (·.map Expr.meaning)) near row d row' d') :
    ∀ h ∈ hs, (∀ e ∈ h.rel.properties, IsProperties c e) ∧
      ∀ e ∈ h.node.properties, IsProperties c e := by
  induction hs generalizing near row d with
  | nil => simp
  | cons hop hs ih =>
    cases h with
    | cons hh hhs =>
    cases hh with
    | mk _ _ _ hnode _ hps _ =>
    refine List.forall_mem_cons.2 ⟨⟨NewProperties.isProperties hps, ?_⟩, ih hhs⟩
    exact NodeCreation.isProperties hnode

lemma createPath_isProperties {p : PathPattern Expr}
    (h : ExceptT.run (createPath c (p.map Expr.meaning) row) d = (.ok row', d')) :
    ∀ e ∈ p.properties, IsProperties c e := by
  obtain ⟨_, _, _, _, hstart, hhops⟩ := createPath_eq_ok h
  have hhops := hhops.isProperties
  simp only [PathPattern.properties, List.mem_append, List.mem_flatMap, Option.mem_toList]
  rintro e ((he | ⟨h, hh, he⟩) | ⟨h, hh, he⟩)
  · exact NodeCreation.isProperties hstart e he
  · exact (hhops h hh).2 e he
  · exact (hhops h hh).1 e he

/-- A constant that stands for properties, and is equal to itself, is definite. -/
lemma definite_of_equal {e : Expr} (hc : c.Ordered) (he : e.Constant) (hprops : IsProperties c e)
    {s : Store} {v : Value} (hv : e.meaning.value (c.on s) row = .ok v)
    (hequal : v.equals v = some true) : Definite c e (e.properties (c.on s) row) := by
  obtain ⟨s', row', w, hw, hmap⟩ := hprops
  obtain rfl : v = w := Except.ok.inj (hv.symm.trans ((he.value_eq c s s' row row').trans hw))
  obtain rfl | ⟨ps, rfl⟩ := hmap
  · cases hequal
  · rw [Expr.properties, hv]
    refine ⟨fun s' row' => (he.value_eq c s' s row' row).trans hv, he.ascending hc hv, ?_⟩
    exact Value.equals_map_self_iff.1 hequal

/-! ### Merging again -/

variable {p : PathPattern Meaning}

/-- Merging takes what it finds: it counts the matches and leaves the graph as it is. -/
def MatchesOnly (c : Context) (p : PathPattern Meaning) (row : Row) (d : Draft) : Prop :=
  ∃ found, found ≠ [] ∧
    (c.on d.store).matcher.rows [Meaning.parts p (c.on d.store)] row = .ok found ∧
    ExceptT.run (mergeRow c p [] [] row) d =
      (.ok found, { d with tally := d.tally + { mergesMatched := found.length } })

lemma run_eachRow_setItems_nil (rows : List Row) (d : Draft) :
    ExceptT.run (eachRow (setItems c []) rows) d = (.ok rows, d) := by
  have hnone (rows : List Row) : ExceptT.run (rows.forM (setItems c [])) d = (.ok (), d) := by
    induction rows with
    | nil => rfl
    | cons row rows ih => exact ih
  exact run_bind_ok (hnone rows) _

lemma matchesOnly_of_found {found : List Row} (hfound : found ≠ [])
    (h : (c.on d.store).matcher.rows [Meaning.parts p (c.on d.store)] row = .ok found) :
    MatchesOnly c p row d := by
  refine ⟨found, hfound, h, ?_⟩
  have hread :
      ExceptT.run (Edit.reading c fun env => env.matcher.rows [Meaning.parts p env] row) d =
        (.ok found, d) := by
    rw [Edit.run_reading, h]
  rw [mergeRow, run_bind_ok hread, if_neg (by simpa using hfound)]
  exact run_eachRow_setItems_nil found _

lemma createPath_of_mergeRow {rows : List Row}
    (hnone : (c.on d.store).matcher.rows [Meaning.parts p (c.on d.store)] row = .ok [])
    (h : ExceptT.run (mergeRow c p [] [] row) d = (.ok rows, d')) :
    ∃ row', ExceptT.run (createPath c p row) d = (.ok row', d') := by
  have hread :
      ExceptT.run (Edit.reading c fun env => env.matcher.rows [Meaning.parts p env] row) d =
        (.ok [], d) := by
    rw [Edit.run_reading, hnone]
  rw [mergeRow, run_bind_ok hread] at h
  obtain ⟨row', u, hcreate, h₁⟩ := run_bind_eq_ok.1 h
  cases h₁
  exact ⟨row', hcreate⟩

/-- **Merging twice creates once**, unless what was asked for cannot be found: in every store of a
run, if merging a pattern with constant properties has found nothing and created it, then merging
it again takes what it has created if and only if the properties are equal to themselves, which
means that there is neither null nor NaN in them. Null in the place of properties is not equal to
itself either. -/
theorem mergeRow_again (calls : List Store.Call) (t : Tally) (c : Context) (hc : c.Ordered)
    (p : PathPattern Expr) (hall : p.selector = .all) (hconst : ∀ e ∈ p.properties, e.Constant)
    (row : Row) (hrow : NodesExist (Store.run calls {}) row) (rows : List Row) (d : Draft)
    (hnone : (c.on (Store.run calls {})).matcher.rows
      [Meaning.parts (p.map Expr.meaning) (c.on (Store.run calls {}))] row = .ok [])
    (hcreate : ExceptT.run (mergeRow c (p.map Expr.meaning) [] [] row) ⟨Store.run calls {}, t⟩ =
      (.ok rows, d)) :
    (MatchesOnly c (p.map Expr.meaning) row d ↔ ∀ e ∈ p.properties,
      ∃ v, e.meaning.value (c.on (Store.run calls {})) row = .ok v ∧ v.equals v = some true) ∧
    ∀ v : Value, v.equals v = some true ↔ v.isDefinite := by
  have hs : (Store.run calls {}).Sound := (Store.lawful_empty.run calls).sound
  obtain ⟨row', hpath⟩ := createPath_of_mergeRow (d := ⟨Store.run calls {}, t⟩) hnone hcreate
  refine ⟨⟨fun h => ?_, fun h => ?_⟩, Value.equals_self_iff⟩
  · obtain ⟨found, hfound, hrows, -⟩ := h
    obtain ⟨_, _, _, _, -, hhops⟩ := createPath_eq_ok hpath
    refine equal_of_found hall (fun hop hhop => ?_) hconst hfound hrows
    exact hhops.length (hop.map Expr.meaning) (List.mem_map_of_mem hhop)
  · have hprops := createPath_isProperties hpath
    have hdef : ∀ e ∈ p.properties,
        Definite c e (e.properties (c.on (Store.run calls {})) row) := by
      intro e he
      obtain ⟨v, hv, hequal⟩ := h e he
      exact definite_of_equal hc (hconst e he) (hprops e he) hv hequal
    obtain ⟨found, hfound, hrows⟩ := createPath_found hall hdef hs hrow hpath
    exact matchesOnly_of_found hfound hrows

/-- Two relationships from a new node to another one, of which the first name comes up twice. A
list with null in it is created once more each time. -/
theorem mergeRow_again_twofold :
    let p : PathPattern Expr :=
      { name := some "p"
        selector := .all
        start := ⟨some "a", ["A"], some (.of (.map [("k", .of (.list [.of (.parameter "k")]))]))⟩
        hops := [⟨⟨some "r", ["R"], .outgoing, some (.of (.map [("l", .of (.literal (.str "x")))])),
            none⟩, ⟨none, [], none⟩⟩,
          ⟨⟨none, ["S"], .incoming, none, none⟩, ⟨some "a", [], none⟩⟩] }
    let c (v : Value) : Context := ⟨[("k", v)], 8, .ofNat 0⟩
    let created (v : Value) :=
      ExceptT.run (mergeRow (c v) (p.map Expr.meaning) [] [] []) ⟨Store.run [] {}, {}⟩
    MatchesOnly (c (.str "y")) (p.map Expr.meaning) [] (created (.str "y")).2 ∧
      ¬ MatchesOnly (c .null) (p.map Expr.meaning) [] (created .null).2 := by
  intro p c created
  have hproperties : p.properties = [.of (.map [("k", .of (.list [.of (.parameter "k")]))]),
    .of (.map [("l", .of (.literal (.str "x")))])] := rfl
  have hconst : ∀ e ∈ p.properties, e.Constant := by
    rw [hproperties, List.forall_mem_cons, List.forall_mem_singleton]
    refine ⟨.map (List.forall_mem_singleton.2 (.list ?_)),
      .map (List.forall_mem_singleton.2 (.literal rfl))⟩
    exact List.forall_mem_singleton.2 (.parameter "k")
  have hordered {v : Value} (hv : v.isScalar) : (c v).Ordered := by
    intro n es h
    change (if "k" = n then some v else none) = _ at h
    split_ifs at h
    obtain rfl := Option.some.inj h
    cases hv
  have hrow : NodesExist (Store.run [] {}) [] := nofun
  let row : Row := [("a", .node 0), ("p", .path ⟨[0, 1, 0], [0, 1]⟩), ("r", .rel 0)]
  have hagain {v : Value} (hv : v.isScalar) (hrows : (created v).1 = .ok [row]) :=
    (mergeRow_again [] {} (c v) (hordered hv) p rfl hconst [] hrow [row] (created v).2 rfl
      (Prod.ext hrows rfl)).1
  have hy := hagain (v := .str "y") rfl (by decide +kernel)
  have hnull := hagain (v := .null) rfl (by decide +kernel)
  constructor
  · rw [hy, hproperties, List.forall_mem_cons, List.forall_mem_singleton]
    exact ⟨⟨_, rfl, rfl⟩, ⟨_, rfl, rfl⟩⟩
  · rw [hnull, hproperties, List.forall_mem_cons]
    rintro ⟨⟨v, hv, hequal⟩, -⟩
    cases hv
    cases hequal

end Query

end PropertyGraph
