import PropertyGraph.Meaning.Layer
import PropertyGraph.Proofs.Except
import PropertyGraph.Proofs.Matching.Assignment
import PropertyGraph.Proofs.Store.Run

/-!
Following trails finds every satisfying assignment, once.

The results of each move are listed by what is picked for it, and so the results of some moves
by what is picked for one after the other: what a move has done to a trail is known from its
pick. The induction over the hops of a pattern, and over the patterns, leaves open which moves
come after them.
-/

namespace PropertyGraph

/-! ### Results by index -/

section

variable {α β γ δ ω : Type}

/-- The results are those of all indices with a property, each of which comes once. -/
def Yields (x : Except Error (List β)) (P : α → Prop) (f : α → β) : Prop :=
  ∃ as : List α, as.Nodup ∧ (∀ a, a ∈ as ↔ P a) ∧ x = .ok (as.map f)

namespace Yields

variable {x : Except Error (List β)} {P : α → Prop} {f : α → β}

/-- **Results of results** are listed by pairs of indices. -/
theorem bind {k : β → Except Error (List δ)} {Q : α → γ → Prop} {g : α → γ → δ} (h : Yields x P f)
    (hk : ∀ a, P a → Yields (k (f a)) (Q a) (g a)) :
    Yields (do return (← (← x).mapM k).flatten) (fun e : α × γ => P e.1 ∧ Q e.1 e.2)
      fun e => g e.1 e.2 := by
  obtain ⟨as, hnodup, hmem, rfl⟩ := h
  choose! cs hcs using hk
  refine ⟨as.flatMap fun a => (cs a).map (a, ·), List.nodup_flatMap.2 ⟨fun a ha => ?_, ?_⟩,
    fun e => ?_, ?_⟩
  · exact (hcs a ((hmem a).1 ha)).1.map (Prod.mk_right_injective a)
  · refine hnodup.imp fun {a b} hab => List.disjoint_left.2 fun e he he' => hab ?_
    obtain ⟨c, -, rfl⟩ := List.mem_map.1 he
    obtain ⟨d, -, h⟩ := List.mem_map.1 he'
    exact (Prod.mk.inj h).1.symm
  · rw [List.mem_flatMap]
    constructor
    · rintro ⟨a, ha, he⟩
      obtain ⟨c, hc, rfl⟩ := List.mem_map.1 he
      have hP := (hmem a).1 ha
      exact ⟨hP, ((hcs a hP).2.1 c).1 hc⟩
    · rintro ⟨hP, hQ⟩
      exact ⟨e.1, (hmem _).2 hP, List.mem_map.2 ⟨e.2, ((hcs _ hP).2.1 _).2 hQ, rfl⟩⟩
  · have hk : (as.map f).mapM k = .ok (as.map fun a => (cs a).map (g a)) := by
      rw [List.mapM_map]
      exact mapM_eq_ok fun a ha => (hcs a ((hmem a).1 ha)).2.2
    change (do return (← (as.map f).mapM k).flatten) = _
    rw [hk]
    change Except.ok (List.flatten _) = _
    rw [← List.flatMap_def, List.map_flatMap]
    simp only [List.map_map]
    rfl

/-- The same results by other indices. -/
lemma reindex {P' : γ → Prop} {f' : γ → β} (h : Yields x P f) (e : α → γ) (he : e.Injective)
    (hP : ∀ c, P' c ↔ ∃ a, P a ∧ e a = c) (hf : ∀ a, P a → f' (e a) = f a) : Yields x P' f' := by
  obtain ⟨as, hnodup, hmem, rfl⟩ := h
  refine ⟨as.map e, hnodup.map he, fun c => ?_, ?_⟩
  · simp only [List.mem_map, hmem, hP]
  · rw [List.map_map]
    exact congrArg _ (List.map_congr_left fun a ha => (hf a ((hmem a).1 ha)).symm)

/-- What a list is filtered and mapped to, by indices that tell its elements apart. -/
lemma filterMap {ws : List ω} (hws : ws.Nodup) (key : ω → α) (p : ω → Bool) (g : ω → β)
    (hkey : ∀ v ∈ ws, ∀ w ∈ ws, key v = key w → v = w)
    (hP : ∀ a, P a ↔ ∃ w ∈ ws, p w ∧ key w = a) (hf : ∀ w ∈ ws, p w → g w = f (key w)) :
    Yields (.ok (ws.filterMap fun w => if p w then some (g w) else none)) P f := by
  refine ⟨(ws.filter p).map key, ?_, fun a => ?_, ?_⟩
  · refine (hws.filter _).map_on fun v hv w hw => hkey v ?_ w ?_
    · exact (List.mem_filter.1 hv).1
    · exact (List.mem_filter.1 hw).1
  · simp only [List.mem_map, List.mem_filter, and_assoc, hP]
  · rw [List.map_map, ← List.filterMap_eq_filter, List.map_filterMap]
    refine congrArg _ (List.filterMap_congr fun w hw => ?_)
    by_cases hp : p w
    · simp [Option.guard, hp, hf w hw hp]
    · simp [Option.guard, hp]

end Yields

end

/-! ### Nodes -/

namespace Matcher

open Cypher

/-- The part of a pattern that stands for the same properties in every row. -/
def constant (required : Properties) : Part := fun _ => .ok (.map required)

lemma required_constant (ps : Option Properties) (row : Row) :
    required (ps.map constant) row = .ok (ps.getD []) := by cases ps <;> rfl

lemma hasProperties_iff {actual : Properties} {ps : Option Properties} :
    hasProperties actual (ps.getD []) ↔ Fulfils ps actual := by
  simp [hasProperties, Fulfils, Option.any_eq_true]

variable {m : Matcher} {a : NodeId} {t : Trail}

lemma nodeFits_iff {p : NodePattern Properties} {id : NodeId} :
    m.nodeFits (p.map constant) (p.properties.getD []) id ↔ m.IsNode p id := by
  simp only [nodeFits, IsNode, Option.any_eq_true, Bool.and_eq_true, List.all_eq_true,
    decide_eq_true_eq, hasProperties_iff]
  rfl

lemma relFits_iff {p : RelPattern Properties} {r : Relationship} :
    relFits (p.map constant) (p.properties.getD []) r ↔ Accepts p r := by
  simp only [relFits, Accepts, Bool.and_eq_true, Bool.or_eq_true, List.isEmpty_iff,
    decide_eq_true_eq, hasProperties_iff]
  rfl

/-- **The candidates of a node** are the nodes that fit it and agree with what it is bound to. -/
theorem candidates_constant (hs : m.store.Sound) (p : NodePattern Properties) (row : Row) :
    ∃ ids, m.candidates (p.map constant) row = .ok ids ∧ ids.Nodup ∧
      ∀ id, id ∈ ids ↔ m.IsNode p id ∧ ∀ u, row.bound? p.name = some u → u = .node id := by
  have hreq : required (p.map constant).properties row = .ok (p.properties.getD []) :=
    required_constant p.properties row
  have hname : (p.map constant).name = p.name := rfl
  have hlabels : (p.map constant).labels = p.labels := rfl
  rw [candidates, hreq, hname, hlabels]
  dsimp only [bind, Except.bind]
  cases hb : row.bound? p.name with
  | some u =>
    by_cases hu : ∃ id, u = .node id
    · obtain ⟨id, rfl⟩ := hu
      refine ⟨_, rfl, (List.nodup_singleton id).filter _, fun j => ?_⟩
      rw [List.mem_filter, List.mem_singleton, nodeFits_iff]
      constructor
      · rintro ⟨rfl, h⟩
        exact ⟨h, by simp⟩
      · rintro ⟨h, hj⟩
        obtain rfl := Value.node.inj (hj _ rfl)
        exact ⟨rfl, h⟩
    · refine ⟨[], ?_, List.nodup_nil, fun j => ?_⟩
      · cases u with
        | node id => exact absurd ⟨id, rfl⟩ hu
        | _ => rfl
      · refine ⟨fun h => absurd h List.not_mem_nil, fun h => absurd ⟨j, h.2 u rfl⟩ hu⟩
  | none =>
    refine ⟨_, rfl, ?_, fun j => ?_⟩
    · refine List.Nodup.filter _ ?_
      split
      · exact (hs.labelled.sorted _).imp ne_of_lt
      · exact List.pairwise_map.2 (hs.nodes.imp fun h => ne_of_lt h)
    · rw [List.mem_filter, nodeFits_iff]
      refine ⟨fun h => ⟨h.2, by simp⟩, fun h => ⟨?_, h.1⟩⟩
      obtain ⟨n, hn, hlabels, -⟩ := h.1
      split
      · rename_i l _ hl
        exact hs.mem_nodesWith.2 ⟨n, hn, hlabels l (by simp [hl])⟩
      · exact List.mem_map.2 ⟨_, Dict.mem_of_get? hn, rfl⟩

/-- The trail that begins a pattern at a node. -/
def begun (t : Trail) (p : NodePattern Properties) (id : NodeId) : Trail :=
  { t with row := Binding.extend t.row (Binding.named p.name .node (.node id)), path := .single id }

lemma yields_start (hs : m.store.Sound) (p : NodePattern Properties) (t : Trail) :
    Yields (m.move t (.start (p.map constant)))
      (fun id => m.IsNode p id ∧ Binding.Checked t.row (Binding.named p.name .node (.node id)))
      (begun t p) := by
  obtain ⟨ids, hids, hnodup, hmem⟩ := candidates_constant hs p t.row
  refine ⟨ids, hnodup, fun id => ?_, ?_⟩
  · simp [hmem, Binding.checked_named, Role.unchecked]
  · rw [move, hids]
    refine congrArg Except.ok (List.map_congr_left fun id _ => ?_)
    rw [begun, Binding.extend_named]
    rfl

/-! ### Hops -/

/-- The trail that goes on along some relationships from a node. -/
def onward (m : Matcher) (t : Trail) (a : NodeId) (bs : List Binding) (is : List RelId) :
    Trail where
  row := Binding.extend t.row bs
  used := t.used ++ is
  path := ⟨t.path.nodes ++ m.store.nodesAlong a is, t.path.rels ++ is⟩

lemma onward_nil (m : Matcher) (t : Trail) (a : NodeId) : m.onward t a [] [] = t := by
  simp [onward, Binding.extend, Store.nodesAlong]

lemma onward_onward {h : Hop Properties} {l : Leg} (hl : m.IsLeg h a l) (t : Trail)
    (bs cs : List Binding) (is : List RelId) :
    m.onward (m.onward t a bs l.1) l.2 cs is = m.onward t a (bs ++ cs) (l.1 ++ is) := by
  simp only [onward, Binding.extend_append, hl.nodesAlong_append, List.append_assoc]

/-- What is picked when a hop goes along a walk. -/
def legOf (a : NodeId) (w : Walk) : Leg := (w.map Prod.fst, (w.getLast?.map Prod.snd).getD a)

lemma hopValue_eq {ε : Type} (p : RelPattern ε) (w : Walk) :
    hopValue p.length w = p.picked (w.map Prod.fst) := by
  rw [hopValue.eq_def, RelPattern.picked.eq_def]
  rcases p.length with _ | range
  · cases w with
    | nil => rfl
    | cons => rfl
  · cases w with
    | nil => rfl
    | cons => simp [relList]

lemma nodup_used_append {used is : List RelId} (hused : used.Nodup) :
    (used ++ is).Nodup ↔ is.Nodup ∧ ∀ i ∈ is, i ∉ used := by
  rw [List.nodup_append]
  refine ⟨fun h => ⟨h.2.1, fun i hi hu => h.2.2 i hu i hi rfl⟩, fun h => ⟨hused, h.1, ?_⟩⟩
  rintro i hi j hj rfl
  exact h.2 i hj hi

/-- **The walks of a hop** are those along relationships that it accepts and that are not used,
of a length that fits, and that agree with what the hop is bound to. -/
theorem mem_hopWalks (hs : m.store.Sound) (hused : t.used.Nodup) {p : RelPattern Properties}
    {w : Walk} :
    w ∈ m.hopWalks (p.map constant) (p.properties.getD []) t a ↔
      (∃ b, m.store.WalkTo p.direction (Accepts p) a w b) ∧ m.LengthFits p.length w.length ∧
        (t.used ++ w.map Prod.fst).Nodup ∧
          (¬ p.role.unchecked → ∀ u, t.row.bound? p.name = some u →
            u = p.picked (w.map Prod.fst)) := by
  have hfits : (fun r => relFits (p.map constant) (p.properties.getD []) r = true) = Accepts p :=
    funext fun r => propext relFits_iff
  have hlength : (p.map constant).length = p.length := rfl
  rw [nodup_used_append hused, hopWalks, hlength]
  dsimp only
  rcases hlen : p.length with _ | range
  · have hedge {i : RelId} {b : NodeId} :
        m.store.Edge p.direction (fun r => ((t.row.bound? p.name).all (· = .rel r.id) &&
          relFits (p.map constant) (p.properties.getD []) r) = true) i a b ↔
        m.store.Edge p.direction (Accepts p) i a b ∧
          ∀ u, t.row.bound? p.name = some u → u = .rel i := by
      simp only [Bool.and_eq_true, relFits_iff, Option.all_eq_true, decide_eq_true_eq]
      constructor
      · rintro ⟨r, hr, ⟨hb, hacc⟩, hj⟩
        exact ⟨⟨r, hr, hacc, hj⟩, hs.rel_id hr ▸ hb⟩
      · rintro ⟨⟨r, hr, hacc, hj⟩, hb⟩
        exact ⟨r, hr, ⟨(hs.rel_id hr).symm ▸ hb, hacc⟩, hj⟩
    have hpicked (i : RelId) : p.picked [i] = .rel i := by rw [RelPattern.picked.eq_def, hlen]
    have hrole : ¬ p.role.unchecked := by simp [RelPattern.role, hlen, Role.unchecked]
    simp only [List.mem_map, Prod.exists, hs.mem_steps]
    constructor
    · rintro ⟨i, b, ⟨hi, he⟩, rfl⟩
      obtain ⟨he, hb⟩ := hedge.1 he
      exact ⟨⟨b, .cons he (.nil b)⟩, rfl, by simpa using hi, fun _ => by simpa [hpicked] using hb⟩
    · rintro ⟨⟨b, hw⟩, hlength, hi, hb⟩
      obtain ⟨⟨i, c⟩, rfl⟩ := List.length_eq_one_iff.1 hlength
      cases hw with
      | cons he _ =>
        exact ⟨i, c, ⟨by simpa using hi, hedge.2 ⟨he, by simpa [hpicked] using hb hrole⟩⟩, rfl⟩
  · have hrole : p.role.unchecked := by simp [RelPattern.role, hlen, Role.unchecked]
    change w ∈ m.store.walks ⟨p.direction, relFits (p.map constant) (p.properties.getD [])⟩
      (range.max.getD m.maxHops) (range.min.getD 1) t.used a ↔ _
    rw [hs.mem_walks, hfits]
    simp [hrole, LengthFits]

lemma nodup_hopWalks (hs : m.store.Sound) (p : RelPattern Part) (required : Properties) (t : Trail)
    (a : NodeId) : (m.hopWalks p required t a).Nodup := by
  rw [hopWalks]
  split
  · exact (hs.nodup_steps _ _ _).of_map.map fun _ _ h => (List.cons.inj h).1
  · exact hs.nodup_walks _ _ _ _ _

lemma bound?_extend_named {row : Row} {name name' : Option String} {role : Role} {v : Value}
    (h : ∀ n, name = some n → name' ≠ some n) :
    (Binding.extend row (Binding.named name role v)).bound? name' = row.bound? name' := by
  rw [Binding.extend_named]
  rcases name with _ | n
  · rfl
  · rcases name' with _ | n'
    · rfl
    · exact (Dict.get?_insert ..).trans (if_neg fun hn => h n rfl (congrArg some hn.symm))

lemma endFits_iff {p : NodePattern Properties} {row : Row} {id : NodeId} :
    m.endFits (p.map constant) row (p.properties.getD []) id ↔
      m.IsNode p id ∧ ∀ u, row.bound? p.name = some u → u = .node id := by
  rw [endFits, Bool.and_eq_true, nodeFits_iff, and_comm, Option.all_eq_true]
  simp only [decide_eq_true_eq]
  rfl

lemma checked_hop {h : Hop Properties} {l : Leg} {row : Row}
    (hnames : ∀ n, h.rel.name = some n → h.node.name ≠ some n) :
    Binding.Checked row (h.bindings l) ↔
      (¬ h.rel.role.unchecked → ∀ u, row.bound? h.rel.name = some u → u = h.rel.picked l.1) ∧
        ∀ u, row.bound? h.node.name = some u → u = .node l.2 := by
  rw [Hop.bindings, Binding.checked_append, Binding.checked_named, Binding.checked_named,
    bound?_extend_named hnames]
  simp [Role.unchecked]

/-- What a hop comes to from where the trail has come to. -/
lemma move_hop (h : Hop Properties) (ht : t.path.last? = some a) :
    m.move t (.hop (h.map constant)) =
      .ok ((m.hopWalks (h.rel.map constant) (h.rel.properties.getD []) t a).filterMap fun w =>
        if m.endFits (h.node.map constant) t.row (h.node.properties.getD []) (legOf a w).2 then
          some
            { row := (t.row.bind h.rel.name (hopValue h.rel.length w)).bind h.node.name
                (.node (legOf a w).2)
              used := t.used ++ w.map Prod.fst
              path := t.path.extend w }
        else none) := by
  rw [move, hopMove, ht]
  change (required (h.rel.properties.map constant) t.row >>= fun _ =>
    required (h.node.properties.map constant) t.row >>= _) = _
  rw [required_constant, required_constant]
  rfl

/-- What is picked for a hop is listed by the legs from where the trail has come to. -/
theorem yields_hop (hs : m.store.Sound) (h : Hop Properties) (ht : t.path.last? = some a)
    (hused : t.used.Nodup) (hnames : ∀ n, h.rel.name = some n → h.node.name ≠ some n) :
    Yields (m.move t (.hop (h.map constant)))
      (fun l => m.IsLeg h a l ∧ (t.used ++ l.1).Nodup ∧ Binding.Checked t.row (h.bindings l))
      (fun l => m.onward t a (h.bindings l) l.1) := by
  have hwalk {w : Walk} (hw : w ∈ m.hopWalks (h.rel.map constant) (h.rel.properties.getD []) t a) :
      m.store.WalkTo h.rel.direction (Accepts h.rel) a w (legOf a w).2 := by
    obtain ⟨⟨b, hb⟩, -⟩ := (mem_hopWalks hs hused).1 hw
    have hlast := hb.last
    rwa [legOf, hlast]
  rw [move_hop h ht]
  refine Yields.filterMap (nodup_hopWalks hs _ _ _ _) (legOf a) _ _ ?_ (fun l => ?_) ?_
  · intro v hv w hw hvw
    exact (hwalk hv).eq_of_map_fst (hwalk hw) (Prod.mk.inj hvw).1
  · rw [checked_hop hnames]
    constructor
    · rintro ⟨⟨⟨w, hw, hl⟩, hlen, hnode⟩, hnodup, hrel, hend⟩
      have hleg : legOf a w = l := Prod.ext hl hw.last
      refine ⟨w, (mem_hopWalks hs hused).2 ⟨⟨_, hw⟩, ?_, hl ▸ hnodup, hl ▸ hrel⟩, ?_, hleg⟩
      · rwa [← List.length_map (f := Prod.fst), hl]
      · rw [hleg]
        exact endFits_iff.2 ⟨hnode, hend⟩
    · rintro ⟨w, hw, hfits, rfl⟩
      obtain ⟨-, hlen, hnodup, hrel⟩ := (mem_hopWalks hs hused).1 hw
      obtain ⟨hnode, hend⟩ := endFits_iff.1 hfits
      exact ⟨⟨⟨w, hwalk hw, rfl⟩, by simpa [legOf] using hlen, hnode⟩, hnodup, hrel, hend⟩
  · intro w hw _
    have hnodes : m.store.nodesAlong a (w.map Prod.fst) = w.map Prod.snd :=
      nodesAlong_walk (hwalk hw)
    rw [onward, Hop.bindings, Binding.extend_append, Binding.extend_named, Binding.extend_named,
      hopValue_eq, legOf, hnodes]
    rfl

/-! ### Patterns -/

/-- The rows of the trails that come of a trail. -/
def rowsAfter (m : Matcher) (vs : List Move) (t : Trail) : Except Error (List Row) := do
  return (← m.follow vs t).map Trail.row

lemma rowsAfter_cons (v : Move) (vs : List Move) (t : Trail) :
    m.rowsAfter (v :: vs) t = do return (← (← m.move t v).mapM (m.rowsAfter vs)).flatten := by
  have hmapM (ts : List Trail) : ts.mapM (m.rowsAfter vs) =
      (List.map (List.map Trail.row)) <$> ts.mapM (m.follow vs) := by
    induction ts with
    | nil => rfl
    | cons t ts ih =>
      rw [List.mapM_cons, List.mapM_cons, ih, rowsAfter]
      rcases m.follow vs t with _ | us
      · rfl
      · rcases ts.mapM (m.follow vs) with _ | uss
        · rfl
        · rfl
  rw [rowsAfter, follow]
  rcases m.move t v with _ | ts
  · rfl
  · change (do return (← (do return (← ts.mapM (m.follow vs)).flatten)).map Trail.row) =
      (do return (← ts.mapM (m.rowsAfter vs)).flatten)
    rw [hmapM]
    rcases ts.mapM (m.follow vs) with _ | uss
    · rfl
    · exact congrArg Except.ok List.map_flatten

/-- A move and those after it are listed by pairs of what is picked for them. -/
lemma yields_cons {α γ : Type} {v : Move} {vs : List Move} {P : α → Prop} {f : α → Trail}
    {Q : α → γ → Prop} {g : α → γ → Row} (hv : Yields (m.move t v) P f)
    (hvs : ∀ a, P a → Yields (m.rowsAfter vs (f a)) (Q a) (g a)) :
    Yields (m.rowsAfter (v :: vs) t) (fun e : α × γ => P e.1 ∧ Q e.1 e.2) fun e => g e.1 e.2 := by
  rw [rowsAfter_cons]
  exact hv.bind hvs

/-- What a trail checks of the legs of some hops. -/
structure LegsOn (m : Matcher) (t : Trail) (a : NodeId) (hops : List (Hop Properties))
    (ls : List Leg) : Prop where
  legs : m.Legs a hops ls
  nodup : (t.used ++ ls.flatMap Prod.fst).Nodup
  checked : Binding.Checked t.row (legBindings hops ls)

lemma legsOn_cons {h : Hop Properties} {hops : List (Hop Properties)} {l : Leg} {ls : List Leg} :
    m.LegsOn t a (h :: hops) (l :: ls) ↔
      (m.IsLeg h a l ∧ (t.used ++ l.1).Nodup ∧ Binding.Checked t.row (h.bindings l)) ∧
        m.LegsOn (m.onward t a (h.bindings l) l.1) l.2 hops ls := by
  have hbindings : legBindings (h :: hops) (l :: ls) = h.bindings l ++ legBindings hops ls := rfl
  have hused : (m.onward t a (h.bindings l) l.1).used ++ ls.flatMap Prod.fst =
      t.used ++ (l :: ls).flatMap Prod.fst := List.append_assoc ..
  constructor
  · rintro ⟨hlegs, hnodup, hchecked⟩
    rw [hbindings, Binding.checked_append] at hchecked
    cases hlegs with
    | cons hl hls =>
      rw [← hused] at hnodup
      exact ⟨⟨hl, (List.nodup_append.1 hnodup).1, hchecked.1⟩, hls, hnodup, hchecked.2⟩
  · rintro ⟨⟨hl, -, hchecked⟩, hls, hnodup, hchecked'⟩
    refine ⟨.cons hl hls, hused ▸ hnodup, ?_⟩
    rw [hbindings, Binding.checked_append]
    exact ⟨hchecked, hchecked'⟩

lemma last?_onward {h : Hop Properties} {l : Leg} (hl : m.IsLeg h a l) (bs : List Binding)
    (ht : t.path.last? = some a) : (m.onward t a bs l.1).path.last? = some l.2 := by
  obtain ⟨w, hw, hfst⟩ := hl.walk
  have hlast := hw.last
  change (t.path.nodes ++ m.store.nodesAlong a l.1).getLast? = _
  rw [← hfst, nodesAlong_walk hw, List.getLast?_append, List.getLast?_map]
  rcases hw' : w.getLast? with _ | e
  · rw [hw'] at hlast
    exact ht.trans (congrArg some hlast)
  · rw [hw'] at hlast
    exact congrArg some hlast

/-- **Hops, and the moves after them**, are listed by the legs of the hops. -/
theorem yields_hops (hs : m.store.Sound) {γ : Type} (vs : List Move) {hops : List (Hop Properties)}
    {Q : List Leg → γ → Prop} {g : List Leg → γ → Row} (ht : t.path.last? = some a)
    (hused : t.used.Nodup) (hnames : ∀ h ∈ hops, ∀ n, h.rel.name = some n → h.node.name ≠ some n)
    (hvs : ∀ ls, m.LegsOn t a hops ls →
      Yields (m.rowsAfter vs (m.onward t a (legBindings hops ls) (ls.flatMap Prod.fst))) (Q ls)
        (g ls)) :
    Yields (m.rowsAfter (hops.map (fun h => .hop (h.map constant)) ++ vs) t)
      (fun e : List Leg × γ => m.LegsOn t a hops e.1 ∧ Q e.1 e.2) fun e => g e.1 e.2 := by
  induction hops generalizing t a Q g with
  | nil =>
    have hnil : m.LegsOn t a [] [] := ⟨.nil a, by simpa using hused, trivial⟩
    have hrest := hvs [] hnil
    rw [show legBindings [] [] = [] from rfl, List.flatMap_nil, onward_nil] at hrest
    refine hrest.reindex (fun c => ([], c)) (Prod.mk_right_injective _) (fun e => ?_) fun _ _ => rfl
    constructor
    · rintro ⟨⟨hlegs, -⟩, hQ⟩
      obtain ⟨ls, c⟩ := e
      cases hlegs
      exact ⟨c, hQ, rfl⟩
    · rintro ⟨c, hQ, rfl⟩
      exact ⟨hnil, hQ⟩
  | cons h hops ih =>
    have hstep := yields_cons (yields_hop hs h ht hused (hnames h (by simp)))
      fun l hl => ih (Q := fun ls => Q (l :: ls)) (g := fun ls => g (l :: ls))
        (last?_onward hl.1 _ ht) hl.2.1 (fun h' hh' => hnames h' (by simp [hh'])) fun ls hls => by
          rw [onward_onward hl.1]
          exact hvs (l :: ls) (legsOn_cons.2 ⟨hl, hls⟩)
    refine hstep.reindex (fun e => (e.1 :: e.2.1, e.2.2)) ?_ (fun e => ?_) fun _ _ => rfl
    · rintro ⟨l, ls, c⟩ ⟨l', ls', c'⟩ heq
      simp only [Prod.mk.injEq, List.cons.injEq] at heq
      obtain ⟨⟨rfl, rfl⟩, rfl⟩ := heq
      rfl
    · constructor
      · rintro ⟨hlegs, hQ⟩
        obtain ⟨ls, c⟩ := e
        cases ls with
        | nil => cases hlegs.legs
        | cons l ls =>
          obtain ⟨hl, hls⟩ := legsOn_cons.1 hlegs
          exact ⟨(l, ls, c), ⟨hl, hls, hQ⟩, rfl⟩
      · rintro ⟨⟨l, ls, c⟩, ⟨hl, hls, hQ⟩, rfl⟩
        exact ⟨legsOn_cons.2 ⟨hl, hls⟩, hQ⟩

/-- What a trail checks of a choice for a pattern. -/
structure ChoiceOn (m : Matcher) (t : Trail) (p : PathPattern Properties) (c : Choice) : Prop where
  fits : m.Fits p c
  nodup : (t.used ++ c.rels).Nodup
  checked : Binding.Checked t.row (p.bindings m.store c)

/-- The trail after a pattern. -/
def chosen (m : Matcher) (t : Trail) (p : PathPattern Properties) (c : Choice) : Trail where
  row := Binding.extend t.row (p.bindings m.store c)
  used := t.used ++ c.rels
  path := c.path m.store

lemma choiceOn_iff {p : PathPattern Properties} {c : Choice} :
    m.ChoiceOn t p c ↔
      (m.IsNode p.start c.start ∧
        Binding.Checked t.row (Binding.named p.start.name .node (.node c.start))) ∧
          m.LegsOn (begun t p.start c.start) c.start p.hops c.legs := by
  have hchecked : Binding.Checked t.row (p.bindings m.store c) ↔
      Binding.Checked t.row (Binding.named p.start.name .node (.node c.start)) ∧
        Binding.Checked (begun t p.start c.start).row (legBindings p.hops c.legs) := by
    rw [PathPattern.bindings, Binding.checked_append, Binding.checked_append]
    refine and_iff_left (Binding.checked_named.2 fun h => absurd rfl h)
  constructor
  · rintro ⟨⟨hstart, hlegs⟩, hnodup, h⟩
    exact ⟨⟨hstart, (hchecked.1 h).1⟩, hlegs, hnodup, (hchecked.1 h).2⟩
  · rintro ⟨⟨hstart, h⟩, hlegs, hnodup, h'⟩
    exact ⟨⟨hstart, hlegs⟩, hnodup, hchecked.2 ⟨h, h'⟩⟩

lemma rowsAfter_close {p : PathPattern Properties} {vs : List Move} (c : Choice) :
    m.rowsAfter (.close p.name :: vs) (m.onward (begun t p.start c.start) c.start
      (legBindings p.hops c.legs) (c.legs.flatMap Prod.fst)) = m.rowsAfter vs (m.chosen t p c) := by
  have hclose (u : Trail) : m.rowsAfter (.close p.name :: vs) u =
      m.rowsAfter vs { u with row := u.row.bind p.name (.path u.path) } := by
    rw [rowsAfter_cons]
    change (do return (← [_].mapM (m.rowsAfter vs)).flatten) = _
    rw [List.mapM_cons]
    rcases m.rowsAfter vs { u with row := u.row.bind p.name (.path u.path) } with _ | rows
    · rfl
    · exact congrArg Except.ok (List.append_nil rows)
  rw [hclose, chosen, PathPattern.bindings, Binding.extend_append, Binding.extend_append,
    Binding.extend_named _ p.name]
  rfl

lemma ofPattern_constant {p : PathPattern Properties} (hall : p.selector = .all) :
    Move.ofPattern (p.map constant) = .start (p.start.map constant) ::
      (p.hops.map (fun h => .hop (h.map constant)) ++ [.close p.name]) := by
  simp [Move.ofPattern, PathPattern.map, hall, List.map_map, Function.comp_def]

/-- **A pattern, and the moves after it**, are listed by the choices for the pattern. -/
theorem yields_pattern (hs : m.store.Sound) {γ : Type} {vs : List Move}
    {p : PathPattern Properties} {Q : Choice → γ → Prop} {g : Choice → γ → Row}
    (hall : p.selector = .all) (hused : t.used.Nodup)
    (hnames : ∀ h ∈ p.hops, ∀ n, h.rel.name = some n → h.node.name ≠ some n)
    (hvs : ∀ c, m.ChoiceOn t p c → Yields (m.rowsAfter vs (m.chosen t p c)) (Q c) (g c)) :
    Yields (m.rowsAfter (Move.ofPattern (p.map constant) ++ vs) t)
      (fun e : Choice × γ => m.ChoiceOn t p e.1 ∧ Q e.1 e.2) fun e => g e.1 e.2 := by
  have hmoves : Move.ofPattern (p.map constant) ++ vs = .start (p.start.map constant) ::
      (p.hops.map (fun h => .hop (h.map constant)) ++ (.close p.name :: vs)) := by
    rw [ofPattern_constant hall, List.cons_append, List.append_assoc, List.singleton_append]
  have hsteps := yields_cons (yields_start hs p.start t) fun id hid =>
    yields_hops (t := begun t p.start id) (a := id) (Q := fun ls => Q ⟨id, ls⟩)
      (g := fun ls => g ⟨id, ls⟩) hs (.close p.name :: vs) rfl hused hnames fun ls hls => by
        have hrest := hvs ⟨id, ls⟩ (choiceOn_iff.2 ⟨hid, hls⟩)
        rw [← rowsAfter_close] at hrest
        exact hrest
  rw [hmoves]
  refine hsteps.reindex (fun e => (⟨e.1, e.2.1⟩, e.2.2)) ?_ (fun e => ?_) fun _ _ => rfl
  · rintro ⟨id, ls, c⟩ ⟨id', ls', c'⟩ heq
    simp only [Prod.mk.injEq, Choice.mk.injEq] at heq
    obtain ⟨⟨rfl, rfl⟩, rfl⟩ := heq
    rfl
  · constructor
    · rintro ⟨hc, hQ⟩
      obtain ⟨⟨id, ls⟩, c⟩ := e
      obtain ⟨hid, hls⟩ := choiceOn_iff.1 hc
      exact ⟨(id, ls, c), ⟨hid, hls, hQ⟩, rfl⟩
    · rintro ⟨⟨id, ls, c⟩, ⟨hid, hls, hQ⟩, rfl⟩
      exact ⟨choiceOn_iff.2 ⟨hid, hls⟩, hQ⟩

/-- What a trail checks of an assignment. -/
structure AssignmentOn (m : Matcher) (t : Trail) (ps : List (PathPattern Properties))
    (cs : List Choice) : Prop where
  fits : List.Forall₂ m.Fits ps cs
  nodup : (t.used ++ cs.flatMap Choice.rels).Nodup
  checked : Binding.Checked t.row (bindings m.store ps cs)

lemma assignmentOn_cons {p : PathPattern Properties} {ps : List (PathPattern Properties)}
    {c : Choice} {cs : List Choice} :
    m.AssignmentOn t (p :: ps) (c :: cs) ↔
      m.ChoiceOn t p c ∧ m.AssignmentOn (m.chosen t p c) ps cs := by
  have hbindings : bindings m.store (p :: ps) (c :: cs) =
      p.bindings m.store c ++ bindings m.store ps cs := rfl
  have hused : (m.chosen t p c).used ++ cs.flatMap Choice.rels =
      t.used ++ (c :: cs).flatMap Choice.rels := List.append_assoc ..
  constructor
  · rintro ⟨hfits, hnodup, hchecked⟩
    rw [hbindings, Binding.checked_append] at hchecked
    rw [← hused] at hnodup
    obtain ⟨hc, hcs⟩ := List.forall₂_cons.1 hfits
    exact ⟨⟨hc, (List.nodup_append.1 hnodup).1, hchecked.1⟩, hcs, hnodup, hchecked.2⟩
  · rintro ⟨⟨hc, -, hchecked⟩, hcs, hnodup, hchecked'⟩
    refine ⟨.cons hc hcs, hused ▸ hnodup, ?_⟩
    rw [hbindings, Binding.checked_append]
    exact ⟨hchecked, hchecked'⟩

/-- **Patterns** are listed by the assignments that a trail checks. -/
theorem yields_patterns (hs : m.store.Sound) {ps : List (PathPattern Properties)}
    (hall : ∀ p ∈ ps, p.selector = .all) (hused : t.used.Nodup)
    (hnames : ∀ p ∈ ps, ∀ h ∈ p.hops, ∀ n, h.rel.name = some n → h.node.name ≠ some n) :
    Yields (m.rowsAfter (ps.flatMap fun p => Move.ofPattern (p.map constant)) t)
      (m.AssignmentOn t ps) fun cs => Binding.extend t.row (bindings m.store ps cs) := by
  induction ps generalizing t with
  | nil =>
    refine ⟨[[]], List.nodup_singleton _, fun cs => ?_, rfl⟩
    rw [List.mem_singleton]
    constructor
    · rintro rfl
      exact ⟨.nil, by simpa using hused, trivial⟩
    · exact fun h => List.forall₂_nil_left_iff.1 h.fits
  | cons p ps ih =>
    rw [List.flatMap_cons]
    have hstep := yields_pattern hs (hall p (by simp)) hused (hnames p (by simp)) fun c hc =>
      ih (t := m.chosen t p c) (fun q hq => hall q (by simp [hq])) hc.nodup
        fun q hq => hnames q (by simp [hq])
    refine hstep.reindex (fun e => e.1 :: e.2) ?_ (fun cs => ?_) fun e _ => ?_
    · rintro ⟨c, cs⟩ ⟨c', cs'⟩ heq
      obtain ⟨rfl, rfl⟩ := List.cons.inj heq
      rfl
    · constructor
      · intro h
        cases cs with
        | nil => cases h.fits
        | cons c cs => exact ⟨(c, cs), assignmentOn_cons.1 h, rfl⟩
      · rintro ⟨⟨c, cs⟩, h, rfl⟩
        exact assignmentOn_cons.2 h
    · exact Binding.extend_append ..

end Matcher

end PropertyGraph
