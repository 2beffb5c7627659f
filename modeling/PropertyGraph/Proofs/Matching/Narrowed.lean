import PropertyGraph.Proofs.Matching.Extension
import PropertyGraph.Proofs.Matching.Rows
import PropertyGraph.Proofs.Meaning.Conjunction

/-!
Moves that find what other moves find, less what some conditions keep out.

A test inside of a pattern is made while the pattern is matched, a condition after it. Between the
two the row grows, but what it binds the names of nodes and of single relationships to stays. So a
condition on such a name tells the same at the end as right after the move that binds it, and
filtering can be put off from one move to after all of them.
-/

namespace PropertyGraph

open Cypher

/-- What a row binds, another one binds to the same, but for some names that are bound anew. -/
def Row.Keeps (rebound : List String) (row row' : Row) : Prop :=
  ∀ n ∉ rebound, ∀ v, Dict.get? row n = some v → Dict.get? row' n = some v

/-- A name is bound to a value, if there is a name. -/
def Row.BindsTo (row : Row) (name : Option String) (v : Value) : Prop :=
  ∀ n, name = some n → Dict.get? row n = some v

lemma Row.bindsTo_bind (row : Row) (name : Option String) (v : Value) :
    (row.bind name v).BindsTo name v := by
  intro n hn
  rw [Row.get?_bind, if_pos hn]

lemma Row.BindsTo.bind {row : Row} {name name' : Option String} {v : Value} (h : row.BindsTo name v)
    (hne : ∀ n, name = some n → name' ≠ some n) (v' : Value) :
    (row.bind name' v').BindsTo name v := by
  intro n hn
  rw [Row.get?_bind, if_neg (hne n hn), h n hn]

/-! ### Lists -/

section

variable {α β : Type}

lemma filterMap_ite (xs : List α) (p : α → Bool) (f : α → β) :
    (xs.filterMap fun x => if p x then some (f x) else none) = (xs.filter p).map f := by
  rw [← List.filterMap_eq_filter, List.map_filterMap]
  refine List.filterMap_congr fun x _ => ?_
  by_cases hp : p x <;> simp [Option.guard, hp]

/-- A stricter test before a map is a weaker one before it and one of the results after it. -/
lemma map_filter_eq {xs : List α} {p q : α → Bool} {f : α → β} {g : β → Bool}
    (h : ∀ x ∈ xs, p x = (q x && g (f x))) :
    (xs.filter p).map f = ((xs.filter q).map f).filter g := by
  rw [List.filter_map, List.filter_filter]
  refine congrArg _ (List.filter_congr fun x hx => ?_)
  rw [h x hx, Bool.and_comm]
  rfl

lemma flatMap_filter_eq {xs : List α} {p : α → Bool} {f : α → List β} {q r : β → Bool}
    (h : ∀ x ∈ xs, ∀ y ∈ f x, r y = (p x && q y)) :
    (xs.filter p).flatMap (fun x => (f x).filter q) = (xs.flatMap f).filter r := by
  induction xs with
  | nil => rfl
  | cons x xs ih =>
    rw [List.forall_mem_cons] at h
    rw [List.flatMap_cons, List.filter_append, ← ih h.2, List.filter_cons]
    cases hp : p x with
    | true =>
      rw [if_pos rfl, List.flatMap_cons]
      refine congrArg (· ++ _) (List.filter_congr fun y hy => ?_)
      rw [h.1 y hy, hp, Bool.true_and]
    | false =>
      have hnone : (f x).filter r = [] := by
        rw [List.filter_eq_nil_iff]
        intro y hy
        rw [h.1 y hy, hp, Bool.false_and]
        decide
      rw [if_neg (by decide), hnone, List.nil_append]

end

namespace Matcher

variable {m : Matcher} {env : Env} {rebound : List String} {t : Trail} {row : Row}
  {xs ys : List Expr}

/-! ### Following moves -/

lemma follow_singleton (v : Move) (t : Trail) : m.follow [v] t = m.move t v := by
  rw [follow]
  rcases m.move t v with e | ts
  · rfl
  · have hstep : ts.mapM (m.follow []) = .ok (ts.map fun u => [u]) := mapM_eq_ok fun _ _ => rfl
    change (do return (← ts.mapM (m.follow [])).flatten) = Except.ok ts
    rw [hstep]
    change Except.ok (ts.map fun u => [u]).flatten = Except.ok ts
    rw [← List.flatMap_def, List.flatMap_singleton']

/-- Moves and those after them, if they give trails. -/
lemma follow_append {vs ws : List Move} {ts : List Trail} {f : Trail → List Trail}
    (hv : m.follow vs t = .ok ts) (hw : ∀ u ∈ ts, m.follow ws u = .ok (f u)) :
    m.follow (vs ++ ws) t = .ok (ts.flatMap f) := by
  induction vs generalizing t ts with
  | nil =>
    obtain rfl : [t] = ts := Except.ok.inj hv
    simpa using hw t (by simp)
  | cons v vs ih =>
    obtain ⟨us, hus, hrest⟩ := bind_eq_ok.1 hv
    obtain ⟨uss, huss, hflat⟩ := bind_eq_ok.1 hrest
    obtain rfl : uss.flatten = ts := Except.ok.inj hflat
    have hmoves : us.mapM (m.follow (vs ++ ws)) = .ok (uss.map (·.flatMap f)) := by
      have hall := forall₂_mapM huss
      clear hv hus hrest huss hflat
      induction hall with
      | nil => rfl
      | @cons u ts us uss hu _ ihus =>
        rw [List.flatten_cons, List.forall_mem_append] at hw
        rw [List.mapM_cons, ih hu hw.1, ihus hw.2]
        rfl
    rw [List.cons_append, follow, hus]
    change (do return (← us.mapM (m.follow (vs ++ ws))).flatten) = _
    rw [hmoves, ← List.flatMap_id, List.flatMap_assoc]
    rfl

/-! ### Conditions that stay as they are -/

/-- Conditions with truth values in a row are as true in all rows that keep what it binds. -/
def Settled (env : Env) (rebound : List String) (xs : List Expr) (row : Row) : Prop :=
  ∀ row', row.Keeps rebound row' →
    Expr.allTrue env xs row' = Expr.allTrue env xs row ∧ ∀ x ∈ xs, x.Truthful env row'

lemma settled_nil (row : Row) : Settled env rebound [] row := fun _ _ => ⟨rfl, by simp⟩

lemma Settled.append (hx : Settled env rebound xs row) (hy : Settled env rebound ys row) :
    Settled env rebound (xs ++ ys) row := by
  intro row' hkeeps
  obtain ⟨hxs, htx⟩ := hx row' hkeeps
  obtain ⟨hys, hty⟩ := hy row' hkeeps
  rw [Expr.allTrue_append, Expr.allTrue_append, hxs, hys]
  exact ⟨rfl, List.forall_mem_append.2 ⟨htx, hty⟩⟩

lemma Settled.keeps {row' : Row} (h : Settled env rebound xs row)
    (hkeeps : row.Keeps rebound row') : Settled env rebound xs row' := by
  intro row'' hkeeps'
  obtain ⟨hx, htx⟩ := h row'' fun n hn v hv => hkeeps' n hn v (hkeeps n hn v hv)
  exact ⟨hx.trans (h row' hkeeps).1.symm, htx⟩

/-- Conditions with truth values that tell whether a test is passed by what passes a weaker one. -/
structure Tells (env : Env) (row : Row) (P Q : Prop) (xs : List Expr) : Prop where
  iff : P ↔ Q ∧ Expr.allTrue env xs row
  truthful : Q → ∀ x ∈ xs, x.Truthful env row

lemma Tells.refl (P : Prop) : Tells env row P P [] :=
  ⟨(and_iff_left (Expr.allTrue_iff.2 (by simp))).symm, by simp⟩

lemma Tells.and {P P' Q Q' : Prop} (h : Tells env row P Q xs) (h' : Tells env row P' Q' ys) :
    Tells env row (P ∧ P') (Q ∧ Q') (xs ++ ys) where
  iff := by
    rw [h.iff, h'.iff, Expr.allTrue_append, Bool.and_eq_true]
    tauto
  truthful hQ := List.forall_mem_append.2 ⟨h.truthful hQ.1, h'.truthful hQ.2⟩

lemma Tells.congr {P P' Q Q' : Prop} (h : Tells env row P Q xs) (hP : P' ↔ P) (hQ : Q' ↔ Q) :
    Tells env row P' Q' xs := ⟨by rw [hP, hQ, h.iff], fun hQ' => h.truthful (hQ.1 hQ')⟩

lemma Tells.absent {P Q : Prop} (hP : ¬ P) (hQ : ¬ Q) : Tells env row P Q xs :=
  ⟨⟨fun h => absurd h hP, fun h => absurd h.1 hQ⟩, fun h => absurd h hQ⟩

/-- Conditions on a name that is not bound anew are settled once it is bound. -/
lemma settled_of_tells {P Q : Prop} {name : Option String} {v : Value}
    (h : ∀ row, row.BindsTo name v → Tells env row P Q xs)
    (hapart : ∀ n, name = some n → n ∉ rebound) (hrow : row.BindsTo name v) (hQ : Q) :
    Settled env rebound xs row := by
  intro row' hkeeps
  have hrow' : row'.BindsTo name v := fun n hn => hkeeps n (hapart n hn) v (hrow n hn)
  refine ⟨?_, (h row' hrow').truthful hQ⟩
  rw [Bool.eq_iff_iff, ← and_iff_right (b := Expr.allTrue env xs row' = true) hQ,
    ← and_iff_right (b := Expr.allTrue env xs row = true) hQ, ← (h row' hrow').iff,
    ← (h row hrow).iff]

/-! ### Moves -/

/-- **Moves narrow other moves** by some conditions: what they find is what the others find, less
the trails in which some condition is not true. -/
def Narrows (env : Env) (rebound : List String) (vs ws : List Move) (xs : List Expr) : Prop :=
  ∀ t, ∃ ts, env.matcher.follow ws t = .ok ts ∧
    env.matcher.follow vs t = .ok (ts.filter fun u => Expr.allTrue env xs u.row) ∧
    ∀ u ∈ ts, Settled env rebound xs u.row

namespace Narrows

variable {vs vs' ws ws' : List Move}

lemma nil : Narrows env rebound [] [] [] := fun t => ⟨[t], rfl, rfl, fun u _ => settled_nil u.row⟩

/-- Moves one after the other: the conditions of the earlier ones are settled by then. -/
theorem append (h : Narrows env rebound vs ws xs) (h' : Narrows env rebound vs' ws' ys)
    (hrebound : ws'.flatMap Move.rebound ⊆ rebound) :
    Narrows env rebound (vs ++ vs') (ws ++ ws') (xs ++ ys) := by
  intro t
  obtain ⟨ts, hws, hvs, hsettled⟩ := h t
  choose f hws' hvs' hsettled' using h'
  have hkeeps {u w : Trail} (hw : w ∈ f u) : u.row.Keeps rebound w.row := fun n hn =>
    (follows_of_mem (hws' u) hw).extended.keeps n (mt (hrebound ·) hn)
  refine ⟨ts.flatMap f, follow_append hws fun u _ => hws' u, ?_, fun w hw => ?_⟩
  · rw [follow_append hvs fun u _ => hvs' u]
    refine congrArg Except.ok (flatMap_filter_eq fun u hu w hw => ?_)
    rw [Expr.allTrue_append, (hsettled u hu w.row (hkeeps hw)).1]
  · obtain ⟨u, hu, hw⟩ := List.mem_flatMap.1 hw
    exact ((hsettled u hu).keeps (hkeeps hw)).append (hsettled' u w hw)

end Narrows

/-! ### Nodes -/

/-- A node of a pattern asks for what another one does, and for some conditions on its name. -/
structure NarrowsNode (env : Env) (rebound : List String) (p q : NodePattern Properties)
    (xs : List Expr) : Prop where
  name : p.name = q.name
  apart : ∀ n, q.name = some n → n ∉ rebound
  tells : ∀ id row, row.BindsTo q.name (.node id) →
    Tells env row (env.matcher.IsNode p id) (env.matcher.IsNode q id) xs

/-- The nodes that are tried for a name: the one that it is bound to, or else all. -/
def choices (m : Matcher) (name : Option String) (row : Row) : List NodeId :=
  match row.bound? name with
  | some (.node id) => [id]
  | some _ => []
  | none => m.store.nodeIds

/-- **The nodes with a label are looked up**, and come in the same order as among all nodes. -/
theorem candidates_eq (hs : m.store.Sound) (p : NodePattern Properties) (row : Row) :
    m.candidates (p.map constant) row = .ok ((m.choices p.name row).filter
      (m.nodeFits (p.map constant) (p.properties.getD []))) := by
  have hreq : required (p.map constant).properties row = .ok (p.properties.getD []) :=
    required_constant p.properties row
  have hname : (p.map constant).name = p.name := rfl
  have hlabels : (p.map constant).labels = p.labels := rfl
  rw [candidates, hreq, hname, hlabels, choices]
  dsimp only [bind, Except.bind]
  cases hb : row.bound? p.name with
  | some u => cases u <;> rfl
  | none =>
    have hids : m.store.nodeIds.Pairwise (· < ·) := List.pairwise_map.2 hs.nodes
    cases hl : p.labels with
    | nil => rfl
    | cons l ls =>
      refine congrArg Except.ok (eq_of_mem_iff (r := (· < ·)) ?_ (hids.filter _) fun i => ?_)
      · exact (hs.labelled.sorted l).filter _
      · rw [List.mem_filter, List.mem_filter]
        refine and_congr_left fun hfits => ?_
        obtain ⟨n, hn, hlabels, -⟩ := nodeFits_iff.1 hfits
        refine iff_of_true (hs.mem_nodesWith.2 ⟨n, hn, hlabels l (by simp [hl])⟩) ?_
        exact List.mem_map.2 ⟨_, Dict.mem_of_get? hn, rfl⟩

lemma NarrowsNode.fits_eq {p q : NodePattern Properties} (h : NarrowsNode env rebound p q xs)
    {id : NodeId} (hrow : row.BindsTo q.name (.node id)) :
    env.matcher.nodeFits (p.map constant) (p.properties.getD []) id =
      (env.matcher.nodeFits (q.map constant) (q.properties.getD []) id &&
        Expr.allTrue env xs row) := by
  rw [Bool.eq_iff_iff, Bool.and_eq_true, nodeFits_iff, nodeFits_iff]
  exact (h.tells id row hrow).iff

lemma NarrowsNode.settled {p q : NodePattern Properties} (h : NarrowsNode env rebound p q xs)
    {id : NodeId} (hrow : row.BindsTo q.name (.node id))
    (hfits : env.matcher.nodeFits (q.map constant) (q.properties.getD []) id) :
    Settled env rebound xs row :=
  settled_of_tells (h.tells id) h.apart hrow (nodeFits_iff.1 hfits)

theorem narrows_start (hs : env.store.Sound) {p q : NodePattern Properties}
    (h : NarrowsNode env rebound p q xs) :
    Narrows env rebound [.start (p.map constant)] [.start (q.map constant)] xs := by
  intro t
  let begin (id : NodeId) : Trail :=
    { t with row := t.row.bind q.name (.node id), path := .single id }
  have hmove (p : NodePattern Properties) (hp : p.name = q.name) :
      env.matcher.move t (.start (p.map constant)) = .ok
        (((env.matcher.choices q.name t.row).filter
          (env.matcher.nodeFits (p.map constant) (p.properties.getD []))).map begin) := by
    have hname : (p.map constant).name = q.name := hp
    rw [move, candidates_eq hs, hname, hp]
    rfl
  rw [follow_singleton, follow_singleton, hmove p h.name, hmove q rfl]
  refine ⟨_, rfl, congrArg Except.ok (map_filter_eq fun id _ => ?_), fun u hu => ?_⟩
  · exact h.fits_eq (Row.bindsTo_bind _ _ _)
  · obtain ⟨id, hid, rfl⟩ := List.mem_map.1 hu
    exact h.settled (Row.bindsTo_bind _ _ _) (List.mem_filter.1 hid).2

/-! ### Hops -/

/-- A relationship of a pattern asks for what another one does, and for some conditions on its name
if it is a single one. -/
inductive NarrowsRel (env : Env) (rebound : List String) :
    RelPattern Properties → RelPattern Properties → List Expr → Prop
  | refl (p : RelPattern Properties) : NarrowsRel env rebound p p []
  | single {p q : RelPattern Properties} {xs : List Expr} (name : p.name = q.name)
      (direction : p.direction = q.direction) (hp : p.length = none) (hq : q.length = none)
      (apart : ∀ n, q.name = some n → n ∉ rebound)
      (tells : ∀ r row, env.store.rel? r.id = some r → row.BindsTo q.name (.rel r.id) →
        Tells env row (Accepts p r) (Accepts q r) xs) :
      NarrowsRel env rebound p q xs

variable {p q : RelPattern Properties} {a : NodeId}

lemma NarrowsRel.name_eq (h : NarrowsRel env rebound p q xs) : p.name = q.name := by
  cases h with
  | refl => rfl
  | single name => exact name

lemma NarrowsRel.length_eq (h : NarrowsRel env rebound p q xs) : p.length = q.length := by
  cases h with
  | refl => rfl
  | single _ _ hp hq => rw [hp, hq]

lemma hopWalks_single (hp : p.length = none) (t : Trail) (a : NodeId) :
    m.hopWalks (p.map constant) (p.properties.getD []) t a =
      ((m.store.incident a p.direction).filter fun e => e.1.id ∉ t.used &&
        ((t.row.bound? p.name).all (· = .rel e.1.id) &&
          relFits (p.map constant) (p.properties.getD []) e.1)).map fun e => [(e.1.id, e.2)] := by
  have hlength : (p.map constant).length = none := hp
  rw [hopWalks, hlength]
  dsimp only
  rw [Store.steps, List.map_map]
  rfl

/-- The walks of a relationship that asks for more are those in which the conditions are true, and
these are settled when the walk is bound. -/
theorem NarrowsRel.walks (hs : env.store.Sound) (h : NarrowsRel env rebound p q xs) (t : Trail)
    (a : NodeId) (rest : Walk → Row) (hrest : ∀ w, (rest w).BindsTo q.name (hopValue q.length w)) :
    env.matcher.hopWalks (p.map constant) (p.properties.getD []) t a =
      (env.matcher.hopWalks (q.map constant) (q.properties.getD []) t a).filter
        (fun w => Expr.allTrue env xs (rest w)) ∧
    ∀ w ∈ env.matcher.hopWalks (q.map constant) (q.properties.getD []) t a,
      Settled env rebound xs (rest w) := by
  cases h with
  | refl => exact ⟨(List.filter_eq_self.2 fun _ _ => rfl).symm, fun w _ => settled_nil (rest w)⟩
  | single name direction hp hq apart tells =>
    have hbinds (e : Relationship × NodeId) :
        (rest [(e.1.id, e.2)]).BindsTo q.name (.rel e.1.id) := by
      have hw := hrest [(e.1.id, e.2)]
      rwa [hq] at hw
    have hstored {e : Relationship × NodeId} (he : e ∈ env.store.incident a q.direction) :
        env.store.rel? e.1.id = some e.1 := (hs.mem_incident.1 he).1
    rw [hopWalks_single hp, hopWalks_single hq, name, direction]
    refine ⟨map_filter_eq fun e he => ?_, fun w hw => ?_⟩
    · have htells := (tells e.1 _ (hstored he) (hbinds e)).iff
      rw [← relFits_iff, ← relFits_iff, ← Bool.and_eq_true, ← Bool.eq_iff_iff] at htells
      rw [htells, Bool.and_assoc, Bool.and_assoc]
    · obtain ⟨e, he, rfl⟩ := List.mem_map.1 hw
      obtain ⟨he, haccepts⟩ := List.mem_filter.1 he
      simp only [Bool.and_eq_true] at haccepts
      exact settled_of_tells (fun row => tells e.1 row (hstored he)) apart (hbinds e)
        (relFits_iff.1 haccepts.2.2)

theorem narrows_hop (hs : env.store.Sound) {h k : Hop Properties}
    (hrel : NarrowsRel env rebound h.rel k.rel xs)
    (hnode : NarrowsNode env rebound h.node k.node ys)
    (hnames : ∀ n, k.rel.name = some n → k.node.name ≠ some n) :
    Narrows env rebound [.hop (h.map constant)] [.hop (k.map constant)] (xs ++ ys) := by
  intro t
  rw [follow_singleton, follow_singleton]
  cases ht : t.path.last? with
  | none => exact ⟨[], move_hop_nowhere k ht, move_hop_nowhere h ht, nofun⟩
  | some a =>
    let arrive (w : Walk) : Trail :=
      { row := (t.row.bind k.rel.name (hopValue k.rel.length w)).bind k.node.name
          (.node (legOf a w).2)
        used := t.used ++ w.map Prod.fst
        path := t.path.extend w }
    have hbinds (w : Walk) : (arrive w).row.BindsTo k.node.name (.node (legOf a w).2) :=
      Row.bindsTo_bind _ _ _
    obtain ⟨hwalks, hsettled⟩ := hrel.walks hs t a (fun w => (arrive w).row)
      fun w => (Row.bindsTo_bind _ _ _).bind hnames _
    rw [move_hop h ht, move_hop k ht, hrel.name_eq, hrel.length_eq, hnode.name, filterMap_ite,
      filterMap_ite, hwalks, List.filter_filter]
    refine ⟨_, rfl, congrArg Except.ok (map_filter_eq (f := arrive) fun w _ => ?_), fun u hu => ?_⟩
    · have hname : (h.node.map constant).name = (k.node.map constant).name := hnode.name
      rw [endFits, endFits, hnode.fits_eq (hbinds w), hname, Expr.allTrue_append]
      ac_rfl
    · obtain ⟨w, hw, rfl⟩ := List.mem_map.1 hu
      obtain ⟨hw, hend⟩ := List.mem_filter.1 hw
      rw [endFits, Bool.and_eq_true] at hend
      exact (hsettled w hw).append (hnode.settled (hbinds w) hend.2)

/-! ### Names of paths -/

lemma narrows_close (name : Option String) :
    Narrows env rebound [.close name] [.close name] [] := by
  intro t
  rw [follow_singleton]
  exact ⟨_, rfl, congrArg Except.ok (List.filter_eq_self.2 fun _ _ => rfl).symm,
    fun u _ => settled_nil u.row⟩

end Matcher

end PropertyGraph
