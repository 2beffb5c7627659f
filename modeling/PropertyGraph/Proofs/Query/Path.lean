import Mathlib.Data.List.Induction
import PropertyGraph.Proofs.Matching.Follow
import PropertyGraph.Proofs.Matching.Shortest
import PropertyGraph.Proofs.Query.Create

/-!
Paths are walks in the graph.

The path of a trail is a walk along the hops so far, and its relationships are among the used ones.
A hop goes on where the path ends, along relationships that are not used yet, so both stay as they
are from one move to the next. A shortest path has a single hop, and what visits no node twice goes
along no relationship twice.

For the path of a pattern that is created, each hop creates one relationship, under an id that was
not there before, between the node where the path ends and the next one. The graph only grows by
the hops that are left, so what the path goes along stays.
-/

namespace PropertyGraph

open Cypher

variable {ε : Type}

lemma Relationship.Joins.ends {r : Relationship} {d : Direction} {a b : NodeId}
    (h : r.Joins d a b) : r.source = a ∧ r.target = b ∨ r.source = b ∧ r.target = a := by
  cases d with
  | outgoing => exact .inl h
  | incoming => exact .inr h.symm
  | undirected => exact h.imp_right And.symm

/-! ### Courses -/

namespace Cypher

/-- The hops that the relationships of a path belong to, if so many belong to each hop. -/
def shared (hops : List (Hop ε)) (counts : List Nat) : List (Hop ε) :=
  (hops.zip counts).flatMap fun e => List.replicate e.2 e.1

/-- The relationships of a path belong to hops one after the other, and one of them to each hop
without a length. -/
def Shares (hops owners : List (Hop ε)) : Prop :=
  ∃ counts : List Nat, counts.length = hops.length ∧ owners = shared hops counts ∧
    ∀ e ∈ hops.zip counts, e.1.rel.length = none → e.2 = 1

variable {hops owners : List (Hop ε)}

lemma shares_nil : Shares ([] : List (Hop ε)) [] := ⟨[], rfl, rfl, by simp⟩

lemma Shares.concat (h : Shares hops owners) {hop : Hop ε} {n : Nat}
    (hn : hop.rel.length = none → n = 1) :
    Shares (hops ++ [hop]) (owners ++ List.replicate n hop) := by
  obtain ⟨counts, hlen, rfl, hone⟩ := h
  have hzip : (hops ++ [hop]).zip (counts ++ [n]) = hops.zip counts ++ [(hop, n)] :=
    List.zip_append hlen.symm
  refine ⟨counts ++ [n], by simp [hlen], ?_, ?_⟩
  · rw [shared, shared, hzip, List.flatMap_append, List.flatMap_singleton]
  · rw [hzip]
    intro e he
    rcases List.mem_append.1 he with he | he
    · exact hone e he
    · obtain rfl := List.mem_singleton.1 he
      exact hn

/-- One relationship to each hop. -/
lemma shares_self (hops : List (Hop ε)) : Shares hops hops := by
  induction hops using List.reverseRecOn with
  | nil => exact shares_nil
  | append_singleton hops hop ih => exact ih.concat (n := 1) fun _ => rfl

end Cypher

namespace Store

/-- A walk leads from one node to another, along one relationship for each of some hops, in the
direction of the hop. -/
inductive Course (s : Store) : List (Hop ε) → NodeId → Walk → NodeId → Prop
  | nil (a : NodeId) : Course s [] a [] a
  | cons {h : Hop ε} {hs : List (Hop ε)} {a b c : NodeId} {i : RelId} {r : Relationship} {w : Walk}
      (hr : s.rel? i = some r) (hj : r.Joins h.rel.direction a b) (hw : Course s hs b w c) :
      Course s (h :: hs) a ((i, b) :: w) c

variable {s t : Store} {owners owners' : List (Hop ε)} {a b c : NodeId} {v w : Walk}

namespace Course

lemma append (hv : s.Course owners a v b) (hw : s.Course owners' b w c) :
    s.Course (owners ++ owners') a (v ++ w) c := by
  induction hv with
  | nil => exact hw
  | cons hr hj _ ih => exact .cons hr hj (ih hw)

/-- A walk of one hop. -/
lemma of_walkTo {h : Hop ε} {P : Relationship → Prop} (hw : s.WalkTo h.rel.direction P a w b) :
    s.Course (List.replicate w.length h) a w b := by
  induction hw with
  | nil => exact .nil _
  | cons he _ ih =>
    obtain ⟨r, hr, -, hj⟩ := he
    exact .cons hr hj ih

lemma last (h : s.Course owners a w b) : (Path.ofWalk a w).last? = some b := by
  rw [Path.last?, Path.nodes_ofWalk]
  induction h with
  | nil => rfl
  | cons _ _ _ ih => rwa [List.map_cons, List.getLast?_cons_cons]

lemma length (h : s.Course owners a w b) : owners.length = w.length := by
  induction h with
  | nil => rfl
  | cons _ _ _ ih => rw [List.length_cons, List.length_cons, ih]

/-- What a course says of its relationships one by one. -/
lemma joins (h : s.Course owners a w b) {k : Nat} {hop : Hop ε} {i : RelId} {x y : NodeId}
    (hhop : owners[k]? = some hop) (hi : (w.map Prod.fst)[k]? = some i)
    (hx : (a :: w.map Prod.snd)[k]? = some x) (hy : (w.map Prod.snd)[k]? = some y) :
    ∃ r, s.rel? i = some r ∧ r.Joins hop.rel.direction x y := by
  induction h generalizing k with
  | nil => cases hi
  | @cons _ _ a b _ _ r w hr hj _ ih =>
    cases k with
    | zero =>
      cases hhop
      cases hi
      cases hx
      cases hy
      exact ⟨r, hr, hj⟩
    | succ k => exact ih hhop hi hx hy

/-- The two ends of a relationship on a course are nodes of the course. -/
lemma ends_mem (h : s.Course owners a w b) {i : RelId} {r : Relationship} (hr : s.rel? i = some r)
    (hi : i ∈ w.map Prod.fst) :
    r.source ∈ a :: w.map Prod.snd ∧ r.target ∈ a :: w.map Prod.snd := by
  induction h with
  | nil => cases hi
  | @cons hop _ a b _ j q w hq hj _ ih =>
    rcases List.mem_cons.1 hi with rfl | hi
    · obtain rfl := Option.some.inj (hr.symm.trans hq)
      rcases hj.ends with ⟨rfl, rfl⟩ | ⟨rfl, rfl⟩ <;> simp
    · obtain ⟨hs, ht⟩ := ih hi
      exact ⟨List.mem_cons_of_mem _ hs, List.mem_cons_of_mem _ ht⟩

/-- **What visits no node twice goes along no relationship twice.** -/
theorem nodup_rels (h : s.Course owners a w b) (hnodup : (a :: w.map Prod.snd).Nodup) :
    (w.map Prod.fst).Nodup := by
  induction h with
  | nil => exact List.nodup_nil
  | @cons hop _ a b _ i r w hr hj hw ih =>
    obtain ⟨ha, hnodup⟩ := List.nodup_cons.1 hnodup
    refine List.nodup_cons.2 ⟨fun hi => ha ?_, ih hnodup⟩
    obtain ⟨hsource, htarget⟩ := hw.ends_mem hr hi
    rcases hj.ends with ⟨rfl, -⟩ | ⟨-, rfl⟩
    · exact hsource
    · exact htarget

/-- A course is there also when the graph has grown. -/
lemma mono (h : s.Course owners a w b) (hrel : ∀ {i r}, s.rel? i = some r → t.rel? i = some r) :
    t.Course owners a w b := by
  induction h with
  | nil => exact .nil _
  | cons hr hj _ ih => exact .cons (hrel hr) hj ih

end Course

end Store

/-- A path is a walk along some hops: it has one node more than relationships, each relationship is
there and joins the nodes beside it in the direction of the hop it belongs to, and none occurs
twice. -/
structure Path.IsWalk (s : Store) (hops : List (Hop ε)) (p : Path) : Prop where
  nodes : p.nodes.length = p.rels.length + 1
  joins : ∃ owners, Shares hops owners ∧ owners.length = p.rels.length ∧
    ∀ (k : Nat) (h : Hop ε) (i : RelId) (a b : NodeId), owners[k]? = some h → p.rels[k]? = some i →
      p.nodes[k]? = some a → p.nodes[k + 1]? = some b →
        ∃ r, s.rel? i = some r ∧ r.Joins h.rel.direction a b
  nodup : p.rels.Nodup

lemma Store.Course.isWalk {s : Store} {hops owners : List (Hop ε)} {a b : NodeId} {w : Walk}
    (h : s.Course owners a w b) (hshares : Shares hops owners) (hnodup : (w.map Prod.fst).Nodup) :
    (Path.ofWalk a w).IsWalk s hops where
  nodes := by simp [Path.ofWalk, Path.extend, Path.single]
  joins := by
    refine ⟨owners, hshares, ?_, fun k hop i x y hhop hi hx hy => h.joins hhop ?_ hx ?_⟩
    · rw [h.length]
      simp [Path.ofWalk, Path.extend, Path.single]
    · simpa [Path.ofWalk, Path.extend, Path.single] using hi
    · simpa using hy
  nodup := by simpa [Path.ofWalk, Path.extend, Path.single] using hnodup

/-! ### Moves -/

namespace Matcher

variable {m : Matcher} {t u : Trail} {hops : List (Hop Part)}

/-- The path of a trail is a walk along the hops so far. -/
structure Along (m : Matcher) (hops : List (Hop Part)) (t : Trail) : Prop where
  course : ∃ owners a w b, Shares hops owners ∧ t.path = .ofWalk a w ∧
    m.store.Course owners a w b
  nodup : t.path.rels.Nodup
  used : ∀ i ∈ t.path.rels, i ∈ t.used

lemma Along.isWalk (h : m.Along hops t) : t.path.IsWalk m.store hops := by
  obtain ⟨owners, a, w, b, hshares, hpath, hcourse⟩ := h.course
  have hnodup := h.nodup
  rw [hpath] at hnodup ⊢
  exact hcourse.isWalk hshares hnodup

lemma along_start {p : NodePattern Part} {ts : List Trail} (h : m.move t (.start p) = .ok ts)
    (hu : u ∈ ts) : m.Along [] u := by
  obtain ⟨ids, -, h⟩ := bind_eq_ok.1 h
  cases h
  obtain ⟨id, -, rfl⟩ := List.mem_map.1 hu
  exact ⟨⟨[], id, [], id, shares_nil, (Path.extend_nil _).symm, .nil id⟩, List.nodup_nil,
    fun _ hi => absurd hi List.not_mem_nil⟩

lemma admits_of_mem_find {s : Search} (hs : s.store.Sound) {all : Bool} {start : NodeId} {p : Path}
    (h : p ∈ s.find all start) : s.Admits start p := by
  have hmem : p ∈ s.find true start := by
    cases all with
    | true => exact h
    | false => exact List.mem_of_mem_take (s.find_false start ▸ h)
  exact (((s.mem_find hs start).2 p).1 hmem).1

section

variable (hs : m.store.Sound)
include hs

/-- What a hop goes along: a walk in its direction, along relationships that are new to the
trail. -/
lemma walk_of_mem_hopWalks {p : RelPattern Part} {required : Properties} {a : NodeId} {w : Walk}
    (hw : w ∈ m.hopWalks p required t a) :
    (∃ P b, m.store.WalkTo p.direction P a w b) ∧ (w.map Prod.fst).Nodup ∧
      (∀ i ∈ w.map Prod.fst, i ∉ t.used) ∧ (p.length = none → w.length = 1) := by
  rw [hopWalks] at hw
  split at hw
  next hlen =>
    obtain ⟨⟨i, b⟩, he, rfl⟩ := List.mem_map.1 hw
    obtain ⟨hi, he⟩ := hs.mem_steps.1 he
    exact ⟨⟨_, b, .cons he (.nil b)⟩, by simp, by simpa using hi, fun _ => rfl⟩
  next range hlen =>
    obtain ⟨⟨b, hw⟩, -, hnodup, hused⟩ := hs.mem_walks.1 hw
    exact ⟨⟨_, b, hw⟩, hnodup, hused, fun h => absurd (hlen.symm.trans h) (by simp)⟩

/-- **A hop goes on with a walk.** -/
theorem Along.hop (h : m.Along hops t) {hop : Hop Part} {ts : List Trail}
    (hv : m.move t (.hop hop) = .ok ts) (hu : u ∈ ts) : m.Along (hops ++ [hop]) u := by
  obtain ⟨owners, a, w, b, hshares, hpath, hcourse⟩ := h.course
  obtain ⟨relProps, -, hv⟩ := bind_eq_ok.1 hv
  obtain ⟨nodeProps, -, hv⟩ := bind_eq_ok.1 hv
  have hlast : t.path.last? = some b := hpath ▸ hcourse.last
  rw [hlast] at hv
  cases hv
  obtain ⟨v, hv, hu⟩ := List.mem_filterMap.1 hu
  obtain ⟨⟨P, c, hwalk⟩, hnodup, hnew, hone⟩ := walk_of_mem_hopWalks hs hv
  dsimp only at hu
  split_ifs at hu
  obtain rfl := Option.some.inj hu
  refine ⟨⟨_, a, w ++ v, c, hshares.concat hone, ?_, hcourse.append (.of_walkTo hwalk)⟩, ?_, ?_⟩
  · rw [hpath, Path.extend_ofWalk]
  · refine List.nodup_append.2 ⟨h.nodup, hnodup, ?_⟩
    rintro i hi j hj rfl
    exact hnew i hj (h.used i hi)
  · intro i hi
    rcases List.mem_append.1 hi with hi | hi
    · exact List.mem_append_left _ (h.used i hi)
    · exact List.mem_append_right _ hi

/-- **What a search finds** is a walk of its one hop that visits no node twice. -/
theorem along_shortest {p : PathPattern Part} {ts : List Trail}
    (hv : m.move t (.shortest p) = .ok ts) (hu : u ∈ ts) :
    m.Along p.hops u ∧ u.path.nodes.Nodup := by
  rw [move] at hv
  split at hv
  next hop hhops =>
    obtain ⟨relProps, -, hv⟩ := bind_eq_ok.1 hv
    dsimp only at hv
    split at hv
    · cases hv
      cases hu
    next a hlast =>
      obtain ⟨stops, -, hv⟩ := bind_eq_ok.1 hv
      cases hv
      obtain ⟨stop, -, hu⟩ := List.mem_flatMap.1 hu
      obtain ⟨q, hq, rfl⟩ := List.mem_map.1 hu
      obtain ⟨⟨w, rfl, hw⟩, hnodup, hmin, hmax⟩ := admits_of_mem_find hs hq
      have hcourse := Store.Course.of_walkTo (h := hop) hw
      have hone : hop.rel.length = none → w.length = 1 := by
        intro hlen
        rw [bounds.eq_def, hlen, Path.length_ofWalk] at hmin hmax
        exact le_antisymm hmax hmin
      refine ⟨⟨⟨_, a, w, stop, hhops ▸ shares_nil.concat hone, rfl, hcourse⟩, ?_, ?_⟩, hnodup⟩
      · simpa [Path.ofWalk, Path.extend, Path.single] using hcourse.nodup_rels hnodup
      · exact fun i hi => List.mem_append_right _ hi
  · cases hv
    cases hu

/-! ### Patterns -/

lemma follows_hops {hops' : List (Hop Part)} {vs : List Move} {w : Trail} (h : m.Along hops t)
    (hf : m.Follows (hops'.map .hop ++ vs) t w) :
    ∃ u, m.Along (hops ++ hops') u ∧ m.Follows vs u w := by
  induction hops' generalizing hops t with
  | nil => exact ⟨t, by rwa [List.append_nil], hf⟩
  | cons hop hops' ih =>
    cases hf with
    | cons hv hu hf =>
      obtain ⟨u, hu, hf⟩ := ih (h.hop hs hv hu) hf
      exact ⟨u, by rwa [List.append_assoc, List.singleton_append] at hu, hf⟩

/-- **The path of each trail of a pattern** is a walk along its hops, and visits no node twice if
it is a shortest path. -/
theorem Follows.isWalk {p : PathPattern Part} {w : Trail} (h : m.Follows (Move.ofPattern p) t w) :
    w.path.IsWalk m.store p.hops ∧ (p.selector ≠ .all → w.path.nodes.Nodup) := by
  have hclose {u : Trail} (h : m.Follows [Move.close p.name] u w) : w.path = u.path := by
    cases h with
    | cons hv hw h =>
      cases h
      cases hv
      rw [List.mem_singleton.1 hw]
  rw [Move.ofPattern] at h
  cases h with
  | cons hv hu h =>
    have hstart := along_start hv hu
    by_cases hall : p.selector = .all
    · rw [if_pos hall] at h
      obtain ⟨u, hu, h⟩ := follows_hops hs hstart h
      rw [hclose h]
      exact ⟨hu.isWalk, fun hne => absurd hall hne⟩
    · rw [if_neg hall] at h
      cases h with
      | cons hv hu h =>
        obtain ⟨hu, hnodup⟩ := along_shortest hs hv hu
        rw [hclose h]
        exact ⟨hu.isWalk, fun _ => hnodup⟩

/-- **Every path of a pattern is a walk in the graph.** -/
theorem isWalk_of_mem_paths {p : PathPattern Part} {row : Row} {qs : List Path} {q : Path}
    (h : m.paths p row = .ok qs) (hq : q ∈ qs) :
    q.IsWalk m.store p.hops ∧ (p.selector ≠ .all → q.nodes.Nodup) := by
  obtain ⟨ts, hts, h⟩ := bind_eq_ok.1 h
  cases h
  obtain ⟨t, ht, rfl⟩ := List.mem_map.1 hq
  exact (follows_of_mem hts ht).isWalk hs

end

end Matcher

/-! ### Creating -/

namespace Query

variable {c : Context} {row row' : Row} {d d' : Draft}

/-- Creates what a pattern needs in a row, with the path along it. -/
def createdPath (c : Context) (p : PathPattern Meaning) (row : Row) : Edit (Path × Row) := do
  let (start, row) ← createNode c p.start row
  let (walk, row) ← createHops c p.hops start row
  return ((Path.single start).extend walk, row)

lemma createPath_eq (c : Context) (p : PathPattern Meaning) (row : Row) :
    createPath c p row = do
      let (path, row) ← createdPath c p row
      return row.bind p.name (.path path) := by
  simp [createPath, createdPath]

/-- The graph has grown, by relationships with new ids only. -/
structure Extends (d d' : Draft) : Prop where
  sound : d'.store.Sound
  grows : d.store.Grows d'.store
  nextRel : d.store.nextRel ≤ d'.store.nextRel

lemma extends_createNode {p : NodePattern Meaning} {id : NodeId} (hd : d.store.Sound)
    (h : ExceptT.run (createNode c p row) d = (.ok (id, row'), d')) : Extends d d' := by
  cases createNode_eq_ok h with
  | bound => exact ⟨hd, .refl _, le_rfl⟩
  | new _ _ hnew =>
    have hcreated := Store.createNode_eq_ok hd hnew
    exact ⟨hcreated.sound, hcreated.grows, hcreated.nextRel.ge⟩

/-- **What creating a hop has done**: its relationship is new, and joins the two nodes in the
direction of the hop. -/
theorem extends_createHop {h : Hop Meaning} {near far : NodeId} {i : RelId} (hd : d.store.Sound)
    (hrun : ExceptT.run (createHop c h near row) d = (.ok ((i, far), row'), d')) :
    Extends d d' ∧ d.store.nextRel ≤ i ∧ i < d'.store.nextRel ∧
      ∃ r, d'.store.rel? i = some r ∧ r.Joins h.rel.direction near far := by
  obtain ⟨_, _, _, _, _, _, -, -, -, hnode, hjoins, -, hrel, rfl⟩ := exists_of_createHop hrun
  have hfar := extends_createNode hd hnode
  have hnew := Store.createRel_eq_ok hfar.sound hrel
  have hle := hfar.nextRel.trans_eq hnew.new.symm
  have hlt := hnew.new.trans_lt ((Nat.lt_succ_self _).trans_eq hnew.nextRel.symm)
  exact ⟨⟨hnew.sound, hfar.grows.trans hnew.grows, hle.trans hlt.le⟩, hle, hlt, _, hnew.rel?,
    hjoins _ rfl rfl⟩

/-- **Hops that are created** are a course of new relationships. -/
theorem course_createHops {hs : List (Hop Meaning)} {near : NodeId} {w : Walk}
    (hd : d.store.Sound) (h : ExceptT.run (createHops c hs near row) d = (.ok (w, row'), d')) :
    Extends d d' ∧ (∃ far, d'.store.Course hs near w far) ∧ (w.map Prod.fst).Nodup ∧
      ∀ i ∈ w.map Prod.fst, d.store.nextRel ≤ i := by
  induction hs generalizing near row d w with
  | nil =>
    cases h
    exact ⟨⟨hd, .refl _, le_rfl⟩, ⟨near, .nil near⟩, List.nodup_nil, by simp⟩
  | cons hop hs ih =>
    obtain ⟨i, far, walk, row₁, d₁, rfl, hhop, hhops⟩ := exists_of_createHops_cons h
    obtain ⟨hext, hge, hlt, r, hr, hj⟩ := extends_createHop hd hhop
    obtain ⟨hrest, ⟨last, hcourse⟩, hnodup, hnew⟩ := ih hext.sound hhops
    refine ⟨⟨hrest.sound, hext.grows.trans hrest.grows, hext.nextRel.trans hrest.nextRel⟩,
      ⟨last, .cons (hrest.grows.rel? hr) hj hcourse⟩,
      List.nodup_cons.2 ⟨fun hi => (hnew i hi).not_gt hlt, hnodup⟩,
      List.forall_mem_cons.2 ⟨hge, fun j hj => hext.nextRel.trans (hnew j hj)⟩⟩

/-- **The path of a pattern that is created** is a walk along its hops. -/
theorem isWalk_createPath {p : PathPattern Meaning} (hd : d.store.Sound)
    (h : ExceptT.run (createPath c p row) d = (.ok row', d')) :
    ∃ path row₁, ExceptT.run (createdPath c p row) d = (.ok (path, row₁), d') ∧
      row' = row₁.bind p.name (.path path) ∧ path.IsWalk d'.store p.hops := by
  rw [createPath_eq] at h
  obtain ⟨⟨path, row₁⟩, d₂, hpath, h⟩ := run_bind_eq_ok.1 h
  cases h
  refine ⟨path, row₁, hpath, rfl, ?_⟩
  obtain ⟨⟨start, row₂⟩, d₁, hstart, h₁⟩ := run_bind_eq_ok.1 hpath
  obtain ⟨⟨walk, row₃⟩, d₃, hhops, h₂⟩ := run_bind_eq_ok.1 h₁
  cases h₂
  obtain ⟨-, ⟨far, hcourse⟩, hnodup, -⟩ :=
    course_createHops (extends_createNode hd hstart).sound hhops
  exact hcourse.isWalk (shares_self p.hops) hnodup

/-- **Every path that a pattern gives is a walk in the graph**, be it matched, searched or
created. -/
theorem paths_are_walks (calls : List Store.Call) :
    (∀ (maxHops : Nat) (p : PathPattern Part) (row : Row) (paths : List Path) (path : Path),
      Matcher.paths ⟨Store.run calls {}, maxHops⟩ p row = .ok paths → path ∈ paths →
        path.IsWalk (Store.run calls {}) p.hops ∧ (p.selector ≠ .all → path.nodes.Nodup)) ∧
    ∀ (c : Context) (p : PathPattern Meaning) (row row' : Row) (tally : Tally) (d' : Draft),
      ExceptT.run (createPath c p row) ⟨Store.run calls {}, tally⟩ = (.ok row', d') →
        ∃ path row₁, ExceptT.run (createdPath c p row) ⟨Store.run calls {}, tally⟩ =
            (.ok (path, row₁), d') ∧
          row' = row₁.bind p.name (.path path) ∧ path.IsWalk d'.store p.hops := by
  have hs : (Store.run calls {}).Sound := (Store.lawful_empty.run calls).sound
  exact ⟨fun _ _ _ _ _ h hp => Matcher.isWalk_of_mem_paths hs h hp,
    fun _ _ _ _ _ _ h => isWalk_createPath hs h⟩

/-- To the other one of two nodes and back on another relationship, and a relationship to the first
node of a new pattern. -/
theorem paths_are_walks_twofold :
    let calls : List Store.Call := [.createNode [] [], .createNode [] [], .createRel "R" 0 1 [],
      .createRel "R" 0 1 []]
    let there : Hop Part :=
      ⟨⟨none, ["R"], .undirected, none, some ⟨some 2, some 2⟩⟩, ⟨none, [], none⟩⟩
    let back : Hop Meaning := ⟨⟨none, ["R"], .incoming, none, none⟩, ⟨none, [], none⟩⟩
    let created := ExceptT.run
      (createPath ⟨[], 8, .zero⟩ ⟨some "p", .all, ⟨none, [], none⟩, [back]⟩ [])
      ⟨Store.run calls {}, {}⟩
    (Path.mk [0, 1, 0] [0, 1]).IsWalk (Store.run calls {}) [there] ∧
      created.1 = .ok [("p", .path ⟨[2, 3], [2]⟩)] ∧
        (Path.mk [2, 3] [2]).IsWalk created.2.store [back] := by
  intro calls there back created
  obtain ⟨hmatched, hcreated⟩ := paths_are_walks calls
  have hrun : created = (.ok [("p", .path ⟨[2, 3], [2]⟩)], created.2) := rfl
  obtain ⟨path, row₁, -, hrow, hwalk⟩ := hcreated _ _ _ _ _ _ hrun
  have hget := congrArg (Dict.get? · "p") hrow
  rw [Row.get?_bind, if_pos rfl] at hget
  obtain rfl := Value.path.inj (Option.some.inj hget)
  exact ⟨(hmatched 8 ⟨none, .all, ⟨none, [], none⟩, [there]⟩ [] _ _ rfl (List.mem_cons_self ..)).1,
    rfl, hwalk⟩

end Query

end PropertyGraph
