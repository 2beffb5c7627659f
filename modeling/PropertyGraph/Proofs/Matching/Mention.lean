import PropertyGraph.Proofs.Matching.Follow
import PropertyGraph.Proofs.Matching.Shortest
import PropertyGraph.Proofs.Store.Grounded

/-!
What matches mention: the entities of the graph, and what the row mentions that they extend.
-/

namespace PropertyGraph

variable {K : Entity → Prop}

/-- The nodes and relationships of a path are among some entities. -/
def Path.Among (K : Entity → Prop) (p : Path) : Prop :=
  (∀ i ∈ p.nodes, K (.node i)) ∧ ∀ i ∈ p.rels, K (.rel i)

/-- The steps of a walk are among some entities. -/
def Walk.Among (K : Entity → Prop) (w : Walk) : Prop := ∀ e ∈ w, K (.rel e.1) ∧ K (.node e.2)

lemma Path.among_single {i : NodeId} (hi : K (.node i)) : (single i).Among K := by
  simpa [Path.Among, single] using hi

lemma Path.Among.extend {p : Path} (hp : p.Among K) {w : Walk} (hw : w.Among K) :
    (p.extend w).Among K := by
  simp only [Path.Among, Path.extend, List.forall_mem_append, List.forall_mem_map]
  exact ⟨⟨hp.1, fun e he => (hw e he).2⟩, hp.2, fun e he => (hw e he).1⟩

lemma Row.among_bind {row : Row} (hrow : Dict.Among K row) (name : Option String) {v : Value}
    (hv : v.Among K) : Dict.Among K (row.bind name v) := by
  cases name with
  | none => exact hrow
  | some n => exact hrow.insert n hv

namespace Store

variable {s : Store} (hs : s.Among K)
include hs

lemma Among.edge {d : Cypher.Direction} {P : Relationship → Prop} {i : RelId} {a b : NodeId}
    (h : s.Edge d P i a b) : K (.rel i) ∧ K (.node b) := by
  have hnode {j : NodeId} (hj : (s.node? j).isSome) : K (.node j) := by
    obtain ⟨n, hn⟩ := Option.isSome_iff_exists.1 hj
    exact (hs.node hn).1
  obtain ⟨r, hr, -, hjoins⟩ := h
  refine ⟨(hs.rel hr).1, ?_⟩
  cases d with
  | outgoing => exact hjoins.2 ▸ hnode (hs.sound.target hr)
  | incoming => exact hjoins.2 ▸ hnode (hs.sound.source hr)
  | undirected =>
    rcases hjoins with hjoins | hjoins
    · exact hjoins.2 ▸ hnode (hs.sound.target hr)
    · exact hjoins.2 ▸ hnode (hs.sound.source hr)

lemma Among.walkTo {d : Cypher.Direction} {P : Relationship → Prop} {a b : NodeId} {w : Walk}
    (h : s.WalkTo d P a w b) : w.Among K := by
  induction h with
  | nil => exact nofun
  | cons h _ ih => exact List.forall_mem_cons.2 ⟨hs.edge h, ih⟩

lemma Among.nodeProperties (i : NodeId) : Dict.Among K (s.nodeProperties i) := by
  rw [Store.nodeProperties]
  cases hn : s.node? i with
  | none => exact .nil
  | some n => exact (hs.node hn).2

lemma Among.relProperties (i : RelId) : Dict.Among K (s.relProperties i) := by
  rw [Store.relProperties]
  cases hr : s.rel? i with
  | none => exact .nil
  | some r => exact (hs.rel hr).2

end Store

lemma Search.among_find {s : Search} (hs : s.store.Among K) (all : Bool) {start : NodeId}
    (hstart : K (.node start)) : ∀ p ∈ s.find all start, p.Among K := by
  intro p hp
  have hmem : p ∈ s.find true start := by
    cases all with
    | true => exact hp
    | false =>
      rw [find_false] at hp
      exact List.mem_of_mem_take hp
  obtain ⟨w, rfl, hw⟩ := ((mem_find hs.sound start).2 p).1 hmem |>.1.walk
  exact (Path.among_single hstart).extend (hs.walkTo hw)

/-- What a trail binds and has gone through is among some entities. -/
structure Trail.Among (K : Entity → Prop) (t : Trail) : Prop where
  row : Dict.Among K t.row
  path : t.path.Among K

namespace Matcher

open Cypher

variable {m : Matcher} (hm : m.store.Among K)
include hm

lemma among_of_nodeFits {p : NodePattern Part} {ps : Properties} {id : NodeId}
    (h : m.nodeFits p ps id) : K (.node id) := by
  rw [nodeFits, Option.any_eq_true] at h
  obtain ⟨n, hn, -⟩ := h
  exact (hm.node hn).1

lemma among_candidates (p : NodePattern Part) (row : Row) :
    Gives (fun ids => ∀ i ∈ ids, K (.node i)) (m.candidates p row) := by
  refine .after fun ps => ?_
  split
  · exact .ok fun i hi => among_of_nodeFits hm (List.mem_filter.1 hi).2
  · exact .ok (by simp)
  · exact .ok fun i hi => among_of_nodeFits hm (List.mem_filter.1 hi).2

lemma among_hopWalks (p : RelPattern Part) (required : Properties) (t : Trail) (origin : NodeId) :
    ∀ w ∈ m.hopWalks p required t origin, w.Among K := by
  intro w hw
  rw [hopWalks] at hw
  split at hw
  · obtain ⟨e, he, rfl⟩ := List.mem_map.1 hw
    exact List.forall_mem_singleton.2 (hm.edge (hm.sound.mem_steps.1 he).2)
  · obtain ⟨⟨b, hwalk⟩, -⟩ := hm.sound.mem_walks.1 hw
    exact hm.walkTo hwalk

omit hm in
lemma among_hopValue (range : Option HopRange) {w : Walk} (hw : w.Among K) :
    (hopValue range w).Among K := by
  have hlist : (relList w).Among K :=
    Value.among_list.2 (List.forall_mem_map.2 fun e he => Value.among_rel.2 (hw e he).1)
  rw [hopValue.eq_def]
  split
  · exact Value.among_rel.2 (hw _ (by simp)).1
  · exact hlist

lemma among_hopMove (h : Hop Part) {t : Trail} (ht : t.Among K) :
    Gives (fun ts => ∀ u ∈ ts, u.Among K) (m.hopMove h t) := by
  refine .after fun relProps => .after fun nodeProps => ?_
  split
  · exact .ok (by simp)
  next origin horigin =>
    refine .ok fun u hu => ?_
    obtain ⟨w, hw, hu⟩ := List.mem_filterMap.1 hu
    have hwalk := among_hopWalks hm _ _ _ _ w hw
    dsimp only at hu
    split_ifs at hu with hend
    obtain rfl := Option.some.inj hu
    have hstop := among_of_nodeFits hm (Bool.and_eq_true_iff.1 hend).2
    exact ⟨Row.among_bind (Row.among_bind ht.row _ (among_hopValue _ hwalk)) _
      (Value.among_node.2 hstop), ht.path.extend hwalk⟩

lemma among_shortestMove (all : Bool) (h : Hop Part) {t : Trail} (ht : t.Among K) :
    Gives (fun ts => ∀ u ∈ ts, u.Among K) (m.shortestMove all h t) := by
  refine .after fun relProps => ?_
  dsimp only
  split
  · exact .ok (by simp)
  next origin horigin =>
    have hknown : K (.node origin) := ht.path.1 origin (List.mem_of_getLast? horigin)
    refine .bind (among_candidates hm h.node t.row) fun ids hids => .ok fun u hu => ?_
    obtain ⟨stop, hstop, hu⟩ := List.mem_flatMap.1 hu
    obtain ⟨p, hp, rfl⟩ := List.mem_map.1 hu
    have hpath := Search.among_find (by exact hm) all hknown p hp
    refine ⟨Row.among_bind (Row.among_bind ht.row _ ?_) _ ?_, hpath⟩
    · simpa using hpath.2
    · exact Value.among_node.2 (hids stop hstop)

/-- **A move** binds nothing but entities of the graph. -/
theorem among_move {t : Trail} (ht : t.Among K) (v : Move) :
    Gives (fun ts => ∀ u ∈ ts, u.Among K) (m.move t v) := by
  cases v with
  | start p =>
    refine .bind (among_candidates hm p t.row) fun ids hids => .ok fun u hu => ?_
    obtain ⟨i, hi, rfl⟩ := List.mem_map.1 hu
    exact ⟨Row.among_bind ht.row _ (Value.among_node.2 (hids i hi)), Path.among_single (hids i hi)⟩
  | hop h => exact among_hopMove hm h ht
  | shortest p =>
    rw [move]
    split
    · exact among_shortestMove hm _ _ ht
    · exact .ok (by simp)
  | close name =>
    refine .ok (List.forall_mem_singleton.2 ⟨Row.among_bind ht.row _ ?_, ht.path⟩)
    exact Value.among_path.2 ht.path

lemma among_follow {t : Trail} (ht : t.Among K) (vs : List Move) :
    Gives (fun ts => ∀ u ∈ ts, u.Among K) (m.follow vs t) := by
  intro ts hts u hu
  have hfollows := follows_of_mem hts hu
  clear hts hu
  induction hfollows with
  | nil => exact ht
  | cons hv hu _ ih => exact ih (among_move hm ht _ _ hv _ hu)

/-- **Matches** mention the entities of the graph, and what is mentioned in the row. -/
theorem among_rows (ps : List (PathPattern Part)) {row : Row} (hrow : Dict.Among K row) :
    Gives (fun rs => ∀ r ∈ rs, Dict.Among K r) (m.rows ps row) := by
  have hbegin : (Trail.begin row).Among K := ⟨hrow, by simp [Trail.begin, Path.Among]⟩
  exact .bind (among_follow hm hbegin _) fun ts hts =>
    .ok (List.forall_mem_map.2 fun u hu => (hts u hu).row)

lemma among_paths (p : PathPattern Part) {row : Row} (hrow : Dict.Among K row) :
    Gives (fun ps => ∀ p ∈ ps, p.Among K) (m.paths p row) := by
  have hbegin : (Trail.begin row).Among K := ⟨hrow, by simp [Trail.begin, Path.Among]⟩
  exact .bind (among_follow hm hbegin _) fun ts hts =>
    .ok (List.forall_mem_map.2 fun u hu => (hts u hu).path)

end Matcher

end PropertyGraph
