import PropertyGraph.Proofs.Matching.Follow
import PropertyGraph.Proofs.Store.Run
import PropertyGraph.Query.Read

/-!
The rows that matching gives extend the row that it starts with.

A move binds its names and no others. What the name of a node or of a single relationship is bound
to is looked up first, and so it stays. The names of paths, of hops of variable length and of
shortest paths are bound without a look: these are the only ones that can lose a value.
-/

namespace PropertyGraph

open Cypher

/-! ### Names that are not looked up -/

namespace Cypher

variable {ε δ : Type}

/-- The name of a relationship that is bound whatever it was bound to before: that of a hop whose
length varies. -/
def RelPattern.rebound (p : RelPattern ε) : List String :=
  if p.length.isNone then [] else p.name.toList

/-- The names of a pattern that are bound whatever they were bound to before. -/
def PathPattern.rebound (p : PathPattern ε) : List String :=
  p.hops.flatMap (fun h => if p.selector = .all then h.rel.rebound else h.rel.name.toList) ++
    p.name.toList

@[simp] lemma PathPattern.rebound_map (f : ε → δ) (p : PathPattern ε) :
    (p.map f).rebound = p.rebound := by
  simp [rebound, RelPattern.rebound, map, Hop.map, RelPattern.map, List.flatMap_map]

end Cypher

/-! ### Rows -/

lemma Dict.Ascending.bind {row : Row} (h : Dict.Ascending row) (name : Option String) (v : Value) :
    Dict.Ascending (row.bind name v) := by
  cases name with
  | none => exact h
  | some n => exact h.insert n v

namespace Row

variable {row row' row'' : Row}

/-- A row with some names bound beside those of another one. All that was bound before is as it
was, but for the names that are bound anew. -/
structure Extended (row row' : Row) (names rebound : List String) : Prop where
  ascending : Dict.Ascending row → Dict.Ascending row'
  contains : ∀ n, Dict.contains row' n ↔ Dict.contains row n ∨ n ∈ names
  keeps : ∀ n ∉ rebound, ∀ v, Dict.get? row n = some v → Dict.get? row' n = some v

namespace Extended

variable {names rebound names' rebound' : List String}

lemma refl (row : Row) : Extended row row [] [] := ⟨id, by simp, fun _ _ _ h => h⟩

lemma trans (h : Extended row row' names rebound) (h' : Extended row' row'' names' rebound') :
    Extended row row'' (names ++ names') (rebound ++ rebound') where
  ascending := h'.ascending ∘ h.ascending
  contains n := by rw [h'.contains, h.contains, List.mem_append, or_assoc]
  keeps n hn v hv := by
    rw [List.mem_append, not_or] at hn
    exact h'.keeps n hn.2 v (h.keeps n hn.1 v hv)

lemma mono (h : Extended row row' names rebound) (hnames : ∀ n, n ∈ names ↔ n ∈ names')
    (hrebound : rebound ⊆ rebound') : Extended row row' names' rebound' where
  ascending := h.ascending
  contains n := by rw [h.contains, hnames]
  keeps n hn := h.keeps n fun hmem => hn (hrebound hmem)

/-- Two names at once: neither is looked up after the other one is bound. -/
lemma bind {a b : Option String} {u v : Value}
    (ha : ∀ n ∉ rebound, a = some n → ∀ w, Dict.get? row n = some w → w = u)
    (hb : ∀ n ∉ rebound, b = some n → ∀ w, Dict.get? row n = some w → w = v) :
    Extended row ((row.bind a u).bind b v) (a.toList ++ b.toList) rebound where
  ascending hrow := (hrow.bind a u).bind b v
  contains n := by
    rw [Dict.contains, Dict.contains, Row.get?_bind, Row.get?_bind]
    by_cases hbn : b = some n
    · simp [hbn]
    · by_cases han : a = some n <;> simp [hbn, han]
  keeps n hn w hw := by
    rw [Row.get?_bind, Row.get?_bind]
    split_ifs with hbn han
    · rw [hb n hn hbn w hw]
    · rw [ha n hn han w hw]
    · exact hw

end Extended

end Row

/-! ### Moves -/

namespace Move

/-- The names that a move binds. -/
def names : Move → List String
  | .start p => p.name.toList
  | .hop h => h.rel.name.toList ++ h.node.name.toList
  | .shortest p => p.hops.flatMap fun h => h.rel.name.toList ++ h.node.name.toList
  | .close name => name.toList

/-- Those of them that it does not look up. -/
def rebound : Move → List String
  | .start _ => []
  | .hop h => h.rel.rebound
  | .shortest p => p.hops.flatMap fun h => h.rel.name.toList
  | .close name => name.toList

lemma mem_names_ofPattern {p : PathPattern Part} {n : String} :
    n ∈ (ofPattern p).flatMap names ↔ n ∈ p.names := by
  by_cases hp : p.selector = .all
  · simp [ofPattern, hp, names, PathPattern.names, List.flatMap_map, or_comm, or_left_comm]
  · simp [ofPattern, hp, names, PathPattern.names, or_comm, or_left_comm]

lemma rebound_ofPattern (p : PathPattern Part) : (ofPattern p).flatMap rebound = p.rebound := by
  by_cases hp : p.selector = .all
  · simp [ofPattern, hp, rebound, PathPattern.rebound, List.flatMap_map]
  · simp [ofPattern, hp, rebound, PathPattern.rebound]

end Move

namespace Matcher

variable {m : Matcher} {t u : Trail}

lemma get?_of_mem_candidates {p : NodePattern Part} {row : Row} {ids : List NodeId} {id : NodeId}
    (h : m.candidates p row = .ok ids) (hid : id ∈ ids) {n : String} (hn : p.name = some n)
    {w : Value} (hw : Dict.get? row n = some w) : w = .node id := by
  have hbound : row.bound? p.name = some w := by rwa [hn]
  obtain ⟨ps, -, h⟩ := bind_eq_ok.1 h
  rw [hbound] at h
  cases w with
  | node i =>
    cases h
    obtain rfl := List.mem_singleton.1 (List.mem_filter.1 hid).1
    rfl
  | _ =>
    cases h
    cases hid

lemma get?_of_endFits {p : NodePattern Part} {row : Row} {ps : Properties} {id : NodeId}
    (h : m.endFits p row ps id) {n : String} (hn : p.name = some n) {w : Value}
    (hw : Dict.get? row n = some w) : w = .node id := by
  have hbound : row.bound? p.name = some w := by rwa [hn]
  rw [endFits, Bool.and_eq_true, hbound] at h
  simpa using h.1

/-- The name of a single relationship is looked up. -/
lemma get?_of_mem_hopWalks {p : RelPattern Part} {ps : Properties} {origin : NodeId} {w : Walk}
    (hw : w ∈ m.hopWalks p ps t origin) {n : String} (hrebound : n ∉ p.rebound)
    (hn : p.name = some n) {v : Value} (hv : Dict.get? t.row n = some v) :
    v = hopValue p.length w := by
  have hbound : t.row.bound? p.name = some v := by rwa [hn]
  have hlength : p.length = none := by
    by_contra h
    simp [RelPattern.rebound, h, hn] at hrebound
  rw [hopWalks, hlength] at hw
  obtain ⟨e, he, rfl⟩ := List.mem_map.1 hw
  obtain ⟨⟨r, k⟩, hr, rfl⟩ := List.mem_map.1 he
  have haccepts := (List.mem_filter.1 hr).2
  rw [hbound] at haccepts
  simp only [Option.all_some, Bool.and_eq_true, decide_eq_true_eq] at haccepts
  rw [hlength, haccepts.2.1]
  rfl

/-- **A move binds its names**, and what it looks up stays. -/
theorem move_extended {v : Move} {ts : List Trail} (h : m.move t v = .ok ts) (hu : u ∈ ts) :
    t.row.Extended u.row v.names v.rebound := by
  cases v with
  | start p =>
    obtain ⟨ids, hids, h⟩ := bind_eq_ok.1 h
    cases h
    obtain ⟨id, hid, rfl⟩ := List.mem_map.1 hu
    exact .bind (a := none) (u := .null) (by simp) fun n _ hn _ hw =>
      get?_of_mem_candidates hids hid hn hw
  | hop k =>
    obtain ⟨rs, -, h⟩ := bind_eq_ok.1 h
    obtain ⟨ns, -, h⟩ := bind_eq_ok.1 h
    split at h
    · cases h
      cases hu
    · cases h
      obtain ⟨w, hw, hsome⟩ := List.mem_filterMap.1 hu
      dsimp only at hsome
      split_ifs at hsome with hend
      cases hsome
      exact .bind (fun n hr hn _ hv => get?_of_mem_hopWalks hw hr hn hv) fun n _ hn _ hv =>
        get?_of_endFits hend hn hv
  | shortest p =>
    rw [move] at h
    split at h
    next k hk =>
      obtain ⟨rs, -, h⟩ := bind_eq_ok.1 h
      dsimp only at h
      split at h
      · cases h
        cases hu
      · obtain ⟨stops, hstops, h⟩ := bind_eq_ok.1 h
        cases h
        obtain ⟨stop, hstop, hu⟩ := List.mem_flatMap.1 hu
        obtain ⟨path, -, rfl⟩ := List.mem_map.1 hu
        rw [Move.names, Move.rebound, hk, List.flatMap_singleton, List.flatMap_singleton]
        exact .bind (fun n hr hn => absurd (by simp [hn]) hr) fun n _ hn _ hv =>
          get?_of_mem_candidates hstops hstop hn hv
    · cases h
      cases hu
  | close name =>
    cases h
    obtain rfl := List.mem_singleton.1 hu
    exact .bind (a := none) (u := .null) (by simp) fun n hr hn => absurd (by simp [Move.rebound, hn]) hr

/-- **Moves one after the other** bind all their names. -/
theorem Follows.extended {vs : List Move} (h : Follows m vs t u) :
    t.row.Extended u.row (vs.flatMap Move.names) (vs.flatMap Move.rebound) := by
  induction h with
  | nil t => exact .refl t.row
  | cons hv hu _ ih => exact (move_extended hv hu).trans ih

/-! ### Patterns -/

variable {row row' : Row} {rows : List Row}

/-- **The rows of patterns** bind their names beside those of the row that they extend. -/
theorem rows_extended {ps : List (PathPattern Part)} (h : m.rows ps row = .ok rows)
    (hrow : row' ∈ rows) :
    row.Extended row' (ps.flatMap PathPattern.names) (ps.flatMap PathPattern.rebound) := by
  obtain ⟨ts, hts, h⟩ := bind_eq_ok.1 h
  cases h
  obtain ⟨u, hu, rfl⟩ := List.mem_map.1 hrow
  refine (follows_of_mem hts hu).extended.mono (fun n => ?_) ?_
  · rw [List.flatMap_assoc, List.mem_flatMap, List.mem_flatMap]
    simp only [Move.mem_names_ofPattern]
  · rw [List.flatMap_assoc]
    simp only [Move.rebound_ofPattern, List.Subset.refl]

end Matcher

/-! ### Clauses -/

namespace Query

variable {env : Env} {optional : Bool} {ps : List (PathPattern Meaning)} {filter : Option Meaning}
  {row row' : Row} {rows : List Row}

lemma bindNulls_extended (names : List String) (row : Row) :
    row.Extended (bindNulls names row) names [] := by
  induction names generalizing row with
  | nil => exact .refl row
  | cons n names ih =>
    have hstep : row.Extended (if Dict.contains row n then row else Dict.insert row n .null)
        [n] [] := by
      split_ifs with hn
      · exact ⟨id, fun k => ⟨.inl, by rintro (h | h); exacts [h, List.mem_singleton.1 h ▸ hn]⟩,
          fun _ _ _ h => h⟩
      · refine .bind (a := none) (b := some n) (u := .null) nofun ?_
        rintro k - ⟨⟩ w hw
        simp [Dict.contains, hw] at hn
    exact hstep.trans (ih _)

lemma mem_filterRows {rows kept : List Row} (h : Meaning.filterRows filter env rows = .ok kept)
    (hrow : row ∈ kept) : row ∈ rows := by
  cases filter with
  | none =>
    cases h
    exact hrow
  | some w => exact (sublist_filterM h).mem hrow

lemma matchRow_extended (h : matchRow env optional ps filter row = .ok rows) (hrow : row' ∈ rows) :
    row.Extended row' (ps.flatMap PathPattern.names) (ps.flatMap PathPattern.rebound) := by
  obtain ⟨found, hfound, h⟩ := bind_eq_ok.1 h
  obtain ⟨kept, hkept, h⟩ := bind_eq_ok.1 h
  split_ifs at h with hempty
  · cases h
    obtain rfl := List.mem_singleton.1 hrow
    exact (bindNulls_extended _ row).mono (fun _ => Iff.rfl) (List.nil_subset _)
  · cases h
    have hrows := Matcher.rows_extended hfound (mem_filterRows hkept hrow)
    simpa [List.flatMap_map, Meaning.parts] using hrows

/-- **Matching only extends rows.** What a row binds, all rows that match in it bind to the same
value, but for the names that are bound without a look; and so it is for the rows of MATCH and of
OPTIONAL MATCH. -/
theorem matching_extends (env : Env) (ps : List (PathPattern Meaning)) :
    (∀ row rows, env.matcher.rows (ps.map fun p => Meaning.parts p env) row = .ok rows →
      ∀ row' ∈ rows, ∀ n ∉ ps.flatMap PathPattern.rebound, ∀ v,
        Dict.get? row n = some v → Dict.get? row' n = some v) ∧
    ∀ optional filter t t', matching env optional ps filter t = .ok t' →
      ∀ row' ∈ t'.rows, ∃ row ∈ t.rows, ∀ n ∉ ps.flatMap PathPattern.rebound, ∀ v,
        Dict.get? row n = some v → Dict.get? row' n = some v := by
  constructor
  · intro row rows h row' hrow
    have hrows := (Matcher.rows_extended h hrow).keeps
    simpa [List.flatMap_map, Meaning.parts] using hrows
  · intro optional filter t t' h row' hrow
    obtain ⟨rows, hrows, h⟩ := bind_eq_ok.1 h
    cases h
    obtain ⟨found, hfound, hrow⟩ := List.mem_flatten.1 hrow
    obtain ⟨row, hmem, hmatch⟩ := mem_mapM hrows hfound
    exact ⟨row, hmem, (matchRow_extended hmatch hrow).keeps⟩

/-- A graph of two nodes and a relationship between them. -/
def linkedPair : List Store.Call :=
  [.createNode ["A"] [], .createNode ["B"] [], .createRel "R" 0 1 []]

/-- The pattern `p = (a)-[:R*]->(:B)`. -/
def pathToB : PathPattern Meaning :=
  ⟨some "p", .all, ⟨some "a", [], none⟩,
    [⟨⟨none, ["R"], .outgoing, none, some ⟨none, none⟩⟩, ⟨none, ["B"], none⟩⟩]⟩

/-- The start of a path is bound before, and a number beside it. -/
theorem matching_extends_path :
    let env : Env := (Context.mk [] 8 .zero).on (Store.run linkedPair {})
    let row : Row := [("a", .node 0), ("k", .count 1)]
    ∃ t, matching env true [pathToB] none ⟨["a", "k"], [row]⟩ = .ok t ∧ t.rows.length = 1 ∧
      ∀ row' ∈ t.rows, Dict.get? row' "a" = some (.node 0) ∧
        Dict.get? row' "k" = some (.count 1) := by
  intro env row
  have h : (match matching env true [pathToB] none ⟨["a", "k"], [row]⟩ with
      | .ok t => t.rows.length == 1
      | .error _ => false) = true := by decide +kernel
  split at h
  · next t ht =>
    refine ⟨t, ht, eq_of_beq h, fun row' hrow => ?_⟩
    obtain ⟨r, hr, hkeeps⟩ := (matching_extends env [pathToB]).2 _ _ _ _ ht row' hrow
    obtain rfl := List.mem_singleton.1 hr
    exact ⟨hkeeps "a" (by decide) _ rfl, hkeeps "k" (by decide) _ rfl⟩
  · cases h

/-- The name of a path is bound without a look, and what it stood for is lost. -/
theorem not_matching_extends_of_path_name :
    ¬ ∀ (calls : List Store.Call) (c : Context) (ps : List (PathPattern Meaning)) (row : Row)
      (rows : List Row),
      let env := c.on (Store.run calls {})
      env.matcher.rows (ps.map fun p => Meaning.parts p env) row = .ok rows →
        ∀ row' ∈ rows, ∀ n v, Dict.get? row n = some v → Dict.get? row' n = some v := by
  intro h
  have hrows : (Context.mk [] 8 .zero |>.on (Store.run linkedPair {})).matcher.rows
      ([pathToB].map fun p =>
        Meaning.parts p ((Context.mk [] 8 .zero).on (Store.run linkedPair {})))
      [("p", .count 1)] =
        .ok [[("a", .node 0), ("p", .path ⟨[0, 1], [0]⟩)]] := by decide +kernel
  have hp := h linkedPair ⟨[], 8, .zero⟩ [pathToB] [("p", .count 1)] _ hrows _
    (List.mem_singleton_self _) "p" _ rfl
  simp [Dict.get?, Value.count] at hp

end Query

end PropertyGraph
