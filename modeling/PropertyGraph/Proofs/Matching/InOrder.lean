import PropertyGraph.Cypher.Scope
import PropertyGraph.Proofs.Cypher.Parts
import PropertyGraph.Proofs.Matching.Extension

/-!
Patterns whose properties only read what is bound by then.

The properties of an element are read when it is matched, in a row that binds what the elements
before it did. If in such rows two readings of the properties are the same, so are the matches.
-/

namespace PropertyGraph

open Cypher

namespace Cypher

lemma Scope.mem_declare {s : Scope} {names : List String} {n : String} :
    n ∈ s.declare names ↔ n ∈ s ∨ n ∈ names := by
  rw [declare, List.mem_append, or_comm]

/-! ### Patterns -/

section

variable {ε : Type} (f : Scope → ε → Bool) (created : Bool)

/-- Whether the properties in some hops meet a condition in the scopes that they are read in. A hop
that is created has its node first. -/
def hopsInOrder : Scope → List (Hop ε) → Bool
  | _, [] => true
  | s, h :: hs =>
    h.node.properties.all (f s) &&
      h.rel.properties.all (f (if created then s.declare h.node.name.toList else s)) &&
      hopsInOrder (s.declare (h.rel.name.toList ++ h.node.name.toList)) hs

def PathPattern.inOrder (s : Scope) (p : PathPattern ε) : Bool :=
  p.start.properties.all (f s) && hopsInOrder f created (s.declare p.start.name.toList) p.hops

def patternsInOrder : Scope → List (PathPattern ε) → Bool
  | _, [] => true
  | s, p :: ps => p.inOrder f created s && patternsInOrder (s.declare p.names) ps

end

end Cypher

/-! ### Rows -/

namespace Row

variable {row row' : Row} {s s' : Scope} {names rebound : List String}

/-- A row binds the names of a scope. -/
def Covers (row : Row) (s : Scope) : Prop := ∀ n ∈ s, Dict.contains row n

lemma covers_nil (row : Row) : row.Covers [] := fun _ h => absurd h List.not_mem_nil

lemma Covers.mono (h : row.Covers s) (hs : s' ⊆ s) : row.Covers s' := fun n hn => h n (hs hn)

lemma Covers.extended (h : row.Covers s) (hrow : row.Extended row' names rebound) :
    row'.Covers (s.declare names) :=
  fun n hn => (hrow.contains n).2 ((Scope.mem_declare.1 hn).imp_left (h n))

end Row

/-! ### Moves -/

section

variable {ε : Type} {f : Scope → ε → Bool} {P Q : ε → Part} {m : Matcher} {s s' : Scope}
  {vs ws us xs : List Move} {t : Trail} {row : Row}

/-- Two readings of a part that are the same where it fits. -/
def ReadAlike (f : Scope → ε → Bool) (P Q : ε → Part) (x : ε) : Prop :=
  ∀ s row, f s x → row.Covers s → P x row = Q x row

/-- Moves that find the same, one after the other, in rows that bind the names of a scope. -/
inductive MovesAlike (m : Matcher) : Scope → List Move → List Move → Prop
  | nil (s : Scope) : MovesAlike m s [] []
  | cons {s : Scope} {v w : Move} {vs ws : List Move}
      (hv : ∀ t : Trail, t.row.Covers s → m.move t v = m.move t w)
      (h : MovesAlike m (s.declare v.names) vs ws) : MovesAlike m s (v :: vs) (w :: ws)

namespace MovesAlike

lemma mono (h : MovesAlike m s vs ws) (hs : s ⊆ s') : MovesAlike m s' vs ws := by
  induction h generalizing s' with
  | nil s => exact .nil s'
  | cons hv _ ih =>
    refine .cons (fun t ht => hv t (ht.mono hs)) (ih fun n hn => ?_)
    exact Scope.mem_declare.2 ((Scope.mem_declare.1 hn).imp_left fun h => hs h)

lemma append (h : MovesAlike m s vs ws)
    (h' : MovesAlike m (s.declare (vs.flatMap Move.names)) us xs) :
    MovesAlike m s (vs ++ us) (ws ++ xs) := by
  induction h with
  | nil s => exact h'
  | cons hv _ ih =>
    refine .cons hv (ih (h'.mono fun n hn => ?_))
    simpa [Scope.mem_declare, or_assoc] using hn

lemma follow (h : MovesAlike m s vs ws) (ht : t.row.Covers s) : m.follow vs t = m.follow ws t := by
  induction h generalizing t with
  | nil => rfl
  | cons hv _ ih =>
    rw [Matcher.follow, Matcher.follow, ← hv t ht]
    cases hts : m.move t _ with
    | error e => rfl
    | ok ts =>
      have hrest := mapM_congr fun u hu => ih (ht.extended (Matcher.move_extended hts hu))
      simp only [bind, Except.bind, hrest]

lemma reaches (h : MovesAlike m s vs ws) (ht : t.row.Covers s) :
    m.reaches vs t = m.reaches ws t := by
  induction h generalizing t with
  | nil => rfl
  | cons hv _ ih =>
    rw [Matcher.reaches, Matcher.reaches, ← hv t ht]
    cases hts : m.move t _ with
    | error e => rfl
    | ok ts => exact anyM_congr fun u hu => ih (ht.extended (Matcher.move_extended hts hu))

end MovesAlike

/-! ### Elements -/

lemma required_congr {part : Option ε} (h : ∀ x ∈ part, P x row = Q x row) :
    Matcher.required (part.map P) row = Matcher.required (part.map Q) row := by
  cases part with
  | none => rfl
  | some x => rw [Option.map_some, Option.map_some, Matcher.required, Matcher.required, h x rfl]

/-- A part that fits is read alike. -/
lemma ReadAlike.all {part : Option ε} (hpart : ∀ x ∈ part, ReadAlike f P Q x)
    (h : part.all (f s)) (hrow : row.Covers s) : ∀ x ∈ part, P x row = Q x row := by
  intro x hx
  obtain rfl := hx
  exact hpart x rfl s row h hrow

lemma candidates_congr {n : NodePattern ε} (h : ∀ x ∈ n.properties, P x row = Q x row) :
    m.candidates (n.map P) row = m.candidates (n.map Q) row := by
  have hrequired := required_congr h
  simp only [Matcher.candidates, NodePattern.map, hrequired]
  rfl

lemma hopMove_congr {h : Hop ε} (hrel : ∀ x ∈ h.rel.properties, P x t.row = Q x t.row)
    (hnode : ∀ x ∈ h.node.properties, P x t.row = Q x t.row) :
    m.hopMove (h.map P) t = m.hopMove (h.map Q) t := by
  have hr := required_congr hrel
  have hn := required_congr hnode
  simp only [Matcher.hopMove, Hop.map, RelPattern.map, NodePattern.map, hr, hn]
  rfl

lemma shortestMove_congr {h : Hop ε} (hrel : ∀ x ∈ h.rel.properties, P x t.row = Q x t.row)
    (hnode : ∀ x ∈ h.node.properties, P x t.row = Q x t.row) (all : Bool) :
    m.shortestMove all (h.map P) t = m.shortestMove all (h.map Q) t := by
  have hr := required_congr hrel
  have hn := candidates_congr (m := m) hnode
  simp only [Matcher.shortestMove, Hop.map, RelPattern.map, hr, hn]
  rfl

lemma movesAlike_hops {hs : List (Hop ε)} (h : hopsInOrder f false s hs)
    (hread : ∀ k ∈ hs, (∀ x ∈ k.rel.properties, ReadAlike f P Q x) ∧
      ∀ x ∈ k.node.properties, ReadAlike f P Q x) :
    MovesAlike m s (hs.map fun k => .hop (k.map P)) (hs.map fun k => .hop (k.map Q)) := by
  induction hs generalizing s with
  | nil => exact .nil s
  | cons k hs ih =>
    rw [hopsInOrder, Bool.and_eq_true, Bool.and_eq_true] at h
    obtain ⟨⟨hnode, hrel⟩, hrest⟩ := h
    rw [List.forall_mem_cons] at hread
    exact .cons (fun t ht => hopMove_congr (ReadAlike.all hread.1.1 hrel ht)
      (ReadAlike.all hread.1.2 hnode ht)) (ih hrest hread.2)

/-! ### Patterns -/

lemma forall_mem_hop {p : PathPattern ε} {C : ε → Prop} (h : ∀ x ∈ p.properties, C x) {k : Hop ε}
    (hk : k ∈ p.hops) : (∀ x ∈ k.rel.properties, C x) ∧ ∀ x ∈ k.node.properties, C x := by
  refine ⟨fun x hx => h x (List.mem_append_right _ ?_), fun x hx => h x
    (List.mem_append_left _ (List.mem_append_right _ ?_))⟩
  all_goals exact List.mem_flatMap.2 ⟨k, hk, Option.mem_toList.2 hx⟩

lemma movesAlike_ofPattern {p : PathPattern ε} (h : p.inOrder f false s)
    (hread : ∀ x ∈ p.properties, ReadAlike f P Q x) :
    MovesAlike m s (Move.ofPattern (p.map P)) (Move.ofPattern (p.map Q)) := by
  rw [PathPattern.inOrder, Bool.and_eq_true] at h
  obtain ⟨hstart, hhops⟩ := h
  have hbegin : ∀ x ∈ p.start.properties, ReadAlike f P Q x := fun x hx =>
    hread x (List.mem_append_left _ (List.mem_append_left _ (Option.mem_toList.2 hx)))
  refine .cons (fun t ht => ?_) ?_
  · have hids := candidates_congr (m := m) (ReadAlike.all hbegin hstart ht)
    simp only [Matcher.move, PathPattern.map, hids]
    rfl
  · refine .append ?_ (.cons (fun _ _ => rfl) (.nil _))
    by_cases hp : p.selector = .all
    · simp only [PathPattern.map, hp, if_true, List.map_map]
      exact movesAlike_hops hhops fun k => forall_mem_hop hread
    · simp only [PathPattern.map, hp, if_false]
      refine .cons (fun t ht => ?_) (.nil _)
      obtain ⟨name, selector, start, _ | ⟨k, _ | _⟩⟩ := p
      · rfl
      · rw [hopsInOrder, Bool.and_eq_true, Bool.and_eq_true] at hhops
        obtain ⟨⟨hnode, hrel⟩, -⟩ := hhops
        obtain ⟨hr, hn⟩ := forall_mem_hop hread List.mem_cons_self
        exact shortestMove_congr (ReadAlike.all hr hrel ht) (ReadAlike.all hn hnode ht) _
      · rfl

lemma movesAlike_ofPatterns {ps : List (PathPattern ε)} (h : patternsInOrder f false s ps)
    (hread : ∀ x ∈ ps.flatMap PathPattern.properties, ReadAlike f P Q x) :
    MovesAlike m s ((ps.map (·.map P)).flatMap Move.ofPattern)
      ((ps.map (·.map Q)).flatMap Move.ofPattern) := by
  induction ps generalizing s with
  | nil => exact .nil s
  | cons p ps ih =>
    rw [patternsInOrder, Bool.and_eq_true] at h
    rw [List.flatMap_cons, List.forall_mem_append] at hread
    refine .append (movesAlike_ofPattern h.1 hread.1) ((ih h.2 hread.2).mono fun n hn => ?_)
    rw [Scope.mem_declare] at hn ⊢
    rwa [Move.mem_names_ofPattern, PathPattern.names_map]

namespace Matcher

/-- **Patterns have the same matches** if their properties are read alike where they are read. -/
theorem rows_congr {ps : List (PathPattern ε)} (h : patternsInOrder f false s ps)
    (hread : ∀ x ∈ ps.flatMap PathPattern.properties, ReadAlike f P Q x) (hrow : row.Covers s) :
    m.rows (ps.map (·.map P)) row = m.rows (ps.map (·.map Q)) row := by
  rw [rows, rows, (movesAlike_ofPatterns h hread).follow (t := Trail.begin row) hrow]

lemma hasMatch_congr {p : PathPattern ε} (h : p.inOrder f false s)
    (hread : ∀ x ∈ p.properties, ReadAlike f P Q x) (hrow : row.Covers s) :
    m.hasMatch (p.map P) row = m.hasMatch (p.map Q) row :=
  (movesAlike_ofPattern h hread).reaches (t := Trail.begin row) hrow

lemma paths_congr {p : PathPattern ε} (h : p.inOrder f false s)
    (hread : ∀ x ∈ p.properties, ReadAlike f P Q x) (hrow : row.Covers s) :
    m.paths (p.map P) row = m.paths (p.map Q) row := by
  rw [paths, paths, (movesAlike_ofPattern h hread).follow (t := Trail.begin row) hrow]

end Matcher

end

end PropertyGraph
