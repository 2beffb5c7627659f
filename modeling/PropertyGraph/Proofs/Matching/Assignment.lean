import PropertyGraph.Matching.Trail
import PropertyGraph.Proofs.Matching.Walk

/-!
What patterns ask for, apart from how it is found.

An assignment picks a node for every node of the patterns and relationships for every hop, and
so gives a value to each name. A trail checks one name after the other against the row that it
has by then, and does not look at all at the names of paths and of hops of variable length.
Where these are new, that comes to the same as agreement of all bindings with one another and
with the row at the beginning.
-/

namespace PropertyGraph

/-! ### Names -/

namespace Cypher

/-- What a name in a pattern stands for. -/
inductive Role
  | node
  | rel
  | rels
  | path
deriving DecidableEq

/-- The names that are not looked up before they are bound. -/
def Role.unchecked : Role → Bool
  | node | rel => false
  | rels | path => true

variable {ε δ : Type}

def RelPattern.role (p : RelPattern ε) : Role := if p.length.isNone then .rel else .rels

def Hop.binders (h : Hop ε) : List (String × Role) :=
  h.rel.name.toList.map (·, h.rel.role) ++ h.node.name.toList.map (·, .node)

/-- The names of a pattern with what they stand for, in the order in which they are bound. -/
def PathPattern.binders (p : PathPattern ε) : List (String × Role) :=
  p.start.name.toList.map (·, .node) ++ p.hops.flatMap Hop.binders ++
    p.name.toList.map (·, .path)

/-- The name of a node is the name of nothing else, and the names of paths and of hops of
variable length occur once, and not in the row. -/
structure WellNamed (row : Row) (names : List (String × Role)) : Prop where
  apart : ∀ n role, (n, Role.node) ∈ names → (n, role) ∈ names → role = .node
  unbound : ∀ e ∈ names, e.2.unchecked → Dict.get? row e.1 = none
  once : ∀ e ∈ names, e.2.unchecked → (names.map Prod.fst).count e.1 = 1

end Cypher

/-- What a name is bound to. -/
structure Binding where
  name : String
  role : Cypher.Role
  value : Value

namespace Binding

/-- The binding of a name, if there is one. -/
def named (name : Option String) (role : Cypher.Role) (v : Value) : List Binding :=
  name.toList.map fun n => ⟨n, role, v⟩

def binder (b : Binding) : String × Cypher.Role := (b.name, b.role)

/-- A row with some more bindings. -/
def extend (row : Row) (bs : List Binding) : Row :=
  bs.foldl (fun row b => Dict.insert row b.name b.value) row

/-- No name has two values, counting what it is bound to in a row. -/
structure Agree (row : Row) (bs : List Binding) : Prop where
  row : ∀ b ∈ bs, ∀ v, Dict.get? row b.name = some v → v = b.value
  names : ∀ b ∈ bs, ∀ c ∈ bs, b.name = c.name → b.value = c.value

/-- One binding after the other is checked against the row with those before it. -/
def Checked : Row → List Binding → Prop
  | _, [] => True
  | row, b :: bs =>
    (¬ b.role.unchecked → ∀ v, Dict.get? row b.name = some v → v = b.value) ∧
      Checked (Dict.insert row b.name b.value) bs

variable {row : Row} {b : Binding} {bs cs : List Binding}

lemma extend_append (row : Row) (bs cs : List Binding) :
    extend row (bs ++ cs) = extend (extend row bs) cs := List.foldl_append

lemma extend_named (row : Row) (name : Option String) (role : Cypher.Role) (v : Value) :
    extend row (named name role v) = row.bind name v := by cases name <;> rfl

lemma binder_named (name : Option String) (role : Cypher.Role) (v : Value) :
    (named name role v).map binder = name.toList.map (·, role) := by cases name <;> rfl

lemma checked_append : Checked row (bs ++ cs) ↔ Checked row bs ∧ Checked (extend row bs) cs := by
  induction bs generalizing row with
  | nil => simp [Checked, extend]
  | cons b bs ih =>
    rw [List.cons_append, Checked, Checked, ih, and_assoc]
    rfl

lemma checked_named {name : Option String} {role : Cypher.Role} {v : Value} :
    Checked row (named name role v) ↔
      (¬ role.unchecked → ∀ u, row.bound? name = some u → u = v) := by
  cases name with
  | none => simp [named, Checked, Row.bound?]
  | some n => simp [named, Checked, Row.bound?]

lemma agree_cons : Agree row (b :: bs) ↔
    (∀ v, Dict.get? row b.name = some v → v = b.value) ∧
      Agree (Dict.insert row b.name b.value) bs := by
  constructor
  · rintro ⟨hrow, hnames⟩
    refine ⟨hrow b (by simp), fun c hc v hv => ?_, fun c hc d hd => ?_⟩
    · rw [Dict.get?_insert] at hv
      split_ifs at hv with hbc
      · rw [← Option.some.inj hv]
        exact hnames b (by simp) c (by simp [hc]) hbc
      · exact hrow c (by simp [hc]) v hv
    · exact hnames c (by simp [hc]) d (by simp [hd])
  · rintro ⟨hb, hrow, hnames⟩
    have hsame : ∀ c ∈ bs, b.name = c.name → b.value = c.value := fun c hc hbc =>
      hrow c hc _ (by rw [Dict.get?_insert, if_pos hbc])
    refine ⟨fun c hc v hv => ?_, fun c hc d hd hcd => ?_⟩
    · rcases List.mem_cons.1 hc with rfl | hc
      · exact hb v hv
      · by_cases hbc : b.name = c.name
        · rw [← hsame c hc hbc]
          exact hb v (hbc ▸ hv)
        · exact hrow c hc v (by rwa [Dict.get?_insert, if_neg hbc])
    · rcases List.mem_cons.1 hc with rfl | hc'
      · rcases List.mem_cons.1 hd with rfl | hd'
        · rfl
        · exact hsame d hd' hcd
      · rcases List.mem_cons.1 hd with rfl | hd'
        · exact (hsame c hc' hcd.symm).symm
        · exact hnames c hc' d hd' hcd

/-- **Checking one binding after the other comes to agreement of all** if the unchecked names
are new. -/
theorem checked_iff (hunbound : ∀ b ∈ bs, b.role.unchecked → Dict.get? row b.name = none)
    (honce : ∀ b ∈ bs, b.role.unchecked → (bs.map name).count b.name = 1) :
    Checked row bs ↔ Agree row bs := by
  induction bs generalizing row with
  | nil => exact ⟨fun _ => ⟨by simp, by simp⟩, fun _ => trivial⟩
  | cons b bs ih =>
    have hapart : ∀ c ∈ bs, c.role.unchecked → b.name ≠ c.name := by
      intro c hc hu hbc
      have hcount := honce c (by simp [hc]) hu
      rw [List.map_cons, hbc, List.count_cons_self] at hcount
      have := List.count_pos_iff.2 (List.mem_map_of_mem (f := name) hc)
      omega
    rw [Checked, agree_cons, ih]
    · refine and_congr_left fun _ => ⟨fun h v hv => ?_, fun h _ => h⟩
      by_cases hu : b.role.unchecked
      · rw [hunbound b (by simp) hu] at hv
        exact absurd hv (by simp)
      · exact h hu v hv
    · intro c hc hu
      rw [Dict.get?_insert, if_neg (hapart c hc hu)]
      exact hunbound c (by simp [hc]) hu
    · intro c hc hu
      have hcount := honce c (by simp [hc]) hu
      rwa [List.map_cons, List.count_cons_of_ne (hapart c hc hu)] at hcount

end Binding

/-! ### Assignments -/

/-- What is picked for a hop: its relationships and the node where it ends. -/
abbrev Leg := List RelId × NodeId

/-- What is picked for a pattern. -/
structure Choice where
  start : NodeId
  legs : List Leg
deriving DecidableEq

/-- The nodes that relationships lead to one after the other. -/
def Store.nodesAlong (s : Store) : NodeId → List RelId → List NodeId
  | _, [] => []
  | a, i :: is =>
    let b := (s.rel? i).elim a fun r => r.otherEnd a
    b :: nodesAlong s b is

def Choice.rels (c : Choice) : List RelId := c.legs.flatMap Prod.fst

def Choice.path (s : Store) (c : Choice) : Path :=
  ⟨c.start :: s.nodesAlong c.start c.rels, c.rels⟩

namespace Cypher

variable {ε : Type}

/-- What the name of a hop is bound to: its relationship, or a list if the length varies. -/
def RelPattern.picked (p : RelPattern ε) (is : List RelId) : Value :=
  match p.length, is with
  | none, i :: _ => .rel i
  | _, is => .list (is.map .rel)

def Hop.bindings (h : Hop ε) (l : Leg) : List Binding :=
  Binding.named h.rel.name h.rel.role (h.rel.picked l.1) ++
    Binding.named h.node.name .node (.node l.2)

def legBindings (hs : List (Hop ε)) (ls : List Leg) : List Binding :=
  (List.zipWith Hop.bindings hs ls).flatten

/-- What a choice binds the names of a pattern to. -/
def PathPattern.bindings (s : Store) (p : PathPattern ε) (c : Choice) : List Binding :=
  Binding.named p.start.name .node (.node c.start) ++ legBindings p.hops c.legs ++
    Binding.named p.name .path (.path (c.path s))

/-- What an assignment binds the names of patterns to. -/
def bindings (s : Store) (ps : List (PathPattern ε)) (cs : List Choice) : List Binding :=
  (List.zipWith (PathPattern.bindings s) ps cs).flatten

end Cypher

namespace Matcher

open Cypher

variable (m : Matcher)

/-- Whatever is required is there and equal. -/
def Fulfils (required : Option Properties) (actual : Properties) : Prop :=
  ∀ e ∈ required.getD [], ∃ v, Dict.get? actual e.1 = some v ∧ v.equals e.2 = some true

/-- A node that exists, with the labels and properties of a pattern. -/
def IsNode (p : NodePattern Properties) (id : NodeId) : Prop :=
  ∃ n, m.store.node? id = some n ∧ (∀ l ∈ p.labels, l ∈ n.labels) ∧
    Fulfils p.properties n.properties

/-- A relationship of an allowed type, with the properties of a pattern. -/
def Accepts (p : RelPattern Properties) (r : Relationship) : Prop :=
  (p.types = [] ∨ r.type ∈ p.types) ∧ Fulfils p.properties r.properties

/-- How many relationships a hop may have. -/
def LengthFits (range : Option HopRange) (k : Nat) : Prop :=
  match range with
  | none => k = 1
  | some r => r.min.getD 1 ≤ k ∧ k ≤ r.max.getD m.maxHops

/-- The relationships lead from a node to a node that the hop may end at. -/
structure IsLeg (h : Hop Properties) (a : NodeId) (l : Leg) : Prop where
  walk : ∃ w, m.store.WalkTo h.rel.direction (Accepts h.rel) a w l.2 ∧ w.map Prod.fst = l.1
  length : m.LengthFits h.rel.length l.1.length
  node : m.IsNode h.node l.2

/-- Legs of hops, each from the node where the one before it ends. -/
inductive Legs : NodeId → List (Hop Properties) → List Leg → Prop
  | nil (a : NodeId) : Legs a [] []
  | cons {a : NodeId} {h : Hop Properties} {l : Leg} {hs : List (Hop Properties)} {ls : List Leg}
      (hl : m.IsLeg h a l) (hls : Legs l.2 hs ls) : Legs a (h :: hs) (l :: ls)

structure Fits (p : PathPattern Properties) (c : Choice) : Prop where
  start : m.IsNode p.start c.start
  legs : m.Legs c.start p.hops c.legs

/-- An assignment satisfies patterns: each choice fits, no relationship is picked twice, and
equal names have equal values, which agree with the row. -/
structure Satisfies (ps : List (PathPattern Properties)) (row : Row) (cs : List Choice) :
    Prop where
  fits : List.Forall₂ m.Fits ps cs
  nodup : (cs.flatMap Choice.rels).Nodup
  agree : Binding.Agree row (bindings m.store ps cs)

variable {m} {a : NodeId} {h : Hop Properties} {l : Leg}

lemma Legs.binders {hs : List (Hop Properties)} {ls : List Leg} (h : m.Legs a hs ls) :
    (legBindings hs ls).map Binding.binder = hs.flatMap Hop.binders := by
  induction h with
  | nil => rfl
  | @cons a h l hs ls _ _ ih =>
    change (Hop.bindings h l ++ legBindings hs ls).map Binding.binder = _
    rw [List.map_append, ih, List.flatMap_cons, Hop.bindings, List.map_append,
      Binding.binder_named, Binding.binder_named, Hop.binders]

/-- A choice that fits gives a value to every name. -/
lemma Fits.binders {p : PathPattern Properties} {c : Choice} (h : m.Fits p c) :
    (p.bindings m.store c).map Binding.binder = p.binders := by
  rw [PathPattern.bindings, List.map_append, List.map_append, Binding.binder_named, h.legs.binders,
    Binding.binder_named, PathPattern.binders]

lemma binders_bindings {ps : List (PathPattern Properties)} {cs : List Choice}
    (h : List.Forall₂ m.Fits ps cs) :
    (bindings m.store ps cs).map Binding.binder = ps.flatMap PathPattern.binders := by
  induction h with
  | nil => rfl
  | @cons p c ps cs hp _ ih =>
    change (p.bindings m.store c ++ bindings m.store ps cs).map Binding.binder = _
    rw [List.map_append, ih, List.flatMap_cons, hp.binders]

/-- **For well-named patterns, an assignment is checked if its bindings agree.** -/
theorem checked_bindings {ps : List (PathPattern Properties)} {cs : List Choice} {row : Row}
    (h : List.Forall₂ m.Fits ps cs) (hnames : WellNamed row (ps.flatMap PathPattern.binders)) :
    Binding.Checked row (bindings m.store ps cs) ↔ Binding.Agree row (bindings m.store ps cs) := by
  have hbinders := binders_bindings h
  have hmem : ∀ b ∈ bindings m.store ps cs, b.binder ∈ ps.flatMap PathPattern.binders :=
    fun b hb => hbinders ▸ List.mem_map_of_mem hb
  have hname : (bindings m.store ps cs).map Binding.name =
      (ps.flatMap PathPattern.binders).map Prod.fst := by
    rw [← hbinders, List.map_map]
    rfl
  refine Binding.checked_iff (fun b hb hu => hnames.unbound _ (hmem b hb) hu) fun b hb hu => ?_
  rw [hname]
  exact hnames.once _ (hmem b hb) hu

/-! ### The way of a leg -/

lemma nodesAlong_walk {s : Store} {d : Direction} {P : Relationship → Prop} {a b : NodeId}
    {w : Walk} (h : s.WalkTo d P a w b) : s.nodesAlong a (w.map Prod.fst) = w.map Prod.snd := by
  induction h with
  | nil => rfl
  | cons he _ ih =>
    obtain ⟨r, hr, -, hj⟩ := he
    rw [List.map_cons, Store.nodesAlong, hr, Option.elim_some, hj.otherEnd, ih, List.map_cons]

/-- What comes after a leg goes on from where it ends. -/
lemma IsLeg.nodesAlong_append (h : m.IsLeg h a l) (is : List RelId) :
    m.store.nodesAlong a (l.1 ++ is) =
      m.store.nodesAlong a l.1 ++ m.store.nodesAlong l.2 is := by
  obtain ⟨w, hw, hl⟩ := h.walk
  rw [← hl]
  clear h hl
  generalize l.2 = b at hw
  induction hw with
  | nil => rfl
  | cons he _ ih =>
    obtain ⟨r, hr, -, hj⟩ := he
    rw [List.map_cons, List.cons_append, Store.nodesAlong, Store.nodesAlong, hr, Option.elim_some,
      hj.otherEnd, ih, List.cons_append]

end Matcher

end PropertyGraph
