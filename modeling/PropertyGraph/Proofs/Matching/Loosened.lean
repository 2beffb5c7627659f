import PropertyGraph.Proofs.Matching.Narrowed

/-!
Tests inside of patterns and conditions in WHERE.

The labels of a named node, and the properties of a named node or of a named single relationship,
can be taken out of a pattern if WHERE asks for them instead. A pattern that is loosened like this
finds more, and in the same order, and WHERE lets through what the pattern itself would have found.
-/

namespace PropertyGraph

namespace Cypher

/-! ### Loosening patterns -/

/-- The condition `n:l`. -/
def Expr.hasLabel (n l : String) : Expr := .of (.hasLabels (.of (.name n)) [l])

/-- The condition `n.k = x` for an entry `k: x`. -/
def Expr.hasProperty (n : String) (e : String × Expr) : Expr :=
  .of (.binary .eq (.of (.property (.of (.name n)) e.1)) e.2)

/-- The entries of a map literal in a pattern, none if there is no map. -/
inductive Entries : Option Expr → List (String × Expr) → Prop
  | none : Entries none []
  | map (es : List (String × Expr)) : Entries (some (.of (.map es))) es

/-- A node as it is, or a named one without its labels and properties, which are conditions. -/
inductive NodePattern.Loosens : NodePattern Expr → NodePattern Expr → List Expr → Prop
  | keep (p : NodePattern Expr) : Loosens p p []
  | move (n : String) (labels : List String) {properties : Option Expr} {es : List (String × Expr)}
      (h : Entries properties es) :
      Loosens ⟨some n, labels, properties⟩ ⟨some n, [], none⟩
        (labels.map (Expr.hasLabel n) ++ es.map (Expr.hasProperty n))

/-- A relationship as it is, or a named single one without its properties, which are conditions. -/
inductive RelPattern.Loosens : RelPattern Expr → RelPattern Expr → List Expr → Prop
  | keep (p : RelPattern Expr) : Loosens p p []
  | move (n : String) (types : List String) (direction : Direction) {properties : Option Expr}
      {es : List (String × Expr)} (h : Entries properties es) :
      Loosens ⟨some n, types, direction, properties, none⟩ ⟨some n, types, direction, none, none⟩
        (es.map (Expr.hasProperty n))

inductive Hop.Loosens : Hop Expr → Hop Expr → List Expr → Prop
  | mk {p q : RelPattern Expr} {m n : NodePattern Expr} {xs ys : List Expr} (hrel : p.Loosens q xs)
      (hnode : m.Loosens n ys) : Loosens ⟨p, m⟩ ⟨q, n⟩ (xs ++ ys)

/-- Elements are related one by one, each with some conditions. -/
inductive Each {α : Type} (R : α → α → List Expr → Prop) : List α → List α → List Expr → Prop
  | nil : Each R [] [] []
  | cons {a b : α} {as bs : List α} {xs ys : List Expr} (h : R a b xs) (hs : Each R as bs ys) :
      Each R (a :: as) (b :: bs) (xs ++ ys)

/-- **A pattern is loosened** by taking tests out of some of its nodes and relationships. -/
inductive PathPattern.Loosens : PathPattern Expr → PathPattern Expr → List Expr → Prop
  | mk (name : Option String) (selector : Selector) {p q : NodePattern Expr}
      {hs ks : List (Hop Expr)} {xs ys : List Expr} (hstart : p.Loosens q xs)
      (hhops : Each Hop.Loosens hs ks ys) :
      Loosens ⟨name, selector, p, hs⟩ ⟨name, selector, q, ks⟩ (xs ++ ys)

namespace Each

variable {α β : Type} {R : α → α → List Expr → Prop} {as bs : List α} {xs : List Expr}

lemma flatMap_eq {f : α → List β} (h : Each R as bs xs) (hf : ∀ a b xs, R a b xs → f b = f a) :
    bs.flatMap f = as.flatMap f := by
  induction h with
  | nil => rfl
  | cons h _ ih => rw [List.flatMap_cons, List.flatMap_cons, hf _ _ _ h, ih]

lemma flatMap_subset {f : α → List β} (h : Each R as bs xs)
    (hf : ∀ a b xs, R a b xs → f b ⊆ f a) : bs.flatMap f ⊆ as.flatMap f := by
  induction h with
  | nil => exact List.Subset.refl _
  | cons h _ ih =>
    rw [List.flatMap_cons, List.flatMap_cons]
    exact List.append_subset.2 ⟨List.subset_append_of_subset_left _ (hf _ _ _ h),
      List.subset_append_of_subset_right _ ih⟩

end Each

/-! ### What loosening leaves as it is -/

section

variable {xs : List Expr}

lemma NodePattern.Loosens.name_eq {p q : NodePattern Expr} (h : p.Loosens q xs) :
    q.name = p.name := by cases h <;> rfl

lemma NodePattern.Loosens.properties_subset {p q : NodePattern Expr} (h : p.Loosens q xs) :
    q.properties.toList ⊆ p.properties.toList := by
  cases h with
  | keep => exact List.Subset.refl _
  | move => exact List.nil_subset _

lemma RelPattern.Loosens.name_eq {p q : RelPattern Expr} (h : p.Loosens q xs) :
    q.name = p.name := by cases h <;> rfl

lemma RelPattern.Loosens.length_eq {p q : RelPattern Expr} (h : p.Loosens q xs) :
    q.length = p.length := by cases h <;> rfl

lemma RelPattern.Loosens.properties_subset {p q : RelPattern Expr} (h : p.Loosens q xs) :
    q.properties.toList ⊆ p.properties.toList := by
  cases h with
  | keep => exact List.Subset.refl _
  | move => exact List.nil_subset _

variable {p q : PathPattern Expr}

lemma PathPattern.Loosens.selector_eq (h : p.Loosens q xs) : q.selector = p.selector := by
  cases h
  rfl

lemma PathPattern.Loosens.names_eq (h : p.Loosens q xs) : q.names = p.names := by
  obtain ⟨name, selector, hstart, hhops⟩ := h
  have hnames := hhops.flatMap_eq (f := fun h => h.rel.name.toList ++ h.node.name.toList) <| by
    rintro _ _ _ ⟨hrel, hnode⟩
    rw [hrel.name_eq, hnode.name_eq]
  rw [names, names, hstart.name_eq, hnames]

lemma PathPattern.Loosens.rebound_eq (h : p.Loosens q xs) : q.rebound = p.rebound := by
  obtain ⟨name, selector, hstart, hhops⟩ := h
  refine congrArg (· ++ name.toList) (hhops.flatMap_eq ?_)
  rintro _ _ _ ⟨hrel, -⟩
  simp only [RelPattern.rebound, hrel.name_eq, hrel.length_eq]

lemma PathPattern.Loosens.properties_subset (h : p.Loosens q xs) : q.properties ⊆ p.properties := by
  obtain ⟨name, selector, hstart, hhops⟩ := h
  have hnodes := hhops.flatMap_subset (f := fun h => h.node.properties.toList) <| by
    rintro _ _ _ ⟨-, hnode⟩
    exact hnode.properties_subset
  have hrels := hhops.flatMap_subset (f := fun h => h.rel.properties.toList) <| by
    rintro _ _ _ ⟨hrel, -⟩
    exact hrel.properties_subset
  intro e he
  simp only [properties, List.mem_append] at he ⊢
  exact he.imp (Or.imp (hstart.properties_subset ·) (hnodes ·)) (hrels ·)

end

/-- No name stands for two things. -/
def OneRole (names : List (String × Role)) : Prop :=
  ∀ n role role', (n, role) ∈ names → (n, role') ∈ names → role = role'

/-! ### Map literals -/

namespace Expr

/-- An expression has a value, the same in all rows. -/
def HasOneValue (env : Env) (x : Expr) : Prop := ∃ v, ∀ row, x.meaning.value env row = .ok v

/-- A map literal with distinct keys, of constant values. -/
def IsRecord (env : Env) (e : Expr) : Prop :=
  ∃ es, e = of (.map es) ∧ (es.map Prod.fst).Nodup ∧ ∀ x ∈ es, x.2.HasOneValue env

/-- The value of an expression that has one in all rows. -/
def fixedValue (env : Env) (x : Expr) : Value :=
  match x.meaning.value env [] with
  | .ok v => v
  | .error _ => .null

variable {env : Env} {row : Row}

/-- What is made of literals and parameters is constant if it has a value. -/
lemma Fixed.hasOneValue {x : Expr} (h : x.Fixed) {v : Value}
    (hv : x.meaning.value env row = .ok v) : x.HasOneValue env :=
  ⟨v, fun row' => (h.value_eq env row' row).trans hv⟩

lemma HasOneValue.value_eq {x : Expr} (h : x.HasOneValue env) (row : Row) :
    x.meaning.value env row = .ok (x.fixedValue env) := by
  obtain ⟨v, hv⟩ := h
  rw [hv row, fixedValue, hv []]

lemma value_map {es : List (String × Expr)} (hes : ∀ x ∈ es, x.2.HasOneValue env) (row : Row) :
    (of (.map es)).meaning.value env row =
      .ok (.map (Dict.ofList (es.map fun x => (x.1, x.2.fixedValue env)))) := by
  have hentries : (foldEntries Meaning.ofLayer es).mapM
      (fun e => do return (e.1, ← e.2.value env row)) =
        .ok (es.map fun x => (x.1, x.2.fixedValue env)) := by
    rw [foldEntries_eq_map, List.mapM_map]
    refine mapM_eq_ok fun x hx => ?_
    change (x.2.meaning.value env row >>= fun v => .ok (x.1, v)) = _
    rw [(hes x hx).value_eq row]
    rfl
  change ((foldEntries Meaning.ofLayer es).mapM (fun e => do return (e.1, ← e.2.value env row)) >>=
    fun es => Except.ok (Value.map (Dict.ofList es))) = _
  rw [hentries]
  rfl

lemma IsRecord.value_eq {e : Expr} (h : e.IsRecord env) (row : Row) :
    e.meaning.value env row = .ok (.map (e.properties env [])) := by
  obtain ⟨es, rfl, -, hes⟩ := h
  rw [value_map hes row, properties, value_map hes []]

end Expr

namespace Entries

variable {env : Env} {properties : Option Expr} {es : List (String × Expr)}

lemma record (h : Entries properties es) (hrecord : ∀ e ∈ properties, e.IsRecord env) :
    (es.map Prod.fst).Nodup ∧ ∀ x ∈ es, x.2.HasOneValue env := by
  cases h with
  | none => simp
  | map =>
    obtain ⟨es', heq, hkeys, hes⟩ := hrecord _ rfl
    injection heq with heq
    injection heq with heq
    subst heq
    exact ⟨hkeys, hes⟩

/-- **The properties that a pattern asks for** are the entries of its map literal. -/
theorem mem_properties_iff (h : Entries properties es)
    (hrecord : ∀ e ∈ properties, e.IsRecord env) {e : String × Value} :
    e ∈ (properties.map (Expr.properties env [])).getD [] ↔
      ∃ x ∈ es, (x.1, x.2.fixedValue env) = e := by
  obtain ⟨hkeys, hvalue⟩ := h.record hrecord
  cases h with
  | none => simp
  | map =>
    have hprops : Expr.properties env [] (.of (.map es)) =
        Dict.ofList (es.map fun x => (x.1, x.2.fixedValue env)) := by
      rw [Expr.properties, Expr.value_map hvalue []]
    have hkeys' : ((es.map fun x => (x.1, x.2.fixedValue env)).map Prod.fst).Nodup := by
      rwa [List.map_map]
    rw [Option.map_some, Option.getD_some, hprops, Dict.mem_ofList_iff hkeys', List.mem_map]

end Entries

/-! ### Conditions for tests -/

namespace Expr

variable {env : Env} {row : Row} {n : String}

lemma value_hasLabel {id : NodeId} (hn : Dict.get? row n = some (.node id)) (l : String) :
    (hasLabel n l).meaning.value env row =
      .ok (.bool ((env.store.node? id).any fun node => decide (l ∈ node.labels))) := by
  change Meaning.hasLabels env [l] (Dict.getD row n .null) = _
  rw [Dict.getD, hn, Option.getD_some, Meaning.hasLabels]
  simp

lemma value_hasProperty {v u : Value} {actual : Properties} {x : String × Expr}
    (hn : Dict.get? row n = some v)
    (hv : v.property env.store x.1 = .ok (Dict.getD actual x.1 .null))
    (hx : x.2.meaning.value env row = .ok u) :
    (hasProperty n x).meaning.value env row =
      .ok (.ofTruth ((Dict.getD actual x.1 .null).equals u)) := by
  change ((Value.property env.store x.1 (Dict.getD row n .null)) >>= fun v =>
    v.binary .eq fun _ => x.2.meaning.value env row) = _
  rw [Dict.getD, hn, Option.getD_some, hv, hx]
  rfl

end Expr

end Cypher

namespace Matcher

open Cypher

variable {env : Env} {rebound : List String} {row : Row} {n : String} {xs ys : List Expr}

/-! ### Tests that conditions tell -/

/-- Tests that are told by a condition each. -/
lemma tells_forall {α : Type} {as : List α} {P : α → Prop} {f : α → Expr} {b : α → Option Bool}
    (hf : ∀ a ∈ as, (f a).meaning.value env row = .ok (.ofTruth (b a)))
    (hb : ∀ a ∈ as, P a ↔ b a = some true) :
    Tells env row (∀ a ∈ as, P a) True (as.map f) where
  iff := by
    rw [true_and, Expr.allTrue_iff, List.forall_mem_map]
    refine forall₂_congr fun a ha => ?_
    rw [Expr.isTrue_iff, hf a ha, hb a ha, Except.ok.injEq, Value.ofTruth_eq_true]
  truthful _ := List.forall_mem_map.2 fun a ha => ⟨b a, hf a ha⟩

lemma tells_labels {id : NodeId} {node : Node} (hn : Dict.get? row n = some (.node id))
    (hid : env.store.node? id = some node) (labels : List String) :
    Tells env row (∀ l ∈ labels, l ∈ node.labels) True (labels.map (Expr.hasLabel n)) := by
  refine tells_forall (b := fun l => some (decide (l ∈ node.labels))) (fun l _ => ?_) fun l _ => ?_
  · rw [Expr.value_hasLabel hn, hid]
    rfl
  · simp

/-- A missing property is null, which is equal to nothing. -/
lemma tells_entries {v : Value} {actual : Properties} {properties : Option Expr}
    {es : List (String × Expr)} (h : Entries properties es)
    (hrecord : ∀ e ∈ properties, e.IsRecord env) (hn : Dict.get? row n = some v)
    (hv : ∀ k, v.property env.store k = .ok (Dict.getD actual k .null)) :
    Tells env row (Fulfils (properties.map (Expr.properties env [])) actual) True
      (es.map (Expr.hasProperty n)) := by
  have hvalue := (h.record hrecord).2
  have hiff : Fulfils (properties.map (Expr.properties env [])) actual ↔
      ∀ x ∈ es, ∃ u, Dict.get? actual x.1 = some u ∧ u.equals (x.2.fixedValue env) = some true := by
    constructor
    · exact fun hall x hx => hall _ ((h.mem_properties_iff hrecord).2 ⟨x, hx, rfl⟩)
    · intro hall e he
      obtain ⟨x, hx, rfl⟩ := (h.mem_properties_iff hrecord).1 he
      exact hall x hx
  refine (tells_forall (fun x hx => Expr.value_hasProperty hn (hv x.1) ((hvalue x hx).value_eq row))
    fun x _ => ?_).congr hiff Iff.rfl
  rw [Dict.getD]
  cases Dict.get? actual x.1 with
  | none => simp [Value.equals]
  | some u => simp

/-! ### Loosened elements -/

lemma fulfils_none (actual : Properties) : Fulfils none actual := by simp [Fulfils]

/-- **A loosened node** and its conditions find what the node itself does. -/
theorem narrows_node {p q : NodePattern Expr} (h : p.Loosens q xs)
    (hrecord : ∀ e ∈ p.properties, e.IsRecord env) (hname : ∀ n, p.name = some n → n ∉ rebound) :
    NarrowsNode env rebound (p.map (Expr.properties env [])) (q.map (Expr.properties env []))
      xs := by
  cases h with
  | keep => exact ⟨rfl, hname, fun id row _ => .refl _⟩
  | move n labels hes =>
    refine ⟨rfl, hname, fun id row hrow => ?_⟩
    have hn := hrow n rfl
    cases hid : env.store.node? id with
    | none =>
      have habsent (r : NodePattern Properties) : ¬ env.matcher.IsNode r id := by
        rintro ⟨node, hnode, -⟩
        exact Option.some_ne_none _ (hnode.symm.trans hid)
      exact .absent (habsent _) (habsent _)
    | some node =>
      have hprops (k : String) : (Value.node id).property env.store k =
          .ok (Dict.getD node.properties k .null) := by
        rw [Value.property, Store.nodeProperties, hid]
        rfl
      have hisNode (r : NodePattern Properties) : env.matcher.IsNode r id ↔
          (∀ l ∈ r.labels, l ∈ node.labels) ∧ Fulfils r.properties node.properties := by
        constructor
        · rintro ⟨node', hnode, h⟩
          obtain rfl := Option.some.inj (hid.symm.trans hnode)
          exact h
        · exact fun h => ⟨node, hid, h⟩
      refine ((tells_labels hn hid labels).and (tells_entries hes hrecord hn hprops)).congr
        (hisNode _) ((hisNode _).trans ?_)
      exact iff_of_true ⟨fun _ hl => absurd hl List.not_mem_nil, fulfils_none _⟩ ⟨trivial, trivial⟩

/-- **A loosened relationship** and its conditions find what the relationship itself does. -/
theorem narrows_rel {p q : RelPattern Expr} (h : p.Loosens q xs)
    (hrecord : ∀ e ∈ p.properties, e.IsRecord env)
    (hname : p.length = none → ∀ n, p.name = some n → n ∉ rebound) :
    NarrowsRel env rebound (p.map (Expr.properties env [])) (q.map (Expr.properties env []))
      xs := by
  cases h with
  | keep => exact .refl _
  | move n types direction hes =>
    refine .single rfl rfl rfl rfl (hname rfl) fun r row hr hrow => ?_
    have hprops (k : String) : (Value.rel r.id).property env.store k =
        .ok (Dict.getD r.properties k .null) := by
      rw [Value.property, Store.relProperties, hr]
      rfl
    exact ((Tells.refl (types = [] ∨ r.type ∈ types)).and
      (tells_entries hes hrecord (hrow n rfl) hprops)).congr Iff.rfl
        (and_congr Iff.rfl (iff_true_intro (fulfils_none r.properties)))

/-! ### Loosened patterns -/

section

variable {roles : List (String × Role)}

/-- The names that are bound anew are those of paths and of hops of variable length. -/
def Rebinds (roles : List (String × Role)) (rebound : List String) : Prop :=
  ∀ n ∈ rebound, ∃ role, role.unchecked ∧ (n, role) ∈ roles

lemma notMem_rebound (hone : OneRole roles) (hrebound : Rebinds roles rebound) {role : Role}
    (hn : (n, role) ∈ roles) (hrole : ¬ role.unchecked) : n ∉ rebound := by
  intro hmem
  obtain ⟨role', hunchecked, hn'⟩ := hrebound n hmem
  exact hrole (hone n role role' hn hn' ▸ hunchecked)

variable (env) in
/-- The move of a hop whose properties are the same in all rows. -/
def fixedHop (h : Hop Expr) : Move := .hop ((h.map (Expr.properties env [])).map constant)

lemma narrows_fixedHop (hs : env.store.Sound) (hone : OneRole roles)
    (hrebound : Rebinds roles rebound) {h k : Hop Expr} (hloosens : h.Loosens k xs)
    (hrecord : ∀ e, e ∈ h.rel.properties ∨ e ∈ h.node.properties → e.IsRecord env)
    (hroles : h.binders ⊆ roles) :
    Narrows env rebound [fixedHop env h] [fixedHop env k] xs := by
  obtain @⟨p, q, m, n, xs, ys, hrel, hnode⟩ := hloosens
  have hnodeRole {n : String} (hn : m.name = some n) : (n, Role.node) ∈ roles :=
    hroles (by simp [Hop.binders, hn])
  have hrelRole {n : String} (hn : p.name = some n) : (n, p.role) ∈ roles :=
    hroles (by simp [Hop.binders, hn])
  refine narrows_hop hs (narrows_rel hrel (fun e he => hrecord e (.inl he)) fun hlength n hn => ?_)
    (narrows_node hnode (fun e he => hrecord e (.inr he)) fun n hn => ?_) fun n hn hn' => ?_
  · have hrole : p.role = .rel := if_pos (Option.isNone_iff_eq_none.2 hlength)
    exact notMem_rebound hone hrebound (hrelRole hn) (by simp [hrole, Role.unchecked])
  · exact notMem_rebound hone hrebound (hnodeRole hn) (by simp [Role.unchecked])
  · have hrole := hone n _ _ (hrelRole (hrel.name_eq.symm.trans hn))
      (hnodeRole (hnode.name_eq.symm.trans hn'))
    rw [RelPattern.role] at hrole
    split at hrole <;> contradiction

lemma narrows_fixedHops (hs : env.store.Sound) (hone : OneRole roles)
    (hrebound : Rebinds roles rebound) {as bs : List (Hop Expr)} (h : Each Hop.Loosens as bs xs)
    (hrecord : ∀ a ∈ as, ∀ e, e ∈ a.rel.properties ∨ e ∈ a.node.properties → e.IsRecord env)
    (hroles : as.flatMap Hop.binders ⊆ roles)
    (hbs : bs.flatMap (fun h => h.rel.rebound) ⊆ rebound) :
    Narrows env rebound (as.map (fixedHop env)) (bs.map (fixedHop env)) xs := by
  induction h with
  | nil => exact .nil
  | @cons a b as bs xs ys h _ ih =>
    rw [List.forall_mem_cons] at hrecord
    rw [List.flatMap_cons, List.append_subset] at hroles hbs
    refine (narrows_fixedHop hs hone hrebound h hrecord.1 hroles.1).append
      (ih hrecord.2 hroles.2 hbs.2) ?_
    rw [List.flatMap_map]
    exact hbs.2

/-- The moves of a pattern whose properties are the same in all rows. -/
def fixedMoves (env : Env) (p : PathPattern Expr) : List Move :=
  Move.ofPattern ((p.map (Expr.properties env [])).map constant)

lemma fixedMoves_eq {p : PathPattern Expr} (hall : p.selector = .all) :
    fixedMoves env p = [.start ((p.start.map (Expr.properties env [])).map constant)] ++
      (p.hops.map (fixedHop env) ++ [.close p.name]) := by
  have hall' : (p.map (Expr.properties env [])).selector = .all := hall
  rw [fixedMoves, ofPattern_constant hall']
  simp only [PathPattern.map, List.map_map]
  rfl

lemma rebound_fixedMoves (p : PathPattern Expr) :
    (fixedMoves env p).flatMap Move.rebound = p.rebound := by
  rw [fixedMoves, Move.rebound_ofPattern, PathPattern.rebound_map, PathPattern.rebound_map]

lemma rebound_of_all {p : PathPattern Expr} (hall : p.selector = .all) :
    p.rebound = p.hops.flatMap (fun h => h.rel.rebound) ++ p.name.toList := by
  simp only [PathPattern.rebound, if_pos hall]

theorem narrows_pattern (hs : env.store.Sound) (hone : OneRole roles)
    (hrebound : Rebinds roles rebound) {p q : PathPattern Expr} (h : p.Loosens q xs)
    (hall : p.selector = .all) (hrecord : ∀ e ∈ p.properties, e.IsRecord env)
    (hroles : p.binders ⊆ roles) (hq : q.rebound ⊆ rebound) :
    Narrows env rebound (fixedMoves env p) (fixedMoves env q) xs := by
  have hallq : q.selector = .all := h.selector_eq.trans hall
  have hparts {e : Expr} {a : Hop Expr} (ha : a ∈ p.hops)
      (he : e ∈ a.rel.properties ∨ e ∈ a.node.properties) : e ∈ p.properties := by
    simp only [PathPattern.properties, List.mem_append, List.mem_flatMap, Option.mem_toList]
    exact he.elim (fun he => .inr ⟨a, ha, he⟩) fun he => .inl (.inr ⟨a, ha, he⟩)
  rw [fixedMoves_eq hall, fixedMoves_eq hallq]
  rw [rebound_of_all hallq, List.append_subset] at hq
  obtain @⟨name, selector, p, q, hs', ks, xs, ys, hstart, hhops⟩ := h
  rw [PathPattern.binders, List.append_subset, List.append_subset] at hroles
  have hname (n : String) (hn : p.name = some n) : n ∉ rebound := by
    have hrole : (n, Role.node) ∈ roles := hroles.1.1 (by simp [hn])
    exact notMem_rebound hone hrebound hrole (by simp [Role.unchecked])
  have hfirst := narrows_start hs (narrows_node hstart
    (fun e he => hrecord e (by simp [PathPattern.properties, Option.mem_def.1 he])) hname)
  have hrest := narrows_fixedHops hs hone hrebound hhops
    (fun a ha e he => hrecord e (hparts ha he)) hroles.1.2 hq.1
  have hmoves := hfirst.append (hrest.append (narrows_close name) ?_) ?_
  · simpa using hmoves
  · simpa [Move.rebound] using hq.2
  · rw [List.flatMap_append, List.flatMap_map]
    exact List.append_subset.2 ⟨hq.1, by simpa [Move.rebound] using hq.2⟩

theorem narrows_patterns (hs : env.store.Sound) (hone : OneRole roles)
    (hrebound : Rebinds roles rebound) {ps qs : List (PathPattern Expr)}
    (h : Each PathPattern.Loosens ps qs xs) (hall : ∀ p ∈ ps, p.selector = .all)
    (hrecord : ∀ p ∈ ps, ∀ e ∈ p.properties, e.IsRecord env)
    (hroles : ps.flatMap PathPattern.binders ⊆ roles)
    (hqs : qs.flatMap PathPattern.rebound ⊆ rebound) :
    Narrows env rebound (ps.flatMap (fixedMoves env)) (qs.flatMap (fixedMoves env)) xs := by
  induction h with
  | nil => exact .nil
  | cons h _ ih =>
    rw [List.forall_mem_cons] at hall hrecord
    rw [List.flatMap_cons, List.append_subset] at hroles hqs
    rw [List.flatMap_cons, List.flatMap_cons]
    refine (narrows_pattern hs hone hrebound h hall.1 hrecord.1 hroles.1 hqs.1).append
      (ih hall.2 hrecord.2 hroles.2 hqs.2) ?_
    rw [List.flatMap_assoc]
    simp only [rebound_fixedMoves]
    exact hqs.2

end

/-! ### Rows -/

lemma rebinds_patterns {ps : List (PathPattern Expr)} (hall : ∀ p ∈ ps, p.selector = .all) :
    Rebinds (ps.flatMap PathPattern.binders) (ps.flatMap PathPattern.rebound) := by
  intro n hn
  obtain ⟨p, hp, hn⟩ := List.mem_flatMap.1 hn
  have hmem {role : Role} (h : (n, role) ∈ p.binders) :
      (n, role) ∈ ps.flatMap PathPattern.binders := List.mem_flatMap.2 ⟨p, hp, h⟩
  rw [PathPattern.rebound, List.mem_append, List.mem_flatMap] at hn
  rcases hn with ⟨h, hh, hn⟩ | hn
  · rw [if_pos (hall p hp), RelPattern.rebound] at hn
    split at hn
    · cases hn
    next hlength =>
      have hrole : h.rel.role = .rels := if_neg hlength
      refine ⟨.rels, rfl, hmem (List.mem_append_left _ (List.mem_append_right _ ?_))⟩
      refine List.mem_flatMap.2 ⟨h, hh, List.mem_append_left _ ?_⟩
      rw [hrole]
      exact List.mem_map_of_mem hn
  · exact ⟨.path, rfl, hmem (List.mem_append_right _ (List.mem_map_of_mem hn))⟩

lemma rows_eq {ps : List (PathPattern Expr)}
    (hrecord : ∀ e ∈ ps.flatMap PathPattern.properties, e.IsRecord env) (row : Row) :
    env.matcher.rows (ps.map fun p => Meaning.parts (p.map Expr.meaning) env) row =
      env.matcher.follow (ps.flatMap (fixedMoves env)) (.begin row) >>=
        fun ts => .ok (ts.map Trail.row) := by
  have hparts : (ps.map fun p => Meaning.parts (p.map Expr.meaning) env) =
      ps.map fun p => (p.map (Expr.properties env [])).map constant := by
    refine List.map_congr_left fun p hp => ?_
    have hp (e : Expr) (he : e ∈ p.properties) : e.IsRecord env :=
      hrecord e (List.mem_flatMap.2 ⟨p, hp, he⟩)
    rw [Meaning.parts, PathPattern.map_map, PathPattern.map_map]
    exact PathPattern.map_congr fun e he => funext fun row => (hp e he).value_eq row
  rw [hparts, rows, List.flatMap_map]
  rfl

/-- **Loosened patterns and their conditions** find the rows that the patterns find, in the same
order. -/
theorem rows_loosened (hs : env.store.Sound) {ps qs : List (PathPattern Expr)}
    (h : Each PathPattern.Loosens ps qs xs) (hall : ∀ p ∈ ps, p.selector = .all)
    (hrecord : ∀ e ∈ ps.flatMap PathPattern.properties, e.IsRecord env)
    (hone : OneRole (ps.flatMap PathPattern.binders)) (row : Row) :
    ∃ rows,
      env.matcher.rows (qs.map fun q => Meaning.parts (q.map Expr.meaning) env) row = .ok rows ∧
      env.matcher.rows (ps.map fun p => Meaning.parts (p.map Expr.meaning) env) row =
        .ok (rows.filter (Expr.allTrue env xs)) ∧
      ∀ row' ∈ rows, ∀ x ∈ xs, x.Truthful env row' := by
  have hrebound : qs.flatMap PathPattern.rebound = ps.flatMap PathPattern.rebound :=
    h.flatMap_eq fun _ _ _ h => h.rebound_eq
  have hqs : qs.flatMap PathPattern.properties ⊆ ps.flatMap PathPattern.properties :=
    h.flatMap_subset fun _ _ _ h => h.properties_subset
  obtain ⟨ts, hloose, htight, hsettled⟩ := narrows_patterns hs hone (rebinds_patterns hall) h hall
    (fun p hp e he => hrecord e (List.mem_flatMap.2 ⟨p, hp, he⟩)) (List.Subset.refl _)
    (hrebound ▸ List.Subset.refl _) (.begin row)
  refine ⟨ts.map Trail.row, ?_, ?_, ?_⟩
  · rw [rows_eq (fun e he => hrecord e (hqs he)), hloose]
    rfl
  · rw [rows_eq hrecord, htight, List.filter_map]
    rfl
  · intro row' hrow x hx
    obtain ⟨u, hu, rfl⟩ := List.mem_map.1 hrow
    exact (hsettled u hu u.row fun _ _ _ h => h).2 x hx

end Matcher

end PropertyGraph
