import PropertyGraph.Proofs.Cypher.Parts
import PropertyGraph.Proofs.Matching.Trail
import PropertyGraph.Proofs.Meaning.Constant

/-!
The rows in which patterns hold.

Properties of a pattern that are made of literals and parameters are the same in every row. So
patterns with such properties ask for the same whenever they are looked at, and the rows that
match them are those of the satisfying assignments.
-/

namespace PropertyGraph

namespace Cypher.Expr

/-- Expressions that are made of literals and parameters. -/
inductive Fixed : Expr → Prop
  | literal (v : Value) : Fixed (of (.literal v))
  | parameter (n : String) : Fixed (of (.parameter n))
  | property {x : Expr} (hx : Fixed x) (k : String) : Fixed (of (.property x k))
  | index {x i : Expr} (hx : Fixed x) (hi : Fixed i) : Fixed (of (.index x i))
  | list {xs : List Expr} (h : ∀ x ∈ xs, Fixed x) : Fixed (of (.list xs))
  | map {es : List (String × Expr)} (h : ∀ e ∈ es, Fixed e.2) : Fixed (of (.map es))
  | binary {x y : Expr} (op : BinaryOp) (hx : Fixed x) (hy : Fixed y) : Fixed (of (.binary op x y))
  | unary {x : Expr} (op : UnaryOp) (hx : Fixed x) : Fixed (of (.unary op x))
  | call {xs : List Expr} (n : String) (d : Bool) (h : ∀ x ∈ xs, Fixed x) :
      Fixed (of (.call n d xs))

/-- **What is made of literals and parameters has one value in all rows.** -/
theorem Fixed.value_eq {e : Expr} (h : e.Fixed) (env : Env) (row row' : Row) :
    e.meaning.value env row = e.meaning.value env row' := by
  induction h with
  | literal => rfl
  | parameter => rfl
  | property _ k ih => exact congrArg (· >>= _) ih
  | index _ _ ihx ihi =>
    exact congrArg₂ (fun x i => x >>= fun v => i >>= fun i => v.index env.store i) ihx ihi
  | list _ ih => exact congrArg (· >>= _) (values_congr ih)
  | map _ ih => exact congrArg (· >>= _) (entries_congr ih)
  | binary op _ _ ihx ihy =>
    exact congrArg₂ (fun x y => x >>= fun v => v.binary op fun _ => y) ihx ihy
  | unary op _ ih => exact congrArg (· >>= _) ih
  | @call xs n d _ ih =>
    change Meaning.call env none row n d (foldList Meaning.ofLayer xs) =
      Meaning.call env none row' n d (foldList Meaning.ofLayer xs)
    rw [Meaning.call, Meaning.call]
    split
    · rfl
    · exact congrArg (· >>= _) (values_congr ih)

/-- The properties that an expression stands for in a row. -/
def properties (env : Env) (row : Row) (e : Expr) : Properties :=
  match e.meaning.value env row with
  | .ok (.map es) => es
  | _ => []

end Cypher.Expr

namespace Cypher.PathPattern

variable {ε δ : Type}

lemma binders_map (f : ε → δ) (p : PathPattern ε) : (p.map f).binders = p.binders := by
  have hhops : (p.hops.map (·.map f)).flatMap Hop.binders = p.hops.flatMap Hop.binders := by
    rw [List.flatMap_map]
    rfl
  rw [binders, binders, ← hhops]
  rfl

end Cypher.PathPattern

namespace Matcher

open Cypher

/-- A pattern with fixed properties asks for the same in every row. -/
lemma parts_eq_constant {env : Env} {row : Row} {p : PathPattern Expr}
    (hfixed : ∀ e ∈ p.properties, e.Fixed)
    (hmaps : ∀ e ∈ p.properties, ∃ es, e.meaning.value env row = .ok (.map es)) :
    Meaning.parts (p.map Expr.meaning) env = (p.map (Expr.properties env row)).map constant := by
  rw [Meaning.parts, PathPattern.map_map, PathPattern.map_map]
  refine PathPattern.map_congr fun e he => funext fun row' => ?_
  obtain ⟨es, hes⟩ := hmaps e he
  have hprops : e.properties env row = es := by rw [Expr.properties, hes]
  exact ((hfixed e he).value_eq env row' row).trans (hes.trans (by rw [← hprops]; rfl))

lemma hop_names_ne {row : Row} {ps : List (PathPattern Properties)}
    (hnames : WellNamed row (ps.flatMap PathPattern.binders)) :
    ∀ p ∈ ps, ∀ h ∈ p.hops, ∀ n, h.rel.name = some n → h.node.name ≠ some n := by
  intro p hp h hh n hrel hnode
  have hmem {e : String × Role} (he : e ∈ h.binders) : e ∈ ps.flatMap PathPattern.binders := by
    refine List.mem_flatMap.2 ⟨p, hp, ?_⟩
    exact List.mem_append_left _ (List.mem_append_right _ (List.mem_flatMap.2 ⟨h, hh, he⟩))
  have hrole : h.rel.role = .node := hnames.apart n _
    (hmem (by simp [Hop.binders, hnode])) (hmem (by simp [Hop.binders, hrel]))
  rw [RelPattern.role] at hrole
  split at hrole <;> contradiction

/-- **The rows that match patterns are those of the satisfying assignments**, each of which gives
one row. -/
theorem rows_yields_satisfying (calls : List Store.Call) (c : Context) (row : Row)
    (ps : List (PathPattern Expr)) (hall : ∀ p ∈ ps, p.selector = .all)
    (hfixed : ∀ p ∈ ps, ∀ e ∈ p.properties, e.Fixed)
    (hmaps : ∀ p ∈ ps, ∀ e ∈ p.properties,
      ∃ es, e.meaning.value (c.on (Store.run calls {})) row = .ok (.map es))
    (hnames : WellNamed row (ps.flatMap PathPattern.binders)) :
    let env := c.on (Store.run calls {})
    let required := ps.map fun p => p.map (Expr.properties env row)
    Yields (env.matcher.rows (ps.map fun p => Meaning.parts (p.map Expr.meaning) env) row)
      (env.matcher.Satisfies required row)
      fun cs => Binding.extend row (bindings env.store required cs) := by
  intro env required
  have hs : env.matcher.store.Sound := (Store.lawful_empty.run calls).sound
  have hparts : (ps.map fun p => Meaning.parts (p.map Expr.meaning) env) =
      required.map fun p => p.map constant := by
    rw [List.map_map]
    exact List.map_congr_left fun p hp => parts_eq_constant (hfixed p hp) (hmaps p hp)
  have hbinders : required.flatMap PathPattern.binders = ps.flatMap PathPattern.binders := by
    rw [List.flatMap_map]
    exact List.flatMap_congr fun p _ => PathPattern.binders_map _ p
  rw [← hbinders] at hnames
  have hall' : ∀ p ∈ required, p.selector = .all := by
    intro p hp
    obtain ⟨q, hq, rfl⟩ := List.mem_map.1 hp
    exact hall q hq
  have hrows : env.matcher.rows (required.map fun p => p.map constant) row =
      env.matcher.rowsAfter (required.flatMap fun p => Move.ofPattern (p.map constant))
        (.begin row) := by
    rw [rows, List.flatMap_map]
    rfl
  rw [hparts, hrows]
  refine (yields_patterns hs hall' List.nodup_nil (hop_names_ne hnames)).reindex id
    Function.injective_id (fun cs => ?_) fun _ _ => rfl
  simp only [id, exists_eq_right]
  constructor
  · rintro ⟨hfits, hnodup, hagree⟩
    exact ⟨hfits, hnodup, (checked_bindings hfits hnames).2 hagree⟩
  · rintro ⟨hfits, hnodup, hchecked⟩
    exact ⟨hfits, hnodup, (checked_bindings hfits hnames).1 hchecked⟩

/-- A path of named relationships from a node with the name that a parameter holds. -/
theorem rows_yields_satisfying_path :
    let calls := [Store.Call.createNode ["Person"] [("name", .str "Ann")],
      .createNode ["Person"] [], .createRel "KNOWS" 0 1 []]
    let c : Context := ⟨[("name", .str "Ann")], 5, .ofNat 0⟩
    let p : PathPattern Expr :=
      { name := some "p"
        selector := .all
        start := ⟨some "x", ["Person"], some (.of (.map [("name", .of (.parameter "name"))]))⟩
        hops := [⟨⟨some "r", ["KNOWS"], .outgoing, none, some ⟨none, none⟩⟩,
          ⟨some "y", [], none⟩⟩] }
    let env := c.on (Store.run calls {})
    let required := [p.map (Expr.properties env [])]
    Yields (env.matcher.rows [Meaning.parts (p.map Expr.meaning) env] [])
      (env.matcher.Satisfies required [])
      fun cs => Binding.extend [] (bindings env.store required cs) := by
  intro calls c p
  have hproperties : p.properties = [.of (.map [("name", .of (.parameter "name"))])] := rfl
  refine rows_yields_satisfying calls c [] [p] (by simp [p]) ?_ ?_ ?_
  · simp only [List.mem_singleton, forall_eq, hproperties]
    exact .map (by simpa using .parameter "name")
  · simp only [List.mem_singleton, forall_eq, hproperties]
    exact ⟨[("name", .str "Ann")], rfl⟩
  · have hbinders : [p].flatMap PathPattern.binders =
        [("x", .node), ("r", .rels), ("y", .node), ("p", .path)] := rfl
    rw [hbinders]
    refine ⟨fun n role hn hrole => ?_, by simp, by decide⟩
    simp only [List.mem_cons, Prod.mk.injEq, List.not_mem_nil] at hn hrole
    grind

end Matcher

end PropertyGraph
