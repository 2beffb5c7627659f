import Mathlib.Algebra.GroupWithZero.Nat
import Mathlib.Algebra.Order.BigOperators.Group.List
import Mathlib.Algebra.Order.Group.Nat
import Mathlib.Tactic.Common
import PropertyGraph.Cypher.Expr

/-!
The parts of a layer: all expressions right under it, also those inside of its patterns and
subqueries. A fold makes of the parts what it makes of each of them, and what holds of a layer
when it holds of its parts holds of every expression.

What a query creates is picked out in the same way: the parts that give properties, and the labels,
which a fold leaves alone.
-/

namespace PropertyGraph

namespace Cypher

/-! ### Parts -/

section

variable {ε : Type}

def MapItem.parts : MapItem ε → List ε
  | .entry _ x => [x]
  | .everything | .property _ | .name _ => []

def Projection.parts (b : Projection ε) : List ε :=
  b.items.map ProjectionItem.expr ++ b.order.map SortItem.expr ++ b.skip.toList ++ b.limit.toList

def SetItem.parts : SetItem ε → List ε
  | .property e _ v => [e, v]
  | .replace _ v | .extend _ v => [v]
  | .labels _ _ => []

def RemoveItem.parts : RemoveItem ε → List ε
  | .property e _ => [e]
  | .labels _ _ => []

def ProcedureCall.parts (c : ProcedureCall ε) : List ε := c.args ++ c.filter.toList

namespace Clause

mutual

def parts : Clause ε → List ε
  | matching _ ps w => ps.flatMap PathPattern.properties ++ w.toList
  | unwind x _ => [x]
  | withItems b w => b.parts ++ w.toList
  | returnItems b => b.parts
  | create ps => ps.flatMap PathPattern.properties
  | merge p c m => p.properties ++ c.flatMap SetItem.parts ++ m.flatMap SetItem.parts
  | set is => is.flatMap SetItem.parts
  | remove is => is.flatMap RemoveItem.parts
  | delete _ xs => xs
  | foreach _ x cs => x :: allParts cs
  | call c => c.parts
  | subquery ⟨first, unions⟩ => allParts first ++ branchParts unions

def allParts : List (Clause ε) → List ε
  | [] => []
  | c :: cs => c.parts ++ allParts cs

def branchParts : List (Branch (Clause ε)) → List ε
  | [] => []
  | ⟨_, cs⟩ :: bs => allParts cs ++ branchParts bs

end

end Clause

def QueryOf.parts (q : Query ε) : List ε := Clause.allParts q.first ++ Clause.branchParts q.unions

namespace Clause

mutual

/-- The parts that give the properties of what a clause creates. -/
def creations : Clause ε → List ε
  | create ps => ps.flatMap PathPattern.properties
  | merge p _ _ => p.properties
  | foreach _ _ cs => allCreations cs
  | subquery ⟨first, unions⟩ => allCreations first ++ branchCreations unions
  | _ => []

def allCreations : List (Clause ε) → List ε
  | [] => []
  | c :: cs => c.creations ++ allCreations cs

def branchCreations : List (Branch (Clause ε)) → List ε
  | [] => []
  | ⟨_, cs⟩ :: bs => allCreations cs ++ branchCreations bs

end

end Clause

def QueryOf.creations (q : Query ε) : List ε :=
  Clause.allCreations q.first ++ Clause.branchCreations q.unions

/-- The labels of each node of a pattern. -/
def PathPattern.labels (p : PathPattern ε) : List (List String) :=
  p.start.labels :: p.hops.map fun h => h.node.labels

namespace Clause

mutual

/-- The labels of each node that a clause may create. -/
def newLabels : Clause ε → List (List String)
  | create ps => ps.flatMap PathPattern.labels
  | merge p _ _ => p.labels
  | foreach _ _ cs => allNewLabels cs
  | subquery ⟨first, unions⟩ => allNewLabels first ++ branchNewLabels unions
  | _ => []

def allNewLabels : List (Clause ε) → List (List String)
  | [] => []
  | c :: cs => c.newLabels ++ allNewLabels cs

def branchNewLabels : List (Branch (Clause ε)) → List (List String)
  | [] => []
  | ⟨_, cs⟩ :: bs => allNewLabels cs ++ branchNewLabels bs

end

end Clause

def QueryOf.newLabels (q : Query ε) : List (List String) :=
  Clause.allNewLabels q.first ++ Clause.branchNewLabels q.unions

def Layer.parts : Layer ε → List ε
  | literal _ | parameter _ | name _ | countRows => []
  | property t _ => [t]
  | index t i => [t, i]
  | slice t a b => t :: a.toList ++ b.toList
  | list xs | call _ _ xs => xs
  | map es => es.map Prod.snd
  | binary _ l r => [l, r]
  | unary _ x | isNull x _ | hasLabels x _ | existsValue x => [x]
  | case s bs d => s.toList ++ bs.flatMap (fun b => [b.1, b.2]) ++ d.toList
  | listOf _ s w p => s :: w.toList ++ p.toList
  | quantified _ _ s p => [s, p]
  | reduce _ i _ s b => [i, s, b]
  | matchesOf p w x => x :: p.properties ++ w.toList
  | matched p | paths p => p.properties
  | mapOf _ is => is.flatMap MapItem.parts
  | existsQuery q => q.parts

end

/-! ### Patterns -/

namespace PathPattern

variable {ε δ ζ : Type}

lemma map_map (f : ε → δ) (g : δ → ζ) (p : PathPattern ε) : (p.map f).map g = p.map (g ∘ f) := by
  simp [map, Hop.map, NodePattern.map, RelPattern.map, Option.map_map, Function.comp_def]

/-- Only the property parts of a pattern matter to what it is mapped to. -/
lemma map_congr {f g : ε → δ} {p : PathPattern ε} (h : ∀ e ∈ p.properties, f e = g e) :
    p.map f = p.map g := by
  have hpart {part : Option ε} (hp : ∀ e ∈ part, e ∈ p.properties) : part.map f = part.map g :=
    Option.map_congr fun e he => h e (hp e he)
  have hstart : p.start.map f = p.start.map g := by
    rw [NodePattern.map, NodePattern.map, hpart fun e he => by simp_all [properties]]
  have hhops : p.hops.map (·.map f) = p.hops.map (·.map g) := by
    refine List.map_congr_left fun k hk => ?_
    rw [Hop.map, Hop.map, RelPattern.map, RelPattern.map, NodePattern.map, NodePattern.map,
      hpart fun e he => ?_, hpart fun e he => ?_]
    · exact List.mem_append_left _
        (List.mem_append_right _ (List.mem_flatMap.2 ⟨k, hk, by simpa using he⟩))
    · exact List.mem_append_right _ (List.mem_flatMap.2 ⟨k, hk, by simpa using he⟩)
  rw [map, map, hstart, hhops]

lemma properties_map (f : ε → δ) (p : PathPattern ε) :
    (p.map f).properties = p.properties.map f := by
  simp [properties, map, Hop.map, NodePattern.map, RelPattern.map, List.flatMap_map,
    List.map_flatMap, Option.toList_map]

@[simp] lemma labels_map (f : ε → δ) (p : PathPattern ε) : (p.map f).labels = p.labels := by
  simp [labels, map, Hop.map, NodePattern.map]

end PathPattern

/-! ### Folds -/

namespace Expr

variable {δ : Type} (f : Layer δ → δ)

lemma properties_foldPaths (ps : List (PathPattern Expr)) :
    (foldPaths f ps).flatMap PathPattern.properties =
      (ps.flatMap PathPattern.properties).map (fold f) := by
  induction ps with
  | nil => rfl
  | cons p ps ih => simp [foldPaths, PathPattern.properties_map, ih]

lemma parts_foldMapItems (is : List (MapItem Expr)) :
    (foldMapItems f is).flatMap MapItem.parts = (is.flatMap MapItem.parts).map (fold f) := by
  induction is with
  | nil => rfl
  | cons i is ih => cases i <;> simp [foldMapItems, MapItem.parts, ih]

lemma parts_foldBranches (bs : List (Expr × Expr)) :
    (foldBranches f bs).flatMap (fun b => [b.1, b.2]) =
      (bs.flatMap fun b => [b.1, b.2]).map (fold f) := by
  induction bs with
  | nil => rfl
  | cons b bs ih => simp [foldBranches, ih]

lemma parts_foldProjection (b : Projection Expr) :
    (foldProjection f b).parts = b.parts.map (fold f) := by
  have hitems (is : List (ProjectionItem Expr)) :
      (foldItems f is).map ProjectionItem.expr = (is.map ProjectionItem.expr).map (fold f) := by
    induction is with
    | nil => rfl
    | cons i is ih => simp [foldItems, ih]
  have hsorts (is : List (SortItem Expr)) :
      (foldSorts f is).map SortItem.expr = (is.map SortItem.expr).map (fold f) := by
    induction is with
    | nil => rfl
    | cons i is ih => simp [foldSorts, ih]
  cases b
  simp [foldProjection, Projection.parts, hitems, hsorts, Option.toList_map]

lemma parts_foldSets (is : List (SetItem Expr)) :
    (foldSets f is).flatMap SetItem.parts = (is.flatMap SetItem.parts).map (fold f) := by
  induction is with
  | nil => rfl
  | cons i is ih => cases i <;> simp [foldSets, SetItem.parts, ih]

lemma parts_foldRemoves (is : List (RemoveItem Expr)) :
    (foldRemoves f is).flatMap RemoveItem.parts = (is.flatMap RemoveItem.parts).map (fold f) := by
  induction is with
  | nil => rfl
  | cons i is ih => cases i <;> simp [foldRemoves, RemoveItem.parts, ih]

lemma parts_foldCall (c : ProcedureCall Expr) :
    (foldCall f c).parts = c.parts.map (fold f) := by
  cases c
  simp [foldCall, ProcedureCall.parts, Option.toList_map]

mutual

lemma parts_foldClause (c : Clause Expr) : (foldClause f c).parts = c.parts.map (fold f) := by
  match c with
  | .foreach n x cs => simp [foldClause, Clause.parts, parts_foldClauses cs]
  | .subquery ⟨first, unions⟩ =>
    simp [foldClause, foldQuery, Clause.parts, parts_foldClauses first,
      parts_foldBranchQueries unions]
  | .matching .. | .unwind .. | .withItems .. | .returnItems .. | .create .. | .merge .. | .set ..
  | .remove .. | .delete .. | .call .. =>
    simp [foldClause, Clause.parts, properties_foldPaths, PathPattern.properties_map,
      parts_foldProjection, parts_foldSets, parts_foldRemoves, parts_foldCall, Option.toList_map]

lemma parts_foldClauses (cs : List (Clause Expr)) :
    Clause.allParts (foldClauses f cs) = (Clause.allParts cs).map (fold f) := by
  match cs with
  | [] => rfl
  | c :: cs => simp [foldClauses, Clause.allParts, parts_foldClause c, parts_foldClauses cs]

lemma parts_foldBranchQueries (bs : List (Branch (Clause Expr))) :
    Clause.branchParts (foldBranchQueries f bs) = (Clause.branchParts bs).map (fold f) := by
  match bs with
  | [] => rfl
  | ⟨all, cs⟩ :: bs =>
    simp [foldBranchQueries, Clause.branchParts, parts_foldClauses cs, parts_foldBranchQueries bs]

end

lemma parts_foldQuery (q : Query Expr) : (foldQuery f q).parts = q.parts.map (fold f) := by
  cases q
  simp [foldQuery, QueryOf.parts, parts_foldClauses, parts_foldBranchQueries]

mutual

lemma creations_foldClause (c : Clause Expr) :
    (foldClause f c).creations = c.creations.map (fold f) := by
  match c with
  | .create ps => simp [foldClause, Clause.creations, properties_foldPaths]
  | .merge p _ _ => simp [foldClause, Clause.creations, PathPattern.properties_map]
  | .foreach n x cs => simp [foldClause, Clause.creations, creations_foldClauses cs]
  | .subquery ⟨first, unions⟩ =>
    simp [foldClause, foldQuery, Clause.creations, creations_foldClauses first,
      creations_foldBranchQueries unions]
  | .matching .. | .unwind .. | .withItems .. | .returnItems .. | .set .. | .remove ..
  | .delete .. | .call .. => simp [foldClause, Clause.creations]

lemma creations_foldClauses (cs : List (Clause Expr)) :
    Clause.allCreations (foldClauses f cs) = (Clause.allCreations cs).map (fold f) := by
  match cs with
  | [] => rfl
  | c :: cs =>
    simp [foldClauses, Clause.allCreations, creations_foldClause c, creations_foldClauses cs]

lemma creations_foldBranchQueries (bs : List (Branch (Clause Expr))) :
    Clause.branchCreations (foldBranchQueries f bs) =
      (Clause.branchCreations bs).map (fold f) := by
  match bs with
  | [] => rfl
  | ⟨all, cs⟩ :: bs =>
    simp [foldBranchQueries, Clause.branchCreations, creations_foldClauses cs,
      creations_foldBranchQueries bs]

end

lemma creations_foldQuery (q : Query Expr) :
    (foldQuery f q).creations = q.creations.map (fold f) := by
  cases q
  simp [foldQuery, QueryOf.creations, creations_foldClauses, creations_foldBranchQueries]

lemma labels_foldPaths (ps : List (PathPattern Expr)) :
    (foldPaths f ps).flatMap PathPattern.labels = ps.flatMap PathPattern.labels := by
  induction ps with
  | nil => rfl
  | cons p ps ih => simp [foldPaths, ih]

mutual

lemma newLabels_foldClause (c : Clause Expr) : (foldClause f c).newLabels = c.newLabels := by
  match c with
  | .create ps => simp [foldClause, Clause.newLabels, labels_foldPaths]
  | .merge p _ _ => simp [foldClause, Clause.newLabels]
  | .foreach n x cs => simp [foldClause, Clause.newLabels, newLabels_foldClauses cs]
  | .subquery ⟨first, unions⟩ =>
    simp [foldClause, foldQuery, Clause.newLabels, newLabels_foldClauses first,
      newLabels_foldBranchQueries unions]
  | .matching .. | .unwind .. | .withItems .. | .returnItems .. | .set .. | .remove ..
  | .delete .. | .call .. => simp [foldClause, Clause.newLabels]

lemma newLabels_foldClauses (cs : List (Clause Expr)) :
    Clause.allNewLabels (foldClauses f cs) = Clause.allNewLabels cs := by
  match cs with
  | [] => rfl
  | c :: cs =>
    simp [foldClauses, Clause.allNewLabels, newLabels_foldClause c, newLabels_foldClauses cs]

lemma newLabels_foldBranchQueries (bs : List (Branch (Clause Expr))) :
    Clause.branchNewLabels (foldBranchQueries f bs) = Clause.branchNewLabels bs := by
  match bs with
  | [] => rfl
  | ⟨all, cs⟩ :: bs =>
    simp [foldBranchQueries, Clause.branchNewLabels, newLabels_foldClauses cs,
      newLabels_foldBranchQueries bs]

end

/-- **A fold leaves the labels of what a query creates alone.** -/
theorem newLabels_foldQuery (q : Query Expr) : (foldQuery f q).newLabels = q.newLabels := by
  cases q
  simp [foldQuery, QueryOf.newLabels, newLabels_foldClauses, newLabels_foldBranchQueries]

/-- **A fold makes of the parts of a layer what it makes of each.** -/
theorem parts_foldLayer (l : Layer Expr) : (foldLayer f l).parts = l.parts.map (fold f) := by
  cases l <;> simp [foldLayer, Layer.parts, PathPattern.properties_map, parts_foldMapItems,
    parts_foldBranches, parts_foldQuery, Option.toList_map]

/-! ### Induction -/

/-- The number of layers. -/
def size : Expr → Nat := fold fun l => l.parts.sum + 1

lemma size_lt {l : Layer Expr} {x : Expr} (hx : x ∈ l.parts) : x.size < (of l).size := by
  have hsize : (of l).size = (l.parts.map size).sum + 1 := by
    rw [size, fold, parts_foldLayer]
  have hle : x.size ≤ (l.parts.map size).sum := List.le_sum_of_mem (List.mem_map_of_mem hx)
  omega

/-- **Induction over expressions**: what holds of a layer when it holds of its parts holds of
every expression. -/
theorem layerInduction {P : Expr → Prop} (h : ∀ l : Layer Expr, (∀ x ∈ l.parts, P x) → P (of l))
    (x : Expr) : P x := by
  induction hn : x.size using Nat.strongRecOn generalizing x with
  | ind n ih =>
    obtain ⟨l⟩ := x
    exact h l fun y hy => ih y.size (hn ▸ size_lt hy) y rfl

end Expr

end Cypher

end PropertyGraph
