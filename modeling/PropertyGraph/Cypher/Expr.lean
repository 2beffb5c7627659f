import PropertyGraph.Cypher.Clause
import PropertyGraph.Value
import PropertyGraph.Text.Case

/-!
# Expressions

A layer is one construct of the expression language over any type of parts. An expression is
a tree of layers, and everything that goes through a whole expression is a fold: it says what
to make of a layer whose parts are done.
-/

namespace PropertyGraph

namespace Cypher

inductive BinaryOp
  | or
  | xor
  | and
  | eq
  | ne
  | lt
  | le
  | gt
  | ge
  | add
  | sub
  | mul
  | div
  | rem
  | pow
  | isIn
  | startsWith
  | endsWith
  | contains
  | regexMatch
deriving DecidableEq

inductive UnaryOp
  | not
  | negate
  | plus
deriving DecidableEq

inductive Quantifier
  | all
  | any
  | none
  | single
deriving DecidableEq

/-- One part of a map projection. -/
inductive MapItem (ε : Type)
  | everything
  | property (key : String)
  | entry (key : String) (value : ε)
  | name (name : String)

inductive Layer (ε : Type)
  | literal (value : Value)
  | parameter (name : String)
  | name (name : String)
  | property (target : ε) (key : String)
  | index (target index : ε)
  | slice (target : ε) (start stop : Option ε)
  | list (items : List ε)
  | map (entries : List (String × ε))
  | binary (op : BinaryOp) (left right : ε)
  | unary (op : UnaryOp) (operand : ε)
  | isNull (operand : ε) (negated : Bool)
  | hasLabels (operand : ε) (labels : List String)
  | call (function : String) (distinct : Bool) (args : List ε)
  | countRows
  | case (subject : Option ε) (branches : List (ε × ε)) (fallback : Option ε)
  | listOf (name : String) (source : ε) (filter projection : Option ε)
  | quantified (quantifier : Quantifier) (name : String) (source predicate : ε)
  | reduce (accumulator : String) (init : ε) (name : String) (source body : ε)
  | matchesOf (pattern : PathPattern ε) (filter : Option ε) (projection : ε)
  | matched (pattern : PathPattern ε)
  | mapOf (name : String) (items : List (MapItem ε))
  | existsValue (operand : ε)
  | existsQuery (query : QueryOf (Clause ε))
  | paths (pattern : PathPattern ε)

inductive Expr
  | of (layer : Layer Expr)

namespace Expr

variable {δ : Type} (f : Layer δ → δ)

mutual

/-- Replaces every layer, from the innermost outward. -/
def fold : Expr → δ
  | of l => f (foldLayer l)

def foldLayer : Layer Expr → Layer δ
  | .literal v => .literal v
  | .parameter n => .parameter n
  | .name n => .name n
  | .property t k => .property (fold t) k
  | .index t i => .index (fold t) (fold i)
  | .slice t a b => .slice (fold t) (foldOption a) (foldOption b)
  | .list xs => .list (foldList xs)
  | .map es => .map (foldEntries es)
  | .binary op l r => .binary op (fold l) (fold r)
  | .unary op x => .unary op (fold x)
  | .isNull x n => .isNull (fold x) n
  | .hasLabels x ls => .hasLabels (fold x) ls
  | .call n d xs => .call n d (foldList xs)
  | .countRows => .countRows
  | .case s bs d => .case (foldOption s) (foldBranches bs) (foldOption d)
  | .listOf n s w p => .listOf n (fold s) (foldOption w) (foldOption p)
  | .quantified q n s p => .quantified q n (fold s) (fold p)
  | .reduce a i n s b => .reduce a (fold i) n (fold s) (fold b)
  | .matchesOf p w x => .matchesOf (foldPath p) (foldOption w) (fold x)
  | .matched p => .matched (foldPath p)
  | .mapOf n is => .mapOf n (foldMapItems is)
  | .existsValue x => .existsValue (fold x)
  | .existsQuery q => .existsQuery (foldQuery q)
  | .paths p => .paths (foldPath p)

def foldOption : Option Expr → Option δ
  | none => none
  | some x => some (fold x)

def foldList : List Expr → List δ
  | [] => []
  | x :: xs => fold x :: foldList xs

def foldEntries : List (String × Expr) → List (String × δ)
  | [] => []
  | (k, x) :: es => (k, fold x) :: foldEntries es

def foldBranches : List (Expr × Expr) → List (δ × δ)
  | [] => []
  | (a, b) :: bs => (fold a, fold b) :: foldBranches bs

def foldMapItems : List (MapItem Expr) → List (MapItem δ)
  | [] => []
  | .everything :: is => .everything :: foldMapItems is
  | .property k :: is => .property k :: foldMapItems is
  | .entry k x :: is => .entry k (fold x) :: foldMapItems is
  | .name n :: is => .name n :: foldMapItems is

def foldNode : NodePattern Expr → NodePattern δ
  | ⟨n, ls, ps⟩ => ⟨n, ls, foldOption ps⟩

def foldHops : List (Hop Expr) → List (Hop δ)
  | [] => []
  | ⟨⟨n, ts, d, ps, len⟩, m⟩ :: hs => ⟨⟨n, ts, d, foldOption ps, len⟩, foldNode m⟩ :: foldHops hs

def foldPath : PathPattern Expr → PathPattern δ
  | ⟨n, s, a, hs⟩ => ⟨n, s, foldNode a, foldHops hs⟩

def foldPaths : List (PathPattern Expr) → List (PathPattern δ)
  | [] => []
  | p :: ps => foldPath p :: foldPaths ps

def foldItems : List (ProjectionItem Expr) → List (ProjectionItem δ)
  | [] => []
  | ⟨x, a, t⟩ :: is => ⟨fold x, a, t⟩ :: foldItems is

def foldSorts : List (SortItem Expr) → List (SortItem δ)
  | [] => []
  | ⟨x, d, n⟩ :: is => ⟨fold x, d, n⟩ :: foldSorts is

def foldProjection : Projection Expr → Projection δ
  | ⟨d, s, is, os, sk, li⟩ => ⟨d, s, foldItems is, foldSorts os, foldOption sk, foldOption li⟩

def foldSets : List (SetItem Expr) → List (SetItem δ)
  | [] => []
  | .property e k v :: is => .property (fold e) k (fold v) :: foldSets is
  | .replace n v :: is => .replace n (fold v) :: foldSets is
  | .extend n v :: is => .extend n (fold v) :: foldSets is
  | .labels n ls :: is => .labels n ls :: foldSets is

def foldRemoves : List (RemoveItem Expr) → List (RemoveItem δ)
  | [] => []
  | .property e k :: is => .property (fold e) k :: foldRemoves is
  | .labels n ls :: is => .labels n ls :: foldRemoves is

def foldCall : ProcedureCall Expr → ProcedureCall δ
  | ⟨n, xs, ys, w⟩ => ⟨n, foldList xs, ys, foldOption w⟩

def foldClause : Clause Expr → Clause δ
  | .matching o ps w => .matching o (foldPaths ps) (foldOption w)
  | .unwind x n => .unwind (fold x) n
  | .withItems b w => .withItems (foldProjection b) (foldOption w)
  | .returnItems b => .returnItems (foldProjection b)
  | .create ps => .create (foldPaths ps)
  | .merge p c m => .merge (foldPath p) (foldSets c) (foldSets m)
  | .set is => .set (foldSets is)
  | .remove is => .remove (foldRemoves is)
  | .delete d xs => .delete d (foldList xs)
  | .foreach n x cs => .foreach n (fold x) (foldClauses cs)
  | .call c => .call (foldCall c)
  | .subquery q => .subquery (foldQuery q)

def foldClauses : List (Clause Expr) → List (Clause δ)
  | [] => []
  | c :: cs => foldClause c :: foldClauses cs

def foldBranchQueries : List (Branch (Clause Expr)) → List (Branch (Clause δ))
  | [] => []
  | ⟨a, cs⟩ :: bs => ⟨a, foldClauses cs⟩ :: foldBranchQueries bs

def foldQuery : QueryOf (Clause Expr) → QueryOf (Clause δ)
  | ⟨cs, bs⟩ => ⟨foldClauses cs, foldBranchQueries bs⟩

end

@[simp] theorem foldOption_eq_map (x : Option Expr) : foldOption f x = x.map (fold f) := by
  cases x <;> simp [foldOption]

@[simp] theorem foldList_eq_map (xs : List Expr) : foldList f xs = xs.map (fold f) := by
  induction xs with
  | nil => rfl
  | cons x xs ih => simp [foldList, ih]

@[simp] theorem foldEntries_eq_map (es : List (String × Expr)) :
    foldEntries f es = es.map fun e => (e.1, fold f e.2) := by
  induction es with
  | nil => rfl
  | cons e es ih => simp [foldEntries, ih]

@[simp] theorem foldNode_eq_map (n : NodePattern Expr) : foldNode f n = n.map (fold f) := by
  cases n; simp [foldNode, NodePattern.map]

@[simp] theorem foldHops_eq_map (hs : List (Hop Expr)) :
    foldHops f hs = hs.map (·.map (fold f)) := by
  induction hs with
  | nil => rfl
  | cons h hs ih =>
    obtain ⟨⟨n, ts, d, ps, len⟩, m⟩ := h
    simp [foldHops, ih, Hop.map, RelPattern.map]

@[simp] theorem foldPath_eq_map (p : PathPattern Expr) : foldPath f p = p.map (fold f) := by
  cases p; simp [foldPath, PathPattern.map]

end Expr

/-! ### Aggregates -/

/-- The functions that fold a group of rows. -/
inductive Aggregate
  | count
  | sum
  | avg
  | min
  | max
  | collect
deriving DecidableEq

namespace Aggregate

def all : List Aggregate := [count, sum, avg, min, max, collect]

def name : Aggregate → String
  | count => "count"
  | sum => "sum"
  | avg => "avg"
  | min => "min"
  | max => "max"
  | collect => "collect"

/-- The aggregate of a name, in any case of letters. -/
def ofName? (name : String) : Option Aggregate :=
  all.find? fun a => a.name == Text.asciiLower name

end Aggregate

namespace Layer

variable {ε : Type}

def isAggregate : Layer ε → Bool
  | countRows => true
  | call n _ _ => (Aggregate.ofName? n).isSome
  | _ => false

/-- The parts that are evaluated in the row of the whole: not those inside of a pattern, a
subquery, or the scope of a list variable. -/
def sameRowParts : Layer ε → List ε
  | property t _ => [t]
  | index t i => [t, i]
  | slice t a b => t :: a.toList ++ b.toList
  | list xs => xs
  | map es => es.map Prod.snd
  | binary _ l r => [l, r]
  | unary _ x | isNull x _ | hasLabels x _ | existsValue x => [x]
  | call _ _ xs => xs
  | case s bs d => s.toList ++ bs.flatMap (fun b => [b.1, b.2]) ++ d.toList
  | listOf _ s _ _ | quantified _ _ s _ => [s]
  | reduce _ i _ s _ => [i, s]
  | mapOf _ is => is.filterMap fun
    | .entry _ x => some x
    | _ => none
  | _ => []

/-- Whether a layer aggregates, given whether its parts do. -/
def aggregates (l : Layer Bool) : Bool := l.isAggregate || l.sameRowParts.any id

end Layer

/-- Whether an expression calls an aggregate in the row of its own. -/
def Expr.aggregates : Expr → Bool := Expr.fold Layer.aggregates

end Cypher

end PropertyGraph
