import PropertyGraph.Proofs.Matching.InOrder
import PropertyGraph.Proofs.Query.Strict

/-!
Queries that bind each name before they read it.

The check of names takes all that a clause declares for bound: it lets the properties in a pattern
read what the pattern binds only later, the arguments of an aggregate read what is bound around it
but not in the rows of its group, and what follows a subquery read columns that the subquery did not
get to make. Here these three are left out. The properties of an element may read what is bound when
it is matched or created. The arguments of an aggregate are checked in the scope of its group. And
the columns have to be known, from the clauses alone, where a star is projected with nothing but
aggregates, and at the end of the parts of a union in a subquery.
-/

namespace PropertyGraph

namespace Cypher

variable {ε : Type}

/-! ### Columns -/

/-- Whether a query has a result. -/
def QueryOf.returns (q : Query ε) : Bool :=
  q.first.getLast?.any Clause.makesResult ||
    q.unions.any fun b => b.clauses.getLast?.any Clause.makesResult

/-- Whether the columns are known after a clause, given whether they were before. Those of a
subquery are there only if it has run for a row. -/
def Clause.known (known : Bool) : Clause ε → Bool
  | .withItems b _ | .returnItems b => !b.star || known
  | .subquery q => known && !q.returns
  | _ => known

def knownAfter (known : Bool) (ks : List (Clause ε)) : Bool := ks.foldl Clause.known known

end Cypher

open Cypher

/-- An expression as it is checked, and as it is run. -/
structure Guarded where
  check : Check
  /-- Whether all names are bound before they are read, in a scope for the group and one for the
  row. -/
  ordered : Option Scope → Scope → Bool
  plain : Meaning
  strict : Meaning

namespace Guarded

/-- Whether an expression can be evaluated in a row that binds the names of a scope. -/
def fits (s : Scope) (g : Guarded) : Bool := (g.check s).isOk && g.ordered none s

/-- The scope after a clause that passes the check. -/
def scopeAfter (s : Scope) (k : Clause Guarded) : Scope :=
  (Scope.after s (k.map check)).toOption.getD s

/-- Whether a projection leaves the columns known that a star stands for. -/
def starIsKnown (known : Bool) (b : Projection Guarded) : Bool :=
  !b.star || known || b.items.isEmpty || b.items.any fun i => !i.expr.plain.aggregates

/-- The scope of the rows that a projection groups, if it does. -/
def groupScope (s : Scope) (b : Projection Guarded) : Option Scope :=
  if b.items.any fun i => i.expr.plain.aggregates then some s else none

/-- Whether a projection is ordered that comes from one scope to another. -/
def projection (s after : Scope) (known : Bool) (b : Projection Guarded) : Bool :=
  b.items.all (fun i => i.expr.ordered (groupScope s b) s) &&
    b.order.all (fun i => i.expr.ordered (groupScope s b) (s.declare after)) &&
    (b.skip.toList ++ b.limit.toList).all (·.ordered none []) && starIsKnown known b

mutual

/-- Whether a clause is ordered. -/
def clause (s : Scope) (known : Bool) : Clause Guarded → Bool
  | .matching _ ps w =>
    patternsInOrder fits false s ps &&
      w.all (·.ordered none (s.declare (ps.flatMap PathPattern.names)))
  | .unwind x _ => x.ordered none s
  | .withItems b w =>
    projection s (scopeAfter s (.returnItems b)) known b &&
      w.all (·.ordered none (scopeAfter s (.returnItems b)))
  | .returnItems b => projection s (scopeAfter s (.returnItems b)) known b
  | .create ps => patternsInOrder fits true s ps
  | .merge p c m =>
    p.inOrder fits false s &&
      ((c ++ m).flatMap SetItem.parts).all (·.ordered none (s.declare p.names))
  | .set is => (is.flatMap SetItem.parts).all (·.ordered none s)
  | .remove is => (is.flatMap RemoveItem.parts).all (·.ordered none s)
  | .delete _ xs => xs.all (·.ordered none s)
  | .foreach n x cs => x.ordered none s && clauses (s.declare [n]) true cs
  | .call k =>
    k.args.all (·.ordered none s) &&
      k.filter.all (·.ordered none (s.declare (Scope.callNames (k.map check))))
  | .subquery ⟨first, unions⟩ =>
    clauses s true first && branches s unions &&
      (unions.isEmpty || !QueryOf.returns ⟨first, unions⟩ ||
        (knownAfter true first && unions.all fun b => knownAfter true b.clauses))

def clauses (s : Scope) (known : Bool) : List (Clause Guarded) → Bool
  | [] => true
  | k :: ks => clause s known k && clauses (scopeAfter s k) (k.known known) ks

def branches (s : Scope) : List (Branch (Clause Guarded)) → Bool
  | [] => true
  | ⟨_, ks⟩ :: bs => clauses s true ks && branches s bs

end

def query (s : Scope) (q : Query Guarded) : Bool := clauses s true q.first && branches s q.unions

/-- Whether a layer is ordered. -/
def layer (group : Option Scope) (s : Scope) : Layer Guarded → Bool
  | .call n _ xs =>
    if (Aggregate.ofName? n).isSome then xs.all fun x => group.all fun r => x.fits r
    else xs.all (·.ordered group s)
  | .listOf n x w p =>
    x.ordered group s && (w.toList ++ p.toList).all (·.ordered group (s.declare [n]))
  | .quantified _ n x p => x.ordered group s && p.ordered group (s.declare [n])
  | .reduce a i n x b =>
    i.ordered group s && x.ordered group s && b.ordered group (s.declare [a, n])
  | .matchesOf p w x =>
    p.inOrder fits false s && (w.toList ++ [x]).all (·.ordered group (s.declare p.names))
  | .matched p | .paths p => p.inOrder fits false s
  | .existsQuery q => query s q
  | l => l.parts.all (·.ordered group s)

/-- A layer as it is checked and run. -/
def ofLayer (l : Layer Guarded) : Guarded where
  check := Scope.checkLayer (l.mapParts check)
  ordered group s := layer group s l
  plain := .ofLayer (l.mapParts plain)
  strict := .strictly (l.mapParts plain) (l.mapParts strict)

end Guarded

namespace Cypher

/-- A query with its expressions as they are checked and run. -/
def guardedQuery : Query Expr → Query Guarded := Expr.foldQuery Guarded.ofLayer

/-- A query binds each name before it is read. -/
def QueryOf.Ordered (q : Query Expr) : Prop := Guarded.query [] (guardedQuery q) = true

instance (q : Query Expr) : Decidable q.Ordered :=
  inferInstanceAs (Decidable (Guarded.query [] (guardedQuery q) = true))

lemma map_plain_guardedQuery (q : Query Expr) :
    (guardedQuery q).map Guarded.plain = queryMeaning q :=
  Expr.map_foldQuery (g := Guarded.plain) (F := Guarded.ofLayer) (fun _ => rfl) q

lemma map_check_guardedQuery (q : Query Expr) :
    (guardedQuery q).map Guarded.check = Expr.foldQuery Scope.checkLayer q :=
  Expr.map_foldQuery (g := Guarded.check) (F := Guarded.ofLayer) (fun _ => rfl) q

end Cypher

end PropertyGraph
