import PropertyGraph.Cypher.Statement
import PropertyGraph.Procedure

/-!
# Scopes

Every name that a query reads has to be declared by then. This is checked before the query
runs, so that it holds even if no row ever comes to the place.
-/

namespace PropertyGraph

namespace Cypher

inductive ScopeError
  | notDefined (name : String)
  | duplicateColumn (name : String)
  | emptyProjection
deriving DecidableEq

namespace ScopeError

def message : ScopeError → String
  | notDefined n => "Variable `" ++ n ++ "` not defined"
  | duplicateColumn n =>
    "Multiple result columns with the same name `" ++ n ++ "` are not supported"
  | emptyProjection => "Projection requires at least one item"

end ScopeError

/-- The names that are declared. -/
abbrev Scope := List String

/-- What an expression needs of the scope that it stands in. -/
abbrev Check := Scope → Except ScopeError Unit

namespace Scope

def require (name : String) : Check := fun s =>
  if name ∈ s then .ok () else .error (.notDefined name)

/-- Adds names to a scope. -/
def declare (s : Scope) (names : List String) : Scope := names ++ s

def checkAll (cs : List Check) : Check := fun s => cs.forM (· s)

def checkSet (s : Scope) : SetItem Check → Except ScopeError Unit
  | .property e _ v => checkAll [e, v] s
  | .replace n v | .extend n v => checkAll [require n, v] s
  | .labels n _ => require n s

def checkRemove (s : Scope) : RemoveItem Check → Except ScopeError Unit
  | .property e _ => e s
  | .labels n _ => require n s

/-- The columns of some items, after those in `seen`, which are in scope `s`. -/
def checkItems (s : Scope) (seen : List String) :
    List (ProjectionItem Check) → Except ScopeError (List String)
  | [] => .ok seen
  | i :: is => do
    i.expr s
    if i.column ∈ seen then throw (.duplicateColumn i.column)
    checkItems s (i.column :: seen) is

/-- The scope after a projection. Its order sees the names before as well, its bounds none. -/
def afterProjection (s : Scope) (b : Projection Check) : Except ScopeError Scope := do
  let columns ← checkItems s [] b.items
  let after := if b.star then s.declare columns else columns
  if b.items.isEmpty && !b.star then throw .emptyProjection
  b.order.forM fun i => i.expr (s.declare after)
  checkAll (b.skip.toList ++ b.limit.toList) []
  return after

def patternNames (ps : List (PathPattern Check)) : List String := ps.flatMap PathPattern.names

def checkPatterns (s : Scope) (ps : List (PathPattern Check)) : Except ScopeError Unit :=
  ps.forM fun p => checkAll p.properties s

/-- The names that a call declares. -/
def callNames (c : ProcedureCall Check) : List String :=
  match c.yields with
  | some items => items.map YieldItem.column
  | none => (Procedure.ofName? c.name).elim [] Procedure.columns

mutual

/-- The scope after a clause. -/
def after (s : Scope) : Clause Check → Except ScopeError Scope
  | .matching _ ps w => do
    let s := s.declare (patternNames ps)
    checkPatterns s ps
    checkAll w.toList s
    return s
  | .unwind x n => do
    x s
    return s.declare [n]
  | .withItems b w => do
    let s ← afterProjection s b
    checkAll w.toList s
    return s
  | .returnItems b => afterProjection s b
  | .create ps => do
    let s := s.declare (patternNames ps)
    checkPatterns s ps
    return s
  | .merge p c m => do
    let s := s.declare p.names
    checkPatterns s [p]
    (c ++ m).forM (checkSet s)
    return s
  | .set is => do
    is.forM (checkSet s)
    return s
  | .remove is => do
    is.forM (checkRemove s)
    return s
  | .delete _ xs => do
    checkAll xs s
    return s
  | .foreach n x cs => do
    x s
    let _ ← afterAll (s.declare [n]) cs
    return s
  | .call c => do
    checkAll c.args s
    let s := s.declare (callNames c)
    checkAll c.filter.toList s
    return s
  | .subquery ⟨first, unions⟩ => do
    let returned ← afterAll s first
    let returned ← afterBranches s returned unions
    return if endsInReturn first then s.declare returned else s

def afterAll (s : Scope) : List (Clause Check) → Except ScopeError Scope
  | [] => .ok s
  | c :: cs => do afterAll (← after s c) cs

/-- Adds the scopes after some branches, each of which starts in `s`. -/
def afterBranches (s returned : Scope) : List (Branch (Clause Check)) → Except ScopeError Scope
  | [] => .ok returned
  | ⟨_, cs⟩ :: bs => do
    let more ← afterAll s cs
    afterBranches s (returned.declare more) bs

end

/-- The scope after a query. -/
def afterQuery (s : Scope) (q : Query Check) : Except ScopeError Scope := do
  afterBranches s (← afterAll s q.first) q.unions

def checkMapItem (s : Scope) : MapItem Check → Except ScopeError Unit
  | .entry _ x => x s
  | .name n => require n s
  | .everything | .property _ => .ok ()

/-- What a layer needs, given what its parts need. -/
def checkLayer (l : Layer Check) : Check := fun s =>
  match l with
  | .literal _ | .parameter _ | .countRows => .ok ()
  | .name n => require n s
  | .property t _ => t s
  | .index t i => checkAll [t, i] s
  | .slice t a b => checkAll (t :: a.toList ++ b.toList) s
  | .list xs => checkAll xs s
  | .map es => checkAll (es.map Prod.snd) s
  | .binary _ l r => checkAll [l, r] s
  | .unary _ x | .isNull x _ | .hasLabels x _ | .existsValue x => x s
  | .call _ _ xs => checkAll xs s
  | .case x bs d => checkAll (x.toList ++ bs.flatMap (fun b => [b.1, b.2]) ++ d.toList) s
  | .listOf n x w p => do
    x s
    checkAll (w.toList ++ p.toList) (s.declare [n])
  | .quantified _ n x p => do
    x s
    p (s.declare [n])
  | .reduce a i n x b => do
    checkAll [i, x] s
    b (s.declare [a, n])
  | .matchesOf p w x => do
    let s := s.declare p.names
    checkPatterns s [p]
    checkAll (w.toList ++ [x]) s
  | .matched p | .paths p => checkPatterns (s.declare p.names) [p]
  | .mapOf n is => do
    require n s
    is.forM (checkMapItem s)
  | .existsQuery q => do
    let _ ← afterQuery s q

end Scope

def Expr.check : Expr → Check := Expr.fold Scope.checkLayer

/-- Checks the names of a statement. -/
def Statement.check : Statement → Except ScopeError Unit
  | .query q => do
    let _ ← Scope.afterQuery [] (Expr.foldQuery Scope.checkLayer q)
  | _ => .ok ()

end Cypher

end PropertyGraph
