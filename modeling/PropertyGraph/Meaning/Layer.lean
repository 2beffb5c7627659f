import PropertyGraph.Function.Library
import PropertyGraph.Operator
import PropertyGraph.Query.Read

/-!
# The meaning of expressions

What a layer means, given what its parts mean; with it, a fold gives the meaning of a whole
expression.
-/

namespace PropertyGraph

namespace Meaning

open Cypher

variable (env : Env) (group : Option (List Row)) (row : Row)

/-! ### Lists -/

/-- The items of a list; none at all of null. -/
def listItems? (source : Meaning) : Except Error (Option (List Value)) := do
  match ← source.eval env group row with
  | .null => return none
  | .list xs => return some xs
  | v => throw (.type (.notList v.typeName))

/-- What `f` makes of the items of a list; null for null. -/
def overItems (source : Meaning) (f : List Value → Except Error Value) : Except Error Value := do
  match ← listItems? env group row source with
  | none => return .null
  | some xs => f xs

/-- The values in some rows, without those where a condition does not hold. -/
def valuesWhere (filter : Option Meaning) (projection : Meaning) (rows : List Row) :
    Except Error Value := do
  let values ← rows.filterMapM fun r => do
    if ← (filter.elim (.ok true) fun w => w.holds env group r) then
      return some (← projection.eval env group r)
    else return none
  return .list values

def listOf (name : String) (source : Meaning) (filter projection : Option Meaning) :
    Except Error Value :=
  overItems env group row source fun xs =>
    valuesWhere env group filter (projection.getD (ofName name)) <|
      xs.map fun x => Dict.insert row name x

def quantified (q : Quantifier) (name : String) (source predicate : Meaning) :
    Except Error Value :=
  overItems env group row source fun xs => do
    let verdicts ← xs.mapM fun x => do
      (← predicate.eval env group (Dict.insert row name x)).truth "list predicate"
    return .ofTruth (Kleene.quantify q verdicts)

def reduce (accumulator : String) (init : Meaning) (name : String) (source body : Meaning) :
    Except Error Value := do
  let start ← init.eval env group row
  overItems env group row source fun xs =>
    xs.foldlM (fun acc x =>
      body.eval env group (Dict.insert (Dict.insert row accumulator acc) name x)) start

/-! ### Maps -/

/-- The entries that a map is made from: those of an entity or of a map, none at all of null. -/
def mapSource? (s : Store) : Value → Except Error (Option Properties)
  | .null => .ok none
  | .node id => .ok (some (s.nodeProperties id))
  | .rel id => .ok (some (s.relProperties id))
  | .map es => .ok (some es)
  | v => .error (.type (.expects "map projection" "a Node, Relationship or Map" v.typeName))

/-- The entries that an item of a map projection adds. -/
def mapEntries (source : Properties) : MapItem Meaning → Except Error Properties
  | .everything => .ok source
  | .property k => .ok [(k, Dict.getD source k .null)]
  | .entry k m => do return [(k, ← m.eval env group row)]
  | .name n => .ok [(n, Dict.getD row n .null)]

def mapOf (name : String) (items : List (MapItem Meaning)) : Except Error Value := do
  match ← mapSource? env.store (Dict.getD row name .null) with
  | none => return .null
  | some source =>
    let added ← items.mapM (mapEntries env group row source)
    return .map (Dict.ofList added.flatten)

/-! ### Choices -/

/-- The value of the first branch that is taken, or else of the fallback. -/
def firstBranch (taken : Meaning → Except Error Bool) (fallback : Option Meaning) :
    List (Meaning × Meaning) → Except Error Value
  | [] => do return (← value? fallback env group row).getD .null
  | (c, v) :: bs => do
    if ← taken c then v.eval env group row else firstBranch taken fallback bs

def choice (subject : Option Meaning) (branches : List (Meaning × Meaning))
    (fallback : Option Meaning) : Except Error Value := do
  match ← value? subject env group row with
  | none => firstBranch env group row (fun c => c.holds env group row) fallback branches
  | some v =>
    let taken (c : Meaning) : Except Error Bool := do
      return v.equals (← c.eval env group row) = some true
    firstBranch env group row taken fallback branches

/-! ### Calls -/

/-- An aggregate over the group, each of whose rows stands for itself. -/
def aggregate (a : Aggregate) (name : String) (distinct : Bool) (args : List Meaning) :
    Except Error Value := do
  match group with
  | none => throw (.meaning (.noGroup (name ++ "(...)")))
  | some rows =>
    match args with
    | [m] => a.apply distinct (← rows.mapM fun r => m.value env r)
    | _ => throw (.meaning (.notOneArgument name))

def call (name : String) (distinct : Bool) (args : List Meaning) : Except Error Value := do
  match Aggregate.ofName? name with
  | some a => aggregate env group a name distinct args
  | none =>
    let values ← args.mapM fun m => m.eval env group row
    (Call.answer ⟨name, values, env.store, env.clock⟩).mapError .function

/-! ### Patterns -/

/-- The paths of a shortest path pattern in a row. -/
def pathsIn (p : PathPattern Meaning) : Except Error (List Value) := do
  return (← env.matcher.paths (parts p env) row).map .path

/-- The paths that a pattern joins rows with: one at most unless all are asked for. -/
def joinedPaths (p : PathPattern Meaning) : Except Error (List Value) := do
  let found ← pathsIn env row p
  return if p.selector = .shortest then found.take 1 else found

def pathValue (p : PathPattern Meaning) : Except Error Value := do
  let found ← pathsIn env row p
  return if p.selector = .allShortest then .list found else found.head?.getD .null

def matchesOf (p : PathPattern Meaning) (filter : Option Meaning) (projection : Meaning) :
    Except Error Value := do
  valuesWhere env group filter projection (← env.matcher.rows [parts p env] row)

def hasLabels (labels : List String) : Value → Except Error Value
  | .null => .ok .null
  | .node id => .ok (.bool ((env.store.node? id).any fun n => labels.all (· ∈ n.labels)))
  | v => .error (.type (.expects "label predicate" "a Node" v.typeName))

/-! ### Layers -/

/-- The value of a layer. -/
def evalLayer (l : Layer Meaning) : Except Error Value := do
  let eval (m : Meaning) := m.eval env group row
  match l with
  | .literal v => return v
  | .parameter n =>
    match Dict.get? env.parameters n with
    | some v => return v
    | none => throw (.meaning (.missingParameter n))
  | .name n => return Dict.getD row n .null
  | .property t k => (← eval t).property env.store k
  | .index t i =>
    let v ← eval t
    v.index env.store (← eval i)
  | .slice t a b =>
    let v ← eval t
    let a ← value? a env group row
    v.slice a (← value? b env group row)
  | .list xs => return .list (← xs.mapM eval)
  | .map es => return .map (Dict.ofList (← es.mapM fun e => do return (e.1, ← eval e.2)))
  | .binary op x y => (← eval x).binary op fun _ => eval y
  | .unary op x => (← eval x).unary op
  | .isNull x negated => return .bool ((← eval x).isNull != negated)
  | .hasLabels x ls => hasLabels env ls (← eval x)
  | .call n d xs => call env group row n d xs
  | .countRows =>
    match group with
    | some rows => return .count rows.length
    | none => throw (.meaning (.noGroup "count(*)"))
  | .case s bs d => choice env group row s bs d
  | .listOf n s w p => listOf env group row n s w p
  | .quantified q n s p => quantified env group row q n s p
  | .reduce a i n s b => reduce env group row a i n s b
  | .matchesOf p w x => matchesOf env group row p w x
  | .matched p => return .bool (← env.matcher.hasMatch (parts p env) row)
  | .mapOf n is => mapOf env group row n is
  | .existsValue x => return .bool !(← eval x).isNull
  | .existsQuery q => return .bool !(← Query.read env (.ofRow row) q).table.rows.isEmpty
  | .paths p => pathValue env row p

/-- Whether a layer folds a group in its own row. -/
def layerAggregates (l : Layer Meaning) : Bool := l.isAggregate || l.sameRowParts.any aggregates

/-- The paths that a layer joins rows with. -/
def layerPaths : Layer Meaning → Option (Env → Row → Except Error (List Value))
  | .paths p => some fun env row => joinedPaths env row p
  | _ => none

/-- The meaning of a layer. -/
def ofLayer (l : Layer Meaning) : Meaning where
  eval env group row := evalLayer env group row l
  aggregates := layerAggregates l
  paths := layerPaths l

end Meaning

/-- The meaning of an expression. -/
def Cypher.Expr.meaning : Expr → Meaning := Expr.fold Meaning.ofLayer

/-- A query with the meanings of its expressions. -/
def Cypher.queryMeaning : Query Expr → Query Meaning := Expr.foldQuery Meaning.ofLayer

end PropertyGraph
