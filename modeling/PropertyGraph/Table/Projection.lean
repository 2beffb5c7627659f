import PropertyGraph.Meaning
import PropertyGraph.Table
import PropertyGraph.Table.Group

/-!
# Projections

What WITH and RETURN make of a table: the columns, one row for each row or for each group,
without repetitions if asked, in order, cut at both ends.
-/

namespace PropertyGraph

namespace Table

open Cypher

/-! ### Columns -/

/-- The columns that a star stands for: those no item makes, in the order of their names. -/
def starColumns (columns : List String) (items : List (ProjectionItem Meaning)) : List String :=
  (columns.filter fun c => c ∉ items.map ProjectionItem.column).mergeSort fun a b => !decide (b < a)

/-- The name under which an item's path is kept in rows. -/
def pathName (index : Nat) : String := " path" ++ toString index

/-- Joins the rows with the paths of an item. -/
def joinPaths (env : Env) (name : String) (paths : Env → Row → Except Error (List Value))
    (rows : List Row) : Except Error (List Row) := do
  return (← rows.mapM fun row => do
    return (← paths env row).map fun p => Dict.insert row name p).flatten

/-- The columns of some items, and the rows joined with the paths of those that are shortest
path patterns. -/
def itemColumns (env : Env) : Nat → List (ProjectionItem Meaning) → List Row →
    Except Error (List (String × Meaning) × List Row)
  | _, [], rows => .ok ([], rows)
  | index, i :: is, rows => do
    let (m, rows) ←
      match i.expr.paths with
      | none => .ok (i.expr, rows)
      | some paths =>
        let name := pathName index
        pure (Meaning.ofName name, ← joinPaths env name paths rows)
    let (columns, rows) ← itemColumns env (index + 1) is rows
    return ((i.column, m) :: columns, rows)

/-! ### Rows -/

/-- A projected row, and what the order of rows may look at. -/
structure Projected where
  out : Row
  scope : Row
  group : Option (List Row)

/-- The values of the columns in a row. -/
def projectRow (env : Env) (columns : List (String × Meaning)) (group : Option (List Row))
    (row : Row) : Except Error Projected := do
  let out := Dict.ofList (← columns.mapM fun c => do return (c.1, ← c.2.eval env group row))
  return { out, scope := Dict.merge row out, group }

/-- One row for each row, or for each group if a column aggregates. The columns that do not
aggregate are the keys of the groups. -/
def projectRows (env : Env) (columns : List (String × Meaning)) (rows : List Row) :
    Except Error (List Projected) := do
  if columns.any (·.2.aggregates) then
    let keys := (columns.filter fun c => !c.2.aggregates).map fun c => c.2.value env
    (← Group.ofRows keys rows).mapM fun g =>
      projectRow env columns (some g.rows) (g.rows.head?.getD [])
  else rows.mapM (projectRow env columns none)

/-! ### Order -/

/-- The order of two values under a sort item. Nulls stand at the end that the item says, by
default the last, whether it ascends or descends. -/
def compareBy (i : SortItem Meaning) (a b : Value) : Ordering :=
  let first := i.nullsFirst.getD false
  match a.isNull, b.isNull with
  | true, true => .eq
  | true, false => if first then .lt else .gt
  | false, true => if first then .gt else .lt
  | false, false => if i.descending then (a.sortCompare b).swap else a.sortCompare b

/-- The order of two lists of values: the first sort item that tells them apart counts. -/
def compareKeys : List (SortItem Meaning) → List Value → List Value → Ordering
  | i :: is, a :: as, b :: bs => (compareBy i a b).then (compareKeys is as bs)
  | _, _, _ => .eq

def sortRows (env : Env) (items : List (SortItem Meaning)) (rows : List Projected) :
    Except Error (List Projected) := do
  if items.isEmpty then return rows
  else
    let keyed ← rows.mapM fun p => do
      return (← items.mapM fun i => i.expr.eval env p.group p.scope, p)
    return (keyed.mergeSort fun a b => compareKeys items a.1 b.1 != .gt).map Prod.snd

/-! ### Bounds -/

/-- The number that a bound is; it sees no row. -/
def bound? (env : Env) (clause : String) (m : Option Meaning) : Except Error (Option Nat) := do
  match ← Meaning.value? m env none [] with
  | none => return none
  | some v =>
    match v.toIndex? with
    | some n => return some n
    | none => throw (.meaning (.badBound clause v.text))

/-- Drops rows in front and keeps a number of those that follow. -/
def cut {α : Type} (skip limit : Option Nat) (xs : List α) : List α :=
  let rest := xs.drop (skip.getD 0)
  match limit with
  | some n => rest.take n
  | none => rest

def project (env : Env) (b : Projection Meaning) (t : Table) : Except Error Table := do
  let star := if b.star then starColumns t.columns b.items else []
  let (listed, rows) ← itemColumns env 0 b.items t.rows
  let columns := star.map (fun c => (c, Meaning.ofName c)) ++ listed
  let names := columns.map Prod.fst
  let projected ← projectRows env columns rows
  let projected :=
    if b.distinct then Value.distinctBy (fun p => rowKey names p.out) projected else projected
  let sorted ← sortRows env b.order projected
  let skip ← bound? env "SKIP" b.skip
  let limit ← bound? env "LIMIT" b.limit
  return ⟨names, (cut skip limit sorted).map Projected.out⟩

end Table

end PropertyGraph
