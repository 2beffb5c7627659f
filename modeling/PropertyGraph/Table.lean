import PropertyGraph.Value

/-!
# Tables

Rows of bindings with the names that are bound in them. A name that a row does not bind counts
as null there.
-/

namespace PropertyGraph

structure Table where
  columns : List String
  rows : List Row

namespace Table

/-- One empty row, from which a query starts. -/
def unit : Table := ⟨[], [[]]⟩

/-- One row, from which a query inside of another starts. -/
def ofRow (row : Row) : Table := ⟨Dict.keys row, [row]⟩

/-- Adds the names that are new. -/
def addColumns (columns names : List String) : List String :=
  names.foldl (fun cs n => if n ∈ cs then cs else cs ++ [n]) columns

def declare (t : Table) (names : List String) : Table :=
  { t with columns := addColumns t.columns names }

/-- The values of a row under some columns. -/
def valuesIn (columns : List String) (row : Row) : List Value :=
  columns.map fun c => Dict.getD row c .null

/-- What grouping and DISTINCT tell rows apart by. -/
def rowKey (columns : List String) (row : Row) : List Value :=
  (valuesIn columns row).map Value.key

def valueRows (t : Table) : List (List Value) := t.rows.map (valuesIn t.columns)

/-- Drops the rows that have been there before. -/
def distinct (t : Table) : Table :=
  { t with rows := Value.distinctBy (rowKey t.columns) t.rows }

end Table

/-- What a part of a query gives: a table, and whether that is a result. -/
structure Output where
  table : Table
  returns : Bool

namespace Output

/-- The rows of two outputs, under the columns of both. -/
def union (all : Bool) (a b : Output) : Output :=
  let t := { a.table.declare b.table.columns with rows := a.table.rows ++ b.table.rows }
  ⟨if all then t else t.distinct, a.returns || b.returns⟩

/-- The row with the columns of a table set to the values in another row. -/
def joinRow (columns : List String) (row inner : Row) : Row :=
  Dict.merge row (columns.map fun c => (c, Dict.getD inner c .null))

/-- The columns of a table joined with an output; a query without a result adds none. -/
def joinColumns (columns : List String) (o : Output) : List String :=
  if o.returns then Table.addColumns columns o.table.columns else columns

/-- A row joined with an output; a query without a result leaves the row as it is. -/
def joinRows (row : Row) (o : Output) : List Row :=
  if o.returns then o.table.rows.map (joinRow o.table.columns row) else [row]

end Output

/-- Joins every row of a table with what an inner query gives for it. -/
def Table.join {m : Type → Type} [Monad m] (t : Table) (run : Row → m Output) : m Table := do
  let joined ← t.rows.mapM fun row => do return (row, ← run row)
  return ⟨joined.foldl (fun cs e => Output.joinColumns cs e.2) t.columns,
    joined.flatMap fun e => Output.joinRows e.1 e.2⟩

end PropertyGraph
