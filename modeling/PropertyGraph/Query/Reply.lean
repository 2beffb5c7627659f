import PropertyGraph.Query.Write

/-!
# Replies

What a statement gives back when it succeeds. The form of a query's reply depends on the query
alone and not on the graph.
-/

namespace PropertyGraph

/-- How rows are presented. -/
inductive Shape
  | table
  | graph
deriving DecidableEq

inductive Reply
  | rows (shape : Shape) (columns : List String) (rows : List (List Value)) (tally : Tally)
  | message (text : String) (tally : Tally)
  | help (text : String)

namespace Reply

/-- Rows of a statement that changes nothing. -/
def listing (columns : List String) (rows : List (List Value)) : Reply :=
  .rows .table columns rows {}

/-- A sentence about something other than a graph's entities. -/
def note (text : String) : Reply := .message text {}

end Reply

namespace Query

open Cypher

/-- Whether WITH or RETURN aggregates. -/
def groupsRows : Clause Meaning → Bool
  | .withItems b _ | .returnItems b => b.items.any fun i => i.expr.aggregates
  | _ => false

/-- Whether a clause is MATCH, and not OPTIONAL MATCH. -/
def isMatch : Clause Meaning → Bool
  | .matching optional _ _ => !optional
  | _ => false

/-- The rows of a query show the graph if it is one sequence of reading clauses that starts
with MATCH, does not aggregate, and ends with RETURN. -/
def shape (q : Query Meaning) : Shape :=
  if q.unions.isEmpty && !q.isWrite && q.first.head?.any isMatch && !q.first.any groupsRows &&
      endsInReturn q.first then .graph
  else .table

/-- Runs a whole query, with the counters at zero. A query without a result tells what it
changed. -/
def reply (c : Context) (q : Query Meaning) : Edit Reply := do
  let o ← run c .unit q
  let tally := (← get).tally
  if o.returns then return .rows (shape q) o.table.columns o.table.valueRows tally
  else return .message tally.summary tally

end Query

end PropertyGraph
