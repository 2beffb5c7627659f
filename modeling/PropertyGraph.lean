import PropertyGraph.Config
import PropertyGraph.Cypher.Clause
import PropertyGraph.Cypher.Expr
import PropertyGraph.Cypher.Grammar.Clause
import PropertyGraph.Cypher.Grammar.Cursor
import PropertyGraph.Cypher.Grammar.Expr
import PropertyGraph.Cypher.Grammar.Pattern
import PropertyGraph.Cypher.Grammar.Statement
import PropertyGraph.Cypher.Pattern
import PropertyGraph.Cypher.Scan
import PropertyGraph.Cypher.Scope
import PropertyGraph.Cypher.Statement
import PropertyGraph.Cypher.Token
import PropertyGraph.Dict
import PropertyGraph.Engine
import PropertyGraph.Engine.Cache
import PropertyGraph.Engine.Catalog
import PropertyGraph.Engine.Command
import PropertyGraph.Engine.Listing
import PropertyGraph.Engine.Response
import PropertyGraph.Engine.Script
import PropertyGraph.Engine.Server
import PropertyGraph.Engine.Snapshot
import PropertyGraph.Error
import PropertyGraph.Function
import PropertyGraph.Function.Graph
import PropertyGraph.Function.Library
import PropertyGraph.Function.Numeric
import PropertyGraph.Function.Sequence
import PropertyGraph.Function.Textual
import PropertyGraph.Json
import PropertyGraph.Json.Read
import PropertyGraph.Matching.Shortest
import PropertyGraph.Matching.Trail
import PropertyGraph.Matching.Walk
import PropertyGraph.Meaning
import PropertyGraph.Meaning.Layer
import PropertyGraph.Number
import PropertyGraph.Number.Decimal
import PropertyGraph.Number.Text
import PropertyGraph.Operator
import PropertyGraph.Procedure
import PropertyGraph.Proofs.Cypher.Agreement
import PropertyGraph.Proofs.Cypher.AtEnd
import PropertyGraph.Proofs.Cypher.Braces
import PropertyGraph.Proofs.Cypher.Contents
import PropertyGraph.Proofs.Cypher.Failure
import PropertyGraph.Proofs.Cypher.Levels
import PropertyGraph.Proofs.Cypher.Lines
import PropertyGraph.Proofs.Cypher.Literal
import PropertyGraph.Proofs.Cypher.Map
import PropertyGraph.Proofs.Cypher.Parts
import PropertyGraph.Proofs.Cypher.Precedence
import PropertyGraph.Proofs.Cypher.Printed
import PropertyGraph.Proofs.Cypher.ReadBack
import PropertyGraph.Proofs.Cypher.Reads
import PropertyGraph.Proofs.Cypher.Scan
import PropertyGraph.Proofs.Cypher.Sequence
import PropertyGraph.Proofs.Cypher.Spacing
import PropertyGraph.Proofs.Cypher.Spelling
import PropertyGraph.Proofs.Cypher.Within
import PropertyGraph.Proofs.Dict
import PropertyGraph.Proofs.Engine.Assembly
import PropertyGraph.Proofs.Engine.Atomic
import PropertyGraph.Proofs.Engine.Autocommit
import PropertyGraph.Proofs.Engine.Caching
import PropertyGraph.Proofs.Engine.Plain
import PropertyGraph.Proofs.Engine.Reachable
import PropertyGraph.Proofs.Engine.Rendering
import PropertyGraph.Proofs.Engine.Script
import PropertyGraph.Proofs.Engine.Session
import PropertyGraph.Proofs.Engine.Step
import PropertyGraph.Proofs.Engine.Transaction
import PropertyGraph.Proofs.Except
import PropertyGraph.Proofs.Fault
import PropertyGraph.Proofs.Function.Range
import PropertyGraph.Proofs.Matching.Assignment
import PropertyGraph.Proofs.Matching.Extension
import PropertyGraph.Proofs.Matching.Follow
import PropertyGraph.Proofs.Matching.InOrder
import PropertyGraph.Proofs.Matching.Loosened
import PropertyGraph.Proofs.Matching.Mention
import PropertyGraph.Proofs.Matching.Narrowed
import PropertyGraph.Proofs.Matching.Rows
import PropertyGraph.Proofs.Matching.Shortest
import PropertyGraph.Proofs.Matching.Trail
import PropertyGraph.Proofs.Matching.Walk
import PropertyGraph.Proofs.Meaning.Alike
import PropertyGraph.Proofs.Meaning.Conjunction
import PropertyGraph.Proofs.Meaning.Constant
import PropertyGraph.Proofs.Meaning.Existence
import PropertyGraph.Proofs.Meaning.Fault
import PropertyGraph.Proofs.Meaning.Frame
import PropertyGraph.Proofs.Meaning.Groupless
import PropertyGraph.Proofs.Meaning.Library
import PropertyGraph.Proofs.Meaning.Mention
import PropertyGraph.Proofs.Meaning.Quantified
import PropertyGraph.Proofs.Meaning.Slicing
import PropertyGraph.Proofs.Meaning.Steady
import PropertyGraph.Proofs.Meaning.Timeless
import PropertyGraph.Proofs.Meaning.Unseen
import PropertyGraph.Proofs.Paired
import PropertyGraph.Proofs.Query.Assigned
import PropertyGraph.Proofs.Query.Balance
import PropertyGraph.Proofs.Query.Columns
import PropertyGraph.Proofs.Query.Counted
import PropertyGraph.Proofs.Query.Covered
import PropertyGraph.Proofs.Query.Create
import PropertyGraph.Proofs.Query.Declared
import PropertyGraph.Proofs.Query.Delete
import PropertyGraph.Proofs.Query.Dispatch
import PropertyGraph.Proofs.Query.Exported
import PropertyGraph.Proofs.Query.Fed
import PropertyGraph.Proofs.Query.Grounded
import PropertyGraph.Proofs.Query.Keeps
import PropertyGraph.Proofs.Query.Labelled
import PropertyGraph.Proofs.Query.Loosened
import PropertyGraph.Proofs.Query.Made
import PropertyGraph.Proofs.Query.Maintained
import PropertyGraph.Proofs.Query.Mention
import PropertyGraph.Proofs.Query.Merge
import PropertyGraph.Proofs.Query.Merging
import PropertyGraph.Proofs.Query.Names
import PropertyGraph.Proofs.Query.Ordered
import PropertyGraph.Proofs.Query.Outline
import PropertyGraph.Proofs.Query.Path
import PropertyGraph.Proofs.Query.Plain
import PropertyGraph.Proofs.Query.Projected
import PropertyGraph.Proofs.Query.Read
import PropertyGraph.Proofs.Query.Reading
import PropertyGraph.Proofs.Query.Stepped
import PropertyGraph.Proofs.Query.Strict
import PropertyGraph.Proofs.Query.Union
import PropertyGraph.Proofs.Query.Unseen
import PropertyGraph.Proofs.Query.Walked
import PropertyGraph.Proofs.Query.Write
import PropertyGraph.Proofs.Query.Written
import PropertyGraph.Proofs.Store.Assigned
import PropertyGraph.Proofs.Store.Declaring
import PropertyGraph.Proofs.Store.Frame
import PropertyGraph.Proofs.Store.Grounded
import PropertyGraph.Proofs.Store.Holding
import PropertyGraph.Proofs.Store.Incidence
import PropertyGraph.Proofs.Store.Linking
import PropertyGraph.Proofs.Store.Modest
import PropertyGraph.Proofs.Store.Operation
import PropertyGraph.Proofs.Store.Pruned
import PropertyGraph.Proofs.Store.Recorded
import PropertyGraph.Proofs.Store.Rendered
import PropertyGraph.Proofs.Store.Rollback
import PropertyGraph.Proofs.Store.Run
import PropertyGraph.Proofs.Store.Sound
import PropertyGraph.Proofs.Store.Step
import PropertyGraph.Proofs.Store.Unique
import PropertyGraph.Proofs.Table.Counting
import PropertyGraph.Proofs.Table.Grouping
import PropertyGraph.Proofs.Table.Joined
import PropertyGraph.Proofs.Table.Partition
import PropertyGraph.Proofs.Table.Sorting
import PropertyGraph.Proofs.Table.Unseen
import PropertyGraph.Proofs.Value.Comparison
import PropertyGraph.Proofs.Value.Equality
import PropertyGraph.Proofs.Value.Filled
import PropertyGraph.Proofs.Value.Key
import PropertyGraph.Proofs.Value.Mention
import PropertyGraph.Proofs.Value.Operator
import PropertyGraph.Proofs.Value.Order
import PropertyGraph.Proofs.Value.PartialOrder
import PropertyGraph.Proofs.Value.Plain
import PropertyGraph.Proofs.Value.Whole
import PropertyGraph.Query.Change
import PropertyGraph.Query.Create
import PropertyGraph.Query.Delete
import PropertyGraph.Query.Edit
import PropertyGraph.Query.Read
import PropertyGraph.Query.Reply
import PropertyGraph.Query.Write
import PropertyGraph.Regex
import PropertyGraph.Regex.CharSet
import PropertyGraph.Regex.Grammar
import PropertyGraph.Render
import PropertyGraph.Schema
import PropertyGraph.Store
import PropertyGraph.Store.Undo
import PropertyGraph.Store.Update
import PropertyGraph.Table
import PropertyGraph.Table.Group
import PropertyGraph.Table.Projection
import PropertyGraph.Tally
import PropertyGraph.Text.Case
import PropertyGraph.Text.Category
import PropertyGraph.Text.Letter
import PropertyGraph.Text.Property
import PropertyGraph.Text.Ranges
import PropertyGraph.Text.Script
import PropertyGraph.Text.Search
import PropertyGraph.Value
import PropertyGraph.Value.Order
import PropertyGraph.Value.Text
