import PropertyGraph.Cypher.Expr
import PropertyGraph.Store

/-!
# Statements

What a text asks for: a query, or a command about rules, databases or transactions.
-/

namespace PropertyGraph

namespace Cypher

/-- What a rule is on: a property of the nodes with a label. -/
structure RuleTarget where
  label : String
  property : String
deriving DecidableEq

inductive SchemaCommand
  | create (kind : RuleKind) (name : Option String) (ifNotExists : Bool) (target : RuleTarget)
  | drop (kind : RuleKind) (name : String) (ifExists : Bool)
  /-- Drops the index on a property. -/
  | dropIndexOn (target : RuleTarget)
deriving DecidableEq

inductive DatabaseCommand
  | create (name : String) (ifNotExists : Bool)
  | drop (name : String) (ifExists : Bool)
  | use (name : String)
deriving DecidableEq

inductive TransactionCommand
  | start
  | commit
  | rollback
deriving DecidableEq

inductive ShowTarget
  | databases
  | constraints
  | indexes
  | stats
  | transactions
  | functions
  /-- Anything else, as it is written. -/
  | other (text : String)
deriving DecidableEq

inductive Statement
  | query (query : Query Expr)
  | schema (command : SchemaCommand)
  | database (command : DatabaseCommand)
  | listing (target : ShowTarget)
  | transaction (command : TransactionCommand)
  | help

namespace Statement

/-- Whether a statement may change the current graph. -/
def isWrite : Statement → Bool
  | query q => q.isWrite
  | schema _ => true
  | _ => false

end Statement

end Cypher

end PropertyGraph
