import PropertyGraph.Cypher.Statement
import PropertyGraph.Query.Reply

/-!
# Rules of a graph

Declaring and dropping constraints and indexes. A rule without a name gets one from its kind,
label and property.
-/

namespace PropertyGraph

open Cypher

namespace RuleKind

/-- The word for a rule at the start of a sentence. -/
def title : RuleKind → String
  | constraint => "Constraint"
  | index => "Index"

/-- A sentence about a rule. -/
def tell (k : RuleKind) (name rest : String) : String := k.title ++ " '" ++ name ++ "' " ++ rest

end RuleKind

namespace Cypher.RuleTarget

def ruleName (t : RuleTarget) (k : RuleKind) : String :=
  k.name ++ "_" ++ t.label ++ "_" ++ t.property

end Cypher.RuleTarget

namespace Store

/-- Declares a rule; what there is of it already is told or refused. -/
def declareRule (k : RuleKind) (rule : Rule) (tolerant : Bool) : Operation String := fun s =>
  match createRule k rule s with
  | (.ok _, s) => (.ok (k.tell rule.name "created"), s)
  | (.error (.ruleExists k' existing), s) =>
    if tolerant then (.ok (k.tell existing "already exists, nothing created"), s)
    else (.error (.ruleExists k' existing), s)
  | (.error e, s) => (.error e, s)

/-- Drops a rule; that there is none is told or refused. -/
def withdrawRule (k : RuleKind) (name : String) (tolerant : Bool) : Operation String := fun s =>
  match dropRule k name s with
  | (.ok _, s) => (.ok (k.tell name "dropped"), s)
  | (.error e, s) =>
    if tolerant then (.ok (k.tell name "does not exist, nothing dropped"), s) else (.error e, s)

/-- The name of the index on a property; the one it would get if there is none. -/
def indexName (s : Store) (t : RuleTarget) : String :=
  match s.indexes.find? fun r => r.label = t.label && r.property = t.property with
  | some r => r.name
  | none => t.ruleName .index

end Store

/-- What a command does to a graph, and the sentence about it. -/
def Cypher.SchemaCommand.operation : SchemaCommand → Store.Operation String
  | .create k name tolerant t =>
    Store.declareRule k ⟨name.getD (t.ruleName k), t.label, t.property⟩ tolerant
  | .drop k name tolerant => Store.withdrawRule k name tolerant
  | .dropIndexOn t => fun s => Store.withdrawRule .index (s.indexName t) false s

def Cypher.SchemaCommand.reply (c : SchemaCommand) : Edit Reply :=
  Reply.note <$> Edit.store c.operation

end PropertyGraph
