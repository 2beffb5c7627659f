import PropertyGraph.Cypher.Grammar.Cursor
import PropertyGraph.Cypher.Scope
import PropertyGraph.Function

/-!
# Errors

Why a request fails, the category that callers see, and the text.
-/

namespace PropertyGraph

/-- A value of the wrong type, or outside of what an operation is defined for. Types are given
by their names. -/
inductive TypeFault
  /-- A user of values wants one kind of them and finds another. -/
  | expects (user wanted found : String)
  | notList (found : String)
  | notOperands (operator left right : String)
  | divisionByZero
  | noProperty (key found : String)
  | fractionalIndex (n : Number)
  | notIndexable (found index : String)
  | notSliceable (found : String)
  | notSliceBound (found : String)
  | badRegex
  | patternProperties (found : String)
  | newProperties (found : String)
  | notNode (name found : String)
  | labelTarget (found : String)
  | propertySource (found : String)
  | propertyValue (found : String)
  | propertyTarget (key found : String)
  | replaceTarget (found : String)
  | removeTarget (key found : String)
deriving DecidableEq

namespace TypeFault

def message : TypeFault → String
  | expects user wanted found => user ++ " expects " ++ wanted ++ " but got " ++ found
  | notList t => "expected a List but got " ++ t
  | notOperands op l r => "cannot apply " ++ op ++ " to " ++ l ++ " and " ++ r
  | divisionByZero => "/ by zero"
  | noProperty k t => "cannot read property `" ++ k ++ "` of " ++ t
  | fractionalIndex n => "list index must be an integer, got " ++ n.text
  | notIndexable t i => "cannot index " ++ t ++ " with " ++ i
  | notSliceable t => "cannot slice " ++ t
  | notSliceBound t => "slice bounds must be integers, got " ++ t
  | badRegex => "Invalid regular expression:"
  | patternProperties t => "pattern properties must be a Map, got " ++ t
  | newProperties t => "properties must be a Map, got " ++ t
  | notNode n t => "expected `" ++ n ++ "` to be a Node but was " ++ t
  | labelTarget t => "cannot set labels on " ++ t
  | propertySource t => "expected a Map to set properties from, got " ++ t
  | propertyValue t =>
    "Property values can only be of primitive types or lists thereof, got " ++ t
  | propertyTarget k t => "cannot set property `" ++ k ++ "` on " ++ t
  | replaceTarget t => "cannot replace properties of " ++ t
  | removeTarget k t => "cannot remove property `" ++ k ++ "` from " ++ t

end TypeFault

/-- Something that a statement asks for and that cannot be. -/
inductive MeaningFault
  | missingParameter (name : String)
  | badParameters (text : String)
  /-- An aggregate stands where there is no group; the text is that of its call. -/
  | noGroup (call : String)
  | notOneArgument (name : String)
  | writeInReading (clause : String)
  | notReading (clause : String)
  | notWriting (clause : String)
  | noProcedure (name : String)
  | procedureArguments (name : String) (count : Nat)
  | noOutput (name : String)
  | badBound (clause value : String)
  | nodeDeclared (name : String)
  | relDeclared (name : String)
  | createLength
  | createType
  | createDirection
  | badShow (text : String)
deriving DecidableEq

namespace MeaningFault

def message : MeaningFault → String
  | missingParameter n => "Expected parameter(s): " ++ n
  | badParameters t => "Parameters must be a JSON object, got " ++ t
  | noGroup c => "Invalid use of aggregating function " ++ c ++ " in this context"
  | notOneArgument n => n ++ "() expects exactly one argument"
  | writeInReading c => c ++ " is not allowed inside a read-only subquery"
  | notReading c => c ++ " cannot run as a reading clause"
  | notWriting c => c ++ " is not a write clause"
  | noProcedure n => "There is no procedure with the name `" ++ n ++ "` registered"
  | procedureArguments n k =>
    "Procedure " ++ n ++ "() takes no arguments, got " ++ toString k
  | noOutput n => "Unknown procedure output: `" ++ n ++ "`"
  | badBound c v =>
    "Invalid input for " ++ c ++ ": expected a non-negative integer, got " ++ v
  | nodeDeclared n =>
    "Can't create node `" ++ n ++ "` with labels or properties here. " ++
      "The variable is already declared in this context"
  | relDeclared n => "Can't create relationship `" ++ n ++ "`: the variable is already declared"
  | createLength => "Variable length relationships cannot be used in CREATE"
  | createType => "Exactly one relationship type must be specified for CREATE"
  | createDirection => "Only directed relationships are supported in CREATE"
  | badShow t => "Unsupported SHOW command: " ++ t

end MeaningFault

inductive DatabaseFault
  | alreadyExists (name : String)
  | notFound (name : String)
  | isDefault (name : String)
deriving DecidableEq

namespace DatabaseFault

def message : DatabaseFault → String
  | alreadyExists n => "Database '" ++ n ++ "' already exists"
  | notFound n => "Database '" ++ n ++ "' does not exist"
  | isDefault n => "Cannot drop the default database '" ++ n ++ "'"

end DatabaseFault

inductive TransactionFault
  | alreadyActive
  /-- There is none that the command could end. -/
  | notActive (command : String)
  | databaseChange
deriving DecidableEq

namespace TransactionFault

def message : TransactionFault → String
  | alreadyActive => "A transaction is already active"
  | notActive c => c ++ " without an active transaction"
  | databaseChange =>
    "Cannot change databases while a transaction is open; COMMIT or ROLLBACK first"

end TransactionFault

inductive Error
  | parse (e : Cypher.ParseError)
  | scope (e : Cypher.ScopeError)
  | meaning (f : MeaningFault)
  | type (f : TypeFault)
  | function (e : FunctionError)
  | store (e : StoreError)
  | database (f : DatabaseFault)
  | transaction (f : TransactionFault)
deriving DecidableEq

/-- The categories of errors. -/
inductive ErrorKind
  | syntactic
  | semantic
  | constraint
  | writeGuard
  | type
  | transaction
  | database
  | storage
deriving DecidableEq

namespace ErrorKind

/-- The name of a category. -/
def code : ErrorKind → String
  | syntactic => "SyntaxError"
  | semantic => "SemanticError"
  | constraint => "ConstraintViolation"
  | writeGuard => "WriteGuardError"
  | type => "RuntimeTypeError"
  | transaction => "TransactionError"
  | database => "DatabaseError"
  | storage => "StorageError"

/-- What the texts of a category start with. -/
def intro : ErrorKind → String
  | syntactic => "Syntax error: "
  | semantic => "Semantic error: "
  | constraint => "Constraint violation: "
  | writeGuard => ""
  | type => "Type error: "
  | transaction => "Transaction error: "
  | database => ""
  | storage => "Storage error: "

def ofStore : StoreError → ErrorKind
  | .notUnique .. => constraint
  | .hasRelationships .. => writeGuard
  | .ruleExists .. | .noSuchRule .. => semantic
  | .nodeNotFound _ | .relNotFound _ => storage

def ofFunction : FunctionError → ErrorKind
  | .unknown _ | .argumentCount .. => semantic
  | _ => type

end ErrorKind

namespace Error

def kind : Error → ErrorKind
  | parse _ => .syntactic
  | scope _ | meaning _ => .semantic
  | type _ => .type
  | function e => .ofFunction e
  | store e => .ofStore e
  | database _ => .database
  | transaction _ => .transaction

/-- What went wrong, without the category. -/
def detail : Error → String
  | parse e => e.text
  | scope e => e.message
  | meaning f => f.message
  | type f => f.message
  | function e => e.message
  | store e => e.message
  | database f => f.message
  | transaction f => f.message

def text (e : Error) : String := e.kind.intro ++ e.detail

end Error

end PropertyGraph
