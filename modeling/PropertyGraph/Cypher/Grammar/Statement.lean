import PropertyGraph.Cypher.Grammar.Clause
import PropertyGraph.Cypher.Statement

/-!
# Grammar of statements

A text holds statements with semicolons between them; it cannot be without any.
-/

namespace PropertyGraph

namespace Cypher

namespace Grammar

def databaseName : Parser String :=
  dottedName "a database name" do if ← isSymbol .dot then isName 1 else return false

def ifNotExists : Parser Bool := do
  if ← eatKeyword "IF" then
    keyword "NOT"
    keyword "EXISTS"
    return true
  else return false

def ifExists : Parser Bool := do
  if ← eatKeyword "IF" then
    keyword "EXISTS"
    return true
  else return false

/-! ### Rules -/

/-- The name of a rule, if one is given before the words that may follow. -/
def ruleName? (what : String) : Parser (Option String) := do
  let skipped ← isAt 0 fun l => ["ON", "FOR", "IF"].any l.isKeyword
  if !skipped && (← isName) then some <$> name what else return none

/-- A variable and its label in parentheses. -/
def labelled : Parser (String × String) := do
  symbol .leftParen
  let v ← variableName
  symbol .colon
  let l ← name "a label"
  symbol .rightParen
  return (v, l)

/-- A property of the variable that a rule declares. -/
def propertyOf (declared : String) : Parser String := do
  let v ← variableName
  if v ≠ declared then fail (.notDefined v)
  else
    symbol .dot
    name "a property key"

/-- A label, and a property of it in parentheses. -/
def labelProperty : Parser RuleTarget := do
  symbol .colon
  let label ← name "a label"
  symbol .leftParen
  let property ← name "a property key"
  symbol .rightParen
  return { label, property }

def createConstraint : Parser SchemaCommand := do
  let n ← ruleName? "a constraint name"
  let tolerant ← ifNotExists
  unless ← eatKeyword "ON" do keyword "FOR"
  let (v, label) ← labelled
  unless ← eatKeyword "ASSERT" do keyword "REQUIRE"
  let parenthesized ← eatSymbol .leftParen
  let property ← propertyOf v
  if parenthesized then symbol .rightParen
  keyword "IS"
  keyword "UNIQUE"
  return .create .constraint n tolerant { label, property }

def createIndex : Parser SchemaCommand := do
  let n ← ruleName? "an index name"
  let tolerant ← ifNotExists
  if ← eatKeyword "FOR" then
    let (v, label) ← labelled
    keyword "ON"
    symbol .leftParen
    let property ← propertyOf v
    symbol .rightParen
    return .create .index n tolerant { label, property }
  else
    keyword "ON"
    return .create .index n tolerant (← labelProperty)

def dropIndex : Parser SchemaCommand := do
  if ← eatKeyword "ON" then return .dropIndexOn (← labelProperty)
  else
    let n ← name "an index name"
    return .drop .index n (← ifExists)

def dropStatement : Parser Statement := do
  if ← eatKeyword "DATABASE" then
    let n ← databaseName
    return .database (.drop n (← ifExists))
  else if ← eatKeyword "CONSTRAINT" then
    let n ← name "a constraint name"
    return .schema (.drop .constraint n (← ifExists))
  else if ← eatKeyword "INDEX" then return .schema (← dropIndex)
  else unexpected (.item "DATABASE, CONSTRAINT or INDEX")

/-! ### Other commands -/

def showTarget? (upper : String) : Option ShowTarget :=
  match upper with
  | "DATABASES" | "DATABASE" => some .databases
  | "CONSTRAINTS" | "CONSTRAINT" => some .constraints
  | "INDEXES" | "INDEX" => some .indexes
  | "STATS" | "STATISTICS" => some .stats
  | "TRANSACTIONS" | "TRANSACTION" => some .transactions
  | "FUNCTIONS" | "FUNCTION" => some .functions
  | _ => none

/-- What SHOW is to show; an unknown target goes on to the end of the statement. -/
def showTarget : Parser ShowTarget := do
  let _ ← eatKeyword "ALL"
  let start := (← get).offset
  match (← get).lexeme? 0 with
  | some (.word w) =>
    skip
    match showTarget? (Text.asciiUpper w) with
    | some t => return t
    | none =>
      let _ ← manyWhile (do
        if ← isEnd then return false
        else return !(← isSymbol .semicolon)) skip
      let c ← get
      return .other (sliceBytes c.source start c.before)
  | _ => unexpected (.item "a SHOW target")

def transactionCommand? : Parser (Option TransactionCommand) := do
  let table := [("BEGIN", TransactionCommand.start), ("COMMIT", .commit), ("ROLLBACK", .rollback)]
  let c ← get
  match table.find? fun e => (c.lexeme? 0).any (·.isKeyword e.1) with
  | some e =>
    skip
    let _ ← eatKeyword "TRANSACTION"
    return some e.2
  | none => return none

/-- A command that starts with CREATE and is not a clause. -/
def createCommand? : Parser (Option Statement) := do
  if ← isKeyword "CREATE" then
    if ← isKeyword "DATABASE" 1 then
      skip 2
      let n ← databaseName
      return some (.database (.create n (← ifNotExists)))
    else if ← isKeyword "CONSTRAINT" 1 then
      skip 2
      return some (.schema (← createConstraint))
    else if ← isKeyword "INDEX" 1 then
      skip 2
      return some (.schema (← createIndex))
    else return none
  else return none

def eatHelp : Parser Bool := do
  if ← isSymbol .colon then
    let found ← isKeyword "HELP" 1
    if found then skip 2
    return found
  else eatKeyword "HELP"

def statement (inner : Inner) : Parser Statement := do
  if ← eatHelp then return .help
  if let some c ← transactionCommand? then return .transaction c
  if ← eatKeyword "SHOW" then return .listing (← showTarget)
  if ← eatKeyword "USE" then return .database (.use (← databaseName))
  if let some s ← createCommand? then return s
  if ← eatKeyword "DROP" then return ← dropStatement
  return .query (← query inner true)

/-- Statements up to the end. Between two of them stands a semicolon; there may be more. -/
def statements (inner : Inner) : Parser (List Statement) := do
  let semicolons := manyWhile (eatSymbol .semicolon) (return ())
  let more : Parser Bool := do
    let _ ← semicolons
    return !(← isEnd)
  manyWhile more do
    let s ← statement inner
    if ← isEnd then return s
    else if ← isSymbol .semicolon then return s
    else unexpected (.item "';' or end of input")

end Grammar

/-- The statements of a text. -/
def parse (source : String) : Except ParseError (List Statement) :=
  match tokenize source with
  | .error e => .error (.ofOffset source e.offset (.scan e.fault) e.fault.atEnd)
  | .ok tokens => do
    let (statements, _) ←
      (Grammar.statements (Grammar.nested (tokens.length + 1))).run ⟨source, 0, tokens⟩
    if statements.isEmpty then throw (.ofOffset source source.utf8ByteSize .emptyText true)
    return statements

/-- The statement of a text that has to hold a single one. -/
def parseSingle (source : String) : Except ParseError Statement := do
  match ← parse source with
  | [s] => return s
  | ss => throw (.ofOffset source 0 (.severalStatements ss.length) false)

end Cypher

end PropertyGraph
