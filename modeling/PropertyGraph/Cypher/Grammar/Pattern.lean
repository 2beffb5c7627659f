import PropertyGraph.Cypher.Grammar.Cursor
import PropertyGraph.Cypher.Expr

/-!
# Grammar of patterns

What nests, an expression or a clause inside of something else, is left open here: the parsers
take the parsers for it as an argument.
-/

namespace PropertyGraph

namespace Cypher

namespace Grammar

/-- The parsers for what stands inside of an expression or a clause. -/
structure Inner where
  expr : Parser Expr
  clause : Parser (Clause Expr)

variable (inner : Inner)

/-! ### Expressions that patterns share with others -/

/-- One or more labels, each after a colon. -/
def labels : Parser (List String) := do
  symbol .colon
  let first ← name "a label"
  return first :: (← manyWhile (eatSymbol .colon) (name "a label"))

def mapKey : Parser String := do
  match (← get).lexeme? 0 with
  | some (.string s) =>
    skip
    return s
  | _ => name "a map key"

def mapEntry : Parser (String × Expr) := do
  let key ← mapKey
  symbol .colon
  return (key, ← inner.expr)

def mapLiteral : Parser Expr := do
  symbol .leftBrace
  return .of (.map (← listUntil .rightBrace (mapEntry inner)))

/-- WHERE and a condition, if that is there. -/
def condition? : Parser (Option Expr) := afterKeyword? "WHERE" inner.expr

/-! ### Parts of patterns -/

/-- The properties of an element: a map, or a parameter. -/
def properties? : Parser (Option Expr) := do
  match (← get).lexeme? 0 with
  | some (.symbol .leftBrace) => some <$> mapLiteral inner
  | some (.parameter n) =>
    skip
    return some (.of (.parameter n))
  | _ => return none

def variableName? : Parser (Option String) := do
  if ← isName then some <$> variableName else return none

def nodePattern : Parser (NodePattern Expr) := do
  symbol .leftParen
  let name ← variableName?
  let labels ← if ← isSymbol .colon then labels else pure []
  let properties ← properties? inner
  symbol .rightParen
  return { name, labels, properties }

def count? : Parser (Option Nat) := do
  match (← get).lexeme? 0 with
  | some (.number n) =>
    match n.toIndex? with
    | some k =>
      skip
      return some k
    | none => return none
  | _ => return none

/-- The bounds after a star: one number for both, or two around dots, each of which may lack. -/
def hopRange : Parser HopRange := do
  match ← count? with
  | some min =>
    if ← eatSymbol .dots then return ⟨some min, ← count?⟩ else return ⟨some min, some min⟩
  | none =>
    if ← eatSymbol .dots then return ⟨none, ← count?⟩ else return ⟨none, none⟩

/-- Types with bars between them; a colon may follow a bar. -/
def relTypes : Parser (List String) := do
  let first ← name "a relationship type"
  return first :: (← manyWhile (eatSymbol .bar) do
    let _ ← eatSymbol .colon
    name "a relationship type")

def direction (incoming outgoing : Bool) : Direction :=
  match incoming, outgoing with
  | true, false => .incoming
  | false, true => .outgoing
  | _, _ => .undirected

def relPattern : Parser (RelPattern Expr) := do
  let incoming ← eatSymbol .less
  symbol .minus
  let body : RelPattern Expr ←
    if ← eatSymbol .leftBracket then
      let name ← variableName?
      let types ← if ← eatSymbol .colon then relTypes else pure []
      let length ← if ← eatSymbol .star then some <$> hopRange else pure none
      let properties ← properties? inner
      symbol .rightBracket
      pure { name, types, direction := .undirected, properties, length }
    else pure ⟨none, [], .undirected, none, none⟩
  symbol .minus
  let outgoing ← eatSymbol .greater
  return { body with direction := direction incoming outgoing }

def hop : Parser (Hop Expr) := do
  let rel ← relPattern inner
  return ⟨rel, ← nodePattern inner⟩

/-- Whether a relationship follows. -/
def hopAhead : Parser Bool := do
  if ← isSymbol .minus then return true
  else if ← isSymbol .less then isSymbol .minus 1
  else return false

/-! ### Whole patterns -/

/-- The selector that the next word stands for, if a parenthesis follows it. -/
def selector : Parser Selector := do
  if ← isSymbol .leftParen 1 then
    if ← isKeyword "shortestPath" then return .shortest
    else if ← isKeyword "allShortestPaths" then return .allShortest
    else return .all
  else return .all

/-- Whether a name and an equals sign follow. -/
def assignmentAhead : Parser Bool := do
  if ← isName then isSymbol .equals 1 else return false

def pathPattern : Parser (PathPattern Expr) := do
  let name ←
    if ← assignmentAhead then do
      let name ← variableName
      skip
      pure (some name)
    else pure none
  let selector ← selector
  if selector ≠ .all then skip 2
  let start ← nodePattern inner
  let hops ← manyWhile hopAhead (hop inner)
  if selector ≠ .all then
    symbol .rightParen
    if hops.length ≠ 1 then fail .notOneHop
  return { name, selector, start, hops }

def patterns : Parser (List (PathPattern Expr)) := sepBy (pathPattern inner)

/-! ### Telling a pattern from an expression in parentheses -/

/-- Drops colons with a name after each. -/
def dropLabels : List Token → List Token
  | t :: u :: ts =>
    if t.lexeme = .symbol .colon && u.lexeme.name?.isSome then dropLabels ts else t :: u :: ts
  | ts => ts

/-- Drops what is left of a map that is `depth` braces deep, if it is closed. -/
def dropBraces : Nat → List Token → Option (List Token)
  | _, [] => none
  | depth, t :: ts =>
    match t.lexeme with
    | .symbol .leftBrace => dropBraces (depth + 1) ts
    | .symbol .rightBrace => if depth ≤ 1 then some ts else dropBraces (depth - 1) ts
    | _ => dropBraces depth ts

def dropProperties (ts : List Token) : Option (List Token) :=
  match ts with
  | ⟨.symbol .leftBrace, _, _⟩ :: ts => dropBraces 1 ts
  | ⟨.parameter _, _, _⟩ :: ts => some ts
  | ts => some ts

def dropName (ts : List Token) : List Token :=
  match ts with
  | t :: rest => if t.lexeme.name?.isSome then rest else ts
  | [] => []

/-- Whether the end of a node pattern and the begin of a relationship start the tokens. -/
def startsRel (ts : List Token) : Bool :=
  match (ts.take 3).map Token.lexeme with
  | [.symbol .rightParen, .symbol .minus, .symbol s] => s = .minus || s = .leftBracket
  | [.symbol .rightParen, .symbol .less, .symbol s] => s = .minus
  | _ => false

/-- Whether a node pattern with a relationship after it starts the tokens. -/
def startsPattern (ts : List Token) : Bool :=
  match ts with
  | ⟨.symbol .leftParen, _, _⟩ :: ts =>
    (dropProperties (dropLabels (dropName ts))).any startsRel
  | _ => false

def patternAhead (ahead : Nat := 0) : Parser Bool :=
  return startsPattern ((← get).rest.drop ahead)

end Grammar

end Cypher

end PropertyGraph
