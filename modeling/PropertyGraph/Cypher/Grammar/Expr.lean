import PropertyGraph.Cypher.Grammar.Pattern

/-!
# Grammar of expressions

From the loosest to the tightest: OR, XOR, AND, NOT, comparisons, sums, products, powers, signs,
then what follows an operand, then the operands. All operators group to the left.
-/

namespace PropertyGraph

namespace Cypher

namespace Grammar

variable (inner : Inner)

/-! ### Queries as expressions -/

/-- Whether a sequence of clauses is over. -/
def clausesEnd : Parser Bool := do
  if ← isEnd then return true
  else if ← isSymbol .semicolon then return true
  else if ← isSymbol .rightBrace then return true
  else isKeyword "UNION"

/-- A sequence of clauses, in which nothing follows RETURN. If a result is asked for, the last
clause gives one or changes the graph. -/
def clauses (needsResult : Bool) : Parser (List (Clause Expr)) := do
  let reversed ← iterate (fun cs => do
    if ← clausesEnd then return none
    else if cs.head?.any Clause.isReturn then fail .clauseAfterReturn
    else return some ((← inner.clause) :: cs)) []
  match reversed with
  | [] => unexpected (.item "a clause")
  | last :: _ =>
    if needsResult && !last.canConclude then fail (.cannotConclude last.name)
    else return reversed.reverse

def query (needsResult : Bool) : Parser (Query Expr) := do
  let first ← clauses inner needsResult
  let unions ← manyWhile (eatKeyword "UNION") do
    let all ← eatKeyword "ALL"
    return (⟨all, ← clauses inner needsResult⟩ : Branch (Clause Expr))
  return ⟨first, unions⟩

/-- What stands in EXISTS braces: patterns that are matched, or a query. -/
def existsBody : Parser Expr := do
  let bare ← if ← isSymbol .leftParen then pure true else assignmentAhead
  let q : Query Expr ←
    if bare then do
      let ps ← patterns inner
      let w ← condition? inner
      pure ⟨[.matching false ps w], []⟩
    else query inner false
  symbol .rightBrace
  return .of (.existsQuery q)

/-! ### Operands -/

def listAhead : Parser Bool := do
  if ← isName then isKeyword "IN" 1 else return false

/-- What stands in brackets that open an operand: a comprehension of a pattern or a list, or
the items of a list. -/
def listBody : Parser Expr := do
  let named ← if ← assignmentAhead then patternAhead 2 else pure false
  if named || (← patternAhead) then
    let p ← pathPattern inner
    let w ← condition? inner
    symbol .bar
    let x ← inner.expr
    symbol .rightBracket
    return .of (.matchesOf p w x)
  else if ← listAhead then
    let n ← variableName
    keyword "IN"
    let s ← inner.expr
    let w ← condition? inner
    let x ← if ← eatSymbol .bar then some <$> inner.expr else pure none
    symbol .rightBracket
    return .of (.listOf n s w x)
  else return .of (.list (← listUntil .rightBracket inner.expr))

def caseBody : Parser Expr := do
  let subject ← if ← isKeyword "WHEN" then pure none else some <$> inner.expr
  let branches ← manyWhile (eatKeyword "WHEN") do
    let c ← inner.expr
    keyword "THEN"
    return (c, ← inner.expr)
  if branches.isEmpty then unexpected (.keyword "WHEN")
  else
    let fallback ← afterKeyword? "ELSE" inner.expr
    keyword "END"
    return .of (.case subject branches fallback)

def mapItem : Parser (MapItem Expr) := do
  if ← eatSymbol .dot then
    if ← eatSymbol .star then return .everything
    else .property <$> name "a property key"
  else if ← (do if ← isName then isSymbol .colon 1 else return false) then
    let k ← name "a key"
    skip
    return .entry k (← inner.expr)
  else .name <$> variableName

/-- A variable, or a map made from one. -/
def nameOrMap (n : String) : Parser Expr := do
  if ← eatSymbol .leftBrace then
    return .of (.mapOf n (← listUntil .rightBrace (mapItem inner)))
  else return .of (.name n)

/-! What follows a word and its parenthesis, both of which are taken before. -/

/-- A pattern holds or not; any other argument is a value that is there or not. -/
def existsArgument : Parser Expr := do
  let x ← inner.expr
  symbol .rightParen
  match x with
  | .of (.matched _) => return x
  | x => return .of (.existsValue x)

def quantifiedBody (q : Quantifier) : Parser Expr := do
  let n ← variableName
  keyword "IN"
  let s ← inner.expr
  keyword "WHERE"
  let p ← inner.expr
  symbol .rightParen
  return .of (.quantified q n s p)

def reduceBody : Parser Expr := do
  let a ← variableName
  symbol .equals
  let i ← inner.expr
  symbol .comma
  let n ← variableName
  keyword "IN"
  let s ← inner.expr
  symbol .bar
  let x ← inner.expr
  symbol .rightParen
  return .of (.reduce a i n s x)

def callBody (function : String) : Parser Expr := do
  let distinct ← eatKeyword "DISTINCT"
  return .of (.call function distinct (← listUntil .rightParen inner.expr))

def quantifier? (upper : String) : Option Quantifier :=
  match upper with
  | "ALL" => some .all
  | "ANY" => some .any
  | "NONE" => some .none
  | "SINGLE" => some .single
  | _ => none

/-- A word with a parenthesis after it: a form of its own, or the call of a function. -/
def wordCall (w : String) : Parser Expr := do
  let upper := Text.asciiUpper w
  let stars ← (do if ← isSymbol .star 2 then isSymbol .rightParen 3 else return false)
  let binds ← (do if ← isName 2 then isKeyword "IN" 3 else return false)
  if upper = "COUNT" && stars then
    skip 4
    return .of .countRows
  else if upper = "EXISTS" then
    skip 2
    existsArgument inner
  else if upper = "REDUCE" then
    skip 2
    reduceBody inner
  else if upper = "SHORTESTPATH" || upper = "ALLSHORTESTPATHS" then
    return .of (.paths (← pathPattern inner))
  else
    skip 2
    match quantifier? upper with
    | some q => if binds then quantifiedBody inner q else callBody inner w
    | none => callBody inner w

def constant? (upper : String) : Option Value :=
  match upper with
  | "TRUE" => some (.bool true)
  | "FALSE" => some (.bool false)
  | "NULL" => some .null
  | _ => none

/-- An operand that starts with a word. -/
def wordOperand (w : String) : Parser Expr := do
  let upper := Text.asciiUpper w
  match constant? upper with
  | some v =>
    skip
    return .of (.literal v)
  | none =>
    if upper = "CASE" then
      skip
      caseBody inner
    else if upper = "EXISTS" && (← isSymbol .leftBrace 1) then
      skip 2
      existsBody inner
    else if ← isSymbol .leftParen 1 then wordCall inner w
    else if (Lexeme.word w).isReserved then unexpected (.item "an expression")
    else
      skip
      nameOrMap inner w

def literal (v : Value) : Parser Expr := do
  skip
  return .of (.literal v)

def operand : Parser Expr := do
  match (← get).lexeme? 0 with
  | some (.number n) => literal (.num n)
  | some (.string s) => literal (.str s)
  | some (.parameter n) =>
    skip
    return .of (.parameter n)
  | some (.symbol .leftParen) =>
    if ← patternAhead then return .of (.matched (← pathPattern inner))
    else
      skip
      let x ← inner.expr
      symbol .rightParen
      return x
  | some (.symbol .leftBracket) =>
    skip
    listBody inner
  | some (.symbol .leftBrace) => mapLiteral inner
  | some (.quoted n) =>
    skip
    nameOrMap inner n
  | some (.word w) => wordOperand inner w
  | some (.symbol _) | none => unexpected (.item "an expression")

/-! ### What follows an operand -/

/-- The end of a slice and its bracket. -/
def sliceEnd (target : Expr) (start : Option Expr) : Parser Expr := do
  let stop ← if ← isSymbol .rightBracket then pure none else some <$> inner.expr
  symbol .rightBracket
  return .of (.slice target start stop)

/-- What stands in brackets after an operand. -/
def indexBody (target : Expr) : Parser Expr := do
  if ← eatSymbol .dots then sliceEnd inner target none
  else
    let first ← inner.expr
    if ← eatSymbol .dots then sliceEnd inner target (some first)
    else
      symbol .rightBracket
      return .of (.index target first)

/-- One property, index, slice or, where they are allowed, list of labels. -/
def suffix? (allowLabels : Bool) (x : Expr) : Parser (Option Expr) := do
  if ← eatSymbol .leftBracket then some <$> indexBody inner x
  else if ← isName 1 then
    if ← eatSymbol .dot then return some (.of (.property x (← name "a property key")))
    else if ← (if allowLabels then isSymbol .colon else return false) then
      return some (.of (.hasLabels x (← labels)))
    else return none
  else return none

def postfixed (allowLabels : Bool) : Parser Expr := do
  iterate (suffix? inner allowLabels) (← operand inner)

/-! ### Operators -/

inductive Sign
  | plus
  | minus

def sign? : Parser (Option Sign) := do
  if ← eatSymbol .minus then return some .minus
  else if ← eatSymbol .plus then return some .plus
  else return none

/-- A signed expression. A minus belongs to the number that follows it. -/
def withSign (s : Sign) (x : Expr) : Expr :=
  match s, x with
  | .minus, .of (.literal (.num n)) => .of (.literal (.num n.neg))
  | .minus, x => .of (.unary .negate x)
  | .plus, x => .of (.unary .plus x)

def signed : Parser Expr := do
  let signs ← iterate (fun ss => do return (← sign?).map (· :: ss)) []
  return signs.foldl (fun x s => withSign s x) (← postfixed inner true)

def binary (op : BinaryOp) (l r : Expr) : Expr := .of (.binary op l r)

/-- Takes the first of some operators that is next. -/
def oneOf (table : List (Symbol × BinaryOp)) : Parser (Option (Expr → Expr → Expr)) := do
  let next := (← get).lexeme? 0
  match table.find? fun e => next = some (.symbol e.1) with
  | some e =>
    skip
    return some (binary e.2)
  | none => return none

def word? (w : String) (op : BinaryOp) : Parser (Option (Expr → Expr → Expr)) := do
  return if ← eatKeyword w then some (binary op) else none

def powers : Parser Expr := chainLeft (oneOf [(.caret, .pow)]) (signed inner)

def products : Parser Expr :=
  chainLeft (oneOf [(.star, .mul), (.slash, .div), (.percent, .rem)]) (powers inner)

def sums : Parser Expr := chainLeft (oneOf [(.plus, .add), (.minus, .sub)]) (products inner)

def comparisonSymbols : List (Symbol × BinaryOp) :=
  [(.equals, .eq), (.notEquals, .ne), (.bangEquals, .ne), (.less, .lt), (.lessEquals, .le),
    (.greater, .gt), (.greaterEquals, .ge), (.regexMatch, .regexMatch)]

def comparisonOperator : Parser (Option (Expr → Expr → Expr)) := do
  if let some f ← oneOf comparisonSymbols then return some f
  else if ← eatKeyword "IN" then return some (binary .isIn)
  else if ← eatKeyword "CONTAINS" then return some (binary .contains)
  else if ← isKeyword "WITH" 1 then
    if ← eatKeyword "STARTS" then
      skip
      return some (binary .startsWith)
    else if ← eatKeyword "ENDS" then
      skip
      return some (binary .endsWith)
    else return none
  else return none

/-- A comparison with a sum, or a test for null. -/
def comparison? (left : Expr) : Parser (Option Expr) := do
  if ← eatKeyword "IS" then
    let negated ← eatKeyword "NOT"
    keyword "NULL"
    return some (.of (.isNull left negated))
  else
    match ← comparisonOperator with
    | some f => return some (f left (← sums inner))
    | none => return none

def comparisons : Parser Expr := do iterate (comparison? inner) (← sums inner)

def negations : Parser Expr := do
  let nots ← manyWhile (eatKeyword "NOT") (return ())
  return nots.foldl (fun x _ => .of (.unary .not x)) (← comparisons inner)

def conjunctions : Parser Expr := chainLeft (word? "AND" .and) (negations inner)

def exclusions : Parser Expr := chainLeft (word? "XOR" .xor) (conjunctions inner)

def expression : Parser Expr := chainLeft (word? "OR" .or) (exclusions inner)

end Grammar

end Cypher

end PropertyGraph
