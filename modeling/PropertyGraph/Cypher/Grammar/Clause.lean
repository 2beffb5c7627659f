import PropertyGraph.Cypher.Grammar.Expr

/-!
# Grammar of clauses
-/

namespace PropertyGraph

namespace Cypher

namespace Grammar

variable (inner : Inner)

/-! ### Projections -/

/-- An expression with the text it was read from, and a name for its column. -/
def projectionItem : Parser (ProjectionItem Expr) := do
  let start := (← get).offset
  let expr ← inner.expr
  let c ← get
  let given ← afterKeyword? "AS" variableName
  return { expr, given, source := sliceBytes c.source start c.before }

def descending : Parser Bool := do
  if ← eatKeyword "DESC" then return true
  else if ← eatKeyword "DESCENDING" then return true
  else
    unless ← eatKeyword "ASC" do
      let _ ← eatKeyword "ASCENDING"
    return false

def nullsFirst? : Parser (Option Bool) := afterKeyword? "NULLS" do
  if ← eatKeyword "FIRST" then return true
  else
    keyword "LAST"
    return false

def sortItem : Parser (SortItem Expr) := do
  let expr ← inner.expr
  let descending ← descending
  let nullsFirst ← nullsFirst?
  return { expr, descending, nullsFirst }

def projection : Parser (Projection Expr) := do
  let distinct ← eatKeyword "DISTINCT"
  let star ← eatSymbol .star
  let more ← if star then eatSymbol .comma else pure true
  let items ← if more then sepBy (projectionItem inner) else pure []
  let order ← afterKeyword? "ORDER" do
    keyword "BY"
    sepBy (sortItem inner)
  let skip ← afterKeyword? "SKIP" inner.expr
  let limit ← afterKeyword? "LIMIT" inner.expr
  return { distinct, star, items, order := order.getD [], skip, limit }

/-! ### Changes -/

/-- A property of something, as SET and REMOVE take it. -/
def propertyTarget : Parser (Expr × String) := do
  match ← postfixed inner false with
  | .of (.property x k) => return (x, k)
  | _ => fail .notAProperty

def nameBefore (s : Symbol) : Parser Bool := do
  if ← isName then isSymbol s 1 else return false

def setItem : Parser (SetItem Expr) := do
  if ← nameBefore .equals then
    let n ← variableName
    skip
    return .replace n (← inner.expr)
  else if ← nameBefore .plusEquals then
    let n ← variableName
    skip
    return .extend n (← inner.expr)
  else if ← nameBefore .colon then
    let n ← variableName
    return .labels n (← labels)
  else
    let (x, k) ← propertyTarget inner
    symbol .equals
    return .property x k (← inner.expr)

def setItems : Parser (List (SetItem Expr)) := sepBy (setItem inner)

def removeItem : Parser (RemoveItem Expr) := do
  if ← nameBefore .colon then
    let n ← variableName
    return .labels n (← labels)
  else
    let (x, k) ← propertyTarget inner
    return .property x k

/-- Whether what follows ON is for a match, and not for a creation. -/
def mergeEvent : Parser Bool := do
  if ← eatKeyword "CREATE" then return false
  else if ← eatKeyword "MATCH" then return true
  else unexpected (.item "CREATE or MATCH")

/-- What MERGE sets after ON: whether it is for a match, and the items. -/
def mergeAction : Parser (Bool × List (SetItem Expr)) := do
  let onMatch ← mergeEvent
  keyword "SET"
  return (onMatch, ← setItems inner)

def mergeClause : Parser (Clause Expr) := do
  let p ← pathPattern inner
  let actions ← manyWhile (eatKeyword "ON") (mergeAction inner)
  let select (onMatch : Bool) := (actions.filter (·.1 = onMatch)).flatMap Prod.snd
  return .merge p (select false) (select true)

def deleteClause (detach : Bool) : Parser (Clause Expr) := do
  return .delete detach (← sepBy inner.expr)

/-- A clause in the body of FOREACH, which has to change the graph. -/
def foreachClause : Parser (Clause Expr) := do
  if ← isEnd then unexpected (.symbol .rightParen)
  else
    let c ← inner.clause
    if c.isWrite then return c else fail (.notInForeach c.name)

def foreach : Parser (Clause Expr) := do
  symbol .leftParen
  let n ← variableName
  keyword "IN"
  let s ← inner.expr
  symbol .bar
  let body ← manyWhile (do return !(← isSymbol .rightParen)) (foreachClause inner)
  symbol .rightParen
  if body.isEmpty then fail .emptyForeach
  else return .foreach n s body

/-! ### Procedures -/

def yieldItem : Parser YieldItem := do
  let n ← name "a procedure output"
  return ⟨n, ← afterKeyword? "AS" variableName⟩

def procedureCall : Parser (Clause Expr) := do
  let n ← dottedName "a procedure name" (isSymbol .dot)
  let args ← if ← eatSymbol .leftParen then listUntil .rightParen inner.expr else pure []
  if ← eatKeyword "YIELD" then
    let yields ← if ← eatSymbol .star then pure none else some <$> sepBy yieldItem
    return .call ⟨n, args, yields, ← condition? inner⟩
  else return .call ⟨n, args, none, none⟩

/-! ### All clauses -/

def matching (optional : Bool) : Parser (Clause Expr) := do
  let ps ← patterns inner
  return .matching optional ps (← condition? inner)

def unwind : Parser (Clause Expr) := do
  let x ← inner.expr
  keyword "AS"
  return .unwind x (← variableName)

def withClause : Parser (Clause Expr) := do
  let body ← projection inner
  return .withItems body (← condition? inner)

def subquery : Parser (Clause Expr) := do
  let q ← query inner false
  symbol .rightBrace
  return .subquery q

/-- The clauses by their first word, which is taken before. -/
def clauseTable : List (String × Parser (Clause Expr)) :=
  [("OPTIONAL", do keyword "MATCH"; matching inner true),
    ("MATCH", matching inner false),
    ("UNWIND", unwind inner),
    ("WITH", withClause inner),
    ("RETURN", .returnItems <$> projection inner),
    ("CREATE", .create <$> patterns inner),
    ("MERGE", mergeClause inner),
    ("SET", .set <$> setItems inner),
    ("REMOVE", .remove <$> sepBy (removeItem inner)),
    ("DETACH", do keyword "DELETE"; deleteClause inner true),
    ("DELETE", deleteClause inner false),
    ("FOREACH", foreach inner),
    ("CALL", do if ← eatSymbol .leftBrace then subquery inner else procedureCall inner)]

def clause : Parser (Clause Expr) := do
  let c ← get
  match (clauseTable inner).find? fun e => (c.lexeme? 0).any (·.isKeyword e.1) with
  | some e =>
    skip
    e.2
  | none => unexpected (.item "a clause")

/-- The parsers for a nesting of at most some depth. -/
def nested : Nat → Inner
  | 0 => ⟨fail .tooDeep, fail .tooDeep⟩
  | depth + 1 => ⟨fun c => expression (nested depth) c, fun c => clause (nested depth) c⟩

end Grammar

end Cypher

end PropertyGraph
