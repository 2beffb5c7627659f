import PropertyGraph.Cypher.Scan
import PropertyGraph.Text.Case

/-!
# Reading tokens

A parser takes tokens off a cursor or fails at it. A failure is a cause with its place in the
text; it also tells whether the text had ended there, so that more of it could help.
-/

namespace PropertyGraph

namespace Cypher

/-- What a parser looks for. -/
inductive Expected
  | keyword (word : String)
  | symbol (s : Symbol)
  /-- Something that has a name in the grammar. -/
  | item (name : String)
deriving DecidableEq

def Expected.text : Expected → String
  | keyword w => w
  | symbol s => "'" ++ s.text ++ "'"
  | item n => n

/-- Why a text cannot be parsed. -/
inductive ParseFault
  | scan (fault : ScanFault)
  /-- Something else, or nothing, stands where something is expected. -/
  | unexpected (found : Option Lexeme) (expected : Expected)
  /-- A rule speaks of a name that it does not declare. -/
  | notDefined (name : String)
  | clauseAfterReturn
  /-- A query ends with a clause that gives no result and changes nothing. -/
  | cannotConclude (clause : String)
  | notAProperty
  | notInForeach (clause : String)
  | emptyForeach
  /-- A shortest path over other than one relationship. -/
  | notOneHop
  | emptyText
  | severalStatements (count : Nat)
  /-- Never met: the nesting of a text is less deep than the text is long. -/
  | tooDeep
deriving DecidableEq

namespace ParseFault

def message : ParseFault → String
  | scan f => f.message
  | unexpected (some l) e => "Invalid input " ++ l.describe ++ ": expected " ++ e.text
  | unexpected none e => "Unexpected end of input: expected " ++ e.text
  | notDefined n => "Variable `" ++ n ++ "` not defined"
  | clauseAfterReturn => "RETURN can only be used at the end of the query"
  | cannotConclude c =>
    "Query cannot conclude with " ++ c ++
      " (must be a RETURN clause, an update clause or a procedure call)"
  | notAProperty => "Expected a property, e.g. `n.name`"
  | notInForeach c => "Invalid use of " ++ c ++ " inside FOREACH"
  | emptyForeach => "FOREACH requires at least one update clause"
  | notOneHop => "shortestPath requires a pattern with exactly one relationship"
  | emptyText => "Empty query"
  | severalStatements n => "Expected a single statement, found " ++ toString n
  | tooDeep => "The text is nested too deeply"

end ParseFault

structure ParseError where
  fault : ParseFault
  /-- In bytes of the text. -/
  offset : Nat
  line : Nat
  column : Nat
  /-- Whether the text ended before the statement did. -/
  atEnd : Bool
deriving DecidableEq

/-- The characters that start before a byte offset. -/
def takeBytes : Nat → List Char → List Char
  | _, [] => []
  | n, c :: cs => if n = 0 then [] else c :: takeBytes (n - c.utf8Size) cs

/-- The characters that start at a byte offset or after it. -/
def dropBytes : Nat → List Char → List Char
  | _, [] => []
  | n, c :: cs => if n = 0 then c :: cs else dropBytes (n - c.utf8Size) cs

/-- The text between two byte offsets. -/
def sliceBytes (source : String) (start stop : Nat) : String :=
  String.ofList (takeBytes (stop - start) (dropBytes start source.toList))

namespace ParseError

/-- A failure at an offset of a text. Lines count from one, and columns too. -/
def ofOffset (source : String) (offset : Nat) (fault : ParseFault) (atEnd : Bool) : ParseError :=
  let before := takeBytes offset source.toList
  { fault
    offset
    line := before.count '\n' + 1
    column := (before.reverse.takeWhile (· != '\n')).length + 1
    atEnd }

def message (e : ParseError) : String := e.fault.message

/-- The message with the place. -/
def text (e : ParseError) : String :=
  e.message ++ " (line " ++ toString e.line ++ ", column " ++ toString e.column ++ ")"

end ParseError

/-- A place between the tokens of a text. -/
structure Cursor where
  source : String
  /-- Where the token before ends. -/
  before : Nat
  rest : List Token

abbrev Parser := StateT Cursor (Except ParseError)

namespace Cursor

def offset (c : Cursor) : Nat := (c.rest.head?.map Token.start).getD c.source.utf8ByteSize

def fail (c : Cursor) (f : ParseFault) : ParseError := .ofOffset c.source c.offset f c.rest.isEmpty

/-- The lexeme some tokens ahead. -/
def lexeme? (c : Cursor) (ahead : Nat) : Option Lexeme := (c.rest[ahead]?).map Token.lexeme

def advance (c : Cursor) : Cursor :=
  match c.rest with
  | [] => c
  | t :: ts => { c with before := t.stop, rest := ts }

end Cursor

namespace Lexeme

/-- Whether a lexeme is a word, in any case of letters. -/
def isKeyword (keyword : String) : Lexeme → Bool
  | word s => Text.asciiUpper s == Text.asciiUpper keyword
  | _ => false

def name? : Lexeme → Option String
  | word s | quoted s => some s
  | _ => none

/-- Words that start or join clauses, which are no variables unless they are quoted. -/
def reserved : List String :=
  ["MATCH", "OPTIONAL", "WHERE", "RETURN", "WITH", "UNWIND", "CREATE", "MERGE", "SET", "REMOVE",
    "DELETE", "DETACH", "FOREACH", "CALL", "UNION", "ORDER", "SKIP", "LIMIT", "AS", "YIELD",
    "THEN", "END"]

def isReserved (l : Lexeme) : Bool := reserved.any l.isKeyword

end Lexeme

namespace Grammar

def fail {α : Type} (f : ParseFault) : Parser α := do throw ((← get).fail f)

def unexpected {α : Type} (e : Expected) : Parser α := do fail (.unexpected ((← get).lexeme? 0) e)

/-! ### Looking ahead -/

def isEnd : Parser Bool := return (← get).rest.isEmpty

def isAt (ahead : Nat) (p : Lexeme → Bool) : Parser Bool := return ((← get).lexeme? ahead).any p

def isSymbol (s : Symbol) (ahead : Nat := 0) : Parser Bool := isAt ahead (· == .symbol s)

def isKeyword (w : String) (ahead : Nat := 0) : Parser Bool := isAt ahead (·.isKeyword w)

def isName (ahead : Nat := 0) : Parser Bool := isAt ahead (·.name?.isSome)

/-! ### Taking tokens -/

def skip (n : Nat := 1) : Parser Unit := modify fun c => n.repeat Cursor.advance c

/-- Takes the next token if it is as asked for. -/
def eatIf (test : Parser Bool) : Parser Bool := do
  if ← test then
    skip
    return true
  else return false

def eatSymbol (s : Symbol) : Parser Bool := eatIf (isSymbol s)

def eatKeyword (w : String) : Parser Bool := eatIf (isKeyword w)

def symbol (s : Symbol) : Parser Unit := do
  unless ← eatSymbol s do unexpected (.symbol s)

def keyword (w : String) : Parser Unit := do
  unless ← eatKeyword w do unexpected (.keyword w)

/-- A name of any kind: a label, a type, a property key, a procedure. -/
def name (what : String) : Parser String := do
  match ((← get).lexeme? 0).bind Lexeme.name? with
  | some s =>
    skip
    return s
  | none => unexpected (.item what)

/-- The name of a variable. -/
def variableName : Parser String := do
  if ← isAt 0 Lexeme.isReserved then unexpected (.item "a variable name")
  else name "a variable name"

/-! ### Repetition -/

/-- Takes steps until one has nothing to give, as many as `fuel`. -/
def steps {α : Type} (step : α → Parser (Option α)) : Nat → α → Parser α
  | 0, a => return a
  | fuel + 1, a => do
    match ← step a with
    | some b => steps step fuel b
    | none => return a

/-- Takes steps until one has nothing to give. A step that gives something takes a token. -/
def iterate {α : Type} (step : α → Parser (Option α)) (a : α) : Parser α := do
  steps step ((← get).rest.length + 1) a

/-- Items as long as a test holds. -/
def manyWhile {α : Type} (test : Parser Bool) (item : Parser α) : Parser (List α) :=
  List.reverse <$> iterate (fun xs => do
    if ← test then return some ((← item) :: xs) else return none) []

/-- At least one item, with commas between them. -/
def sepBy {α : Type} (item : Parser α) : Parser (List α) := do
  let first ← item
  return first :: (← manyWhile (eatSymbol .comma) item)

/-- Items with commas between them, up to a closing symbol. -/
def listUntil {α : Type} (close : Symbol) (item : Parser α) : Parser (List α) := do
  if ← eatSymbol close then return []
  else
    let items ← sepBy item
    symbol close
    return items

/-- Operands with operators between them, which group to the left. -/
def chainLeft {α : Type} (operator : Parser (Option (α → α → α))) (operand : Parser α) :
    Parser α := do
  iterate (fun left => do
    match ← operator with
    | some f => return some (f left (← operand))
    | none => return none) (← operand)

/-- An item after a keyword, if that is there. -/
def afterKeyword? {α : Type} (w : String) (item : Parser α) : Parser (Option α) := do
  if ← eatKeyword w then some <$> item else return none

/-- Names with dots between them; `more` tells whether a dot is one of those. -/
def dottedName (what : String) (more : Parser Bool) : Parser String := do
  let first ← name what
  let rest ← manyWhile (eatIf more) (name what)
  return ".".intercalate (first :: rest)

end Grammar

end Cypher

end PropertyGraph
