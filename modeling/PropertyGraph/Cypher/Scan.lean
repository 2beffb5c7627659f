import PropertyGraph.Cypher.Token
import PropertyGraph.Text.Letter

/-!
# Cutting text into tokens

Each scanner splits the characters it takes off the front, so that text and rest together
are the input. Blanks and comments between tokens are dropped.
-/

namespace PropertyGraph

namespace Cypher

/-- Length in the bytes of UTF-8. -/
def byteLength (cs : List Char) : Nat := cs.foldr (fun c n => c.utf8Size + n) 0

/-! ### Blanks and comments -/

def isSpace (c : Char) : Bool := c == ' ' || c == '\t' || c == '\r' || c == '\n'

/-- Splits after the first `*/`. -/
def splitAfterClose? : List Char → Option (List Char × List Char)
  | '*' :: '/' :: rest => some (['*', '/'], rest)
  | c :: rest => (splitAfterClose? rest).map fun r => (c :: r.1, r.2)
  | [] => none

/-- A comment to the end of the line. A carriage return ends a line only before a line feed;
a line that ends otherwise is no comment. -/
def lineComment? : List Char → Option (List Char × List Char)
  | '/' :: '/' :: cs =>
    let (body, rest) := cs.span fun c => c != '\n' && c != '\r'
    match rest with
    | '\r' :: '\n' :: _ | '\n' :: _ | [] => some ('/' :: '/' :: body, rest)
    | _ => none
  | _ => none

def blockComment? : List Char → Option (List Char × List Char)
  | '/' :: '*' :: cs => (splitAfterClose? cs).map fun r => ('/' :: '*' :: r.1, r.2)
  | _ => none

/-- A run of blanks, or one comment. -/
def trivia? (cs : List Char) : Option (List Char × List Char) :=
  match cs.span isSpace with
  | ([], _) => lineComment? cs <|> blockComment? cs
  | r => some r

/-- Drops blanks and comments in front, at most as many as `fuel`, and moves the offset along. -/
def skipTrivia : Nat → Nat → List Char → Nat × List Char
  | 0, offset, cs => (offset, cs)
  | fuel + 1, offset, cs =>
    match trivia? cs with
    | some (text, rest) => skipTrivia fuel (offset + byteLength text) rest
    | none => (offset, cs)

/-! ### Single tokens -/

/-- A lexeme, the text that it was read from, and what follows. -/
structure Scanned where
  lexeme : Lexeme
  text : List Char
  rest : List Char

/-- The characters of an exponent in front, or none. -/
def exponentText (cs : List Char) : List Char :=
  match Number.exponentPart? cs with
  | some (_, rest) => cs.take (cs.length - rest.length)
  | none => []

/-- A number: digits, a point if digits follow it, and an exponent. -/
def number? (cs : List Char) : Option Scanned :=
  match Number.spanDigits cs with
  | ([], _) => none
  | (whole, rest) =>
    let (fraction, rest) :=
      match rest with
      | '.' :: more =>
        match Number.spanDigits more with
        | ([], _) => ([], rest)
        | r => r
      | _ => ([], rest)
    let point := if fraction.isEmpty then [] else ['.']
    let (exponent, after) := (Number.exponentPart? rest).getD (0, rest)
    some
      { lexeme := .number (.ofParts false whole fraction exponent)
        text := whole ++ point ++ fraction ++ exponentText rest
        rest := after }

/-- The characters that an escape stands for; an escape without a meaning stands for itself,
so that the classes of regular expressions need no second backslash. -/
def unescape (c : Char) : List Char :=
  match c with
  | 'n' => ['\n']
  | 't' => ['\t']
  | 'r' => ['\r']
  | 'b' => ['\x08']
  | 'f' => ['\x0c']
  | '\\' | '\'' | '"' => [c]
  | c => ['\\', c]

/-- The body of a string up to its quote: the value, the text with the quote, the rest. -/
def stringBody? (quote : Char) : List Char → Option (List Char × List Char × List Char)
  | [] => none
  | c :: cs =>
    if c = quote then some ([], [c], cs)
    else if c = '\\' then
      match cs with
      | [] => none
      | e :: cs => (stringBody? quote cs).map fun r => (unescape e ++ r.1, c :: e :: r.2.1, r.2.2)
    else (stringBody? quote cs).map fun r => (c :: r.1, c :: r.2.1, r.2.2)

def isNameChar (c : Char) : Bool := Text.isAlphanumeric c || c == '_'

/-- A name: letters, digits and underscores, not with an ASCII digit in front. -/
def name? (cs : List Char) : Option (List Char × List Char) :=
  match cs.span isNameChar with
  | ([], _) => none
  | (c :: text, rest) => if Number.isDigit c then none else some (c :: text, rest)

/-- Digits in front. -/
def digits? (cs : List Char) : Option (List Char × List Char) :=
  match Number.spanDigits cs with
  | ([], _) => none
  | r => some r

def parameter? : List Char → Option Scanned
  | '$' :: cs =>
    (name? cs <|> digits? cs).map fun r => ⟨.parameter (String.ofList r.1), '$' :: r.1, r.2⟩
  | _ => none

def quoted? : List Char → Option Scanned
  | '`' :: cs =>
    match cs.span (· != '`') with
    | (text, c :: rest) => some ⟨.quoted (String.ofList text), '`' :: text ++ [c], rest⟩
    | (_, []) => none
  | _ => none

def word? (cs : List Char) : Option Scanned :=
  (name? cs).map fun r => ⟨.word (String.ofList r.1), r.1, r.2⟩

def symbol? (cs : List Char) : Option Scanned :=
  (Symbol.all.find? fun s => s.chars.isPrefixOf cs).map fun s =>
    ⟨.symbol s, s.chars, cs.drop s.chars.length⟩

/-! ### The whole text -/

/-- Why a text cannot be cut into tokens. -/
inductive ScanFault
  | openComment
  | openString
  | badChar (c : Char)
deriving DecidableEq

namespace ScanFault

def message : ScanFault → String
  | openComment => "Unterminated block comment"
  | openString => "Unterminated string literal"
  | badChar c => "Unexpected character '" ++ String.singleton c ++ "'"

/-- Whether the text ended inside of a string or comment. -/
def atEnd : ScanFault → Bool
  | badChar _ => false
  | _ => true

end ScanFault

structure ScanError where
  fault : ScanFault
  offset : Nat
deriving DecidableEq

/-- A string with its quotes, of either kind. -/
def string? : List Char → Option Scanned
  | [] => none
  | q :: cs =>
    if q = '\'' || q = '"' then
      (stringBody? q cs).map fun r => ⟨.string (String.ofList r.1), q :: r.2.1, r.2.2⟩
    else none

/-- The token in front of a text that starts with neither blank nor comment. -/
def scan? (cs : List Char) : Option Scanned :=
  number? cs <|> string? cs <|> parameter? cs <|> quoted? cs <|> word? cs <|> symbol? cs

/-- Why no token starts with a character. -/
def faultAt (c : Char) : ScanFault := if c = '\'' || c = '"' then .openString else .badChar c

/-- The tokens from an offset on. Each takes at least one character. -/
def tokensFrom : Nat → Nat → List Char → Except ScanError (List Token)
  | 0, _, _ => .ok []
  | fuel + 1, offset, cs =>
    match skipTrivia cs.length offset cs with
    | (_, []) => .ok []
    | (start, '/' :: '*' :: _) => .error ⟨.openComment, start⟩
    | (start, c :: cs) =>
      match scan? (c :: cs) with
      | none => .error ⟨faultAt c, start⟩
      | some s => do
        let stop := start + byteLength s.text
        return ⟨s.lexeme, start, stop⟩ :: (← tokensFrom fuel stop s.rest)

/-- The tokens of a text. -/
def tokenize (source : String) : Except ScanError (List Token) :=
  let cs := source.toList
  tokensFrom (cs.length + 1) 0 cs

end Cypher

end PropertyGraph
