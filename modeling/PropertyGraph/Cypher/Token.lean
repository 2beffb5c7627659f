import PropertyGraph.Number.Text

/-!
# Tokens

The words of query text with their places in it. Keywords are words like any other.
-/

namespace PropertyGraph

namespace Cypher

inductive Symbol
  | regexMatch
  | notEquals
  | bangEquals
  | lessEquals
  | greaterEquals
  | plusEquals
  | dots
  | leftParen
  | rightParen
  | leftBracket
  | rightBracket
  | leftBrace
  | rightBrace
  | comma
  | colon
  | semicolon
  | dot
  | bar
  | equals
  | less
  | greater
  | plus
  | minus
  | star
  | slash
  | percent
  | caret
deriving DecidableEq

namespace Symbol

/-- All symbols, the longer before the shorter ones that begin them. -/
def all : List Symbol :=
  [regexMatch, notEquals, bangEquals, lessEquals, greaterEquals, plusEquals, dots, leftParen,
    rightParen, leftBracket, rightBracket, leftBrace, rightBrace, comma, colon, semicolon, dot,
    bar, equals, less, greater, plus, minus, star, slash, percent, caret]

def chars : Symbol → List Char
  | regexMatch => ['=', '~']
  | notEquals => ['<', '>']
  | bangEquals => ['!', '=']
  | lessEquals => ['<', '=']
  | greaterEquals => ['>', '=']
  | plusEquals => ['+', '=']
  | dots => ['.', '.']
  | leftParen => ['(']
  | rightParen => [')']
  | leftBracket => ['[']
  | rightBracket => [']']
  | leftBrace => ['\x7b']
  | rightBrace => ['\x7d']
  | comma => [',']
  | colon => [':']
  | semicolon => [';']
  | dot => ['.']
  | bar => ['|']
  | equals => ['=']
  | less => ['<']
  | greater => ['>']
  | plus => ['+']
  | minus => ['-']
  | star => ['*']
  | slash => ['/']
  | percent => ['%']
  | caret => ['^']

def text (s : Symbol) : String := String.ofList s.chars

end Symbol

/-- What a token is. -/
inductive Lexeme
  | word (name : String)
  /-- A name in backticks, which is never a keyword. -/
  | quoted (name : String)
  | string (value : String)
  | number (value : Number)
  | parameter (name : String)
  | symbol (s : Symbol)
deriving DecidableEq

namespace Lexeme

/-- The lexeme as messages name it. -/
def describe : Lexeme → String
  | word s => "'" ++ s ++ "'"
  | quoted s => "`" ++ s ++ "`"
  | string s => "string \"" ++ s ++ "\""
  | number n => "number " ++ n.text
  | parameter s => "parameter $" ++ s
  | symbol s => "'" ++ s.text ++ "'"

end Lexeme

/-- A lexeme and the bytes of the source that it takes up. -/
structure Token where
  lexeme : Lexeme
  start : Nat
  stop : Nat
deriving DecidableEq

end Cypher

end PropertyGraph
