import PropertyGraph.Engine
import PropertyGraph.Text.Letter

/-!
# Scripts

A script is a text of lines. Lines are joined to requests: one ends with a line that ends in a
semicolon, or as soon as it is not merely incomplete.
-/

namespace PropertyGraph

open Cypher

namespace Script

def isComment (line : String) : Bool := line.toList.take 2 == ['/', '/']

/-- The parts of a text between its line feeds. -/
def splitLines : List Char → List (List Char)
  | [] => [[]]
  | '\n' :: cs => [] :: splitLines cs
  | c :: cs => (splitLines cs).modifyHead (c :: ·)

/-- The lines of a text without blanks around them, and without those that are empty or a
comment. -/
def lines (text : String) : List String :=
  ((splitLines text.toList).map fun l => Text.trim (String.ofList l)).filter fun l =>
    !l.isEmpty && !isComment l

def endsInSemicolon (line : String) : Bool := line.toList.getLast? == some ';'

/-- Adds a line to those that wait. -/
def join (waiting line : String) : String :=
  if waiting.isEmpty then line else waiting ++ "\n" ++ line

/-- Whether more lines could not mend what a text was parsed to. -/
def isSettled : Except ParseError (List Statement) → Bool
  | .ok _ => true
  | .error e => !e.atEnd

end Script

namespace Engine

/-- Whether the lines that wait make a request now that they end with `line`; asks the cache
if the line does not tell. -/
def completes (line waiting : String) (e : Engine) : Bool × Engine :=
  if Script.endsInSemicolon line then (true, e)
  else
    let (parsed, cache) := e.cache.parse waiting
    (Script.isSettled parsed, { e with cache })

/-- Runs the lines of a script after those that wait. What waits at the end is run as well. -/
def runLines (request : String → Request) : List String → String → Engine → List Response × Engine
  | [], waiting, e =>
    if waiting.isEmpty then ([], e)
    else
      let (r, e) := e.run (request waiting)
      ([r], e)
  | line :: lines, waiting, e =>
    let waiting := Script.join waiting line
    match e.completes line waiting with
    | (true, e) =>
      let (r, e) := e.run (request waiting)
      let (rs, e) := runLines request lines "" e
      (r :: rs, e)
    | (false, e) => runLines request lines waiting e

/-- Runs a script with the parameters and the time of a request for its text. -/
def runScript (r : Request) (e : Engine) : List Response × Engine :=
  runLines (fun text => { r with text }) (Script.lines r.text) "" e

end Engine

end PropertyGraph
