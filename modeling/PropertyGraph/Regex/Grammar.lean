import PropertyGraph.Regex

/-!
# Grammar of regular expressions

A text is read from the left, with the flags that hold so far. A flag that is set inside of a
group holds up to the end of the group. What is read comes with its height as a tree, which is
limited, as is its size.
-/

namespace PropertyGraph

namespace Regex

namespace Grammar

structure Flags where
  caseless : Bool := false
  multiLine : Bool := false
  dotAll : Bool := false
  unicode : Bool := true
  crlf : Bool := false
  /-- Whether blanks and comments are skipped. -/
  verbose : Bool := false

structure Cursor where
  rest : List Char
  flags : Flags := {}
  /-- The names of the groups so far. -/
  names : List String := []

/-- A parser fails without saying why. -/
abbrev Parser := StateT Cursor Option

/-- An expression, with the height of the tree that it is written as. -/
structure Tree where
  regex : Regex
  height : Nat

/-- What stands in a sequence: an expression, or a setting of flags. -/
inductive Item
  | tree (t : Tree)
  | setting

/-! ### Characters -/

/-- Drops blanks and comments; `comment` tells whether one is open. -/
def dropBlanks : Bool → List Char → List Char
  | _, [] => []
  | true, c :: cs => dropBlanks (c != '\n') cs
  | false, c :: cs =>
    if Text.isBlank c then dropBlanks false cs
    else if c == '#' then dropBlanks true cs
    else c :: cs

def skipBlanks : Parser Unit := modify fun s =>
  if s.flags.verbose then { s with rest := dropBlanks false s.rest } else s

def peek? : Parser (Option Char) := return (← get).rest.head?

/-- The next character, which must be there. -/
def peek : Parser Char := do ((← get).rest.head? : Option Char)

/-- Takes so many characters. -/
def drop (n : Nat) : Parser Unit := modify fun s => { s with rest := s.rest.drop n }

/-- Takes a character and the blanks after it. -/
def advance : Parser Unit := do
  drop 1
  skipBlanks

/-- Takes some characters if they come next. -/
def eat (word : String) : Parser Bool := do
  let cs := word.toList
  if cs.isPrefixOf (← get).rest then
    drop cs.length
    return true
  else return false

def require (condition : Bool) : Parser Unit := if condition then return () else failure

/-- The characters up to one where `p` fails. In verbose mode, the blanks after each of them are
skipped. -/
def takeWhile (p : Char → Bool) : Parser (List Char) := do
  go p (← get).rest.length
where
  go (p : Char → Bool) : Nat → Parser (List Char)
    | 0 => return []
    | n + 1 => do
      match ← peek? with
      | some c =>
        if p c then
          advance
          return c :: (← go p n)
        else return []
      | none => return []

/-! ### Escapes -/

/-- What an escape or a plain character is. -/
inductive Atom
  /-- A character; `byte` if it is written as two hexadecimal digits. -/
  | literal (c : Char) (byte : Bool)
  | set (s : CharSet)
  | look (l : Look)

def hexValue (ds : List Char) : Nat :=
  ds.foldl (fun n c =>
    16 * n + if c.isDigit then c.toNat - 0x30 else c.toLower.toNat - 0x57) 0

/-- The character of a number, if it has one. -/
def charOf (n : Nat) : Parser Char :=
  if n < 0xD800 || (0xDFFF < n && n < 0x110000) then return Char.ofNat n else failure

/-- So many hexadecimal digits. -/
def hexDigits : Nat → Parser (List Char)
  | 0 => return []
  | n + 1 => do
    let c ← peek
    require (Text.isAsciiHex c)
    advance
    return c :: (← hexDigits n)

/-- A character by its number, in braces or with a fixed count of digits. -/
def hexEscape (count : Nat) : Parser Atom := do
  if (← peek) == '\x7b' then
    advance
    let ds ← takeWhile (· != '\x7d')
    require ((← peek?).isSome && !ds.isEmpty && ds.all Text.isAsciiHex)
    advance
    return .literal (← charOf (hexValue ds)) false
  else
    return .literal (← charOf (hexValue (← hexDigits count))) (count == 2)

/-- A set in the light of the flags: first case is ignored, then the set is negated. -/
def finishSet (negated : Bool) (s : CharSet) : Parser CharSet := do
  let f := (← get).flags
  let s := if !f.caseless then s else if f.unicode then s.caseless else s.asciiCaseless
  require (f.unicode || !negated)
  return s.negateIf negated

/-- The part of a list before a separator, and the part after it. -/
def splitAt? (separator : List Char) : List Char → Option (List Char × List Char)
  | [] => none
  | c :: cs =>
    if separator.isPrefixOf (c :: cs) then some ([], (c :: cs).drop separator.length)
    else (splitAt? separator cs).map fun p => (c :: p.1, p.2)

/-- The set of a property: a name, or a pair. -/
def propertySet? (text : List Char) : Option CharSet :=
  match (splitAt? ['!', '='] text).or ((splitAt? [':'] text).or (splitAt? ['='] text)) with
  | some (key, value) => CharSet.ofPair? key value
  | none => CharSet.ofName? text

/-- A set of characters by a property, which is named by a letter or in braces. -/
def propertyEscape (negated : Bool) : Parser Atom := do
  let c ← peek
  require (c != '\\')
  advance
  let text ← if c == '\x7b' then do
      let text ← takeWhile (· != '\x7d')
      require (← peek?).isSome
      drop 1
      pure text
    else pure [c]
  require (← get).flags.unicode
  return .set (← finishSet negated (← propertySet? text))

/-- Digits, blanks and word characters, and what is none of them. -/
def namedSet? (unicode : Bool) (c : Char) : Option CharSet :=
  match c with
  | 'd' | 'D' => some (.digit unicode)
  | 's' | 'S' => some (.blank unicode)
  | 'w' | 'W' => some (.word unicode)
  | _ => none

def control? (c : Char) : Option Char :=
  match c with
  | 'a' => some '\x07'
  | 'f' => some '\x0c'
  | 't' => some '\t'
  | 'n' => some '\n'
  | 'r' => some '\r'
  | 'v' => some '\x0b'
  | _ => none

def edge? (name : String) : Option WordEdge :=
  match name with
  | "start" => some .start
  | "end" => some .stop
  | "start-half" => some .startHalf
  | "end-half" => some .stopHalf
  | _ => none

/-- A word edge after `\b`: a name in braces says which. Braces with anything but a name are a
repetition, and not taken. -/
def edge : Parser WordEdge := do
  if (← peek?) != some '\x7b' then return .boundary
  let before ← get
  advance
  let isNameChar (c : Char) := c.isAlpha || c == '-'
  if isNameChar (← peek) then
    let name ← takeWhile isNameChar
    require ((← peek?) == some '\x7d')
    drop 1
    edge? (String.ofList name)
  else
    set before
    return .boundary

/-- A condition on a place, by its letter. -/
def lookEscape? (c : Char) : Option (Parser Look) :=
  let word (e : WordEdge) : Parser Look := return .word e (← get).flags.unicode
  match c with
  | 'A' => some (return .textStart)
  | 'z' => some (return .textEnd)
  | 'b' => some (do word (← edge))
  | 'B' => some (word .interior)
  | '<' => some (word .start)
  | '>' => some (word .stop)
  | _ => none

/-- What follows a backslash. -/
def escape : Parser Atom := do
  let c ← peek
  let f := (← get).flags
  match c with
  | 'x' => advance; hexEscape 2
  | 'u' => advance; hexEscape 4
  | 'U' => advance; hexEscape 8
  | 'p' => advance; propertyEscape false
  | 'P' => advance; propertyEscape true
  | c =>
    drop 1
    if let some s := namedSet? f.unicode c then
      require (f.unicode || !c.isUpper)
      return .set (s.negateIf c.isUpper)
    if let some d := control? c then return .literal d false
    if let some condition := lookEscape? c then return .look (← condition)
    require (c.toNat < 128 && !c.isAlphanum)
    return .literal c false

/-- A character as a member of a set; without Unicode only ASCII is allowed. -/
def member (c : Char) : Parser Char := do
  require ((← get).flags.unicode || decide (c.toNat < 128))
  return c

/-! ### Sets in brackets -/

/-- A set in brackets as it is read, with the height of its tree. -/
structure Members where
  set : CharSet
  height : Nat

/-- All members of a list, which is in reverse order. -/
def Members.all : List Members → Members
  | [] => ⟨.empty, 0⟩
  | [m] => m
  | ms => ⟨.unions (ms.reverse.map Members.set), 1 + (ms.map Members.height).foldl max 0⟩

def Members.plain (s : CharSet) : Members := ⟨s, 0⟩

inductive SetOp
  | inter
  | diff
  | symmDiff

def SetOp.apply : SetOp → CharSet → CharSet → CharSet
  | inter => .inter
  | diff => .diff
  | symmDiff => .symmDiff

/-- Applies the operator that waits, if there is one. Its operands ignore case if they should. -/
def applyWaiting (waiting : Option (Members × SetOp)) (right : Members) : Parser Members := do
  match waiting with
  | none => return right
  | some (left, op) =>
    return ⟨op.apply (← finishSet false left.set) (← finishSet false right.set),
      1 + max left.height right.height⟩

/-- An operator between sets, if one comes next. -/
def setOp? : Parser (Option SetOp) := do
  if ← eat "&&" then return some .inter
  else if ← eat "--" then return some .diff
  else if ← eat "~~" then return some .symmDiff
  else return none

/-- An ASCII set between colons, if one comes next; otherwise nothing is taken. -/
def posixSet? : Parser (Option CharSet) := do
  let before ← get
  if !(← eat "[:") then return none
  let negated ← eat "^"
  let name := (← get).rest.takeWhile (· != ':')
  drop name.length
  let closed ← eat ":]"
  match CharSet.posix? (String.ofList name) with
  | some s => if closed then return some (← finishSet negated s)
  | none => pure ()
  set before
  return none

/-- A single character or an escape inside of brackets. -/
def bracketAtom : Parser Atom := do
  let c ← peek
  drop 1
  if c == '\\' then escape else return .literal c false

/-- The end of a range, which has to be a character. -/
def rangeEnd : Atom → Parser Char
  | .literal c _ => member c
  | _ => failure

/-- The next character that is neither blank nor starts a comment. -/
def afterBlanks? : Bool → List Char → Option Char
  | _, [] => none
  | comment, c :: cs =>
    if Text.isBlank c then afterBlanks? comment cs
    else if !comment && c == '#' then afterBlanks? true cs
    else some c

/-- Whether a hyphen comes next that makes a range. -/
def startsRange : Parser Bool := do
  let s ← get
  match s.rest with
  | '-' :: cs =>
    let next := if s.flags.verbose then afterBlanks? false cs else cs.head?
    return next != some ']' && next != some '-'
  | _ => return false

/-- A character, a range, or an escape that stands for a set. -/
def bracketMember : Parser CharSet := do
  let first ← bracketAtom
  skipBlanks
  require (← peek?).isSome
  if ← startsRange then
    advance
    let last ← bracketAtom
    let a ← rangeEnd first
    let b ← rangeEnd last
    require (a ≤ b)
    return .range a b
  else
    match first with
    | .literal c _ => return .single (← member c)
    | .set s => return s
    | .look _ => failure

/-- Hyphens after the opening bracket, which stand for themselves. -/
def leadingHyphens : Nat → Parser (List Members)
  | 0 => return []
  | n + 1 => do
    if (← peek) == '-' then
      advance
      return .plain (.single '-') :: (← leadingHyphens n)
    else return []

/-- What follows an opening bracket before the members: whether the set is negated, and the
characters that stand for themselves there. -/
def bracketStart : Parser (Bool × List Members) := do
  let negated := (← peek) == '^'
  if negated then advance
  let hyphens ← leadingHyphens (← get).rest.length
  if hyphens.isEmpty && (← peek) == ']' then
    advance
    return (negated, [.plain (.single ']')])
  else return (negated, hyphens)

/-- A set in brackets; the opening one is taken before. -/
def bracket : Nat → Parser Members
  | 0 => failure
  | fuel + 1 => do
    let (negated, start) ← bracketStart
    let m ← members fuel fuel none start
    return ⟨← finishSet negated m.set, 1 + m.height⟩
where
  /-- The members up to the closing bracket, with those seen before and the operator that waits
  for its right side. -/
  members (fuel : Nat) : Nat → Option (Members × SetOp) → List Members → Parser Members
    | 0, _, _ => failure
    | n + 1, waiting, seen => do
      skipBlanks
      match ← peek with
      | ']' =>
        drop 1
        applyWaiting waiting (Members.all seen)
      | '[' =>
        match ← posixSet? with
        | some s => members fuel n waiting (.plain s :: seen)
        | none =>
          advance
          let inner ← bracket fuel
          members fuel n waiting (inner :: seen)
      | _ =>
        match ← setOp? with
        | some op =>
          let left ← applyWaiting waiting (Members.all seen)
          members fuel n (some (left, op)) []
        | none => members fuel n waiting (.plain (← bracketMember) :: seen)

/-! ### Groups -/

def isNameStart (c : Char) : Bool := c == '_' || Text.isAlphabetic c

def isNamePart (c : Char) : Bool :=
  c == '_' || c == '.' || c == '[' || c == ']' || Text.isAlphanumeric c

/-- The name of a group up to its closing angle; no two groups have one name. -/
def groupName : Parser Unit := do
  let name := (← get).rest.takeWhile (· != '>')
  drop name.length
  require (← eat ">")
  let text := String.ofList name
  require (name.head?.any isNameStart && name.tail.all isNamePart)
  require (!(← get).names.contains text)
  modify fun s => { s with names := text :: s.names }

def setFlag (c : Char) (on : Bool) (f : Flags) : Flags :=
  match c with
  | 'i' => { f with caseless := on }
  | 'm' => { f with multiLine := on }
  | 's' => { f with dotAll := on }
  | 'u' => { f with unicode := on }
  | 'R' => { f with crlf := on }
  | 'x' => { f with verbose := on }
  | _ => f

/-- The flags with changes such as `i-s`. None may be given twice, nor a sign without flags
after it. -/
def changedFlags (changes : List Char) (f : Flags) : Option Flags :=
  let (on, off) := changes.span (· != '-')
  let allowed (c : Char) := ['i', 'm', 's', 'U', 'u', 'R', 'x'].contains c
  let listed := on ++ off.drop 1
  if listed.all allowed && listed.eraseDups.length == listed.length && off != ['-'] then
    let f := on.foldl (fun f c => setFlag c true f) f
    some ((off.drop 1).foldl (fun f c => setFlag c false f) f)
  else none

/-- What a parenthesis opens. -/
inductive Opening
  /-- A group with its own flags. -/
  | group (flags : Flags)
  /-- No group, but flags for the rest of the one around it. -/
  | setting (flags : Flags)

/-- What follows an opening parenthesis up to the group's content. -/
def opening : Parser Opening := do
  skipBlanks
  let f := (← get).flags
  let rest := (← get).rest
  require (["?=", "?!", "?<=", "?<!"].all fun w => !w.toList.isPrefixOf rest)
  if ← eat "?P<" then
    groupName
    return .group f
  else if ← eat "?<" then
    groupName
    return .group f
  else if ← eat "?" then
    let changes := (← get).rest.takeWhile fun c => c != ':' && c != ')'
    drop changes.length
    let inner ← changedFlags changes f
    if ← eat ":" then return .group inner
    else
      require (← eat ")")
      require (!changes.isEmpty)
      return .setting inner
  else return .group f

/-! ### Repetition -/

/-- A count below 2^32, with blanks around it. -/
def count? : Parser (Option Nat) := do
  modify fun s => { s with rest := s.rest.dropWhile Text.isBlank }
  let ds ← takeWhile Char.isDigit
  let _ ← takeWhile Text.isBlank
  if ds.isEmpty then return none
  let n := ds.foldl (fun n c => 10 * n + (c.toNat - '0'.toNat)) 0
  require (n ≤ 0xFFFFFFFF)
  return some n

/-- The bounds in braces; the opening one is taken before. -/
def bounds : Parser (Nat × Option Nat) := do
  require (← peek?).isSome
  let least ← count?
  let range ← if (← peek) == ',' then do
      advance
      if (← peek) == '\x7d' then pure (← least, none)
      else
        let least ← least
        pure (least, some (← (← count?)))
    else do
      let least ← least
      pure (least, some least)
  require ((← peek) == '\x7d')
  require (range.2.all (range.1 ≤ ·))
  return range

/-- The bounds of a repetition sign, if one comes next; a question mark after it is taken, too. -/
def repetition? : Parser (Option (Nat × Option Nat)) := do
  let sign (r : Nat × Option Nat) : Parser (Option (Nat × Option Nat)) := do
    drop 1
    let _ ← eat "?"
    return some r
  match ← peek? with
  | some '?' => sign (0, some 1)
  | some '*' => sign (0, none)
  | some '+' => sign (1, none)
  | some '\x7b' =>
    advance
    let r ← bounds
    advance
    let _ ← eat "?"
    return some r
  | _ => return none

/-! ### Expressions -/

def Tree.leaf (r : Regex) : Tree := ⟨r, 0⟩

def Item.treeOf : Item → Tree
  | .tree t => t
  | .setting => .leaf .empty

/-- A sequence of items, which are in reverse order. -/
def sequence : List Item → Tree
  | [] => .leaf .empty
  | [i] => i.treeOf
  | is =>
    let ts := is.map Item.treeOf
    ⟨ts.foldl (fun r t => .seq t.regex r) .empty, 1 + (ts.map Tree.height).foldl max 0⟩

/-- Alternatives, which are in reverse order. -/
def alternatives : List Tree → Tree
  | [] => .leaf .empty
  | [t] => t
  | t :: ts =>
    ⟨ts.foldl (fun r u => .alt u.regex r) t.regex,
      1 + ((t :: ts).map Tree.height).foldl max 0⟩

/-- A character or an escape as an expression. -/
def atomTree : Atom → Parser Tree
  | .literal c byte => do
    let f := (← get).flags
    require (f.unicode || !byte || decide (c.toNat < 128))
    return .leaf (.char (← finishSet false (.single c)))
  | .set s => return .leaf (.char s)
  | .look l => return .leaf (.look l)

/-- A character that is neither a group, a bracket nor a sign between expressions. -/
def primitive : Parser Tree := do
  let f := (← get).flags
  let c ← peek
  drop 1
  match c with
  | '\\' => atomTree (← escape)
  | '.' =>
    require f.unicode
    return .leaf (.char (.dot f.dotAll f.crlf))
  | '^' => return .leaf (.look (if f.multiLine then .lineStart f.crlf else .textStart))
  | '$' => return .leaf (.look (if f.multiLine then .lineEnd f.crlf else .textEnd))
  | c => atomTree (.literal c false)

mutual

/-- Alternatives up to a closing parenthesis or the end. `done` holds those before the items. -/
def expression : Nat → List Tree → List Item → Parser Tree
  | 0, _, _ => failure
  | fuel + 1, done, items => do
    skipBlanks
    match ← peek? with
    | none | some ')' => return alternatives (sequence items :: done)
    | some '|' =>
      drop 1
      expression fuel (sequence items :: done) []
    | some '(' =>
      drop 1
      let item ← group fuel
      expression fuel done (item :: items)
    | some '[' =>
      advance
      let m ← bracket (← get).rest.length.succ
      expression fuel done (.tree ⟨.char m.set, m.height⟩ :: items)
    | some _ =>
      match ← repetition? with
      | none => expression fuel done (.tree (← primitive) :: items)
      | some (least, most) =>
        match items with
        | .tree t :: items =>
          expression fuel done (.tree ⟨.repeated t.regex least most, 1 + t.height⟩ :: items)
        | _ => failure

/-- A group or a setting of flags; the opening parenthesis is taken before. -/
def group : Nat → Parser Item
  | 0 => failure
  | fuel + 1 => do
    let outer := (← get).flags
    match ← opening with
    | .setting flags =>
      modify fun s => { s with flags }
      return .setting
    | .group flags =>
      modify fun s => { s with flags }
      let t ← expression fuel [] []
      require (← eat ")")
      modify fun s => { s with flags := outer }
      return .tree { t with height := 1 + t.height }

end

end Grammar

/-- The greatest height of an expression. -/
def maxHeight : Nat := 250

/-- The greatest cost of an expression. -/
def maxCost : Nat := 10 * 0x100000

open Grammar in
/-- Reads an expression that takes up a whole text. -/
def read? (text : String) : Option Regex := do
  let cs := text.toList
  let (t, s) ← (expression (2 * cs.length + 2) [] []).run { rest := cs }
  if s.rest.isEmpty && t.height ≤ maxHeight && t.regex.cost ≤ maxCost then some t.regex
  else none

/-- The expression for matches of the whole text: the pattern as it is written between signs
for both ends. -/
def ofPattern? (pattern : String) : Option Regex := read? ("^(?:" ++ pattern ++ ")$")

end Regex

end PropertyGraph
