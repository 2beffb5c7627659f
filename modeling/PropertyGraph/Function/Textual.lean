import PropertyGraph.Function
import PropertyGraph.Text.Letter
import PropertyGraph.Text.Search

/-!
# Functions on strings

Positions and lengths count characters.
-/

namespace PropertyGraph

namespace Function

def ofString (f : String → String) (c : Call) : Answer :=
  c.unlessNull ((fun s => .str (f s)) <$> c.string 0)

def replace (c : Call) : Answer := c.unlessNull do
  let text ← c.string 0
  let search ← c.string 1
  return .str (Text.replace text search (← c.string 2))

def substring (c : Call) : Answer := c.unlessNull do
  let text ← c.string 0
  let rest := text.toList.drop (← c.natural 1)
  if 2 < c.args.length then return .str (String.ofList (rest.take (← c.natural 2)))
  else return .str (String.ofList rest)

def left (c : Call) : Answer := c.unlessNull do
  let text ← c.string 0
  return .str (String.ofList (text.toList.take (← c.natural 1)))

def right (c : Call) : Answer := c.unlessNull do
  let text ← c.string 0
  return .str (String.ofList (text.toList.drop (text.length - (← c.natural 1))))

/-- The pieces of a string between delimiters; an empty delimiter stands between all
characters. -/
def split (c : Call) : Answer := c.unlessNull do
  let text ← c.string 0
  let delimiter ← c.string 1
  let pieces :=
    if delimiter.isEmpty then text.toList.map String.singleton else Text.split text delimiter
  return .list (pieces.map .str)

def reverse (c : Call) : Answer :=
  match c.arg 0 with
  | .null => .ok .null
  | .str s => .ok (.str (String.ofList s.toList.reverse))
  | .list xs => .ok (.list xs.reverse)
  | v => c.fail "String or List" v

def toText (c : Call) : Answer :=
  match c.arg 0 with
  | .null => .ok .null
  | .str s => .ok (.str s)
  | .num n => .ok (.str n.text)
  | .bool b => .ok (.str (if b then "true" else "false"))
  | v => .error (.notConvertible c.name v.typeName "String")

def textFunctions : List Function := [
  unary "toUpper" "Upper-cases a string. toUpper(text)" "String" (ofString Text.toUpper),
  unary "toLower" "Lower-cases a string. toLower(text)" "String" (ofString Text.toLower),
  unary "trim" "Removes leading and trailing whitespace. trim(text)" "String"
    (ofString Text.trim),
  unary "ltrim" "Removes leading whitespace. ltrim(text)" "String" (ofString Text.trimStart),
  unary "rtrim" "Removes trailing whitespace. rtrim(text)" "String" (ofString Text.trimEnd),
  ⟨"replace", "Replaces every occurrence of search. replace(text, search, replacement)", 3, some 3,
    "String", replace⟩,
  ⟨"substring", "Characters from start, optionally limited. substring(text, start[, length])", 2,
    some 3, "String", substring⟩,
  ⟨"left", "Leftmost characters. left(text, length)", 2, some 2, "String", left⟩,
  ⟨"right", "Rightmost characters. right(text, length)", 2, some 2, "String", right⟩,
  ⟨"split", "Splits a string on a delimiter. split(text, delimiter)", 2, some 2, "List", split⟩,
  unary "reverse" "Reverses a string or a list. reverse(value)" "Any" reverse,
  unary "toString" "Converts a scalar to its string form. toString(value)" "String" toText]

end Function

end PropertyGraph
