/-!
# Searching in text

Occurrences of one list of characters in another.
-/

namespace PropertyGraph

namespace Text

/-- Whether a text occurs in another. -/
def occursIn (needle : List Char) : List Char → Bool
  | [] => needle.isEmpty
  | c :: cs => needle.isPrefixOf (c :: cs) || occursIn needle cs

/-- The pieces of a text around a separator. `skip` characters in front belong to a separator;
`piece` holds the characters before in reverse. -/
def splitFrom (separator : List Char) : Nat → List Char → List Char → List (List Char)
  | _, piece, [] => [piece.reverse]
  | skip + 1, piece, _ :: cs => splitFrom separator skip piece cs
  | 0, piece, c :: cs =>
    if separator.isPrefixOf (c :: cs) then
      piece.reverse :: splitFrom separator (separator.length - 1) [] cs
    else splitFrom separator 0 (c :: piece) cs

/-- The pieces of a text between the occurrences of a separator, which is not empty. -/
def split (text separator : String) : List String :=
  (splitFrom separator.toList 0 [] text.toList).map String.ofList

/-- Replaces every occurrence of a text; nothing happens for the empty one. -/
def replace (text search replacement : String) : String :=
  if search.isEmpty then text else replacement.intercalate (split text search)

end Text

end PropertyGraph
