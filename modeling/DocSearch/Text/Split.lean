/-!
# Splitting texts

`splitAt` cuts a list of characters at every separator, and `lines` a text at its line breaks.
-/

namespace DocSearch.Text

/-- The parts between separators, where `part` holds the characters read since the last separator,
the latest first. -/
def splitFrom (separator : Char) (part : List Char) : List Char → List (List Char)
  | [] => [part.reverse]
  | c :: rest =>
    if c = separator then part.reverse :: splitFrom separator [] rest
    else splitFrom separator (c :: part) rest

/-- The parts between separators, of which there is at least one. -/
def splitAt (separator : Char) (cs : List Char) : List (List Char) := splitFrom separator [] cs

/-- A list of characters without a carriage return at its end. -/
def dropReturn (cs : List Char) : List Char :=
  if cs.getLast? = some '\r' then cs.dropLast else cs

/-- The lines of a text that a line feed is to end; a carriage return before a line feed belongs to
the line break. -/
def lines (s : String) : List String :=
  (splitAt '\n' s.toList).map fun cs => String.ofList (dropReturn cs)

end DocSearch.Text
