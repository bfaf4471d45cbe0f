import DocSearch.Text.Alphanumeric
import DocSearch.Text.Lowercase

/-!
# Words of a text

The words of a text are its maximal runs of alphanumeric characters; `words` lists them in
lower case, as a full-text search compares them.
-/

namespace DocSearch.Text

/-- The maximal runs of alphanumeric characters, where `run` holds those read last, the latest
first. -/
def runsFrom (run : List Char) : List Char → List (List Char)
  | [] => if run.isEmpty then [] else [run.reverse]
  | c :: rest =>
    if isAlphanumeric c then runsFrom (c :: run) rest
    else if run.isEmpty then runsFrom [] rest
    else run.reverse :: runsFrom [] rest

/-- The words of a text, in lower case. -/
def words (s : String) : List (List Char) := (runsFrom [] s.toList).map (lowerFrom [])

/-- Two texts share a word when a word of one is a word of the other, the case of letters apart. -/
def shareWord (s t : String) : Bool := (words s).any (words t).contains

end DocSearch.Text
