import DocSearch.Text.Split

/-!
# Fields

A field of a document is named by a path, whose segments are separated by dots.  `Field.isDirect`
tells the fields of the document itself from those of the objects inside it.
-/

namespace DocSearch

/-- A field of a document, named by its path. -/
structure Field where
  name : String
deriving DecidableEq, Repr

namespace Field

/-- The segments of the path, of which there is at least one. -/
def segments (f : Field) : List String := (Text.splitAt '.' f.name.toList).map String.ofList

/-- A field is direct when its path is a single segment that is not empty. -/
def isDirect (f : Field) : Bool := !f.name.isEmpty && !f.name.toList.contains '.'

end Field

end DocSearch
