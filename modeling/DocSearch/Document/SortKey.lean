import DocSearch.Query.Basic

/-!
# Sort keys

A `SortKey` names the field by which documents are sorted, and the direction.
-/

namespace DocSearch

/-- An order of documents by one field. -/
structure SortKey where
  field : String
  direction : Direction
deriving DecidableEq, Repr

/-- A sort key as the engine reads it. -/
def SortKey.toJson (key : SortKey) : Json :=
  .obj [(key.field, .obj [("order", .str key.direction.name)])]

end DocSearch
