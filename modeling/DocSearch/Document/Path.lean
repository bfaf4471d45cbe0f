import DocSearch.Json.Printer
import DocSearch.Query.Field

/-!
# Fields of a document

`Document.lookup` follows the path of a field through the objects of a document, and
`Document.fieldValues` lists the values of the field: the items of an array one by one, and any
other value by itself.  Null is no value.
-/

namespace DocSearch.Document

/-- The value that a list of segments leads to, through objects alone. -/
def follow : List String → Json → Option Json
  | [], v => some v
  | segment :: rest, v => (v.get? segment).bind (follow rest)

/-- The value of a field, unless it is missing or null. -/
def lookup (document : Json) (field : String) : Option Json :=
  (follow (Field.mk field).segments document).filter fun v => !v.isNull

/-- The values of a field, one by one. -/
def fieldValues (document : Json) (field : String) : List Json :=
  match lookup document field with
  | some (.arr items) => items.filter fun v => !v.isNull
  | some v => [v]
  | none => []

/-- The text by which the engine indexes a value: a text itself, and any other value as JSON. -/
def indexText : Json → String
  | .str s => s
  | v => v.compact

end DocSearch.Document
