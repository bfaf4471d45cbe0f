import DocSearch.Document.Path
import DocSearch.Document.SortKey

/-!
# The order of documents

`Document.compareValues` orders values by their types and, within truth values, numbers and texts,
by the values themselves.  `Document.sortBy` sorts documents stably by one key, with those that
lack the field last in both directions, and `Document.sortByAll` by several keys, the first of
them most significant.
-/

namespace DocSearch.Document

/-- The place of the type of a value among the types. -/
def typeRank : Json → Nat
  | .null => 0
  | .bool _ => 1
  | .num _ => 2
  | .str _ => 3
  | .arr _ => 4
  | .obj _ => 5

/-- The order of two values; two arrays are equal in it, and so are two objects. -/
def compareValues : Json → Json → Ordering
  | .bool a, .bool b => compare a b
  | .num a, .num b => a.toBinary64.order b.toBinary64
  | .str a, .str b => compare a b
  | a, b => compare (typeRank a) (typeRank b)

/-- An order, or its reverse for a descending sort. -/
def directed : Direction → Ordering → Ordering
  | .asc, o => o
  | .desc, o => o.swap

/-- The order of two documents by one key; a document without the field comes last. -/
def compareBy (key : SortKey) (a b : Json) : Ordering :=
  match lookup a key.field, lookup b key.field with
  | none, none => .eq
  | none, some _ => .gt
  | some _, none => .lt
  | some v, some w => directed key.direction (compareValues v w)

/-- Documents in the order of one key, those that are equal in it as they stood. -/
def sortBy (key : SortKey) (documents : List Json) : List Json :=
  documents.mergeSort fun a b => (compareBy key a b).isLE

/-- Documents in the order of several keys, each deciding where those before it are equal. -/
def sortByAll (keys : List SortKey) (documents : List Json) : List Json :=
  keys.foldr sortBy documents

end DocSearch.Document
