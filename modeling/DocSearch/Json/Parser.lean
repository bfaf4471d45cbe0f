import DocSearch.Json.Tree

/-!
# Reading JSON texts

`Json.entriesInOrder?` reads a text with the entries of objects as they are written, and
`Json.parse?` reads it as a normal value.
-/

namespace DocSearch.Json

/-- The number of arrays and objects inside one another that a text may have. -/
def maxDepth : Nat := 127

/-- The value that a text writes, with the entries of its objects in the order of the text and
repeated keys kept. -/
def entriesInOrder? (text : String) : Option Json :=
  (Tree.ofText? text).bind (Tree.evaluate? maxDepth)

/-- The normal value that a text writes. -/
def parse? (text : String) : Option Json := (entriesInOrder? text).map normalize

end DocSearch.Json
