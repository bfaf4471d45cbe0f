import DocSearch.Aggregation.Spec
import DocSearch.Document.SortKey
import DocSearch.Filter.Basic
import DocSearch.Json.Printer

/-!
# Requests and responses

What is sent to a search engine, and what it answers.  `SearchRequest.toJson` is the body of a
search as the engine reads it; the name of the index is not part of the body.
-/

namespace DocSearch

/-- A search of one index. -/
structure SearchRequest where
  index : String
  query : Option Filter
  offset : Option UInt64
  size : Option UInt64
  sort : List SortKey
  includes : List String
  trackTotal : Bool
  aggregations : Option Aggregation.Spec

namespace SearchRequest

/-- The search for all documents of an index. -/
def ofIndex (index : String) : SearchRequest := ⟨index, none, none, none, [], [], false, none⟩

/-- The entry of an optional part of the body. -/
def optionalEntry (key : String) : Option Json → List (String × Json)
  | some v => [(key, v)]
  | none => []

/-- The entry of the fields that are returned, unless whole documents are. -/
def includesEntry : List String → List (String × Json)
  | [] => []
  | fields => [("_source", .obj [("includes", .ofStrings fields)])]

/-- The entry of the sort keys, if there are any. -/
def sortEntry : List SortKey → List (String × Json)
  | [] => []
  | keys => [("sort", .arr (keys.map SortKey.toJson))]

/-- The body of the search. -/
def toJson (r : SearchRequest) : Json :=
  .obj (includesEntry r.includes ++
    optionalEntry "aggs" (r.aggregations.map Aggregation.Spec.toJson) ++
    optionalEntry "from" (r.offset.map fun n => .ofInt n.toNat) ++
    optionalEntry "query" (r.query.map Filter.toJson) ++
    optionalEntry "size" (r.size.map fun n => .ofInt n.toNat) ++
    sortEntry r.sort ++
    (if r.trackTotal then [("track_total_hits", .bool true)] else []))

/-- The body of the search as it is sent. -/
def text (r : SearchRequest) : String := r.toJson.compact

end SearchRequest

/-- The documents that a search finds, in order, with their total number whatever part of them is
returned, and the results of the aggregations. -/
structure Hits where
  documents : List Json
  total : Int64
  aggregations : Option Json
deriving DecidableEq

/-- The answer to a search: what it finds, or why the engine refuses it. -/
inductive SearchResponse where
  | hits (found : Hits)
  | invalid (diagnostic : String)
deriving DecidableEq

/-- What a write does to a document. -/
inductive Write where
  | index (document : Json)
  | update (document : Json)
  | delete
deriving DecidableEq

/-- A write of one document of an index. -/
structure WriteRequest where
  index : String
  id : String
  write : Write
deriving DecidableEq

/-- The answer to a write: it is done, or the engine refuses it. -/
inductive WriteResponse where
  | done
  | invalid (diagnostic : String)
deriving DecidableEq, Repr

end DocSearch
