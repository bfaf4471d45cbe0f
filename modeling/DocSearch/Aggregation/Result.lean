import DocSearch.Json.Record

/-!
# Results of aggregations

`Metric` and `Buckets` are the results that an engine answers with.  `Metric.ofJson?` and
`Buckets.ofJson?` read them, with what is left out at its default, and `readResults?` reads the
results of a request as a value of any type.
-/

namespace DocSearch.Aggregation

/-- A single number; there is none when no document has the field. -/
structure Metric where
  value : Option Binary64
deriving DecidableEq, Repr

/-- No number. -/
def Metric.absent : Metric := ⟨none⟩

/-- The number that a value writes. -/
def Metric.ofJson? (v : Json) : Option Metric := do
  let r ← Record.ofJson? ["value"] v
  return ⟨← r.defaulted? "value" none (Json.nullOr? Json.number?)⟩

/-- A value of a field, and the number of documents that have it. -/
structure Bucket where
  key : Json
  documents : UInt64
deriving DecidableEq

/-- The value and number of documents that a value writes. -/
def Bucket.ofJson? (v : Json) : Option Bucket := do
  let r ← Record.ofJson? ["key", "doc_count"] v
  return ⟨← r.defaulted? "key" .null some,
    ← r.defaulted? "doc_count" 0 fun n => (Json.natOfBits? 64 n).map UInt64.ofNat⟩

/-- The most frequent values of a field. -/
structure Buckets where
  buckets : List Bucket
deriving DecidableEq

namespace Buckets

/-- No values. -/
def empty : Buckets := ⟨[]⟩

/-- The most frequent values that a value writes. -/
def ofJson? (v : Json) : Option Buckets := do
  let r ← Record.ofJson? ["buckets"] v
  return ⟨← r.defaulted? "buckets" [] (Json.listOf? Bucket.ofJson?)⟩

/-- The number of documents that have a value. -/
def countFor? (bs : Buckets) (key : Json) : Option UInt64 :=
  (bs.buckets.find? (·.key.same key)).map Bucket.documents

end Buckets

/-- The results of a request as a value of some type; its default when there are none. -/
def readResults? {α : Type} (default : α) (read : Json → Option α) : Option Json → Option α
  | none | some .null => some default
  | some v => read v

end DocSearch.Aggregation
