import DocSearch.Aggregation.Evaluation
import DocSearch.Document.Order
import DocSearch.Document.Projection
import DocSearch.Engine.Fault
import DocSearch.Engine.Index
import DocSearch.Filter.Matching

/-!
# An engine in memory

`Memory` is an engine that holds its indexes in memory.  `Memory.search` and `Memory.write` carry
out one call each.  A fault that is set with `failNext` is the outcome of the next call, and a
diagnostic that is set with `refuseNextSearch` the answer to the next search that has no fault.
-/

namespace DocSearch

/-- An engine in memory: its indexes, the ids that it rejects, what is set for the next calls, the
last search, and the numbers of searches and of writes, of which fewer than `2 ^ 64` are ever made.
The answers of a slow engine have to be awaited. -/
structure Memory where
  indexes : SortedMap Index
  rejectedIds : List String
  nextFault : Option Fault
  nextDiagnostic : Option String
  lastSearch : Option SearchRequest
  searches : Nat
  writes : Nat
  slow : Bool

namespace Memory

/-- The engine without indexes. -/
def empty : Memory := ⟨.empty, [], none, none, none, 0, 0, false⟩

instance : Inhabited Memory := ⟨empty⟩

/-- The index of a name, which is empty when there is none. -/
def indexOf (m : Memory) (name : String) : Index := (m.indexes.get? name).getD .empty

/-- The documents of an index in order. -/
def documents (m : Memory) (name : String) : List Json := (m.indexOf name).documents

/-- The document of an id in an index. -/
def document? (m : Memory) (name id : String) : Option Json := (m.indexOf name).get? id

/-- Replace an index, or create it. -/
def setIndex (m : Memory) (name : String) (index : Index) : Memory :=
  { m with indexes := m.indexes.insert name index }

/-- Create an index unless it is there. -/
def createIndex (m : Memory) (name : String) : Memory := m.setIndex name (m.indexOf name)

/-- Set the document of an id, and create its index unless it is there. -/
def insert (m : Memory) (name id : String) (document : Json) : Memory :=
  m.setIndex name ((m.indexOf name).put id document)

/-- Set documents with ids, and create their index unless it is there. -/
def insertAll (m : Memory) (name : String) (rows : List (String × Json)) : Memory :=
  m.setIndex name (rows.foldl (fun index row => index.put row.1 row.2) (m.indexOf name))

/-- Refuse all later writes of an id. -/
def rejectId (m : Memory) (id : String) : Memory := { m with rejectedIds := id :: m.rejectedIds }

/-- Let the next call fail. -/
def failNext (m : Memory) (fault : Fault) : Memory := { m with nextFault := some fault }

/-- Let the next search that does not fail be refused. -/
def refuseNextSearch (m : Memory) (diagnostic : String) : Memory :=
  { m with nextDiagnostic := some diagnostic }

/-- The number of documents that are returned when a search does not say. -/
def defaultPageSize : Nat := 10

/-- The part of a list of documents that a search returns. -/
def page (r : SearchRequest) (documents : List Json) : List Json :=
  (documents.drop ((r.offset.map UInt64.toNat).getD 0)).take
    ((r.size.map UInt64.toNat).getD defaultPageSize)

/-- The results of the aggregations that a search asks for. -/
def aggregations (r : SearchRequest) (documents : List Json) :
    Except Aggregation.ClauseFault (Option Json) :=
  match r.aggregations with
  | none => .ok none
  | some spec => (spec.evaluate documents).map some

/-- What a search finds among documents.  The aggregations are over all documents that match. -/
def find (r : SearchRequest) (documents : List Json) : Except Aggregation.ClauseFault Hits := do
  let matching := documents.filter (Filter.acceptsAll · r.query)
  let results ← aggregations r matching
  return ⟨(page r (Document.sortByAll r.sort matching)).map (Document.project r.includes),
    Int64.ofNat matching.length, results⟩

/-- The answer to a search when nothing is set for the next calls. -/
def answer (m : Memory) (r : SearchRequest) : SearchResponse :=
  match m.indexes.get? r.index with
  | none => .invalid (Refusal.noIndex r.index).diagnostic
  | some index =>
    match find r index.documents with
    | .error fault => .invalid (Refusal.clause fault).diagnostic
    | .ok found => .hits found

/-- Carry out a search. -/
def search (m : Memory) (r : SearchRequest) : Except Fault SearchResponse × Memory :=
  let m := { m with searches := m.searches + 1, lastSearch := some r }
  match m.nextFault with
  | some fault => (.error fault, { m with nextFault := none })
  | none =>
    match m.nextDiagnostic with
    | some diagnostic => (.ok (.invalid diagnostic), { m with nextDiagnostic := none })
    | none => (.ok (m.answer r), m)

/-- Carry out a write.  The index is there afterwards, unless the id is one of those rejected. -/
def write (m : Memory) (r : WriteRequest) : Except Fault WriteResponse × Memory :=
  let m := { m with writes := m.writes + 1 }
  match m.nextFault with
  | some fault => (.error fault, { m with nextFault := none })
  | none =>
    if r.id ∈ m.rejectedIds then (.ok (.invalid (Refusal.rejected r.id).diagnostic), m)
    else
      match (m.indexOf r.index).apply r.id r.write with
      | .ok index => (.ok .done, m.setIndex r.index index)
      | .error reason => (.ok (.invalid reason.diagnostic), m.createIndex r.index)

end Memory

end DocSearch
