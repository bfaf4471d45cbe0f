import DocSearch.Aggregation.Evaluation
import DocSearch.Engine.Request

/-!
# Indexes

An index holds documents under ids, in the order in which the ids were first written.
`Index.apply` carries out a write, or refuses it.
-/

namespace DocSearch

/-- The reasons for which an engine refuses a request. -/
inductive Refusal where
  | noIndex (index : String)
  | clause (fault : Aggregation.ClauseFault)
  | rejected (id : String)
  | missing (id : String)
  | notFound (id : String)
deriving DecidableEq, Repr

/-- The diagnostic that an engine answers with. -/
def Refusal.diagnostic : Refusal → String
  | .noIndex index => "index_not_found_exception: no such index [" ++ index ++ "]"
  | .clause fault => fault.message
  | .rejected id => "document [" ++ id ++ "] rejected by engine"
  | .missing id => "document_missing_exception: [" ++ id ++ "]"
  | .notFound id => "not_found: [" ++ id ++ "]"

/-- The documents of an index with their ids. -/
structure Index where
  rows : List (String × Json)
deriving DecidableEq

/-- The rows with the document of an id set: in the place of the old one, or else at the end. -/
def putRow (id : String) (document : Json) : List (String × Json) → List (String × Json)
  | [] => [(id, document)]
  | (i, old) :: rest =>
    if i = id then (id, document) :: rest else (i, old) :: putRow id document rest

/-- After a row is put, its id has the new document and every other id the document it had. -/
theorem lookup_putRow (id other : String) (document : Json) (rows : List (String × Json)) :
  (putRow id document rows).lookup other = if other = id then some document else rows.lookup other
  := by
  induction rows with
  | nil =>
    by_cases h : other = id
    · simp [putRow, h]
    · have hne : (other == id) = false := by simpa using h
      simp [putRow, List.lookup_cons, h, hne]
  | cons row rest ih =>
    obtain ⟨i, old⟩ := row
    simp only [putRow]
    by_cases hi : i = id
    · by_cases h : other = id
      · simp [hi, h]
      · have hne : (other == id) = false := by simpa using h
        simp [List.lookup_cons, hi, h, hne]
    · by_cases h : other = i
      · simp [hi, h]
      · have hne : (other == i) = false := by simpa using h
        simp [List.lookup_cons, hi, hne, ih]

/-- A document with the entries of another one set.  Unless both are objects it is replaced. -/
def Document.merge : Json → Json → Json
  | .obj current, .obj changes =>
    .obj (changes.foldl (fun entries change => Entries.insert change.1 change.2 entries) current)
  | _, replacement => replacement

namespace Index

/-- The index without documents. -/
def empty : Index := ⟨[]⟩

instance : Inhabited Index := ⟨empty⟩

/-- The documents in order. -/
def documents (index : Index) : List Json := index.rows.map (·.2)

/-- The document of an id. -/
def get? (index : Index) (id : String) : Option Json := index.rows.lookup id

/-- The index with the document of an id set. -/
def put (index : Index) (id : String) (document : Json) : Index := ⟨putRow id document index.rows⟩

/-- After a document is put, its id has it and every other id the document it had. -/
theorem get?_put (index : Index) (id other : String) (document : Json) :
  (index.put id document).get? other = if other = id then some document else index.get? other
  := lookup_putRow id other document index.rows

/-- The index without the document of an id. -/
def remove (index : Index) (id : String) : Index := ⟨index.rows.filter (·.1 != id)⟩

/-- After a removal the id has no document, and every other id the document it had. -/
theorem get?_remove (index : Index) (id other : String) :
  (index.remove id).get? other = if other = id then none else index.get? other
  := by
  obtain ⟨rows⟩ := index
  simp only [get?, remove]
  induction rows with
  | nil => simp
  | cons row rest ih =>
    obtain ⟨i, document⟩ := row
    by_cases hi : i = id
    · by_cases h : other = id
      · simpa [hi, h] using ih
      · have hne : (other == id) = false := by simpa using h
        simpa [List.lookup_cons, hi, h, hne] using ih
    · by_cases h : other = i
      · simp [hi, h]
      · have hne : (other == i) = false := by simpa using h
        simp [List.lookup_cons, hi, hne, ih]

/-- An index of documents with ids; of several documents with an id the last one counts. -/
def ofList (rows : List (String × Json)) : Index :=
  rows.foldl (fun index row => index.put row.1 row.2) empty

/-- The index after a write, or the reason why the write is refused.  Only documents that are
there can be updated or deleted. -/
def apply (index : Index) (id : String) : Write → Except Refusal Index
  | .index document => .ok (index.put id document)
  | .update changes =>
    match index.get? id with
    | some current => .ok (index.put id (Document.merge current changes))
    | none => .error (.missing id)
  | .delete =>
    match index.get? id with
    | some _ => .ok (index.remove id)
    | none => .error (.notFound id)

end Index

end DocSearch
