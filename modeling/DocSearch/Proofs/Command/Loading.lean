import DocSearch.Command.Basic
import DocSearch.Proofs.Engine.Catalogue
import DocSearch.Proofs.Provider.Counting

/-!
# Loading documents

A command keys every document of a file by the id that it gives, or by its position when it gives
none, and puts the documents into an engine one by one.  When the ids that are given are distinct,
the engine holds all documents of the file exactly if none of these ids is the position of a
document without one: `loads_every_document_iff`.
-/

namespace DocSearch

/-! ### Rows that are put one by one -/

namespace Index

variable {index : Index} {rows : List (String × Json)}

/-- A document with a new id comes last. -/
theorem rows_put_of_notMem {id : String} {document : Json} (h : id ∉ index.ids) :
  (index.put id document).rows = index.rows ++ [(id, document)]
  := by
  obtain ⟨old⟩ := index
  simp only [ids, put] at h ⊢
  induction old with
  | nil => rfl
  | cons row old ih =>
      rw [List.map_cons, List.mem_cons, not_or] at h
      rw [putRow, if_neg (Ne.symm h.1), ih h.2, List.cons_append]

/-- There is one row more at most after a document is put. -/
theorem length_rows_put (index : Index) (id : String) (document : Json) :
  (index.put id document).rows.length =
    if id ∈ index.ids then index.rows.length else index.rows.length + 1
  := by
  have hids : (index.put id document).ids.length = _ := congrArg List.length ids_put
  rw [ids, List.length_map] at hids
  rw [hids]
  split <;> simp [ids]

/-- There are as many rows more as are put, at most. -/
theorem length_rows_foldl_put_le (index : Index) (rows : List (String × Json)) :
  (rows.foldl (fun index row => index.put row.1 row.2) index).rows.length ≤
    index.rows.length + rows.length
  := by
  induction rows generalizing index with
  | nil => simp
  | cons row rows ih =>
      have hrest := ih (index.put row.1 row.2)
      have hput := length_rows_put index row.1 row.2
      rw [List.foldl_cons, List.length_cons]
      split at hput <;> omega

/-- Rows with distinct new ids are put after the old ones in order. -/
theorem rows_foldl_put (h : (index.ids ++ rows.map (·.1)).Nodup) :
  (rows.foldl (fun index row => index.put row.1 row.2) index).rows = index.rows ++ rows
  := by
  induction rows generalizing index with
  | nil => simp
  | cons row rows ih =>
      obtain ⟨hnot, -⟩ := List.nodup_cons.mp (List.nodup_middle.mp h)
      have hnew : row.1 ∉ index.ids := fun hmem => hnot (List.mem_append_left _ hmem)
      rw [List.map_cons, List.append_cons] at h
      rw [List.foldl_cons, ih, rows_put_of_notMem hnew, ← List.append_cons]
      rwa [ids_put, if_neg hnew]

/-- When there are as many rows more as are put, their ids are distinct and new. -/
theorem nodup_of_length_rows_foldl_put (hindex : index.ids.Nodup)
    (h : (rows.foldl (fun index row => index.put row.1 row.2) index).rows.length =
      index.rows.length + rows.length) :
  (index.ids ++ rows.map (·.1)).Nodup
  := by
  induction rows generalizing index with
  | nil => simpa using hindex
  | cons row rows ih =>
      rw [List.foldl_cons, List.length_cons] at h
      have hle := length_rows_foldl_put_le (index.put row.1 row.2) rows
      have hput := length_rows_put index row.1 row.2
      have hnew : row.1 ∉ index.ids := by
        intro hmem
        rw [if_pos hmem] at hput
        omega
      rw [if_neg hnew] at hput
      have hids : (index.put row.1 row.2).ids = index.ids ++ [row.1] := by rw [ids_put, if_neg hnew]
      have hnodup : (index.put row.1 row.2).ids.Nodup := by
        rw [hids, ← List.concat_eq_append]
        apply List.Nodup.concat hnew hindex
      rw [List.map_cons, List.append_cons, ← hids]
      apply ih hnodup
      omega

/-- An index of rows with distinct ids has these rows. -/
theorem rows_ofList (h : (rows.map (·.1)).Nodup) :
  (ofList rows).rows = rows
  := by
  have hnodup : (empty.ids ++ rows.map (·.1)).Nodup := h
  exact rows_foldl_put hnodup

/-- An index has as many rows as it is made of exactly when their ids are distinct. -/
theorem length_rows_ofList_iff :
  (ofList rows).rows.length = rows.length ↔ (rows.map (·.1)).Nodup
  := by
  constructor
  · intro h
    have hempty : empty.ids.Nodup := List.nodup_nil
    apply nodup_of_length_rows_foldl_put hempty
    rw [← ofList, h]
    exact (Nat.zero_add _).symm
  · intro h
    rw [rows_ofList h]

end Index

/-! ### Ids of documents -/

namespace Command

/-- The id that a document gives: the text of its `id`, when that is a text or a number. -/
def givenId? (document : Json) : Option String :=
  match document.get? "id" with
  | some (.str s) => some s
  | some (.num n) => some (String.ofList n.text)
  | _ => none

/-- The ids that documents give. -/
def givenIds (documents : List Json) : List String := documents.filterMap givenId?

/-- The positions of the documents that give no id, where `position` is that of the first
document. -/
def positionIdsFrom (position : Nat) : List Json → List String
  | [] => []
  | document :: rest =>
    match givenId? document with
    | some _ => positionIdsFrom (position + 1) rest
    | none => toString position :: positionIdsFrom (position + 1) rest

/-- No id that a document gives is the position of a document that gives none. -/
def Separate (documents : List Json) : Prop :=
  (givenIds documents).Disjoint (positionIdsFrom 0 documents)

theorem documentId_eq (position : Nat) (document : Json) :
  documentId position document = (givenId? document).getD (toString position)
  := by
  rw [documentId, givenId?]
  cases document.get? "id" with
  | none => rfl
  | some v => cases v <;> rfl

/-- Documents that are objects are keyed, and kept in order. -/
theorem exists_keyedFrom_eq {documents : List Json}
    (hobjects : ∀ document ∈ documents, document.isObject = true) (position : Nat) :
  ∃ rows, keyedFrom position documents = .ok rows ∧ rows.map (·.2) = documents ∧
    (rows.map (·.1)).Perm (givenIds documents ++ positionIdsFrom position documents)
  := by
  induction documents generalizing position with
  | nil => exact ⟨[], rfl, rfl, List.Perm.nil⟩
  | cons document rest ih =>
      rw [List.forall_mem_cons] at hobjects
      obtain ⟨rows, hkeyed, hdocuments, hids⟩ := ih hobjects.2 (position + 1)
      use (documentId position document, document) :: rows
      refine ⟨?_, ?_, ?_⟩
      · simp [keyedFrom, hobjects.1, hkeyed, bind, Except.bind, pure, Except.pure]
      · rw [List.map_cons, hdocuments]
      · rw [List.map_cons, documentId_eq, givenIds, List.filterMap_cons, positionIdsFrom]
        cases givenId? document with
        | some id => exact hids.cons id
        | none => exact (hids.cons _).trans List.perm_middle.symm

/-- Different positions have different texts. -/
theorem toString_injective :
  Function.Injective (toString : Nat → String)
  := by
  intro m n h
  rw [Nat.toString_eq_ofList_toDigits, Nat.toString_eq_ofList_toDigits, String.ofList_inj] at h
  rw [← Nat.ofDigitChars_ten_toDigits (n := m), h, Nat.ofDigitChars_ten_toDigits]

/-- The positions of documents begin with that of the first one. -/
theorem le_of_toString_mem {documents : List Json} {position other : Nat}
    (h : toString other ∈ positionIdsFrom position documents) :
  position ≤ other
  := by
  induction documents generalizing position with
  | nil => cases h
  | cons document rest ih =>
      rw [positionIdsFrom] at h
      split at h
      · apply Nat.le_of_succ_le (ih h)
      · rcases List.mem_cons.mp h with heq | hmem
        · apply (toString_injective heq).ge
        · apply Nat.le_of_succ_le (ih hmem)

theorem nodup_positionIdsFrom (position : Nat) (documents : List Json) :
  (positionIdsFrom position documents).Nodup
  := by
  induction documents generalizing position with
  | nil => apply List.nodup_nil
  | cons document rest ih =>
      rw [positionIdsFrom]
      split
      · apply ih
      · apply List.nodup_cons.mpr ⟨_, ih _⟩
        intro hmem
        apply Nat.not_succ_le_self position (le_of_toString_mem hmem)

/-- Documents that are objects are keyed in order.  When the ids that they give are distinct, all
their ids are exactly if the documents are separate. -/
theorem exists_keyedDocuments_eq {documents : List Json}
    (hobjects : ∀ document ∈ documents, document.isObject = true)
    (hgiven : (givenIds documents).Nodup) :
  ∃ rows, keyedDocuments documents = .ok rows ∧ rows.map (·.2) = documents ∧
    ((rows.map (·.1)).Nodup ↔ Separate documents)
  := by
  obtain ⟨rows, hkeyed, hdocuments, hids⟩ := exists_keyedFrom_eq hobjects 0
  refine ⟨rows, hkeyed, hdocuments, ?_⟩
  rw [hids.nodup_iff, List.nodup_append', Separate]
  simp only [hgiven, nodup_positionIdsFrom, true_and]

/-! ### The engine of a query -/

/-- The engine in which documents with ids are loaded into the index of a provider. -/
def loadedEngine (p : Provider Json) (rows : List (String × Json)) : Memory :=
  Memory.empty.insertAll p.index rows

/-- A query is sent to the index that a command loads its documents into. -/
theorem provider_index (config : Config) (index : String) :
  (provider config index).index = config.indexPrefix ++ index
  := rfl

theorem serves_loadedEngine (p : Provider Json) (rows : List (String × Json)) :
  (loadedEngine p rows).Serves p.index (Index.ofList rows)
  := by
  constructor
  case index =>
    rw [loadedEngine, Memory.insertAll, Memory.setIndex, SortedMap.get?_insert, if_pos rfl]
    rfl
  case fault => rfl
  case diagnostic => rfl

theorem documents_loadedEngine (p : Provider Json) (rows : List (String × Json)) :
  (loadedEngine p rows).documents p.index = (Index.ofList rows).documents
  := by
  rw [Memory.documents, Memory.indexOf, (serves_loadedEngine p rows).index]
  rfl

/-- The index that is loaded has all documents in order exactly when their ids are distinct. -/
theorem documents_loadedEngine_iff {p : Provider Json} {rows : List (String × Json)} :
  (loadedEngine p rows).documents p.index = rows.map (·.2) ↔ (rows.map (·.1)).Nodup
  := by
  rw [documents_loadedEngine, Index.documents]
  constructor
  · intro h
    have hlength := congrArg List.length h
    rw [List.length_map, List.length_map] at hlength
    apply Index.length_rows_ofList_iff.mp hlength
  · intro h
    rw [Index.rows_ofList h]

variable {files : Files} {queryPath dataPath index : String} {config : Config} {q : Query}
  {rows : List (String × Json)}

/-- A query is read together with the documents of another file and their ids. -/
theorem readInput_eq {documents : List Json}
    (hquery : readFile files queryPath Query.ofText? = .ok q)
    (hdata : readFile files dataPath parseDocuments? = .ok documents)
    (hkeyed : keyedDocuments documents = .ok rows) :
  readInput files queryPath dataPath = .ok (q, rows)
  := by
  simp only [readInput, hquery, hdata, hkeyed, bind, Except.bind, pure, Except.pure]

/-- A query is executed on the engine in which the documents are loaded. -/
theorem query_of_execute {output : Except QueryError (Output Json)} {s' : Session}
    (h : readInput files queryPath dataPath = .ok (q, rows))
    (hexecute : (provider config index).execute q none
      (.start (.memory (loadedEngine (provider config index) rows))) = (output, s')) :
  query files queryPath dataPath index config =
    ((output.map outputToJson).mapError .query, s'.log)
  := by
  rw [loadedEngine, provider_index] at hexecute
  simp only [query, h, hexecute]

/-- The number of all documents. -/
theorem number_source_count (stored : List Json) :
  Query.source.count.number none stored = stored.length
  := by
  have hselects : Query.source.count.selects none = fun _ => true := rfl
  rw [Query.number, hselects, List.countP_true]
  simp [window, Query.outermostSkip, Query.outermostTake, Query.source, Query.count, Query.chain,
    Step.skip?, Step.take?]

/-- A query that counts all documents yields the number of those that are loaded. -/
theorem query_count_eq (index : String) (config : Config)
    (h : readInput files queryPath dataPath = .ok (Query.source.count, rows))
    (hlength : rows.length < 2 ^ 63) :
  ∃ n, (query files queryPath dataPath index config).1 = .ok (outputToJson (.count n)) ∧
    n.toInt = (Index.ofList rows).rows.length
  := by
  have hle : (Index.ofList rows).rows.length ≤ rows.length := by
    have hput := Index.length_rows_foldl_put_le .empty rows
    rwa [show Index.empty.rows.length = 0 from rfl, Nat.zero_add] at hput
  have hdocuments : (Index.ofList rows).documents.length = (Index.ofList rows).rows.length :=
    List.length_map _
  obtain ⟨n, s', hexecute, hn⟩ := execute_number (provider config index) none
    (q := Query.source.count) (s := .start (.memory (loadedEngine (provider config index) rows)))
    rfl rfl rfl (serves_loadedEngine _ rows) (by omega)
  refine ⟨n, ?_, ?_⟩
  · rw [query_of_execute h hexecute]
    rfl
  · rw [hn, number_source_count, hdocuments]

/-- Documents that are objects are keyed.  When the ids that they give are distinct, then all their
ids are distinct, and the engine of a query holds all of them in order, and counting them yields
their number, exactly if none of the ids that they give is the position of a document that gives
none.  A list in memory has fewer than `2 ^ 63` documents. -/
theorem loads_every_document_iff {documents : List Json}
    (hobjects : ∀ document ∈ documents, document.isObject = true)
    (hgiven : (givenIds documents).Nodup) :
  ∃ rows, keyedDocuments documents = .ok rows ∧
    ((rows.map (·.1)).Nodup ↔ Separate documents) ∧
    (∀ p, (loadedEngine p rows).documents p.index = documents ↔ Separate documents) ∧
    ∀ files queryPath dataPath index config, documents.length < 2 ^ 63 →
      readFile files queryPath Query.ofText? = .ok Query.source.count →
      readFile files dataPath parseDocuments? = .ok documents →
      ∃ n, (query files queryPath dataPath index config).1 = .ok (outputToJson (.count n)) ∧
        (n.toInt = documents.length ↔ Separate documents)
  := by
  obtain ⟨rows, hkeyed, hdocuments, hnodup⟩ := exists_keyedDocuments_eq hobjects hgiven
  have hrows : rows.length = documents.length := by rw [← hdocuments, List.length_map]
  refine ⟨rows, hkeyed, hnodup, ?_, ?_⟩
  · intro p
    rw [← hnodup, ← documents_loadedEngine_iff (p := p), hdocuments]
  · intro files queryPath dataPath index config hlength hquery hdata
    have hinput := readInput_eq hquery hdata hkeyed
    obtain ⟨n, hcount, hn⟩ := query_count_eq index config hinput (by omega)
    refine ⟨n, hcount, ?_⟩
    rw [hn, ← hrows, Int.natCast_inj, Index.length_rows_ofList_iff, hnodup]

/-- A file with the query that counts all documents, and documents in every other file. -/
def countingFiles (documents : String) : Files := fun path =>
  if path = "q.json" then
    .ok "\x7b\"op\": \"count\", \"source\": \x7b\"op\": \"source\"\x7d\x7d"
  else .ok documents

/-- A given id that is a position, but not one of a document without an id, and a given number. -/
theorem loads_every_document_of_mixture :
  let files : Files :=
    countingFiles "[\x7b\"id\": 7\x7d, \x7b\"name\": \"no id\"\x7d, \x7b\"id\": \"0\"\x7d]"
  let documents : List Json :=
    [.obj [("id", .num (.int 7))], .obj [("name", .str "no id")], .obj [("id", .str "0")]]
  (∀ document ∈ documents, document.isObject = true) ∧ (givenIds documents).Nodup ∧
  ∃ rows n, keyedDocuments documents = .ok rows ∧ (rows.map (·.1)).Nodup ∧
    (loadedEngine (provider .default "docs") rows).documents "docs" = documents ∧
    (query files "q.json" "d.json" "docs" .default).1 = .ok (outputToJson (.count n)) ∧
    n.toInt = 3
  := by
  intro files documents
  have hobjects : ∀ document ∈ documents, document.isObject = true := by decide
  have hgiven : (givenIds documents).Nodup := by decide +kernel
  have hseparate : Separate documents := by
    rw [Separate, List.disjoint_left]
    decide +kernel
  have hquery : readFile files "q.json" Query.ofText? = .ok Query.source.count := by decide +kernel
  have hdata : readFile files "d.json" parseDocuments? = .ok documents := by decide +kernel
  obtain ⟨rows, hkeyed, hnodup, hloaded, hcount⟩ := loads_every_document_iff hobjects hgiven
  obtain ⟨n, hn, hlength⟩ := hcount files "q.json" "d.json" "docs" .default (by decide) hquery hdata
  exact ⟨hobjects, hgiven, rows, n, hkeyed, hnodup.mpr hseparate,
    (hloaded (provider .default "docs")).mpr hseparate, hn, hlength.mpr hseparate⟩

/-- The given id of one document is the position of another one: only the second one is held. -/
theorem position_replaces_given_id :
  let files : Files :=
    countingFiles "[\x7b\"id\": \"1\"\x7d, \x7b\"name\": \"no id\"\x7d]"
  let documents : List Json := [.obj [("id", .str "1")], .obj [("name", .str "no id")]]
  (∀ document ∈ documents, document.isObject = true) ∧ (givenIds documents).Nodup ∧
  readFile files "d.json" parseDocuments? = .ok documents ∧
  ∃ rows, keyedDocuments documents = .ok rows ∧ ¬ (rows.map (·.1)).Nodup ∧
    (loadedEngine (provider .default "docs") rows).documents "docs" =
      [.obj [("name", .str "no id")]] ∧
    (query files "q.json" "d.json" "docs" .default).1 = .ok (.obj [("count", .ofInt 1)])
  := by
  intro files documents
  refine ⟨by decide, by decide +kernel, by decide +kernel,
    [("1", .obj [("id", .str "1")]), ("1", .obj [("name", .str "no id")])], ?_, ?_, ?_, ?_⟩
  all_goals decide +kernel

end Command

end DocSearch
