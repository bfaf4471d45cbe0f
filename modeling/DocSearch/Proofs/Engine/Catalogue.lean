import Mathlib.Data.List.Nodup
import DocSearch.Proofs.Engine.Operation

/-!
# Engines as insertion-ordered maps

A `Catalogue` maps the name of an index and an id to a document, and keeps the ids of every index in
the order in which they came.  `Catalogue.run` says what operations mean for it.  An engine in
memory holds what the catalogue of its operations says: `agrees_with_catalogue`.
-/

namespace DocSearch

/-! ### Documents -/

/-- The keys of an object increase. -/
def Json.KeysIncrease : Json → Prop
  | .obj entries => Entries.Sorted entries
  | _ => True

instance : DecidablePred Json.KeysIncrease
  | .obj entries => inferInstanceAs (Decidable (entries.Pairwise fun a b => a.1 < b.1))
  | .null | .bool _ | .num _ | .str _ | .arr _ => isTrue trivial

/-- A document with the value of every key that is given.  Unless both are objects it is
replaced. -/
def Document.overridden : Json → Json → Json
  | .obj current, .obj given =>
    .object ((current.filter fun entry => (Entries.get? entry.1 given).isNone) ++ given)
  | _, given => given

namespace Document

variable {current given : Json}

/-- Setting the entries of an object one by one sets the value of every key that is given. -/
theorem merge_eq_overridden (hcurrent : current.KeysIncrease) (hgiven : given.KeysIncrease) :
  merge current given = overridden current given
  := by
  cases current with
  | obj current =>
      cases given with
      | obj given =>
          simp only [merge, overridden, Json.object]
          congr 1
          apply Entries.Sorted.ext (hcurrent.foldl_insert given) (Entries.sorted_ofList _)
          intro key
          have hkept : Entries.Sorted (current.filter fun entry =>
              (Entries.get? entry.1 given).isNone) := List.Pairwise.filter _ hcurrent
          rw [Entries.get?_foldl_insert, Entries.ofList, Entries.get?_foldl_insert,
            List.reverse_append, Entries.get?_append, hgiven.get?_reverse, hkept.get?_reverse,
            Entries.get?_filter (p := fun key => (Entries.get? key given).isNone)]
          cases Entries.get? key given with
          | none => simp [Entries.get?]
          | some value => rfl
      | _ => rfl
  | _ => rfl

/-- A document keeps increasing keys when values of keys are set. -/
theorem keysIncrease_merge (hcurrent : current.KeysIncrease) (hgiven : given.KeysIncrease) :
  (merge current given).KeysIncrease
  := by
  cases current with
  | obj current =>
      cases given with
      | obj given => apply hcurrent.foldl_insert given
      | _ => exact hgiven
  | _ => exact hgiven

end Document

/-! ### Indexes -/

/-- A row with a new id comes last, and one with an old id stays in its place. -/
theorem map_fst_putRow {id : String} {document : Json} {rows : List (String × Json)} :
  (putRow id document rows).map (·.1) =
    if id ∈ rows.map (·.1) then rows.map (·.1) else rows.map (·.1) ++ [id]
  := by
  induction rows with
  | nil => rfl
  | cons row rows ih =>
      obtain ⟨i, old⟩ := row
      rw [putRow, List.map_cons]
      by_cases hid : i = id
      · simp [hid]
      · rw [if_neg hid, List.map_cons, ih]
        by_cases hmem : id ∈ rows.map (·.1)
        · rw [if_pos hmem, if_pos (List.mem_cons_of_mem _ hmem)]
        · have hnot : id ∉ i :: rows.map (·.1) := by
            rw [List.mem_cons, not_or]
            use Ne.symm hid, hmem
          rw [if_neg hmem, if_neg hnot, List.cons_append]

/-- When their ids are distinct, looking the ids up one by one gives the documents of rows. -/
theorem filterMap_lookup {rows : List (String × Json)} (h : (rows.map (·.1)).Nodup) :
  (rows.map (·.1)).filterMap (fun id => rows.lookup id) = rows.map (·.2)
  := by
  induction rows with
  | nil => rfl
  | cons row rows ih =>
      obtain ⟨i, document⟩ := row
      obtain ⟨hnot, hrest⟩ := List.nodup_cons.mp h
      have hcongr : ∀ id ∈ rows.map (·.1),
          ((i, document) :: rows).lookup id = rows.lookup id := by
        intro id hid
        have hne : (id == i) = false := by
          rw [beq_eq_false_iff_ne]
          rintro rfl
          apply hnot hid
        rw [List.lookup_cons, hne]
      rw [List.map_cons, List.map_cons, List.filterMap_cons, List.lookup_cons_self,
        List.filterMap_congr hcongr, ih hrest]

/-- The documents that a write gives. -/
def Write.documents : Write → List Json
  | .index document | .update document => [document]
  | .delete => []

/-- A write is of a document that has to be there. -/
def Write.needsDocument : Write → Bool
  | .index _ => false
  | .update _ | .delete => true

namespace Index

variable {index : Index} {id : String} {document : Json}

/-- The ids of an index in order. -/
def ids (index : Index) : List String := index.rows.map (·.1)

/-- A new id comes last, and an old one stays in its place. -/
theorem ids_put :
  (index.put id document).ids = if id ∈ index.ids then index.ids else index.ids ++ [id]
  := map_fst_putRow

/-- A removal keeps the order of the other ids. -/
theorem ids_remove :
  (index.remove id).ids = index.ids.filter (· != id)
  := by
  rw [ids, remove, ids, List.filter_map]
  rfl

/-- An id has a document when it is one of the ids. -/
theorem get?_eq_none_iff :
  index.get? id = none ↔ id ∉ index.ids
  := by
  rw [get?, List.lookup_eq_none_iff, ids, List.mem_map]
  constructor
  · rintro h ⟨row, hrow, rfl⟩
    simpa using h row hrow
  · intro h row hrow
    simp only [bne_iff_ne, ne_eq]
    rintro rfl
    apply h ⟨row, hrow, rfl⟩

/-- When the ids are distinct, looking them up one by one gives the documents in order. -/
theorem documents_eq (h : index.ids.Nodup) :
  index.documents = index.ids.filterMap index.get?
  := (filterMap_lookup h).symm

/-- A write is carried out when its document is there if it has to be. -/
theorem exists_apply_iff {w : Write} :
  (∃ index', index.apply id w = .ok index') ↔
    (w.needsDocument = true → index.get? id ≠ none)
  := by
  cases w with
  | index document => simp [apply, Write.needsDocument]
  | update given => cases h : index.get? id <;> simp [apply, Write.needsDocument, h]
  | delete => cases h : index.get? id <;> simp [apply, Write.needsDocument, h]

end Index

/-! ### Catalogues -/

/-- The documents of all ids of all indexes, the ids of each index in order, and what decides about
the next write: the ids that are rejected, and a fault that is set. -/
@[ext]
structure Catalogue where
  ids : String → List String
  document : String → String → Option Json
  rejectedIds : List String
  nextFault : Option Fault

namespace Catalogue

/-- Nothing is stored. -/
def empty : Catalogue := ⟨fun _ => [], fun _ _ => none, [], none⟩

/-- The documents of an index in order. -/
def documents (c : Catalogue) (name : String) : List Json :=
  (c.ids name).filterMap (c.document name)

/-- Replace the ids of an index and what is stored under one of them. -/
def replace (c : Catalogue) (name id : String) (ids : List String) (document : Option Json) :
    Catalogue :=
  { c with
    ids := fun other => if other = name then ids else c.ids other
    document := fun other other' =>
      if other = name ∧ other' = id then document else c.document other other' }

/-- Set the document of an id.  A new id comes last. -/
def put (c : Catalogue) (name id : String) (document : Json) : Catalogue :=
  c.replace name id (if id ∈ c.ids name then c.ids name else c.ids name ++ [id]) (some document)

/-- Remove an id and its document. -/
def remove (c : Catalogue) (name id : String) : Catalogue :=
  c.replace name id ((c.ids name).filter (· != id)) none

/-- A write is accepted: no fault is set, its id is not rejected, and the document is there if it
has to be. -/
def Accepts (c : Catalogue) (r : WriteRequest) : Prop :=
  c.nextFault = none ∧ r.id ∉ c.rejectedIds ∧
    (r.write.needsDocument = true → c.document r.index r.id ≠ none)

instance (c : Catalogue) (r : WriteRequest) : Decidable (c.Accepts r) :=
  inferInstanceAs (Decidable (_ ∧ _ ∧ _))

/-- The catalogue after a write that is accepted. -/
def carryOut (c : Catalogue) (r : WriteRequest) : Catalogue :=
  match r.write, c.document r.index r.id with
  | .index document, _ => c.put r.index r.id document
  | .update given, some current => c.put r.index r.id (Document.overridden current given)
  | .update _, none => c
  | .delete, _ => c.remove r.index r.id

/-- The catalogue after a write.  One that is not accepted takes away a fault that is set. -/
def write (c : Catalogue) (r : WriteRequest) : Catalogue :=
  if c.Accepts r then c.carryOut r else { c with nextFault := none }

/-- The catalogue after an operation. -/
def perform (c : Catalogue) : Memory.Operation → Catalogue
  | .createIndex _ | .refuseNextSearch _ => c
  | .insertAll name rows => rows.foldl (fun c row => c.put name row.1 row.2) c
  | .insert name id document => c.put name id document
  | .rejectId id => { c with rejectedIds := id :: c.rejectedIds }
  | .failNext fault => { c with nextFault := some fault }
  | .write r => c.write r
  | .search _ => { c with nextFault := none }

/-- The catalogue after operations one by one. -/
def run (c : Catalogue) (operations : List Memory.Operation) : Catalogue :=
  operations.foldl perform c

/-- The ids of every index are distinct, and the keys of every document increase. -/
structure Orderly (c : Catalogue) : Prop where
  nodup : ∀ name, (c.ids name).Nodup
  keysIncrease : ∀ name id document, c.document name id = some document → document.KeysIncrease

end Catalogue

/-- The documents that an operation gives. -/
def Memory.Operation.documents : Memory.Operation → List Json
  | .insertAll _ rows => rows.map (·.2)
  | .insert _ _ document => [document]
  | .write r => r.write.documents
  | _ => []

theorem Catalogue.orderly_empty :
  Catalogue.empty.Orderly
  := by
  constructor
  case nodup => exact fun name => List.nodup_nil
  case keysIncrease => rintro name id document ⟨⟩

namespace Catalogue.Orderly

variable {c : Catalogue} {name id : String}

theorem replace {ids : List String} {document : Option Json} (h : c.Orderly) (hids : ids.Nodup)
    (hdocument : ∀ d, document = some d → d.KeysIncrease) :
  (c.replace name id ids document).Orderly
  := by
  constructor
  case nodup =>
    intro other
    simp only [Catalogue.replace]
    split
    · exact hids
    · apply h.nodup
  case keysIncrease =>
    intro other other' d hd
    simp only [Catalogue.replace] at hd
    split at hd
    · apply hdocument d hd
    · apply h.keysIncrease _ _ _ hd

theorem put {document : Json} (h : c.Orderly) (hdocument : document.KeysIncrease) :
  (c.put name id document).Orderly
  := by
  apply h.replace
  · split
    case isTrue hid => apply h.nodup
    case isFalse hid =>
      rw [← List.concat_eq_append]
      apply List.Nodup.concat hid (h.nodup name)
  · rintro d ⟨⟩
    exact hdocument

theorem remove (h : c.Orderly) :
  (c.remove name id).Orderly
  := by
  apply h.replace
  · apply (h.nodup name).filter
  · rintro d ⟨⟩

theorem foldl_put {rows : List (String × Json)} (h : c.Orderly)
    (hrows : ∀ document ∈ rows.map (·.2), document.KeysIncrease) :
  (rows.foldl (fun c row => c.put name row.1 row.2) c).Orderly
  := by
  induction rows generalizing c with
  | nil => exact h
  | cons row rows ih =>
      rw [List.map_cons, List.forall_mem_cons] at hrows
      apply ih (h.put hrows.1) hrows.2

/-- What decides about the next write may change. -/
theorem with_next (h : c.Orderly) (rejectedIds : List String) (nextFault : Option Fault) :
  Orderly { c with rejectedIds := rejectedIds, nextFault := nextFault }
  := ⟨h.nodup, h.keysIncrease⟩

theorem write {r : WriteRequest} (h : c.Orderly)
    (hr : ∀ document ∈ r.write.documents, document.KeysIncrease) :
  (c.write r).Orderly
  := by
  rw [Catalogue.write]
  split
  case isFalse hnot => apply h.with_next
  case isTrue haccepts =>
    rw [carryOut]
    split
    case h_1 document hwrite =>
      rw [hwrite] at hr
      apply h.put (hr document List.mem_cons_self)
    case h_2 given current hwrite hcurrent =>
      rw [hwrite] at hr
      have hgiven := hr given List.mem_cons_self
      have hstored := h.keysIncrease _ _ _ hcurrent
      rw [← Document.merge_eq_overridden hstored hgiven]
      apply h.put (Document.keysIncrease_merge hstored hgiven)
    case h_3 => exact h
    case h_4 => apply h.remove

/-- An operation keeps the ids distinct and the keys increasing. -/
theorem perform {operation : Memory.Operation} (h : c.Orderly)
    (hoperation : ∀ document ∈ operation.documents, document.KeysIncrease) :
  (c.perform operation).Orderly
  := by
  cases operation with
  | createIndex name => exact h
  | insertAll name rows => apply h.foldl_put hoperation
  | insert name id document => apply h.put (hoperation document List.mem_cons_self)
  | rejectId id => apply h.with_next
  | failNext fault => apply h.with_next
  | refuseNextSearch diagnostic => exact h
  | write r => apply h.write hoperation
  | search q => apply h.with_next

end Catalogue.Orderly

/-! ### The catalogue of an engine -/

namespace Memory

variable {m : Memory} {name id : String}

/-- The catalogue of what an engine holds. -/
def catalogue (m : Memory) : Catalogue :=
  ⟨fun name => (m.indexOf name).ids, m.document?, m.rejectedIds, m.nextFault⟩

/-- Setting an index that differs in one document replaces this document in the catalogue. -/
theorem catalogue_setIndex (id : String) {index : Index}
    (hother : ∀ other, other ≠ id → index.get? other = (m.indexOf name).get? other) :
  (m.setIndex name index).catalogue = m.catalogue.replace name id index.ids (index.get? id)
  := by
  ext1
  case ids =>
    funext other
    simp only [catalogue, Catalogue.replace, indexOf_setIndex]
    by_cases hname : other = name
    · rw [if_pos hname, if_pos hname.symm]
    · rw [if_neg hname, if_neg (Ne.symm hname)]
  case document =>
    funext other other'
    simp only [catalogue, Catalogue.replace, document?, indexOf_setIndex]
    by_cases hname : other = name
    · subst hname
      by_cases hid : other' = id
      · rw [if_pos rfl, if_pos ⟨rfl, hid⟩, hid]
      · rw [if_pos rfl, if_neg fun h => hid h.2, hother other' hid]
    · rw [if_neg (Ne.symm hname), if_neg fun h => hname h.1]
  case rejectedIds => rfl
  case nextFault => rfl

theorem catalogue_put {document : Json} :
  (m.setIndex name ((m.indexOf name).put id document)).catalogue =
    m.catalogue.put name id document
  := by
  rw [catalogue_setIndex id, Index.ids_put, Index.get?_put, if_pos rfl]
  · rfl
  · intro other hother
    rw [Index.get?_put, if_neg hother]

theorem catalogue_remove :
  (m.setIndex name ((m.indexOf name).remove id)).catalogue = m.catalogue.remove name id
  := by
  rw [catalogue_setIndex id, Index.ids_remove, Index.get?_remove, if_pos rfl]
  · rfl
  · intro other hother
    rw [Index.get?_remove, if_neg hother]

theorem catalogue_createIndex :
  (m.createIndex name).catalogue = m.catalogue
  := by
  ext1
  case ids =>
    funext other
    simp only [catalogue, indexOf_createIndex]
  case document =>
    funext other other'
    simp only [catalogue, document?, indexOf_createIndex]
  case rejectedIds => rfl
  case nextFault => rfl

/-- Putting documents one by one puts them into the catalogue one by one. -/
theorem catalogue_insertAll {rows : List (String × Json)} :
  (m.insertAll name rows).catalogue =
    rows.foldl (fun c row => c.put name row.1 row.2) m.catalogue
  := by
  induction rows generalizing m with
  | nil => apply catalogue_createIndex
  | cons row rows ih =>
      have hfirst : m.insertAll name (row :: rows) =
          (m.setIndex name ((m.indexOf name).put row.1 row.2)).insertAll name rows := by
        rw [insertAll, insertAll, setIndex_setIndex, indexOf_setIndex, if_pos rfl, List.foldl_cons]
      rw [hfirst, ih, catalogue_put, List.foldl_cons]

/-- An index with a write carried out belongs to the catalogue with the write carried out. -/
theorem catalogue_of_apply {r : WriteRequest} {index : Index} (h : m.catalogue.Orderly)
    (hr : ∀ document ∈ r.write.documents, document.KeysIncrease)
    (hdone : (m.indexOf r.index).apply r.id r.write = .ok index) :
  (m.setIndex r.index index).catalogue = m.catalogue.carryOut r
  := by
  obtain ⟨name, id, w⟩ := r
  cases w with
  | index document =>
      obtain rfl := Except.ok.inj hdone
      apply catalogue_put
  | update given =>
      simp only [Index.apply] at hdone
      split at hdone
      case h_1 current hcurrent =>
        obtain rfl := Except.ok.inj hdone
        have hstored : m.catalogue.document name id = some current := hcurrent
        rw [catalogue_put, Catalogue.carryOut, hstored,
          Document.merge_eq_overridden (h.keysIncrease _ _ _ hstored) (hr given List.mem_cons_self)]
      case h_2 hnone => cases hdone
  | delete =>
      simp only [Index.apply] at hdone
      split at hdone
      case h_1 current hcurrent =>
        obtain rfl := Except.ok.inj hdone
        apply catalogue_remove
      case h_2 hnone => cases hdone

/-- A write is done when the catalogue accepts it. -/
theorem WriteOutcome.accepts_iff {r : WriteRequest} {outcome : Except Fault WriteResponse}
    {m' : Memory} (h : m.WriteOutcome r outcome m') :
  m.catalogue.Accepts r ↔ outcome = .ok .done
  := by
  cases h with
  | faulted fault hfault => simp [Catalogue.Accepts, catalogue, hfault]
  | rejected hfault hid => simp [Catalogue.Accepts, catalogue, hid]
  | refused reason hfault hid hrefused =>
      constructor
      · rintro ⟨-, -, hneeds⟩
        obtain ⟨index, hindex⟩ := Index.exists_apply_iff.mpr hneeds
        rw [hindex] at hrefused
        cases hrefused
      · rintro ⟨⟩
  | done index hfault hid hdone =>
      have hneeds := Index.exists_apply_iff.mp ⟨index, hdone⟩
      exact iff_of_true ⟨hfault, hid, hneeds⟩ rfl

/-- The catalogue after a write is what the catalogue makes of the write. -/
theorem WriteOutcome.catalogue_eq {r : WriteRequest} {outcome : Except Fault WriteResponse}
    {m' : Memory} (h : m.WriteOutcome r outcome m') (horderly : m.catalogue.Orderly)
    (hr : ∀ document ∈ r.write.documents, document.KeysIncrease) :
  m'.catalogue = m.catalogue.write r
  := by
  have haccepts := h.accepts_iff
  rw [Catalogue.write]
  cases h with
  | faulted fault hfault =>
      rw [if_neg (by simp [haccepts])]
      rfl
  | rejected hfault hid =>
      rw [if_neg (by simp [haccepts]), ← hfault]
      rfl
  | refused reason hfault hid hrefused =>
      rw [if_neg (by simp [haccepts]), catalogue_createIndex, ← hfault]
      rfl
  | done index hfault hid hdone =>
      rw [if_pos (haccepts.mpr rfl)]
      apply catalogue_of_apply horderly hr hdone

/-- A search takes away a fault that is set. -/
theorem catalogue_search {q : SearchRequest} :
  (m.search q).2.catalogue = { m.catalogue with nextFault := none }
  := by
  rw [search]
  split
  case h_1 fault hfault => rfl
  case h_2 hfault =>
    rw [← hfault]
    split <;> rfl

/-- An operation does to the catalogue of an engine what it means for catalogues. -/
theorem catalogue_perform {operation : Operation} (h : m.catalogue.Orderly)
    (hoperation : ∀ document ∈ operation.documents, document.KeysIncrease) :
  (operation.perform m).catalogue = m.catalogue.perform operation
  := by
  cases operation with
  | createIndex name => apply catalogue_createIndex
  | insertAll name rows => apply catalogue_insertAll
  | insert name id document => apply catalogue_put
  | rejectId id => rfl
  | failNext fault => rfl
  | refuseNextSearch diagnostic => rfl
  | write r => apply (m.write_outcome r).catalogue_eq h hoperation
  | search q => apply catalogue_search

/-- Operations one by one do to the catalogue of an engine what they mean for catalogues. -/
theorem catalogue_run {operations : List Operation} (h : m.catalogue.Orderly)
    (hoperations : ∀ operation ∈ operations, ∀ document ∈ operation.documents,
      document.KeysIncrease) :
  (run operations m).catalogue = m.catalogue.run operations ∧ (run operations m).catalogue.Orderly
  := by
  induction operations generalizing m with
  | nil => exact ⟨rfl, h⟩
  | cons operation operations ih =>
      obtain ⟨hoperation, hrest⟩ := List.forall_mem_cons.mp hoperations
      have hstep := catalogue_perform h hoperation
      have horderly : (operation.perform m).catalogue.Orderly := by
        rw [hstep]
        apply h.perform hoperation
      obtain ⟨hrun, hafter⟩ := ih horderly hrest
      rw [hstep] at hrun
      exact ⟨hrun, hafter⟩

end Memory

/-- An engine in memory holds what its operations mean for an insertion-ordered map: the ids of
every index are distinct, the documents of an index come in the order of the ids, and each id has
the document that the map gives.  A write is done exactly when the map accepts it, and an operation
leaves every document as it was that it does not write. -/
theorem agrees_with_catalogue {operations : List Memory.Operation}
    (h : ∀ operation ∈ operations, ∀ document ∈ operation.documents, document.KeysIncrease) :
  let m := Memory.run operations .empty
  let c := Catalogue.empty.run operations
  (∀ name, (m.indexOf name).ids.Nodup) ∧
  (∀ name, m.documents name = c.documents name) ∧
  (∀ name id, m.document? name id = c.document name id) ∧
  (∀ r, (m.write r).1 = .ok .done ↔ c.Accepts r) ∧
  ∀ (operation : Memory.Operation) name id, ¬ operation.Writes name id →
    (operation.perform m).document? name id = m.document? name id
  := by
  intro m c
  obtain ⟨hrun, horderly⟩ := Memory.catalogue_run (m := .empty) Catalogue.orderly_empty h
  have hc : m.catalogue = c := hrun
  rw [← hc]
  refine ⟨horderly.nodup, ?_, fun name id => rfl, ?_, ?_⟩
  · intro name
    apply Index.documents_eq (horderly.nodup name)
  · intro r
    apply (m.write_outcome r).accepts_iff.symm
  · intro operation name id
    apply Memory.Operation.document?_perform

/-- An update, a rejected id, a fault, a removal of an id that is not there and one of an id that is
there. -/
theorem agrees_with_catalogue_of_updates :
  let operations : List Memory.Operation :=
    [.insertAll "shelf" [("a", .obj [("kind", .str "book"), ("year", .num (.int 1950))]),
      ("b", .num (.int 7)), ("c", .str "last")], .rejectId "z",
      .write ⟨"shelf", "a", .update (.obj [("title", .str "New"), ("year", .num (.int 1999))])⟩,
      .write ⟨"shelf", "z", .index .null⟩, .failNext (.timeout 3),
      .write ⟨"shelf", "c", .delete⟩, .write ⟨"other", "a", .delete⟩,
      .write ⟨"shelf", "b", .delete⟩]
  let m := Memory.run operations .empty
  let c := Catalogue.empty.run operations
  (∀ operation ∈ operations, ∀ document ∈ operation.documents, document.KeysIncrease) ∧
  (m.indexOf "shelf").ids.Nodup ∧
  m.documents "shelf" = c.documents "shelf" ∧
  c.documents "shelf" =
    [.obj [("kind", .str "book"), ("title", .str "New"), ("year", .num (.int 1999))],
      .str "last"] ∧
  m.document? "shelf" "b" = none
  := by
  intro operations m c
  have h : ∀ operation ∈ operations, ∀ document ∈ operation.documents, document.KeysIncrease := by
    decide +kernel
  have hdocuments : c.documents "shelf" =
      [.obj [("kind", .str "book"), ("title", .str "New"), ("year", .num (.int 1999))],
        .str "last"] := by
    decide +kernel
  have hnone : c.document "shelf" "b" = none := by decide +kernel
  obtain ⟨hnodup, hsame, hget, -, -⟩ := agrees_with_catalogue h
  exact ⟨h, hnodup "shelf", hsame "shelf", hdocuments, (hget "shelf" "b").trans hnone⟩

end DocSearch
