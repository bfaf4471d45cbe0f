import Mathlib.Data.List.Basic
import DocSearch.Engine.Basic
import DocSearch.Proofs.SortedMap

/-!
# Operations on an engine in memory

`Memory.WriteOutcome` and `Memory.SearchOutcome` say once what a write and a search can come to, and
`Engine.begin_of_slow` and `Engine.begin_of_prompt` how a call that can be cancelled begins.
`Memory.Operation` lists all that can be done to an engine in memory, and `Memory.run` does many of
them one after the other.  An operation changes no document but those that it writes:
`Memory.Operation.document?_perform`.
-/

namespace DocSearch

namespace Index

variable {index : Index} {id other : String}

/-- A write of a document leaves every other document of its index as it was. -/
theorem get?_of_apply {w : Write} {index' : Index} (h : index.apply id w = .ok index')
    (hother : other ≠ id) :
  index'.get? other = index.get? other
  := by
  cases w with
  | index document =>
      obtain rfl := Except.ok.inj h
      rw [get?_put, if_neg hother]
  | update changes =>
      simp only [apply] at h
      split at h
      · obtain rfl := Except.ok.inj h
        rw [get?_put, if_neg hother]
      · cases h
  | delete =>
      simp only [apply] at h
      split at h
      · obtain rfl := Except.ok.inj h
        rw [get?_remove, if_neg hother]
      · cases h

/-- The documents that are put into an index are the only ones that change. -/
theorem get?_foldl_put {rows : List (String × Json)} (hother : other ∉ rows.map (·.1)) :
  (rows.foldl (fun index row => index.put row.1 row.2) index).get? other = index.get? other
  := by
  induction rows generalizing index with
  | nil => rfl
  | cons row rows ih =>
      rw [List.map_cons, List.mem_cons, not_or] at hother
      rw [List.foldl_cons, ih hother.2, get?_put, if_neg hother.1]

end Index

namespace Memory

variable {m : Memory} {name other id : String} {r : WriteRequest}

/-! ### Indexes of an engine -/

@[simp]
theorem indexOf_setIndex {index : Index} :
  (m.setIndex name index).indexOf other = if name = other then index else m.indexOf other
  := by
  rw [indexOf, setIndex, SortedMap.get?_insert]
  split <;> rfl

theorem setIndex_setIndex {index index' : Index} :
  (m.setIndex name index).setIndex name index' = m.setIndex name index'
  := by
  simp only [setIndex, SortedMap.insert_insert]

@[simp]
theorem indexOf_createIndex :
  (m.createIndex name).indexOf other = m.indexOf other
  := by
  rw [createIndex, indexOf_setIndex]
  split
  · rename_i h
    rw [h]
  · rfl

/-! ### Writes -/

/-- What a write can come to: the fault that is set for it, a refusal because of its id or because
there is no such document, or the index with the write carried out. -/
inductive WriteOutcome (m : Memory) (r : WriteRequest) :
    Except Fault WriteResponse → Memory → Prop
  | faulted (fault : Fault) (hfault : m.nextFault = some fault) :
      WriteOutcome m r (.error fault) { m with writes := m.writes + 1, nextFault := none }
  | rejected (hfault : m.nextFault = none) (hid : r.id ∈ m.rejectedIds) :
      WriteOutcome m r (.ok (.invalid (Refusal.rejected r.id).diagnostic))
        { m with writes := m.writes + 1 }
  | refused (reason : Refusal) (hfault : m.nextFault = none) (hid : r.id ∉ m.rejectedIds)
      (hrefused : (m.indexOf r.index).apply r.id r.write = .error reason) :
      WriteOutcome m r (.ok (.invalid reason.diagnostic))
        ({ m with writes := m.writes + 1 }.createIndex r.index)
  | done (index : Index) (hfault : m.nextFault = none) (hid : r.id ∉ m.rejectedIds)
      (hdone : (m.indexOf r.index).apply r.id r.write = .ok index) :
      WriteOutcome m r (.ok .done) ({ m with writes := m.writes + 1 }.setIndex r.index index)

/-- A write comes to one of its outcomes. -/
theorem write_outcome (m : Memory) (r : WriteRequest) :
  m.WriteOutcome r (m.write r).1 (m.write r).2
  := by
  generalize hresult : m.write r = result
  rw [write] at hresult
  split at hresult
  case h_1 fault hfault =>
    subst hresult
    exact WriteOutcome.faulted fault hfault
  case h_2 hfault =>
    split at hresult
    case isTrue hid =>
      subst hresult
      exact WriteOutcome.rejected hfault hid
    case isFalse hid =>
      split at hresult
      case h_1 index hdone =>
        subst hresult
        exact WriteOutcome.done index hfault hid hdone
      case h_2 reason hrefused =>
        subst hresult
        exact WriteOutcome.refused reason hfault hid hrefused

/-- A write has one outcome only. -/
theorem WriteOutcome.write_eq {outcome : Except Fault WriteResponse} {m' : Memory}
    (h : m.WriteOutcome r outcome m') :
  m.write r = (outcome, m')
  := by
  -- `write` looks the index up after it has counted the call.
  have hindexOf : ∀ n, Memory.indexOf { m with writes := n } r.index = m.indexOf r.index :=
    fun n => rfl
  rw [write]
  cases h with
  | faulted fault hfault => simp only [hfault]
  | rejected hfault hid => simp only [hfault, if_pos hid]
  | refused reason hfault hid hrefused =>
      simp only [hfault, if_neg hid]
      rw [← hfault]
      simp only [hindexOf, hrefused]
  | done index hfault hid hdone =>
      simp only [hfault, if_neg hid]
      rw [← hfault]
      simp only [hindexOf, hdone]

/-- A write is counted, whatever it comes to. -/
theorem WriteOutcome.writes_eq {outcome : Except Fault WriteResponse} {m' : Memory}
    (h : m.WriteOutcome r outcome m') :
  m'.writes = m.writes + 1
  := by
  cases h <;> rfl

/-- A write is not a search. -/
theorem WriteOutcome.searches_eq {outcome : Except Fault WriteResponse} {m' : Memory}
    (h : m.WriteOutcome r outcome m') :
  m'.searches = m.searches
  := by
  cases h <;> rfl

/-- A write does not make an engine slow or fast. -/
theorem WriteOutcome.slow_eq {outcome : Except Fault WriteResponse} {m' : Memory}
    (h : m.WriteOutcome r outcome m') :
  m'.slow = m.slow
  := by
  cases h <;> rfl

/-- A write leaves every other document as it was. -/
theorem WriteOutcome.document?_eq {outcome : Except Fault WriteResponse} {m' : Memory}
    (h : m.WriteOutcome r outcome m') (hother : ¬ (name = r.index ∧ id = r.id)) :
  m'.document? name id = m.document? name id
  := by
  cases h with
  | faulted fault hfault => rfl
  | rejected hfault hid => rfl
  | refused reason hfault hid hrefused =>
      rw [document?, indexOf_createIndex]
      rfl
  | done index hfault hid hdone =>
      rw [document?, indexOf_setIndex]
      split
      case isTrue hname =>
        subst hname
        apply Index.get?_of_apply hdone
        intro heq
        apply hother ⟨rfl, heq⟩
      case isFalse hname => rfl

/-- A write takes the fault that is set. -/
theorem WriteOutcome.nextFault_eq {outcome : Except Fault WriteResponse} {m' : Memory}
    (h : m.WriteOutcome r outcome m') :
  m'.nextFault = none
  := by
  cases h with
  | faulted fault hfault => rfl
  | rejected hfault hid => exact hfault
  | refused reason hfault hid hrefused => exact hfault
  | done index hfault hid hdone => exact hfault

/-- A write takes no refusal that is set for a search. -/
theorem WriteOutcome.nextDiagnostic_eq {outcome : Except Fault WriteResponse} {m' : Memory}
    (h : m.WriteOutcome r outcome m') :
  m'.nextDiagnostic = m.nextDiagnostic
  := by
  cases h <;> rfl

theorem WriteOutcome.rejectedIds_eq {outcome : Except Fault WriteResponse} {m' : Memory}
    (h : m.WriteOutcome r outcome m') :
  m'.rejectedIds = m.rejectedIds
  := by
  cases h <;> rfl

/-- A write fails for the fault that is set, and for no other reason. -/
theorem WriteOutcome.eq_error_iff {outcome : Except Fault WriteResponse} {m' : Memory}
    (h : m.WriteOutcome r outcome m') (fault : Fault) :
  outcome = .error fault ↔ m.nextFault = some fault
  := by
  cases h with
  | faulted fault' hfault => rw [hfault, Except.error.injEq, Option.some.injEq]
  | rejected hfault hid =>
      rw [hfault]
      constructor <;> intro heq <;> cases heq
  | refused reason hfault hid hrefused =>
      rw [hfault]
      constructor <;> intro heq <;> cases heq
  | done index hfault hid hdone =>
      rw [hfault]
      constructor <;> intro heq <;> cases heq

/-! ### Searches -/

/-- What a search can come to: the fault that is set for it, the refusal that is set for it, or its
answer. -/
inductive SearchOutcome (m : Memory) (q : SearchRequest) :
    Except Fault SearchResponse → Memory → Prop
  | faulted (fault : Fault) (hfault : m.nextFault = some fault) :
      SearchOutcome m q (.error fault)
        { m with searches := m.searches + 1, lastSearch := some q, nextFault := none }
  | refused (diagnostic : String) (hfault : m.nextFault = none)
      (hdiagnostic : m.nextDiagnostic = some diagnostic) :
      SearchOutcome m q (.ok (.invalid diagnostic))
        { m with searches := m.searches + 1, lastSearch := some q, nextDiagnostic := none }
  | answered (hfault : m.nextFault = none) (hdiagnostic : m.nextDiagnostic = none) :
      SearchOutcome m q (.ok (m.answer q))
        { m with searches := m.searches + 1, lastSearch := some q }

/-- A search comes to one of its outcomes. -/
theorem search_outcome (m : Memory) (q : SearchRequest) :
  m.SearchOutcome q (m.search q).1 (m.search q).2
  := by
  rw [search]
  split
  case h_1 fault hfault => exact SearchOutcome.faulted fault hfault
  case h_2 hfault =>
    split
    case h_1 diagnostic hdiagnostic =>
      exact SearchOutcome.refused diagnostic hfault hdiagnostic
    case h_2 hdiagnostic => exact SearchOutcome.answered hfault hdiagnostic

section SearchOutcome

variable {q : SearchRequest} {outcome : Except Fault SearchResponse} {m' : Memory}

/-- A search is counted, whatever it comes to. -/
theorem SearchOutcome.searches_eq (h : m.SearchOutcome q outcome m') :
  m'.searches = m.searches + 1
  := by
  cases h <;> rfl

/-- A search is not a write. -/
theorem SearchOutcome.writes_eq (h : m.SearchOutcome q outcome m') :
  m'.writes = m.writes
  := by
  cases h <;> rfl

theorem SearchOutcome.slow_eq (h : m.SearchOutcome q outcome m') :
  m'.slow = m.slow
  := by
  cases h <;> rfl

/-- A search leaves the indexes as they are. -/
theorem SearchOutcome.indexes_eq (h : m.SearchOutcome q outcome m') :
  m'.indexes = m.indexes
  := by
  cases h <;> rfl

theorem SearchOutcome.rejectedIds_eq (h : m.SearchOutcome q outcome m') :
  m'.rejectedIds = m.rejectedIds
  := by
  cases h <;> rfl

/-- A search takes the fault that is set. -/
theorem SearchOutcome.nextFault_eq (h : m.SearchOutcome q outcome m') :
  m'.nextFault = none
  := by
  cases h with
  | faulted fault hfault => rfl
  | refused diagnostic hfault hdiagnostic => exact hfault
  | answered hfault hdiagnostic => exact hfault

/-- A search takes the refusal that is set for it, unless it takes a fault. -/
theorem SearchOutcome.nextDiagnostic_eq (h : m.SearchOutcome q outcome m') :
  m'.nextDiagnostic = if m.nextFault.isNone then none else m.nextDiagnostic
  := by
  cases h with
  | faulted fault hfault => simp only [hfault, Option.isNone_some, Bool.false_eq_true, if_false]
  | refused diagnostic hfault hdiagnostic => simp only [hfault, Option.isNone_none, if_true]
  | answered hfault hdiagnostic =>
      simp only [hfault, Option.isNone_none, if_true]
      exact hdiagnostic

/-- A search fails for the fault that is set, and for no other reason. -/
theorem SearchOutcome.eq_error_iff (h : m.SearchOutcome q outcome m') (fault : Fault) :
  outcome = .error fault ↔ m.nextFault = some fault
  := by
  cases h with
  | faulted fault' hfault => rw [hfault, Except.error.injEq, Option.some.injEq]
  | refused diagnostic hfault hdiagnostic =>
      rw [hfault]
      constructor <;> intro heq <;> cases heq
  | answered hfault hdiagnostic =>
      rw [hfault]
      constructor <;> intro heq <;> cases heq

end SearchOutcome

end Memory

/-! ### Calls that can be cancelled -/

namespace Engine

variable {ρ : Type} {x : Exchange ρ} {m : Memory}

/-- A slow engine lets a call wait, unless it is cancelled already. -/
theorem begin_of_slow (hslow : m.slow = true) (cancelled : Bool) :
  (Engine.memory m).begin x cancelled =
    (if cancelled then .finished (.error .aborted) else .waiting .slow, none, .memory m)
  := by
  simp [begin, wait?, hslow]

/-- An engine that is not slow carries out a call at once. -/
theorem begin_of_prompt (hslow : m.slow = false) (cancelled : Bool) :
  (Engine.memory m).begin x cancelled =
    (.finished (x.run m).1, none, .memory (x.run m).2)
  := by
  simp [begin, wait?, hslow, perform]

end Engine

/-! ### Operations -/

namespace Memory

variable {m : Memory} {name id : String}

/-- What can be done to an engine in memory. -/
inductive Operation where
  | createIndex (name : String)
  | insertAll (name : String) (rows : List (String × Json))
  | insert (name id : String) (document : Json)
  | rejectId (id : String)
  | failNext (fault : Fault)
  | refuseNextSearch (diagnostic : String)
  | write (r : WriteRequest)
  | search (r : SearchRequest)

namespace Operation

/-- The engine after an operation. -/
def perform : Operation → Memory → Memory
  | createIndex name, m => m.createIndex name
  | insertAll name rows, m => m.insertAll name rows
  | insert name id document, m => m.insert name id document
  | rejectId id, m => m.rejectId id
  | failNext fault, m => m.failNext fault
  | refuseNextSearch diagnostic, m => m.refuseNextSearch diagnostic
  | write r, m => (m.write r).2
  | search r, m => (m.search r).2

/-- The documents that an operation may write. -/
def Writes : Operation → String → String → Prop
  | insertAll index rows, name, id => name = index ∧ id ∈ rows.map (·.1)
  | insert index other _, name, id => name = index ∧ id = other
  | write r, name, id => name = r.index ∧ id = r.id
  | _, _, _ => False

end Operation

/-- The engine after operations one by one. -/
def run (operations : List Operation) (m : Memory) : Memory :=
  operations.foldl (fun m operation => operation.perform m) m

theorem indexes_search (m : Memory) (q : SearchRequest) :
  (m.search q).2.indexes = m.indexes
  := (m.search_outcome q).indexes_eq

/-- An operation leaves every document as it was that it does not write. -/
theorem Operation.document?_perform {operation : Operation}
    (h : ¬ operation.Writes name id) :
  (operation.perform m).document? name id = m.document? name id
  := by
  cases operation with
  | createIndex other => rw [perform, document?, indexOf_createIndex, document?]
  | insertAll other rows =>
      rw [perform, document?, Memory.insertAll, indexOf_setIndex]
      split
      case isTrue hname =>
        subst hname
        apply Index.get?_foldl_put
        intro hmem
        apply h ⟨rfl, hmem⟩
      case isFalse hname => rfl
  | insert other id' document =>
      rw [perform, document?, Memory.insert, indexOf_setIndex]
      split
      case isTrue hname =>
        subst hname
        rw [Index.get?_put, if_neg fun heq => h ⟨rfl, heq⟩]
        rfl
      case isFalse hname => rfl
  | rejectId id' => rfl
  | failNext fault => rfl
  | refuseNextSearch diagnostic => rfl
  | write r => apply (m.write_outcome r).document?_eq h
  | search q => rw [perform, document?, indexOf, indexes_search, document?, indexOf]

end Memory

end DocSearch
