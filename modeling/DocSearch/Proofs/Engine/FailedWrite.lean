import DocSearch.Proofs.Engine.Operation

/-!
# After a write that failed

A write that fails changes no document.  It leaves one trace: when it is refused because its
document is not there, its index is created if it was missing, and a later search finds nothing
there instead of being refused.  `answers_after_failed_write` compares all that can be asked later
with an engine on which the write was never made, and `search_after_refused_delete` shows the trace.
-/

namespace DocSearch

namespace Memory

variable {m m' : Memory} {created : String → Prop} {name : String}

/-! ### Engines that resemble each other -/

/-- Two engines do the same and hold the same, but for indexes that the second one has `created`:
they are missing in the first one and empty in the second one. -/
structure Resembles (created : String → Prop) (m m' : Memory) : Prop where
  rejectedIds : m'.rejectedIds = m.rejectedIds
  nextFault : m'.nextFault = m.nextFault
  nextDiagnostic : m'.nextDiagnostic = m.nextDiagnostic
  index : ∀ name, m'.indexes.get? name = m.indexes.get? name ∨
    created name ∧ m.indexes.get? name = none ∧ m'.indexes.get? name = some .empty

namespace Resembles

/-- An index that is missing is as good as an empty one when its documents are asked for. -/
theorem indexOf_eq (h : Resembles created m m') (name : String) :
  m'.indexOf name = m.indexOf name
  := by
  rw [indexOf, indexOf]
  rcases h.index name with hsame | ⟨-, hmissing, hempty⟩
  · rw [hsame]
  · rw [hmissing, hempty]
    rfl

theorem setIndex (h : Resembles created m m') (name : String) (index : Index) :
  Resembles created (m.setIndex name index) (m'.setIndex name index)
  := by
  constructor
  case rejectedIds => exact h.rejectedIds
  case nextFault => exact h.nextFault
  case nextDiagnostic => exact h.nextDiagnostic
  case index =>
    intro other
    simp only [Memory.setIndex, SortedMap.get?_insert]
    by_cases hname : name = other
    · left
      rw [if_pos hname, if_pos hname]
    · rw [if_neg hname, if_neg hname]
      apply h.index

theorem createIndex (h : Resembles created m m') (name : String) :
  Resembles created (m.createIndex name) (m'.createIndex name)
  := by
  rw [Memory.createIndex, Memory.createIndex, h.indexOf_eq]
  apply h.setIndex

/-- Engines that resemble each other answer a write alike, and resemble each other after it. -/
theorem write (h : Resembles created m m') (r : WriteRequest) :
  (m'.write r).1 = (m.write r).1 ∧ Resembles created (m.write r).2 (m'.write r).2
  := by
  have hcount : Resembles created { m with writes := m.writes + 1 }
      { m' with writes := m'.writes + 1 } := ⟨h.1, h.2, h.3, h.4⟩
  have houtcome := m.write_outcome r
  generalize m.write r = result at houtcome ⊢
  obtain ⟨outcome, m₁⟩ := result
  cases houtcome with
  | faulted fault hfault =>
      have hfault' : m'.nextFault = some fault := h.nextFault.trans hfault
      rw [(WriteOutcome.faulted fault hfault').write_eq]
      exact ⟨rfl, h.1, rfl, h.3, h.4⟩
  | rejected hfault hid =>
      have hid' : r.id ∈ m'.rejectedIds := h.rejectedIds ▸ hid
      rw [(WriteOutcome.rejected (h.nextFault.trans hfault) hid').write_eq]
      exact ⟨rfl, hcount⟩
  | refused reason hfault hid hrefused =>
      have hid' : r.id ∉ m'.rejectedIds := h.rejectedIds ▸ hid
      have hrefused' : (m'.indexOf r.index).apply r.id r.write = .error reason := by
        rw [h.indexOf_eq, hrefused]
      rw [(WriteOutcome.refused reason (h.nextFault.trans hfault) hid' hrefused').write_eq]
      exact ⟨rfl, hcount.createIndex r.index⟩
  | done index hfault hid hdone =>
      have hid' : r.id ∉ m'.rejectedIds := h.rejectedIds ▸ hid
      have hdone' : (m'.indexOf r.index).apply r.id r.write = .ok index := by
        rw [h.indexOf_eq, hdone]
      rw [(WriteOutcome.done index (h.nextFault.trans hfault) hid' hdone').write_eq]
      exact ⟨rfl, hcount.setIndex r.index index⟩

/-- Engines that resemble each other do so after a search. -/
theorem search (h : Resembles created m m') (q : SearchRequest) :
  Resembles created (m.search q).2 (m'.search q).2
  := by
  simp only [Memory.search, h.nextFault, h.nextDiagnostic]
  split
  case h_1 fault hfault => exact ⟨h.1, rfl, rfl, h.4⟩
  case h_2 hfault =>
    split
    case h_1 diagnostic hdiagnostic => exact ⟨h.1, rfl, rfl, h.4⟩
    case h_2 hdiagnostic => exact ⟨h.1, rfl, rfl, h.4⟩

/-- Engines that resemble each other answer a search alike, unless it is one of an index that only
the second engine has, and nothing is set for the next search. -/
theorem search_eq (h : Resembles created m m') (q : SearchRequest) :
  (m'.search q).1 = (m.search q).1 ∨
    created q.index ∧ (m.search q).1 = .ok (.invalid (Refusal.noIndex q.index).diagnostic) ∧
      (m'.search q).1 = .ok ((Memory.empty.createIndex q.index).answer q)
  := by
  simp only [Memory.search, h.nextFault, h.nextDiagnostic]
  split
  case h_1 fault hfault => exact Or.inl rfl
  case h_2 hfault =>
    split
    case h_1 diagnostic hdiagnostic => exact Or.inl rfl
    case h_2 hdiagnostic =>
      simp only [answer]
      rcases h.index q.index with hsame | ⟨hcreated, hmissing, hempty⟩
      · left
        rw [hsame]
      · right
        rw [hmissing, hempty, Memory.createIndex, Memory.setIndex, SortedMap.get?_insert,
          if_pos rfl]
        exact ⟨hcreated, rfl, rfl⟩

/-- Engines that resemble each other do so after an operation. -/
theorem perform (h : Resembles created m m') (operation : Operation) :
  Resembles created (operation.perform m) (operation.perform m')
  := by
  cases operation with
  | createIndex name => apply h.createIndex
  | insertAll name rows =>
      rw [Operation.perform, Operation.perform, insertAll, insertAll, h.indexOf_eq]
      apply h.setIndex
  | insert name id document =>
      rw [Operation.perform, Operation.perform, Memory.insert, Memory.insert, h.indexOf_eq]
      apply h.setIndex
  | rejectId id => exact ⟨congrArg (id :: ·) h.1, h.2, h.3, h.4⟩
  | failNext fault => exact ⟨h.1, rfl, h.3, h.4⟩
  | refuseNextSearch diagnostic => exact ⟨h.1, h.2, rfl, h.4⟩
  | write r => apply (h.write r).2
  | search q => apply h.search

/-- Engines that resemble each other do so after operations one by one. -/
theorem run (h : Resembles created m m') (operations : List Operation) :
  Resembles created (run operations m) (run operations m')
  := by
  induction operations generalizing m m' with
  | nil => exact h
  | cons operation operations ih => apply ih (h.perform operation)

end Resembles

/-! ### Answers to a write -/

/-- A write is answered: by an engine that answers at once, or when a call that waits is resumed.
A slow engine gives up a call that is cancelled in time. -/
def Answers (m : Memory) (r : WriteRequest) (outcome : Except Fault WriteResponse) (m' : Memory) :
    Prop :=
  (∃ cancelled, (Engine.memory m).begin (.write r) cancelled =
    (.finished outcome, none, .memory m')) ∨
  ∃ wait delay, (Engine.memory m).resume (.write r) wait delay =
    (.finished outcome, none, .memory m')

/-- A write that is answered was carried out, or was given up before it reached the engine. -/
theorem Answers.cases {r : WriteRequest} {outcome : Except Fault WriteResponse}
    (h : m.Answers r outcome m') :
  m.WriteOutcome r outcome m' ∨ outcome = .error .aborted ∧ m' = m
  := by
  have houtcome := m.write_outcome r
  rcases h with ⟨cancelled, h⟩ | ⟨wait, delay, h⟩
  · cases hslow : m.slow with
    | false =>
        rw [Engine.begin_of_prompt hslow] at h
        cases h
        left
        exact houtcome
    | true =>
        rw [Engine.begin_of_slow hslow] at h
        cases cancelled with
        | false => cases h
        | true =>
            cases h
            right
            exact ⟨rfl, rfl⟩
  · cases wait with
    | silent => cases h
    | slow =>
        cases delay with
        | running => cases h
        | elapsed =>
            cases h
            left
            exact houtcome
        | aborted =>
            cases h
            right
            exact ⟨rfl, rfl⟩

/-- A write that failed leaves an engine that resembles the one without the write, but for its
index, which it creates when no fault is set, its id is not rejected, and the index is missing. -/
theorem Answers.resembles {r : WriteRequest} {outcome : Except Fault WriteResponse}
    (h : m.Answers r outcome m') (hfailed : outcome ≠ .ok .done) :
  Resembles (fun name => name = r.index ∧ m.nextFault = none ∧ r.id ∉ m.rejectedIds ∧
    m.indexes.get? r.index = none) { m with nextFault := m'.nextFault } m'
  := by
  rcases h.cases with houtcome | ⟨-, rfl⟩
  · cases houtcome with
    | faulted fault hfault => exact ⟨rfl, rfl, rfl, fun name => Or.inl rfl⟩
    | rejected hfault hid => exact ⟨rfl, rfl, rfl, fun name => Or.inl rfl⟩
    | refused reason hfault hid hrefused =>
        refine ⟨rfl, rfl, rfl, ?_⟩
        intro name
        simp only [Memory.createIndex, Memory.setIndex, SortedMap.get?_insert, Memory.indexOf]
        by_cases hname : r.index = name
        · subst hname
          rw [if_pos rfl]
          cases hindex : m.indexes.get? r.index with
          | some index => exact Or.inl rfl
          | none => exact Or.inr ⟨⟨rfl, hfault, hid, rfl⟩, rfl, rfl⟩
        · left
          rw [if_neg hname]
    | done index hfault hid hdone => cases hfailed rfl
  · exact ⟨rfl, rfl, rfl, fun name => Or.inl rfl⟩

end Memory

/-- After a write that failed, and after any operations that follow it, every document is what it
would be if the write had not been made, apart from the fault that the write may take away.  So is
the answer to every search, unless it is a search of the index of the write, which the write has
created: no fault was set for the write, its id is not rejected, and the index was missing.  Then
the search finds what there is in an empty index, and without the write it would be refused. -/
theorem answers_after_failed_write {m m' : Memory} {r : WriteRequest}
    {outcome : Except Fault WriteResponse} (h : m.Answers r outcome m')
    (hfailed : outcome ≠ .ok .done) (later : List Memory.Operation) :
  let made := Memory.run later m'
  let unmade := Memory.run later { m with nextFault := m'.nextFault }
  (∀ name, made.documents name = unmade.documents name) ∧
  (∀ name id, made.document? name id = unmade.document? name id) ∧
  ∀ q, (made.search q).1 = (unmade.search q).1 ∨
    (q.index = r.index ∧ m.nextFault = none ∧ r.id ∉ m.rejectedIds ∧
      m.indexes.get? r.index = none) ∧
    (unmade.search q).1 = .ok (.invalid (Refusal.noIndex q.index).diagnostic) ∧
    (made.search q).1 = .ok ((Memory.empty.createIndex q.index).answer q)
  := by
  intro made unmade
  have hafter := (h.resembles hfailed).run later
  refine ⟨?_, ?_, hafter.search_eq⟩
  · intro name
    rw [Memory.documents, hafter.indexOf_eq, Memory.documents]
  · intro name id
    rw [Memory.document?, hafter.indexOf_eq, Memory.document?]

/-- A fault that was set for an update of a missing index, after which another index is created. -/
theorem answers_after_failed_write_of_fault :
  let m := Memory.empty.failNext (.timeout 5)
  let r : WriteRequest := ⟨"docs", "1", .update .null⟩
  let m' := { Memory.empty with writes := 1 }
  let later : List Memory.Operation := [.insert "notes" "1" (.str "kept")]
  m.Answers r (.error (.timeout 5)) m' ∧
  (.error (.timeout 5) : Except Fault WriteResponse) ≠ .ok .done ∧
  (Memory.run later m').documents "notes" = [.str "kept"] ∧
  ((Memory.run later m').search (.ofIndex "docs")).1 =
    .ok (.invalid (Refusal.noIndex "docs").diagnostic)
  := by
  intro m r m' later
  have h : m.Answers r (.error (.timeout 5)) m' := Or.inl ⟨false, rfl⟩
  have hfailed : (.error (.timeout 5) : Except Fault WriteResponse) ≠ .ok .done := by simp
  obtain ⟨hdocuments, -, hsearch⟩ := answers_after_failed_write h hfailed later
  refine ⟨h, hfailed, hdocuments "notes", ?_⟩
  rcases hsearch (.ofIndex "docs") with hsame | ⟨⟨-, hfault, -⟩, -⟩
  · exact hsame
  · cases hfault

/-- A removal from a missing index is refused, and creates it: a search of the index is refused
without the removal, and finds nothing after it. -/
theorem search_after_refused_delete :
  let m := Memory.empty
  let r : WriteRequest := ⟨"docs", "1", .delete⟩
  let q := SearchRequest.ofIndex "docs"
  m.Answers r (.ok (.invalid "not_found: [1]")) (m.write r).2 ∧
  (m.search q).1 = .ok (.invalid "index_not_found_exception: no such index [docs]") ∧
  ((m.write r).2.search q).1 = .ok (.hits ⟨[], 0, none⟩) ∧
  ((m.write r).2.search q).1 ≠ (m.search q).1
  := by
  intro m r q
  refine ⟨Or.inl ⟨false, rfl⟩, rfl, rfl, ?_⟩
  intro hsame
  cases hsame

end DocSearch
