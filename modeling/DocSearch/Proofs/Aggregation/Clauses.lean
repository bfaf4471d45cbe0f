import DocSearch.Aggregation.Evaluation
import DocSearch.Proofs.Outcome
import DocSearch.Proofs.SortedMap

/-!
# Clauses of aggregations

`Clause.WellFormed` says which clauses can be read, and `Clause.Fault` what is wrong with any other
one.  Clauses are evaluated one by one: every result is that of its clause alone
(`get?_of_evaluateClauses`), and the first faulty clause stops the evaluation
(`evaluateClauses_eq_error_iff`).
-/

namespace DocSearch.Aggregation

/-- A clause that can be read: an object with one entry, whose key is the name of a kind and whose
value has a text as its field. -/
inductive Clause.WellFormed : Json → Prop
  | intro (kind : Kind) {body : Json} {field : String} (h : body.get? "field" = some (.str field)) :
      WellFormed (.obj [(kind.name, body)])

/-- What is wrong with the clause of a name.  A clause without a field is faulty for that, whatever
its type is. -/
inductive Clause.Fault : String × Json → ClauseFault → Prop
  | notOneType {name : String} {clause : Json} (h : ∀ type body, clause ≠ .obj [(type, body)]) :
      Fault (name, clause) (.notOneType name)
  | noField {name type : String} {body : Json}
      (h : ∀ field, body.get? "field" ≠ some (.str field)) :
      Fault (name, .obj [(type, body)]) (.noField name)
  | unknownType {name type field : String} {body : Json}
      (h : body.get? "field" = some (.str field)) (htype : ∀ kind : Kind, kind.name ≠ type) :
      Fault (name, .obj [(type, body)]) (.unknownType type name)

/-! ### Reading a clause -/

namespace Kind

theorem ofName?_name (kind : Kind) :
  ofName? kind.name = some kind
  := by
  cases kind <;> rfl

/-- A text that is read as a kind is its name. -/
theorem name_of_ofName? {name : String} {kind : Kind} (h : ofName? name = some kind) :
  kind.name = name
  := by
  simpa using List.find?_some h

theorem ofName?_eq_none_iff {name : String} :
  ofName? name = none ↔ ∀ kind : Kind, kind.name ≠ name
  := by
  constructor
  · rintro h kind rfl
    rw [ofName?_name] at h
    cases h
  · intro h
    rw [Option.eq_none_iff_forall_ne_some]
    intro kind hkind
    exact h kind (name_of_ofName? hkind)

end Kind

theorem bind_string?_eq_some_iff {v : Option Json} {s : String} :
  v.bind Json.string? = some s ↔ v = some (.str s)
  := by
  rw [Option.bind_eq_some_iff]
  constructor
  · rintro ⟨w, rfl, hw⟩
    cases w <;> cases hw
    rfl
  · rintro rfl
    exact ⟨_, rfl, rfl⟩

theorem bind_string?_eq_none_iff {v : Option Json} :
  v.bind Json.string? = none ↔ ∀ s, v ≠ some (.str s)
  := by
  simp only [Option.eq_none_iff_forall_ne_some, ne_eq, bind_string?_eq_some_iff]

namespace Clause

/-- A clause of a kind over a field is read as such. -/
theorem ofJson_of_field (name : String) (kind : Kind) {body : Json} {field : String}
    (h : body.get? "field" = some (.str field)) :
  ofJson name (.obj [(kind.name, body)]) =
    .ok ⟨kind, field, ((body.get? "size").bind sizeOf?).getD defaultSize⟩
  := by
  simp only [ofJson, bind_string?_eq_some_iff.mpr h, Kind.ofName?_name]

/-- A clause is rejected for what is wrong with it. -/
theorem ofJson_eq_error_iff {entry : String × Json} {fault : ClauseFault} :
  ofJson entry.1 entry.2 = .error fault ↔ Fault entry fault
  := by
  obtain ⟨name, clause⟩ := entry
  constructor
  · intro h
    fun_cases ofJson name clause with
    | case1 type body hfield =>
        simp only [ofJson, hfield] at h
        obtain rfl := Except.error.inj h
        exact Fault.noField (bind_string?_eq_none_iff.mp hfield)
    | case2 type body field hfield htype =>
        simp only [ofJson, hfield, htype] at h
        obtain rfl := Except.error.inj h
        exact Fault.unknownType (bind_string?_eq_some_iff.mp hfield)
          (Kind.ofName?_eq_none_iff.mp htype)
    | case3 type body field hfield kind htype =>
        simp only [ofJson, hfield, htype] at h
        cases h
    | case4 clause hclause =>
        rw [ofJson] at h
        · obtain rfl := Except.error.inj h
          exact Fault.notOneType hclause
        · exact hclause
  · intro h
    cases h with
    | notOneType h =>
        rw [ofJson]
        exact h
    | noField h => simp only [ofJson, bind_string?_eq_none_iff.mpr h]
    | unknownType h htype =>
        simp only [ofJson, bind_string?_eq_some_iff.mpr h, Kind.ofName?_eq_none_iff.mpr htype]

/-- A clause has no fault exactly when it is well-formed. -/
theorem wellFormed_iff {entry : String × Json} :
  WellFormed entry.2 ↔ ∀ fault, ¬ Fault entry fault
  := by
  obtain ⟨name, clause⟩ := entry
  constructor
  · rintro ⟨kind, hfield⟩ fault hfault
    rw [← ofJson_eq_error_iff, ofJson_of_field name kind hfield] at hfault
    cases hfault
  · intro h
    fun_cases ofJson name clause with
    | case1 type body hfield =>
        exact absurd (Fault.noField (bind_string?_eq_none_iff.mp hfield)) (h _)
    | case2 type body field hfield htype =>
        exact absurd (Fault.unknownType (bind_string?_eq_some_iff.mp hfield)
          (Kind.ofName?_eq_none_iff.mp htype)) (h _)
    | case3 type body field hfield kind htype =>
        rw [← Kind.name_of_ofName? htype]
        exact WellFormed.intro kind (bind_string?_eq_some_iff.mp hfield)
    | case4 clause hclause => exact absurd (Fault.notOneType hclause) (h _)

end Clause

/-! ### Evaluating clauses one by one -/

variable {documents : List Json} {clauses results : Entries Json}

/-- A named clause is evaluated by itself. -/
def evaluateEntry (documents : List Json) (entry : String × Json) :
    Except ClauseFault (String × Json) := do
  return (entry.1, (← Clause.ofJson entry.1 entry.2).evaluate documents)

theorem evaluateClauses_eq_mapM :
  evaluateClauses documents clauses = clauses.mapM (evaluateEntry documents)
  := by
  induction clauses with
  | nil => rfl
  | cons entry rest ih =>
      rw [List.mapM_cons, evaluateClauses, ih, evaluateEntry]
      cases Clause.ofJson entry.1 entry.2 <;> rfl

theorem evaluateEntry_eq_error_iff {entry : String × Json} {fault : ClauseFault} :
  evaluateEntry documents entry = .error fault ↔ Clause.Fault entry fault
  := by
  rw [evaluateEntry, Except.bind_pure_eq_error_iff, Clause.ofJson_eq_error_iff]

theorem fst_of_evaluateEntry {entry result : String × Json}
    (h : evaluateEntry documents entry = .ok result) :
  result.1 = entry.1
  := by
  obtain ⟨clause, -, hresult⟩ := Except.bind_eq_ok_iff.mp h
  rw [← Except.pure_eq_ok_iff.mp hresult]

/-- The evaluation stops at the first faulty clause. -/
theorem evaluateClauses_eq_error_iff (documents : List Json) {fault : ClauseFault} :
  evaluateClauses documents clauses = .error fault ↔ FirstFault Clause.Fault clauses fault
  := by
  rw [evaluateClauses_eq_mapM]
  exact mapM_eq_error_iff fun entry fault => evaluateEntry_eq_error_iff

/-- Clauses have results exactly when all of them are well-formed. -/
theorem exists_evaluateClauses_iff (documents : List Json) :
  (∃ results, evaluateClauses documents clauses = .ok results) ↔
    ∀ entry ∈ clauses, Clause.WellFormed entry.2
  := by
  simp only [Clause.wellFormed_iff]
  exact FirstFault.exists_ok_iff fun fault => evaluateClauses_eq_error_iff documents

/-- A first clause and the others are evaluated in this order. -/
theorem evaluateClauses_cons_eq_ok_iff {entry : String × Json} :
  evaluateClauses documents (entry :: clauses) = .ok results ↔
    ∃ result rest, evaluateEntry documents entry = .ok result ∧
      evaluateClauses documents clauses = .ok rest ∧ result :: rest = results
  := by
  simp only [evaluateClauses_eq_mapM, List.mapM_cons, Except.bind_eq_ok_iff, Except.pure_eq_ok_iff,
    exists_and_left]

/-- A clause alone has the result that it has on its own. -/
theorem evaluateClauses_singleton {entry result : String × Json}
    (h : evaluateEntry documents entry = .ok result) :
  evaluateClauses documents [entry] = .ok [result]
  := evaluateClauses_cons_eq_ok_iff.mpr ⟨result, [], h, rfl, rfl⟩

/-- The results have the names of the clauses. -/
theorem names_of_evaluateClauses (h : evaluateClauses documents clauses = .ok results) :
  results.map (·.1) = clauses.map (·.1)
  := by
  induction clauses generalizing results with
  | nil =>
      obtain rfl := Except.ok.inj h
      rfl
  | cons entry clauses ih =>
      obtain ⟨result, rest, hentry, hrest, rfl⟩ := evaluateClauses_cons_eq_ok_iff.mp h
      rw [List.map_cons, List.map_cons, ih hrest, fst_of_evaluateEntry hentry]

/-- The result of a name is that of its clause alone. -/
theorem get?_of_evaluateClauses {name : String} {clause : Json}
    (h : evaluateClauses documents clauses = .ok results)
    (hclause : Entries.get? name clauses = some clause) :
  ∃ v, Entries.get? name results = some v ∧
    evaluateClauses documents [(name, clause)] = .ok [(name, v)]
  := by
  induction clauses generalizing results with
  | nil => cases hclause
  | cons entry clauses ih =>
      obtain ⟨⟨name', v⟩, rest, hentry, hrest, rfl⟩ := evaluateClauses_cons_eq_ok_iff.mp h
      obtain rfl : name' = entry.1 := fst_of_evaluateEntry hentry
      rw [Entries.get?] at hclause ⊢
      split at hclause
      case isTrue hname =>
        obtain rfl := hname
        obtain rfl := Option.some.inj hclause
        exact ⟨v, if_pos rfl, evaluateClauses_singleton hentry⟩
      case isFalse hname =>
        obtain ⟨w, hget, halone⟩ := ih hrest hclause
        exact ⟨w, (if_neg hname).trans hget, halone⟩

end DocSearch.Aggregation
