import DocSearch.Proofs.Aggregation.Clauses
import DocSearch.Proofs.Provider.Execution

/-!
# Searches with aggregations

An engine that has the index answers a search with what it finds there, or refuses it for the first
faulty clause in the order of names: `Memory.answer_of_results` and `Memory.answer_of_fault`.  The
results of a search are those of its clauses alone over all documents that match, whatever part of
them is returned: `aggregations_clause_by_clause`.
-/

namespace DocSearch

open Aggregation

namespace Aggregation.Spec

variable {spec : Spec}

/-- All clauses can be read. -/
def WellFormed (spec : Spec) : Prop :=
  ∀ name clause, spec.get? name = some clause → Clause.WellFormed clause

/-- The clauses are those of the entries. -/
theorem wellFormed_iff :
  spec.WellFormed ↔ ∀ entry ∈ spec.clauses.entries, Clause.WellFormed entry.2
  := by
  constructor
  · rintro h ⟨name, clause⟩ hmem
    exact h name clause (spec.clauses.sorted.get?_of_mem hmem)
  · intro h name clause hget
    exact h _ (Entries.mem_of_get? hget)

/-- Aggregations that can all be read have results. -/
theorem exists_evaluate_of_wellFormed (documents : List Json) (h : spec.WellFormed) :
  ∃ results, spec.evaluate documents = .ok (.obj results)
  := by
  rw [wellFormed_iff, ← exists_evaluateClauses_iff documents] at h
  obtain ⟨results, hresults⟩ := h
  exact ⟨results, by rw [evaluate, hresults]; rfl⟩

theorem evaluateClauses_of_evaluate {documents : List Json} {results : Entries Json}
    (h : spec.evaluate documents = .ok (.obj results)) :
  evaluateClauses documents spec.clauses.entries = .ok results
  := by
  rw [evaluate] at h
  cases hresults : evaluateClauses documents spec.clauses.entries <;>
    simp_all [Except.map]

/-- The result of a name is that of its clause alone. -/
theorem get?_of_evaluate {documents : List Json} {results : Entries Json} {name : String}
    {clause : Json} (h : spec.evaluate documents = .ok (.obj results))
    (hclause : spec.get? name = some clause) :
  ∃ v, Entries.get? name results = some v ∧
    (empty.insert name clause).evaluate documents = .ok (.obj [(name, v)])
  := by
  obtain ⟨v, hget, halone⟩ := get?_of_evaluateClauses (evaluateClauses_of_evaluate h) hclause
  refine ⟨v, hget, ?_⟩
  have hentries : (empty.insert name clause).clauses.entries = [(name, clause)] := rfl
  rw [evaluate, hentries, halone]
  rfl

/-- Aggregations that cannot all be read have a fault. -/
theorem exists_fault_of_not_wellFormed (documents : List Json) (h : ¬ spec.WellFormed) :
  ∃ fault, spec.evaluate documents = .error fault
  := by
  rw [wellFormed_iff, ← exists_evaluateClauses_iff documents] at h
  rw [evaluate]
  cases hresults : evaluateClauses documents spec.clauses.entries with
  | error fault => exact ⟨fault, rfl⟩
  | ok results => cases h ⟨results, hresults⟩

/-- The fault of aggregations is that of the faulty clause with the smallest name. -/
theorem first_fault_of_evaluate {documents : List Json} {fault : ClauseFault}
    (h : spec.evaluate documents = .error fault) :
  ∃ name clause, spec.get? name = some clause ∧ Clause.Fault (name, clause) fault ∧
    ∀ name' clause', name' < name → spec.get? name' = some clause' → Clause.WellFormed clause'
  := by
  have hfirst : FirstFault Clause.Fault spec.clauses.entries fault := by
    rw [← evaluateClauses_eq_error_iff documents]
    rw [evaluate] at h
    cases hresults : evaluateClauses documents spec.clauses.entries <;> simp_all [Except.map]
  obtain ⟨before, ⟨name, clause⟩, after, heq, hbefore, hfault⟩ := hfirst
  have hsorted := spec.clauses.sorted
  have hmem : (name, clause) ∈ spec.clauses.entries := by simp [heq]
  refine ⟨name, clause, hsorted.get?_of_mem hmem, hfault, ?_⟩
  intro name' clause' hlt hget
  have hmem' := Entries.mem_of_get? hget
  rw [heq] at hsorted hmem'
  rcases List.mem_append.mp hmem' with hmem' | hmem'
  · exact Clause.wellFormed_iff.mpr (hbefore _ hmem')
  · -- From the faulty clause on the names are not smaller.
    rcases List.mem_cons.mp hmem' with heq' | hmem'
    · cases heq'
      cases String.lt_irrefl _ hlt
    · have hgt := (List.pairwise_cons.mp (List.pairwise_append.mp hsorted).2.1).1 _ hmem'
      cases String.lt_irrefl _ (String.lt_trans hlt hgt)

end Aggregation.Spec

/-- The stored documents that match a search. -/
def SearchRequest.matching (r : SearchRequest) (stored : List Json) : List Json :=
  stored.filter (Filter.acceptsAll · r.query)

namespace Memory

variable {m : Memory} {r : SearchRequest} {index : Index}

/-- A search of an index is answered, and leaves the engine as it serves. -/
theorem search_eq_answer (h : m.Serves r.index index) :
  ∃ m', m.search r = (.ok (m.answer r), m') ∧
    ∀ name index', m.Serves name index' → m'.Serves name index'
  := by
  refine ⟨{ m with searches := m.searches + 1, lastSearch := some r }, ?_, ?_⟩
  · simp only [search, h.fault, h.diagnostic]
    rfl
  · rintro name index' ⟨hindex, hfault, hdiagnostic⟩
    exact ⟨hindex, hfault, hdiagnostic⟩

/-- A search whose aggregations have results is answered with them and with the documents that a
search without aggregations finds. -/
theorem answer_of_results {results : Option Json} (h : m.Serves r.index index)
    (hresults : aggregations r (r.matching index.documents) = .ok results) :
  m.answer r = .hits { plainHits r index.documents with aggregations := results }
  := by
  rw [SearchRequest.matching] at hresults
  simp only [answer, h.index, find, hresults, bind, Except.bind]
  rfl

/-- A search with a faulty clause is refused. -/
theorem answer_of_fault {fault : ClauseFault} (h : m.Serves r.index index)
    (hfault : aggregations r (r.matching index.documents) = .error fault) :
  m.answer r = .invalid fault.message
  := by
  rw [SearchRequest.matching] at hfault
  simp only [answer, h.index, find, hfault, bind, Except.bind]
  rfl

/-- A search whose aggregations can be evaluated is answered with their results. -/
theorem search_of_evaluate {spec : Spec} {results : Json} (h : m.Serves r.index index)
    (hspec : r.aggregations = some spec)
    (hresults : spec.evaluate (r.matching index.documents) = .ok results) :
  ∃ found, (m.search r).1 = .ok (.hits found) ∧ found.aggregations = some results
  := by
  have haggregations : aggregations r (r.matching index.documents) = .ok (some results) := by
    simp only [aggregations, hspec, hresults, Except.map]
  obtain ⟨m', hsearch, -⟩ := search_eq_answer h
  rw [hsearch, answer_of_results h haggregations]
  exact ⟨_, rfl, rfl⟩

/-- A search whose aggregations cannot be evaluated is refused. -/
theorem search_of_fault {spec : Spec} {fault : ClauseFault} (h : m.Serves r.index index)
    (hspec : r.aggregations = some spec)
    (hfault : spec.evaluate (r.matching index.documents) = .error fault) :
  (m.search r).1 = .ok (.invalid fault.message)
  := by
  have haggregations : aggregations r (r.matching index.documents) = .error fault := by
    simp only [aggregations, hspec, hfault, Except.map]
  obtain ⟨m', hsearch, -⟩ := search_eq_answer h
  rw [hsearch, answer_of_fault h haggregations]

end Memory

/-- A search with aggregations of an index.  When every clause can be read, the answer has one
result for each name, and this is the result of the clause alone over all documents that match: any
other search with the same filter, whatever part of the documents it returns and in whatever order,
has the same result for this clause.  Otherwise the search is refused, with what is wrong with the
first clause that cannot be read as its diagnostic and neither documents nor results. -/
theorem aggregations_clause_by_clause {m : Memory} {r : SearchRequest} {index : Index} {spec : Spec}
    (h : m.Serves r.index index) (hspec : r.aggregations = some spec) :
  (spec.WellFormed → ∃ found results, (m.search r).1 = .ok (.hits found) ∧
    found.aggregations = some (.obj results) ∧ results.map (·.1) = spec.names ∧
    ∀ name clause, spec.get? name = some clause → ∃ v, Entries.get? name results = some v ∧
      (Spec.empty.insert name clause).evaluate (r.matching index.documents) =
        .ok (.obj [(name, v)]) ∧
      ∀ r' : SearchRequest, r'.index = r.index → r'.query = r.query →
        r'.aggregations = some (Spec.empty.insert name clause) →
        ∃ found', (m.search r').1 = .ok (.hits found') ∧
          found'.aggregations = some (.obj [(name, v)])) ∧
  (¬ spec.WellFormed → ∃ name clause fault, spec.get? name = some clause ∧
    Clause.Fault (name, clause) fault ∧
    (∀ name' clause', name' < name → spec.get? name' = some clause' →
      Clause.WellFormed clause') ∧
    (m.search r).1 = .ok (.invalid fault.message))
  := by
  constructor
  · intro hwellFormed
    obtain ⟨results, hresults⟩ :=
      Spec.exists_evaluate_of_wellFormed (r.matching index.documents) hwellFormed
    obtain ⟨found, hfound, haggregations⟩ := Memory.search_of_evaluate h hspec hresults
    refine ⟨found, results, hfound, haggregations,
      names_of_evaluateClauses (Spec.evaluateClauses_of_evaluate hresults), ?_⟩
    intro name clause hclause
    obtain ⟨v, hget, halone⟩ := Spec.get?_of_evaluate hresults hclause
    refine ⟨v, hget, halone, ?_⟩
    intro r' hindex hquery hspec'
    apply Memory.search_of_evaluate (hindex ▸ h) hspec'
    rw [SearchRequest.matching, hquery]
    exact halone
  · intro hfaulty
    obtain ⟨fault, hfault⟩ :=
      Spec.exists_fault_of_not_wellFormed (r.matching index.documents) hfaulty
    obtain ⟨name, clause, hclause, hfirst, hbefore⟩ := Spec.first_fault_of_evaluate hfault
    exact ⟨name, clause, fault, hclause, hfirst, hbefore, Memory.search_of_fault h hspec hfault⟩

/-- Two clauses over the documents that are not hidden, in a search that skips the first document,
sorts, projects and returns nothing; and the same search with two faulty clauses besides. -/
theorem aggregations_clause_by_clause_of_faulty :
  let max : Json := .obj [("max", .obj [("field", .str "size")])]
  let cardinality : Json := .obj [("cardinality", .obj [("field", .str "tag")])]
  let percentiles : Json := .obj [("percentiles", .obj [("field", .str "size")])]
  let spec : Spec := (Spec.empty.insert "topics" cardinality).insert "largest" max
  let faulty : Spec := (spec.insert "deciles" percentiles).insert "extra" .null
  let index : Index := ⟨[
    ("1", .obj [("size", .num (.int 3)), ("tag", .arr [.str "x", .str "y"])]),
    ("2", .obj [("tag", .str "y")]),
    ("3", .obj [("hidden", .bool true), ("size", .num (.int 9))])]⟩
  let shown : Filter := .mustNot (.term "hidden" (.bool true))
  let r : SearchRequest :=
    ⟨"library", some shown, some 1, some 0, [⟨"size", .desc⟩], ["tag"], true, some spec⟩
  let m : Memory := Memory.empty.setIndex "library" index
  m.Serves "library" index ∧ spec.WellFormed ∧
  (∃ found results, (m.search r).1 = .ok (.hits found) ∧ found.aggregations = some (.obj results) ∧
    results.map (·.1) = ["largest", "topics"] ∧
    Entries.get? "largest" results = some (metricToJson (.num (.float (.ofInt 3)))) ∧
    Entries.get? "topics" results = some (metricToJson (.ofInt 2))) ∧
  ¬ faulty.WellFormed ∧
  (m.search { r with aggregations := some faulty }).1 =
    .ok (.invalid "unknown aggregation type [percentiles] for 'deciles'")
  := by
  intro max cardinality percentiles spec faulty index shown r m
  have hserves : m.Serves "library" index := ⟨rfl, rfl, rfl⟩
  have hentries : spec.clauses.entries = [("largest", max), ("topics", cardinality)] := by
    decide +kernel
  have hspec : spec.WellFormed := by
    rw [Spec.wellFormed_iff, hentries]
    simp only [List.forall_mem_cons, List.not_mem_nil, false_imp_iff, implies_true, and_true]
    exact ⟨.intro .max rfl, .intro .cardinality rfl⟩
  have hfault : Clause.Fault ("deciles", percentiles) (.unknownType "percentiles" "deciles") := by
    apply Clause.Fault.unknownType rfl
    rintro ⟨⟩ <;> decide
  have hunread : ¬ Clause.WellFormed percentiles := fun hread =>
    Clause.wellFormed_iff.mp hread _ hfault
  have hget : faulty.get? "deciles" = some percentiles := by decide +kernel
  have hfaulty : ¬ faulty.WellFormed := fun hread => hunread (hread _ _ hget)
  refine ⟨hserves, hspec, ?_, hfaulty, ?_⟩
  · obtain ⟨hread, -⟩ := aggregations_clause_by_clause (r := r) hserves rfl
    obtain ⟨found, results, hfound, haggregations, hnames, halone⟩ := hread hspec
    obtain ⟨largest, hlargest, hmax, -⟩ := halone "largest" max rfl
    obtain ⟨topics, htopics, hcardinality, -⟩ := halone "topics" cardinality rfl
    have hmax' : (Spec.empty.insert "largest" max).evaluate (r.matching index.documents) =
      .ok (.obj [("largest", metricToJson (.num (.float (.ofInt 3))))]) := by decide +kernel
    have hcardinality' : (Spec.empty.insert "topics" cardinality).evaluate
        (r.matching index.documents) = .ok (.obj [("topics", metricToJson (.ofInt 2))]) := by
      decide +kernel
    cases hmax.symm.trans hmax'
    cases hcardinality.symm.trans hcardinality'
    exact ⟨found, results, hfound, haggregations, hnames, hlargest, htopics⟩
  · have hasked : ({ r with aggregations := some faulty } : SearchRequest).aggregations =
      some faulty := rfl
    obtain ⟨-, hrefused⟩ := aggregations_clause_by_clause hserves hasked
    obtain ⟨name, clause, fault, hclause, hfault', hbefore, hanswer⟩ := hrefused hfaulty
    -- No name is smaller than the one of the faulty clause, so it is the first faulty one.
    have hname : name = "deciles" := by
      have hle : ¬ "deciles" < name := fun hlt => hunread (hbefore _ _ hlt hget)
      have hmem := Entries.mem_of_get? hclause
      rw [show faulty.clauses.entries = [("deciles", percentiles), ("extra", .null),
        ("largest", max), ("topics", cardinality)] by decide +kernel] at hmem
      simp only [List.mem_cons, Prod.mk.injEq, List.not_mem_nil, or_false] at hmem
      rcases hmem with ⟨rfl, -⟩ | ⟨rfl, -⟩ | ⟨rfl, -⟩ | ⟨rfl, -⟩
      · rfl
      all_goals exact absurd (by decide) hle
    obtain rfl := hname
    obtain rfl := Option.some.inj (hget.symm.trans hclause)
    rw [← Clause.ofJson_eq_error_iff] at hfault hfault'
    obtain rfl := Except.error.inj (hfault.symm.trans hfault')
    exact hanswer

end DocSearch
