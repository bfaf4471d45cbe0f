import DocSearch.Proofs.Number.Window
import DocSearch.Proofs.Plan.Rejection
import DocSearch.Proofs.Provider.Execution

/-!
# Counting and listing

A query that counts the documents of another query yields the number that lies in the window of its
outermost `skip` and `take`; the other query yields as many documents, or the first ten of them when
it does not say how many: `count_eq_length`.
-/

namespace DocSearch

/-- An operation that only orders documents or keeps parts of them. -/
def Step.isArrangement : Step → Bool
  | .sort .. | .project _ => true
  | _ => false

/-- A query without the operations that only order documents or keep parts of them. -/
def Query.unarranged (q : Query) : Query := ⟨q.steps.filter fun step => !step.isArrangement⟩

namespace Query

variable {q q' : Query}

/-- What the other operations contribute is the same in the query without arrangements. -/
theorem filterMap_unarranged {α : Type} {f : Step → Option α}
    (hsort : ∀ field direction, f (.sort field direction) = none)
    (hproject : ∀ shape, f (.project shape) = none) :
  q.unarranged.steps.filterMap f = q.steps.filterMap f
  := by
  rw [unarranged, List.filterMap_filter]
  apply List.filterMap_congr
  intro step _
  cases step with
  | sort field direction => rw [hsort, ite_self]
  | project shape => rw [hproject, ite_self]
  | _ => rfl

theorem outermostSkip_unarranged :
  q.unarranged.outermostSkip = q.outermostSkip
  := by
  rw [outermostSkip, outermostSkip, ← List.head?_filterMap, ← List.head?_filterMap,
    filterMap_unarranged (fun _ _ => rfl) fun _ => rfl]

theorem outermostTake_unarranged :
  q.unarranged.outermostTake = q.outermostTake
  := by
  rw [outermostTake, outermostTake, ← List.head?_filterMap, ← List.head?_filterMap,
    filterMap_unarranged (fun _ _ => rfl) fun _ => rfl]

theorem predicates_unarranged :
  q.unarranged.predicates = q.predicates
  := by
  rw [predicates, predicates, filterMap_unarranged (fun _ _ => rfl) fun _ => rfl]

/-- A query without a `count` does not count documents. -/
theorem kind_ne_count (hcount : .count ∉ q.steps) :
  q.kind ≠ .count
  := by
  obtain ⟨steps⟩ := q
  cases steps with
  | nil => exact NodeKind.noConfusion
  | cons step steps =>
      rintro hkind
      cases step with
      | count => exact hcount List.mem_cons_self
      | _ => cases hkind

/-- An operation that is no arrangement stays. -/
theorem count_mem_unarranged_iff :
  .count ∈ q.unarranged.steps ↔ .count ∈ q.steps
  := by
  simp [unarranged, Step.isArrangement]

/-- A query that can be expressed and does not count documents can be counted. -/
theorem Expressible.count (h : q.Expressible) (hcount : .count ∉ q.steps) :
  q.count.Expressible
  := by
  have hsteps : ∀ step, step ≠ .count → step ∈ q.count.steps → step ∈ q.steps := by
    intro step hne hmem
    exact (List.mem_cons.mp hmem).resolve_left hne
  constructor
  case noGrouping => exact fun key hmem => h.noGrouping key (hsteps _ Step.noConfusion hmem)
  case countOutermost => exact hcount
  case skips => exact fun n hmem => h.skips n (hsteps _ Step.noConfusion hmem)
  case takes => exact fun n hmem => h.takes n (hsteps _ Step.noConfusion hmem)
  case projections => exact fun shape hmem => h.projections shape (hsteps _ Step.noConfusion hmem)
  case comparisons => exact fun p hmem => h.comparisons p (hsteps _ Step.noConfusion hmem)
  case textMatches => exact fun p hmem => h.textMatches p (hsteps _ Step.noConfusion hmem)

/-- The query that counts the documents of a query with a plan has a plan. -/
theorem exists_plan_count {plan : Plan} (hplan : q.plan = .ok plan) (hcount : .count ∉ q.steps) :
  ∃ plan', q.count.plan = .ok plan'
  := by
  apply exists_plan_iff.mpr
  apply Expressible.count (exists_plan_iff.mp ⟨plan, hplan⟩) hcount

/-- A query selects the same documents as the one without arrangements. -/
theorem selects_unarranged {external : Option Filter} :
  q.unarranged.selects external = q.selects external
  := by
  funext document
  simp only [selects, predicates_unarranged]

/-- The number of documents in the window of the outermost `skip` and `take`, out of those that are
selected among the stored ones. -/
def number (q : Query) (external : Option Filter) (stored : List Json) : Int :=
  window (stored.countP (q.selects external)) (q.outermostSkip.getD 0) q.outermostTake

theorem number_unarranged {external : Option Filter} {stored : List Json} :
  q.unarranged.number external stored = q.number external stored
  := by
  rw [number, number, selects_unarranged, outermostSkip_unarranged, outermostTake_unarranged]

theorem number_eq_of_unarranged {external : Option Filter} {stored : List Json}
    (h : q'.unarranged = q.unarranged) :
  q'.number external stored = q.number external stored
  := by
  rw [← number_unarranged, h, number_unarranged]

theorem number_count {external : Option Filter} {stored : List Json} :
  q.count.number external stored = q.number external stored
  := rfl

/-- Sorting keeps the number of documents. -/
theorem Sorts.length_eq {documents sorted : List Json} (h : q.Sorts documents sorted) :
  sorted.length = documents.length
  := by
  rw [Sorts] at h
  cases hsort : q.innermostSort with
  | none =>
      rw [hsort] at h
      exact congrArg List.length h
  | some key =>
      rw [hsort] at h
      exact h.perm.length_eq

/-- A query yields as many documents as it says, or the first ten of them. -/
theorem Yields.length_eq {external : Option Filter} {stored yielded : List Json}
    (h : q.Yields external stored yielded) :
  (yielded.length : Int) = if q.outermostTake.isSome then q.number external stored
    else min (q.number external stored) 10
  := by
  obtain ⟨sorted, hsorted, rfl⟩ := h
  rw [List.length_map, ← window_length, hsorted.length_eq, ← List.countP_eq_length_filter, number]
  cases q.outermostTake <;> rfl

end Query

/-! ### Execution -/

section Execution

variable {α : Type} (p : Provider α) (external : Option Filter) {q : Query} {plan : Plan}
  {s : Session} {m : Memory} {index : Index}

/-- A query whose outermost operation counts documents yields their number.  It is a signed one,
since a list in memory has fewer than `2 ^ 63` documents. -/
theorem execute_number (hplan : q.plan = .ok plan) (hkind : q.steps.head? = some .count)
    (hengine : s.engine = .memory m) (h : m.Serves p.index index)
    (hlength : index.documents.length < 2 ^ 63) :
  ∃ n s', p.execute q external s = (.ok (.count n), s') ∧
    n.toInt = q.number external index.documents
  := by
  have hdescribes := Query.plan_describes hplan
  have hcount := hdescribes.countOnly.mpr hkind
  obtain ⟨s', hexecute⟩ := Provider.execute_count hplan hcount hengine h
  refine ⟨_, s', hexecute, ?_⟩
  have htotal : (index.documents.filter fun document =>
      Filter.acceptsAll document (p.request plan external).query).length =
        index.documents.countP (q.selects external) := by
    simp only [Provider.request_query, hdescribes.acceptsAll_eq_selects]
    apply List.countP_eq_length_filter.symm
  have hbound : index.documents.countP (q.selects external) ≤ index.documents.length :=
    List.countP_le_length
  rw [toInt_windowCount, Memory.plainHits, htotal, Int64.toInt_ofNat_of_lt (by omega),
    hdescribes.skip, hdescribes.take, Query.number]

/-- A query that does not count documents yields as many as lie in its window, or the first ten of
them. -/
theorem execute_length {name : String} (hplan : q.plan = .ok plan) (hkind : q.kind ≠ .count)
    (hengine : s.engine = .memory m) (h : m.Serves name index) :
  ∃ documents s', Provider.execute ⟨name, some⟩ q external s = (.ok (.documents documents), s') ∧
    (documents.length : Int) = if q.outermostTake.isSome then q.number external index.documents
      else min (q.number external index.documents) 10
  := by
  have hdescribes := Query.plan_describes hplan
  have hcount := hdescribes.countOnly_eq_false hkind
  obtain ⟨s', m', hexecute, -, -⟩ :=
    Provider.execute_documents (p := ⟨name, some⟩) hplan hcount hengine h (mapM_some _)
  refine ⟨_, s', hexecute, ?_⟩
  apply (hdescribes.yields hcount _ _ _).length_eq

/-- Counting the documents of two queries that differ in arrangements only yields the same. -/
theorem execute_count_eq {q' : Query} {plan' : Plan} (hplan : q.plan = .ok plan)
    (hplan' : q'.plan = .ok plan') (hcount : .count ∉ q.steps)
    (hsame : q'.unarranged = q.unarranged) (hengine : s.engine = .memory m)
    (h : m.Serves p.index index) (hlength : index.documents.length < 2 ^ 63) :
  (p.execute q'.count external s).1 = (p.execute q.count external s).1
  := by
  have hcount' : .count ∉ q'.steps := by
    rw [← Query.count_mem_unarranged_iff, hsame, Query.count_mem_unarranged_iff]
    exact hcount
  obtain ⟨counting, hcounting⟩ := Query.exists_plan_count hplan hcount
  obtain ⟨counting', hcounting'⟩ := Query.exists_plan_count hplan' hcount'
  obtain ⟨n, s₁, hexecute, hn⟩ := execute_number p external hcounting rfl hengine h hlength
  obtain ⟨n', s₂, hexecute', hn'⟩ := execute_number p external hcounting' rfl hengine h hlength
  have hnumber : n' = n := by
    apply Int64.toInt_inj.mp
    rw [hn, hn', Query.number_count, Query.number_count, Query.number_eq_of_unarranged hsame]
  rw [hexecute, hexecute', hnumber]

end Execution

/-- Counting the documents of a query yields the number that lies in the window of its outermost
`skip` and `take`, and the query itself yields as many documents, or the first ten of them when it
has no `take`.  Sorts and projections do not change the number.  A list in memory has fewer than
`2 ^ 63` documents. -/
theorem count_eq_length {α : Type} (p : Provider α) (external : Option Filter) {q : Query}
    {plan : Plan} {s : Session} {m : Memory} {index : Index} (hplan : q.plan = .ok plan)
    (hcount : .count ∉ q.steps) (hengine : s.engine = .memory m) (h : m.Serves p.index index)
    (hlength : index.documents.length < 2 ^ 63) :
  let n := window (index.documents.countP (q.selects external)) (q.outermostSkip.getD 0)
    q.outermostTake
  (∃ c s', p.execute q.count external s = (.ok (.count c), s') ∧ c.toInt = n) ∧
  (∃ documents s',
    Provider.execute ⟨p.index, some⟩ q external s = (.ok (.documents documents), s') ∧
    (documents.length : Int) = if q.outermostTake.isSome then n else min n 10) ∧
  ∀ (q' : Query) (plan' : Plan), q'.plan = .ok plan' → q'.unarranged = q.unarranged →
    (p.execute q'.count external s).1 = (p.execute q.count external s).1
  := by
  intro n
  obtain ⟨counting, hcounting⟩ := Query.exists_plan_count hplan hcount
  constructor
  · apply execute_number p external hcounting rfl hengine h hlength
  · constructor
    · apply execute_length external hplan (Query.kind_ne_count hcount) hengine h
    · intro q' plan' hplan' hsame
      apply execute_count_eq p external hplan hplan' hcount hsame hengine h hlength

/-- Three documents, of which the filter of the caller accepts two and the window has room for one;
the other query has a sort and a projection besides. -/
theorem count_eq_length_of_window :
  let q : Query := ((Query.source.take 1).skip 1).take 5
  let ordered : Query := ((Query.source.sort ⟨"year"⟩ .desc).take 1).skip 1
  let q' : Query := (ordered.project (.object [⟨"title"⟩])).take 5
  let index : Index := ⟨[("a", .obj [("year", .num (.int 1999))]), ("b", .obj []),
    ("c", .obj [("year", .num (.int 1950))])]⟩
  let external : Filter := .range "year" .none
  let m : Memory := Memory.empty.setIndex "library" index
  let p : Provider Nat := ⟨"library", fun _ => none⟩
  let s : Session := .start (.memory m)
  index.documents.length < 2 ^ 63 ∧ .count ∉ q.steps ∧ m.Serves "library" index ∧
  (∃ c s', p.execute q.count (some external) s = (.ok (.count c), s') ∧ c.toInt = 1) ∧
  (∃ documents s',
    Provider.execute ⟨"library", some⟩ q (some external) s = (.ok (.documents documents), s') ∧
    documents.length = 1) ∧
  (p.execute q'.count (some external) s).1 = (p.execute q.count (some external) s).1
  := by
  intro q ordered q' index external m p s
  have hlength : index.documents.length < 2 ^ 63 := by decide
  have hcount : .count ∉ q.steps := by decide
  have hserves : m.Serves "library" index := ⟨rfl, rfl, rfl⟩
  have hwindow : window (index.documents.countP (q.selects (some external)))
      (q.outermostSkip.getD 0) q.outermostTake = 1 := by decide +kernel
  obtain ⟨⟨c, s₁, hc, hn⟩, ⟨documents, s₂, hdocuments, hone⟩, hsame⟩ :=
    count_eq_length p (some external) (q := q) (s := s) rfl hcount rfl hserves hlength
  refine ⟨hlength, hcount, hserves, ⟨c, s₁, hc, hn.trans hwindow⟩,
    ⟨documents, s₂, hdocuments, ?_⟩, hsame q' _ rfl rfl⟩
  rw [hwindow] at hone
  exact Int.ofNat_inj.mp hone

end DocSearch
