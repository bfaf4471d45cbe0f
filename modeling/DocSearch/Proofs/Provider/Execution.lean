import DocSearch.Proofs.Document.Sorting
import DocSearch.Proofs.Plan.Selection
import DocSearch.Provider.Basic

/-!
# What a query yields

`Query.Yields` says which documents a query yields, given those that are stored: the selected ones
are sorted, then paged, then restricted to the fields that are kept.  A provider whose engine has
the index yields them, and leaves the stored documents as they are: `execute_yields`.
-/

namespace DocSearch

namespace Query

/-- A query selects a document when the filter of the caller accepts it, or when there is none, the
filters of all predicates. -/
def selects (q : Query) (external : Option Filter) (document : Json) : Bool :=
  match external with
  | some filter => filter.accepts document
  | none => q.predicates.all fun p => p.compile.toOption.any (·.accepts document)

/-- An object with the entries that the outermost `project` keeps, and any other value as it is. -/
def restrict (q : Query) (document : Json) : Json :=
  match q.outermostFields, document with
  | some fields, .obj entries => .obj (entries.filter fun entry => fields.contains entry.1)
  | _, document => document

/-- Documents are in the order of the innermost `sort`, or as they stood. -/
def Sorts (q : Query) (documents sorted : List Json) : Prop :=
  match q.innermostSort with
  | some key => StablySorted key documents sorted
  | none => sorted = documents

/-- The documents that a query yields, given those that are stored. -/
def Yields (q : Query) (external : Option Filter) (stored yielded : List Json) : Prop :=
  ∃ sorted, q.Sorts (stored.filter (q.selects external)) sorted ∧
    yielded = ((sorted.drop (q.outermostSkip.getD 0)).take (q.outermostTake.getD 10)).map q.restrict

/-- A query yields one list of documents only. -/
theorem Yields.unique {q : Query} {external : Option Filter} {stored yielded yielded' : List Json}
    (h : q.Yields external stored yielded) (h' : q.Yields external stored yielded') :
  yielded = yielded'
  := by
  obtain ⟨sorted, hsorted, rfl⟩ := h
  obtain ⟨sorted', hsorted', rfl⟩ := h'
  have hsame : sorted = sorted' := by
    rw [Sorts] at hsorted hsorted'
    cases hsort : q.innermostSort with
    | none =>
        rw [hsort] at hsorted hsorted'
        exact hsorted.trans hsorted'.symm
    | some key =>
        rw [hsort] at hsorted hsorted'
        exact hsorted.unique hsorted'
  rw [hsame]

theorem sorts_sortByAll (q : Query) (documents : List Json) :
  q.Sorts documents (Document.sortByAll q.innermostSort.toList documents)
  := by
  rw [Sorts]
  cases q.innermostSort with
  | none => rfl
  | some key => apply Document.sortBy_stablySorted

end Query

/-! ### The request for a plan -/

namespace Plan.Describes

variable {plan : Plan} {q : Query}

/-- The filter that is sent for a plan accepts the documents that the query selects. -/
theorem acceptsAll_eq_selects (h : plan.Describes q) (external : Option Filter) (document : Json) :
  Filter.acceptsAll document (external.or plan.filter) = q.selects external document
  := by
  cases external with
  | some filter => rfl
  | none =>
      rw [Option.none_or, Bool.eq_iff_iff, Query.selects, List.all_eq_true]
      apply h.accepts_iff
      intro p filter hp
      rw [hp]
      rfl

/-- A document is restricted to the fields of a plan as the query says. -/
theorem project_eq_restrict (h : plan.Describes q) :
  Document.project plan.fields = q.restrict
  := by
  have hne := h.fields_ne
  funext document
  rw [h.fields]
  cases hfields : q.outermostFields with
  | none => simp [Document.project, Query.restrict, hfields]
  | some fields =>
      cases fields with
      | nil => cases hne hfields
      | cons name names => cases document <;> simp [Document.project, Query.restrict, hfields]

/-- A plan counts documents when the outermost operation of the query does. -/
theorem countOnly_eq_false (h : plan.Describes q) (hkind : q.kind ≠ .count) :
  plan.countOnly = false
  := by
  rw [Bool.eq_false_iff, ne_eq, h.countOnly]
  intro hhead
  apply hkind
  rw [Query.kind, hhead]
  rfl

end Plan.Describes

/-! ### Searches -/

namespace Memory

/-- An engine has an index, and nothing is set for its next search. -/
structure Serves (m : Memory) (name : String) (index : Index) : Prop where
  index : m.indexes.get? name = some index
  fault : m.nextFault = none
  diagnostic : m.nextDiagnostic = none

/-- What a search without aggregations finds among documents. -/
def plainHits (r : SearchRequest) (documents : List Json) : Hits :=
  let matching := documents.filter (Filter.acceptsAll · r.query)
  ⟨(page r (Document.sortByAll r.sort matching)).map (Document.project r.includes),
    Int64.ofNat matching.length, none⟩

/-- A search of an index is answered with what it finds there. -/
theorem answer_eq_hits {m : Memory} {index : Index} {r : SearchRequest}
    (hindex : m.indexes.get? r.index = some index) (haggregations : r.aggregations = none) :
  m.answer r = .hits (plainHits r index.documents)
  := by
  simp [answer, hindex, find, aggregations, haggregations, plainHits, pure, Except.pure, bind,
    Except.bind]

/-- A search that is answered leaves the indexes as they are. -/
theorem search_of_serves {m : Memory} {index : Index} {r : SearchRequest}
    (h : m.Serves r.index index) (haggregations : r.aggregations = none) :
  ∃ m', m.search r = (.ok (.hits (plainHits r index.documents)), m') ∧ m'.indexes = m.indexes
  := by
  refine ⟨{ m with searches := m.searches + 1, lastSearch := some r }, ?_, rfl⟩
  simp only [search, h.fault, h.diagnostic]
  rw [answer_eq_hits _ haggregations]
  exact h.index

end Memory

/-! ### Execution -/

namespace Provider

variable {α : Type} {p : Provider α} {q : Query} {plan : Plan} {external : Option Filter}
  {s : Session} {m : Memory} {index : Index}

theorem request_aggregations :
  (p.request plan external).aggregations = none
  := by
  rw [request]
  cases plan.countOnly <;> rfl

theorem request_index :
  (p.request plan external).index = p.index
  := by
  rw [request]
  cases plan.countOnly <;> rfl

theorem request_query :
  (p.request plan external).query = external.or plan.filter
  := by
  rw [request]
  cases plan.countOnly <;> rfl

/-- A query with a plan is sent to the engine, and what the engine finds is the answer.  The indexes
stay as they are. -/
theorem execute_of_serves (p : Provider α) (external : Option Filter) (hplan : q.plan = .ok plan)
    (hengine : s.engine = .memory m) (h : m.Serves p.index index) :
  ∃ s' m', s'.engine = .memory m' ∧ m'.indexes = m.indexes ∧
    p.execute q external s =
      p.materialize plan (.hits (Memory.plainHits (p.request plan external) index.documents)) s'
  := by
  have hserves : m.Serves (p.request plan external).index index := by
    rw [request_index]
    exact h
  obtain ⟨m', hsearch, hindexes⟩ := Memory.search_of_serves hserves request_aggregations
  refine ⟨(p.compile q s).2.after none (.memory m'), m', rfl, hindexes, ?_⟩
  simp only [execute, compile, hplan, send, Session.perform, Session.record, hengine,
    Engine.perform, Exchange.search, hsearch]

/-- A query that does not count documents yields the documents that are found, when all of them can
be read. -/
theorem execute_documents {items : List α} (hplan : q.plan = .ok plan)
    (hcount : plan.countOnly = false) (hengine : s.engine = .memory m)
    (h : m.Serves p.index index)
    (hread : (Memory.plainHits (p.request plan external) index.documents).documents.mapM p.read
      = some items) :
  ∃ s' m', p.execute q external s = (.ok (.documents items), s') ∧ s'.engine = .memory m' ∧
    m'.indexes = m.indexes
  := by
  obtain ⟨s', m', hengine', hindexes, hexecute⟩ := execute_of_serves p external hplan hengine h
  rw [hexecute]
  simp only [materialize, accept, hcount, hread, Bool.false_eq_true, if_false]
  exact ⟨_, m', rfl, hengine', hindexes⟩

/-- A query that counts documents yields the number of those found that lie in its window. -/
theorem execute_count (hplan : q.plan = .ok plan) (hcount : plan.countOnly = true)
    (hengine : s.engine = .memory m) (h : m.Serves p.index index) :
  ∃ s', p.execute q external s =
    (.ok (.count (windowCount
      (Memory.plainHits (p.request plan external) index.documents).total plan.skip plan.take)), s')
  := by
  obtain ⟨s', m', -, -, hexecute⟩ := execute_of_serves p external hplan hengine h
  rw [hexecute]
  simp only [materialize, accept, hcount, if_true]
  exact ⟨_, rfl⟩

end Provider

/-- The documents that are found for a plan are those that its query yields. -/
theorem Plan.Describes.yields {α : Type} {plan : Plan} {q : Query} (h : plan.Describes q)
    (hcount : plan.countOnly = false) (p : Provider α) (external : Option Filter)
    (stored : List Json) :
  q.Yields external stored (Memory.plainHits (p.request plan external) stored).documents
  := by
  use Document.sortByAll q.innermostSort.toList (stored.filter (q.selects external))
  constructor
  · apply q.sorts_sortByAll
  · simp only [Memory.plainHits, Memory.page, Memory.defaultPageSize, Provider.request_query,
      h.acceptsAll_eq_selects]
    simp [Provider.request, hcount, h.skip, h.take, h.sort, h.project_eq_restrict]

/-- Reading documents as they are stored always succeeds. -/
theorem mapM_some (documents : List Json) :
  documents.mapM some = some documents
  := by
  simpa using List.mapM_pure (m := Option) (l := documents) (f := id)

/-- A query that does not count documents yields its documents as they are stored, when the engine
has the index and nothing is set for its next search.  The stored documents stay as they are. -/
theorem execute_yields {q : Query} {plan : Plan} {name : String} {external : Option Filter}
    {s : Session} {m : Memory} {index : Index} (hplan : q.plan = .ok plan) (hkind : q.kind ≠ .count)
    (hengine : s.engine = .memory m) (h : m.Serves name index) :
  ∃ documents s' m',
    Provider.execute ⟨name, some⟩ q external s = (.ok (.documents documents), s') ∧
    q.Yields external index.documents documents ∧
    s'.engine = .memory m' ∧ m'.indexes = m.indexes
  := by
  have hdescribes := Query.plan_describes hplan
  have hcount := hdescribes.countOnly_eq_false hkind
  obtain ⟨s', m', hexecute, hengine', hindexes⟩ :=
    Provider.execute_documents (p := ⟨name, some⟩) hplan hcount hengine h (mapM_some _)
  refine ⟨_, s', m', hexecute, ?_, hengine', hindexes⟩
  apply hdescribes.yields hcount

/-- Three documents, one of which lacks the year, under two filters, two sorts and two skips. -/
theorem execute_yields_of_shadowed :
  let books : Query := Query.source.filter (.fieldIs "kind" .eq (.str "book"))
  let ordered : Query := ((books.sort ⟨"year"⟩ .desc).skip 7).sort ⟨"title"⟩ .asc
  let q : Query := (ordered.filter (.not (.contains ⟨"title"⟩ (.str "draft")))).skip 1
  let index : Index := ⟨[
    ("a", .obj [("kind", .str "book"), ("title", .str "No Year")]),
    ("b", .obj [("kind", .str "book"), ("title", .str "Later"), ("year", .num (.int 1999))]),
    ("c", .obj [("kind", .str "book"), ("title", .str "Sooner"), ("year", .num (.int 1950))])]⟩
  let m : Memory := Memory.empty.setIndex "library" index
  ∃ plan, q.plan = .ok plan ∧ q.kind ≠ .count ∧ m.Serves "library" index ∧
    ∃ documents s' m',
      Provider.execute ⟨"library", some⟩ q none (.start (.memory m)) =
        (.ok (.documents documents), s') ∧
      q.Yields none index.documents documents ∧ s'.engine = .memory m' ∧ m'.indexes = m.indexes
  := by
  intro books ordered q index m
  have hkind : q.kind ≠ .count := by decide
  have hserves : m.Serves "library" index := ⟨rfl, rfl, rfl⟩
  exact ⟨_, rfl, hkind, hserves, execute_yields rfl hkind rfl hserves⟩

end DocSearch
