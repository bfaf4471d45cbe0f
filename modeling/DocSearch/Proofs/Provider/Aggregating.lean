import DocSearch.Proofs.Plan.Winners
import DocSearch.Proofs.Provider.Sending
import DocSearch.Proofs.Session.Log

/-!
# What aggregations depend on

Aggregations are run over the documents that a query selects, so the operations that order, page,
shape or count them do not matter: `Query.selection` is the query without these.  It has a plan with
the same filter, and to run aggregations for it comes to the same in every respect but the record of
the translation, which names the outermost operation: `aggregation_depends_on_filters`.
-/

namespace DocSearch

/-- An operation that says in which order, how many and which parts of the selected documents are
returned, or that only their number is. -/
def Step.isPresentation : Step → Bool
  | .sort .. | .skip _ | .take _ | .project _ | .count => true
  | .filter _ | .groupBy _ => false

namespace Query

variable {q q' : Query}

/-- A query without the operations that say what is returned of the selected documents. -/
def selection (q : Query) : Query := ⟨q.steps.filter fun step => !step.isPresentation⟩

theorem predicates_selection :
  q.selection.predicates = q.predicates
  := by
  rw [predicates, predicates, selection, List.filterMap_filter]
  congr 1
  apply List.filterMap_congr
  intro step _
  cases step <;> rfl

/-- Some of the operations of a query that can be expressed make a query that can be, if none of
them but the outermost one is a `count`. -/
theorem Expressible.of_subset (h : q.Expressible) (hsteps : q'.steps ⊆ q.steps)
    (hcount : .count ∉ q'.steps.tail) :
  q'.Expressible
  := by
  constructor
  case noGrouping => exact fun key hmem => h.noGrouping key (hsteps hmem)
  case countOutermost => exact hcount
  case skips => exact fun n hmem => h.skips n (hsteps hmem)
  case takes => exact fun n hmem => h.takes n (hsteps hmem)
  case projections => exact fun shape hmem => h.projections shape (hsteps hmem)
  case comparisons => exact fun p hmem => h.comparisons p (hsteps hmem)
  case textMatches => exact fun p hmem => h.textMatches p (hsteps hmem)

theorem Expressible.selection (h : q.Expressible) :
  q.selection.Expressible
  := by
  apply h.of_subset
  · apply List.filter_subset_self
  · intro hmem
    have hcount := List.of_mem_filter (List.mem_of_mem_tail hmem)
    cases hcount

end Query

/-- Plans of queries with the same predicates have the same filter. -/
theorem Plan.Describes.filter_eq {plan plan' : Plan} {q q' : Query} (h : plan.Describes q)
    (h' : plan'.Describes q') (hpredicates : q.predicates = q'.predicates) :
  plan.filter = plan'.filter
  := by
  obtain ⟨filters, hfilters, heq⟩ := h.filter
  obtain ⟨filters', hfilters', heq'⟩ := h'.filter
  rw [← hpredicates] at hfilters'
  rw [heq, heq', Predicate.compile_unique.forall₂ hfilters hfilters']

namespace Query

/-- The plan for the selection of a query has the same filter. -/
theorem exists_plan_selection {q : Query} {plan : Plan} (hplan : q.plan = .ok plan) :
  ∃ plan', q.selection.plan = .ok plan' ∧ plan'.filter = plan.filter
  := by
  have hexpressible : q.Expressible := exists_plan_iff.mp ⟨plan, hplan⟩
  obtain ⟨plan', hplan'⟩ := exists_plan_iff.mpr hexpressible.selection
  use plan', hplan'
  apply (plan_describes hplan').filter_eq (plan_describes hplan) predicates_selection

end Query

namespace Provider

open Session

variable {α β : Type} {p : Provider α} {q q' : Query} {plan plan' : Plan}
  {external : Option Filter} {s : Session} {token : String}

/-- The record of the translation of a query. -/
def translation (p : Provider α) (q : Query) : LogRecord :=
  .ofEvent .queryTranslated [("index", p.index), ("root", q.kind.name)]

/-- The results of aggregations are read whatever the earlier records are. -/
theorem ignoresLog_readAggregations (p : Provider α) (spec : Aggregation.Spec)
    (read : Option Json → Option β) (response : SearchResponse) :
  IgnoresLog (p.readAggregations spec read response)
  := by
  intro s records
  cases response with
  | invalid diagnostic =>
      simp only [readAggregations, accept, countFailure, tally]
      rw [← record_withEarlier]
      rfl
  | hits found =>
      simp only [readAggregations, accept]
      split
      · rfl
      · simp only [countSuccess, tally]
        rw [← record_withEarlier]
        rfl

/-- The results of aggregations are read without the engine. -/
theorem engine_readAggregations (p : Provider α) (spec : Aggregation.Spec)
    (read : Option Json → Option β) (response : SearchResponse) (s : Session) :
  (p.readAggregations spec read response s).2.engine = s.engine
  := by
  have haccept := p.engine_accept response s
  rw [readAggregations]
  generalize p.accept response s = accepted at haccept
  obtain ⟨e | found, s₁⟩ := accepted
  · exact haccept
  · simp only
    split
    · exact haccept
    · exact haccept

/-- Aggregations over what a query with a plan selects are begun as a search for their request. -/
theorem beginAggregate_of_plan (hplan : q.plan = .ok plan) (spec : Aggregation.Spec)
    (read : Option Json → Option β) :
  p.beginAggregate q external spec read token s =
    (p.compile q s).2.beginSearch token (p.aggregationRequest plan external spec)
      (p.readAggregations spec read)
  := by
  rw [beginAggregate, compile_of_plan hplan]

/-- Aggregations are begun in one of the stages of their search. -/
theorem stage_beginAggregate (hplan : q.plan = .ok plan) (spec : Aggregation.Spec)
    (read : Option Json → Option β) :
  Stage token (p.aggregationRequest plan external spec) (p.readAggregations spec read) s.engine
    (p.beginAggregate q external spec read token s)
  := by
  have hengine : (p.compile q s).2.engine = s.engine := engine_compile
  rw [beginAggregate_of_plan hplan, ← hengine]
  apply stage_beginSearch (p.engine_readAggregations spec read)

/-- What aggregations over the documents of a query come to after some turns is what they come to
with an empty log, and only the first record tells which query it was. -/
theorem advanceAll_beginAggregate (hplan : q.plan = .ok plan) (spec : Aggregation.Spec)
    (read : Option Json → Option β) (turns : List Turn) :
  let search := { s with log := [] }.beginSearch token (p.aggregationRequest plan external spec)
    (p.readAggregations spec read)
  let after := advanceAll token search turns
  advanceAll token (p.beginAggregate q external spec read token s) turns =
    (after.1, after.2.withEarlier (s.log ++ [p.translation q]))
  := by
  intro search after
  have hfinish := p.ignoresLog_readAggregations spec read
  have hcompile : (p.compile q s).2 =
      { s with log := [] }.withEarlier (s.log ++ [p.translation q]) := by
    rw [compile_of_plan hplan, withEarlier, List.append_nil]
    rfl
  have hbegin := ignoresLog_beginSearch token (p.aggregationRequest plan external spec) hfinish
    { s with log := [] } (s.log ++ [p.translation q])
  rw [beginAggregate_of_plan hplan, hcompile]
  apply (congrArg (advanceAll token · turns) hbegin).trans
  apply advanceAll_withEarlier (finishesIgnoringLog_beginSearch hfinish)

/-- Aggregations over the documents of two queries come to the same after any turns, and leave the
same session, but for the record of the translation of the query. -/
def AggregatesAlike (p : Provider α) (external : Option Filter) (q q' : Query) : Prop :=
  ∀ {β : Type} (spec : Aggregation.Spec) (read : Option Json → Option β) (token : String)
    (s : Session) (turns : List Turn), ∃ (progress : SearchProgress β) (after : Session),
    advanceAll token (p.beginAggregate q external spec read token s) turns =
      (progress, after.withEarlier (s.log ++ [p.translation q])) ∧
    advanceAll token (p.beginAggregate q' external spec read token s) turns =
      (progress, after.withEarlier (s.log ++ [p.translation q']))

/-- Aggregations are alike for queries whose plans leave the same filter. -/
theorem aggregatesAlike_of_plan (hplan : q.plan = .ok plan) (hplan' : q'.plan = .ok plan')
    (hfilter : external.or plan'.filter = external.or plan.filter) :
  p.AggregatesAlike external q q'
  := by
  intro β spec read token s turns
  have hrequest : p.aggregationRequest plan' external spec =
      p.aggregationRequest plan external spec := by
    rw [aggregationRequest, aggregationRequest, hfilter]
  refine ⟨_, _, advanceAll_beginAggregate hplan spec read turns, ?_⟩
  rw [← hrequest]
  apply advanceAll_beginAggregate hplan' spec read turns

end Provider

/-- Aggregations over the documents of a query with a plan are sent at most once, and once they have
an outcome and their token is not cancelled they have been sent: with the filter of the caller or
else that of the plan, and with nothing else of the query.  The query without the operations that
order, page, shape or count documents has a plan with the same filter, and aggregations for it come
to the same and leave the same engine, tokens and counters, whenever they are resumed and tokens are
cancelled.  With a filter of the caller this is so for any other query with a plan. -/
theorem aggregation_depends_on_filters {α : Type} (p : Provider α) {q : Query} {plan : Plan}
    (hplan : q.plan = .ok plan) (external : Option Filter) :
  (∀ {β : Type} (spec : Aggregation.Spec) (read : Option Json → Option β) (token : String)
      (s : Session),
    let request : SearchRequest :=
      ⟨p.index, external.or plan.filter, none, some 0, [], [], false, some spec⟩
    Session.SendsOnce token request s.engine (p.beginAggregate q external spec read token s)) ∧
  (∃ plan', q.selection.plan = .ok plan' ∧ plan'.filter = plan.filter) ∧
  p.AggregatesAlike external q q.selection ∧
  ∀ filter q' plan', external = some filter → q'.plan = .ok plan' →
    p.AggregatesAlike external q q'
  := by
  obtain ⟨plan', hplan', hfilter⟩ := Query.exists_plan_selection hplan
  refine ⟨?_, ⟨plan', hplan', hfilter⟩, ?_, ?_⟩
  · intro β spec read token s request
    apply (Provider.stage_beginAggregate hplan spec read).sendsOnce
    apply p.engine_readAggregations spec read
  · apply Provider.aggregatesAlike_of_plan hplan hplan'
    rw [hfilter]
  · rintro filter q' plan' rfl hplan'
    apply Provider.aggregatesAlike_of_plan hplan hplan'
    rfl

/-- A query with two filters that is ordered, paged and counted: aggregations are sent to a slow
engine with both filters, as for the two filters alone; with a filter of the caller they come to the
same as for all documents. -/
theorem aggregation_depends_on_filters_of_counted :
  let books : Predicate := .fieldIs "kind" .eq (.str "book")
  let recent : Predicate := .fieldIs "year" .gt (.num (.int 1990))
  let ordered : Query := (Query.source.filter books).sort ⟨"year"⟩ .desc
  let q : Query := (((ordered.skip 7).filter recent).take 4).count
  let p : Provider Json := ⟨"library", some⟩
  let external : Filter := .range "year" .none
  let spec := Aggregation.Spec.empty.terms "kinds" "kind"
  let s : Session := .start (.memory { Memory.empty with slow := true })
  let turns : List Session.Turn := [.cancelled "other", .resumed true]
  ∃ plan plan' request outcome s', q.plan = .ok plan ∧ Query.source.plan = .ok plan' ∧
    q.selection = (Query.source.filter books).filter recent ∧
    Session.advanceAll "token" (p.beginAggregate q none spec id "token" s) turns =
      (.finished outcome, s') ∧
    s'.isCancelled "token" = false ∧ s.engine.Receives request s'.engine ∧
    request.query = plan.filter ∧ p.AggregatesAlike none q q.selection ∧
    p.AggregatesAlike (some external) q .source
  := by
  intro books recent ordered q p external spec s turns
  obtain ⟨hsent, -, hselection, -⟩ := aggregation_depends_on_filters p (q := q) rfl none
  obtain ⟨-, -, -, hexternal⟩ := aggregation_depends_on_filters p (q := q) rfl (some external)
  obtain ⟨-, hreceives⟩ := hsent spec id "token" s turns _ _ rfl
  exact ⟨_, _, _, _, _, rfl, rfl, rfl, rfl, rfl, hreceives _ rfl rfl, rfl, hselection,
    hexternal external .source _ rfl rfl⟩

end DocSearch
