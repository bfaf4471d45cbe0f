import DocSearch.Proofs.Provider.Execution
import DocSearch.Proofs.Session.Traffic
import DocSearch.Queryable

/-!
# What a provider sends

A query that is executed is sent once, as the request that `Provider.requestFor` shows, whatever the
answer is.  A query that is rejected is never sent: `one_search_per_execution`.
-/

namespace DocSearch

namespace Provider

open Session

variable {α β : Type} {p : Provider α} {q : Query} {plan : Plan} {external : Option Filter}
  {s : Session} {token : String}

/-! ### The engine is left alone -/

/-- A query is compiled without the engine. -/
theorem engine_compile :
  (p.compile q s).2.engine = s.engine
  := by
  rw [compile]
  cases q.plan <;> rfl

/-- A token is not cancelled when a query is compiled, unless it was before. -/
theorem isCancelled_compile :
  (p.compile q s).2.isCancelled token = s.isCancelled token
  := by
  rw [compile]
  cases q.plan <;> rfl

theorem engine_accept (p : Provider α) (response : SearchResponse) (s : Session) :
  (p.accept response s).2.engine = s.engine
  := by
  cases response <;> rfl

/-- The answer to a query is made into its output without the engine. -/
theorem engine_materialize (p : Provider α) (plan : Plan) (response : SearchResponse)
    (s : Session) :
  (p.materialize plan response s).2.engine = s.engine
  := by
  have haccept := p.engine_accept response s
  rw [materialize]
  generalize p.accept response s = accepted at haccept
  obtain ⟨e | found, s₁⟩ := accepted
  · exact haccept
  · simp only
    split
    · exact haccept
    · split
      · exact haccept
      · exact haccept

/-! ### Queries that are sent -/

/-- A query with a plan is compiled into it, and nothing else happens but a record. -/
theorem compile_of_plan (hplan : q.plan = .ok plan) :
  p.compile q s =
    (.ok plan, s.record .queryTranslated [("index", p.index), ("root", q.kind.name)])
  := by
  rw [compile, hplan]

/-- The request that is shown for a query is the one for its plan. -/
theorem requestFor_of_plan (hplan : q.plan = .ok plan) (aggregations : Option Aggregation.Spec) :
  (p.requestFor q external aggregations s).1 =
    .ok { p.request plan external with aggregations := aggregations }
  := by
  rw [requestFor, compile_of_plan hplan]
  rfl

/-- A query that is executed in place is sent once. -/
theorem receives_execute (hplan : q.plan = .ok plan) :
  s.engine.Receives (p.request plan external) (p.execute q external s).2.engine
  := by
  rw [execute, compile_of_plan hplan]
  generalize hrecorded : s.record .queryTranslated _ = recorded
  have hengine : recorded.engine = s.engine := by rw [← hrecorded]; rfl
  have hreceives := Engine.receives_perform true (p.request plan external) recorded.engine
  rw [hengine] at hreceives
  simp only [send, perform, hengine]
  generalize s.engine.perform _ = performed at hreceives
  obtain ⟨fault | response, cancels, e⟩ := performed
  · simp only [countFailure, tally, engine_after]
    exact hreceives
  · simp only [engine_materialize, engine_after]
    exact hreceives

/-- A query with a token is begun as a search for its request. -/
theorem beginExecute_of_plan (hplan : q.plan = .ok plan) :
  p.beginExecute q external token s =
    (p.compile q s).2.beginSearch token (p.request plan external) (p.materialize plan)
  := by
  rw [beginExecute, compile_of_plan hplan]

/-- A query with a token is begun in one of the stages of its search. -/
theorem stage_beginExecute (hplan : q.plan = .ok plan) :
  Stage token (p.request plan external) (p.materialize plan) s.engine
    (p.beginExecute q external token s)
  := by
  have hengine : (p.compile q s).2.engine = s.engine := engine_compile
  rw [beginExecute_of_plan hplan, ← hengine]
  exact stage_beginSearch (p.engine_materialize plan)

/-! ### Queries that are rejected -/

/-- All that can be asked of a provider for a query comes to the same rejection and to the same
session. -/
structure Rejects (p : Provider α) (q : Query) (external : Option Filter) (token : String)
    (s : Session) (reason : Rejection) (s' : Session) : Prop where
  execute : p.execute q external s = (.error (.rejected reason), s')
  beginExecute : p.beginExecute q external token s = (.finished (.error (.rejected reason)), s')
  beginAggregate {β : Type} (spec : Aggregation.Spec) (read : Option Json → Option β) :
    p.beginAggregate q external spec read token s = (.finished (.error (.rejected reason)), s')
  requestFor (aggregations : Option Aggregation.Spec) :
    p.requestFor q external aggregations s = (.error (.rejected reason), s')
  queryText (aggregations : Option Aggregation.Spec) :
    p.queryText q external aggregations s = (.error (.rejected reason), s')

/-- A query without a plan is rejected for the reason for which it has none. -/
theorem rejects_of_plan {reason : Rejection} (hplan : q.plan = .error reason) :
  p.Rejects q external token s reason (p.compile q s).2
  := by
  have hcompile : p.compile q s = (.error (.rejected reason), (p.compile q s).2) := by
    rw [compile, hplan]
  constructor
  case execute => rw [Provider.execute, hcompile]
  case beginExecute => rw [Provider.beginExecute, hcompile]
  case beginAggregate =>
    intro β spec read
    rw [Provider.beginAggregate, hcompile]
  case requestFor =>
    intro aggregations
    rw [Provider.requestFor, hcompile]
    rfl
  case queryText =>
    intro aggregations
    rw [Provider.queryText, Provider.requestFor, hcompile]
    rfl

end Provider

/-- A query without a plan is rejected alike by all that can be asked for it; the rejection is
counted once, and nothing is sent.  A query with a plan is sent once when it is executed.  As long
as it is awaited with a token that is not cancelled it is sent at most once, and exactly once when
it has an outcome, which it has in the end on an engine in memory.  The request that the engine
receives is the one that is shown for the query, and the text that is shown for the query is that of
this request with the aggregations that are attached to the query. -/
theorem one_search_per_execution {α : Type} (p : Provider α) (q : Query)
    (external : Option Filter) (token : String) (s : Session) :
  (∀ reason, q.plan = .error reason →
    ∃ s', p.Rejects q external token s reason s' ∧ s'.engine = s.engine ∧
      s'.counters = { s.counters with rejected := s.counters.rejected + 1 }) ∧
  ∀ plan, q.plan = .ok plan →
    ∃ request, (p.requestFor q external none s).1 = .ok request ∧
      s.engine.Receives request (p.execute q external s).2.engine ∧
      (∀ turns progress s',
        Session.advanceAll token (p.beginExecute q external token s) turns = (progress, s') →
        s'.isCancelled token = false →
        (s'.engine = s.engine ∨ s.engine.Receives request s'.engine) ∧
        (∀ outcome, progress = .finished outcome → s.engine.Receives request s'.engine) ∧
        ∀ m, s.engine = .memory m → .resumed true ∈ turns →
          ∃ outcome, progress = .finished outcome) ∧
      ∀ aggregations, ((⟨p, q, external, aggregations⟩ : Queryable α).text s).1 =
        .ok { request with aggregations := aggregations }.text
  := by
  constructor
  · intro reason hplan
    use (p.compile q s).2, Provider.rejects_of_plan hplan, Provider.engine_compile
    rw [Provider.compile, hplan]
    rfl
  · intro plan hplan
    have hstage : Session.Stage token (p.request plan external) (p.materialize plan) s.engine
        (p.beginExecute q external token s) := Provider.stage_beginExecute hplan
    have hfinish := p.engine_materialize plan
    refine ⟨p.request plan external, ?_, Provider.receives_execute hplan, ?_, ?_⟩
    · rw [Provider.requestFor_of_plan hplan, ← Provider.request_aggregations]
    · rintro turns progress s' hturns hcancelled
      have hafter := hstage.advanceAll hfinish turns
      rw [hturns] at hafter
      refine ⟨hafter.engine_eq_or_receives, ?_, ?_⟩
      · rintro outcome rfl
        exact hafter.receives hcancelled
      · intro m hengine helapsed
        rw [hengine] at hstage
        obtain ⟨outcome, s₁, hfinished⟩ := hstage.exists_finished_of_mem hfinish helapsed
        exact ⟨outcome, (Prod.mk.inj (hturns.symm.trans hfinished)).1⟩
    · intro aggregations
      have htext : ((⟨p, q, external, aggregations⟩ : Queryable α).text s).1 =
          (p.requestFor q external aggregations s).1.map SearchRequest.text := rfl
      rw [htext, Provider.requestFor_of_plan hplan]
      rfl

/-- A query with a group is rejected although the caller has a filter; another query is sent once to
a slow engine, which answers with a fault. -/
theorem one_search_per_execution_of_fault :
  let grouped : Query := Query.source.groupBy ⟨"kind"⟩
  let q : Query := (Query.source.filter (.fieldIs "kind" .eq (.str "book"))).take 2
  let external : Filter := .range "year" .none
  let p : Provider Json := ⟨"library", some⟩
  let m : Memory := { Memory.empty.failNext (.timeout 5) with slow := true }
  let s : Session := .start (.memory m)
  let turns : List Session.Turn := [.resumed false, .cancelled "other", .resumed true]
  (∃ reason s', grouped.plan = .error reason ∧
    p.Rejects grouped (some external) "token" s reason s' ∧ s'.engine = s.engine) ∧
  ∃ plan request outcome s', q.plan = .ok plan ∧
    (p.requestFor q (some external) none s).1 = .ok request ∧
    Session.advanceAll "token" (p.beginExecute q (some external) "token" s) turns =
      (.finished outcome, s') ∧
    s'.isCancelled "token" = false ∧ s.engine.Receives request s'.engine
  := by
  intro grouped q external p m s turns
  constructor
  · obtain ⟨hrejected, -⟩ := one_search_per_execution p grouped (some external) "token" s
    obtain ⟨s', hrejects, hengine, -⟩ := hrejected _ rfl
    exact ⟨_, s', rfl, hrejects, hengine⟩
  · obtain ⟨-, hsent⟩ := one_search_per_execution p q (some external) "token" s
    obtain ⟨request, hrequest, -, hturns, -⟩ := hsent _ rfl
    obtain ⟨-, hreceives, -⟩ := hturns turns _ _ rfl rfl
    exact ⟨_, request, _, _, rfl, hrequest, rfl, rfl, hreceives _ rfl⟩

end DocSearch
