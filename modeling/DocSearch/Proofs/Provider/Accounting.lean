import DocSearch.Proofs.Provider.Sending

/-!
# What the counters count

A `QueryRun` is any run of queries that are executed in place or begun with tokens, many of which
may be in flight at a time, while tokens are cancelled and the engine changes.  It tells the
`Ending` of every query that has ended: what the engine has answered, and how many documents the
output has.  `Accounted` says what the counters have to do with the endings; every step keeps them
accounted for, and so does a run: `counters_account_for_queries`.
-/

namespace DocSearch

variable {α β : Type}

/-! ### Endings -/

/-- What becomes of a query in the end: it is rejected, it is dropped because its token was
cancelled beforehand, or it is submitted, which brings a response of the engine or an error.  Of the
output, if there is one, the number of documents is told. -/
inductive Ending where
  | rejected
  | dropped
  | submitted (answer : Except QueryError SearchResponse) (documents : Option Nat)

namespace Ending

/-- The query has no plan. -/
def isRejected : Ending → Bool
  | rejected => true
  | _ => false

/-- The engine has answered with a valid response. -/
def isValid : Ending → Bool
  | submitted (.ok (.hits _)) _ => true
  | _ => false

/-- The engine has answered with a valid response, which cannot be read. -/
def isUnread : Ending → Bool
  | submitted (.ok (.hits _)) none => true
  | _ => false

/-- The engine has answered with an invalid response, or there was a fault. -/
def isFailure : Ending → Bool
  | submitted (.ok (.invalid _)) _ => true
  | submitted (.error (.fault _)) _ => true
  | _ => false

/-- The query was given up while it was awaited, because its token was cancelled. -/
def isGivenUp : Ending → Bool
  | submitted (.error .cancelled) _ => true
  | _ => false

/-- The number of documents in the output. -/
def documentCount : Ending → Nat
  | submitted _ (some n) => n
  | _ => 0

/-- The number of documents in all outputs. -/
def documents (endings : List Ending) : Nat :=
  endings.foldr (fun ending n => ending.documentCount + n) 0

theorem documents_append (endings endings' : List Ending) :
  documents (endings ++ endings') = documents endings + documents endings'
  := by
  induction endings with
  | nil => exact (Nat.zero_add _).symm
  | cons ending endings ih =>
      have hcons : documents (ending :: endings ++ endings') =
          ending.documentCount + documents (endings ++ endings') := rfl
      rw [hcons, ih, ← Nat.add_assoc]
      rfl

end Ending

/-- What the counters have to do with the queries that have ended: those that are rejected, those
with a valid response that can be read, those that have failed or are given up, and the documents in
all outputs are counted. -/
structure Accounted (endings : List Ending) (before after : Counters) : Prop where
  rejected : after.rejected = before.rejected + endings.countP Ending.isRejected
  executed : after.executed + endings.countP Ending.isUnread =
    before.executed + endings.countP Ending.isValid
  failed : after.failed =
    before.failed + endings.countP Ending.isFailure + endings.countP Ending.isGivenUp
  documents : after.documents = before.documents + Ending.documents endings

namespace Accounted

variable {endings endings' : List Ending} {before between after : Counters}

theorem refl (c : Counters) :
  Accounted [] c c
  := ⟨rfl, rfl, rfl, rfl⟩

theorem append (h : Accounted endings before between) (h' : Accounted endings' between after) :
  Accounted (endings ++ endings') before after
  := by
  have hrejected := h.rejected
  have hrejected' := h'.rejected
  have hexecuted := h.executed
  have hexecuted' := h'.executed
  have hfailed := h.failed
  have hfailed' := h'.failed
  have hdocuments := h.documents
  have hdocuments' := h'.documents
  constructor <;> simp only [List.countP_append, Ending.documents_append] <;> omega

end Accounted

/-! ### Runs -/

/-- The outcome of an activity, if it has one. -/
def Progress.outcome? {ω : Type} : Progress ω α → Option α
  | .finished outcome => some outcome
  | .waiting _ => none

/-- What an activity waits with, if it has no outcome. -/
def Progress.rest? {ω : Type} : Progress ω α → Option ω
  | .finished _ => none
  | .waiting rest => some rest

/-- The number of documents in an output. -/
def Output.documentCount : Output α → Nat
  | .documents items => items.length
  | .count _ => 0

/-- A query that is awaited with a token, and the number of documents in what it may come to. -/
structure InFlight where
  {Result : Type}
  token : String
  pending : PendingSearch Result
  documents : Result → Nat

/-- What a query leaves that is asked for or resumed: the session, its ending if it has ended, and
otherwise the query in flight. -/
structure Aftermath where
  session : Session
  ending? : Option Ending
  inFlight : List InFlight

namespace Aftermath

/-- A query has ended before it was submitted. -/
def unsubmitted (ending : Ending) (s : Session) : Aftermath := ⟨s, some ending, []⟩

/-- A query has come to `progress` by a step of its search; it has ended when the step has brought
an answer. -/
def ofStep (token : String) (documents : β → Nat)
    (step : Progress Wait (Except QueryError SearchResponse)) :
    SearchProgress β × Session → Aftermath
  | (progress, s) =>
    ⟨s,
      step.outcome?.map fun answer =>
        .submitted answer ((progress.outcome?.bind Except.toOption).map documents),
      progress.rest?.toList.map fun pending => ⟨token, pending, documents⟩⟩

end Aftermath

/-- What can be asked of a provider: to execute a query in place or with a token, and to run
aggregations. -/
inductive ProviderCall where
  | execute {α : Type} (p : Provider α) (q : Query) (external : Option Filter)
  | executeWithToken {α : Type} (p : Provider α) (q : Query) (external : Option Filter)
      (token : String)
  | aggregate {α β : Type} (p : Provider α) (q : Query) (external : Option Filter)
      (spec : Aggregation.Spec) (read : Option Json → Option β) (token : String)

namespace Provider

/-- What a query leaves that has come to `begun` with a token, where `request` is sent for its
plan. -/
def aftermath (p : Provider α) (q : Query) (token : String) (request : Plan → SearchRequest)
    (documents : β → Nat) (begun : SearchProgress β × Session) (s : Session) : Aftermath :=
  match q.plan with
  | .error _ => .unsubmitted .rejected begun.2
  | .ok plan =>
    if s.isCancelled token then .unsubmitted .dropped begun.2
    else .ofStep token documents
      ((p.compile q s).2.submit (.search false (request plan)) token).1 begun

end Provider

/-- What a call leaves that is made in a session. -/
def ProviderCall.ask (s : Session) : ProviderCall → Aftermath
  | execute p q external =>
    let (output, after) := p.execute q external s
    match q.plan with
    | .error _ => .unsubmitted .rejected after
    | .ok plan =>
      let answer := (Provider.send (p.request plan external) (p.compile q s).2).1
      ⟨after, some (.submitted answer (output.toOption.map Output.documentCount)), []⟩
  | executeWithToken p q external token =>
    p.aftermath q token (p.request · external) Output.documentCount
      (p.beginExecute q external token s) s
  | aggregate p q external spec read token =>
    p.aftermath q token (p.aggregationRequest · external spec) (fun _ => 0)
      (p.beginAggregate q external spec read token s) s

/-- What a query in flight leaves that is resumed in a session. -/
def InFlight.resume (flight : InFlight) (elapsed : Bool) (s : Session) : Aftermath :=
  .ofStep flight.token flight.documents
    (s.await (.search false flight.pending.request) flight.token flight.pending.wait elapsed).1
    (s.resumeSearch flight.token flight.pending elapsed)

/-- What can happen next in a session with queries in flight, and the ending of the query that has
ended by it, if any: a query is asked for, a query in flight is resumed, a token is cancelled, or
something happens to the engine. -/
inductive QueryStep : Session × List InFlight → Option Ending → Session × List InFlight → Prop
  | asked (call : ProviderCall) (s : Session) (flights : List InFlight) :
      QueryStep (s, flights) (call.ask s).ending?
        ((call.ask s).session, flights ++ (call.ask s).inFlight)
  | resumed (flight : InFlight) (elapsed : Bool) (s : Session) (before after : List InFlight) :
      QueryStep (s, before ++ flight :: after) (flight.resume elapsed s).ending?
        ((flight.resume elapsed s).session,
          before ++ (flight.resume elapsed s).inFlight ++ after)
  | cancelled (token : String) (s : Session) (flights : List InFlight) :
      QueryStep (s, flights) none (s.cancel token, flights)
  | elsewhere (engine : Engine) (s : Session) (flights : List InFlight) :
      QueryStep (s, flights) none ({ s with engine := engine }, flights)

/-- A run of queries, with the endings of those that have ended. -/
inductive QueryRun (start : Session × List InFlight) :
    List Ending → Session × List InFlight → Prop
  | start : QueryRun start [] start
  | step {endings : List Ending} {ending? : Option Ending} {state state' : Session × List InFlight}
      (hrun : QueryRun start endings state) (hstep : QueryStep state ending? state') :
      QueryRun start (endings ++ ending?.toList) state'

/-! ### Answers that are finished -/

/-- Whatever is done with the answer to a query, it is counted. -/
def Accounts (documents : β → Nat)
    (finish : SearchResponse → Session → Except QueryError β × Session) : Prop :=
  ∀ response s, Accounted
    [.submitted (.ok response) ((finish response s).1.toOption.map documents)]
    s.counters (finish response s).2.counters

namespace Provider

/-- The documents or the number that a query yields are counted with it. -/
theorem accounts_materialize (p : Provider α) (plan : Plan) :
  Accounts Output.documentCount (p.materialize plan)
  := by
  intro response s
  cases response with
  | invalid diagnostic => exact ⟨rfl, rfl, rfl, rfl⟩
  | hits found =>
      simp only [materialize, accept]
      cases plan.countOnly with
      | true => exact ⟨rfl, rfl, rfl, rfl⟩
      | false =>
          rw [if_neg Bool.false_ne_true]
          cases found.documents.mapM p.read with
          | none => exact ⟨rfl, rfl, rfl, rfl⟩
          | some items => exact ⟨rfl, rfl, rfl, rfl⟩

/-- The results of aggregations are counted as a query without documents. -/
theorem accounts_readAggregations (p : Provider α) (spec : Aggregation.Spec)
    (read : Option Json → Option β) :
  Accounts (fun _ => 0) (p.readAggregations spec read)
  := by
  intro response s
  cases response with
  | invalid diagnostic => exact ⟨rfl, rfl, rfl, rfl⟩
  | hits found =>
      simp only [readAggregations, accept]
      cases read found.aggregations with
      | none => exact ⟨rfl, rfl, rfl, rfl⟩
      | some results => exact ⟨rfl, rfl, rfl, rfl⟩

end Provider

/-! ### Steps of a call -/

namespace Session

variable {ρ : Type} {s s' : Session}

/-- A step of a call counts nothing, and its only errors are faults and cancellations. -/
structure Uncounted (s : Session) (step : Progress Wait (Except QueryError ρ) × Session) :
    Prop where
  counters : step.2.counters = s.counters
  error (e : QueryError) (h : step.1 = .finished (.error e)) :
    e = .cancelled ∨ ∃ fault, e = .fault fault

theorem counters_after (s : Session) (cancels : Option String) (e : Engine) :
  (s.after cancels e).counters = s.counters
  := by
  cases cancels <;> rfl

/-- The outcome of a call with a token is counted nowhere. -/
theorem uncounted_conclude (hcounters : s'.counters = s.counters) (token : String)
    (outcome : Except Fault ρ) :
  s.Uncounted (.finished (s'.conclude token outcome), s')
  := by
  use hcounters
  intro e he
  cases outcome with
  | ok answer => cases he
  | error fault =>
      rw [conclude] at he
      obtain rfl := Except.error.inj (Progress.finished.inj he)
      cases s'.isCancelled token with
      | true => exact Or.inl rfl
      | false => exact Or.inr ⟨fault, rfl⟩

theorem uncounted_waiting (hcounters : s'.counters = s.counters) (wait : Wait) :
  s.Uncounted ((.waiting wait, s') : Progress Wait (Except QueryError ρ) × Session)
  := by
  use hcounters
  intro e he
  cases he

/-- A call that is submitted counts nothing. -/
theorem uncounted_submit (s : Session) (x : Exchange ρ) (token : String) :
  s.Uncounted (s.submit x token)
  := by
  have hcounters : (s.begin x token).2.counters = s.counters := counters_after s _ _
  rw [submit]
  generalize s.begin x token = step at hcounters
  obtain ⟨outcome | wait, s'⟩ := step
  · exact uncounted_conclude hcounters token outcome
  · exact uncounted_waiting hcounters wait

/-- A call that is awaited counts nothing. -/
theorem uncounted_await (s : Session) (x : Exchange ρ) (token : String) (wait : Wait)
    (elapsed : Bool) :
  s.Uncounted (s.await x token wait elapsed)
  := by
  have hcounters : (s.resume x token wait elapsed).2.counters = s.counters := counters_after s _ _
  rw [await]
  split
  · use rfl
    intro e he
    obtain rfl := Except.error.inj (Progress.finished.inj he)
    exact Or.inl rfl
  · generalize s.resume x token wait elapsed = step at hcounters
    obtain ⟨outcome | wait, s'⟩ := step
    · exact uncounted_conclude hcounters token outcome
    · exact uncounted_waiting hcounters wait

end Session

/-! ### Steps of a query -/

/-- A query in flight will be counted when its answer is finished. -/
def InFlight.Accounts (flight : InFlight) : Prop :=
  DocSearch.Accounts flight.documents flight.pending.finish

/-- What a query leaves is accounted for: its ending if it has ended, and later on otherwise. -/
structure Aftermath.Accounts (before : Counters) (after : Aftermath) : Prop where
  accounted : Accounted after.ending?.toList before after.session.counters
  inFlight : ∀ flight ∈ after.inFlight, flight.Accounts

namespace Aftermath

variable {documents : β → Nat} {finish : SearchResponse → Session → Except QueryError β × Session}
  {s : Session} {step : Progress Wait (Except QueryError SearchResponse) × Session}

/-- A search that goes on after a step is accounted for. -/
theorem accounts_ofStep (hfinish : DocSearch.Accounts documents finish) (hstep : s.Uncounted step)
    (token : String) (request : SearchRequest) :
  (ofStep token documents step.1 (Session.proceed request finish step)).Accounts s.counters
  := by
  rw [← hstep.counters]
  obtain ⟨(e | response) | wait, s'⟩ := step
  · constructor
    case accounted =>
      rcases hstep.error e rfl with rfl | ⟨fault, rfl⟩
      · exact ⟨rfl, rfl, rfl, rfl⟩
      · exact ⟨rfl, rfl, rfl, rfl⟩
    case inFlight => exact List.forall_mem_nil _
  · constructor
    case accounted => exact hfinish response s'
    case inFlight => exact List.forall_mem_nil _
  · constructor
    case accounted => exact Accounted.refl _
    case inFlight => exact List.forall_mem_singleton.mpr hfinish

end Aftermath

namespace Provider

variable {q : Query} {s : Session} {request : Plan → SearchRequest} {documents : β → Nat}
  {finish : Plan → SearchResponse → Session → Except QueryError β × Session}

/-- A query with a plan is compiled without being counted. -/
theorem counters_compile {plan : Plan} (p : Provider α) (hplan : q.plan = .ok plan) :
  (p.compile q s).2.counters = s.counters
  := by
  rw [compile, hplan]
  rfl

/-- A query that is begun with a token is accounted for. -/
theorem accounts_aftermath (p : Provider α) (token : String)
    (hfinish : ∀ plan, Accounts documents (finish plan)) {begun : SearchProgress β × Session}
    (hbegun : begun = match p.compile q s with
      | (.error e, s) => (.finished (.error e), s)
      | (.ok plan, s) => s.beginSearch token (request plan) (finish plan)) :
  (p.aftermath q token request documents begun s).Accounts s.counters
  := by
  subst hbegun
  rw [aftermath]
  cases hplan : q.plan with
  | error reason =>
      rw [compile, hplan]
      exact ⟨⟨rfl, rfl, rfl, rfl⟩, List.forall_mem_nil _⟩
  | ok plan =>
      have hcounters : (p.compile q s).2.counters = s.counters := p.counters_compile hplan
      have hcancelled : (p.compile q s).2.isCancelled token = s.isCancelled token :=
        isCancelled_compile
      have hcompile : p.compile q s = (.ok plan, (p.compile q s).2) := by
        rw [compile_of_plan hplan]
      rw [hcompile]
      simp only
      generalize (p.compile q s).2 = s₁ at hcounters hcancelled
      rw [Session.beginSearch, hcancelled, ← hcounters]
      split
      · exact ⟨⟨rfl, rfl, rfl, rfl⟩, List.forall_mem_nil _⟩
      · exact Aftermath.accounts_ofStep (hfinish plan) (s₁.uncounted_submit _ token) token _

end Provider

/-- What is asked of a provider is accounted for. -/
theorem ProviderCall.accounts_ask (call : ProviderCall) (s : Session) :
  (call.ask s).Accounts s.counters
  := by
  cases call with
  | executeWithToken p q external token =>
      exact p.accounts_aftermath token p.accounts_materialize rfl
  | aggregate p q external spec read token =>
      exact p.accounts_aftermath token (fun _ => p.accounts_readAggregations spec read) rfl
  | execute p q external =>
      rw [ask, Provider.execute]
      cases hplan : q.plan with
      | error reason =>
          rw [Provider.compile, hplan]
          exact ⟨⟨rfl, rfl, rfl, rfl⟩, List.forall_mem_nil _⟩
      | ok plan =>
          have hcounters : (p.compile q s).2.counters = s.counters := p.counters_compile hplan
          have hcompile : p.compile q s = (.ok plan, (p.compile q s).2) := by
            rw [Provider.compile_of_plan hplan]
          rw [hcompile]
          simp only [Provider.send]
          generalize (p.compile q s).2 = s₁ at hcounters
          have hperform : (s₁.perform (.search true (p.request plan external))).2.counters =
              s.counters := (Session.counters_after s₁ _ _).trans hcounters
          generalize s₁.perform (.search true (p.request plan external)) = performed at hperform
          rw [← hperform]
          obtain ⟨fault | response, s₂⟩ := performed
          · exact ⟨⟨rfl, rfl, rfl, rfl⟩, List.forall_mem_nil _⟩
          · exact ⟨p.accounts_materialize plan response s₂, List.forall_mem_nil _⟩

/-- A query in flight is accounted for when it is resumed. -/
theorem InFlight.Accounts.resume {flight : InFlight} (h : flight.Accounts) (elapsed : Bool)
    (s : Session) :
  (flight.resume elapsed s).Accounts s.counters
  := Aftermath.accounts_ofStep h (s.uncounted_await _ _ _ elapsed) flight.token _

/-! ### Steps of a run -/

/-- A step accounts for the query that ends by it, and keeps the queries in flight accounted for. -/
theorem QueryStep.accounts {s s' : Session} {flights flights' : List InFlight}
    {ending? : Option Ending} (h : QueryStep (s, flights) ending? (s', flights'))
    (hflights : ∀ flight ∈ flights, flight.Accounts) :
  Accounted ending?.toList s.counters s'.counters ∧ ∀ flight ∈ flights', flight.Accounts
  := by
  generalize hafter : (s', flights') = after at h
  cases h with
  | asked call =>
      obtain ⟨rfl, rfl⟩ := Prod.mk.inj hafter
      have hasked := call.accounts_ask s
      exact ⟨hasked.accounted, List.forall_mem_append.mpr ⟨hflights, hasked.inFlight⟩⟩
  | resumed flight elapsed s before after =>
      obtain ⟨rfl, rfl⟩ := Prod.mk.inj hafter
      rw [List.forall_mem_append, List.forall_mem_cons] at hflights
      obtain ⟨hbefore, hflight, hafter⟩ := hflights
      have hresumed := hflight.resume elapsed s
      refine ⟨hresumed.accounted, ?_⟩
      simp only [List.forall_mem_append]
      exact ⟨⟨hbefore, hresumed.inFlight⟩, hafter⟩
  | cancelled token =>
      obtain ⟨rfl, rfl⟩ := Prod.mk.inj hafter
      exact ⟨Accounted.refl _, hflights⟩
  | elsewhere engine =>
      obtain ⟨rfl, rfl⟩ := Prod.mk.inj hafter
      exact ⟨Accounted.refl _, hflights⟩

/-- A run accounts for the queries that have ended, and keeps those in flight accounted for. -/
theorem QueryRun.accounts {start state : Session × List InFlight} {endings : List Ending}
    (h : QueryRun start endings state) (hstart : ∀ flight ∈ start.2, flight.Accounts) :
  Accounted endings start.1.counters state.1.counters ∧ ∀ flight ∈ state.2, flight.Accounts
  := by
  induction h with
  | start => exact ⟨Accounted.refl _, hstart⟩
  | step hrun hstep ih =>
      obtain ⟨haccounted, hflights⟩ := ih
      obtain ⟨hstepped, hflights'⟩ := hstep.accounts hflights
      exact ⟨haccounted.append hstepped, hflights'⟩

/-- A run accounts for all queries that have ended, whatever was in flight with them.  Those that
were rejected are counted as such.  Those that were answered with a valid response are counted as
executed, unless the response cannot be read.  Those with an invalid response or a fault are counted
as failed, and so are those that were given up while they were awaited.  The documents of all
outputs are counted.  So without unread responses and queries that are given up, the queries
executed are those with a valid response, and the queries failed are those with an invalid response
or a fault. -/
theorem counters_account_for_queries {s s' : Session} {flights : List InFlight}
    {endings : List Ending} (h : QueryRun (s, []) endings (s', flights)) :
  Accounted endings s.counters s'.counters ∧
  ((∀ ending ∈ endings, ending.isUnread = false ∧ ending.isGivenUp = false) →
    s'.counters.executed = s.counters.executed + endings.countP Ending.isValid ∧
    s'.counters.failed = s.counters.failed + endings.countP Ending.isFailure)
  := by
  have haccounted : Accounted endings s.counters s'.counters :=
    (h.accounts (List.forall_mem_nil _)).1
  use haccounted
  intro hnone
  have hunread : endings.countP Ending.isUnread = 0 := by
    rw [List.countP_eq_zero]
    intro ending hending
    simp [(hnone ending hending).1]
  have hgivenUp : endings.countP Ending.isGivenUp = 0 := by
    rw [List.countP_eq_zero]
    intro ending hending
    simp [(hnone ending hending).2]
  have hexecuted := haccounted.executed
  have hfailed := haccounted.failed
  rw [hunread, Nat.add_zero] at hexecuted
  rw [hgivenUp, Nat.add_zero] at hfailed
  exact ⟨hexecuted, hfailed⟩

/-- A query is executed in place while another one is in flight, which is answered later by the slow
engine, and a third one is rejected. -/
theorem counters_account_for_queries_of_slow :
  let index : Index := ⟨[("a", .str "first"), ("b", .str "second")]⟩
  let m : Memory := { Memory.empty.setIndex "docs" index with slow := true }
  let s : Session := .start (.memory m)
  ∃ s' flights endings, QueryRun (s, []) endings (s', flights) ∧
    s'.counters.rejected = 1 ∧ s'.counters.executed = 2 ∧ s'.counters.failed = 0 ∧
    s'.counters.documents = 4
  := by
  intro index m s
  let p : Provider Json := ⟨"docs", some⟩
  let plan : Plan := ⟨none, none, none, [], none, false⟩
  let flight : InFlight :=
    ⟨"token", ⟨p.request plan none, p.materialize plan, .slow⟩, Output.documentCount⟩
  have h₁ : QueryRun (s, []) _ _ :=
    QueryRun.step .start (.asked (.executeWithToken p .source none "token") s [])
  have h₂ := QueryRun.step h₁ (.asked (.execute p .source none) _ _)
  have h₃ := QueryRun.step h₂ (.asked (.execute p (Query.source.groupBy ⟨"kind"⟩) none) _ _)
  have h₄ := QueryRun.step h₃ (.resumed flight true _ [] [])
  obtain ⟨haccounted, hanswered⟩ := counters_account_for_queries h₄
  obtain ⟨hexecuted, hfailed⟩ := hanswered (by decide +kernel)
  refine ⟨_, _, _, h₄, haccounted.rejected.trans ?_, hexecuted.trans ?_, hfailed.trans ?_,
    haccounted.documents.trans ?_⟩
  all_goals decide +kernel

/-- An engine answers two queries.  The documents of the first answer cannot be read, and the second
query is given up before its answer comes: no query is counted as executed, although one has been
answered with a valid response, and one is counted as failed, although none has been answered with
an invalid response and there was no fault. -/
theorem unread_response_is_not_counted :
  let m : Memory := { Memory.empty.insert "docs" "1" .null with slow := true }
  let s : Session := .start (.memory m)
  ∃ s' flights endings, QueryRun (s, []) endings (s', flights) ∧
    endings.countP Ending.isValid = 1 ∧ s'.counters.executed = 0 ∧
    endings.countP Ending.isFailure = 0 ∧ s'.counters.failed = 1
  := by
  intro m s
  let p : Provider String := ⟨"docs", Json.string?⟩
  let plan : Plan := ⟨none, none, none, [], none, false⟩
  let flight : InFlight :=
    ⟨"token", ⟨p.request plan none, p.materialize plan, .slow⟩, Output.documentCount⟩
  have h₁ : QueryRun (s, []) _ _ := QueryRun.step .start (.asked (.execute p .source none) s [])
  have h₂ := QueryRun.step h₁ (.asked (.executeWithToken p .source none "token") _ _)
  have h₃ := QueryRun.step h₂ (.cancelled "token" _ _)
  have h₄ := QueryRun.step h₃ (.resumed flight false _ [] [])
  refine ⟨_, _, _, h₄, ?_⟩
  decide +kernel

end DocSearch
