import DocSearch.Proofs.Provider.Sending
import DocSearch.Proofs.Session.Call

/-!
# Queries in place and with a token

On an engine in memory a query with a token that is never cancelled comes to what it comes to in
place, and leaves the same session: `Provider.agrees_beginExecute`.  `Session.Agrees` says so of a
search: it waits, and nothing has happened yet, or it is finished as `Session.searchInPlace` is.
The two sessions may differ in the tokens that are cancelled meanwhile, on which neither depends.
-/

namespace DocSearch

namespace Session

variable {β : Type} {s : Session} {m : Memory} {token : String} {r : SearchRequest}
  {finish : SearchResponse → Session → Except QueryError β × Session}

/-- Send a search, wait for the answer in place, and finish with it. -/
def searchInPlace (request : SearchRequest)
    (finish : SearchResponse → Session → Except QueryError β × Session) (s : Session) :
    Except QueryError β × Session :=
  match Provider.send request s with
  | (.error e, s) => (.error e, s)
  | (.ok response, s) => finish response s

/-- What is done in a session does not depend on the tokens that are cancelled. -/
def IgnoresTokens (run : Session → Except QueryError β × Session) : Prop :=
  ∀ s tokens, run (s.withCancelled tokens) = ((run s).1, (run s).2.withCancelled tokens)

/-- A search of an engine in memory does not depend on tokens when its answer is finished so. -/
theorem searchInPlace_withCancelled (hengine : s.engine = .memory m)
    (hfinish : ∀ response, IgnoresTokens (finish response)) (tokens : List String) :
  searchInPlace r finish (s.withCancelled tokens) =
    ((searchInPlace r finish s).1, (searchInPlace r finish s).2.withCancelled tokens)
  := by
  have hengine' : (s.withCancelled tokens).engine = .memory m := hengine
  simp only [searchInPlace, Provider.send, perform, hengine, hengine', Engine.perform,
    Exchange.search]
  cases (m.search r).1 with
  | error fault => rfl
  | ok response => exact hfinish response { s with engine := .memory (m.search r).2 } tokens

/-- A search with a token that is not cancelled goes on after a step: it waits, and nothing has
happened, or it is finished as in place. -/
theorem CallOutcome.proceed_eq
    {step : Progress Wait (Except QueryError SearchResponse) × Session}
    (h : s.CallOutcome (.search false r) token m step.1 step.2)
    (finish : SearchResponse → Session → Except QueryError β × Session)
    (hengine : s.engine = .memory m) (hcancelled : s.isCancelled token = false) :
  proceed r finish step = (.waiting ⟨r, finish, .slow⟩, s) ∨
    proceed r finish step = (.finished (searchInPlace r finish s).1, (searchInPlace r finish s).2)
  := by
  obtain ⟨progress, s'⟩ := step
  simp only [searchInPlace, Provider.send, perform, hengine, Engine.perform]
  cases h with
  | waiting =>
      left
      rfl
  | cancelled hcancelled' => cases hcancelled.symm.trans hcancelled'
  | faulted fault _ hfault =>
      right
      have hsearch : (m.search r).1 = .error fault := hfault
      simp only [Exchange.search, hsearch]
      rfl
  | answered answer hanswer =>
      right
      have hsearch : (m.search r).1 = .ok answer := hanswer
      simp only [Exchange.search, hsearch]
      rfl

/-- A search with a token agrees with what it comes to in place: it waits, and to go on in place
would come to this, or it is finished so.  Other tokens may be cancelled meanwhile. -/
inductive Agrees (token : String) (inPlace : Except QueryError β × Session) :
    SearchProgress β × Session → Prop
  | waiting {r : SearchRequest} {finish : SearchResponse → Session → Except QueryError β × Session}
      {s : Session} {m : Memory} (hengine : s.engine = .memory m)
      (hfinish : ∀ response, IgnoresTokens (finish response))
      (hinPlace : searchInPlace r finish s = inPlace) (tokens : List String)
      (htoken : token ∉ tokens) :
      Agrees token inPlace (.waiting ⟨r, finish, .slow⟩, s.withCancelled tokens)
  | finished (tokens : List String) :
      Agrees token inPlace (.finished inPlace.1, inPlace.2.withCancelled tokens)

/-- A step of a search with a token that is not cancelled agrees with the search in place. -/
theorem CallOutcome.agrees {tokens : List String}
    {step : Progress Wait (Except QueryError SearchResponse) × Session}
    (h : (s.withCancelled tokens).CallOutcome (.search false r) token m step.1 step.2)
    (hengine : s.engine = .memory m) (hfinish : ∀ response, IgnoresTokens (finish response))
    (htoken : token ∉ tokens) :
  Agrees token (searchInPlace r finish s) (proceed r finish step)
  := by
  have hcancelled : (s.withCancelled tokens).isCancelled token = false := decide_eq_false htoken
  rcases h.proceed_eq finish hengine hcancelled with hwaiting | hfinished
  · rw [hwaiting]
    exact Agrees.waiting hengine hfinish rfl tokens htoken
  · rw [hfinished, searchInPlace_withCancelled hengine hfinish]
    exact Agrees.finished tokens

/-- A search that is begun with a token that is not cancelled agrees with the search in place. -/
theorem agrees_beginSearch (hengine : s.engine = .memory m)
    (hcancelled : s.isCancelled token = false)
    (hfinish : ∀ response, IgnoresTokens (finish response)) :
  Agrees token (searchInPlace r finish s) (s.beginSearch token r finish)
  := by
  have htoken : token ∉ s.cancelled := of_decide_eq_false hcancelled
  rw [beginSearch, if_neg (by simp [hcancelled])]
  exact (submit_outcome hengine hcancelled).agrees hengine hfinish htoken

variable {inPlace : Except QueryError β × Session} {search : SearchProgress β × Session}

/-- A turn in which the token is not cancelled keeps a search in agreement with the one in place. -/
theorem Agrees.advance (h : Agrees token inPlace search) {turn : Turn}
    (hturn : turn ≠ .cancelled token) :
  Agrees token inPlace (advance token search turn)
  := by
  cases h with
  | finished tokens =>
      cases turn with
      | resumed elapsed => exact Agrees.finished tokens
      | cancelled other => exact Agrees.finished (other :: tokens)
  | @waiting r finish s m hengine hfinish hinPlace tokens htoken =>
      cases turn with
      | resumed elapsed =>
          have hengine' : (s.withCancelled tokens).engine = .memory m := hengine
          rw [← hinPlace]
          exact (await_outcome hengine' elapsed).agrees hengine hfinish htoken
      | cancelled other =>
          have hne : token ≠ other := fun hsame => hturn (congrArg _ hsame.symm)
          exact Agrees.waiting hengine hfinish hinPlace (other :: tokens)
            (List.not_mem_cons_of_ne_of_not_mem hne htoken)

/-- Turns in which the token is not cancelled keep a search in agreement with the one in place. -/
theorem Agrees.advanceAll (h : Agrees token inPlace search) {turns : List Turn}
    (hturns : .cancelled token ∉ turns) :
  Agrees token inPlace (advanceAll token search turns)
  := by
  induction turns generalizing search with
  | nil => exact h
  | cons turn turns ih =>
      rw [List.mem_cons, not_or] at hturns
      exact ih (h.advance (Ne.symm hturns.1)) hturns.2

/-- A search that agrees with the one in place comes to its outcome, and leaves its session but for
the tokens that are cancelled. -/
theorem Agrees.eq_of_finished (h : Agrees token inPlace search) {outcome : Except QueryError β}
    (hfinished : search.1 = .finished outcome) :
  outcome = inPlace.1 ∧ search.2 = inPlace.2.withCancelled search.2.cancelled
  := by
  cases h with
  | waiting hengine hfinish hinPlace tokens htoken => cases hfinished
  | finished tokens =>
      obtain rfl := Progress.finished.inj hfinished
      exact ⟨rfl, rfl⟩

/-- A search that agrees with the one in place has an outcome after turns in one of which the time
has elapsed that the engine takes. -/
theorem Agrees.exists_finished (h : Agrees token inPlace search) {turns : List Turn}
    (hturns : .cancelled token ∉ turns) (helapsed : .resumed true ∈ turns) :
  ∃ outcome, (Session.advanceAll token search turns).1 = .finished outcome
  := by
  obtain ⟨before, after, rfl⟩ := List.append_of_mem helapsed
  have hbefore := h.advanceAll fun hmem => hturns (List.mem_append_left _ hmem)
  obtain ⟨outcome, s', hfinished⟩ : ∃ outcome s',
      Session.advance token (Session.advanceAll token search before) (.resumed true) =
        (.finished outcome, s') := by
    generalize Session.advanceAll token search before = search' at hbefore
    cases hbefore with
    | finished tokens => exact ⟨_, _, rfl⟩
    | @waiting r finish s m hengine hfinish hinPlace tokens htoken =>
        have hstage : Stage token r finish (.memory m)
            (.waiting ⟨r, finish, .slow⟩, s.withCancelled tokens) := Stage.unsent _ hengine
        exact hstage.exists_finished
  obtain ⟨s'', hafter⟩ := advanceAll_finished outcome after s'
  rw [advanceAll_append, advanceAll_cons, hfinished, hafter]
  exact ⟨outcome, rfl⟩

/-- An engine that is not slow lets no search wait. -/
theorem exists_finished_beginSearch (hengine : s.engine = .memory m) (hslow : m.slow = false) :
  ∃ outcome s', s.beginSearch token r finish = (.finished outcome, s')
  := by
  rw [beginSearch]
  split
  case isTrue => exact ⟨_, _, rfl⟩
  case isFalse =>
    have hne : ∀ wait, (s.submit (.search false r) token).1 ≠ .waiting wait :=
      submit_ne_waiting hengine hslow
    generalize s.submit (.search false r) token = step at hne
    obtain ⟨(e | response) | wait, s'⟩ := step
    · exact ⟨_, _, rfl⟩
    · exact ⟨_, _, rfl⟩
    · cases hne wait rfl

end Session

namespace Provider

open Session

variable {α : Type} {p : Provider α} {q : Query} {external : Option Filter} {s : Session}
  {m : Memory} {token : String}

/-- An answer is made into an output whatever tokens are cancelled. -/
theorem ignoresTokens_materialize (p : Provider α) (plan : Plan) (response : SearchResponse) :
  IgnoresTokens (p.materialize plan response)
  := by
  intro s tokens
  cases response with
  | invalid diagnostic => rfl
  | hits found =>
      simp only [materialize, accept]
      split
      · rfl
      · split
        · rfl
        · rfl

/-- A query with a plan is executed in place as the search for its request. -/
theorem execute_of_plan {plan : Plan} (hplan : q.plan = .ok plan) :
  p.execute q external s =
    searchInPlace (p.request plan external) (p.materialize plan) (p.compile q s).2
  := by
  rw [execute, compile_of_plan hplan]
  rfl

/-- A query on an engine in memory does not depend on the tokens that are cancelled. -/
theorem execute_withCancelled (hengine : s.engine = .memory m) (tokens : List String) :
  p.execute q external (s.withCancelled tokens) =
    ((p.execute q external s).1, (p.execute q external s).2.withCancelled tokens)
  := by
  cases hplan : q.plan with
  | error reason => simp only [execute, compile, hplan]; rfl
  | ok plan =>
      have hcompile : (p.compile q (s.withCancelled tokens)).2 =
          (p.compile q s).2.withCancelled tokens := by
        simp only [compile, hplan]
        rfl
      rw [execute_of_plan hplan, execute_of_plan hplan, hcompile]
      apply searchInPlace_withCancelled (engine_compile.trans hengine)
        (p.ignoresTokens_materialize plan)

/-- A query on an engine in memory that is begun with a token that is not cancelled agrees with what
it comes to in place. -/
theorem agrees_beginExecute (p : Provider α) (q : Query) (external : Option Filter)
    (hengine : s.engine = .memory m) (hcancelled : s.isCancelled token = false) :
  Agrees token (p.execute q external s) (p.beginExecute q external token s)
  := by
  cases hplan : q.plan with
  | error reason =>
      have hrejects : p.Rejects q external token s reason (p.compile q s).2 :=
        rejects_of_plan hplan
      rw [hrejects.execute, hrejects.beginExecute]
      exact Agrees.finished (p.compile q s).2.cancelled
  | ok plan =>
      rw [execute_of_plan hplan, beginExecute_of_plan hplan, compile_of_plan hplan]
      exact agrees_beginSearch hengine hcancelled (p.ignoresTokens_materialize plan)

/-- A query on an engine in memory that is not slow has an outcome when it is begun. -/
theorem exists_finished_beginExecute (hengine : s.engine = .memory m) (hslow : m.slow = false) :
  ∃ outcome s', p.beginExecute q external token s = (.finished outcome, s')
  := by
  cases hplan : q.plan with
  | error reason =>
      have hrejects : p.Rejects q external token s reason (p.compile q s).2 :=
        rejects_of_plan hplan
      exact ⟨_, _, hrejects.beginExecute⟩
  | ok plan =>
      rw [beginExecute_of_plan hplan]
      exact exists_finished_beginSearch (engine_compile.trans hengine) hslow

end Provider

end DocSearch
