import DocSearch.Entity
import DocSearch.Proofs.Provider.Sending
import DocSearch.Proofs.Replay.Accounting

/-!
# What is sent before a rejection

`Session.Operation` lists the operations of a session that can fail, and `Session.Operation.Fails`
says with which errors.  A query that fails with a rejection was not sent.  A replay of changes that
fails with one has sent all changes before the first one whose kind has no index:
`engine_after_rejection`.
-/

namespace DocSearch

/-! ### Searches that can be cancelled -/

namespace Session

variable {α β ρ : Type} {s s' : Session} {token : String} {e : QueryError}

/-- A search with a token comes to an outcome when it is resumed again and again, while tokens may
be cancelled. -/
inductive Settles (token : String) :
    SearchProgress β × Session → Except QueryError β → Session → Prop
  | finished (outcome : Except QueryError β) (s : Session) :
      Settles token (.finished outcome, s) outcome s
  | cancelled (pending : PendingSearch β) (other : String) (s s' : Session)
      (outcome : Except QueryError β)
      (hrest : Settles token (.waiting pending, s.cancel other) outcome s') :
      Settles token (.waiting pending, s) outcome s'
  | resumed (pending : PendingSearch β) (elapsed : Bool) (s s' : Session)
      (outcome : Except QueryError β)
      (hrest : Settles token (s.resumeSearch token pending elapsed) outcome s') :
      Settles token (.waiting pending, s) outcome s'

/-- An outcome is no rejection. -/
def NotRejected (outcome : Except QueryError β) : Prop :=
  ∀ e, outcome = .error e → e.isRejection = false

/-- Neither a search nor what is to be done with its answer comes to a rejection. -/
def NeverRejected : SearchProgress β → Prop
  | .finished outcome => NotRejected outcome
  | .waiting pending => ∀ response s, NotRejected (pending.finish response s).1

/-- The engine does not reject calls. -/
theorem notRejected_conclude (outcome : Except Fault ρ) :
  NotRejected (s.conclude token outcome)
  := by
  intro e he
  cases outcome with
  | ok answer => cases he
  | error fault =>
      obtain rfl := Except.error.inj he
      split <;> rfl

/-- A search that goes on after a step is never rejected. -/
theorem neverRejected_proceed {request : SearchRequest}
    {finish : SearchResponse → Session → Except QueryError β × Session}
    (hfinish : ∀ response s, NotRejected (finish response s).1)
    {step : Progress Wait (Except QueryError SearchResponse) × Session}
    (hstep : ∀ outcome, step.1 = .finished outcome → NotRejected outcome) :
  NeverRejected (proceed request finish step).1
  := by
  obtain ⟨progress, s⟩ := step
  cases progress with
  | waiting wait => exact hfinish
  | finished outcome =>
      cases outcome with
      | error e =>
          intro e' he
          obtain rfl := Except.error.inj he
          exact hstep _ rfl e rfl
      | ok response => exact hfinish response s

/-- A search that is begun is never rejected when what is done with its answer is not. -/
theorem neverRejected_beginSearch {request : SearchRequest}
    {finish : SearchResponse → Session → Except QueryError β × Session}
    (hfinish : ∀ response s, NotRejected (finish response s).1) :
  NeverRejected (s.beginSearch token request finish).1
  := by
  rw [beginSearch]
  split
  · intro e he
    cases he
    rfl
  · apply neverRejected_proceed hfinish
    intro outcome houtcome
    rw [submit] at houtcome
    split at houtcome
    case h_1 outcome' s' _ =>
      obtain rfl := Progress.finished.inj houtcome
      apply notRejected_conclude
    case h_2 => cases houtcome

/-- A search that waits is not rejected when it is resumed. -/
theorem neverRejected_resumeSearch {pending : PendingSearch β} (elapsed : Bool)
    (h : NeverRejected (.waiting pending)) :
  NeverRejected (s.resumeSearch token pending elapsed).1
  := by
  apply neverRejected_proceed h
  intro outcome houtcome
  rw [await] at houtcome
  split at houtcome
  · obtain rfl := Progress.finished.inj houtcome
    intro e he
    cases he
    rfl
  · split at houtcome
    case h_1 outcome' s' _ =>
      obtain rfl := Progress.finished.inj houtcome
      apply notRejected_conclude
    case h_2 => cases houtcome

/-- A search that is never rejected settles with an outcome that is no rejection. -/
theorem Settles.notRejected {progress : SearchProgress β} {outcome : Except QueryError β}
    (h : Settles token (progress, s) outcome s') (hnever : NeverRejected progress) :
  NotRejected outcome
  := by
  generalize hbefore : (progress, s) = before at h
  induction h generalizing progress s with
  | finished outcome s₁ =>
      obtain ⟨rfl, rfl⟩ := Prod.mk.inj hbefore
      exact hnever
  | cancelled pending other s₁ s₂ outcome hrest ih =>
      obtain ⟨rfl, rfl⟩ := Prod.mk.inj hbefore
      exact ih hnever rfl
  | resumed pending elapsed s₁ s₂ outcome hrest ih =>
      obtain ⟨rfl, rfl⟩ := Prod.mk.inj hbefore
      exact ih (neverRejected_resumeSearch elapsed hnever) rfl

end Session

/-! ### Queries -/

namespace Provider

open Session

variable {α β : Type} {p : Provider α} {q : Query} {external : Option Filter} {s s' : Session}
  {token : String} {e : QueryError}

/-- A response that is refused is no rejection. -/
theorem notRejected_accept (response : SearchResponse) :
  NotRejected (p.accept response s).1
  := by
  intro e he
  cases response with
  | hits found => cases he
  | invalid diagnostic =>
      obtain rfl := Except.error.inj he
      rfl

/-- The answer to a query is not rejected. -/
theorem notRejected_materialize (plan : Plan) (response : SearchResponse) (s : Session) :
  NotRejected (p.materialize plan response s).1
  := by
  have haccept : NotRejected (p.accept response s).1 := notRejected_accept response
  intro e he
  rw [materialize] at he
  generalize p.accept response s = accepted at haccept he
  obtain ⟨e₁ | found, s₁⟩ := accepted
  · cases he
    exact haccept e rfl
  · simp only at he
    split at he
    · cases he
    · split at he
      · obtain rfl := Except.error.inj he
        rfl
      · cases he

/-- The answer to a request for aggregations is not rejected. -/
theorem notRejected_readAggregations (spec : Aggregation.Spec) (read : Option Json → Option β)
    (response : SearchResponse) (s : Session) :
  NotRejected (p.readAggregations spec read response s).1
  := by
  have haccept : NotRejected (p.accept response s).1 := notRejected_accept response
  intro e he
  rw [readAggregations] at he
  generalize p.accept response s = accepted at haccept he
  obtain ⟨e₁ | found, s₁⟩ := accepted
  · cases he
    exact haccept e rfl
  · simp only at he
    split at he
    · obtain rfl := Except.error.inj he
      rfl
    · cases he

/-- A query that is rejected in place was not sent. -/
theorem engine_execute_of_rejected (h : p.execute q external s = (.error e, s'))
    (he : e.isRejection = true) :
  s'.engine = s.engine
  := by
  have hengine : (p.compile q s).2.engine = s.engine := engine_compile
  rw [execute] at h
  generalize p.compile q s = compiled at hengine h
  obtain ⟨e₁ | plan, s₁⟩ := compiled
  · cases h
    exact hengine
  · simp only [send] at h
    generalize s₁.perform _ = performed at h
    obtain ⟨fault | response, s₂⟩ := performed
    · cases h
      cases he
    · have hnot := notRejected_materialize (p := p) plan response s₂ e (congrArg Prod.fst h)
      rw [hnot] at he
      cases he

/-- A query with a token that is rejected was not sent. -/
theorem engine_beginExecute_of_rejected
    (h : Settles token (p.beginExecute q external token s) (.error e) s')
    (he : e.isRejection = true) :
  s'.engine = s.engine
  := by
  have hengine : (p.compile q s).2.engine = s.engine := engine_compile
  rw [beginExecute] at h
  generalize p.compile q s = compiled at hengine h
  obtain ⟨e₁ | plan, s₁⟩ := compiled
  · cases h
    exact hengine
  · have hnot := h.notRejected (neverRejected_beginSearch (notRejected_materialize plan)) e rfl
    rw [hnot] at he
    cases he

/-- A request for aggregations that is rejected was not sent. -/
theorem engine_beginAggregate_of_rejected {spec : Aggregation.Spec}
    {read : Option Json → Option β}
    (h : Settles token (p.beginAggregate q external spec read token s) (.error e) s')
    (he : e.isRejection = true) :
  s'.engine = s.engine
  := by
  have hengine : (p.compile q s).2.engine = s.engine := engine_compile
  rw [beginAggregate] at h
  generalize p.compile q s = compiled at hengine h
  obtain ⟨e₁ | plan, s₁⟩ := compiled
  · cases h
    exact hengine
  · have hnot := h.notRejected
      (neverRejected_beginSearch (notRejected_readAggregations spec read)) e rfl
    rw [hnot] at he
    cases he

end Provider

/-! ### Operations -/

namespace Session

/-- The operations of a session that can fail: to execute a query in place or with a token, to run
aggregations, to show a request, to find the index of an entity, and to replay changes. -/
inductive Operation where
  | execute {α : Type} (q : Queryable α)
  | executeWithToken {α : Type} (q : Queryable α) (token : String)
  | aggregate {α β : Type} (q : Queryable α) (spec : Aggregation.Spec)
      (read : Option Json → Option β) (token : String)
  | text {α : Type} (q : Queryable α)
  | set {α : Type} (m : Mapping) (entity : Entity α)
  | save (m : Mapping) (token : String) (changes : List Change)

namespace Operation

/-- An operation fails with an error in a session, and leaves another one. -/
inductive Fails : Operation → Session → QueryError → Session → Prop
  | execute {α : Type} {q : Queryable α} {s s' : Session} {e : QueryError}
      (h : q.execute s = (.error e, s')) : Fails (.execute q) s e s'
  | executeWithToken {α : Type} {q : Queryable α} {token : String} {s s' : Session}
      {e : QueryError} (h : Settles token (q.beginExecute token s) (.error e) s') :
      Fails (.executeWithToken q token) s e s'
  | aggregate {α β : Type} {q : Queryable α} {spec : Aggregation.Spec}
      {read : Option Json → Option β} {token : String} {s s' : Session} {e : QueryError}
      (h : Settles token (q.beginAggregate spec read token s) (.error e) s') :
      Fails (.aggregate q spec read token) s e s'
  | text {α : Type} {q : Queryable α} {s s' : Session} {e : QueryError}
      (h : q.text s = (.error e, s')) : Fails (.text q) s e s'
  | set {α : Type} {m : Mapping} {entity : Entity α} {s : Session} {e : QueryError}
      (h : m.set entity = .error e) : Fails (.set m entity) s e s
  | save {m : Mapping} {token : String} {changes : List Change} {s s' : Session}
      {e : QueryError} (h : m.Reaches token changes s (.ended (.error e)) s') :
      Fails (.save m token changes) s e s'

/-- The operation is a replay of changes. -/
def isReplay : Operation → Bool
  | save _ _ _ => true
  | _ => false

/-- The writes that an operation has sent when it is rejected: those of the changes before the first
one whose kind has no index. -/
def sent : Operation → List WriteRequest
  | save m _ changes => ((changes.map m.request?).takeWhile Option.isSome).filterMap id
  | _ => []

variable {operation : Operation} {s s' : Session} {e : QueryError}

/-- An operation that is rejected has not changed the engine, unless it is a replay. -/
theorem Fails.engine_eq (h : operation.Fails s e s') (he : e.isRejection = true)
    (hreplay : operation.isReplay = false) :
  s'.engine = s.engine
  := by
  cases h with
  | execute h => exact Provider.engine_execute_of_rejected h he
  | executeWithToken h => exact Provider.engine_beginExecute_of_rejected h he
  | aggregate h => exact Provider.engine_beginAggregate_of_rejected h he
  | text h =>
      obtain rfl := congrArg Prod.snd h
      apply Provider.engine_compile
  | set h => rfl
  | save h => cases hreplay

/-- An operation that is not a replay sends no writes. -/
theorem sent_eq_nil (hreplay : operation.isReplay = false) :
  operation.sent = []
  := by
  cases operation with
  | save m token changes => cases hreplay
  | _ => rfl

end Operation

end Session

/-- The writes of changes before one whose kind has no index. -/
theorem Mapping.sent_append_unmapped {m : Mapping} {before after : List Change} {c : Change}
    {requests : List WriteRequest} {token : String}
    (hrequests : before.map m.request? = requests.map some) (hindex : m.indexFor c.entity = none) :
  (Session.Operation.save m token (before ++ c :: after)).sent = requests
  := by
  have hnone : m.request? c = none := by rw [request?, hindex, Option.map_none]
  rw [Session.Operation.sent, List.map_append, hrequests, List.map_cons, hnone]
  rw [List.takeWhile_append_of_pos]
  · rw [List.takeWhile_cons_of_neg (by simp), List.append_nil, List.filterMap_map]
    apply List.filterMap_some
  · simp

/-- A replay that is rejected has sent the changes before the first one whose kind has no index. -/
theorem Mapping.Reaches.engine_of_rejected {m : Mapping} {token : String} {changes : List Change}
    {s s' : Session} {memory : Memory} {e : QueryError} (hengine : s.engine = .memory memory)
    (h : m.Reaches token changes s (.ended (.error e)) s') (he : e.isRejection = true) :
  s'.engine = .memory (memory.writeAll (Session.Operation.save m token changes).sent).2
  := by
  obtain ⟨before, c, after, n, s₁, memory₁, rfl, hsent, hstops⟩ := h.stands hengine
  cases hstops with
  | cancelled hcancelled => cases he
  | faulted index fault hcancelled hindex hfault => cases he
  | unmapped hcancelled hindex =>
      obtain ⟨requests, responses, hrequests, hwrites, -⟩ := hsent.answered.answers
      rw [sent_append_unmapped hrequests hindex, hwrites]
      exact hsent.answered.engine

/-- An operation that fails with a rejection has not changed the engine, unless it is a replay of
changes.  On an engine in memory it has not searched, and has made the writes of the changes before
the first one whose kind has no index; there are none when it is not a replay. -/
theorem engine_after_rejection {operation : Session.Operation} {s s' : Session} {e : QueryError}
    (h : operation.Fails s e s') (he : e.isRejection = true) :
  (operation.isReplay = false → s'.engine = s.engine ∧ operation.sent = []) ∧
  ∀ memory, s.engine = .memory memory →
    let memory' := (memory.writeAll operation.sent).2
    s'.engine = .memory memory' ∧ memory'.searches = memory.searches ∧
      memory'.writes = memory.writes + operation.sent.length
  := by
  constructor
  · intro hreplay
    exact ⟨h.engine_eq he hreplay, Session.Operation.sent_eq_nil hreplay⟩
  · intro memory hengine memory'
    refine ⟨?_, memory.searches_writeAll operation.sent, memory.writes_writeAll operation.sent⟩
    cases hreplay : operation.isReplay with
    | false =>
        simp only [memory', Session.Operation.sent_eq_nil hreplay]
        exact (h.engine_eq he hreplay).trans hengine
    | true =>
        cases h with
        | save h => exact h.engine_of_rejected hengine he
        | _ => cases hreplay

/-- The third of three changes has no index, and the second one is refused: two writes are made. -/
theorem engine_after_rejection_of_unmapped :
  let m := (MappingBuilder.empty.registerAs "Doc" "docs").build
  let operation := Session.Operation.save m "token"
    [⟨.create, "Doc", "1", none⟩, ⟨.delete, "Doc", "9", none⟩, ⟨.create, "Note", "1", none⟩]
  let writes : List WriteRequest := [⟨"docs", "1", .index (.obj [])⟩, ⟨"docs", "9", .delete⟩]
  ∃ s', operation.Fails (.start (.memory .empty)) (.unmapped "Note") s' ∧
    (QueryError.unmapped "Note").isRejection = true ∧
    s'.engine = .memory (Memory.empty.writeAll writes).2
  := by
  intro m operation writes
  have h : operation.Fails (.start (.memory .empty)) (.unmapped "Note") _ :=
    Session.Operation.Fails.save (m.beginReplay_reached "token" _ (.start (.memory .empty)))
  obtain ⟨-, hmemory⟩ := engine_after_rejection h rfl
  obtain ⟨hengine, -, -⟩ := hmemory Memory.empty rfl
  exact ⟨_, h, rfl, hengine⟩

/-- A replay fails with a rejection, and yet it has made a write that stored a document. -/
theorem rejected_replay_writes :
  let m := (MappingBuilder.empty.registerAs "Doc" "docs").build
  let operation := Session.Operation.save m "token"
    [⟨.create, "Doc", "1", some (.str "kept")⟩, ⟨.create, "Note", "2", none⟩]
  ∃ e s' memory', operation.Fails (.start (.memory .empty)) e s' ∧ e.isRejection = true ∧
    s'.engine = .memory memory' ∧ memory'.writes = Memory.empty.writes + 1 ∧
    memory'.documents "docs" = [.str "kept"] ∧ Memory.empty.documents "docs" = []
  := by
  intro m operation
  have h : operation.Fails (.start (.memory .empty)) (.unmapped "Note") _ :=
    Session.Operation.Fails.save (m.beginReplay_reached "token" _ (.start (.memory .empty)))
  exact ⟨_, _, _, h, rfl, rfl, rfl, rfl, rfl⟩

end DocSearch
