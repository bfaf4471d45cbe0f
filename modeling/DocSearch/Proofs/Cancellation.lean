import DocSearch.Proofs.Stream.Run
import DocSearch.Replay

/-!
# Tokens that are cancelled beforehand

When a token is cancelled already, nothing that is begun with it gets as far as the engine: a query
is rejected or cancelled, a replay of changes is cancelled, and a stream yields the error and ends.
`Session.Untouched` says what stays as it was, and `cancelled_beforehand` that it does.
-/

namespace DocSearch

/-- The error of a query whose token is cancelled beforehand: it is rejected if it has no plan. -/
def Query.errorIfCancelled (q : Query) : QueryError :=
  match q.plan with
  | .ok _ => .cancelled
  | .error reason => .rejected reason

namespace Session

variable {β : Type} {s s' s'' : Session} {token : String}

/-- The engine is as it was, and so are all counters but that of queries rejected before they are
sent. -/
structure Untouched (before after : Session) : Prop where
  engine : after.engine = before.engine
  counters : after.counters = { before.counters with rejected := after.counters.rejected }

theorem Untouched.refl (s : Session) :
  s.Untouched s
  := ⟨rfl, rfl⟩

theorem Untouched.trans (h : s.Untouched s') (h' : s'.Untouched s'') :
  s.Untouched s''
  := by
  use h'.engine.trans h.engine
  rw [h'.counters, h.counters]

/-- Nothing is touched when tokens are cancelled. -/
theorem untouched_withCancelled (s : Session) (tokens : List String) :
  s.Untouched (s.withCancelled tokens)
  := ⟨rfl, rfl⟩

/-- A search whose token is cancelled is not begun. -/
theorem beginSearch_of_cancelled (h : s.isCancelled token = true) (request : SearchRequest)
    (finish : SearchResponse → Session → Except QueryError β × Session) :
  s.beginSearch token request finish = (.finished (.error .cancelled), s)
  := if_pos h

end Session

namespace Provider

variable {α β : Type} {p : Provider α} {q : Query} {external : Option Filter} {s : Session}
  {token : String}

/-- To compile a query touches nothing but the counter of rejected queries. -/
theorem untouched_compile (p : Provider α) (q : Query) (s : Session) :
  s.Untouched (p.compile q s).2
  := by
  rw [compile]
  cases q.plan with
  | ok plan => exact ⟨rfl, rfl⟩
  | error reason => exact ⟨rfl, rfl⟩

/-- A query whose token is cancelled is compiled, and no more. -/
theorem beginExecute_of_cancelled (h : s.isCancelled token = true) :
  p.beginExecute q external token s =
    (.finished (.error q.errorIfCancelled), (p.compile q s).2)
  := by
  have hcompiled : (p.compile q s).2.isCancelled token = true := isCancelled_compile.trans h
  rw [Query.errorIfCancelled]
  cases hplan : q.plan with
  | error reason => exact (rejects_of_plan hplan).beginExecute
  | ok plan =>
      rw [beginExecute_of_plan hplan]
      exact Session.beginSearch_of_cancelled hcompiled _ _

/-- A request for aggregations whose token is cancelled is compiled, and no more. -/
theorem beginAggregate_of_cancelled (h : s.isCancelled token = true) (spec : Aggregation.Spec)
    (read : Option Json → Option β) :
  p.beginAggregate q external spec read token s =
    (.finished (.error q.errorIfCancelled), (p.compile q s).2)
  := by
  have hcompiled : (p.compile q s).2.isCancelled token = true := isCancelled_compile.trans h
  rw [Query.errorIfCancelled]
  cases hplan : q.plan with
  | error reason => exact (rejects_of_plan hplan).beginAggregate spec read
  | ok plan =>
      rw [beginAggregate, compile_of_plan hplan]
      rw [compile_of_plan hplan] at hcompiled
      exact Session.beginSearch_of_cancelled hcompiled _ _

end Provider

namespace Mapping

variable {m : Mapping} {s : Session} {token : String}

/-- A replay whose token is cancelled has nothing to do, or is cancelled before its first change,
whatever the kind of that is. -/
theorem beginReplay_of_cancelled (m : Mapping) (changes : List Change)
    (h : s.isCancelled token = true) :
  ∃ s', m.beginReplay token changes s =
      (.finished (if changes.isEmpty then .ok 0 else .error .cancelled), s') ∧ s.Untouched s'
  := by
  rw [beginReplay]
  cases changes with
  | nil => exact ⟨_, rfl, ⟨rfl, rfl⟩⟩
  | cons c rest =>
      use s
      rw [replayFrom, if_pos h]
      exact ⟨rfl, Session.Untouched.refl s⟩

end Mapping

namespace ResultStream

variable {α : Type} {q : Queryable α} {stream : ResultStream α} {s : Session} {token : String}
  {left : List (Except QueryError α)}

/-- The first poll of a stream whose token is cancelled brings the error, and nothing is left. -/
theorem poll_of_cancelled (q : Queryable α) (h : s.isCancelled token = true) (elapsed : Bool) :
  (ofQueryable q token).poll elapsed s =
    (.item (.error q.query.errorIfCancelled), (ofQueryable q token).close,
      (q.provider.compile q.query s).2)
  := by
  have hbegin : q.beginExecute token s =
      (.finished (.error q.query.errorIfCancelled), (q.provider.compile q.query s).2) :=
    Provider.beginExecute_of_cancelled h
  simp only [poll, ofQueryable, hbegin]
  rfl

/-- A stream whose token is cancelled before the first poll touches nothing. -/
theorem untouched_run_of_cancelled (q : Queryable α) (h : s.isCancelled token = true)
    (events : List StreamEvent) :
  s.Untouched ((ofQueryable q token).run s events).2.2
  := by
  induction events generalizing s with
  | nil => exact Session.Untouched.refl s
  | cons event events ih =>
      cases event with
      | poll elapsed =>
          simp only [run, poll_of_cancelled q h]
          obtain ⟨tokens, hrest⟩ := (Remaining.done q token).session_run events
            (q.provider.compile q.query s).2
          have hcompile := q.provider.untouched_compile q.query s
          exact hrest ▸ hcompile.trans (Session.untouched_withCancelled _ tokens)
      | close =>
          obtain ⟨tokens, hrest⟩ := (Remaining.done q token).session_run events s
          exact hrest ▸ s.untouched_withCancelled tokens
      | cancel other =>
          have hcancel : s.Untouched (s.cancel other) := s.untouched_withCancelled _
          exact hcancel.trans (ih (Session.isCancelled_cancel h other))

/-- Unless it is closed, a stream whose token is cancelled before the first poll answers with the
error, and then with the end. -/
theorem run_of_cancelled (q : Queryable α) (h : s.isCancelled token = true)
    {events : List StreamEvent} (hclose : .close ∉ events) :
  ((ofQueryable q token).run s events).1 =
    Poll.answers [.error q.query.errorIfCancelled] (StreamEvent.polls events)
  := by
  induction events generalizing s with
  | nil => exact (Poll.answers_zero _).symm
  | cons event events ih =>
      rw [List.mem_cons, not_or] at hclose
      cases event with
      | poll elapsed =>
          have hrest := (Remaining.done q token).run (fun hmem => (hclose.2 hmem).elim)
            (q.provider.compile q.query s).2
          simp only [run, poll_of_cancelled q h]
          rw [StreamEvent.polls_cons_poll, Poll.answers_succ, List.tail_cons, ← hrest]
          rfl
      | close => cases hclose.1 rfl
      | cancel other => exact ih (Session.isCancelled_cancel h other) hclose.2

end ResultStream

/-- When a token is cancelled beforehand, nothing that is begun with it touches the engine or any
counter but that of rejected queries.  A query and a request for aggregations fail at once, with a
rejection if the query has no plan, and as cancelled otherwise.  A stream of the query yields this
error only, and then it ends.  A replay of changes is cancelled unless there is no change. -/
theorem cancelled_beforehand {token : String} {s : Session}
    (hcancelled : s.isCancelled token = true) :
  (∀ (α : Type) (q : Queryable α),
    (∃ s', s.Untouched s' ∧
      q.beginExecute token s = (.finished (.error q.query.errorIfCancelled), s') ∧
      ∀ (β : Type) (spec : Aggregation.Spec) (read : Option Json → Option β),
        q.beginAggregate spec read token s =
          (.finished (.error q.query.errorIfCancelled), s')) ∧
    ∀ events,
      let run := (ResultStream.ofQueryable q token).run s events
      s.Untouched run.2.2 ∧ (.close ∉ events →
        run.1 = Poll.answers [.error q.query.errorIfCancelled] (StreamEvent.polls events))) ∧
  ∀ (m : Mapping) (changes : List Change),
    ∃ s', s.Untouched s' ∧ m.beginReplay token changes s =
      (.finished (if changes.isEmpty then .ok 0 else .error .cancelled), s')
  := by
  constructor
  · intro α q
    constructor
    · use (q.provider.compile q.query s).2, q.provider.untouched_compile q.query s,
        Provider.beginExecute_of_cancelled hcancelled
      intro β spec read
      exact Provider.beginAggregate_of_cancelled hcancelled spec read
    · intro events run
      use ResultStream.untouched_run_of_cancelled q hcancelled events
      intro hclose
      exact ResultStream.run_of_cancelled q hcancelled hclose
  · intro m changes
    obtain ⟨s', hreplay, huntouched⟩ := m.beginReplay_of_cancelled changes hcancelled
    exact ⟨s', huntouched, hreplay⟩

/-- A fault is pending, and the token is cancelled: a query is cancelled and one with a group is
rejected, the stream of the one yields its error, and a change of a kind without an index is
cancelled.  The fault is still pending. -/
theorem cancelled_beforehand_of_fault :
  let m : Memory := Memory.empty.failNext (.timeout 5)
  let s : Session := (Session.start (.memory m)).cancel "token"
  let all : Queryable Json := .ofProvider ⟨"library", some⟩
  let grouped : Queryable Json := all.groupBy ⟨"kind"⟩
  let changes : List Change := [⟨.create, "Note", "1", none⟩]
  let run := (ResultStream.ofQueryable all "token").run s [.poll true, .cancel "other", .poll true]
  s.isCancelled "token" = true ∧
  (all.beginExecute "token" s).1 = .finished (.error .cancelled) ∧
  (grouped.beginExecute "token" s).1 = .finished (.error (.rejected (.grouping ⟨"kind"⟩))) ∧
  run.1 = [.item (.error .cancelled), .finished] ∧ run.2.2.engine = .memory m ∧
  ∃ s', MappingBuilder.empty.build.beginReplay "token" changes s =
      (.finished (.error .cancelled), s') ∧ s'.engine = .memory m
  := by
  intro m s all grouped changes run
  have hcancelled : s.isCancelled "token" = true := by decide
  obtain ⟨hqueries, hreplays⟩ := cancelled_beforehand hcancelled
  obtain ⟨⟨s₁, -, hall, -⟩, hstream⟩ := hqueries Json all
  obtain ⟨⟨s₂, -, hgrouped, -⟩, -⟩ := hqueries Json grouped
  obtain ⟨huntouched, hanswers⟩ := hstream [.poll true, .cancel "other", .poll true]
  obtain ⟨s₃, huntouched', hreplay⟩ := hreplays MappingBuilder.empty.build changes
  refine ⟨hcancelled, congrArg Prod.fst hall, congrArg Prod.fst hgrouped, hanswers (by simp),
    huntouched.engine, s₃, hreplay, huntouched'.engine⟩

end DocSearch
