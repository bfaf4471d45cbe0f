import DocSearch.Proofs.Provider.Sending
import DocSearch.ResultStream

/-!
# Polling a stream

`ResultStream.run` polls a stream again and again, while it may be closed and tokens may be
cancelled.  A stream that has items left answers with them one by one, and then with the end:
`ResultStream.Remaining.run`.  A stream that is closed answers with the end only:
`ResultStream.run_close`.
-/

namespace DocSearch

variable {α : Type}

/-! ### Runs -/

/-- What can happen to a stream: it is polled, it is closed, or a token is cancelled. -/
inductive StreamEvent where
  | poll (elapsed : Bool)
  | close
  | cancel (token : String)

namespace StreamEvent

/-- The event is a poll. -/
def isPoll : StreamEvent → Bool
  | poll _ => true
  | _ => false

/-- The turn that an event is for a search that is awaited. -/
def turn? : StreamEvent → Option Session.Turn
  | poll elapsed => some (.resumed elapsed)
  | close => none
  | cancel token => some (.cancelled token)

/-- The number of polls among events. -/
def polls (events : List StreamEvent) : Nat := (events.filter isPoll).length

theorem polls_cons_poll (elapsed : Bool) (events : List StreamEvent) :
  polls (poll elapsed :: events) = polls events + 1
  := rfl

theorem polls_replicate (n : Nat) (elapsed : Bool) :
  polls (List.replicate n (poll elapsed)) = n
  := by
  rw [polls, List.filter_replicate_of_pos rfl, List.length_replicate]

end StreamEvent

namespace ResultStream

/-- The answers of a stream to its polls while events happen, and the stream and the session
afterwards. -/
def run (stream : ResultStream α) (s : Session) :
    List StreamEvent → List (Poll α) × ResultStream α × Session
  | [] => ([], stream, s)
  | .poll elapsed :: events =>
    let (answer, stream, s) := stream.poll elapsed s
    let (answers, stream, s) := run stream s events
    (answer :: answers, stream, s)
  | .close :: events => run stream.close s events
  | .cancel token :: events => run stream (s.cancel token) events

/-- A run over events and further ones is a run over the events, and from there over the others. -/
theorem run_append (stream : ResultStream α) (s : Session) (events events' : List StreamEvent) :
  stream.run s (events ++ events') =
    let before := stream.run s events
    let after := before.2.1.run before.2.2 events'
    (before.1 ++ after.1, after.2)
  := by
  induction events generalizing stream s with
  | nil => rfl
  | cons event events ih =>
      cases event with
      | poll elapsed => simp only [List.cons_append, run, ih]
      | close => apply ih
      | cancel token => apply ih

end ResultStream

/-! ### Items that are left -/

namespace Poll

/-- The answer to a poll when items are left: the first one, or the end. -/
def next : List (Except QueryError α) → Poll α
  | [] => .finished
  | first :: _ => .item first

/-- The answers to polls when items are left: the items one by one, then the end. -/
def answers (items : List (Except QueryError α)) (polls : Nat) : List (Poll α) :=
  (items.take polls).map .item ++ List.replicate (polls - items.length) .finished

theorem answers_zero (items : List (Except QueryError α)) :
  answers items 0 = []
  := by
  simp [answers]

theorem answers_succ (items : List (Except QueryError α)) (polls : Nat) :
  answers items (polls + 1) = next items :: answers items.tail polls
  := by
  cases items with
  | nil => simp [answers, next, List.replicate_succ]
  | cons first rest => simp [answers, next]

theorem answers_nil (polls : Nat) :
  answers [] polls = (List.replicate polls .finished : List (Poll α))
  := by
  simp [answers]

/-- The end is answered when there are more polls than items. -/
theorem finished_mem_answers {items : List (Except QueryError α)} {polls : Nat} :
  .finished ∈ answers items polls ↔ items.length < polls
  := by
  simp only [answers, List.mem_append, List.mem_map, reduceCtorEq, and_false, exists_false,
    false_or, List.mem_replicate, and_true]
  omega

end Poll

namespace ResultStream

/-- The items that a stream yields for the outcome of its query: the documents one by one, or the
error. -/
def items : Except QueryError (List α) → List (Except QueryError α)
  | .ok documents => documents.map .ok
  | .error e => [.error e]

/-- A stream has items left, and nothing more is sent for it. -/
inductive Remaining : ResultStream α → List (Except QueryError α) → Prop
  | iterating (source : Queryable α) (token : String) (documents : List α) :
      Remaining ⟨source, token, .iterating documents⟩ (documents.map .ok)
  | done (source : Queryable α) (token : String) : Remaining ⟨source, token, .done⟩ []

variable {stream : ResultStream α} {left : List (Except QueryError α)} {s : Session}

/-- A poll takes the first of the items that are left. -/
theorem Remaining.poll (h : stream.Remaining left) (elapsed : Bool) (s : Session) :
  ∃ stream', stream.poll elapsed s = (Poll.next left, stream', s) ∧ stream'.Remaining left.tail
  := by
  cases h with
  | iterating source token documents =>
      cases documents with
      | nil => exact ⟨_, rfl, Remaining.done source token⟩
      | cons document documents => exact ⟨_, rfl, Remaining.iterating source token documents⟩
  | done source token => exact ⟨_, rfl, Remaining.done source token⟩

/-- An outcome is answered with the first of its items, and the others are left. -/
theorem receive_finished (stream : ResultStream α) (output : Except QueryError (Output α))
    (s : Session) :
  ∃ stream', stream.receive (.finished output, s) =
      (Poll.next (items (output.bind Output.documents?)), stream', s) ∧
    stream'.Remaining (items (output.bind Output.documents?)).tail
  := by
  rw [receive]
  cases output.bind Output.documents? with
  | error e => exact ⟨_, rfl, Remaining.done _ _⟩
  | ok documents =>
      cases documents with
      | nil => exact ⟨_, rfl, Remaining.done _ _⟩
      | cons document documents => exact ⟨_, rfl, Remaining.iterating _ _ documents⟩

/-- The items that are left are yielded one by one, unless the stream is closed before; nothing is
sent. -/
theorem Remaining.run (h : stream.Remaining left) {events : List StreamEvent}
    (hclose : .close ∈ events → left = []) (s : Session) :
  (stream.run s events).1 = Poll.answers left (StreamEvent.polls events)
  := by
  induction events generalizing stream left s with
  | nil => exact (Poll.answers_zero left).symm
  | cons event events ih =>
      cases event with
      | poll elapsed =>
          obtain ⟨stream', hpoll, hstream'⟩ := h.poll elapsed s
          rw [ResultStream.run, hpoll, StreamEvent.polls_cons_poll, Poll.answers_succ,
            ← ih hstream']
          intro hmem
          rw [hclose (List.mem_cons_of_mem _ hmem)]
          rfl
      | close =>
          obtain rfl := hclose List.mem_cons_self
          exact ih (Remaining.done _ _) (fun _ => rfl) s
      | cancel token => exact ih h (fun hmem => hclose (List.mem_cons_of_mem _ hmem)) _

/-- Once the query has an outcome, nothing happens any more but that tokens are cancelled. -/
theorem Remaining.session_run (h : stream.Remaining left) (events : List StreamEvent)
    (s : Session) :
  ∃ tokens, (stream.run s events).2.2 = s.withCancelled tokens
  := by
  induction events generalizing stream left s with
  | nil => exact ⟨s.cancelled, rfl⟩
  | cons event events ih =>
      cases event with
      | poll elapsed =>
          obtain ⟨stream', hpoll, hstream'⟩ := h.poll elapsed s
          simp only [ResultStream.run, hpoll]
          exact ih hstream' s
      | close => exact ih (Remaining.done _ _) s
      | cancel token => exact ih h (s.cancel token)

/-- Once the query has an outcome, nothing is sent any more. -/
theorem Remaining.engine_run (h : stream.Remaining left) (events : List StreamEvent) (s : Session) :
  (stream.run s events).2.2.engine = s.engine
  := by
  obtain ⟨tokens, hrun⟩ := h.session_run events s
  rw [hrun]
  rfl

/-- A stream that is closed answers with the end to all later polls, and nothing is sent any
more. -/
theorem run_close (stream : ResultStream α) (s : Session) (before after : List StreamEvent) :
  (stream.run s (before ++ .close :: after)).1 =
      (stream.run s before).1 ++ List.replicate (StreamEvent.polls after) .finished ∧
    (stream.run s (before ++ .close :: after)).2.2.engine = (stream.run s before).2.2.engine
  := by
  have hdone : (stream.run s before).2.1.close.Remaining [] := Remaining.done _ _
  rw [run_append]
  simp only [run]
  rw [hdone.run (fun _ => rfl), hdone.engine_run, Poll.answers_nil]
  exact ⟨rfl, rfl⟩

end ResultStream

end DocSearch
