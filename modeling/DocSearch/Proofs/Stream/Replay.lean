import DocSearch.Proofs.Stream.Run

/-!
# Streams replay queries

A stream yields the documents of its query, or the error that the query comes to, however it is
polled: `stream_replays`.  The query is begun at the first poll, and awaited during the later ones;
`Queryable.outcome?` is what it comes to.
-/

namespace DocSearch

variable {α : Type}

open Session

/-- The documents that a query has come to, or its error, if it has an outcome. -/
def Progress.documents? : SearchProgress (Output α) → Option (Except QueryError (List α))
  | .finished output => some (output.bind Output.documents?)
  | .waiting _ => none

/-- What a query comes to, asked for its documents, when it is begun at the first poll and awaited
during the events that follow. -/
def Queryable.outcome? (q : Queryable α) (token : String) (s : Session) :
    List StreamEvent → Option (Except QueryError (List α))
  | [] => none
  | .poll _ :: events =>
    (advanceAll token (q.beginExecute token s) (events.filterMap StreamEvent.turn?)).1.documents?
  | .close :: events => q.outcome? token s events
  | .cancel other :: events => q.outcome? token (s.cancel other) events

/-- An engine is as it was, or it has received the request of a query once. -/
def Queryable.SentAtMostOnce (q : Queryable α) (before after : Engine) : Prop :=
  after = before ∨
    ∃ plan, q.query.plan = .ok plan ∧ before.Receives (q.provider.request plan q.external) after

/-- The answers to polls are those for the outcome of the query: without an outcome there is nothing
yet, and with one there is nothing for some polls, and then its items one by one and the end. -/
def Poll.Follow (answers : List (Poll α)) (polls : Nat) :
    Option (Except QueryError (List α)) → Prop
  | none => answers = List.replicate polls .pending
  | some outcome => ∃ waits < polls, answers =
      List.replicate waits .pending ++ Poll.answers (ResultStream.items outcome) (polls - waits)

/-- A poll without an answer comes before those that follow. -/
theorem Poll.Follow.cons {answers : List (Poll α)} {polls : Nat}
    {outcome? : Option (Except QueryError (List α))} (h : Poll.Follow answers polls outcome?) :
  Poll.Follow (.pending :: answers) (polls + 1) outcome?
  := by
  cases outcome? with
  | none =>
      obtain rfl : answers = _ := h
      rfl
  | some outcome =>
      obtain ⟨waits, hwaits, rfl⟩ := h
      refine ⟨waits + 1, Nat.succ_lt_succ hwaits, ?_⟩
      rw [List.replicate_succ, List.cons_append, Nat.add_sub_add_right]

/-- The item that an answer brings. -/
def Poll.item? : Poll α → Option (Except QueryError α)
  | .item result => some result
  | _ => none

/-- The items that are yielded. -/
def Poll.items (answers : List (Poll α)) : List (Except QueryError α) :=
  answers.filterMap Poll.item?

namespace Poll

variable {answers answers' : List (Poll α)} {polls : Nat}

theorem items_append :
  items (answers ++ answers') = items answers ++ items answers'
  := List.filterMap_append

theorem items_replicate_pending :
  items (List.replicate polls .pending : List (Poll α)) = []
  := by
  simp [items, item?]

theorem items_replicate_finished :
  items (List.replicate polls .finished : List (Poll α)) = []
  := by
  simp [items, item?]

theorem items_answers (left : List (Except QueryError α)) :
  items (Poll.answers left polls) = left.take polls
  := by
  rw [Poll.answers, items_append, items_replicate_finished, List.append_nil, items,
    List.filterMap_map]
  exact List.filterMap_some

/-- The items that are yielded are the first ones of the outcome. -/
theorem Follow.isPrefix_items {outcome? : Option (Except QueryError (List α))}
    (h : Poll.Follow answers polls outcome?) :
  items answers <+: outcome?.elim [] ResultStream.items
  := by
  cases outcome? with
  | none =>
      obtain rfl : answers = _ := h
      rw [items_replicate_pending]
      exact List.nil_prefix
  | some outcome =>
      obtain ⟨waits, -, rfl⟩ := h
      rw [items_append, items_replicate_pending, items_answers]
      exact List.take_prefix _ _

/-- Once the end is answered, all items of the outcome have been yielded. -/
theorem Follow.items_eq {outcome? : Option (Except QueryError (List α))}
    (h : Poll.Follow answers polls outcome?) (hfinished : .finished ∈ answers) :
  ∃ outcome, outcome? = some outcome ∧ items answers = ResultStream.items outcome
  := by
  cases outcome? with
  | none =>
      obtain rfl : answers = _ := h
      cases List.eq_of_mem_replicate hfinished
  | some outcome =>
      obtain ⟨waits, -, rfl⟩ := h
      use outcome, rfl
      rw [items_append, items_replicate_pending, items_answers]
      apply List.take_of_length_le
      rcases List.mem_append.mp hfinished with hpending | hanswer
      · cases List.eq_of_mem_replicate hpending
      · exact Nat.le_of_lt (finished_mem_answers.mp hanswer)

end Poll

namespace ResultStream

variable {q : Queryable α} {token : String} {s : Session}

/-! ### Answers -/

/-- Unless the stream is closed, the answers to the poll that brings an outcome and to those after
it are the items of the outcome and the end. -/
theorem follow_finished {events : List StreamEvent} (hclose : .close ∉ events)
    (stream : ResultStream α) (output : Except QueryError (Output α)) (s : Session) :
  let received := stream.receive (.finished output, s)
  Poll.Follow (received.1 :: (received.2.1.run received.2.2 events).1)
    (StreamEvent.polls events + 1) (some (output.bind Output.documents?))
  := by
  obtain ⟨stream', hreceive, hstream'⟩ := receive_finished stream output s
  rw [hreceive]
  refine ⟨0, Nat.succ_pos _, ?_⟩
  rw [hstream'.run fun hmem => (hclose hmem).elim]
  exact (Poll.answers_succ _ _).symm

/-- Unless the stream is closed, the answers from a step of its query on follow the outcome of the
query. -/
theorem follow_receive {events : List StreamEvent} (hclose : .close ∉ events)
    (state : StreamState α) (search : SearchProgress (Output α) × Session) :
  let received := receive ⟨q, token, state⟩ search
  Poll.Follow (received.1 :: (received.2.1.run received.2.2 events).1)
    (StreamEvent.polls events + 1)
    (advanceAll token search (events.filterMap StreamEvent.turn?)).1.documents?
  := by
  induction events generalizing state search with
  | nil =>
      obtain ⟨output | pending, s⟩ := search
      · exact follow_finished hclose _ output s
      · rfl
  | cons event events ih =>
      obtain ⟨output | pending, s⟩ := search
      · obtain ⟨s', hfinished⟩ : ∃ s', advanceAll token (.finished output, s)
            ((event :: events).filterMap StreamEvent.turn?) = (.finished output, s') :=
          advanceAll_finished output _ s
        rw [hfinished]
        exact follow_finished hclose _ output s
      · rw [List.mem_cons, not_or] at hclose
        -- The query waits, so an event does to it what its turn does.
        cases event with
        | poll elapsed => exact (ih hclose.2 (.awaiting pending) _).cons
        | close => cases hclose.1 rfl
        | cancel other => exact ih hclose.2 state (.waiting pending, s.cancel other)

/-- Unless the stream is closed, its answers follow the outcome of its query. -/
theorem follow_run (q : Queryable α) (token : String) (s : Session) {events : List StreamEvent}
    (hclose : .close ∉ events) :
  Poll.Follow ((ofQueryable q token).run s events).1 (StreamEvent.polls events)
    (q.outcome? token s events)
  := by
  induction events generalizing s with
  | nil => rfl
  | cons event events ih =>
      rw [List.mem_cons, not_or] at hclose
      cases event with
      | poll elapsed => exact follow_receive hclose.2 .notStarted (q.beginExecute token s)
      | close => cases hclose.1 rfl
      | cancel other => exact ih (s.cancel other) hclose.2

/-- An outcome stays when more happens. -/
theorem outcome?_append {before after : List StreamEvent} {outcome : Except QueryError (List α)}
    (h : q.outcome? token s before = some outcome) :
  q.outcome? token s (before ++ after) = some outcome
  := by
  induction before generalizing s with
  | nil => cases h
  | cons event before ih =>
      cases event with
      | poll elapsed =>
          rw [Queryable.outcome?] at h
          rw [List.cons_append, Queryable.outcome?, List.filterMap_append, advanceAll_append]
          rcases hsearch : advanceAll token (q.beginExecute token s)
              (before.filterMap StreamEvent.turn?) with ⟨output | pending, s₁⟩
          · obtain ⟨s₂, hfinished⟩ : ∃ s₂, advanceAll token (.finished output, s₁)
                (after.filterMap StreamEvent.turn?) = (.finished output, s₂) :=
              advanceAll_finished output _ s₁
            rw [hsearch] at h
            rw [hfinished]
            exact h
          · rw [hsearch] at h
            cases h
      | close => exact ih h
      | cancel other => exact ih h

/-- Whatever happens to a stream, the items that it yields are the first ones of the outcome of its
query. -/
theorem isPrefix_items_run (q : Queryable α) (token : String) (s : Session)
    (events : List StreamEvent) :
  Poll.items ((ofQueryable q token).run s events).1 <+: (q.outcome? token s events).elim [] items
  := by
  by_cases hclose : .close ∈ events
  · -- What is answered before the first `close` follows the outcome, and after it is the end only.
    obtain ⟨before, after, rfl, hbefore⟩ := List.eq_append_cons_of_mem hclose
    have hprefix := (follow_run q token s hbefore).isPrefix_items
    rw [(run_close _ s before after).1, Poll.items_append, Poll.items_replicate_finished,
      List.append_nil]
    cases houtcome : q.outcome? token s before with
    | none =>
        rw [houtcome] at hprefix
        exact hprefix.trans List.nil_prefix
    | some outcome =>
        rw [outcome?_append houtcome]
        rw [houtcome] at hprefix
        exact hprefix
  · exact (follow_run q token s hclose).isPrefix_items

/-! ### Searches -/

/-- How far a stream is, while its query is sent at most once to the engine. -/
inductive Stage (q : Queryable α) (token : String) (start : Engine) :
    ResultStream α → Session → Prop
  | notStarted (s : Session) (hengine : s.engine = start) :
      Stage q token start ⟨q, token, .notStarted⟩ s
  | awaiting {plan : Plan} {pending : PendingSearch (Output α)} (s : Session)
      (hplan : q.query.plan = .ok plan)
      (h : Session.Stage token (q.provider.request plan q.external) (q.provider.materialize plan)
        start (.waiting pending, s)) :
      Stage q token start ⟨q, token, .awaiting pending⟩ s
  | ended {stream : ResultStream α} {left : List (Except QueryError α)} (s : Session)
      (hleft : stream.Remaining left) (h : q.SentAtMostOnce start s.engine) :
      Stage q token start stream s

variable {start : Engine} {stream : ResultStream α}

/-- In every stage the query has been sent at most once. -/
theorem Stage.sentAtMostOnce (h : Stage q token start stream s) :
  q.SentAtMostOnce start s.engine
  := by
  cases h with
  | notStarted _ hengine => exact Or.inl hengine
  | awaiting _ hplan h =>
      exact h.engine_eq_or_receives.imp_right fun hreceives => ⟨_, hplan, hreceives⟩
  | ended _ _ h => exact h

/-- A step of the query leads to one of the stages. -/
theorem stage_receive {plan : Plan} (hplan : q.query.plan = .ok plan) (state : StreamState α)
    {search : SearchProgress (Output α) × Session}
    (h : Session.Stage token (q.provider.request plan q.external) (q.provider.materialize plan)
      start search) :
  let received := receive ⟨q, token, state⟩ search
  Stage q token start received.2.1 received.2.2
  := by
  obtain ⟨output | pending, s⟩ := search
  · obtain ⟨stream', hreceive, hleft⟩ := receive_finished ⟨q, token, state⟩ output s
    rw [hreceive]
    apply Stage.ended s hleft
    exact h.engine_eq_or_receives.imp_right fun hreceives => ⟨plan, hplan, hreceives⟩
  · exact Stage.awaiting s hplan h

/-- The first poll, which begins the query, leads to one of the stages. -/
theorem stage_begin (q : Queryable α) (token : String) (s : Session) :
  let received := receive ⟨q, token, .notStarted⟩ (q.beginExecute token s)
  Stage q token s.engine received.2.1 received.2.2
  := by
  cases hplan : q.query.plan with
  | ok plan => exact stage_receive hplan .notStarted (Provider.stage_beginExecute hplan)
  | error reason =>
      have hbegin : q.beginExecute token s =
          (.finished (.error (.rejected reason)), (q.provider.compile q.query s).2) :=
        (Provider.rejects_of_plan hplan).beginExecute
      have hengine : (q.provider.compile q.query s).2.engine = s.engine :=
        Provider.engine_compile
      rw [hbegin]
      exact Stage.ended _ (Remaining.done q token) (Or.inl hengine)

/-- A poll leads from one of the stages to one of them. -/
theorem Stage.poll (h : Stage q token start stream s) (elapsed : Bool) :
  let polled := stream.poll elapsed s
  Stage q token start polled.2.1 polled.2.2
  := by
  cases h with
  | notStarted _ hengine =>
      rw [← hengine]
      exact stage_begin q token s
  | awaiting _ hplan h =>
      exact stage_receive hplan _ (h.resume (q.provider.engine_materialize _) elapsed)
  | ended _ hleft h =>
      obtain ⟨stream', hpoll, hstream'⟩ := hleft.poll elapsed s
      simp only [hpoll]
      exact Stage.ended s hstream' h

/-- The cancellation of a token leads from one of the stages to one of them. -/
theorem Stage.cancel (h : Stage q token start stream s) (other : String) :
  Stage q token start stream (s.cancel other)
  := by
  cases h with
  | notStarted _ hengine => exact Stage.notStarted _ hengine
  | awaiting _ hplan h => exact Stage.awaiting _ hplan (h.cancel other)
  | ended _ hleft h => exact Stage.ended _ hleft h

/-- A run leads from one of the stages to one of them. -/
theorem Stage.run (h : Stage q token start stream s) (events : List StreamEvent) :
  let after := stream.run s events
  Stage q token start after.2.1 after.2.2
  := by
  induction events generalizing stream s with
  | nil => exact h
  | cons event events ih =>
      cases event with
      | poll elapsed => exact ih (h.poll elapsed)
      | close => exact ih (Stage.ended s (Remaining.done _ _) h.sentAtMostOnce)
      | cancel other => exact ih (h.cancel other)

/-- Nothing is sent before the first poll. -/
theorem engine_run_of_polls {events : List StreamEvent} (hpolls : StreamEvent.polls events = 0)
    (stream : ResultStream α) (s : Session) :
  (stream.run s events).2.2.engine = s.engine
  := by
  induction events generalizing stream s with
  | nil => rfl
  | cons event events ih =>
      cases event with
      | poll elapsed => cases hpolls
      | close => exact ih hpolls stream.close s
      | cancel other => exact ih hpolls stream (s.cancel other)

end ResultStream

/-- A stream replays its query, whatever happens to it.  Nothing is sent before the first poll, and
the query is sent once at most.  The items that are yielded are the first ones of the outcome of the
query.  Unless the stream is closed, there is no answer until the query has an outcome, and then the
answers are the documents one by one, or the error, and the end from then on; so when the end is
answered, the whole outcome has been yielded.  Once the stream is closed, all polls are answered
with the end, and nothing is sent any more. -/
theorem stream_replays {α : Type} (q : Queryable α) (token : String) (s : Session)
    (events : List StreamEvent) :
  let stream := ResultStream.ofQueryable q token
  let run := stream.run s events
  let outcome? := q.outcome? token s events
  (StreamEvent.polls events = 0 → run.2.2.engine = s.engine) ∧
  q.SentAtMostOnce s.engine run.2.2.engine ∧
  Poll.items run.1 <+: outcome?.elim [] ResultStream.items ∧
  (.close ∉ events → Poll.Follow run.1 (StreamEvent.polls events) outcome? ∧
    (.finished ∈ run.1 →
      ∃ outcome, outcome? = some outcome ∧ Poll.items run.1 = ResultStream.items outcome)) ∧
  ∀ before after, events = before ++ .close :: after →
    run.1 = (stream.run s before).1 ++ List.replicate (StreamEvent.polls after) .finished ∧
    run.2.2.engine = (stream.run s before).2.2.engine
  := by
  intro stream run outcome?
  refine ⟨?_, ?_, ?_, ?_, ?_⟩
  · intro hpolls
    exact ResultStream.engine_run_of_polls hpolls stream s
  · have hstage : ResultStream.Stage q token s.engine stream s :=
      ResultStream.Stage.notStarted s rfl
    exact (hstage.run events).sentAtMostOnce
  · exact ResultStream.isPrefix_items_run q token s events
  · intro hclose
    have hfollow := ResultStream.follow_run q token s hclose
    exact ⟨hfollow, hfollow.items_eq⟩
  · rintro before after rfl
    exact ResultStream.run_close stream s before after

/-- Two documents of a slow engine are yielded after two polls without an answer; then the stream
ends, although its token is cancelled.  Another stream of the query is closed after one document. -/
theorem stream_replays_of_slow :
  let index : Index := ⟨[
    ("a", .obj [("title", .str "First")]),
    ("b", .obj [("title", .str "Second")])]⟩
  let m : Memory := { Memory.empty.setIndex "library" index with slow := true }
  let s : Session := .start (.memory m)
  let q : Queryable Json := .ofProvider ⟨"library", some⟩
  let stream := ResultStream.ofQueryable q "token"
  let unpolled : List StreamEvent := [.cancel "other"]
  let waiting : List StreamEvent := unpolled ++ [.poll true, .poll false, .poll true]
  let others : List StreamEvent := [.poll false, .cancel "token", .poll false]
  (stream.run s unpolled).2.2.engine = s.engine ∧
  q.SentAtMostOnce s.engine (stream.run s (waiting ++ others)).2.2.engine ∧
  Poll.items (stream.run s (waiting ++ others)).1 = index.documents.map .ok ∧
  (stream.run s (waiting ++ .close :: others)).1 =
    [.pending, .pending, .item (.ok (.obj [("title", .str "First")])), .finished, .finished]
  := by
  intro index m s q stream unpolled waiting others
  have hopen : .close ∉ waiting ++ others := by
    simp [waiting, unpolled, others]
  have hlast : (stream.run s (waiting ++ others)).1.getLast? = some .finished := rfl
  obtain ⟨hunsent, -⟩ := stream_replays q "token" s unpolled
  obtain ⟨-, honce, -, hreplay, -⟩ := stream_replays q "token" s (waiting ++ others)
  obtain ⟨-, -, -, -, hclosed⟩ := stream_replays q "token" s (waiting ++ .close :: others)
  obtain ⟨outcome, houtcome, hitems⟩ := (hreplay hopen).2 (List.mem_of_getLast? hlast)
  refine ⟨hunsent rfl, honce, ?_, ?_⟩
  · have hdocuments : q.outcome? "token" s (waiting ++ others) = some (.ok index.documents) := rfl
    obtain rfl := Option.some.inj (hdocuments.symm.trans houtcome)
    exact hitems
  · exact (hclosed waiting others rfl).1

end DocSearch
