import DocSearch.Proofs.Stream.Replay

/-!
# What can be seen of a stream

`ResultStream.isStarted`, `isDone` and `sizeHint` are read off the state of a stream.  They say what
has happened to the stream and what is still to come: it is started when it has been polled or
closed, nothing but the end is answered once it is done, and `sizeHint` brackets the number of items
that polls up to the end bring: `observers_tell`.
-/

namespace DocSearch

variable {α : Type}

namespace ResultStream

variable {stream : ResultStream α} {left : List (Except QueryError α)} {s : Session}

/-! ### Started streams -/

theorem isStarted_yield (stream : ResultStream α) (items : List α) :
  (stream.yield items).2.isStarted = true
  := by
  cases items <;> rfl

theorem isStarted_receive (stream : ResultStream α) (search : SearchProgress (Output α) × Session) :
  (stream.receive search).2.1.isStarted = true
  := by
  obtain ⟨output | pending, s⟩ := search
  · rw [receive]
    cases output.bind Output.documents? with
    | error e => rfl
    | ok items => exact stream.isStarted_yield items
  · rfl

/-- A step of the query leaves the session as the query does. -/
theorem session_receive (stream : ResultStream α)
    (search : SearchProgress (Output α) × Session) :
  (stream.receive search).2.2 = search.2
  := by
  obtain ⟨output | pending, s⟩ := search
  · rw [receive]
    cases output.bind Output.documents? <;> rfl
  · rfl

/-- A poll starts a stream. -/
theorem isStarted_poll (stream : ResultStream α) (elapsed : Bool) (s : Session) :
  (stream.poll elapsed s).2.1.isStarted = true
  := by
  obtain ⟨source, token, state⟩ := stream
  cases state with
  | notStarted => apply isStarted_receive
  | awaiting pending => apply isStarted_receive
  | iterating items => apply isStarted_yield
  | done => rfl

/-- A stream is started after events when it was started before or they poll or close it. -/
theorem isStarted_run (stream : ResultStream α) (s : Session) (events : List StreamEvent) :
  (stream.run s events).2.1.isStarted = true ↔
    stream.isStarted = true ∨ 0 < StreamEvent.polls events ∨ .close ∈ events
  := by
  induction events generalizing stream s with
  | nil => simp [run, StreamEvent.polls]
  | cons event events ih =>
      cases event with
      | poll elapsed => simp [run, ih, isStarted_poll, StreamEvent.polls_cons_poll]
      | close =>
          have hclosed : stream.close.isStarted = true := rfl
          simp [run, ih, hclosed]
      | cancel token => simp [run, ih, StreamEvent.polls, StreamEvent.isPoll]

/-- A stream that is neither polled nor closed stays as it is. -/
theorem run_of_untouched {events : List StreamEvent} (hpolls : StreamEvent.polls events = 0)
    (hclose : .close ∉ events) (stream : ResultStream α) (s : Session) :
  (stream.run s events).2.1 = stream
  := by
  induction events generalizing s with
  | nil => rfl
  | cons event events ih =>
      rw [List.mem_cons, not_or] at hclose
      cases event with
      | poll elapsed => cases hpolls
      | close => cases hclose.1 rfl
      | cancel token => exact ih hpolls hclose.2 (s.cancel token)

/-! ### Streams that are done -/

/-- A stream that is done has no items left. -/
theorem remaining_of_isDone (h : stream.isDone = true) :
  stream.Remaining []
  := by
  obtain ⟨source, token, state⟩ := stream
  cases state with
  | done => exact Remaining.done source token
  | _ => cases h

/-- A stream that is done stays done. -/
theorem isDone_run (h : stream.isDone = true) (s : Session) (events : List StreamEvent) :
  (stream.run s events).2.1.isDone = true
  := by
  induction events generalizing stream s with
  | nil => exact h
  | cons event events ih =>
      cases event with
      | poll elapsed =>
          have hpoll : stream.poll elapsed s = (.finished, stream, s) := by
            obtain ⟨source, token, state⟩ := stream
            cases state with
            | done => rfl
            | _ => cases h
          simp only [run, hpoll]
          exact ih h s
      | close => exact ih rfl s
      | cancel token => exact ih h (s.cancel token)

theorem isDone_of_yield {items : List α} (h : (stream.yield items).1 = .finished) :
  (stream.yield items).2.isDone = true
  := by
  cases items with
  | nil => rfl
  | cons item rest => cases h

theorem isDone_of_receive {search : SearchProgress (Output α) × Session}
    (h : (stream.receive search).1 = .finished) :
  (stream.receive search).2.1.isDone = true
  := by
  obtain ⟨output | pending, s⟩ := search
  · rw [receive] at h ⊢
    cases houtcome : output.bind Output.documents? with
    | error e => rfl
    | ok items =>
        rw [houtcome] at h
        exact isDone_of_yield h
  · cases h

/-- A stream that answers with the end is done. -/
theorem isDone_of_poll {elapsed : Bool} (h : (stream.poll elapsed s).1 = .finished) :
  (stream.poll elapsed s).2.1.isDone = true
  := by
  obtain ⟨source, token, state⟩ := stream
  cases state with
  | notStarted => exact isDone_of_receive h
  | awaiting pending => exact isDone_of_receive h
  | iterating items => exact isDone_of_yield h
  | done => rfl

/-- A stream that has been closed, or has answered with the end, is done. -/
theorem isDone_run_of_ended {events : List StreamEvent}
    (h : .close ∈ events ∨ .finished ∈ (stream.run s events).1) :
  (stream.run s events).2.1.isDone = true
  := by
  induction events generalizing stream s with
  | nil => simp [run] at h
  | cons event events ih =>
      cases event with
      | poll elapsed =>
          simp only [run, List.mem_cons, reduceCtorEq, false_or] at h ⊢
          rcases h with hclose | hanswer | hfinished
          · exact ih (Or.inl hclose)
          · exact isDone_run (isDone_of_poll hanswer.symm) _ events
          · exact ih (Or.inr hfinished)
      | close => exact isDone_run rfl s events
      | cancel token =>
          simp only [List.mem_cons, reduceCtorEq, false_or] at h
          exact ih h

/-! ### Items to come -/

/-- A stream may bring `n` items when it is polled until it answers with the end. -/
def MayBring (stream : ResultStream α) (s : Session) (n : Nat) : Prop :=
  ∃ events, .close ∉ events ∧ .finished ∈ (stream.run s events).1 ∧
    (Poll.items (stream.run s events).1).length = n

/-- A stream brings all items that are left. -/
theorem Remaining.mayBring_iff (h : stream.Remaining left) {n : Nat} :
  stream.MayBring s n ↔ n = left.length
  := by
  constructor
  · rintro ⟨events, hclose, hfinished, rfl⟩
    rw [h.run (fun hmem => (hclose hmem).elim)] at hfinished ⊢
    rw [Poll.items_answers, List.take_of_length_le]
    exact Nat.le_of_lt (Poll.finished_mem_answers.mp hfinished)
  · rintro rfl
    have hclose : .close ∉ List.replicate (left.length + 1) (StreamEvent.poll true) := by simp
    refine ⟨_, hclose, ?_⟩
    rw [h.run (fun hmem => (hclose hmem).elim), StreamEvent.polls_replicate]
    constructor
    · exact Poll.finished_mem_answers.mpr (Nat.lt_succ_self _)
    · rw [Poll.items_answers, List.take_of_length_le (Nat.le_succ _)]

/-- The size that a stream gives brackets the number of items that it may bring. -/
theorem sizeHint_brackets {n : Nat} (h : stream.MayBring s n) :
  stream.sizeHint.1 ≤ n ∧ ∀ most ∈ stream.sizeHint.2, n ≤ most
  := by
  obtain ⟨source, token, state⟩ := stream
  cases state with
  | notStarted => exact ⟨Nat.zero_le n, fun most hmost => by cases hmost⟩
  | awaiting pending => exact ⟨Nat.zero_le n, fun most hmost => by cases hmost⟩
  | iterating items =>
      obtain rfl := (Remaining.iterating source token items).mayBring_iff.mp h
      simp [sizeHint]
  | done =>
      obtain rfl := (Remaining.done source token).mayBring_iff.mp h
      simp [sizeHint]

/-- The size that a stream gives is exact when documents are left. -/
theorem sizeHint_exact {documents : List α} (h : stream.state = .iterating documents)
    (s : Session) :
  stream.sizeHint.2 = some stream.sizeHint.1 ∧ ∀ n, stream.MayBring s n ↔ n = stream.sizeHint.1
  := by
  obtain ⟨source, token, state⟩ := stream
  obtain rfl : state = .iterating documents := h
  use rfl
  intro n
  rw [(Remaining.iterating source token documents).mayBring_iff, List.length_map]
  rfl

end ResultStream

/-- What can be seen of a stream after polls, closes and cancellations is true.  It is started when
it has been polled or closed; before that nothing has been sent, and the next poll begins the query.
Once it is done, all further polls are answered with the end, and it is done when it has been closed
or the end has been answered.  The size that it gives brackets the number of items that it brings
when it is polled until it answers with the end, and is exactly that number when its documents are
there. -/
theorem observers_tell {α : Type} (q : Queryable α) (token : String) (s : Session)
    (events : List StreamEvent) :
  let run := (ResultStream.ofQueryable q token).run s events
  let stream := run.2.1
  let s' := run.2.2
  (stream.isStarted = true ↔ 0 < StreamEvent.polls events ∨ .close ∈ events) ∧
  (stream.isStarted = false →
    s'.engine = s.engine ∧ ∀ elapsed, (stream.poll elapsed s').2.2 = (q.beginExecute token s').2) ∧
  (stream.isDone = true →
    ∀ after, (stream.run s' after).1 = List.replicate (StreamEvent.polls after) .finished) ∧
  (.close ∈ events ∨ .finished ∈ run.1 → stream.isDone = true) ∧
  (∀ n, stream.MayBring s' n →
    stream.sizeHint.1 ≤ n ∧ ∀ most ∈ stream.sizeHint.2, n ≤ most) ∧
  ∀ documents, stream.state = .iterating documents →
    stream.sizeHint.2 = some stream.sizeHint.1 ∧
    ∀ n, stream.MayBring s' n ↔ n = stream.sizeHint.1
  := by
  intro run stream s'
  have hstarted : stream.isStarted = true ↔ 0 < StreamEvent.polls events ∨ .close ∈ events := by
    have hfresh : (ResultStream.ofQueryable q token).isStarted = false := rfl
    rw [ResultStream.isStarted_run, hfresh]
    simp
  refine ⟨hstarted, ?_, ?_, ?_, ?_, ?_⟩
  · intro hnot
    rw [← Bool.not_eq_true, hstarted, not_or, Nat.pos_iff_ne_zero, not_not] at hnot
    obtain ⟨hpolls, hclose⟩ := hnot
    have hstream : stream = ResultStream.ofQueryable q token :=
      ResultStream.run_of_untouched hpolls hclose _ s
    use ResultStream.engine_run_of_polls hpolls _ s
    intro elapsed
    rw [hstream]
    apply ResultStream.session_receive
  · intro hdone after
    rw [(ResultStream.remaining_of_isDone hdone).run (fun _ => rfl), Poll.answers_nil]
  · apply ResultStream.isDone_run_of_ended
  · intro n hn
    exact ResultStream.sizeHint_brackets hn
  · intro documents hdocuments
    exact ResultStream.sizeHint_exact hdocuments s'

/-- Of two documents of a slow engine one is yielded after two polls: one more is to come.  Then the
stream is closed, and nothing is to come any more. -/
theorem observers_tell_of_slow :
  let index : Index := ⟨[
    ("a", .obj [("title", .str "First")]),
    ("b", .obj [("title", .str "Second")])]⟩
  let m : Memory := { Memory.empty.setIndex "library" index with slow := true }
  let s : Session := .start (.memory m)
  let q : Queryable Json := .ofProvider ⟨"library", some⟩
  let stream := ResultStream.ofQueryable q "token"
  let cancelled := stream.run s [.cancel "other"]
  let polled := stream.run s [.cancel "other", .poll true, .poll true]
  let closed := stream.run s [.cancel "other", .poll true, .poll true, .close]
  (cancelled.2.1.isStarted = false ∧ cancelled.2.2.engine = s.engine) ∧
  (polled.2.1.isStarted = true ∧ polled.2.1.sizeHint = (1, some 1) ∧
    ∀ n, polled.2.1.MayBring polled.2.2 n ↔ n = 1) ∧
  closed.2.1.isDone = true ∧ (closed.2.1.run closed.2.2 [.poll true]).1 = [.finished]
  := by
  intro index m s q stream cancelled polled closed
  obtain ⟨-, hunsent, -⟩ := observers_tell q "token" s [.cancel "other"]
  obtain ⟨hstarted, -, -, -, -, hexact⟩ :=
    observers_tell q "token" s [.cancel "other", .poll true, .poll true]
  obtain ⟨-, -, hfinished, hdone, -⟩ :=
    observers_tell q "token" s [.cancel "other", .poll true, .poll true, .close]
  refine ⟨⟨rfl, (hunsent rfl).1⟩, ⟨hstarted.mpr (Or.inl (by decide)), rfl, (hexact _ rfl).2⟩, ?_⟩
  have hclosed : closed.2.1.isDone = true := hdone (by simp)
  exact ⟨hclosed, hfinished hclosed [.poll true]⟩

/-- A stream that is closed before its first poll is started, although it has not been polled. -/
theorem closed_stream_isStarted :
  let s : Session := .start (.memory Memory.empty)
  let q : Queryable Json := .ofProvider ⟨"library", some⟩
  let events : List StreamEvent := [.close]
  ¬ (((ResultStream.ofQueryable q "token").run s events).2.1.isStarted = true ↔
    0 < StreamEvent.polls events)
  := by
  intro s q events h
  have hpolls : StreamEvent.polls events = 0 := rfl
  have hpolled : 0 < StreamEvent.polls events := h.mp rfl
  omega

end DocSearch
