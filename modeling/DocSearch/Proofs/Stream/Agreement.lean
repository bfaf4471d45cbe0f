import DocSearch.Proofs.Provider.Agreement
import DocSearch.Proofs.Stream.Replay

/-!
# Ways to execute a query

On an engine in memory a query has the same outcome and leaves the same session, whether it is
executed in place or with a token that is never cancelled, and a stream of the query yields the
same documents: `with_token_agrees_in_place`.
-/

namespace DocSearch

variable {α : Type}

open Session

/-! ### Events -/

namespace StreamEvent

variable {token : String} {events : List StreamEvent}

/-- A token that no event cancels is not cancelled in their turns. -/
theorem cancelled_notMem_turns (h : .cancel token ∉ events) :
  .cancelled token ∉ events.filterMap turn?
  := by
  intro hturn
  obtain ⟨event, hevent, hturn⟩ := List.mem_filterMap.mp hturn
  cases event with
  | poll elapsed => cases hturn
  | close => cases hturn
  | cancel other =>
      obtain rfl := Turn.cancelled.inj (Option.some.inj hturn)
      exact h hevent

theorem resumed_mem_turns {elapsed : Bool} (h : .poll elapsed ∈ events) :
  .resumed elapsed ∈ events.filterMap turn?
  := List.mem_filterMap.mpr ⟨_, h, rfl⟩

theorem polls_append (before after : List StreamEvent) :
  polls (before ++ after) = polls before + polls after
  := by
  simp [polls]

/-- There are as many polls at least as are found in a row among the events. -/
theorem le_polls {n : Nat} {elapsed : Bool}
    (h : (List.replicate n (.poll elapsed)).Sublist events) :
  n ≤ polls events
  := by
  rw [← polls_replicate n elapsed]
  exact (h.filter isPoll).length_le

end StreamEvent

/-! ### Outcomes -/

namespace Queryable

variable {q : Queryable α} {token : String} {s : Session} {m : Memory}
  {events : List StreamEvent}

/-- The documents of a query do not depend on the tokens that are cancelled. -/
theorem documents_cancel (hengine : s.engine = .memory m) (other : String) :
  (q.documents (s.cancel other)).1 = (q.documents s).1
  := by
  have hcancel : s.cancel other = s.withCancelled (other :: s.cancelled) := rfl
  rw [hcancel, documents, documents, execute, execute, Provider.execute_withCancelled hengine]

/-- A token is not cancelled by an event that cancels another one. -/
theorem isCancelled_cancel_of_ne {other : String}
    (hevent : StreamEvent.cancel token ≠ .cancel other) (hcancelled : s.isCancelled token = false) :
  (s.cancel other).isCancelled token = false
  := by
  have hne : token ≠ other := fun hsame => hevent (congrArg _ hsame)
  have hnot : token ∉ s.cancelled := of_decide_eq_false hcancelled
  exact decide_eq_false (List.not_mem_cons_of_ne_of_not_mem hne hnot)

/-- A query that is begun with a token that is not cancelled agrees with what it comes to in
place. -/
theorem agrees_begin (q : Queryable α) (hengine : s.engine = .memory m)
    (hcancelled : s.isCancelled token = false) :
  Agrees token (q.execute s) (q.beginExecute token s)
  := q.provider.agrees_beginExecute q.query q.external hengine hcancelled

/-- A query comes to its documents, or to its error, when it is begun at the first poll and its
token is not cancelled. -/
theorem outcome?_eq (hengine : s.engine = .memory m) (hcancelled : s.isCancelled token = false)
    (hevents : .cancel token ∉ events) {outcome : Except QueryError (List α)}
    (h : q.outcome? token s events = some outcome) :
  outcome = (q.documents s).1
  := by
  induction events generalizing s with
  | nil => cases h
  | cons event events ih =>
      rw [List.mem_cons, not_or] at hevents
      cases event with
      | poll elapsed =>
          have hagrees := q.agrees_begin hengine hcancelled
          have hafter := hagrees.advanceAll (StreamEvent.cancelled_notMem_turns hevents.2)
          rw [outcome?] at h
          generalize advanceAll token _ _ = search at h hafter
          obtain ⟨output | pending, s'⟩ := search
          · obtain ⟨houtput, -⟩ := hafter.eq_of_finished rfl
            obtain rfl := Option.some.inj h
            rw [houtput]
            rfl
          · cases h
      | close => exact ih hengine hcancelled hevents.2 h
      | cancel other =>
          rw [← documents_cancel hengine other]
          exact ih hengine (isCancelled_cancel_of_ne hevents.1 hcancelled) hevents.2 h

/-- A query has an outcome after it is polled twice: first it is begun, then the time has elapsed
that the engine takes. -/
theorem exists_outcome? (hengine : s.engine = .memory m)
    (hcancelled : s.isCancelled token = false) (hevents : .cancel token ∉ events)
    (hpolls : (List.replicate 2 (.poll true)).Sublist events) :
  ∃ outcome, q.outcome? token s events = some outcome
  := by
  induction events generalizing s with
  | nil => cases hpolls
  | cons event events ih =>
      rw [List.mem_cons, not_or] at hevents
      cases event with
      | poll elapsed =>
          have hagrees := q.agrees_begin hengine hcancelled
          have helapsed : .poll true ∈ events := List.singleton_sublist.mp hpolls.tail
          obtain ⟨output, houtput⟩ := hagrees.exists_finished
            (StreamEvent.cancelled_notMem_turns hevents.2)
            (StreamEvent.resumed_mem_turns helapsed)
          rw [outcome?, houtput]
          exact ⟨_, rfl⟩
      | close =>
          cases hpolls with
          | cons _ hrest => exact ih hengine hcancelled hevents.2 hrest
      | cancel other =>
          cases hpolls with
          | cons _ hrest =>
              exact ih hengine (isCancelled_cancel_of_ne hevents.1 hcancelled) hevents.2 hrest

end Queryable

/-! ### Ends -/

namespace Poll

variable {before after : List (Poll α)} {outcome : Except QueryError (List α)} {n k : Nat}

/-- The answer to a poll after the outcome brings something. -/
theorem next_ne_pending (left : List (Except QueryError α)) :
  next left ≠ .pending
  := by
  intro h
  cases left <;> cases h

/-- Answers that follow an outcome bring nothing to fewer polls than there are. -/
theorem Follow.waits_lt {waits : Nat} (h : Poll.Follow before n (some outcome))
    (left : List (Poll α)) (hsame : before ++ after = List.replicate waits .pending ++ left) :
  waits < n
  := by
  obtain ⟨waits', hwaits', rfl⟩ := h
  by_contra hge
  obtain ⟨k, rfl⟩ := Nat.exists_eq_add_of_lt hwaits'
  obtain ⟨j, rfl⟩ := Nat.exists_eq_add_of_le (Nat.le_of_not_lt hge)
  -- Both lists begin with as many empty answers, and go on with different ones.
  have hleft : waits' + k + 1 - waits' = k + 1 := by omega
  have hright : waits' + k + 1 + j = waits' + (k + j + 1) := by omega
  rw [hleft, hright, answers_succ, ← List.replicate_append_replicate, List.append_assoc,
    List.append_assoc, List.replicate_succ] at hsame
  have hrest := List.append_cancel_left hsame
  exact next_ne_pending _ (List.cons.inj hrest).1

/-- The end is answered when there are as many polls as items after the outcome. -/
theorem Follow.finished_mem (hbefore : Poll.Follow before n (some outcome))
    (h : Poll.Follow (before ++ after) (n + k) (some outcome))
    (hitems : (ResultStream.items outcome).length ≤ k) :
  .finished ∈ before ++ after
  := by
  obtain ⟨waits, -, hsame⟩ := h
  have hwaits := hbefore.waits_lt _ hsame
  rw [hsame]
  apply List.mem_append_right
  apply finished_mem_answers.mpr
  omega

end Poll

namespace ResultStream

variable {q : Queryable α} {token : String} {s : Session} {m : Memory} {events : List StreamEvent}

/-- When the end is answered, the documents of the query have been yielded, or its error. -/
theorem items_run_of_finished (hengine : s.engine = .memory m)
    (hcancelled : s.isCancelled token = false) (hclose : .close ∉ events)
    (hevents : .cancel token ∉ events)
    (hfinished : .finished ∈ ((ofQueryable q token).run s events).1) :
  Poll.items ((ofQueryable q token).run s events).1 = items (q.documents s).1
  := by
  obtain ⟨outcome, houtcome, hitems⟩ := (follow_run q token s hclose).items_eq hfinished
  rw [hitems, Queryable.outcome?_eq hengine hcancelled hevents houtcome]

/-- The end is answered when the time has elapsed that the engine takes at two polls and at as many
further ones as there are items. -/
theorem finished_mem_run (hengine : s.engine = .memory m)
    (hcancelled : s.isCancelled token = false) (hclose : .close ∉ events)
    (hevents : .cancel token ∉ events)
    (hpolls : (List.replicate (2 + (items (q.documents s).1).length) (.poll true)).Sublist events) :
  .finished ∈ ((ofQueryable q token).run s events).1
  := by
  rw [List.replicate_add, List.append_sublist_iff] at hpolls
  obtain ⟨before, after, rfl, hbefore, hafter⟩ := hpolls
  rw [List.mem_append, not_or] at hevents
  obtain ⟨outcome, houtcome⟩ := Queryable.exists_outcome? (q := q) hengine hcancelled hevents.1
    hbefore
  have hfollow := follow_run q token s hclose
  have hfollow' := follow_run q token s fun hmem => hclose (List.mem_append_left after hmem)
  rw [run_append, outcome?_append houtcome, StreamEvent.polls_append] at hfollow
  rw [houtcome] at hfollow'
  rw [run_append]
  apply hfollow'.finished_mem hfollow
  rw [Queryable.outcome?_eq hengine hcancelled hevents.1 houtcome]
  exact StreamEvent.le_polls hafter

end ResultStream

/-- A query with a token that is never cancelled comes to what it comes to when it is executed in
place, on an engine in memory: it has the same output or the same error, and leaves the same
engine, the same counters and the same log.  It has an outcome at once, or when the time has elapsed
that the engine takes.  So it has the same documents, and counting them gives the same number.  A
stream of the query that is not closed has yielded the same documents, or the same error, when it
ends, as it does when it is polled often enough. -/
theorem with_token_agrees_in_place {α : Type} (q : Queryable α) {token : String} {s : Session}
    {m : Memory} (hengine : s.engine = .memory m) (hcancelled : s.isCancelled token = false) :
  (∀ turns, .cancelled token ∉ turns →
    let search := Session.advanceAll token (q.beginExecute token s) turns
    let counting := Session.advanceAll token (q.counting.beginExecute token s) turns
    (m.slow = false ∨ .resumed true ∈ turns → ∃ outcome, search.1 = .finished outcome) ∧
    (∀ outcome, search.1 = .finished outcome →
      outcome = (q.execute s).1 ∧
      search.2 = (q.execute s).2.withCancelled search.2.cancelled ∧
      outcome.bind Output.documents? = (q.documents s).1) ∧
    ∀ outcome, counting.1 = .finished outcome → outcome.bind Output.count? = (q.count s).1) ∧
  ∀ events, .close ∉ events → .cancel token ∉ events →
    let answers := ((ResultStream.ofQueryable q token).run s events).1
    let items := ResultStream.items (q.documents s).1
    (.finished ∈ answers → Poll.items answers = items) ∧
    ((List.replicate (2 + items.length) (.poll true)).Sublist events → .finished ∈ answers)
  := by
  constructor
  · intro turns hturns search counting
    have hagrees := q.agrees_begin hengine hcancelled
    have hcounting := q.counting.agrees_begin hengine hcancelled
    refine ⟨?_, ?_, ?_⟩
    · rintro (hslow | helapsed)
      · obtain ⟨outcome, s', hbegin⟩ : ∃ outcome s',
            q.beginExecute token s = (.finished outcome, s') :=
          Provider.exists_finished_beginExecute hengine hslow
        obtain ⟨s'', hfinished⟩ := Session.advanceAll_finished outcome turns s'
        simp only [search, hbegin]
        exact ⟨outcome, congrArg Prod.fst hfinished⟩
      · exact hagrees.exists_finished hturns helapsed
    · intro outcome hfinished
      obtain ⟨rfl, hsession⟩ := (hagrees.advanceAll hturns).eq_of_finished hfinished
      exact ⟨rfl, hsession, rfl⟩
    · intro outcome hfinished
      obtain ⟨rfl, -⟩ := (hcounting.advanceAll hturns).eq_of_finished hfinished
      rfl
  · intro events hclose hevents answers items
    constructor
    · intro hfinished
      exact ResultStream.items_run_of_finished hengine hcancelled hclose hevents hfinished
    · intro hpolls
      exact ResultStream.finished_mem_run hengine hcancelled hclose hevents hpolls

/-- A slow engine answers the query when it is resumed, while another token is cancelled; a stream
of the query waits for the answer, and then yields the document. -/
theorem with_token_agrees_in_place_of_slow :
  let index : Index := ⟨[("a", .obj [("year", .num (.int 1999))]), ("b", .obj [])]⟩
  let m : Memory := { Memory.empty.setIndex "library" index with slow := true }
  let s : Session := .start (.memory m)
  let recent : Predicate := .fieldIs "year" .eq (.num (.int 1999))
  let q : Queryable Json := (Queryable.ofProvider ⟨"library", some⟩).filter recent
  let turns : List Session.Turn := [.resumed false, .cancelled "other", .resumed true]
  let events : List StreamEvent := [.poll true, .cancel "other", .poll true, .poll true]
  let search := Session.advanceAll "token" (q.beginExecute "token" s) turns
  let answers := ((ResultStream.ofQueryable q "token").run s events).1
  s.isCancelled "token" = false ∧
  search.1 = .finished (q.execute s).1 ∧
  search.2 = (q.execute s).2.withCancelled search.2.cancelled ∧
  (.finished ∈ answers ∧ Poll.items answers = [.ok (.obj [("year", .num (.int 1999))])])
  := by
  intro index m s recent q turns events search answers
  have hengine : s.engine = .memory m := rfl
  have hcancelled : s.isCancelled "token" = false := by decide
  have hturns : .cancelled "token" ∉ turns := by simp [turns]
  have hopen : .close ∉ events := by simp [events]
  have hevents : .cancel "token" ∉ events := by simp [events]
  have hitem : ResultStream.items (q.documents s).1 =
      [.ok (.obj [("year", .num (.int 1999))])] := by
    decide +kernel
  have hlength : (ResultStream.items (q.documents s).1).length = 1 := congrArg List.length hitem
  have hpolls : (events.filter StreamEvent.isPoll).Sublist events := List.filter_sublist
  obtain ⟨hsearch, hstream⟩ := with_token_agrees_in_place q hengine hcancelled
  obtain ⟨hfinishes, hagrees, -⟩ := hsearch turns hturns
  obtain ⟨hitems, hends⟩ := hstream events hopen hevents
  have hfinished := hends (hlength ▸ hpolls)
  have helapsed : .resumed true ∈ turns := by simp [turns]
  obtain ⟨outcome, houtcome⟩ := hfinishes (Or.inr helapsed)
  obtain ⟨houtput, hsession, -⟩ := hagrees outcome houtcome
  rw [houtput] at houtcome
  simp only [search]
  exact ⟨hcancelled, houtcome, hsession, hfinished, (hitems hfinished).trans hitem⟩

end DocSearch
