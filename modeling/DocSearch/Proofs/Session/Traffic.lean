import Mathlib.Data.List.Basic
import DocSearch.Provider.Search

/-!
# Searches on their way to an engine

`Engine.searches` and `Engine.writes` count the calls that an engine has received, whatever became
of them, and `Engine.Receives` says that it has received one search more.  `Session.advance` is what
becomes of a search with a token in a turn, in which it is resumed or a token is cancelled.  After
any number of turns the engine is as it was, or it has received the search once:
`Session.Stage.advanceAll` and `Session.Stage.engine_eq_or_receives`, together
`Session.Stage.sendsOnce`.
-/

namespace DocSearch

namespace Call

/-- The request of a search. -/
def search? : Call → Option SearchRequest
  | .search _ r => some r
  | .write _ => none

/-- The request of a write. -/
def write? : Call → Option WriteRequest
  | .search _ _ => none
  | .write r => some r

end Call

namespace Engine

/-- The number of searches that an engine has received. -/
def searches : Engine → Nat
  | .memory m => m.searches
  | .scripted s => (s.calls.filterMap Call.search?).length

/-- The number of writes that an engine has received. -/
def writes : Engine → Nat
  | .memory m => m.writes
  | .scripted s => (s.calls.filterMap Call.write?).length

/-- The last search that an engine has received. -/
def lastSearch? : Engine → Option SearchRequest
  | .memory m => m.lastSearch
  | .scripted s => (s.calls.filterMap Call.search?).getLast?

/-- An engine has received one search more, and no write. -/
structure Receives (r : SearchRequest) (before after : Engine) : Prop where
  searches : after.searches = before.searches + 1
  writes : after.writes = before.writes
  lastSearch : after.lastSearch? = some r

/-- A search that is carried out in memory is received, whatever its answer is. -/
theorem receives_search (m : Memory) (r : SearchRequest) :
  Receives r (.memory m) (.memory (m.search r).2)
  := by
  rw [Memory.search]
  split
  · exact ⟨rfl, rfl, rfl⟩
  · split
    · exact ⟨rfl, rfl, rfl⟩
    · exact ⟨rfl, rfl, rfl⟩

/-- An engine that carries out a search has received it, whatever its answer is. -/
theorem receives_perform (blocking : Bool) (r : SearchRequest) (e : Engine) :
  Receives r e (e.perform (.search blocking r)).2.2
  := by
  cases e with
  | memory m => exact receives_search m r
  | scripted s =>
      constructor <;>
        simp [perform, Exchange.search, Script.take, searches, writes, lastSearch?, Call.search?,
          Call.write?]

/-- Only a scripted engine leaves a call without an answer. -/
theorem ne_memory_of_silent {e : Engine} (h : e.wait? = some .silent) (m : Memory) :
  e ≠ .memory m
  := by
  rintro rfl
  rw [wait?] at h
  split at h <;> cases h

end Engine

namespace Session

variable {β : Type} {s : Session} {token : String} {r : SearchRequest} {start : Engine}
  {finish : SearchResponse → Session → Except QueryError β × Session}

/-- The session with other tokens cancelled. -/
def withCancelled (s : Session) (tokens : List String) : Session := { s with cancelled := tokens }

theorem engine_after (s : Session) (cancels : Option String) (e : Engine) :
  (s.after cancels e).engine = e
  := by
  cases cancels <;> rfl

/-- A token stays cancelled when another one is cancelled. -/
theorem isCancelled_cancel (h : s.isCancelled token = true) (other : String) :
  (s.cancel other).isCancelled token = true
  := decide_eq_true (List.mem_cons_of_mem other (of_decide_eq_true h))

/-! ### Turns -/

/-- What happens in a turn while a search is awaited: it is resumed, or a token is cancelled. -/
inductive Turn where
  | resumed (elapsed : Bool)
  | cancelled (token : String)

/-- A search with a token after a turn. -/
def advance (token : String) : SearchProgress β × Session → Turn → SearchProgress β × Session
  | (.waiting pending, s), .resumed elapsed => s.resumeSearch token pending elapsed
  | (.finished outcome, s), .resumed _ => (.finished outcome, s)
  | (progress, s), .cancelled other => (progress, s.cancel other)

/-- A search with a token after many turns. -/
def advanceAll (token : String) (start : SearchProgress β × Session) (turns : List Turn) :
    SearchProgress β × Session :=
  turns.foldl (advance token) start

theorem advanceAll_cons (search : SearchProgress β × Session) (turn : Turn) (turns : List Turn) :
  advanceAll token search (turn :: turns) = advanceAll token (advance token search turn) turns
  := rfl

theorem advanceAll_append (search : SearchProgress β × Session) (turns turns' : List Turn) :
  advanceAll token search (turns ++ turns') =
    advanceAll token (advanceAll token search turns) turns'
  := List.foldl_append

/-- How far a search with a token is that is sent to an engine: it is not sent yet, it is sent and
no answer comes, it is sent and has an outcome, or it is given up before it is sent. -/
inductive Stage (token : String) (r : SearchRequest)
    (finish : SearchResponse → Session → Except QueryError β × Session) (start : Engine) :
    SearchProgress β × Session → Prop
  | unsent (s : Session) (hengine : s.engine = start) :
      Stage token r finish start (.waiting ⟨r, finish, .slow⟩, s)
  | silent (s : Session) (hstart : ∀ m, start ≠ .memory m) (h : start.Receives r s.engine) :
      Stage token r finish start (.waiting ⟨r, finish, .silent⟩, s)
  | answered (outcome : Except QueryError β) (s : Session) (h : start.Receives r s.engine) :
      Stage token r finish start (.finished outcome, s)
  | dropped (s : Session) (hengine : s.engine = start) (hcancelled : s.isCancelled token = true) :
      Stage token r finish start (.finished (.error .cancelled), s)

/-- A search that the engine has carried out is answered, when its answer is finished without the
engine. -/
theorem Stage.proceed (hfinish : ∀ response s, (finish response s).2.engine = s.engine)
    (outcome : Except QueryError SearchResponse) (h : start.Receives r s.engine) :
  Stage token r finish start (proceed r finish (.finished outcome, s))
  := by
  cases outcome with
  | error e => exact Stage.answered _ _ h
  | ok response =>
      apply Stage.answered
      rw [hfinish]
      exact h

/-- A search that is carried out now is answered. -/
theorem Stage.perform (hfinish : ∀ response s, (finish response s).2.engine = s.engine) :
  let performed := s.engine.perform (.search false r)
  let s' := s.after performed.2.1 performed.2.2
  Stage token r finish s.engine
    (Session.proceed r finish (.finished (s'.conclude token performed.1), s'))
  := by
  intro performed s'
  apply Stage.proceed hfinish
  rw [engine_after]
  apply Engine.receives_perform

/-- A search is begun in one of the stages. -/
theorem stage_beginSearch (hfinish : ∀ response s, (finish response s).2.engine = s.engine) :
  Stage token r finish s.engine (s.beginSearch token r finish)
  := by
  rw [beginSearch]
  split
  case isTrue hcancelled => exact Stage.dropped s rfl hcancelled
  case isFalse hcancelled =>
    rw [submit, begin, Engine.begin]
    cases hwait : s.engine.wait? with
    | none => exact Stage.perform hfinish
    | some wait =>
        cases wait with
        | slow =>
            simp only [hcancelled]
            exact Stage.unsent s rfl
        | silent =>
            apply Stage.silent _ (Engine.ne_memory_of_silent hwait)
            rw [engine_after]
            apply Engine.receives_perform

/-- A search that waits is in one of the stages after it is resumed. -/
theorem Stage.resume (hfinish : ∀ response s, (finish response s).2.engine = s.engine)
    {pending : PendingSearch β} (h : Stage token r finish start (.waiting pending, s))
    (elapsed : Bool) :
  Stage token r finish start (s.resumeSearch token pending elapsed)
  := by
  cases h with
  | unsent _ hengine =>
      subst hengine
      rw [resumeSearch, await]
      split
      case isTrue hcancelled => exact Stage.dropped _ rfl hcancelled
      case isFalse hcancelled =>
        rw [Session.resume, eq_false_of_ne_true hcancelled]
        cases elapsed with
        | true => exact Stage.perform hfinish
        | false => exact Stage.unsent s rfl
  | silent _ hstart hreceives =>
      rw [resumeSearch, await]
      split
      case isTrue hcancelled => exact Stage.answered _ _ hreceives
      case isFalse hcancelled => exact Stage.silent _ hstart hreceives

/-- The cancellation of a token does not change how far a search is. -/
theorem Stage.cancel {progress : SearchProgress β}
    (h : Stage token r finish start (progress, s)) (other : String) :
  Stage token r finish start (progress, s.cancel other)
  := by
  cases h with
  | unsent _ hengine => exact Stage.unsent _ hengine
  | silent _ hstart hreceives => exact Stage.silent _ hstart hreceives
  | answered outcome _ hreceives => exact Stage.answered outcome _ hreceives
  | dropped _ hengine hcancelled =>
      exact Stage.dropped _ hengine (isCancelled_cancel hcancelled other)

/-- A search is in one of the stages after a turn. -/
theorem Stage.advance (hfinish : ∀ response s, (finish response s).2.engine = s.engine)
    {search : SearchProgress β × Session} (h : Stage token r finish start search) (turn : Turn) :
  Stage token r finish start (advance token search turn)
  := by
  obtain ⟨progress, s⟩ := search
  cases turn with
  | cancelled other => cases progress <;> exact h.cancel other
  | resumed elapsed =>
      cases progress with
      | finished outcome => exact h
      | waiting pending => exact h.resume hfinish elapsed

/-- A search is in one of the stages after many turns. -/
theorem Stage.advanceAll (hfinish : ∀ response s, (finish response s).2.engine = s.engine)
    {search : SearchProgress β × Session} (h : Stage token r finish start search)
    (turns : List Turn) :
  Stage token r finish start (advanceAll token search turns)
  := by
  induction turns generalizing search with
  | nil => exact h
  | cons turn turns ih => exact ih (h.advance hfinish turn)

/-- In every stage the engine is as it was, or it has received the search. -/
theorem Stage.engine_eq_or_receives {search : SearchProgress β × Session}
    (h : Stage token r finish start search) :
  search.2.engine = start ∨ start.Receives r search.2.engine
  := by
  cases h with
  | unsent _ hengine => exact Or.inl hengine
  | silent _ _ hreceives => exact Or.inr hreceives
  | answered _ _ hreceives => exact Or.inr hreceives
  | dropped _ hengine _ => exact Or.inl hengine

/-- A search with an outcome has been received, unless its token is cancelled. -/
theorem Stage.receives {outcome : Except QueryError β}
    (h : Stage token r finish start (.finished outcome, s))
    (hcancelled : s.isCancelled token = false) :
  start.Receives r s.engine
  := by
  cases h with
  | answered _ _ hreceives => exact hreceives
  | dropped _ _ hdropped => cases hcancelled.symm.trans hdropped

/-- Whatever happens in turns, a search with a token is received at most once, and it has been
received if it has an outcome and its token is not cancelled. -/
def SendsOnce (token : String) (r : SearchRequest) (start : Engine)
    (search : SearchProgress β × Session) : Prop :=
  ∀ turns progress s', advanceAll token search turns = (progress, s') →
    (s'.engine = start ∨ start.Receives r s'.engine) ∧
    ∀ outcome, progress = .finished outcome → s'.isCancelled token = false →
      start.Receives r s'.engine

theorem Stage.sendsOnce (hfinish : ∀ response s, (finish response s).2.engine = s.engine)
    {search : SearchProgress β × Session} (h : Stage token r finish start search) :
  SendsOnce token r start search
  := by
  intro turns progress s' hturns
  have hstage := h.advanceAll hfinish turns
  rw [hturns] at hstage
  use hstage.engine_eq_or_receives
  rintro outcome rfl hcancelled
  apply hstage.receives hcancelled

/-! ### Outcomes -/

/-- An outcome stays. -/
theorem advanceAll_finished (outcome : Except QueryError β) (turns : List Turn) (s : Session) :
  ∃ s', advanceAll token (.finished outcome, s) turns = (.finished outcome, s')
  := by
  induction turns generalizing s with
  | nil => exact ⟨s, rfl⟩
  | cons turn turns ih =>
      cases turn with
      | resumed elapsed => apply ih
      | cancelled other => apply ih

/-- A search that waits for an engine in memory has an outcome once the time has elapsed that the
engine takes. -/
theorem Stage.exists_finished {m : Memory} {search : SearchProgress β × Session}
    (h : Stage token r finish (.memory m) search) :
  ∃ outcome s', Session.advance token search (.resumed true) = (.finished outcome, s')
  := by
  cases h with
  | unsent s _ =>
      rw [Session.advance, resumeSearch, await]
      split
      case isTrue hcancelled => exact ⟨_, _, rfl⟩
      case isFalse hcancelled =>
        rw [Session.resume, eq_false_of_ne_true hcancelled]
        simp only [Delay.ofFlags, Engine.resume]
        generalize s.after _ _ = s'
        cases s'.conclude token _ with
        | error e => exact ⟨_, _, rfl⟩
        | ok response => exact ⟨_, _, rfl⟩
  | silent _ hstart _ => cases hstart m rfl
  | answered outcome s _ => exact ⟨_, _, rfl⟩
  | dropped s _ _ => exact ⟨_, _, rfl⟩

/-- A search on an engine in memory has an outcome after turns in one of which the time has elapsed
that the engine takes. -/
theorem Stage.exists_finished_of_mem {m : Memory} {search : SearchProgress β × Session}
    (h : Stage token r finish (.memory m) search)
    (hfinish : ∀ response s, (finish response s).2.engine = s.engine) {turns : List Turn}
    (helapsed : .resumed true ∈ turns) :
  ∃ outcome s', Session.advanceAll token search turns = (.finished outcome, s')
  := by
  obtain ⟨before, after, rfl⟩ := List.append_of_mem helapsed
  obtain ⟨outcome, s', hfinished⟩ := (h.advanceAll hfinish before).exists_finished
  rw [advanceAll_append, advanceAll_cons, hfinished]
  exact ⟨outcome, advanceAll_finished outcome after s'⟩

end Session

end DocSearch
