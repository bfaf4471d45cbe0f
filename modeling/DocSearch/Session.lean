import DocSearch.Engine.Basic
import DocSearch.Telemetry.Counters
import DocSearch.Telemetry.Event

/-!
# Sessions

A session is the state that queries and changes share: an engine, the tokens that have been
cancelled, counters, and a log.  `Session.perform` makes a call on the engine that is answered in
place, and `Session.begin` and `Session.resume` one that can be cancelled by a token.
-/

namespace DocSearch

/-- An engine with what is known and recorded around it. -/
structure Session where
  engine : Engine
  cancelled : List String
  counters : Counters
  log : List LogRecord

namespace Session

variable {ρ : Type}

/-- The session in which nothing has happened yet. -/
def start (engine : Engine) : Session := ⟨engine, [], .zero, []⟩

/-- A token has been cancelled. -/
def isCancelled (s : Session) (token : String) : Bool := decide (token ∈ s.cancelled)

/-- Cancel a token. -/
def cancel (s : Session) (token : String) : Session := { s with cancelled := token :: s.cancelled }

/-- Cancel an optional token. -/
def cancelAll (s : Session) (token : Option String) : Session :=
  match token with
  | some token => s.cancel token
  | none => s

/-- Record an event. -/
def record (s : Session) (event : Event) (fields : List (String × String)) : Session :=
  { s with log := s.log ++ [.ofEvent event fields] }

/-- Change the counters. -/
def tally (s : Session) (f : Counters → Counters) : Session := { s with counters := f s.counters }

/-- The session after something has happened to its engine, and perhaps to a token. -/
def after (s : Session) (cancels : Option String) (engine : Engine) : Session :=
  { s with engine := engine }.cancelAll cancels

/-- Make a call that is answered in place. -/
def perform (s : Session) (x : Exchange ρ) : Except Fault ρ × Session :=
  let (outcome, cancels, engine) := s.engine.perform x
  (outcome, s.after cancels engine)

/-- Begin a call with a token. -/
def begin (s : Session) (x : Exchange ρ) (token : String) :
    Progress Wait (Except Fault ρ) × Session :=
  let (progress, cancels, engine) := s.engine.begin x (s.isCancelled token)
  (progress, s.after cancels engine)

/-- Resume a call with a token, which `Session.await` does only when it is not cancelled. -/
def resume (s : Session) (x : Exchange ρ) (token : String) (wait : Wait) (elapsed : Bool) :
    Progress Wait (Except Fault ρ) × Session :=
  let (progress, cancels, engine) :=
    s.engine.resume x wait (.ofFlags (s.isCancelled token) elapsed)
  (progress, s.after cancels engine)

end Session

end DocSearch
