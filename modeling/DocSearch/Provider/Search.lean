import DocSearch.Provider.Error
import DocSearch.Session

/-!
# Calls that can be cancelled

`Session.submit` begins a call with a token, and `Session.await` resumes it; both report a call
that is given up because of its token as cancelled.  `Session.beginSearch` and
`Session.resumeSearch` do so for a search whose answer is to be finished by a function, and count
its failure.
-/

namespace DocSearch

namespace Session

variable {ρ : Type}

/-- The outcome of a call with a token; a fault after the token was cancelled is a cancellation. -/
def conclude (s : Session) (token : String) : Except Fault ρ → Except QueryError ρ
  | .ok answer => .ok answer
  | .error fault => .error (if s.isCancelled token then .cancelled else .fault fault)

/-- Begin a call with a token that is not cancelled yet. -/
def submit (s : Session) (x : Exchange ρ) (token : String) :
    Progress Wait (Except QueryError ρ) × Session :=
  match s.begin x token with
  | (.finished outcome, s) => (.finished (s.conclude token outcome), s)
  | (.waiting wait, s) => (.waiting wait, s)

/-- Await a call with a token, which gives it up when it is cancelled. -/
def await (s : Session) (x : Exchange ρ) (token : String) (wait : Wait) (elapsed : Bool) :
    Progress Wait (Except QueryError ρ) × Session :=
  if s.isCancelled token then (.finished (.error .cancelled), s)
  else
    match s.resume x token wait elapsed with
    | (.finished outcome, s) => (.finished (s.conclude token outcome), s)
    | (.waiting wait, s) => (.waiting wait, s)

end Session

/-- A search under way, with what is to be done with its answer. -/
structure PendingSearch (β : Type) where
  request : SearchRequest
  finish : SearchResponse → Session → Except QueryError β × Session
  wait : Wait

/-- A search that has an outcome or is under way. -/
abbrev SearchProgress (β : Type) := Progress (PendingSearch β) (Except QueryError β)

namespace Session

variable {β : Type}

/-- One more query has failed. -/
def countFailure (s : Session) : Session := s.tally fun c => { c with failed := c.failed + 1 }

/-- One more query is answered, on record. -/
def countSuccess (s : Session) (documents : Nat) (fields : List (String × String)) : Session :=
  (s.tally fun c =>
    { c with executed := c.executed + 1, documents := c.documents + documents }).record
      .queryExecuted fields

/-- Go on after a step of a search: count a failure, or finish with the answer. -/
def proceed (request : SearchRequest)
    (finish : SearchResponse → Session → Except QueryError β × Session) :
    Progress Wait (Except QueryError SearchResponse) × Session → SearchProgress β × Session
  | (.waiting wait, s) => (.waiting ⟨request, finish, wait⟩, s)
  | (.finished (.error e), s) => (.finished (.error e), s.countFailure)
  | (.finished (.ok response), s) =>
    let (outcome, s) := finish response s
    (.finished outcome, s)

/-- Begin a search with a token; nothing is sent when the token is cancelled already. -/
def beginSearch (s : Session) (token : String) (request : SearchRequest)
    (finish : SearchResponse → Session → Except QueryError β × Session) :
    SearchProgress β × Session :=
  if s.isCancelled token then (.finished (.error .cancelled), s)
  else proceed request finish (s.submit (.search false request) token)

/-- Resume a search with a token. -/
def resumeSearch (s : Session) (token : String) (pending : PendingSearch β) (elapsed : Bool) :
    SearchProgress β × Session :=
  proceed pending.request pending.finish
    (s.await (.search false pending.request) token pending.wait elapsed)

end Session

end DocSearch
