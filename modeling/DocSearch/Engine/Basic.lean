import DocSearch.Engine.Memory
import DocSearch.Engine.Script

/-!
# Engines

An engine answers searches and writes; `Exchange` says what differs between the two.
`Engine.perform` makes a call that is answered in place.  Any other call is begun with
`Engine.begin` and, while it has no outcome, resumed with `Engine.resume`.
-/

namespace DocSearch

/-- An engine in memory, or a scripted one. -/
inductive Engine where
  | memory (m : Memory)
  | scripted (s : Script)

/-- An activity that has an outcome, or waits with something that is needed to resume it. -/
inductive Progress (ω α : Type) where
  | finished (outcome : α)
  | waiting (rest : ω)
deriving DecidableEq

/-- Why a call has no outcome yet: a slow engine has not carried it out, or no answer will come. -/
inductive Wait where
  | slow
  | silent
deriving DecidableEq, Repr

/-- What has become of the time that a slow engine takes for a call: it has not passed yet, it has
passed, or a cancellation has cut it short. -/
inductive Delay where
  | running
  | elapsed
  | aborted
deriving DecidableEq, Repr

/-- The delay of a call by whether its token is `cancelled` and the time has `elapsed`.  Where both
have happened an engine may take either; this one takes the cancellation. -/
def Delay.ofFlags : (cancelled elapsed : Bool) → Delay
  | true, _ => .aborted
  | false, true => .elapsed
  | false, false => .running

/-- A call with answers of type `ρ`: how it is recorded, how an engine in memory carries it out, and
what a scripted reply means as an answer to it. -/
structure Exchange (ρ : Type) where
  call : Call
  run : Memory → Except Fault ρ × Memory
  ofReply : SearchResponse → ρ

namespace Exchange

variable {ρ : Type}

/-- The outcome of a call that follows a cue, silence apart. -/
def outcome (x : Exchange ρ) : Option Cue → Except Fault ρ
  | none => .error Script.exhausted
  | some cue =>
    match cue.fault with
    | some fault => .error fault
    | none => .ok (x.ofReply cue.reply)

/-- The exchange of a search. -/
def search (blocking : Bool) (r : SearchRequest) : Exchange SearchResponse :=
  ⟨.search blocking r, (·.search r), id⟩

/-- The answer to a write that a reply means. -/
def writeResponse : SearchResponse → WriteResponse
  | .hits _ => .done
  | .invalid diagnostic => .invalid diagnostic

/-- The exchange of a write. -/
def write (r : WriteRequest) : Exchange WriteResponse :=
  ⟨.write r, (·.write r), writeResponse⟩

end Exchange

namespace Engine

variable {ρ : Type}

/-- Carry out a call in place: its outcome, a token that it cancels, and the engine after it. -/
def perform (x : Exchange ρ) : Engine → Except Fault ρ × Option String × Engine
  | .memory m =>
    let (outcome, m) := x.run m
    (outcome, none, .memory m)
  | .scripted s =>
    let (cue, s) := s.take x.call
    (x.outcome cue, cue.bind Cue.cancels, .scripted s)

/-- Why a call that is made now would have no outcome at once. -/
def wait? : Engine → Option Wait
  | .memory m => if m.slow then some .slow else none
  | .scripted s => if s.cues.head?.any Cue.isSilence then some .silent else none

/-- Begin a call: its outcome if it has one at once, a token that it cancels, and the engine after
it.  A slow engine aborts a call that is `cancelled`. -/
def begin (x : Exchange ρ) (cancelled : Bool) (e : Engine) :
    Progress Wait (Except Fault ρ) × Option String × Engine :=
  match e.wait? with
  | none =>
    let (outcome, cancels, e) := e.perform x
    (.finished outcome, cancels, e)
  | some .slow => (if cancelled then .finished (.error .aborted) else .waiting .slow, none, e)
  | some .silent =>
    let (_, cancels, e) := e.perform x
    (.waiting .silent, cancels, e)

/-- Resume a call that waits.  A slow engine carries it out when its delay has elapsed, and gives it
up when its delay was aborted. -/
def resume (x : Exchange ρ) (wait : Wait) (delay : Delay) (e : Engine) :
    Progress Wait (Except Fault ρ) × Option String × Engine :=
  match wait, delay with
  | .silent, _ => (.waiting .silent, none, e)
  | .slow, .running => (.waiting .slow, none, e)
  | .slow, .elapsed =>
    let (outcome, cancels, e) := e.perform x
    (.finished outcome, cancels, e)
  | .slow, .aborted => (.finished (.error .aborted), none, e)

end Engine

end DocSearch
