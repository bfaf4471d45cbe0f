import Mathlib.Logic.Relation
import DocSearch.Replay

/-!
# Replays step by step

`Mapping.ReplayStep` says what can happen next while changes are replayed: a token is cancelled, the
next change is sent, a call that waits is resumed, or the replay ends because all changes are sent.
Tokens may be cancelled whenever the replay is not over.  `Mapping.Reaches` is what many steps lead
to.  What `Mapping.beginReplay` and `Mapping.resumeReplay` return is reached by steps, and the
first steps of a replay do not depend on the changes that come later: `Mapping.Reaches.append`.
-/

namespace DocSearch

open Relation

/-- Where a replay stands: between two changes, with those that are left and the number of those
done, while a change is being sent, or when it has an outcome. -/
inductive ReplayState where
  | between (rest : List Change) (applied : Nat)
  | sending (pending : PendingReplay)
  | ended (outcome : Except QueryError Nat)

namespace ReplayState

/-- Where a replay stands that has an outcome or is under way. -/
def ofProgress : ReplayProgress → ReplayState
  | .finished outcome => .ended outcome
  | .waiting pending => .sending pending

/-- The replay has an outcome. -/
def isEnded : ReplayState → Bool
  | ended _ => true
  | _ => false

/-- Where a replay would stand if it had more changes at its end. -/
def append (more : List Change) : ReplayState → ReplayState
  | between rest applied => between (rest ++ more) applied
  | sending pending => sending { pending with rest := pending.rest ++ more }
  | ended outcome => ended outcome

end ReplayState

namespace Mapping

variable {m : Mapping} {token : String} {changes : List Change} {s s' : Session}

/-! ### Steps -/

/-- Where a replay stands after a step of the call that sends a change. -/
def receive (c : Change) (index : String) (rest : List Change) (applied : Nat) :
    Progress Wait (Except QueryError WriteResponse) × Session → ReplayState × Session
  | (.waiting wait, s) => (.sending ⟨c, index, rest, applied, wait⟩, s)
  | (.finished (.error e), s) => (.ended (.error e), s)
  | (.finished (.ok response), s) =>
    (.between rest (applied + response.applied), s.countChange c index response)

/-- Send a change, unless the token is cancelled or its kind has no index. -/
def sendNext (m : Mapping) (token : String) (c : Change) (rest : List Change) (applied : Nat)
    (s : Session) : ReplayState × Session :=
  if s.isCancelled token then (.ended (.error .cancelled), s)
  else
    match m.indexFor c.entity with
    | none => (.ended (.error (.unmapped c.entity)), s)
    | some index => receive c index rest applied (s.submit (c.exchange index) token)

/-- What can happen next to a replay of `total` changes. -/
inductive ReplayStep (m : Mapping) (token : String) (total : Nat) :
    ReplayState × Session → ReplayState × Session → Prop
  | cancelled (other : String) (state : ReplayState) (s : Session)
      (hended : state.isEnded = false) :
      ReplayStep m token total (state, s) (state, s.cancel other)
  | sent (c : Change) (rest : List Change) (applied : Nat) (s : Session) :
      ReplayStep m token total (.between (c :: rest) applied, s)
        (m.sendNext token c rest applied s)
  | resumed (pending : PendingReplay) (elapsed : Bool) (s : Session) :
      ReplayStep m token total (.sending pending, s)
        (receive pending.change pending.index pending.rest pending.applied
          (s.await (pending.change.exchange pending.index) token pending.wait elapsed))
  | completed (applied : Nat) (s : Session) :
      ReplayStep m token total (.between [] applied, s)
        (.ended (.ok applied), s.record .replayComplete
          [("applied", toString applied), ("total", toString total)])

/-- A replay of changes that begins in a session can come to a state and a session. -/
def Reaches (m : Mapping) (token : String) (changes : List Change) (s : Session)
    (state : ReplayState) (s' : Session) : Prop :=
  ReflTransGen (m.ReplayStep token changes.length) (.between changes 0, s) (state, s')

/-! ### Replays take steps -/

/-- Go on with a replay until it waits or is over. -/
def continueReplay (m : Mapping) (token : String) (total : Nat) :
    ReplayState × Session → ReplayProgress × Session
  | (.between rest applied, s) => m.replayFrom token total rest applied s
  | (.sending pending, s) => (.waiting pending, s)
  | (.ended outcome, s) => (.finished outcome, s)

/-- To replay changes is to send the first one and to go on. -/
theorem replayFrom_cons (c : Change) (rest : List Change) (applied total : Nat) :
  m.replayFrom token total (c :: rest) applied s =
    m.continueReplay token total (m.sendNext token c rest applied s)
  := by
  rw [replayFrom, sendNext]
  split
  · rfl
  · cases m.indexFor c.entity with
    | none => rfl
    | some index =>
        simp only
        rcases s.submit (c.exchange index) token with ⟨(e | response) | wait, s₁⟩ <;> rfl

/-- To resume a replay is to resume its call and to go on. -/
theorem resumeReplay_eq (pending : PendingReplay) (elapsed : Bool) (total : Nat) :
  m.resumeReplay token total pending elapsed s =
    m.continueReplay token total
      (receive pending.change pending.index pending.rest pending.applied
        (s.await (pending.change.exchange pending.index) token pending.wait elapsed))
  := by
  rw [resumeReplay]
  rcases s.await (pending.change.exchange pending.index) token pending.wait elapsed with
    ⟨(e | response) | wait, s₁⟩ <;> rfl

/-- What a replay comes to when it goes on is reached by steps. -/
theorem continueReplay_steps (total : Nat) (state : ReplayState) (s : Session) :
  ReflTransGen (m.ReplayStep token total) (state, s)
    (.ofProgress (m.continueReplay token total (state, s)).1,
      (m.continueReplay token total (state, s)).2)
  := by
  cases state with
  | sending pending => exact ReflTransGen.refl
  | ended outcome => exact ReflTransGen.refl
  | between rest applied =>
      induction rest generalizing applied s with
      | nil => exact ReflTransGen.single (ReplayStep.completed applied s)
      | cons c rest ih =>
          rw [continueReplay, replayFrom_cons]
          apply ReflTransGen.head (ReplayStep.sent c rest applied s)
          rw [sendNext]
          split
          · exact ReflTransGen.refl
          · cases m.indexFor c.entity with
            | none => exact ReflTransGen.refl
            | some index =>
                simp only
                rcases s.submit (c.exchange index) token with ⟨(e | response) | wait, s₁⟩
                · exact ReflTransGen.refl
                · apply ih
                · exact ReflTransGen.refl

/-- What a replay comes to at first is reached by steps. -/
theorem beginReplay_reached (m : Mapping) (token : String) (changes : List Change) (s : Session) :
  m.Reaches token changes s (.ofProgress (m.beginReplay token changes s).1)
    (m.beginReplay token changes s).2
  := continueReplay_steps changes.length (.between changes 0) s

/-- What a replay comes to when it is resumed is reached by steps. -/
theorem Reaches.resumeReplay {pending : PendingReplay}
    (h : m.Reaches token changes s (.sending pending) s') (elapsed : Bool) :
  m.Reaches token changes s
    (.ofProgress (m.resumeReplay token changes.length pending elapsed s').1)
    (m.resumeReplay token changes.length pending elapsed s').2
  := by
  rw [resumeReplay_eq]
  apply ReflTransGen.trans (ReflTransGen.tail h (ReplayStep.resumed pending elapsed s'))
  apply continueReplay_steps

/-- A call that sends a change does not depend on the changes after it. -/
theorem receive_append (more : List Change) (c : Change) (index : String) (rest : List Change)
    (applied : Nat) (result : Progress Wait (Except QueryError WriteResponse) × Session) :
  receive c index (rest ++ more) applied result =
    ((receive c index rest applied result).1.append more, (receive c index rest applied result).2)
  := by
  rcases result with ⟨(e | response) | wait, s₁⟩ <;> rfl

/-- To send a change does not depend on the changes after it. -/
theorem sendNext_append (more : List Change) (c : Change) (rest : List Change) (applied : Nat) :
  m.sendNext token c (rest ++ more) applied s =
    ((m.sendNext token c rest applied s).1.append more, (m.sendNext token c rest applied s).2)
  := by
  rw [sendNext, sendNext]
  split
  · rfl
  · cases m.indexFor c.entity with
    | none => rfl
    | some index => apply receive_append

/-- A step after which the replay is not over is a step of the replay with more changes. -/
theorem ReplayStep.append {total : Nat} {state state' : ReplayState}
    (h : m.ReplayStep token total (state, s) (state', s')) (hended : state'.isEnded = false)
    (more : List Change) (total' : Nat) :
  m.ReplayStep token total' (state.append more, s) (state'.append more, s')
  := by
  generalize hafter : (state', s') = after at h
  cases h with
  | cancelled other state s hstate =>
      obtain ⟨rfl, rfl⟩ := Prod.mk.inj hafter
      apply ReplayStep.cancelled
      cases state' <;> exact hstate
  | sent c rest applied s =>
      have hstep : m.ReplayStep token total' (.between (c :: (rest ++ more)) applied, s) _ :=
        ReplayStep.sent c (rest ++ more) applied s
      rw [sendNext_append, ← hafter] at hstep
      exact hstep
  | resumed pending elapsed s =>
      have hstep : m.ReplayStep token total'
          (.sending { pending with rest := pending.rest ++ more }, s) _ :=
        ReplayStep.resumed { pending with rest := pending.rest ++ more } elapsed s
      rw [receive_append, ← hafter] at hstep
      exact hstep
  | completed applied s =>
      obtain ⟨rfl, rfl⟩ := Prod.mk.inj hafter
      cases hended

/-- Steps from a replay that is over lead nowhere. -/
theorem ReplayStep.not_ended {total : Nat} {before after : ReplayState × Session}
    (h : m.ReplayStep token total before after) :
  before.1.isEnded = false
  := by
  cases h with
  | cancelled other state s hstate => exact hstate
  | sent c rest applied s => rfl
  | resumed pending elapsed s => rfl
  | completed applied s => rfl

/-- While a replay is not over, it comes to where it would come to with more changes. -/
theorem Reaches.append {state : ReplayState} (h : m.Reaches token changes s state s')
    (hended : state.isEnded = false) (more : List Change) :
  m.Reaches token (changes ++ more) s (state.append more) s'
  := by
  rw [Reaches] at h
  generalize hreached : (state, s') = reached at h
  induction h generalizing state s' with
  | refl =>
      obtain ⟨rfl, rfl⟩ := Prod.mk.inj hreached
      exact ReflTransGen.refl
  | @tail middle last hsteps hstep ih =>
      subst hreached
      obtain ⟨state₁, s₁⟩ := middle
      -- A replay that takes a step had not ended before it, so the induction goes through.
      exact ReflTransGen.tail (ih hstep.not_ended rfl) (hstep.append hended more _)

end Mapping

end DocSearch
