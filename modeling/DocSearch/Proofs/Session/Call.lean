import DocSearch.Proofs.Engine.Operation
import DocSearch.Provider.Search

/-!
# Calls on an engine in memory

`Session.CallOutcome` says once what a call with a token can come to when the engine is in memory;
both `Session.submit` and `Session.await` come to one of these outcomes.
-/

namespace DocSearch

namespace Session

variable {ρ : Type} {s : Session} {x : Exchange ρ} {token : String} {m : Memory}

/-- What a call with a token comes to on an engine in memory: it waits or is given up, and then
nothing has happened, or it is carried out and brings a fault or an answer. -/
inductive CallOutcome (s : Session) (x : Exchange ρ) (token : String) (m : Memory) :
    Progress Wait (Except QueryError ρ) → Session → Prop
  | waiting : CallOutcome s x token m (.waiting .slow) s
  | cancelled (hcancelled : s.isCancelled token = true) :
      CallOutcome s x token m (.finished (.error .cancelled)) s
  | faulted (fault : Fault) (hcancelled : s.isCancelled token = false)
      (hfault : (x.run m).1 = .error fault) :
      CallOutcome s x token m (.finished (.error (.fault fault)))
        { s with engine := .memory (x.run m).2 }
  | answered (answer : ρ) (hanswer : (x.run m).1 = .ok answer) :
      CallOutcome s x token m (.finished (.ok answer)) { s with engine := .memory (x.run m).2 }

/-- A call that is carried out brings the fault or the answer of the engine. -/
theorem callOutcome_conclude (hcancelled : s.isCancelled token = false) :
  s.CallOutcome x token m
    (.finished (conclude { s with engine := .memory (x.run m).2 } token (x.run m).1))
    { s with engine := .memory (x.run m).2 }
  := by
  cases hrun : (x.run m).1 with
  | error fault =>
      have hsame : isCancelled { s with engine := .memory (x.run m).2 } token = false := hcancelled
      rw [conclude, hsame]
      exact CallOutcome.faulted fault hcancelled hrun
  | ok answer => exact CallOutcome.answered answer hrun

/-- A session with an engine in memory is not changed when it gets the engine that it has. -/
theorem withEngine_eq (hengine : s.engine = .memory m) :
  { s with engine := .memory m } = s
  := by
  rw [← hengine]

/-- A call that is begun with a token that is not cancelled comes to one of its outcomes. -/
theorem submit_outcome (hengine : s.engine = .memory m) (hcancelled : s.isCancelled token = false) :
  s.CallOutcome x token m (s.submit x token).1 (s.submit x token).2
  := by
  rw [submit, begin, hengine, hcancelled]
  cases hslow : m.slow with
  | true =>
      rw [Engine.begin_of_slow hslow, if_neg Bool.false_ne_true]
      simp only [after, cancelAll]
      rw [withEngine_eq hengine]
      apply CallOutcome.waiting
  | false =>
      rw [Engine.begin_of_prompt hslow]
      exact callOutcome_conclude hcancelled

/-- An engine that is not slow does not let a call wait. -/
theorem submit_ne_waiting (hengine : s.engine = .memory m) (hslow : m.slow = false) (wait : Wait) :
  (s.submit x token).1 ≠ .waiting wait
  := by
  rw [submit, begin, hengine, Engine.begin_of_prompt hslow]
  intro h
  cases h

/-- A call that is resumed comes to one of its outcomes. -/
theorem await_outcome (hengine : s.engine = .memory m) (elapsed : Bool) :
  s.CallOutcome x token m (s.await x token .slow elapsed).1 (s.await x token .slow elapsed).2
  := by
  rw [await]
  cases hcancelled : s.isCancelled token with
  | true => exact CallOutcome.cancelled hcancelled
  | false =>
      rw [if_neg Bool.false_ne_true, resume, hengine, hcancelled]
      cases elapsed with
      | false =>
          simp only [Delay.ofFlags, Engine.resume, after, cancelAll]
          rw [withEngine_eq hengine]
          apply CallOutcome.waiting
      | true =>
          simp only [Delay.ofFlags, Engine.resume, Engine.perform, after, cancelAll]
          exact callOutcome_conclude hcancelled

end Session

end DocSearch
