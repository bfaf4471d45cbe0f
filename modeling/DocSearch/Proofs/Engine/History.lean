import DocSearch.Proofs.Engine.Operation

/-!
# Histories of an engine in memory

A call comes to an engine in some `Way`, in place or as one that can be cancelled, and an engine in
memory either carries it out or is left as it is: `Engine.attempt_memory`.  `Memory.Happening` is
what may happen between calls and failures that are set for them, and `Memory.after` the engine after
a history of it.  What a happening does to the counts of the calls and to the failures that are set
is said once, in `Memory.Happening.searches_perform` and the lemmas beside it.
-/

namespace DocSearch

/-! ### Ways of a call -/

/-- How a call comes to an engine: it is made in place, or it is begun, when it may be cancelled
already, or it is resumed after a delay. -/
inductive Way where
  | inPlace
  | begun (cancelled : Bool)
  | resumed (delay : Delay)

namespace Way

/-- A call is made: an engine in memory that may be slow carries it out. -/
def reaches (slow : Bool) : Way → Bool
  | inPlace => true
  | begun _ => !slow
  | resumed delay => delay == .elapsed

/-- A call that is not made in place is cancelled before a slow engine has carried it out. -/
def isCancelled : Way → Bool
  | inPlace => false
  | begun cancelled => cancelled
  | resumed delay => delay == .aborted

end Way

/-- A call comes to an engine in some way. -/
def Engine.attempt {ρ : Type} (x : Exchange ρ) :
    Way → Engine → Progress Wait (Except Fault ρ) × Option String × Engine
  | .inPlace, e =>
    let (outcome, cancels, e) := e.perform x
    (.finished outcome, cancels, e)
  | .begun cancelled, e => e.begin x cancelled
  | .resumed delay, e => e.resume x .slow delay

/-- A call that reaches an engine in memory is carried out, and any other call leaves the engine as
it is: it is given up if it is cancelled, and else it waits. -/
theorem Engine.attempt_memory {ρ : Type} (x : Exchange ρ) (way : Way) (m : Memory) :
  (Engine.memory m).attempt x way =
    if way.reaches m.slow then (.finished (x.run m).1, none, .memory (x.run m).2)
    else (if way.isCancelled then .finished (.error .aborted) else .waiting .slow, none, .memory m)
  := by
  cases way with
  | inPlace => rfl
  | begun cancelled =>
      cases hslow : m.slow with
      | false => apply Engine.begin_of_prompt hslow cancelled
      | true => apply Engine.begin_of_slow hslow cancelled
  | resumed delay => cases delay <;> rfl

namespace Memory

/-! ### Histories -/

/-- What may happen to an engine in memory: a failure is set for the next call or for the next
search, or a call comes to the engine. -/
inductive Happening where
  | failNext (fault : Fault)
  | refuseNextSearch (diagnostic : String)
  | search (way : Way) (q : SearchRequest)
  | write (way : Way) (r : WriteRequest)

namespace Happening

/-- The engine after something has happened. -/
def perform : Happening → Memory → Memory
  | failNext fault, m => m.failNext fault
  | refuseNextSearch diagnostic, m => m.refuseNextSearch diagnostic
  | search way q, m => if way.reaches m.slow then (m.search q).2 else m
  | write way r, m => if way.reaches m.slow then (m.write r).2 else m

/-- The fault that is set for the next call. -/
def fault? : Happening → Option Fault
  | failNext fault => some fault
  | _ => none

/-- The refusal that is set for the next search. -/
def diagnostic? : Happening → Option String
  | refuseNextSearch diagnostic => some diagnostic
  | _ => none

/-- A search is made. -/
def isSearch (slow : Bool) : Happening → Bool
  | search way _ => way.reaches slow
  | _ => false

/-- A write is made. -/
def isWrite (slow : Bool) : Happening → Bool
  | write way _ => way.reaches slow
  | _ => false

/-- A search or a write is made. -/
def isCall (slow : Bool) : Happening → Bool
  | search way _ | write way _ => way.reaches slow
  | _ => false

end Happening

/-- The engine after a history, in which what happened last comes first. -/
def after (m : Memory) : List Happening → Memory
  | [] => m
  | happening :: earlier => happening.perform (m.after earlier)

variable {m : Memory} {history : List Happening}

/-! ### What happens to the engine -/

namespace Happening

variable {happening : Happening}

theorem slow_perform :
  (happening.perform m).slow = m.slow
  := by
  cases happening with
  | failNext | refuseNextSearch => rfl
  | search way q =>
      rw [perform, apply_ite Memory.slow, (m.search_outcome q).slow_eq, ite_self]
  | write way r =>
      rw [perform, apply_ite Memory.slow, (m.write_outcome r).slow_eq, ite_self]

theorem rejectedIds_perform :
  (happening.perform m).rejectedIds = m.rejectedIds
  := by
  cases happening with
  | failNext | refuseNextSearch => rfl
  | search way q =>
      rw [perform, apply_ite Memory.rejectedIds, (m.search_outcome q).rejectedIds_eq, ite_self]
  | write way r =>
      rw [perform, apply_ite Memory.rejectedIds, (m.write_outcome r).rejectedIds_eq, ite_self]

/-- A search is counted when it is made, and nothing else is counted as a search. -/
theorem searches_perform :
  (happening.perform m).searches = m.searches + if happening.isSearch m.slow then 1 else 0
  := by
  cases happening with
  | failNext | refuseNextSearch => rfl
  | search way q =>
      rw [perform, apply_ite Memory.searches, (m.search_outcome q).searches_eq, isSearch]
      split <;> rfl
  | write way r =>
      rw [perform, apply_ite Memory.searches, (m.write_outcome r).searches_eq, ite_self]
      rfl

/-- A write is counted when it is made, and nothing else is counted as a write. -/
theorem writes_perform :
  (happening.perform m).writes = m.writes + if happening.isWrite m.slow then 1 else 0
  := by
  cases happening with
  | failNext | refuseNextSearch => rfl
  | search way q =>
      rw [perform, apply_ite Memory.writes, (m.search_outcome q).writes_eq, ite_self]
      rfl
  | write way r =>
      rw [perform, apply_ite Memory.writes, (m.write_outcome r).writes_eq, isWrite]
      split <;> rfl

/-- A fault is set, or it is taken by a call that is made. -/
theorem nextFault_perform :
  (happening.perform m).nextFault =
    happening.fault?.or (if happening.isCall m.slow then none else m.nextFault)
  := by
  cases happening with
  | failNext | refuseNextSearch => rfl
  | search way q =>
      rw [perform, apply_ite Memory.nextFault, (m.search_outcome q).nextFault_eq]
      rfl
  | write way r =>
      rw [perform, apply_ite Memory.nextFault, (m.write_outcome r).nextFault_eq]
      rfl

/-- A refusal is set, or it is taken by a search that is made and takes no fault. -/
theorem nextDiagnostic_perform :
  (happening.perform m).nextDiagnostic =
    happening.diagnostic?.or
      (if happening.isSearch m.slow && m.nextFault.isNone then none else m.nextDiagnostic)
  := by
  cases happening with
  | failNext | refuseNextSearch => rfl
  | search way q =>
      rw [perform, apply_ite Memory.nextDiagnostic, (m.search_outcome q).nextDiagnostic_eq,
        isSearch]
      cases way.reaches m.slow <;> rfl
  | write way r =>
      rw [perform, apply_ite Memory.nextDiagnostic, (m.write_outcome r).nextDiagnostic_eq,
        ite_self]
      rfl

end Happening

theorem slow_after :
  (m.after history).slow = m.slow
  := by
  induction history with
  | nil => rfl
  | cons happening earlier ih => rw [after, Happening.slow_perform, ih]

theorem searches_after :
  (m.after history).searches = m.searches + history.countP (Happening.isSearch m.slow)
  := by
  induction history with
  | nil => rfl
  | cons happening earlier ih =>
      rw [after, Happening.searches_perform, slow_after, ih, List.countP_cons, Nat.add_assoc]

theorem writes_after :
  (m.after history).writes = m.writes + history.countP (Happening.isWrite m.slow)
  := by
  induction history with
  | nil => rfl
  | cons happening earlier ih =>
      rw [after, Happening.writes_perform, slow_after, ih, List.countP_cons, Nat.add_assoc]

end Memory

end DocSearch
