import DocSearch.Proofs.Engine.FailedWrite
import DocSearch.Proofs.Engine.History

/-!
# Failures that are set for the next call

An engine in memory can be told to let the next call fail and to refuse the next search.
`Memory.FaultDue` and `Memory.DiagnosticDue` say by the history alone which failure is still to be
delivered, and `Memory.withoutFailures` leaves out of a history the failures that were set and the
calls to which they were delivered.  A call that is made comes to the failure that is due for it,
and if there is none, to what it comes to after the history without failures:
`failures_reach_next_call`.
-/

namespace DocSearch

namespace Memory

/-! ### Failures that are due -/

section Due

variable {γ : Type} {set : Happening → Option γ} {v : γ} {history : List Happening}

/-- A value was set in a history, and after that no other one was set, and nothing happened that
takes the value in view of what had happened before. -/
def Due (set : Happening → Option γ) (Takes : List Happening → Happening → Prop) (v : γ)
    (history : List Happening) : Prop :=
  ∃ later setting earlier, history = later ++ setting :: earlier ∧ set setting = some v ∧
    ∀ after happening before, later = after ++ happening :: before →
      set happening = none ∧ ¬ Takes (before ++ setting :: earlier) happening

/-- The value that is due after a history. -/
def due? (set : Happening → Option γ) (takes : List Happening → Happening → Bool) :
    List Happening → Option γ
  | [] => none
  | happening :: earlier =>
    (set happening).or (if takes earlier happening then none else due? set takes earlier)

theorem due_cons_iff {Takes : List Happening → Happening → Prop} {happening : Happening} :
  Due set Takes v (happening :: history) ↔
    set happening = some v ∨
    set happening = none ∧ ¬ Takes history happening ∧ Due set Takes v history
  := by
  constructor
  · rintro ⟨later, setting, earlier, heq, hset, hkept⟩
    cases later with
    | nil =>
        left
        rw [List.nil_append, List.cons.injEq] at heq
        rw [heq.1, hset]
    | cons last later =>
        right
        obtain ⟨rfl, rfl⟩ := List.cons.inj heq
        obtain ⟨hnone, htakes⟩ := hkept [] happening later rfl
        refine ⟨hnone, htakes, later, setting, earlier, rfl, hset, ?_⟩
        rintro after happening' before rfl
        apply hkept (happening :: after) happening' before rfl
  · rintro (hset | ⟨hnone, htakes, later, setting, earlier, rfl, hset, hkept⟩)
    · refine ⟨[], happening, history, rfl, hset, ?_⟩
      intro after happening' before heq
      cases after <;> cases heq
    · refine ⟨happening :: later, setting, earlier, rfl, hset, ?_⟩
      intro after happening' before heq
      cases after with
      | nil =>
          obtain ⟨rfl, rfl⟩ := List.cons.inj heq
          exact ⟨hnone, htakes⟩
      | cons last after =>
          obtain ⟨-, heq'⟩ := List.cons.inj heq
          apply hkept after happening' before heq'

theorem due?_eq_some_iff {takes : List Happening → Happening → Bool}
    {Takes : List Happening → Happening → Prop}
    (htakes : ∀ earlier happening, takes earlier happening = true ↔ Takes earlier happening) :
  due? set takes history = some v ↔ Due set Takes v history
  := by
  induction history with
  | nil =>
      constructor
      · intro heq
        cases heq
      · rintro ⟨later, setting, earlier, heq, -⟩
        cases later <;> cases heq
  | cons happening earlier ih =>
      rw [due?, due_cons_iff, ← htakes, ← ih]
      cases set happening with
      | some w => simp
      | none => cases takes earlier happening <;> simp

end Due

variable {m : Memory} {slow : Bool} {history : List Happening}

/-- A fault is due: it was set, and no other one since, and no call has been made since. -/
def FaultDue (slow : Bool) : Fault → List Happening → Prop :=
  Due Happening.fault? fun _ happening => happening.isCall slow = true

/-- The fault that is due. -/
def dueFault (slow : Bool) : List Happening → Option Fault :=
  due? Happening.fault? fun _ happening => happening.isCall slow

theorem dueFault_eq_some_iff {fault : Fault} :
  dueFault slow history = some fault ↔ FaultDue slow fault history
  := by
  apply due?_eq_some_iff
  intro earlier happening
  rfl

theorem dueFault_eq_none_iff :
  dueFault slow history = none ↔ ∀ fault, ¬ FaultDue slow fault history
  := by
  simp only [← dueFault_eq_some_iff, Option.eq_none_iff_forall_ne_some, ne_eq]

/-- A refusal is due: it was set, and no other one since, and every search that has been made since
was one for which a fault was due. -/
def DiagnosticDue (slow : Bool) : String → List Happening → Prop :=
  Due Happening.diagnostic? fun earlier happening =>
    happening.isSearch slow = true ∧ ∀ fault, ¬ FaultDue slow fault earlier

/-- The refusal that is due. -/
def dueDiagnostic (slow : Bool) : List Happening → Option String :=
  due? Happening.diagnostic? fun earlier happening =>
    happening.isSearch slow && (dueFault slow earlier).isNone

theorem dueDiagnostic_eq_some_iff {diagnostic : String} :
  dueDiagnostic slow history = some diagnostic ↔ DiagnosticDue slow diagnostic history
  := by
  apply due?_eq_some_iff
  intro earlier happening
  rw [Bool.and_eq_true, Option.isNone_iff_eq_none, dueFault_eq_none_iff]

theorem dueDiagnostic_eq_none_iff :
  dueDiagnostic slow history = none ↔ ∀ diagnostic, ¬ DiagnosticDue slow diagnostic history
  := by
  simp only [← dueDiagnostic_eq_some_iff, Option.eq_none_iff_forall_ne_some, ne_eq]

/-! ### Failures that are set -/

/-- After a history the fault is set that is due. -/
theorem nextFault_after (hfault : m.nextFault = none) (history : List Happening) :
  (m.after history).nextFault = dueFault m.slow history
  := by
  induction history with
  | nil => apply hfault
  | cons happening earlier ih =>
      rw [after, Happening.nextFault_perform, slow_after, ih]
      rfl

/-- After a history the refusal is set that is due. -/
theorem nextDiagnostic_after (hfault : m.nextFault = none) (hdiagnostic : m.nextDiagnostic = none)
    (history : List Happening) :
  (m.after history).nextDiagnostic = dueDiagnostic m.slow history
  := by
  induction history with
  | nil => apply hdiagnostic
  | cons happening earlier ih =>
      rw [after, Happening.nextDiagnostic_perform, slow_after, nextFault_after hfault, ih]
      rfl

/-! ### Histories without failures -/

/-- The engine with nothing set for the next calls. -/
def disarmed (m : Memory) : Memory := { m with nextFault := none, nextDiagnostic := none }

/-- A failure is set, or a call is made and one is delivered to it, when a fault and a refusal are
due. -/
def Happening.carriesFailure (slow : Bool) (fault : Option Fault) (diagnostic : Option String) :
    Happening → Bool
  | failNext _ | refuseNextSearch _ => true
  | search way _ => way.reaches slow && (fault.isSome || diagnostic.isSome)
  | write way _ => way.reaches slow && fault.isSome

/-- A history without the failures that were set and without the calls to which they were delivered.
-/
def withoutFailures (slow : Bool) : List Happening → List Happening
  | [] => []
  | happening :: earlier =>
    if happening.carriesFailure slow (dueFault slow earlier) (dueDiagnostic slow earlier) then
      withoutFailures slow earlier
    else happening :: withoutFailures slow earlier

/-- A call to which a failure is delivered leaves the indexes as they are. -/
theorem Happening.indexes_perform_of_failure {happening : Happening}
    (h : happening.carriesFailure m.slow m.nextFault m.nextDiagnostic = true) :
  (happening.perform m).indexes = m.indexes
  := by
  cases happening with
  | failNext | refuseNextSearch => rfl
  | search way q => rw [perform, apply_ite Memory.indexes, indexes_search, ite_self]
  | write way r =>
      rw [carriesFailure, Bool.and_eq_true] at h
      obtain ⟨fault, hfault⟩ := Option.isSome_iff_exists.mp h.2
      rw [perform, if_pos h.1, (WriteOutcome.faulted fault hfault).write_eq]

theorem disarmed_eq (hfault : m.nextFault = none) (hdiagnostic : m.nextDiagnostic = none) :
  m.disarmed = m
  := by
  rw [disarmed, ← hfault, ← hdiagnostic]

/-- A search for which nothing is set leaves nothing set. -/
theorem search_disarmed (hfault : m.nextFault = none) (hdiagnostic : m.nextDiagnostic = none)
    (q : SearchRequest) :
  m.disarmed.search q = ((m.search q).1, (m.search q).2.disarmed)
  := by
  have houtcome := m.search_outcome q
  have hdiagnostic' : (m.search q).2.nextDiagnostic = none := by
    rw [houtcome.nextDiagnostic_eq, hdiagnostic, ite_self]
  rw [disarmed_eq hfault hdiagnostic, disarmed_eq houtcome.nextFault_eq hdiagnostic']

/-- A write for which no fault is set does not depend on what is set for the next search. -/
theorem write_disarmed (hfault : m.nextFault = none) (r : WriteRequest) :
  m.disarmed.write r = ((m.write r).1, (m.write r).2.disarmed)
  := by
  have houtcome := m.write_outcome r
  generalize m.write r = result at houtcome
  obtain ⟨outcome, m'⟩ := result
  cases houtcome with
  | faulted fault hset => cases hfault.symm.trans hset
  | rejected _ hid => apply (WriteOutcome.rejected (m := m.disarmed) rfl hid).write_eq
  | refused reason _ hid hrefused =>
      apply (WriteOutcome.refused (m := m.disarmed) reason rfl hid hrefused).write_eq
  | done index _ hid hdone =>
      apply (WriteOutcome.done (m := m.disarmed) index rfl hid hdone).write_eq

/-- A call to which no failure is delivered does the same to an engine on which nothing is set. -/
theorem Resembles.perform_happening {plain : Memory}
    (h : Resembles (fun _ => False) plain m.disarmed) (hslow : plain.slow = m.slow)
    {happening : Happening}
    (hcarries : happening.carriesFailure m.slow m.nextFault m.nextDiagnostic = false) :
  Resembles (fun _ => False) (happening.perform plain) (happening.perform m).disarmed
  := by
  cases happening with
  | failNext | refuseNextSearch => cases hcarries
  | search way q =>
      rw [Happening.perform, Happening.perform, hslow]
      split
      case isFalse => apply h
      case isTrue hreaches =>
        rw [Happening.carriesFailure, hreaches, Bool.true_and, Bool.or_eq_false_iff,
          Option.isSome_eq_false_iff, Option.isSome_eq_false_iff, Option.isNone_iff_eq_none,
          Option.isNone_iff_eq_none] at hcarries
        have hsearch := h.search q
        rw [search_disarmed hcarries.1 hcarries.2] at hsearch
        apply hsearch
  | write way r =>
      rw [Happening.perform, Happening.perform, hslow]
      split
      case isFalse => apply h
      case isTrue hreaches =>
        rw [Happening.carriesFailure, hreaches, Bool.true_and, Option.isSome_eq_false_iff,
          Option.isNone_iff_eq_none] at hcarries
        have hwrite := (h.write r).2
        rw [write_disarmed hcarries] at hwrite
        apply hwrite

/-- After a history an engine holds the same as after the history without failures, and does the
same once nothing is set on it. -/
theorem resembles_withoutFailures (hfault : m.nextFault = none)
    (hdiagnostic : m.nextDiagnostic = none) (history : List Happening) :
  Resembles (fun _ => False) (m.after (withoutFailures m.slow history)) (m.after history).disarmed
  := by
  induction history with
  | nil => exact ⟨rfl, hfault.symm, hdiagnostic.symm, fun name => Or.inl rfl⟩
  | cons happening earlier ih =>
      have hslow : (m.after earlier).slow = m.slow := slow_after
      -- What is due is what is set, so the engine itself shows whether the happening is left out.
      rw [withoutFailures, ← nextFault_after hfault, ← nextDiagnostic_after hfault hdiagnostic,
        ← hslow]
      split
      case isTrue hcarries =>
        rw [hslow]
        constructor
        case rejectedIds => exact Happening.rejectedIds_perform.trans ih.rejectedIds
        case nextFault => apply ih.nextFault
        case nextDiagnostic => apply ih.nextDiagnostic
        case index =>
          intro name
          rw [after, disarmed, Happening.indexes_perform_of_failure hcarries]
          apply ih.index
      case isFalse hcarries =>
        rw [hslow]
        apply ih.perform_happening (slow_after.trans hslow.symm)
        apply eq_false_of_ne_true hcarries

theorem Resembles.indexes_eq {m' : Memory} (h : Resembles (fun _ => False) m m') :
  m'.indexes = m.indexes
  := by
  apply SortedMap.ext_get?
  intro name
  rcases h.index name with hsame | ⟨hfalse, -⟩
  · apply hsame
  · cases hfalse

/-! ### Calls that are made after a history -/

/-- What a search comes to that is made after a history: the fault that is due, else the refusal
that is due, and else what it comes to after the history without failures. -/
structure SearchDelivery (m : Memory) (history : List Happening) (q : SearchRequest)
    (outcome : Except Fault SearchResponse) (m' : Memory) : Prop where
  faulted : ∀ fault, outcome = .error fault ↔ FaultDue m.slow fault history
  refused : (∀ fault, ¬ FaultDue m.slow fault history) →
    ∀ diagnostic, DiagnosticDue m.slow diagnostic history → outcome = .ok (.invalid diagnostic)
  answered : (∀ fault, ¬ FaultDue m.slow fault history) →
    (∀ diagnostic, ¬ DiagnosticDue m.slow diagnostic history) →
    outcome = ((m.after (withoutFailures m.slow history)).search q).1
  indexes : m'.indexes = (m.after history).indexes

/-- What a write comes to that is made after a history: the fault that is due, which leaves the
indexes as they are, and else what it comes to after the history without failures. -/
structure WriteDelivery (m : Memory) (history : List Happening) (r : WriteRequest)
    (outcome : Except Fault WriteResponse) (m' : Memory) : Prop where
  faulted : ∀ fault, outcome = .error fault ↔ FaultDue m.slow fault history
  kept : ∀ fault, FaultDue m.slow fault history → m'.indexes = (m.after history).indexes
  answered : (∀ fault, ¬ FaultDue m.slow fault history) →
    outcome = ((m.after (withoutFailures m.slow history)).write r).1 ∧
    m'.indexes = ((m.after (withoutFailures m.slow history)).write r).2.indexes

theorem searchDelivery (hfault : m.nextFault = none) (hdiagnostic : m.nextDiagnostic = none)
    (history : List Happening) (q : SearchRequest) :
  m.SearchDelivery history q ((m.after history).search q).1 ((m.after history).search q).2
  := by
  have houtcome := (m.after history).search_outcome q
  have hset := nextFault_after hfault history
  have hset' := nextDiagnostic_after hfault hdiagnostic history
  constructor
  case faulted =>
    intro fault
    rw [houtcome.eq_error_iff, hset, dueFault_eq_some_iff]
  case refused =>
    intro hnone diagnostic hdue
    rw [← dueFault_eq_none_iff, ← hset] at hnone
    rw [← dueDiagnostic_eq_some_iff, ← hset'] at hdue
    rw [search, hnone, hdue]
  case answered =>
    intro hnone hnone'
    rw [← dueFault_eq_none_iff, ← hset] at hnone
    rw [← dueDiagnostic_eq_none_iff, ← hset'] at hnone'
    have hsame := (resembles_withoutFailures hfault hdiagnostic history).search_eq q
    rw [search_disarmed hnone hnone'] at hsame
    rcases hsame with hsame | ⟨hfalse, -⟩
    · apply hsame
    · cases hfalse
  case indexes => apply indexes_search

theorem writeDelivery (hfault : m.nextFault = none) (hdiagnostic : m.nextDiagnostic = none)
    (history : List Happening) (r : WriteRequest) :
  m.WriteDelivery history r ((m.after history).write r).1 ((m.after history).write r).2
  := by
  have houtcome := (m.after history).write_outcome r
  have hset := nextFault_after hfault history
  constructor
  case faulted =>
    intro fault
    rw [houtcome.eq_error_iff, hset, dueFault_eq_some_iff]
  case kept =>
    intro fault hdue
    rw [← dueFault_eq_some_iff, ← hset] at hdue
    rw [(WriteOutcome.faulted fault hdue).write_eq]
  case answered =>
    intro hnone
    rw [← dueFault_eq_none_iff, ← hset] at hnone
    have hsame := (resembles_withoutFailures hfault hdiagnostic history).write r
    rw [write_disarmed hnone] at hsame
    exact ⟨hsame.1, hsame.2.indexes_eq⟩

end Memory

/-- An engine in memory on which nothing is set has a history in which failures are set for the
next calls, and calls come to it in any way.  Every search and every write that is made is counted
once, and the indexes are those after the history without failures.  A call that comes next and is
not made is given up if it is cancelled and else waits, and the engine is left as it is.  A search
that is made comes to the fault that is due, else to the refusal that is due, and a write to the
fault that is due; these leave the indexes as they are.  Any other call that is made comes to what
it does after the history without failures. -/
theorem failures_reach_next_call {m : Memory} (hfault : m.nextFault = none)
    (hdiagnostic : m.nextDiagnostic = none) (history : List Memory.Happening) :
  let now := m.after history
  now.searches = m.searches + history.countP (Memory.Happening.isSearch m.slow) ∧
  now.writes = m.writes + history.countP (Memory.Happening.isWrite m.slow) ∧
  now.indexes = (m.after (Memory.withoutFailures m.slow history)).indexes ∧
  (∀ {ρ : Type} (x : Exchange ρ) (way : Way), way.reaches m.slow = false →
    (Engine.memory now).attempt x way =
      (if way.isCancelled then .finished (.error .aborted) else .waiting .slow, none,
        .memory now)) ∧
  (∀ (blocking : Bool) (q : SearchRequest) (way : Way), way.reaches m.slow = true →
    let now' := m.after (.search way q :: history)
    ∃ outcome, (Engine.memory now).attempt (.search blocking q) way =
        (.finished outcome, none, .memory now') ∧
      m.SearchDelivery history q outcome now') ∧
  ∀ (r : WriteRequest) (way : Way), way.reaches m.slow = true →
    let now' := m.after (.write way r :: history)
    ∃ outcome, (Engine.memory now).attempt (.write r) way =
        (.finished outcome, none, .memory now') ∧
      m.WriteDelivery history r outcome now'
  := by
  intro now
  have hslow : now.slow = m.slow := Memory.slow_after
  refine ⟨Memory.searches_after, Memory.writes_after, ?_, ?_, ?_, ?_⟩
  · apply (Memory.resembles_withoutFailures hfault hdiagnostic history).indexes_eq
  · intro ρ x way hreaches
    rw [Engine.attempt_memory, hslow, hreaches]
    rfl
  · intro blocking q way hreaches now'
    have hmade : now' = (now.search q).2 := if_pos (hslow ▸ hreaches)
    rw [Engine.attempt_memory, hslow, if_pos hreaches, hmade]
    exact ⟨_, rfl, Memory.searchDelivery hfault hdiagnostic history q⟩
  · intro r way hreaches now'
    have hmade : now' = (now.write r).2 := if_pos (hslow ▸ hreaches)
    rw [Engine.attempt_memory, hslow, if_pos hreaches, hmade]
    exact ⟨_, rfl, Memory.writeDelivery hfault hdiagnostic history r⟩

/-- A slow engine is told to refuse the next search and to let the next call fail, and then to let
it fail for another reason: the write that is carried out next fails for that reason, and the search
that is made after it is refused, although another one was begun in between. -/
theorem failures_reach_next_call_of_replaced :
  let m : Memory := { Memory.empty with slow := true }
  let r : WriteRequest := ⟨"docs", "1", .delete⟩
  let q := SearchRequest.ofIndex "docs"
  let settings : List Memory.Happening :=
    [.failNext (.timeout 3), .failNext (.timeout 5), .refuseNextSearch "busy"]
  let written : List Memory.Happening := .write (.resumed .elapsed) r :: settings
  let begun : List Memory.Happening := .search (.begun false) q :: written
  m.nextFault = none ∧ m.nextDiagnostic = none ∧
  (Engine.memory (m.after settings)).attempt (.write r) (.resumed .elapsed) =
    (.finished (.error (.timeout 3)), none, .memory (m.after written)) ∧
  (Engine.memory (m.after begun)).attempt (.search true q) .inPlace =
    (.finished (.ok (.invalid "busy")), none, .memory (m.after (.search .inPlace q :: begun))) ∧
  (m.after begun).searches = 0 ∧ (m.after begun).writes = 1
  := by
  intro m r q settings written begun
  obtain ⟨-, -, -, -, -, hwrites⟩ := failures_reach_next_call (m := m) rfl rfl settings
  obtain ⟨hsearched, hwritten, -, -, hsearches, -⟩ :=
    failures_reach_next_call (m := m) rfl rfl begun
  refine ⟨rfl, rfl, ?_, ?_, hsearched, hwritten⟩
  · obtain ⟨outcome, hattempt, hdelivery⟩ := hwrites r (.resumed .elapsed) rfl
    have hdue : Memory.FaultDue true (.timeout 3) settings := Memory.dueFault_eq_some_iff.mp rfl
    rw [hattempt, (hdelivery.faulted _).mpr hdue]
  · obtain ⟨outcome, hattempt, hdelivery⟩ := hsearches true q .inPlace rfl
    have hnone : ∀ fault, ¬ Memory.FaultDue true fault begun := Memory.dueFault_eq_none_iff.mp rfl
    have hdue : Memory.DiagnosticDue true "busy" begun := Memory.dueDiagnostic_eq_some_iff.mp rfl
    rw [hattempt, hdelivery.refused hnone _ hdue]

/-- A search of a slow engine that is cancelled before the time has elapsed that the engine takes
comes to an error, which is not the fault that is set for the next call, and it is not counted. -/
theorem search_given_up_is_not_made :
  let m : Memory := { Memory.empty.failNext (.timeout 5) with slow := true }
  ∃ outcome m', (Engine.memory m).begin (.search false (.ofIndex "docs")) true =
      (.finished outcome, none, .memory m') ∧
    outcome ≠ .error (.timeout 5) ∧ m'.searches ≠ m.searches + 1
  := by
  intro m
  refine ⟨.error .aborted, m, rfl, ?_, ?_⟩
  · intro heq
    cases heq
  · intro heq
    cases heq

end DocSearch
