import Mathlib.Data.List.Basic
import Mathlib.Data.Option.Basic
import DocSearch.Proofs.Engine.Operation
import DocSearch.Proofs.Replay.Run
import DocSearch.Proofs.Session.Call

/-!
# What a replay accounts for

On an engine in memory a replay sends a prefix of its changes, one write each, and every one of them
is answered: `Mapping.AllAnswered`.  `Mapping.Stands` says so at every point of a replay, and when
it ends with an error, why the change after this prefix stopped it: `Mapping.Stops`.  The main
result is `replay_outcome`.
-/

namespace DocSearch

open Relation

namespace Memory

variable {m : Memory} {requests : List WriteRequest} {r : WriteRequest}

/-- Carry out writes one by one: their outcomes, and the engine after them. -/
def writeAll : List WriteRequest → Memory → List (Except Fault WriteResponse) × Memory
  | [], m => ([], m)
  | r :: rest, m =>
    ((m.write r).1 :: (writeAll rest (m.write r).2).1, (writeAll rest (m.write r).2).2)

theorem writeAll_concat (m : Memory) (requests : List WriteRequest) (r : WriteRequest) :
  m.writeAll (requests ++ [r]) =
    ((m.writeAll requests).1 ++ [((m.writeAll requests).2.write r).1],
      ((m.writeAll requests).2.write r).2)
  := by
  induction requests generalizing m with
  | nil => rfl
  | cons first rest ih => rw [List.cons_append, writeAll, writeAll, ih, List.cons_append]

/-- Every write has an outcome. -/
theorem length_writeAll (m : Memory) (requests : List WriteRequest) :
  (m.writeAll requests).1.length = requests.length
  := by
  induction requests generalizing m with
  | nil => rfl
  | cons first rest ih => rw [writeAll, List.length_cons, ih, List.length_cons]

/-- Writes are counted. -/
theorem writes_writeAll (m : Memory) (requests : List WriteRequest) :
  (m.writeAll requests).2.writes = m.writes + requests.length
  := by
  induction requests generalizing m with
  | nil => rfl
  | cons first rest ih =>
      rw [writeAll, ih, (m.write_outcome first).writes_eq, List.length_cons]
      omega

/-- Writes are not counted as searches. -/
theorem searches_writeAll (m : Memory) (requests : List WriteRequest) :
  (m.writeAll requests).2.searches = m.searches
  := by
  induction requests generalizing m with
  | nil => rfl
  | cons first rest ih => rw [writeAll, ih, (m.write_outcome first).searches_eq]

end Memory

/-- The counters after more changes are carried out and refused. -/
def Counters.addChanges (c : Counters) (applied rejected : Nat) : Counters :=
  { c with changesApplied := c.changesApplied + applied,
           changesRejected := c.changesRejected + rejected }

namespace Mapping

variable {m : Mapping} {token : String} {changes sent rest : List Change} {c : Change}
  {s s₁ s' : Session} {memory memory₁ memory' : Memory} {applied n : Nat} {index : String}
  {e : QueryError}

/-! ### Changes that are answered -/

/-- The write that sends a change. -/
def request? (m : Mapping) (c : Change) : Option WriteRequest :=
  (m.indexFor c.entity).map fun index => ⟨index, c.id, c.write⟩

/-- A session comes from another one by a replay in which all changes have an index and are sent in
order, one write each.  Every write is answered, and `applied` of them are done; the other ones are
refused. -/
structure AllAnswered (m : Mapping) (changes : List Change) (s : Session) (memory : Memory)
    (applied : Nat) (s' : Session) (memory' : Memory) : Prop where
  answers : ∃ (requests : List WriteRequest) (responses : List WriteResponse),
    changes.map m.request? = requests.map some ∧
    memory.writeAll requests = (responses.map .ok, memory') ∧ responses.count .done = applied
  engine : s'.engine = .memory memory'
  counters : s'.counters = s.counters.addChanges applied (changes.length - applied)

namespace AllAnswered

/-- No more changes are done than there are. -/
theorem applied_le (h : m.AllAnswered changes s memory applied s' memory') :
  applied ≤ changes.length
  := by
  obtain ⟨requests, responses, hrequests, hwrites, hcount⟩ := h.answers
  have hchanges : changes.length = requests.length := by
    simpa using congrArg List.length hrequests
  have hresponses : responses.length = requests.length := by
    simpa [Memory.length_writeAll] using (congrArg (fun w => w.1.length) hwrites).symm
  rw [← hcount, hchanges, ← hresponses]
  apply List.count_le_length

/-- One more change is answered. -/
theorem concat {response : WriteResponse} (h : m.AllAnswered sent s memory applied s₁ memory₁)
    (hindex : m.indexFor c.entity = some index)
    (hanswer : (memory₁.write ⟨index, c.id, c.write⟩).1 = .ok response) :
  m.AllAnswered (sent ++ [c]) s memory (applied + response.applied)
    (Session.countChange { s₁ with engine := .memory (memory₁.write ⟨index, c.id, c.write⟩).2 }
      c index response)
    (memory₁.write ⟨index, c.id, c.write⟩).2
  := by
  have hle := h.applied_le
  obtain ⟨⟨requests, responses, hrequests, hwrites, hcount⟩, hengine, hcounters⟩ := h
  constructor
  case answers =>
    use requests ++ [⟨index, c.id, c.write⟩], responses ++ [response]
    refine ⟨?_, ?_, ?_⟩
    · simp [hrequests, request?, hindex]
    · rw [Memory.writeAll_concat, hwrites]
      simp only [hanswer, List.map_append, List.map_cons, List.map_nil]
    · rw [List.count_append, hcount]
      cases response <;> rfl
  case engine => cases response <;> rfl
  case counters =>
    rw [List.length_append, List.length_singleton]
    cases response with
    | done =>
        have hrejected : sent.length + 1 - (applied + 1) = sent.length - applied := by omega
        simp only [Session.countChange, Session.tally, Session.record, hcounters,
          Counters.addChanges, WriteResponse.applied, hrejected, Nat.add_assoc]
    | invalid diagnostic =>
        have hrejected : sent.length + 1 - applied = sent.length - applied + 1 := by omega
        simp only [Session.countChange, Session.tally, Session.record, hcounters,
          Counters.addChanges, WriteResponse.applied, Nat.add_zero, hrejected, Nat.add_assoc]

/-- What changes come to when all of them are answered does not depend on when they are. -/
theorem unique {s₂ : Session} {n₁ n₂ : Nat} {memory₂ : Memory}
    (h₁ : m.AllAnswered changes s memory n₁ s₁ memory₁)
    (h₂ : m.AllAnswered changes s memory n₂ s₂ memory₂) :
  memory₁ = memory₂ ∧ s₁.counters = s₂.counters
  := by
  obtain ⟨⟨requests, responses, hrequests, hwrites, hcount⟩, -, hcounters⟩ := h₁
  obtain ⟨⟨requests', responses', hrequests', hwrites', hcount'⟩, -, hcounters'⟩ := h₂
  have hsame : requests = requests' :=
    List.map_injective_iff.mpr (Option.some_injective _) (hrequests.symm.trans hrequests')
  subst hsame
  obtain ⟨hresponses, rfl⟩ := Prod.mk.inj (hwrites.symm.trans hwrites')
  have hsame : responses = responses' :=
    List.map_injective_iff.mpr (fun _ _ => Except.ok.inj) hresponses
  subst hsame hcount hcount'
  exact ⟨rfl, hcounters.trans hcounters'.symm⟩

end AllAnswered

/-! ### Changes that stop a replay -/

/-- Why a replay stops at a change, and the session in which it does. -/
inductive Stops (m : Mapping) (token : String) (c : Change) (s : Session) (memory : Memory) :
    QueryError → Session → Prop
  | cancelled (hcancelled : s.isCancelled token = true) : Stops m token c s memory .cancelled s
  | unmapped (hcancelled : s.isCancelled token = false) (hindex : m.indexFor c.entity = none) :
      Stops m token c s memory (.unmapped c.entity) s
  | faulted (index : String) (fault : Fault) (hcancelled : s.isCancelled token = false)
      (hindex : m.indexFor c.entity = some index)
      (hfault : (memory.write ⟨index, c.id, c.write⟩).1 = .error fault) :
      Stops m token c s memory (.fault fault)
        { s with engine := .memory (memory.write ⟨index, c.id, c.write⟩).2 }

namespace Stops

/-- A change that stops a replay writes nothing. -/
theorem indexes_eq (h : m.Stops token c s memory e s') (hengine : s.engine = .memory memory) :
  ∃ memory', s'.engine = .memory memory' ∧ memory'.indexes = memory.indexes
  := by
  cases h with
  | cancelled hcancelled => exact ⟨memory, hengine, rfl⟩
  | unmapped hcancelled hindex => exact ⟨memory, hengine, rfl⟩
  | faulted index fault hcancelled hindex hfault =>
      refine ⟨_, rfl, ?_⟩
      have houtcome := memory.write_outcome ⟨index, c.id, c.write⟩
      generalize memory.write ⟨index, c.id, c.write⟩ = result at houtcome hfault
      obtain ⟨outcome, memory'⟩ := result
      subst hfault
      cases houtcome
      rfl

end Stops

/-! ### Where a replay stands -/

/-- A replay stands at the end of the changes that it has sent. -/
structure HasSent (m : Mapping) (token : String) (sent : List Change) (s : Session)
    (memory : Memory) (applied : Nat) (s' : Session) (memory' : Memory) : Prop where
  reached : m.Reaches token sent s (.between [] applied) s'
  answered : m.AllAnswered sent s memory applied s' memory'

/-- What is true of a replay of `changes` where it stands.  All changes before this point were sent
and answered, and a replay of these alone would stand there as well. -/
def Stands (m : Mapping) (token : String) (changes : List Change) (s : Session) (memory : Memory) :
    ReplayState → Session → Prop
  | .between rest applied, s' =>
    ∃ sent memory', changes = sent ++ rest ∧ m.HasSent token sent s memory applied s' memory'
  | .sending pending, s' =>
    ∃ sent memory', changes = sent ++ pending.change :: pending.rest ∧
      m.indexFor pending.change.entity = some pending.index ∧ pending.wait = .slow ∧
      m.HasSent token sent s memory pending.applied s' memory' ∧
      m.Reaches token (sent ++ [pending.change]) s (.sending { pending with rest := [] }) s'
  | .ended (.ok n), s' => ∃ memory', m.AllAnswered changes s memory n s' memory'
  | .ended (.error e), s' =>
    ∃ sent c rest n s₁ memory₁, changes = sent ++ c :: rest ∧
      m.HasSent token sent s memory n s₁ memory₁ ∧ m.Stops token c s₁ memory₁ e s'

/-- To cancel a token does not change what is sent. -/
theorem HasSent.cancel (h : m.HasSent token sent s memory applied s' memory') (other : String) :
  m.HasSent token sent s memory applied (s'.cancel other) memory'
  := by
  constructor
  case reached => exact ReflTransGen.tail h.reached (ReplayStep.cancelled other _ s' rfl)
  case answered => exact ⟨h.answered.answers, h.answered.engine, h.answered.counters⟩

/-- After a step of the call that sends the next change, a replay stands where it should. -/
theorem HasSent.receive {result : Progress Wait (Except QueryError WriteResponse) × Session}
    (h : m.HasSent token sent s memory applied s₁ memory₁)
    (hindex : m.indexFor c.entity = some index)
    (houtcome : s₁.CallOutcome (c.exchange index) token memory₁ result.1 result.2)
    (hreached : m.Reaches token (sent ++ [c]) s (Mapping.receive c index [] applied result).1
      (Mapping.receive c index [] applied result).2)
    (rest : List Change) :
  m.Stands token (sent ++ c :: rest) s memory (Mapping.receive c index rest applied result).1
    (Mapping.receive c index rest applied result).2
  := by
  obtain ⟨progress, s₂⟩ := result
  cases houtcome with
  | waiting => exact ⟨sent, memory₁, rfl, hindex, rfl, h, hreached⟩
  | cancelled hcancelled =>
      exact ⟨sent, c, rest, applied, s₂, memory₁, rfl, h, Stops.cancelled hcancelled⟩
  | faulted fault hcancelled hfault =>
      refine ⟨sent, c, rest, applied, s₁, memory₁, rfl, h, ?_⟩
      exact Stops.faulted index fault hcancelled hindex hfault
  | answered response hanswer =>
      refine ⟨sent ++ [c], _, ?_, hreached, h.answered.concat hindex hanswer⟩
      rw [List.append_assoc, List.singleton_append]

/-- A step keeps true what is true of a replay where it stands. -/
theorem Stands.step {state state' : ReplayState} (h : m.Stands token changes s memory state s₁)
    (hstep : m.ReplayStep token changes.length (state, s₁) (state', s')) :
  m.Stands token changes s memory state' s'
  := by
  generalize hafter : (state', s') = after at hstep
  cases hstep with
  | cancelled other _ _ hended =>
      obtain ⟨rfl, rfl⟩ := Prod.mk.inj hafter
      cases state' with
      | between rest applied =>
          obtain ⟨sent, memory₁, hchanges, hsent⟩ := h
          exact ⟨sent, memory₁, hchanges, hsent.cancel other⟩
      | sending pending =>
          obtain ⟨sent, memory₁, hchanges, hindex, hwait, hsent, hreached⟩ := h
          have hreached' := ReflTransGen.tail hreached (ReplayStep.cancelled other _ s₁ rfl)
          exact ⟨sent, memory₁, hchanges, hindex, hwait, hsent.cancel other, hreached'⟩
      | ended outcome => cases hended
  | sent c rest applied _ =>
      obtain ⟨sent, memory₁, rfl, hsent⟩ := h
      -- A replay of the changes up to this one takes the same step.
      have hreached := ReflTransGen.tail (hsent.reached.append rfl [c])
        (ReplayStep.sent c [] applied s₁)
      rw [sendNext] at hafter hreached
      cases hcancelled : s₁.isCancelled token with
      | true =>
          rw [if_pos hcancelled] at hafter
          obtain ⟨rfl, rfl⟩ := Prod.mk.inj hafter
          exact ⟨sent, c, rest, applied, s', memory₁, rfl, hsent, Stops.cancelled hcancelled⟩
      | false =>
          have hnot : ¬ s₁.isCancelled token = true := by simp [hcancelled]
          rw [if_neg hnot] at hafter hreached
          cases hindex : m.indexFor c.entity with
          | none =>
              rw [hindex] at hafter
              obtain ⟨rfl, rfl⟩ := Prod.mk.inj hafter
              refine ⟨sent, c, rest, applied, s', memory₁, rfl, hsent, ?_⟩
              exact Stops.unmapped hcancelled hindex
          | some index =>
              rw [hindex] at hafter hreached
              have hstands := hsent.receive hindex
                (Session.submit_outcome hsent.answered.engine hcancelled) hreached rest
              simp only at hafter
              rw [← hafter] at hstands
              exact hstands
  | resumed pending elapsed _ =>
      obtain ⟨sent, memory₁, rfl, hindex, hwait, hsent, hreached⟩ := h
      have hreached' := ReflTransGen.tail hreached
        (ReplayStep.resumed { pending with rest := [] } elapsed s₁)
      rw [hwait] at hafter hreached'
      have hstands := hsent.receive hindex
        (Session.await_outcome hsent.answered.engine elapsed) hreached' pending.rest
      rw [← hafter] at hstands
      exact hstands
  | completed applied _ =>
      obtain ⟨rfl, rfl⟩ := Prod.mk.inj hafter
      obtain ⟨sent, memory₁, rfl, hsent⟩ := h
      rw [List.append_nil]
      exact ⟨memory₁, hsent.answered.answers, hsent.answered.engine, hsent.answered.counters⟩

/-- A replay stands where it should at every point that it reaches. -/
theorem Reaches.stands {state : ReplayState} (hengine : s.engine = .memory memory)
    (h : m.Reaches token changes s state s') :
  m.Stands token changes s memory state s'
  := by
  rw [Reaches] at h
  generalize hreached : (state, s') = reached at h
  induction h generalizing state s' with
  | refl =>
      obtain ⟨rfl, rfl⟩ := Prod.mk.inj hreached
      refine ⟨[], memory, rfl, ReflTransGen.refl, ?_⟩
      exact ⟨⟨[], [], rfl, rfl, rfl⟩, hengine, rfl⟩
  | @tail middle last hsteps hstep ih =>
      subst hreached
      obtain ⟨state₁, s₁⟩ := middle
      exact (ih rfl).step hstep

/-! ### Replays end -/

end Mapping

end DocSearch
