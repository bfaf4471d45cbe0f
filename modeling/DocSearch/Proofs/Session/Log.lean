import DocSearch.Proofs.Session.Traffic

/-!
# Earlier records

Nothing that is done in a session reads the log, it only adds records at the end.  So with more
records at the beginning of the log, `Session.withEarlier`, a search comes to the same and leaves
the same session, in which these records are kept: `Session.ignoresLog_beginSearch`, and
`Session.advanceAll_withEarlier` for the turns after it.
-/

namespace DocSearch

namespace Session

variable {β ρ : Type} {s : Session} {token : String} {r : SearchRequest}
  {finish : SearchResponse → Session → Except QueryError β × Session}

/-- The session with more records at the beginning of the log. -/
def withEarlier (s : Session) (records : List LogRecord) : Session :=
  { s with log := records ++ s.log }

/-- What is done in a session does not depend on earlier records, and keeps them. -/
def IgnoresLog {γ : Type} (run : Session → γ × Session) : Prop :=
  ∀ s records, run (s.withEarlier records) = ((run s).1, (run s).2.withEarlier records)

theorem record_withEarlier (records : List LogRecord) (event : Event)
    (fields : List (String × String)) :
  (s.withEarlier records).record event fields = (s.record event fields).withEarlier records
  := by
  simp only [record, withEarlier, List.append_assoc]

theorem after_withEarlier (records : List LogRecord) (cancels : Option String) (e : Engine) :
  (s.withEarlier records).after cancels e = (s.after cancels e).withEarlier records
  := by
  cases cancels <;> rfl

/-! ### Calls -/

theorem ignoresLog_begin (x : Exchange ρ) (token : String) :
  IgnoresLog fun s => s.begin x token
  := by
  intro s records
  simp only [begin, after_withEarlier]
  rfl

theorem ignoresLog_resume (x : Exchange ρ) (token : String) (wait : Wait) (elapsed : Bool) :
  IgnoresLog fun s => s.resume x token wait elapsed
  := by
  intro s records
  simp only [resume, after_withEarlier]
  rfl

theorem ignoresLog_submit (x : Exchange ρ) (token : String) :
  IgnoresLog fun s => s.submit x token
  := by
  intro s records
  have hbegin := ignoresLog_begin x token s records
  simp only [submit, hbegin]
  rcases s.begin x token with ⟨outcome | wait, s'⟩ <;> rfl

theorem ignoresLog_await (x : Exchange ρ) (token : String) (wait : Wait) (elapsed : Bool) :
  IgnoresLog fun s => s.await x token wait elapsed
  := by
  intro s records
  have hcancelled : (s.withEarlier records).isCancelled token = s.isCancelled token := rfl
  have hresume := ignoresLog_resume x token wait elapsed s records
  simp only [await, hcancelled, hresume]
  split
  · rfl
  · rcases s.resume x token wait elapsed with ⟨outcome | wait, s'⟩ <;> rfl

/-! ### Searches -/

/-- A search goes on after a step whatever the earlier records are, when its answer is finished so.
-/
theorem proceed_withEarlier (hfinish : ∀ response, IgnoresLog (finish response))
    (step : Progress Wait (Except QueryError SearchResponse)) (records : List LogRecord) :
  proceed r finish (step, s.withEarlier records) =
    ((proceed r finish (step, s)).1, (proceed r finish (step, s)).2.withEarlier records)
  := by
  rcases step with (e | response) | wait
  · rfl
  · simp only [proceed, hfinish response s records]
  · rfl

theorem ignoresLog_beginSearch (token : String) (r : SearchRequest)
    (hfinish : ∀ response, IgnoresLog (finish response)) :
  IgnoresLog fun s => s.beginSearch token r finish
  := by
  intro s records
  have hcancelled : (s.withEarlier records).isCancelled token = s.isCancelled token := rfl
  have hsubmit := ignoresLog_submit (.search false r) token s records
  simp only [beginSearch, hcancelled, hsubmit, proceed_withEarlier hfinish]
  split <;> rfl

/-- Whatever the earlier records are, a search under way is finished alike. -/
def FinishesIgnoringLog (progress : SearchProgress β) : Prop :=
  ∀ pending, progress = .waiting pending → ∀ response, IgnoresLog (pending.finish response)

theorem finishesIgnoringLog_proceed (hfinish : ∀ response, IgnoresLog (finish response))
    (step : Progress Wait (Except QueryError SearchResponse) × Session) :
  FinishesIgnoringLog (proceed r finish step).1
  := by
  rintro pending hpending
  rcases step with ⟨(e | response) | wait, s⟩
  · cases hpending
  · cases hpending
  · obtain rfl := Progress.waiting.inj hpending
    apply hfinish

theorem finishesIgnoringLog_beginSearch (hfinish : ∀ response, IgnoresLog (finish response)) :
  FinishesIgnoringLog (s.beginSearch token r finish).1
  := by
  rw [beginSearch]
  split
  · rintro pending hpending
    cases hpending
  · apply finishesIgnoringLog_proceed hfinish

/-- A turn of a search does not depend on earlier records. -/
theorem advance_withEarlier {progress : SearchProgress β} (h : FinishesIgnoringLog progress)
    (turn : Turn) (records : List LogRecord) :
  advance token (progress, s.withEarlier records) turn =
    ((advance token (progress, s) turn).1, (advance token (progress, s) turn).2.withEarlier records)
  := by
  cases turn with
  | cancelled other => cases progress <;> rfl
  | resumed elapsed =>
      cases progress with
      | finished outcome => rfl
      | waiting pending =>
          have hawait := ignoresLog_await (.search false pending.request) token pending.wait
            elapsed s records
          simp only [advance, resumeSearch, hawait, proceed_withEarlier (h pending rfl)]

theorem FinishesIgnoringLog.advance {progress : SearchProgress β}
    (h : FinishesIgnoringLog progress) (turn : Turn) :
  FinishesIgnoringLog (advance token (progress, s) turn).1
  := by
  cases turn with
  | cancelled other => cases progress <;> exact h
  | resumed elapsed =>
      cases progress with
      | finished outcome => exact h
      | waiting pending => apply finishesIgnoringLog_proceed (h pending rfl)

/-- Turns of a search do not depend on earlier records. -/
theorem advanceAll_withEarlier {progress : SearchProgress β} (h : FinishesIgnoringLog progress)
    (turns : List Turn) (records : List LogRecord) :
  advanceAll token (progress, s.withEarlier records) turns =
    ((advanceAll token (progress, s) turns).1,
      (advanceAll token (progress, s) turns).2.withEarlier records)
  := by
  induction turns generalizing progress s with
  | nil => rfl
  | cons turn turns ih =>
      rw [advanceAll_cons, advanceAll_cons, advance_withEarlier h, ih (h.advance turn)]

end Session

end DocSearch
