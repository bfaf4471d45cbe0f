import DocSearch.Text.Word

/-!
# Words of a text

`Text.IsRun` says which parts of a text are runs of alphanumeric characters that cannot be made
longer, and `Text.HasWord` which words a text has: its runs in lower case.  `Text.mem_words` states
that `Text.words` lists exactly these.
-/

namespace DocSearch.Text

/-- A part of a text between two others is a run: it is not empty, it has alphanumeric characters
alone, and no alphanumeric character stands next to it. -/
structure IsRunBetween (before run after : List Char) : Prop where
  nonempty : run ≠ []
  alphanumeric : ∀ c ∈ run, isAlphanumeric c = true
  starts : ∀ c ∈ before.getLast?, isAlphanumeric c = false
  ends : ∀ c ∈ after.head?, isAlphanumeric c = false

/-- A text has a run somewhere. -/
def IsRun (text run : List Char) : Prop :=
  ∃ before after, text = before ++ run ++ after ∧ IsRunBetween before run after

/-- A text has a word when the word is a run of the text in lower case. -/
def HasWord (s : String) (word : List Char) : Prop :=
  ∃ run, IsRun s.toList run ∧ lowerFrom [] run = word

variable {text rest run : List Char} {c : Char}

/-- Nothing stands before a run in a text of alphanumeric characters alone. -/
theorem IsRunBetween.before_eq_nil {before after : List Char} (h : IsRunBetween before run after)
    (hbefore : ∀ c ∈ before, isAlphanumeric c = true) :
  before = []
  := by
  cases hlast : before.getLast? with
  | none => exact List.getLast?_eq_none_iff.mp hlast
  | some c => cases (hbefore c (List.mem_of_getLast? hlast)).symm.trans (h.starts c hlast)

/-- Nothing stands after a run in a text of alphanumeric characters alone. -/
theorem IsRunBetween.after_eq_nil {before after : List Char} (h : IsRunBetween before run after)
    (hafter : ∀ c ∈ after, isAlphanumeric c = true) :
  after = []
  := by
  cases hhead : after.head? with
  | none => exact List.head?_eq_none_iff.mp hhead
  | some c => cases (hafter c (List.mem_of_head? hhead)).symm.trans (h.ends c hhead)

/-- A run does not reach over a character that is not alphanumeric. -/
theorem IsRunBetween.not_mem {before after : List Char} (h : IsRunBetween before run after)
    (hc : isAlphanumeric c = false) :
  c ∉ run
  := by
  intro hmem
  cases hc.symm.trans (h.alphanumeric c hmem)

/-- The only run of a text that has alphanumeric characters alone is the whole text, unless it is
empty. -/
theorem isRun_iff_of_alphanumeric (htext : ∀ c ∈ text, isAlphanumeric c = true) :
  IsRun text run ↔ text ≠ [] ∧ run = text
  := by
  constructor
  · rintro ⟨before, after, rfl, hrun⟩
    simp only [List.mem_append] at htext
    obtain rfl := hrun.before_eq_nil fun c hc => htext c (Or.inl (Or.inl hc))
    obtain rfl := hrun.after_eq_nil fun c hc => htext c (Or.inr hc)
    simpa using hrun.nonempty
  · rintro ⟨hne, rfl⟩
    exact ⟨[], [], by simp, hne, htext, by simp, by simp⟩

/-- A run at the start of a text reaches to the first character that is not alphanumeric. -/
theorem IsRunBetween.eq_of_append_eq {before after : List Char} (h : IsRunBetween before run after)
    (htext : ∀ d ∈ text, isAlphanumeric d = true) (hc : isAlphanumeric c = false)
    (heq : run ++ after = text ++ c :: rest) :
  run = text
  := by
  rcases List.append_eq_append_iff.mp heq with ⟨between, rfl, rfl⟩ | ⟨between, rfl, heq'⟩
  · cases between with
    | nil => exact (List.append_nil run).symm
    | cons d between =>
        have hd : isAlphanumeric d = true := htext d (by simp)
        cases hd.symm.trans (h.ends d rfl)
  · cases between with
    | nil => exact List.append_nil text
    | cons d between =>
        obtain ⟨rfl, -⟩ := List.cons.inj heq'
        cases h.not_mem hc (by simp)

/-- The last character of a text that goes on after a character is that character when nothing
follows it. -/
theorem getLast?_append_cons (before after : List Char) (c : Char) :
  (before ++ c :: after).getLast? = some (after.getLast?.getD c)
  := by
  simp [List.getLast?_cons]

/-- The runs of a text are runs of a longer text in which a character that is not alphanumeric
precedes them. -/
theorem IsRun.append_cons (h : IsRun rest run) (hc : isAlphanumeric c = false) (text : List Char) :
  IsRun (text ++ c :: rest) run
  := by
  obtain ⟨before, after, rfl, hrun⟩ := h
  refine ⟨text ++ c :: before, after, by simp, hrun.nonempty, hrun.alphanumeric, ?_, hrun.ends⟩
  rw [getLast?_append_cons]
  rintro d ⟨⟩
  cases hlast : before.getLast? with
  | none => exact hc
  | some e => exact hrun.starts e hlast

/-- The runs of a text around its first character that is not alphanumeric: what stands before it,
unless that is nothing, and the runs of what stands after it. -/
theorem isRun_append_cons_iff (htext : ∀ d ∈ text, isAlphanumeric d = true)
    (hc : isAlphanumeric c = false) :
  IsRun (text ++ c :: rest) run ↔ (text ≠ [] ∧ run = text) ∨ IsRun rest run
  := by
  constructor
  · rintro ⟨before, after, heq, hrun⟩
    rw [List.append_assoc] at heq
    -- Either all characters before the break precede the run, or the run starts among them.
    rcases List.append_eq_append_iff.mp heq with ⟨before', rfl, heq'⟩ | ⟨text', rfl, heq'⟩
    · cases before' with
      | nil =>
          obtain rfl := hrun.eq_of_append_eq (List.forall_mem_nil _) hc heq'.symm
          cases hrun.nonempty rfl
      | cons d before' =>
          right
          obtain ⟨rfl, rfl⟩ := List.cons.inj heq'
          refine ⟨before', after, by simp, hrun.nonempty, hrun.alphanumeric, ?_, hrun.ends⟩
          intro e he
          apply hrun.starts
          rw [getLast?_append_cons, Option.mem_def.mp he]
          rfl
    · left
      obtain rfl := hrun.before_eq_nil fun d hd => htext d (List.mem_append_left text' hd)
      obtain rfl := hrun.eq_of_append_eq htext hc heq'
      exact ⟨hrun.nonempty, rfl⟩
  · rintro (⟨hne, rfl⟩ | hrest)
    · refine ⟨[], c :: rest, by simp, hne, htext, by simp, ?_⟩
      rintro d ⟨⟩
      exact hc
    · exact hrest.append_cons hc text

/-- The runs that are listed are those of the text together with the characters that were read
last. -/
theorem mem_runsFrom {last : List Char} (hlast : ∀ c ∈ last, isAlphanumeric c = true) :
  run ∈ runsFrom last text ↔ IsRun (last.reverse ++ text) run
  := by
  -- The characters read last are those of a run that is still open.
  induction text generalizing last with
  | nil =>
      rw [List.append_nil, isRun_iff_of_alphanumeric (by simpa using hlast), runsFrom]
      cases last <;> simp
  | cons c rest ih =>
      rw [runsFrom]
      cases hc : isAlphanumeric c with
      | true =>
          rw [if_pos rfl, ih (List.forall_mem_cons.mpr ⟨hc, hlast⟩)]
          simp
      | false =>
          have hrest : run ∈ runsFrom [] rest ↔ IsRun rest run := ih (List.forall_mem_nil _)
          rw [isRun_append_cons_iff (by simpa using hlast) hc, ← hrest, if_neg Bool.false_ne_true]
          cases last <;> simp

/-- The words that are listed for a text are those that it has. -/
theorem mem_words {s : String} {word : List Char} :
  word ∈ words s ↔ HasWord s word
  := by
  simp only [words, List.mem_map, mem_runsFrom (List.forall_mem_nil _), HasWord, List.reverse_nil,
    List.nil_append]

/-- Two texts share a word exactly when both have it. -/
theorem shareWord_iff {s t : String} :
  shareWord s t = true ↔ ∃ word, HasWord s word ∧ HasWord t word
  := by
  simp [shareWord, mem_words]

end DocSearch.Text
