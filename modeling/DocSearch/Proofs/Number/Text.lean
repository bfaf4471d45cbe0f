import DocSearch.Json.Printer
import DocSearch.Proofs.Number.Literal

/-!
# Texts of numbers

The text of a number is a number literal: of an integer one without fraction and exponent, of a
binary64 number one with either, whose magnitude rounds to that of the number.  So different numbers
have different texts: `Num.text_injective`.
-/

namespace DocSearch

open Json.Lexer (isNumberChar)
open NumberLiteral (AreDigits ReadsAs)

namespace NumberLiteral

theorem unsigned?_minus (negative : Bool) (cs : List Char) :
  unsigned? negative ('-' :: cs) = none
  := rfl

/-- A literal is read with its sign. -/
theorem ofChars?_of_unsigned? {negative : Bool} {cs : List Char} {l : NumberLiteral}
    (h : unsigned? negative cs = some l) :
  ofChars? (if negative then '-' :: cs else cs) = some l
  := by
  cases negative with
  | true => exact h
  | false =>
      rw [if_neg Bool.false_ne_true, ofChars?]
      · exact h
      · rintro rest rfl
        rw [unsigned?_minus] at h
        cases h

end NumberLiteral

/-- Characters of number literals with a sign in front of them. -/
theorem isNumberChar_of_mem_sign {negative : Bool} {cs : List Char}
    (hcs : ∀ c ∈ cs, isNumberChar c = true) {c : Char}
    (hc : c ∈ if negative then '-' :: cs else cs) :
  isNumberChar c = true
  := by
  cases negative with
  | false => exact hcs c hc
  | true =>
      rcases List.mem_cons.mp hc with rfl | hc
      · rfl
      · exact hcs c hc

/-! ### Binary64 numbers -/

namespace Binary64

/-- The magnitude of a number as it is written. -/
def magnitudeChars (x : Binary64) : List Char :=
  if x.isZero then ['0', '.', '0'] else (Decimal.shortest x.rank.val).layout

theorem text_eq (x : Binary64) :
  x.text = if x.negative then '-' :: x.magnitudeChars else x.magnitudeChars
  := rfl

/-- The magnitude of a number is read as its shortest decimal. -/
theorem readsAs_magnitudeChars (x : Binary64) :
  ReadsAs x.magnitudeChars (Decimal.shortest x.rank.val)
  := by
  rw [magnitudeChars]
  split
  case isTrue hzero =>
    rw [eq_of_beq hzero]
    change ReadsAs (NumberLiteral.literalChars ['0'] ['0'] none) ⟨0, 0⟩
    have hdigits := NumberLiteral.areDigits_replicate_zero 1
    exact NumberLiteral.readsAs_literalChars 1 hdigits (by simp) (by simp) hdigits rfl (by simp)
      (by simp)
  case isFalse hzero =>
    apply NumberLiteral.readsAs_layout
    apply Decimal.digits_shortest_pos
    exact Nat.pos_of_ne_zero fun h => hzero (beq_iff_eq.mpr h)

/-- The text of a number is a literal with a fraction or an exponent, whose magnitude rounds to that
of the number. -/
theorem exists_ofChars?_text (x : Binary64) :
  ∃ l, NumberLiteral.ofChars? x.text = some l ∧ l.negative = x.negative ∧
    RoundsTo l.magnitude x.rank.val ∧ (l.fraction ≠ [] ∨ l.exponent ≠ none)
  := by
  obtain ⟨l, hread, hnegative, hmagnitude, hpart⟩ := x.readsAs_magnitudeChars.read x.negative
  refine ⟨l, ?_, hnegative, ?_, hpart⟩
  · rw [text_eq, NumberLiteral.ofChars?_of_unsigned? hread]
  · rw [hmagnitude]
    exact Decimal.roundsTo_shortest _

/-- Different numbers have different texts. -/
theorem text_injective {x y : Binary64} (h : x.text = y.text) :
  x = y
  := by
  obtain ⟨l, hread, hnegative, hrounds, -⟩ := x.exists_ofChars?_text
  obtain ⟨l', hread', hnegative', hrounds', -⟩ := y.exists_ofChars?_text
  rw [h, hread'] at hread
  cases hread
  have hrank : x.rank = y.rank := Fin.ext (hrounds.rank_unique hrounds')
  rw [hnegative] at hnegative'
  cases x
  cases y
  exact congrArg₂ Binary64.mk hnegative' hrank

end Binary64

/-! ### Integers -/

/-- The text of an integer is the sign and the digits of its magnitude. -/
theorem intText_eq (n : Int) :
  (Num.int n).text =
    if decide (n < 0) then '-' :: Decimal.digitChars n.natAbs else Decimal.digitChars n.natAbs
  := by
  cases n <;> simp [Num.text, toString, Int.repr, Decimal.digitChars]

/-- The text of an integer is a literal without fraction and exponent. -/
theorem ofChars?_intText (n : Int) :
  NumberLiteral.ofChars? (Num.int n).text =
    some ⟨decide (n < 0), (Decimal.digitChars n.natAbs).map NumberLiteral.digit, [], none⟩
  := by
  have hlead : ∀ c cs, Decimal.digitChars n.natAbs ≠ '0' :: c :: cs := by
    intro c cs
    rcases Nat.eq_zero_or_pos n.natAbs with hzero | hpos
    · rw [hzero]
      simp [Decimal.digitChars]
    · exact NumberLiteral.head_digitChars hpos _
  have hread := NumberLiteral.unsigned?_literalChars (decide (n < 0))
    (NumberLiteral.areDigits_digitChars n.natAbs) (NumberLiteral.digitChars_ne_nil n.natAbs) hlead
    (show AreDigits [] by simp [AreDigits]) none
  rw [NumberLiteral.literalChars, NumberLiteral.fractionChars, NumberLiteral.exponentChars,
    List.append_nil, List.append_nil] at hread
  rw [intText_eq, NumberLiteral.ofChars?_of_unsigned? hread, List.map_nil]

namespace Num

/-- The text of a number has the characters of number literals. -/
theorem isNumberChar_of_mem_text {n : Num} {c : Char} (hc : c ∈ n.text) :
  isNumberChar c = true
  := by
  cases n with
  | int n =>
      rw [intText_eq] at hc
      exact isNumberChar_of_mem_sign
        (fun c => (NumberLiteral.areDigits_digitChars _).isNumberChar) hc
  | float x => exact isNumberChar_of_mem_sign x.readsAs_magnitudeChars.chars hc

theorem text_ne_nil (n : Num) :
  n.text ≠ []
  := by
  intro hnil
  have hnone : NumberLiteral.ofChars? n.text = none := by
    rw [hnil]
    rfl
  cases n with
  | int n => simp [ofChars?_intText] at hnone
  | float x =>
      obtain ⟨l, hread, -⟩ := x.exists_ofChars?_text
      rw [text, hread] at hnone
      cases hnone

/-- The text of an integer is not that of a binary64 number. -/
theorem int_text_ne (n : Int) (x : Binary64) :
  (int n).text ≠ (float x).text
  := by
  intro h
  obtain ⟨l, hread, -, -, hpart⟩ := x.exists_ofChars?_text
  rw [← text, ← h, ofChars?_intText] at hread
  cases hread
  simp at hpart

/-- Different numbers have different texts. -/
theorem text_injective {m n : Num} (h : m.text = n.text) :
  m = n
  := by
  cases m with
  | int m =>
      cases n with
      | int n =>
          have hread := ofChars?_intText m
          rw [h, ofChars?_intText n, Option.some.injEq, NumberLiteral.mk.injEq] at hread
          obtain ⟨hnegative, hdigits, -, -⟩ := hread
          have habs : n.natAbs = m.natAbs := by
            rw [← NumberLiteral.foldl_digitChars n.natAbs, hdigits, NumberLiteral.foldl_digitChars]
          rw [decide_eq_decide] at hnegative
          rw [show m = n by omega]
      | float y => cases int_text_ne m y h
  | float x =>
      cases n with
      | int n => cases int_text_ne n x h.symm
      | float y => exact congrArg float (Binary64.text_injective h)

end Num

end DocSearch
