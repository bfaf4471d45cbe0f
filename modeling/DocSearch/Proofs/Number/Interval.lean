import DocSearch.Proofs.Number.Rounding
import Mathlib.Data.Rat.Cast.Order
import Mathlib.Tactic.Linarith
import Mathlib.Tactic.Ring

/-!
# Rounding intervals

`Binary64.RoundsTo v r` says that the magnitude of rank `r` is the one nearest to `v`, and the one
with an even rank where `v` is halfway between two.  There is at most one such rank:
`Binary64.RoundsTo.rank_unique`.  The numbers that round to a rank fill an interval which is wider
than two parts in `10 ^ 16` of the magnitude: `Binary64.spacing`.
-/

namespace DocSearch.Binary64

/-- Twice the lower end of the interval that rounds to a rank, in units. -/
def twiceLower (r : Nat) : Nat := unitsOfRank r + unitsOfRank (r - 1)

/-- Twice the upper end of the interval that rounds to a rank, in units. -/
def twiceUpper (r : Nat) : Nat := unitsOfRank r + unitsOfRank (r + 1)

/-- The magnitude nearest to a number is the one of a rank.  An end of the interval belongs to the
even rank. -/
structure RoundsTo (v : ℚ) (r : Nat) : Prop where
  lower : (twiceLower r : ℚ) ≤ 2 * (v * unitsOfOne)
  upper : 2 * (v * unitsOfOne) ≤ twiceUpper r
  even_of_end : 2 * (v * unitsOfOne) = twiceLower r ∨ 2 * (v * unitsOfOne) = twiceUpper r →
    r % 2 = 0

variable {v : ℚ} {r s : Nat}

theorem twiceUpper_eq_twiceLower_succ (r : Nat) :
  twiceUpper r = twiceLower (r + 1)
  := Nat.add_comm _ _

theorem twiceLower_strictMono :
  StrictMono twiceLower
  := by
  intro r s hlt
  have hpred := unitsOfRank_strictMono.monotone (show r - 1 ≤ s - 1 by omega)
  have hself := unitsOfRank_strictMono hlt
  rw [twiceLower, twiceLower]
  omega

/-- Inside the interval the rank is the nearest one. -/
theorem RoundsTo.of_lt (hlower : (twiceLower r : ℚ) < 2 * (v * unitsOfOne))
    (hupper : 2 * (v * unitsOfOne) < twiceUpper r) :
  RoundsTo v r
  := ⟨hlower.le, hupper.le, fun h => (h.elim hlower.ne' hupper.ne).elim⟩

theorem twiceLower_lt (hr : 0 < r) :
  twiceLower r < 2 * unitsOfRank r
  := by
  have hpred := unitsOfRank_strictMono (show r - 1 < r by omega)
  rw [twiceLower]
  omega

theorem lt_twiceUpper (r : Nat) :
  2 * unitsOfRank r < twiceUpper r
  := by
  have hnext := unitsOfRank_lt_succ r
  rw [twiceUpper]
  omega

/-- A larger rank is not the nearest one. -/
theorem RoundsTo.not_lt (hr : RoundsTo v r) (hs : RoundsTo v s) :
  ¬ r < s
  := by
  intro hlt
  have hupper := hr.upper
  rw [twiceUpper_eq_twiceLower_succ] at hupper
  have hle : twiceLower s ≤ twiceLower (r + 1) := by
    exact_mod_cast hs.lower.trans hupper
  obtain rfl : s = r + 1 :=
    Nat.le_antisymm (twiceLower_strictMono.le_iff_le.mp hle) hlt
  -- The two intervals have only an end in common, which belongs to one of them.
  have hend := le_antisymm hupper hs.lower
  have heven := hs.even_of_end (Or.inl hend)
  have heven' := hr.even_of_end (Or.inr (by rw [twiceUpper_eq_twiceLower_succ, hend]))
  omega

/-- A number has at most one nearest rank. -/
theorem RoundsTo.rank_unique (hr : RoundsTo v r) (hs : RoundsTo v s) :
  r = s
  := Nat.le_antisymm (Nat.not_lt.mp (hs.not_lt hr)) (Nat.not_lt.mp (hr.not_lt hs))

/-! ### Spacing -/

/-- A rank from the first binade on is a significand in a binade. -/
theorem exists_significand (h : binadeSize ≤ r) :
  ∃ significand e, binadeSize ≤ significand ∧ significand < 2 * binadeSize ∧
    r = significand + e * binadeSize
  := by
  have hpos : 0 < binadeSize := by decide
  have hmod := Nat.mod_lt r hpos
  have hdiv : 0 < r / binadeSize := Nat.div_pos h hpos
  have hadd := Nat.mod_add_div r binadeSize
  refine ⟨binadeSize + r % binadeSize, r / binadeSize - 1, by omega, by omega, ?_⟩
  have hle := Nat.mul_le_mul_left binadeSize hdiv
  rw [Nat.sub_one_mul, Nat.mul_comm (r / binadeSize)]
  omega

/-- The magnitude with a significand in a binade, the first one of the next binade included. -/
theorem unitsOfRank_add_of_le {significand : Nat} (hlow : binadeSize ≤ significand)
    (hhigh : significand ≤ 2 * binadeSize) (e : Nat) :
  unitsOfRank (significand + e * binadeSize) = significand * 2 ^ e
  := by
  rcases Nat.lt_or_eq_of_le hhigh with hlt | rfl
  · exact unitsOfRank_add hlow hlt e
  · have hnext := unitsOfRank_add (Nat.le_refl binadeSize) (by decide) (e + 1)
    rwa [Nat.succ_mul, Nat.add_left_comm, ← Nat.two_mul, Nat.add_comm, Nat.pow_succ',
      ← Nat.mul_assoc, Nat.mul_comm binadeSize 2] at hnext

/-- Up to the first power of two a rank is its own magnitude. -/
theorem unitsOfRank_of_le_binadeSize (h : r ≤ binadeSize) :
  unitsOfRank r = r
  := by
  rcases Nat.lt_or_eq_of_le h with hlt | rfl
  · exact unitsOfRank_of_lt hlt
  · simpa using unitsOfRank_add (Nat.le_refl binadeSize) (by decide) 0

/-- The spacing below a magnitude is that of its binade, or half of it below a power of two. -/
theorem unitsOfRank_pred {significand : Nat} (hlow : binadeSize ≤ significand)
    (hhigh : significand < 2 * binadeSize) (e : Nat) :
  unitsOfRank (significand + e * binadeSize - 1) + 2 ^ e = significand * 2 ^ e ∨
    significand = binadeSize ∧
      2 * unitsOfRank (significand + e * binadeSize - 1) + 2 ^ e = 2 * (significand * 2 ^ e)
  := by
  have hpos : 0 < binadeSize := by decide
  rcases Nat.lt_or_eq_of_le hlow with hlt | rfl
  · left
    obtain ⟨pred, rfl⟩ := Nat.exists_eq_add_of_le' (Nat.zero_lt_of_lt hlt)
    rw [Nat.add_right_comm, Nat.add_sub_cancel,
      unitsOfRank_add_of_le (Nat.le_of_lt_succ hlt) (by omega), Nat.succ_mul]
  · cases e with
    | zero =>
        left
        rw [Nat.zero_mul, Nat.add_zero, unitsOfRank_of_le_binadeSize (Nat.sub_le _ _), Nat.pow_zero,
          Nat.mul_one, Nat.sub_add_cancel hpos]
    | succ e =>
        right
        refine ⟨rfl, ?_⟩
        obtain ⟨pred, hpred⟩ : ∃ pred, 2 * binadeSize = pred + 1 :=
          Nat.exists_eq_add_of_le' (by omega)
        have hrank : binadeSize + (e + 1) * binadeSize - 1 = pred + e * binadeSize := by
          rw [Nat.succ_mul]
          omega
        rw [hrank, unitsOfRank_add_of_le (by omega) (by omega), Nat.pow_succ',
          Nat.mul_left_comm binadeSize, ← Nat.mul_assoc 2 binadeSize, hpred]
        ring

/-- The interval that rounds to a rank is wider than two parts in `10 ^ 16` of the magnitude. -/
theorem spacing (hr : 0 < r) :
  2 * unitsOfRank r + 10 ^ 16 * twiceLower r < 10 ^ 16 * twiceUpper r
  := by
  rw [twiceLower, twiceUpper]
  rcases Nat.lt_or_ge r binadeSize with hsmall | hlarge
  · rw [unitsOfRank_of_le_binadeSize hsmall.le, unitsOfRank_of_le_binadeSize (by omega),
      unitsOfRank_of_le_binadeSize hsmall]
    simp only [binadeSize] at hsmall
    omega
  · obtain ⟨significand, e, hlow, hhigh, rfl⟩ := exists_significand hlarge
    have hself := unitsOfRank_add_of_le hlow hhigh.le e
    have hnext : unitsOfRank (significand + 1 + e * binadeSize) = (significand + 1) * 2 ^ e :=
      unitsOfRank_add_of_le (by omega) hhigh e
    have hpred := unitsOfRank_pred hlow hhigh e
    have hbound := Nat.mul_lt_mul_of_pos_right hhigh (Nat.two_pow_pos e)
    rw [Nat.add_right_comm, hself, hnext, Nat.add_one_mul significand]
    simp only [binadeSize] at *
    rcases hpred with hpred | ⟨hfirst, hpred⟩
    · omega
    · have hvalue : significand * 2 ^ e = 4503599627370496 * 2 ^ e := by rw [hfirst]
      linarith

end DocSearch.Binary64
