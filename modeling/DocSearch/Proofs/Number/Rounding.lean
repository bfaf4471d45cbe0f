import DocSearch.Proofs.Number.Magnitude
import Mathlib.Algebra.Order.Ring.Nat

/-!
# Integers as binary64 numbers

The rank nearest to a magnitude of the format is its own: `Binary64.nearestRank_unitsOfRank`.  So an
integer that is the value of a binary64 number is not rounded, and neither is any integer below
`2 ^ 53`: `Binary64.value_ofInt_of_value` and `Binary64.value_ofInt_of_lt`.  An integer from
`2 ^ 53` on stays there when it is rounded: `Binary64.le_units_ofInt`.
-/

namespace DocSearch.Binary64

theorem two_pow_eq_binadeSize :
  2 ^ 52 = binadeSize
  := rfl

/-! ### Magnitudes of the format -/

section Significand

variable {significand : Nat} (hlow : binadeSize ≤ significand) (hhigh : significand < 2 * binadeSize)
  (e : Nat)

include hlow hhigh

/-- The magnitude with a significand in a binade. -/
theorem unitsOfRank_add :
  unitsOfRank (significand + e * binadeSize) = significand * 2 ^ e
  := by
  have hpos : 0 < binadeSize := by decide
  have hmod : (significand + e * binadeSize) % binadeSize = significand - binadeSize := by
    rw [Nat.add_mul_mod_self_right, Nat.mod_eq_sub_mod hlow, Nat.mod_eq_of_lt (by omega)]
  have hdiv : (significand + e * binadeSize) / binadeSize = e + 1 := by
    rw [Nat.add_mul_div_right _ _ hpos, Nat.div_eq_sub_div hpos hlow,
      Nat.div_eq_of_lt (by omega)]
    omega
  rw [unitsOfRank_of_le (by omega), hmod, hdiv, Nat.add_sub_cancel, Nat.add_sub_cancel' hlow]

/-- A magnitude with a significand in a binade is not rounded. -/
theorem nearestRank_mul :
  nearestRank (significand * 2 ^ e) 1 = significand + e * binadeSize
  := by
  have hpos : 0 < 2 ^ e := Nat.two_pow_pos e
  have hlog : (significand * 2 ^ e).log2 = e + 52 := by
    have hne : significand * 2 ^ e ≠ 0 := Nat.mul_ne_zero (by omega) hpos.ne'
    rw [Nat.log2_eq_iff hne]
    constructor
    · rw [Nat.add_comm, Nat.pow_add]
      apply Nat.mul_le_mul_right _ hlow
    · rw [show e + 52 + 1 = 53 + e by omega, Nat.pow_add]
      apply Nat.mul_lt_mul_of_pos_right hhigh hpos
  simp only [nearestRank, Nat.div_one, hlog, Nat.add_sub_cancel, Nat.shiftLeft_eq, Nat.one_mul,
    Nat.mul_div_cancel _ hpos, Nat.mul_mod_left, Nat.mul_zero, hpos, true_or, if_true]

end Significand

/-- The rank nearest to a magnitude of the format is its own. -/
theorem nearestRank_unitsOfRank (r : Nat) :
  nearestRank (unitsOfRank r) 1 = r
  := by
  have hpos : 0 < binadeSize := by decide
  rcases Nat.lt_or_ge r binadeSize with hr | hr
  · have hlog : r.log2 - 52 = 0 := by
      rcases Nat.eq_zero_or_pos r with rfl | hne
      · rfl
      · have hlt : r.log2 < 52 := (Nat.log2_lt hne.ne').mpr hr
        omega
    rw [unitsOfRank_of_lt hr]
    simp only [nearestRank, Nat.div_one, hlog, Nat.shiftLeft_zero, Nat.mod_one, Nat.mul_zero,
      Nat.zero_lt_one, true_or, if_true, Nat.zero_mul, Nat.add_zero]
  · have hmod := Nat.mod_lt r hpos
    have hdiv : 0 < r / binadeSize := Nat.div_pos hr hpos
    rw [unitsOfRank_of_le hr, nearestRank_mul (by omega) (by omega), Nat.sub_one_mul,
      Nat.mul_comm (r / binadeSize)]
    have hle := Nat.mul_le_mul_left binadeSize hdiv
    have hadd := Nat.mod_add_div r binadeSize
    omega

/-- A magnitude from the first one of a binade on is not rounded below it. -/
theorem le_nearestRank {num e : Nat} (h : unitsOfRank (binadeSize + e * binadeSize) ≤ num) :
  binadeSize + e * binadeSize ≤ nearestRank num 1
  := by
  rw [unitsOfRank_add (Nat.le_refl _) (by decide)] at h
  have hne : num ≠ 0 := by
    have hpos := Nat.mul_pos (show 0 < binadeSize by decide) (Nat.two_pow_pos e)
    omega
  have hlog : 52 + e ≤ num.log2 := by
    rw [Nat.le_log2 hne, Nat.pow_add]
    exact h
  obtain ⟨shift, hshift⟩ := Nat.exists_eq_add_of_le (Nat.le_trans (Nat.le_add_right 52 e) hlog)
  have hlow : binadeSize ≤ num / 2 ^ shift := by
    rw [Nat.le_div_iff_mul_le (Nat.two_pow_pos shift), ← two_pow_eq_binadeSize, ← Nat.pow_add,
      ← hshift]
    apply Nat.log2_self_le hne
  have hmul : e * binadeSize ≤ shift * binadeSize := Nat.mul_le_mul_right _ (by omega)
  simp only [nearestRank, Nat.div_one, hshift, Nat.add_sub_cancel_left, Nat.shiftLeft_eq,
    Nat.one_mul]
  split <;> omega

/-! ### Integers -/

/-- The magnitude of the number one. -/
def unitsOfOne : Nat := 1 <<< 1074

-- The exponents are variables here: the powers for 1074 are not to be computed.

theorem shiftLeft_eq_mul (n k : Nat) :
  n <<< k = n * 1 <<< k
  := by
  rw [Nat.shiftLeft_eq, Nat.shiftLeft_eq, Nat.one_mul]

theorem two_pow_mul_two_pow {m e k : Nat} (h : m + e = k) :
  2 ^ m * 2 ^ e = 1 <<< k
  := by
  rw [← Nat.pow_add, h, Nat.shiftLeft_eq, Nat.one_mul]

theorem unitsOfRank_binade (k : Nat) :
  unitsOfRank (binadeSize + (k + 1) * binadeSize) = 2 ^ 53 * 1 <<< k
  := by
  rw [unitsOfRank_add (Nat.le_refl _) (by decide), ← two_pow_eq_binadeSize, Nat.shiftLeft_eq,
    Nat.one_mul, ← Nat.pow_add, ← Nat.pow_add, Nat.add_left_comm, Nat.add_comm]

theorem shiftLeft_pos (k : Nat) :
  0 < 1 <<< k
  := by
  rw [Nat.shiftLeft_eq, Nat.one_mul]
  apply Nat.two_pow_pos

theorem unitsOfOne_pos :
  0 < unitsOfOne
  := shiftLeft_pos 1074

theorem shiftLeft_eq_mul_unitsOfOne (n : Nat) :
  n <<< 1074 = n * unitsOfOne
  := shiftLeft_eq_mul n 1074

/-- The magnitude of a number is that of its value. -/
theorem natAbs_value (x : Binary64) :
  x.value.natAbs = x.units
  := by
  rw [value]
  split <;> omega

/-- An integer whose magnitude is one of the format is not rounded. -/
theorem value_ofInt_of_units {n : Int} {r : Nat} (hr : r < rankCount)
    (h : unitsOfRank r = n.natAbs * unitsOfOne) :
  (ofInt n).value = n * unitsOfOne
  := by
  have hrank : nearestRank (n.natAbs * unitsOfOne) 1 = r := by rw [← h, nearestRank_unitsOfRank]
  have hround : ofInt n = ⟨decide (n < 0), ⟨r, hr⟩⟩ := by
    simp only [ofInt, round?, shiftLeft_eq_mul_unitsOfOne, hrank, hr, dif_pos, Option.getD_some]
  simp only [hround, value, units, h, Int.natCast_mul, decide_eq_true_eq]
  split
  case isTrue hn => rw [← Int.neg_mul, show -(n.natAbs : Int) = n by omega]
  case isFalse hn => rw [show (n.natAbs : Int) = n by omega]

/-- An integer that is the value of a binary64 number is not rounded. -/
theorem value_ofInt_of_value {n : Int} {x : Binary64} (h : x.value = n * unitsOfOne) :
  (ofInt n).value = n * unitsOfOne
  := by
  apply value_ofInt_of_units x.rank.isLt
  rw [← units, ← natAbs_value, h, Int.natAbs_mul, Int.natAbs_natCast]

/-- An integer below `2 ^ 53` is not rounded. -/
theorem value_ofInt_of_lt {n : Int} (h : n.natAbs < 2 ^ 53) :
  (ofInt n).value = n * unitsOfOne
  := by
  obtain hzero | hpos := Nat.eq_zero_or_pos n.natAbs
  · apply value_ofInt_of_units (r := 0) (by decide)
    rw [hzero, Nat.zero_mul, unitsOfRank_zero]
  · have hlog : n.natAbs.log2 < 53 := (Nat.log2_lt hpos.ne').mpr h
    obtain ⟨spare, hspare⟩ := Nat.exists_eq_add_of_le (Nat.le_of_lt_succ hlog)
    -- The significand is the magnitude shifted up into the binade.
    have hlow : binadeSize ≤ n.natAbs * 2 ^ spare := by
      rw [← two_pow_eq_binadeSize, hspare, Nat.pow_add]
      apply Nat.mul_le_mul_right _ (Nat.log2_self_le hpos.ne')
    have hhigh : n.natAbs * 2 ^ spare < 2 * binadeSize := by
      rw [← two_pow_eq_binadeSize, ← Nat.pow_succ', hspare, Nat.succ_eq_add_one,
        Nat.add_right_comm, Nat.pow_add]
      apply Nat.mul_lt_mul_of_pos_right Nat.lt_log2_self (Nat.two_pow_pos spare)
    have hexponent : (1074 - spare) * binadeSize ≤ 1074 * binadeSize :=
      Nat.mul_le_mul_right _ (Nat.sub_le _ _)
    apply value_ofInt_of_units (r := n.natAbs * 2 ^ spare + (1074 - spare) * binadeSize)
    · simp only [rankCount] at *
      omega
    · have hpower : 2 ^ spare * 2 ^ (1074 - spare) = unitsOfOne :=
        two_pow_mul_two_pow (Nat.add_sub_cancel' (by omega))
      rw [unitsOfRank_add hlow hhigh, Nat.mul_assoc, hpower]

/-- An integer from `2 ^ 53` on stays there when it is rounded. -/
theorem le_units_ofInt {n : Int} (h : 2 ^ 53 ≤ n.natAbs) :
  2 ^ 53 * unitsOfOne ≤ (ofInt n).units
  := by
  have hfirst : unitsOfRank (binadeSize + 1075 * binadeSize) = 2 ^ 53 * unitsOfOne :=
    unitsOfRank_binade 1074
  have hnearest : binadeSize + 1075 * binadeSize ≤ nearestRank (n.natAbs <<< 1074) 1 := by
    apply le_nearestRank
    rw [hfirst, shiftLeft_eq_mul_unitsOfOne]
    apply Nat.mul_le_mul_right _ h
  rw [← hfirst, units]
  apply unitsOfRank_strictMono.monotone
  simp only [ofInt, round?]
  split
  case isTrue hrank => exact hnearest
  case isFalse hrank =>
    simp only [Option.getD_none, largest, rankCount]
    omega

end DocSearch.Binary64
