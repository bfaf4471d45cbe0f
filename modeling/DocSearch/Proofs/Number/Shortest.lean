import DocSearch.Number.Decimal
import DocSearch.Proofs.Number.Interval

/-!
# Shortest decimals read back

The decimal that is written for a magnitude rounds to the rank of the magnitude:
`Decimal.roundsTo_shortest`.  Every decimal found on a grid does, and seventeen digits always
suffice for one to be found, as the grid is then finer than the rounding interval.
-/

namespace DocSearch.Decimal

open Binary64 (RoundsTo twiceLower twiceUpper unitsOfOne unitsOfRank)

/-- The value of a decimal. -/
def value (d : Decimal) : ℚ := d.digits * 10 ^ d.exponent

theorem powerOfTen_eq (n : Nat) :
  powerOfTen n = 10 ^ n
  := rfl

theorem powerOfTen_pos (n : Nat) :
  0 < powerOfTen n
  := Nat.pow_pos (by decide)

theorem length_digitChars_pos (n : Nat) :
  0 < (digitChars n).length
  := Nat.length_toDigits_pos

/-! ### Grids -/

/-- Twice the distance of two multiples of `10 ^ place`, over the common denominator. -/
def gridStep (place : Int) : Nat := powerOfTen place.toNat <<< 1075

/-- The common denominator of a grid. -/
def gridScale (place : Int) : Nat := powerOfTen (-place).toNat

/-- A multiple of `10 ^ place` reads back as the number of a rank. -/
def readsBack (r : Nat) (place : Int) (d : Nat) : Bool :=
  if r % 2 = 0 then
    twiceLower r * gridScale place ≤ d * gridStep place &&
      d * gridStep place ≤ twiceUpper r * gridScale place
  else
    twiceLower r * gridScale place < d * gridStep place &&
      d * gridStep place < twiceUpper r * gridScale place

/-- The last multiple of `10 ^ place` up to the magnitude of a rank. -/
def gridFloor (r : Nat) (place : Int) : Nat :=
  2 * unitsOfRank r * gridScale place / gridStep place

theorem ten_zpow_pos (n : Int) :
  (0 : ℚ) < 10 ^ n
  := zpow_pos (by norm_num) n

theorem gridScale_pos (place : Int) :
  0 < gridScale place
  := powerOfTen_pos _

theorem shiftLeft_succ_eq (n k : Nat) :
  n <<< (k + 1) = n * (2 * 1 <<< k)
  := by
  rw [Nat.shiftLeft_eq, Nat.shiftLeft_eq, Nat.one_mul, Nat.pow_succ']

theorem gridStep_eq (place : Int) :
  (gridStep place : ℚ) = gridScale place * (2 * (10 ^ place * unitsOfOne))
  := by
  have hten : (10 : ℚ) ^ place.toNat = 10 ^ (-place).toNat * 10 ^ place := by
    rw [← zpow_natCast, ← zpow_natCast, ← zpow_add₀ (by norm_num)]
    congr 1
    omega
  have hstep : gridStep place = 10 ^ place.toNat * (2 * unitsOfOne) := shiftLeft_succ_eq _ 1074
  rw [hstep, gridScale, powerOfTen_eq]
  push_cast
  rw [hten]
  ring

/-- A multiple over the common denominator is twice its value. -/
theorem mul_gridStep (d : Nat) (place : Int) :
  ((d * gridStep place : Nat) : ℚ) = 2 * (value ⟨d, place⟩ * unitsOfOne) * gridScale place
  := by
  rw [Nat.cast_mul, gridStep_eq, value]
  ring

/-- The multiples that read back are those that round to the rank. -/
theorem readsBack_iff {r d : Nat} {place : Int} :
  readsBack r place d = true ↔ RoundsTo (value ⟨d, place⟩) r
  := by
  have hpos : (0 : ℚ) < gridScale place := by exact_mod_cast gridScale_pos place
  have hle (a : Nat) : a * gridScale place ≤ d * gridStep place ↔
      (a : ℚ) ≤ 2 * (value ⟨d, place⟩ * unitsOfOne) := by
    rw [← Nat.cast_le (α := ℚ), mul_gridStep, Nat.cast_mul, mul_le_mul_iff_of_pos_right hpos]
  have hge (a : Nat) : d * gridStep place ≤ a * gridScale place ↔
      2 * (value ⟨d, place⟩ * unitsOfOne) ≤ (a : ℚ) := by
    rw [← Nat.cast_le (α := ℚ), mul_gridStep, Nat.cast_mul, mul_le_mul_iff_of_pos_right hpos]
  rw [readsBack]
  split
  case isTrue heven =>
    rw [Bool.and_eq_true, decide_eq_true_eq, decide_eq_true_eq, hle, hge]
    exact ⟨fun h => ⟨h.1, h.2, fun _ => heven⟩, fun h => ⟨h.lower, h.upper⟩⟩
  case isFalse hodd =>
    rw [Bool.and_eq_true, decide_eq_true_eq, decide_eq_true_eq, ← Nat.not_le, hge, ← Nat.not_le,
      hle, not_le, not_le]
    constructor
    · rintro ⟨hlower, hupper⟩
      refine ⟨hlower.le, hupper.le, ?_⟩
      rintro (hend | hend)
      · exact absurd hend hlower.ne'
      · exact absurd hend hupper.ne
    · intro h
      refine ⟨lt_of_le_of_ne h.lower ?_, lt_of_le_of_ne h.upper ?_⟩
      · exact fun hend => hodd (h.even_of_end (Or.inl hend.symm))
      · exact fun hend => hodd (h.even_of_end (Or.inr hend))

/-- The search on a grid tries the two multiples around the magnitude, in some order. -/
theorem exists_onGrid?_eq (r : Nat) (place : Int) :
  ∃ first second,
    (first = gridFloor r place ∧ second = gridFloor r place + 1 ∨
      first = gridFloor r place + 1 ∧ second = gridFloor r place) ∧
    onGrid? r place = if readsBack r place first then some first
      else if readsBack r place second then some second else none
  := by
  unfold onGrid?
  extract_lets units above below step scale reads target low excess lowFirst
  cases lowFirst with
  | true => exact ⟨low, low + 1, Or.inl ⟨rfl, rfl⟩, rfl⟩
  | false => exact ⟨low + 1, low, Or.inr ⟨rfl, rfl⟩, rfl⟩

/-- What is found on a grid rounds to the rank. -/
theorem roundsTo_of_onGrid? {r d : Nat} {place : Int} (h : onGrid? r place = some d) :
  RoundsTo (value ⟨d, place⟩) r
  := by
  obtain ⟨first, second, -, heq⟩ := exists_onGrid?_eq r place
  rw [heq] at h
  rw [← readsBack_iff]
  split at h
  case isTrue hfirst => exact Option.some.inj h ▸ hfirst
  case isFalse =>
    split at h
    case isTrue hsecond => exact Option.some.inj h ▸ hsecond
    case isFalse => cases h

/-- Something is found on a grid when one of the two multiples around the magnitude reads back. -/
theorem exists_onGrid?_of_readsBack {r : Nat} {place : Int}
    (h : readsBack r place (gridFloor r place) = true ∨
      readsBack r place (gridFloor r place + 1) = true) :
  ∃ d, onGrid? r place = some d
  := by
  obtain ⟨first, second, horder, heq⟩ := exists_onGrid?_eq r place
  rw [heq]
  split
  case isTrue => exact ⟨_, rfl⟩
  case isFalse hfirst =>
    have hsecond : readsBack r place second = true := by
      rcases horder with ⟨rfl, rfl⟩ | ⟨rfl, rfl⟩
      · exact h.resolve_left hfirst
      · exact h.resolve_right hfirst
    exact ⟨_, if_pos hsecond⟩

theorem value_succ (d : Nat) (place : Int) :
  value ⟨d + 1, place⟩ = value ⟨d, place⟩ + 10 ^ place
  := by
  simp only [value]
  push_cast
  ring

/-- The magnitude of a rank stands between the two multiples around it. -/
theorem gridFloor_spec (r : Nat) (place : Int) :
  value ⟨gridFloor r place, place⟩ * unitsOfOne ≤ unitsOfRank r ∧
    (unitsOfRank r : ℚ) < value ⟨gridFloor r place + 1, place⟩ * unitsOfOne
  := by
  have hscale : (0 : ℚ) < gridScale place := by exact_mod_cast gridScale_pos place
  have hone : (0 : ℚ) < unitsOfOne := by exact_mod_cast Binary64.unitsOfOne_pos
  have hstep : 0 < gridStep place := by
    have hpos := mul_pos hscale (mul_pos two_pos (mul_pos (ten_zpow_pos place) hone))
    rw [← gridStep_eq] at hpos
    exact_mod_cast hpos
  have hbelow : gridFloor r place * gridStep place ≤ 2 * unitsOfRank r * gridScale place :=
    Nat.div_mul_le_self _ _
  have habove : 2 * unitsOfRank r * gridScale place < (gridFloor r place + 1) * gridStep place :=
    (Nat.div_lt_iff_lt_mul hstep).mp (Nat.lt_succ_self _)
  rw [← Nat.cast_le (α := ℚ), mul_gridStep, Nat.cast_mul, mul_le_mul_iff_of_pos_right hscale,
    Nat.cast_mul] at hbelow
  rw [← Nat.cast_lt (α := ℚ), mul_gridStep, Nat.cast_mul, mul_lt_mul_iff_of_pos_right hscale,
    Nat.cast_mul] at habove
  push_cast at hbelow habove
  exact ⟨by linarith, by linarith⟩

/-- On a grid that is finer than the rounding interval something is found. -/
theorem exists_onGrid? {r : Nat} {place : Int} (hr : 0 < r)
    (hfine : (twiceLower r : ℚ) + 2 * (10 ^ place * unitsOfOne) < twiceUpper r) :
  ∃ d, onGrid? r place = some d
  := by
  obtain ⟨hbelow, habove⟩ := gridFloor_spec r place
  have hlower : (twiceLower r : ℚ) < 2 * unitsOfRank r := by
    exact_mod_cast Binary64.twiceLower_lt hr
  have hupper : (2 * unitsOfRank r : ℚ) < twiceUpper r := by
    exact_mod_cast Binary64.lt_twiceUpper r
  apply exists_onGrid?_of_readsBack
  rw [readsBack_iff, readsBack_iff]
  rcases lt_or_ge (twiceLower r : ℚ) (2 * (value ⟨gridFloor r place, place⟩ * unitsOfOne))
    with hinside | houtside
  · left
    exact RoundsTo.of_lt hinside (by linarith)
  · -- The lower multiple is outside, so the upper one is less than a step away from the lower end.
    right
    apply RoundsTo.of_lt (by linarith)
    rw [value_succ]
    linarith

/-! ### Digits -/

/-- A positive number has at least the power of ten of its leading digit. -/
theorem pow_length_digitChars_le {n : Nat} (hn : 0 < n) :
  10 ^ ((digitChars n).length - 1) ≤ n
  := by
  rcases Nat.eq_zero_or_pos ((digitChars n).length - 1) with hzero | hpos
  · rw [hzero]
    exact hn
  · rw [← Nat.not_lt, ← Nat.length_toDigits_le_iff (by decide) hpos]
    rw [digitChars] at hpos ⊢
    omega

theorem ten_zpow_sub_mul {length k : Nat} {n : Int} (h : 0 < length) (hn : n = k + 1) :
  (10 : ℚ) ^ (length - n) * powerOfTen k = (10 ^ (length - 1) : Nat)
  := by
  rw [powerOfTen_eq, Nat.cast_pow, Nat.cast_pow, Nat.cast_ofNat, ← zpow_natCast, ← zpow_natCast,
    ← zpow_add₀ (by norm_num)]
  congr 1
  omega

/-- A magnitude is at least the power of ten of its leading digit. -/
theorem pow_leadingExponent_le {units : Nat} (h : 0 < units) :
  10 ^ leadingExponent units * (unitsOfOne : ℚ) ≤ units
  := by
  have hten : (0 : ℚ) < powerOfTen 324 := by exact_mod_cast powerOfTen_pos 324
  obtain ⟨quotient, hquotient⟩ : ∃ n, n = units * powerOfTen 324 / unitsOfOne := ⟨_, rfl⟩
  have hlead : leadingExponent units = ((digitChars quotient).length : Int) - 325 := by
    rw [hquotient, leadingExponent, Nat.shiftRight_eq_div_pow, unitsOfOne, Nat.one_shiftLeft]
  have hpos : 0 < quotient := by
    rw [hquotient]
    apply Nat.div_pos _ Binary64.unitsOfOne_pos
    apply Nat.le_trans (show unitsOfOne ≤ powerOfTen 324 by decide +kernel)
    exact Nat.le_mul_of_pos_left _ h
  have hle : 10 ^ ((digitChars quotient).length - 1) * unitsOfOne ≤ units * powerOfTen 324 := by
    apply (Nat.mul_le_mul_right _ (pow_length_digitChars_le hpos)).trans
    rw [hquotient]
    exact Nat.div_mul_le_self _ _
  rw [← mul_le_mul_iff_of_pos_right hten, mul_right_comm, hlead,
    ten_zpow_sub_mul (length_digitChars_pos quotient) (by norm_num)]
  exact_mod_cast hle

/-- Trailing zeros are taken away without a change of the value. -/
theorem value_stripZeros (fuel : Nat) (d : Decimal) :
  (stripZeros fuel d).value = d.value
  := by
  induction fuel generalizing d with
  | zero => rfl
  | succ fuel ih =>
      rw [stripZeros]
      split
      case isTrue hzero =>
        obtain ⟨digits, hdigits⟩ := Nat.dvd_of_mod_eq_zero hzero.1
        rw [ih, value, value, hdigits, Nat.mul_div_cancel_left _ (by decide),
          zpow_add_one₀ (by norm_num)]
        push_cast
        ring
      case isFalse => rfl

/-- The decimal that is written for a magnitude rounds to its rank. -/
theorem roundsTo_shortest (r : Nat) :
  RoundsTo (shortest r).value r
  := by
  rcases Nat.eq_zero_or_pos r with rfl | hr
  · have hzero : (shortest 0).value = 0 := by simp [shortest, value]
    rw [hzero]
    exact ⟨by simp [twiceLower, Binary64.unitsOfRank_zero], by simp, fun _ => rfl⟩
  have hunits : 0 < unitsOfRank r := by
    simpa [Binary64.unitsOfRank_zero] using Binary64.unitsOfRank_strictMono hr
  obtain ⟨lead, hlead⟩ : ∃ n, n = leadingExponent (unitsOfRank r) := ⟨_, rfl⟩
  -- The seventeenth digit makes the grid finer than the interval.
  obtain ⟨last, hlast⟩ : ∃ d, onGrid? r (lead - 16) = some d := by
    apply exists_onGrid? hr
    have hleading := pow_leadingExponent_le hunits
    have hspacing : (2 * unitsOfRank r + 10 ^ 16 * twiceLower r : ℚ) < 10 ^ 16 * twiceUpper r := by
      exact_mod_cast Binary64.spacing hr
    rw [← hlead] at hleading
    rw [zpow_sub₀ (by norm_num)]
    norm_num at hspacing ⊢
    linarith
  rw [shortest, if_neg hr.ne', value_stripZeros, ← hlead]
  cases hfound : (List.range 17).findSome? fun (more : Nat) =>
      (onGrid? r (lead - more)).map fun d => (⟨d, lead - more⟩ : Decimal) with
  | none =>
      have hnone := List.findSome?_eq_none_iff.mp hfound 16 (by decide)
      rw [show lead - (16 : Nat) = lead - 16 from rfl, hlast] at hnone
      cases hnone
  | some d =>
      obtain ⟨more, -, hmore⟩ := List.exists_of_findSome?_eq_some hfound
      obtain ⟨digits, hdigits, rfl⟩ := Option.map_eq_some_iff.mp hmore
      exact roundsTo_of_onGrid? hdigits

/-- The decimal that is written for a positive magnitude is positive. -/
theorem digits_shortest_pos {r : Nat} (hr : 0 < r) :
  0 < (shortest r).digits
  := by
  have hlower := (roundsTo_shortest r).lower
  have hunits := Binary64.unitsOfRank_strictMono hr
  rw [Nat.pos_iff_ne_zero]
  intro hzero
  rw [value, hzero, Nat.cast_zero, zero_mul, zero_mul, mul_zero] at hlower
  have hle : twiceLower r ≤ 0 := by exact_mod_cast hlower
  rw [twiceLower] at hle
  omega

end DocSearch.Decimal
