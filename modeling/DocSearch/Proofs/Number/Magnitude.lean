import DocSearch.Number.Binary64
import Mathlib.Algebra.Group.Nat.Defs
import Mathlib.Order.Monotone.Basic

/-!
# Places and values of binary64 numbers

`Binary64.unitsOfRank` is strictly increasing, so the place of a number among all of them orders
the numbers as their values do: `Binary64.same` is equality of values, and `Binary64.order`
compares them.
-/

namespace DocSearch.Binary64

/-- Below the first power of two a rank is its own magnitude. -/
theorem unitsOfRank_of_lt {r : Nat} (h : r < binadeSize) :
  unitsOfRank r = r
  := if_pos h

/-- The magnitude of rank `r` is the significand of its binade, shifted by the number of the
binade. -/
theorem unitsOfRank_of_le {r : Nat} (h : binadeSize ≤ r) :
  unitsOfRank r = (binadeSize + r % binadeSize) * 2 ^ (r / binadeSize - 1)
  := by
  rw [unitsOfRank, if_neg (Nat.not_lt.2 h), Nat.shiftLeft_eq]

/-- The next rank has a larger magnitude. -/
theorem unitsOfRank_lt_succ (r : Nat) :
  unitsOfRank r < unitsOfRank (r + 1)
  := by
  have hpos : 0 < binadeSize := by decide
  rcases Nat.lt_or_ge (r + 1) binadeSize with hlow | hhigh
  · rw [unitsOfRank_of_lt hlow, unitsOfRank_of_lt (by omega)]
    omega
  · rw [unitsOfRank_of_le hhigh]
    rcases Nat.lt_or_ge r binadeSize with hr | hr
    · have hlast : r + 1 = binadeSize := by omega
      rw [unitsOfRank_of_lt hr, hlast]
      simp only [Nat.mod_self, Nat.div_self hpos, Nat.sub_self, Nat.pow_zero]
      omega
    · rw [unitsOfRank_of_le hr]
      -- The next rank stays in the binade, or it is the first one of the next binade.
      rcases Nat.lt_or_ge (r % binadeSize + 1) binadeSize with hm | hm
      · have hdiv : (r + 1) / binadeSize = r / binadeSize := by
          simp only [binadeSize] at hm ⊢
          omega
        have hmod : (r + 1) % binadeSize = r % binadeSize + 1 := by
          simp only [binadeSize] at hm ⊢
          omega
        rw [hdiv, hmod]
        apply Nat.mul_lt_mul_of_pos_right _ (Nat.two_pow_pos _)
        omega
      · have hdiv : (r + 1) / binadeSize = r / binadeSize + 1 := by
          simp only [binadeSize] at hm ⊢
          omega
        have hmod : (r + 1) % binadeSize = 0 := by
          simp only [binadeSize] at hm ⊢
          omega
        have hlast := Nat.mod_lt r hpos
        obtain ⟨e, he⟩ : ∃ e, r / binadeSize = e + 1 :=
          Nat.exists_eq_add_of_le' (Nat.div_pos hr hpos)
        rw [hdiv, hmod, he, Nat.add_sub_cancel, Nat.add_sub_cancel, Nat.pow_succ', Nat.add_zero,
          ← Nat.mul_assoc]
        apply Nat.mul_lt_mul_of_pos_right _ (Nat.two_pow_pos _)
        omega

/-- A larger rank has a larger magnitude. -/
theorem unitsOfRank_strictMono :
  StrictMono unitsOfRank
  := strictMono_nat_of_lt_succ unitsOfRank_lt_succ

theorem unitsOfRank_zero :
  unitsOfRank 0 = 0
  := rfl

/-- A number has a smaller place than another one exactly when it has a smaller value. -/
theorem place_lt_iff (x y : Binary64) :
  x.place < y.place ↔ x.value < y.value
  := by
  have hlt := unitsOfRank_strictMono.lt_iff_lt (a := x.rank.val) (b := y.rank.val)
  have hgt := unitsOfRank_strictMono.lt_iff_lt (a := y.rank.val) (b := x.rank.val)
  have hx := unitsOfRank_strictMono.lt_iff_lt (a := 0) (b := x.rank.val)
  have hy := unitsOfRank_strictMono.lt_iff_lt (a := 0) (b := y.rank.val)
  rw [unitsOfRank_zero] at hx hy
  simp only [place, value, units]
  split <;> split <;> omega

/-- Two numbers have the same place exactly when they have the same value. -/
theorem place_eq_iff (x y : Binary64) :
  x.place = y.place ↔ x.value = y.value
  := by
  have hlt := place_lt_iff x y
  have hgt := place_lt_iff y x
  omega

/-- Two numbers are the same exactly when they have the same value. -/
theorem same_iff (x y : Binary64) :
  x.same y = true ↔ x.value = y.value
  := by
  rw [same, beq_iff_eq]
  apply place_eq_iff

end DocSearch.Binary64
