import DocSearch.Provider.Output
import Mathlib.Algebra.Group.Int.Defs
import Mathlib.Algebra.Group.Nat.Defs
import Mathlib.Algebra.Order.Group.Int
import Mathlib.Order.WithBot

/-!
# Windows of documents

`window total skip take` is the number of documents that are left of `total` when `skip` of them
are left out and at most `take` are kept, over the integers.  The signed 64-bit arithmetic of
`windowCount` is exact (`toInt_windowCount`), at both ends of the ranges of its arguments:
`windowCount_exact`.
-/

namespace DocSearch

/-- The number of documents that `total` documents leave after `skip` of them are left out and at
most `take` are kept, if that is given. -/
def window (total : Int) (skip : Nat) (take : Option Nat) : Int :=
  let rest := max (total - skip) 0
  match take with
  | some n => min rest n
  | none => rest

theorem toInt_max (a b : Int64) :
  (max a b).toInt = max a.toInt b.toInt
  := by
  rw [show max a b = if a ≤ b then b else a from rfl, Int.max_def]
  simp only [Int64.le_iff_toInt_le]
  split <;> rfl

theorem toInt_min (a b : Int64) :
  (min a b).toInt = min a.toInt b.toInt
  := by
  rw [show min a b = if a ≤ b then a else b from rfl, Int.min_def]
  simp only [Int64.le_iff_toInt_le]
  split <;> rfl

/-- A number of documents is cut off at the largest signed number. -/
theorem toInt_signedCount (n : UInt64) :
  (signedCount n).toInt = min (n.toNat : Int) (2 ^ 63 - 1)
  := by
  rw [signedCount, Int64.toInt_maxValue]
  split
  case isTrue h =>
    rw [Int64.toInt_ofNat_of_lt (by omega)]
    omega
  case isFalse h =>
    rw [Int64.toInt_maxValue]
    omega

/-- A difference is cut off at both ends of the signed numbers. -/
theorem toInt_subSaturating (a b : Int64) :
  (subSaturating a b).toInt = max (-2 ^ 63) (min (a.toInt - b.toInt) (2 ^ 63 - 1))
  := by
  rw [subSaturating]
  simp only [Int64.toInt_minValue, Int64.toInt_maxValue]
  split
  case isTrue h =>
    rw [Int64.toInt_minValue]
    omega
  case isFalse hmin =>
    split
    case isTrue h =>
      rw [Int64.toInt_maxValue]
      omega
    case isFalse hmax =>
      rw [Int64.toInt_ofInt_of_le (by omega) (by omega)]
      omega

/-- The documents that are left out are counted exactly, although numbers are cut off. -/
theorem toInt_rest (total : Int64) (skip : Option UInt64) :
  (max (subSaturating total ((skip.map signedCount).getD 0)) 0).toInt =
    max (total.toInt - ((skip.map UInt64.toNat).getD 0 : Nat)) 0
  := by
  have hlow := total.le_toInt
  have hhigh := total.toInt_lt
  rw [toInt_max, toInt_subSaturating, Int64.toInt_zero]
  cases skip with
  | none =>
      simp only [Option.map_none, Option.getD_none, Int64.toInt_zero]
      omega
  | some n =>
      simp only [Option.map_some, Option.getD_some, toInt_signedCount]
      omega

/-- The number within a window is exact. -/
theorem toInt_windowCount (total : Int64) (skip take : Option UInt64) :
  (windowCount total skip take).toInt =
    window total.toInt ((skip.map UInt64.toNat).getD 0) (take.map UInt64.toNat)
  := by
  have hrest := toInt_rest total skip
  have hhigh := total.toInt_lt
  cases take with
  | none => exact hrest
  | some n =>
      simp only [windowCount, window, Option.map_some, toInt_min, toInt_signedCount, hrest]
      omega

/-- The number within a window is the length of the part of a list that lies in it. -/
theorem window_length {α : Type} (xs : List α) (skip n : Nat) :
  window xs.length skip (some n) = ((xs.drop skip).take n).length
  := by
  rw [window, List.length_take, List.length_drop]
  omega

/-- A `take` that is not given is the infinite one. -/
theorem coe_window (total : ℤ) (skip : ℕ) (take : Option ℕ) :
  (window total skip take : WithTop ℤ) =
    min ((max (total - skip) 0 : ℤ) : WithTop ℤ) (take.elim ⊤ fun n => ((n : ℤ) : WithTop ℤ))
  := by
  cases take with
  | none => rw [Option.elim_none, min_top_right, window]
  | some n => rw [Option.elim_some, ← WithTop.coe_min, window]

theorem window_nonneg (total : ℤ) (skip : ℕ) (take : Option ℕ) :
  0 ≤ window total skip take
  := by
  cases take with
  | none => apply le_max_right
  | some n => apply le_min (le_max_right _ _) (Int.natCast_nonneg n)

/-- The number within a window is the one that unbounded integers yield, where a `skip` that is not
given is zero and a `take` that is not given is infinite.  So it is never negative, although the
total may be, and a `skip` or a `take` beyond the signed numbers does no harm. -/
theorem windowCount_exact (total : Int64) (skip take : Option UInt64) :
  let count : ℤ := (windowCount total skip take).toInt
  let skipped : ℤ := skip.elim 0 fun n => n.toNat
  let bound : WithTop ℤ := take.elim ⊤ fun n => ((n.toNat : ℤ) : WithTop ℤ)
  (count : WithTop ℤ) = min ((max (total.toInt - skipped) 0 : ℤ) : WithTop ℤ) bound ∧ 0 ≤ count
  := by
  intro count skipped bound
  have hcount : count = window total.toInt ((skip.map UInt64.toNat).getD 0)
      (take.map UInt64.toNat) := toInt_windowCount total skip take
  have hskipped : skipped = ((skip.map UInt64.toNat).getD 0 : ℕ) := by
    cases skip <;> rfl
  have hbound : bound = (take.map UInt64.toNat).elim ⊤ fun n => ((n : ℤ) : WithTop ℤ) := by
    cases take <;> rfl
  rw [hcount, hskipped, hbound]
  exact ⟨coe_window _ _ _, window_nonneg _ _ _⟩

/-- A `skip` beyond the signed numbers leaves nothing of the largest total, a `take` beyond them
keeps all of it, and nothing is left of a negative total. -/
example :
    windowCount Int64.maxValue (some 9223372036854775808) none = 0 ∧
    windowCount Int64.maxValue none (some 18446744073709551615) = Int64.maxValue ∧
    windowCount Int64.minValue (some 1) none = 0 := by decide

end DocSearch
