/-!
# Binary64

The finite numbers of the IEEE 754 binary64 format.  Those of one sign are listed in order of
magnitude by their rank, so a number is a sign and a rank.  `units` is the magnitude as a multiple
of `2 ^ -1074`, the least positive number; `nearestRank` is the rank of the number nearest to a
quotient, and `add?`, `mul?` and `div?` round the exact result with it.
-/

namespace DocSearch

/-- The number of magnitudes from one power of two up to the next, `2 ^ 52`. -/
abbrev Binary64.binadeSize : Nat := 4503599627370496

/-- The number of finite magnitudes of the format. -/
abbrev Binary64.rankCount : Nat := 2047 * binadeSize

/-- A finite number of the format; `rank` is its place among the magnitudes, zero first. -/
structure Binary64 where
  negative : Bool
  rank : Fin Binary64.rankCount
deriving DecidableEq, Repr

namespace Binary64

/-- Zero, without a sign. -/
def zero : Binary64 := ⟨false, 0⟩

/-- Zero, with a sign. -/
def negativeZero : Binary64 := ⟨true, 0⟩

/-- A number is one of the two zeros. -/
def isZero (x : Binary64) : Bool := x.rank.val == 0

/-- The largest number of a sign. -/
def largest (negative : Bool) : Binary64 := ⟨negative, ⟨rankCount - 1, by decide⟩⟩

/-- The magnitude of rank `r`, counted in units of `2 ^ -1074`. -/
def unitsOfRank (r : Nat) : Nat :=
  if r < binadeSize then r else (binadeSize + r % binadeSize) <<< (r / binadeSize - 1)

/-- The magnitude of a number, counted in units of `2 ^ -1074`. -/
def units (x : Binary64) : Nat := unitsOfRank x.rank.val

/-- The number itself, counted in units of `2 ^ -1074`. -/
def value (x : Binary64) : Int := if x.negative then -(x.units : Int) else x.units

/-- The place of a number among all of them; the two zeros share one place. -/
def place (x : Binary64) : Int := if x.negative then -(x.rank.val : Int) else x.rank.val

/-- The order of the numbers, in which the two zeros are equal. -/
def order (x y : Binary64) : Ordering := compare x.place y.place

/-- Two numbers are the same number when they have the same place. -/
def same (x y : Binary64) : Bool := x.place == y.place

/-- The rank of the magnitude nearest to `num / den` units; halfway between two, the even rank. -/
def nearestRank (num den : Nat) : Nat :=
  let shift := (num / den).log2 - 52
  let step := den <<< shift
  let low := num / step
  let excess := 2 * (num % step)
  let mantissa := if excess < step ∨ (excess = step ∧ low % 2 = 0) then low else low + 1
  mantissa + shift * binadeSize

/-- The number nearest to `num / den` units, or nothing when it is too large for the format. -/
def round? (negative : Bool) (num den : Nat) : Option Binary64 :=
  let r := nearestRank num den
  if h : r < rankCount then some ⟨negative, ⟨r, h⟩⟩ else none

/-- The number nearest to an integer; beyond the format, the largest of its sign. -/
def ofInt (n : Int) : Binary64 :=
  (round? (decide (n < 0)) (n.natAbs <<< 1074) 1).getD (largest (decide (n < 0)))

/-- The rounded sum, or nothing when it is too large.  A zero sum is negative only when both
numbers are negative zeros. -/
def add? (x y : Binary64) : Option Binary64 :=
  let sum := x.value + y.value
  if sum = 0 then some ⟨x.negative && y.negative && x.isZero && y.isZero, 0⟩
  else round? (decide (sum < 0)) sum.natAbs 1

/-- The rounded product, or nothing when it is too large. -/
def mul? (x y : Binary64) : Option Binary64 :=
  round? (x.negative != y.negative) (x.units * y.units) (1 <<< 1074)

/-- The rounded quotient, or nothing when the divisor is zero or the quotient is too large. -/
def div? (x y : Binary64) : Option Binary64 :=
  if y.isZero then none
  else round? (x.negative != y.negative) (x.units <<< 1074) y.units

/-- The number with the other sign. -/
def neg (x : Binary64) : Binary64 := ⟨!x.negative, x.rank⟩

/-- The smaller of two numbers, the second one when they are the same (as the two zeros are). -/
def min (x y : Binary64) : Binary64 := if x.place < y.place then x else y

/-- The larger of two numbers, the second one when they are the same (as the two zeros are). -/
def max (x y : Binary64) : Binary64 := if y.place < x.place then x else y

/-- The sum from left to right, starting from negative zero; nothing once it is too large. -/
def sum? (xs : List Binary64) : Option Binary64 := xs.foldlM add? negativeZero

end Binary64

end DocSearch
