import DocSearch.Number.Binary64

/-!
# Decimal texts of binary64 numbers

`Decimal.shortest` is the decimal with the fewest digits that reads back as a given number, and
`Binary64.text` lays it out: positionally with at least one fractional digit where the leading
digit stands between `10 ^ -5` and `10 ^ 15`, with an exponent otherwise.  `Decimal.toBinary64?`
reads a decimal by one rounded multiplication or division by a power of ten.
-/

namespace DocSearch

/-- The decimal `digits * 10 ^ exponent`. -/
structure Decimal where
  digits : Nat
  exponent : Int
deriving DecidableEq, Repr

namespace Decimal

/-- The decimal digits of a number, the leading one first. -/
def digitChars (n : Nat) : List Char := Nat.toDigits 10 n

/-- The power of ten with an exponent. -/
def powerOfTen (n : Nat) : Nat := Nat.pow 10 n

/-- The exponent of the leading decimal digit of `units` units, for a positive `units`. -/
def leadingExponent (units : Nat) : Int :=
  ((digitChars ((units * powerOfTen 324) >>> 1074)).length : Int) - 325

/-- Among the multiples of `10 ^ place` that read back as the number of rank `r`, the one nearest
to it; halfway between two, the even multiple. -/
def onGrid? (r : Nat) (place : Int) : Option Nat :=
  let units := Binary64.unitsOfRank r
  let above := units + Binary64.unitsOfRank (r + 1)
  let below := units + Binary64.unitsOfRank (r - 1)
  -- twice the grid step and twice the units, over a common denominator
  let step := powerOfTen place.toNat <<< 1075
  let scale := powerOfTen (-place).toNat
  let readsBack (d : Nat) : Bool :=
    if r % 2 = 0 then below * scale ≤ d * step && d * step ≤ above * scale
    else below * scale < d * step && d * step < above * scale
  let target := 2 * units * scale
  let low := target / step
  let excess := 2 * (target % step)
  let lowFirst := excess < step || (excess == step && low % 2 == 0)
  let (first, second) := if lowFirst then (low, low + 1) else (low + 1, low)
  if readsBack first then some first else if readsBack second then some second else none

/-- The decimal without trailing zeros, taking at most `fuel` of them away. -/
def stripZeros : (fuel : Nat) → Decimal → Decimal
  | 0, d => d
  | fuel + 1, d =>
    if d.digits % 10 = 0 ∧ d.digits ≠ 0 then stripZeros fuel ⟨d.digits / 10, d.exponent + 1⟩ else d

/-- The decimal with the fewest digits that reads back as the number of rank `r`. -/
def shortest (r : Nat) : Decimal :=
  if r = 0 then ⟨0, 0⟩
  else
    let lead := leadingExponent (Binary64.unitsOfRank r)
    let found := (List.range 17).findSome? fun (more : Nat) =>
      (onGrid? r (lead - more)).map fun d => (⟨d, lead - more⟩ : Decimal)
    stripZeros 17 (found.getD ⟨Binary64.unitsOfRank r, 0⟩)

/-- The layout of a decimal: positional, or with an exponent. -/
def layout (d : Decimal) : List Char :=
  let ds := digitChars d.digits
  let lead := d.exponent + ds.length - 1
  if -5 ≤ lead ∧ lead ≤ 15 then
    if 0 ≤ d.exponent then ds ++ List.replicate d.exponent.toNat '0' ++ ['.', '0']
    else if 0 ≤ lead then
      ds.take (lead.toNat + 1) ++ '.' :: ds.drop (lead.toNat + 1)
    else '0' :: '.' :: List.replicate (-lead - 1).toNat '0' ++ ds
  else
    let fraction := if ds.length = 1 then [] else '.' :: ds.drop 1
    let sign := if lead < 0 then '-' else '+'
    ds.take 1 ++ fraction ++ 'e' :: sign :: digitChars lead.natAbs

/-- A power of ten as a number of the format, for an exponent up to 308. -/
def roundedPower (n : Nat) : Binary64 := Binary64.ofInt (powerOfTen n)

/-- The number divided by `10 ^ 308` a number of times and then by `10 ^ rest`, every quotient
rounded. -/
def scaleDown (x : Binary64) : (times rest : Nat) → Option Binary64
  | 0, rest => x.div? (roundedPower rest)
  | times + 1, rest =>
    if x.isZero then some x
    else (x.div? (roundedPower 308)).bind fun y => scaleDown y times rest

/-- The number read from a decimal: the digits as a number of the format, scaled by a power of ten
in one rounded step.  Nothing when the result is too large. -/
def toBinary64? (d : Decimal) : Option Binary64 :=
  let x := Binary64.ofInt d.digits
  if d.digits = 0 then some Binary64.zero
  else if 308 < d.exponent then none
  else if 0 ≤ d.exponent then x.mul? (roundedPower d.exponent.toNat)
  else
    let n := (-d.exponent).toNat
    let times := (n - 1) / 308
    scaleDown x times (n - 308 * times)

end Decimal

/-- The text of a number: its shortest decimal, after a sign for a negative number or zero. -/
def Binary64.text (x : Binary64) : List Char :=
  let magnitude := if x.isZero then ['0', '.', '0'] else (Decimal.shortest x.rank.val).layout
  if x.negative then '-' :: magnitude else magnitude

end DocSearch
