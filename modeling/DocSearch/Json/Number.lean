import DocSearch.Json.Basic
import DocSearch.Number.Decimal

/-!
# Number literals

`NumberLiteral.ofChars?` reads the parts of a number literal, and `Num.ofLiteral?` evaluates it.  A
literal without fraction and exponent that fits in 64 bits is an exact integer; every other one is a
binary64 number, and has no value when it is too large for the format.
-/

namespace DocSearch

/-- The parts of a number literal; its digits are numbers below ten, the leading one first. -/
structure NumberLiteral where
  negative : Bool
  whole : List Nat
  fraction : List Nat
  exponent : Option Int
deriving DecidableEq, Repr

namespace NumberLiteral

/-- The value of a decimal digit. -/
def digit (c : Char) : Nat := c.toNat - '0'.toNat

/-- The digits at the start of a list of characters, and what follows them; there is at least one
digit. -/
def digits? (cs : List Char) : Option (List Nat × List Char) :=
  match cs.takeWhile Char.isDigit with
  | [] => none
  | d :: ds => some ((d :: ds).map digit, cs.dropWhile Char.isDigit)

/-- The whole part: a lone zero, or digits that do not start with zero. -/
def whole? (cs : List Char) : Option (List Nat × List Char) :=
  match digits? cs with
  | some (0 :: _ :: _, _) => none
  | result => result

/-- The fraction, if a point starts one. -/
def fraction? : List Char → Option (List Nat × List Char)
  | '.' :: rest => digits? rest
  | cs => some ([], cs)

/-- The digits of an exponent as an integer. -/
def exponentDigits? (negative : Bool) (cs : List Char) : Option (Option Int × List Char) :=
  (digits? cs).map fun (ds, rest) =>
    let n : Nat := ds.foldl (fun n d => 10 * n + d) 0
    (some (if negative then -(n : Int) else n), rest)

/-- The exponent, if a letter starts one. -/
def exponent? : List Char → Option (Option Int × List Char)
  | 'e' :: '-' :: rest | 'E' :: '-' :: rest => exponentDigits? true rest
  | 'e' :: '+' :: rest | 'E' :: '+' :: rest => exponentDigits? false rest
  | 'e' :: rest | 'E' :: rest => exponentDigits? false rest
  | cs => some (none, cs)

/-- The parts after the sign; nothing may follow them. -/
def unsigned? (negative : Bool) (cs : List Char) : Option NumberLiteral := do
  let (whole, cs) ← whole? cs
  let (fraction, cs) ← fraction? cs
  let (exponent, cs) ← exponent? cs
  if cs.isEmpty then some ⟨negative, whole, fraction, exponent⟩ else none

/-- The parts of a number literal. -/
def ofChars? : List Char → Option NumberLiteral
  | '-' :: rest => unsigned? true rest
  | cs => unsigned? false cs

/-- The digits read as one number as long as it stays below `2 ^ 64`, and the number of digits left
over. -/
def absorb (significand : Nat) : List Nat → Nat × Nat
  | [] => (significand, 0)
  | d :: ds =>
    let next := significand * 10 + d
    if next < UInt64.size then absorb next ds else (significand, ds.length + 1)

/-- The magnitude of a literal as a decimal with a significand below `2 ^ 64`.  Digits of the whole
part that do not fit raise the exponent; digits of the fraction that do not fit are dropped. -/
def decimal (l : NumberLiteral) : Decimal :=
  let (whole, wholeLeft) := absorb 0 l.whole
  let (significand, fractionLeft) := absorb whole l.fraction
  ⟨significand, l.exponent.getD 0 + wholeLeft - (l.fraction.length - fractionLeft : Nat)⟩

end NumberLiteral

/-- The binary64 number of a literal, unless it is too large. -/
def Binary64.ofLiteral? (l : NumberLiteral) : Option Binary64 :=
  l.decimal.toBinary64?.map fun x => if l.negative then x.neg else x

/-- The number of a literal, unless it is too large.  A negative zero is a binary64 number. -/
def Num.ofLiteral? (l : NumberLiteral) : Option Num :=
  let (n, left) := NumberLiteral.absorb 0 l.whole
  if l.fraction = [] ∧ l.exponent = none ∧ left = 0 then
    if !l.negative then some (.int n)
    else if n = 0 then some (.float .negativeZero)
    else if Int64.minValue.toInt ≤ -n then some (.int (-n))
    else some (.float (Binary64.ofInt (-n)))
  else (Binary64.ofLiteral? l).map .float

end DocSearch
