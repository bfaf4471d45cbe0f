import DocSearch.Provider.Error

/-!
# Outputs of queries

A query yields documents or their number, and `Output.documents?` and `Output.count?` ask for one of
the two.  `windowCount` is the number that a count with `skip` and `take` yields.
-/

namespace DocSearch

/-- A number of documents as a signed number; the largest one when it is too large. -/
def signedCount (n : UInt64) : Int64 :=
  if n.toNat ≤ Int64.maxValue.toInt then Int64.ofNat n.toNat else Int64.maxValue

/-- The difference of two signed numbers, or the nearest one when it is out of range. -/
def subSaturating (a b : Int64) : Int64 :=
  let difference := a.toInt - b.toInt
  if difference < Int64.minValue.toInt then Int64.minValue
  else if Int64.maxValue.toInt < difference then Int64.maxValue
  else Int64.ofInt difference

/-- The number of documents that `total` documents leave after `skip` of them are left out and at
most `take` are kept. -/
def windowCount (total : Int64) (skip take : Option UInt64) : Int64 :=
  let rest := max (subSaturating total ((skip.map signedCount).getD 0)) 0
  match take with
  | some n => min rest (signedCount n)
  | none => rest

/-- What a query yields: documents, or their number. -/
inductive Output (α : Type) where
  | documents (items : List α)
  | count (n : Int64)
deriving DecidableEq, Repr

namespace Output

variable {α : Type}

/-- The output is a number. -/
def isCount : Output α → Bool
  | .documents _ => false
  | .count _ => true

/-- The documents of an output. -/
def documents? : Output α → Except QueryError (List α)
  | .documents items => .ok items
  | .count _ => .error .notDocuments

/-- The number of an output. -/
def count? : Output α → Except QueryError Int64
  | .count n => .ok n
  | .documents _ => .error .notCount

end Output

end DocSearch
