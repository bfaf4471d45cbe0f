import DocSearch.Json.Basic
import DocSearch.Query.Field

/-!
# Predicates

A predicate on documents is a tree of comparisons and text matches under negation, conjunction and
disjunction.  Not every tree can be compiled to a filter of the engine: a comparison has to have a
field on its left and a scalar literal on its right.
-/

namespace DocSearch

/-- The operators of a comparison. -/
inductive Comparison where
  | eq
  | ne
  | gt
  | gte
  | lt
  | lte
deriving DecidableEq, Repr

/-- All operators. -/
def Comparison.all : List Comparison := [.eq, .ne, .gt, .gte, .lt, .lte]

/-- The name of an operator. -/
def Comparison.name : Comparison → String
  | .eq => "eq"
  | .ne => "ne"
  | .gt => "gt"
  | .gte => "gte"
  | .lt => "lt"
  | .lte => "lte"

/-- A side of a comparison: a field of the document, or a value that stands for itself. -/
inductive Operand where
  | field (f : Field)
  | literal (v : Json)
deriving DecidableEq

/-- A predicate on documents. -/
inductive Predicate where
  | compare (left : Operand) (op : Comparison) (right : Operand)
  | contains (field : Field) (value : Json)
  | not (p : Predicate)
  | and (p q : Predicate)
  | or (p q : Predicate)
deriving DecidableEq

namespace Predicate

/-- The comparison of a field with a literal. -/
def fieldIs (name : String) (op : Comparison) (value : Json) : Predicate :=
  .compare (.field ⟨name⟩) op (.literal value)

/-- The number of comparisons and text matches. -/
def leafCount : Predicate → Nat
  | .compare .. | .contains .. => 1
  | .not p => p.leafCount
  | .and p q | .or p q => p.leafCount + q.leafCount

end Predicate

/-- An operand with its literal replaced by a function of it. -/
def Operand.mapLiteral (f : Json → Json) : Operand → Operand
  | .field name => .field name
  | .literal v => .literal (f v)

/-- A predicate with every literal replaced by a function of it. -/
def Predicate.mapLiterals (f : Json → Json) : Predicate → Predicate
  | .compare left op right => .compare (left.mapLiteral f) op (right.mapLiteral f)
  | .contains field value => .contains field (f value)
  | .not p => .not (p.mapLiterals f)
  | .and p q => .and (p.mapLiterals f) (q.mapLiterals f)
  | .or p q => .or (p.mapLiterals f) (q.mapLiterals f)

end DocSearch
