import DocSearch.Filter.Basic
import DocSearch.Plan.Rejection

/-!
# Filters of predicates

`Predicate.compile` turns a predicate into a filter of the same shape, or rejects it for its
leftmost leaf that is at fault.  Equality becomes a term, an order a range with one bound, and a
text match a full-text query.
-/

namespace DocSearch

/-- The text of a literal in a bound or a full-text query; null has none. -/
def literalText : Json → Option String
  | .null => none
  | .str s => some s
  | v => some v.compact

/-- The bounds that a comparison with a literal sets; equality sets none. -/
def Comparison.bounds (op : Comparison) (literal : Json) : Bounds :=
  match op with
  | .eq | .ne => Bounds.none
  | .gt => { Bounds.none with gt := literalText literal }
  | .gte => { Bounds.none with gte := literalText literal }
  | .lt => { Bounds.none with lt := literalText literal }
  | .lte => { Bounds.none with lte := literalText literal }

/-- The filter of a comparison of a field with a literal. -/
def Comparison.filter (op : Comparison) (field : Field) (literal : Json) : Filter :=
  match op with
  | .eq => .term field.name literal
  | .ne => .mustNot (.term field.name literal)
  | op => .range field.name (op.bounds literal)

/-- A literal of a predicate has to be scalar. -/
def scalar (literal : Json) : Except Rejection Json :=
  if literal.isScalar then .ok literal else .error .literalNotScalar

/-- The filter of a comparison; the left side is checked first. -/
def compileComparison (left : Operand) (op : Comparison) (right : Operand) :
    Except Rejection Filter :=
  match left, right with
  | .literal _, _ => .error (.literalOnLeft op)
  | .field field, .field other => .error (.fieldOnRight field op other)
  | .field field, .literal v => (scalar v).map (op.filter field)

/-- The filter of a text match. -/
def compileContains (field : Field) (value : Json) : Except Rejection Filter := do
  match literalText (← scalar value) with
  | some text => return .fullText field.name text
  | none => throw (.containsNull field)

/-- The filter of a predicate, node for node. -/
def Predicate.compile : Predicate → Except Rejection Filter
  | .compare left op right => compileComparison left op right
  | .contains field value => compileContains field value
  | .not p => do return .mustNot (← p.compile)
  | .and p q => do return .must [← p.compile, ← q.compile]
  | .or p q => do return .should [← p.compile, ← q.compile]

end DocSearch
