import DocSearch.Query.Basic

/-!
# Rejections

A query for which the engine has no form, or with an argument that makes no sense, is rejected
before anything is sent.  A `Rejection` says why; its message names the operation or the argument
at fault.
-/

namespace DocSearch

/-- Why no plan can be made for a query. -/
inductive Rejection where
  | literalOnLeft (op : Comparison)
  | fieldOnRight (left : Field) (op : Comparison) (right : Field)
  | literalNotScalar
  | containsNull (field : Field)
  | negativeCount (kind : NodeKind) (n : Int64)
  | countNotLast
  | grouping (key : Field)
  | bareMember (field : Field)
  | noProjectedFields
  | nestedMember (field : Field)
deriving DecidableEq, Repr

namespace Rejection

/-- A rejected operation is one that the engine has no form for; otherwise an argument is wrong. -/
def isUnsupported : Rejection → Bool
  | .containsNull _ | .negativeCount .. | .countNotLast => false
  | _ => true

/-- The code of a rejection. -/
def code (r : Rejection) : String :=
  if r.isUnsupported then "AERO_QUERY_UNSUPPORTED" else "AERO_QUERY_INVALID"

/-- What is wrong, without the class of the rejection. -/
def reason : Rejection → String
  | .literalOnLeft op => "'" ++ op.name ++ "' comparison whose left operand is not a field access"
  | .fieldOnRight left op right =>
    "field-to-field comparison '" ++ left.name ++ "' " ++ op.name ++ " '" ++ right.name ++ "'"
  | .literalNotScalar => "non-scalar literal in predicate"
  | .containsNull field => "contains on '" ++ field.name ++ "' requires a non-null value"
  | .negativeCount kind n =>
    kind.name ++ " count must be non-negative, got " ++ toString n.toInt
  | .countNotLast => "count must be the last operation in a query"
  | .grouping key => "method 'group_by' (key '" ++ key.name ++ "')"
  | .bareMember field =>
    "projection of bare member '" ++ field.name ++
      "'; only object projections of fields are supported"
  | .noProjectedFields => "projection with no fields"
  | .nestedMember field => "projection of nested or computed member '" ++ field.name ++ "'"

/-- The message of a rejection. -/
def message (r : Rejection) : String :=
  (if r.isUnsupported then "Unsupported operation: " else "Invalid query: ") ++ r.reason

end Rejection

end DocSearch
