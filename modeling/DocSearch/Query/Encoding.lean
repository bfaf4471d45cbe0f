import DocSearch.Json.Printer
import DocSearch.Query.Basic

/-!
# Queries as JSON

The JSON form of predicates and queries.  A predicate is an object whose one key names its kind; a
node of a query is an object with its kind under `op`, the query it is chained onto under `source`,
and its own parts.  All objects are written with their keys in increasing order.
-/

namespace DocSearch

/-- A field is written as its path. -/
def Field.toJson (f : Field) : Json := .str f.name

/-- An operand is an object that says whether it is a field or a literal. -/
def Operand.toJson : Operand → Json
  | .field f => .obj [("field", f.toJson)]
  | .literal v => .obj [("literal", v)]

/-- A predicate is an object whose one key names its kind. -/
def Predicate.toJson : Predicate → Json
  | .compare left op right =>
    .obj [("compare", .obj
      [("left", left.toJson), ("op", .str op.name), ("right", right.toJson)])]
  | .contains field value => .obj [("contains", .obj [("field", field.toJson), ("value", value)])]
  | .not p => .obj [("not", p.toJson)]
  | .and p q => .obj [("and", .arr [p.toJson, q.toJson])]
  | .or p q => .obj [("or", .arr [p.toJson, q.toJson])]

/-- A projection is an object that says whether it keeps an object of fields or a bare member. -/
def Projection.toJson : Projection → Json
  | .object fields => .obj [("object", .arr (fields.map Field.toJson))]
  | .member field => .obj [("member", field.toJson)]

/-- The node of an operation on a query whose own form is `source`. -/
def Step.toJson (source : Json) : Step → Json
  | .filter p =>
    .obj [("op", .str NodeKind.filter.name), ("predicate", p.toJson), ("source", source)]
  | .sort field direction =>
    .obj [("direction", .str direction.name), ("field", field.toJson),
      ("op", .str NodeKind.sort.name), ("source", source)]
  | .skip n => .obj [("count", .ofInt n.toInt), ("op", .str NodeKind.skip.name), ("source", source)]
  | .take n => .obj [("count", .ofInt n.toInt), ("op", .str NodeKind.take.name), ("source", source)]
  | .project shape =>
    .obj [("op", .str NodeKind.project.name), ("projection", shape.toJson), ("source", source)]
  | .count => .obj [("op", .str NodeKind.count.name), ("source", source)]
  | .groupBy key =>
    .obj [("key", key.toJson), ("op", .str NodeKind.groupBy.name), ("source", source)]

/-- The form of a query given by its operations, the last one first. -/
def Query.stepsToJson : List Step → Json
  | [] => .obj [("op", .str NodeKind.source.name)]
  | step :: rest => step.toJson (stepsToJson rest)

/-- The form of a query. -/
def Query.toJson (q : Query) : Json := stepsToJson q.steps

end DocSearch
