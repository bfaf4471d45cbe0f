import DocSearch.Json.Printer
import DocSearch.Mapping
import DocSearch.ResultStream
import DocSearch.Text.Shown

/-!
# Values shown to a reader

How queries, filters, providers, streams and mappings are written in diagnostics: every value by the
name of its constructor and its parts.
-/

namespace DocSearch

open Text (shown shownApplied shownList shownMap shownOption shownRecord)

mutual

/-- A value shown with its type. -/
def Json.shown : Json → String
  | .null => "Null"
  | .bool b => shownApplied "Bool" [toString b]
  | .num n => shownApplied "Number" [String.ofList n.text]
  | .str s => shownApplied "String" [Text.shown s]
  | .arr items => "Array " ++ shownList (Json.shownItems items)
  | .obj entries => "Object " ++ shownMap (Json.shownEntries entries)

/-- The items of an array shown. -/
def Json.shownItems : List Json → List String
  | [] => []
  | v :: rest => v.shown :: Json.shownItems rest

/-- The values of the entries of an object shown. -/
def Json.shownEntries : List (String × Json) → List (String × String)
  | [] => []
  | (k, v) :: rest => (k, v.shown) :: Json.shownEntries rest

end

/-- A field shown. -/
def Field.shown (f : Field) : String := shownApplied "FieldRef" [Text.shown f.name]

/-- An operand shown. -/
def Operand.shown : Operand → String
  | .field f => shownApplied "Field" [f.shown]
  | .literal v => shownApplied "Literal" [v.shown]

/-- An operator shown. -/
def Comparison.shown : Comparison → String
  | .eq => "Eq"
  | .ne => "Ne"
  | .gt => "Gt"
  | .gte => "Gte"
  | .lt => "Lt"
  | .lte => "Lte"

/-- A predicate shown. -/
def Predicate.shown : Predicate → String
  | .compare left op right =>
    shownRecord "Compare" [("left", left.shown), ("op", op.shown), ("right", right.shown)]
  | .contains field value =>
    shownRecord "Contains" [("field", field.shown), ("value", value.shown)]
  | .not p => shownApplied "Not" [p.shown]
  | .and p q => shownApplied "And" [p.shown, q.shown]
  | .or p q => shownApplied "Or" [p.shown, q.shown]

/-- A direction shown. -/
def Direction.shown : Direction → String
  | .asc => "Asc"
  | .desc => "Desc"

/-- A projection shown. -/
def Projection.shown : Projection → String
  | .object fields => shownApplied "Object" [shownList (fields.map Field.shown)]
  | .member field => shownApplied "Member" [field.shown]

/-- An operation shown around the query that it is chained onto. -/
def Step.shown (step : Step) (source : String) : String :=
  match step with
  | .filter p => shownRecord "Filter" [("source", source), ("predicate", p.shown)]
  | .sort field direction =>
    shownRecord "Sort" [("source", source), ("field", field.shown), ("direction", direction.shown)]
  | .skip n => shownRecord "Skip" [("source", source), ("count", toString n.toInt)]
  | .take n => shownRecord "Take" [("source", source), ("count", toString n.toInt)]
  | .project shape => shownRecord "Project" [("source", source), ("projection", shape.shown)]
  | .count => shownRecord "Count" [("source", source)]
  | .groupBy key => shownRecord "GroupBy" [("source", source), ("key", key.shown)]

/-- A query shown. -/
def Query.shown (q : Query) : String := q.steps.foldr Step.shown "Source"

/-- A bound shown. -/
def shownBound (bound : Option String) : String := shownOption (bound.map Text.shown)

mutual

/-- A filter shown. -/
def Filter.shown : Filter → String
  | .term field value => shownRecord "Term" [("field", Text.shown field), ("value", value.shown)]
  | .range field bounds =>
    shownRecord "Range"
      [("field", Text.shown field), ("gt", shownBound bounds.gt), ("gte", shownBound bounds.gte),
        ("lt", shownBound bounds.lt), ("lte", shownBound bounds.lte)]
  | .fullText field query =>
    shownRecord "Match" [("field", Text.shown field), ("query", Text.shown query)]
  | .bool must mustNot should minimum =>
    shownRecord "Bool"
      [("must", shownList (Filter.shownAll must)),
        ("must_not", shownList (Filter.shownAll mustNot)),
        ("should", shownList (Filter.shownAll should)),
        ("minimum_should_match", shownOption (minimum.map fun n => toString n.toNat))]

/-- Filters shown. -/
def Filter.shownAll : List Filter → List String
  | [] => []
  | filter :: rest => filter.shown :: Filter.shownAll rest

end

variable {α : Type}

/-- A provider shown. -/
def Provider.shown (p : Provider α) : String :=
  shownRecord "QueryProvider" [("index", Text.shown p.index)]

/-- A composable query shown. -/
def Queryable.shown (q : Queryable α) : String :=
  shownRecord "Queryable"
    [("index", Text.shown q.provider.index), ("expr", q.query.shown),
      ("external", shownOption (q.external.map Filter.shown))]

/-- The name of a state of a stream. -/
def StreamState.name : StreamState α → String
  | .notStarted => "not_started"
  | .awaiting _ => "awaiting"
  | .iterating _ => "iterating"
  | .done => "done"

/-- A stream shown. -/
def ResultStream.shown (stream : ResultStream α) : String :=
  shownRecord "AsyncResults"
    [("index", Text.shown stream.source.provider.index), ("state", Text.shown stream.state.name)]

/-- A mapping shown as the context of searches. -/
def Mapping.shown (m : Mapping) : String :=
  shownRecord "SearchContext"
    [("mapping", shownRecord "IndexMapping"
      [("indices", shownMap (m.pairs.map fun pair => (pair.1, Text.shown pair.2)))])]

end DocSearch
