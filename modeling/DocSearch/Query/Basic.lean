import DocSearch.Query.Predicate

/-!
# Queries

A query is the list of the operations that are chained onto a collection, the one chained last
first.  The builders `filter`, `sort`, `skip`, `take`, `project`, `count` and `groupBy` chain one
more operation and leave the query they start from as it is.
-/

namespace DocSearch

/-- The direction of a sort. -/
inductive Direction where
  | asc
  | desc
deriving DecidableEq, Repr

/-- The name of a direction. -/
def Direction.name : Direction → String
  | .asc => "asc"
  | .desc => "desc"

/-- The shape that a projection gives to a document: an object of some of its fields, or a bare
member. -/
inductive Projection where
  | object (fields : List Field)
  | member (field : Field)
deriving DecidableEq, Repr

/-- An operation of a query. -/
inductive Step where
  | filter (p : Predicate)
  | sort (field : Field) (direction : Direction)
  | skip (n : Int64)
  | take (n : Int64)
  | project (shape : Projection)
  | count
  | groupBy (key : Field)
deriving DecidableEq

/-- The kinds of nodes of a query: the collection itself, and the operations. -/
inductive NodeKind where
  | source
  | filter
  | sort
  | skip
  | take
  | project
  | count
  | groupBy
deriving DecidableEq, Repr

namespace NodeKind

/-- All kinds, the collection first. -/
def all : List NodeKind := [.source, .filter, .sort, .skip, .take, .project, .count, .groupBy]

/-- The name of a kind. -/
def name : NodeKind → String
  | .source => "source"
  | .filter => "filter"
  | .sort => "sort"
  | .skip => "skip"
  | .take => "take"
  | .project => "project"
  | .count => "count"
  | .groupBy => "group_by"

end NodeKind

/-- The kind of an operation. -/
def Step.kind : Step → NodeKind
  | .filter _ => .filter
  | .sort .. => .sort
  | .skip _ => .skip
  | .take _ => .take
  | .project _ => .project
  | .count => .count
  | .groupBy _ => .groupBy

/-- A query: the operations chained onto a collection, the last one first. -/
structure Query where
  steps : List Step
deriving DecidableEq

namespace Query

/-- The query for the whole collection. -/
def source : Query := ⟨[]⟩

/-- A query with one more operation. -/
def chain (q : Query) (step : Step) : Query := ⟨step :: q.steps⟩

/-- Keep the documents that satisfy a predicate. -/
def filter (q : Query) (p : Predicate) : Query := q.chain (.filter p)

/-- Order the documents by a field. -/
def sort (q : Query) (field : Field) (direction : Direction) : Query :=
  q.chain (.sort field direction)

/-- Leave out the first documents. -/
def skip (q : Query) (n : Int64) : Query := q.chain (.skip n)

/-- Keep the first documents only. -/
def take (q : Query) (n : Int64) : Query := q.chain (.take n)

/-- Reshape every document. -/
def project (q : Query) (shape : Projection) : Query := q.chain (.project shape)

/-- Count the documents. -/
def count (q : Query) : Query := q.chain .count

/-- Group the documents by a field. -/
def groupBy (q : Query) (key : Field) : Query := q.chain (.groupBy key)

/-- The kind of the outermost node. -/
def kind (q : Query) : NodeKind := (q.steps.head?.map Step.kind).getD .source

/-- The query without its outermost operation; the collection itself has none. -/
def inner? (q : Query) : Option Query :=
  match q.steps with
  | [] => none
  | _ :: rest => some ⟨rest⟩

/-- The number of nodes, the collection included. -/
def depth (q : Query) : Nat := q.steps.length + 1

end Query

/-- An operation with every literal replaced by a function of it. -/
def Step.mapLiterals (f : Json → Json) : Step → Step
  | .filter p => .filter (p.mapLiterals f)
  | step => step

/-- A query with every literal replaced by a function of it. -/
def Query.mapLiterals (f : Json → Json) (q : Query) : Query := ⟨q.steps.map (Step.mapLiterals f)⟩

end DocSearch
