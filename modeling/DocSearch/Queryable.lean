import DocSearch.Provider.Basic

/-!
# Composable queries

A `Queryable` is a query over the documents of a provider, to which operations are chained one by
one.  The filter set with `withFilter` takes the place of the filters of the query, and the
aggregations set with `withAggregations` show in `Queryable.text`; both are kept when operations
are chained.
-/

namespace DocSearch

/-- A query over the documents of a provider. -/
structure Queryable (α : Type) where
  provider : Provider α
  query : Query
  external : Option Filter
  aggregations : Option Aggregation.Spec

namespace Queryable

variable {α β : Type}

/-- A query over the documents of a provider, without a filter or aggregations of the caller. -/
def ofQuery (provider : Provider α) (query : Query) : Queryable α := ⟨provider, query, none, none⟩

/-- All documents of a provider. -/
def ofProvider (provider : Provider α) : Queryable α := ofQuery provider .source

/-- The queryable with one more operation. -/
def chain (q : Queryable α) (step : Step) : Queryable α := { q with query := q.query.chain step }

/-- Keep the documents that satisfy a predicate. -/
def filter (q : Queryable α) (p : Predicate) : Queryable α := q.chain (.filter p)

/-- Order the documents by a field. -/
def orderBy (q : Queryable α) (field : Field) : Queryable α := q.chain (.sort field .asc)

/-- Order the documents by a field, the largest value first. -/
def orderByDescending (q : Queryable α) (field : Field) : Queryable α := q.chain (.sort field .desc)

/-- Leave out the first documents. -/
def skip (q : Queryable α) (n : Int64) : Queryable α := q.chain (.skip n)

/-- Keep the first documents only. -/
def take (q : Queryable α) (n : Int64) : Queryable α := q.chain (.take n)

/-- Group the documents by a field. -/
def groupBy (q : Queryable α) (key : Field) : Queryable α := q.chain (.groupBy key)

/-- Reshape every document, which is read in another way from then on. -/
def selectWith (q : Queryable α) (shape : Projection) (read : Json → Option β) : Queryable β :=
  ⟨q.provider.retarget read, q.query.project shape, q.external, q.aggregations⟩

/-- Keep some fields of every document, which is read in another way from then on. -/
def select (q : Queryable α) (fields : List Field) (read : Json → Option β) : Queryable β :=
  q.selectWith (.object fields) read

/-- Set the filter that takes the place of the filters of the query. -/
def withFilter (q : Queryable α) (filter : Filter) : Queryable α :=
  { q with external := some filter }

/-- Set the aggregations that are shown with the request. -/
def withAggregations (q : Queryable α) (spec : Aggregation.Spec) : Queryable α :=
  { q with aggregations := some spec }

/-- The body of the request that the query leads to; nothing is sent. -/
def text (q : Queryable α) (s : Session) : Except QueryError String × Session :=
  q.provider.queryText q.query q.external q.aggregations s

/-- Execute the query and wait for its output in place. -/
def execute (q : Queryable α) (s : Session) : Except QueryError (Output α) × Session :=
  q.provider.execute q.query q.external s

/-- The documents of the query. -/
def documents (q : Queryable α) (s : Session) : Except QueryError (List α) × Session :=
  let (output, s) := q.execute s
  (output.bind Output.documents?, s)

/-- The query that counts the documents of a query. -/
def counting (q : Queryable α) : Queryable α := q.chain .count

/-- The number of documents of the query. -/
def count (q : Queryable α) (s : Session) : Except QueryError Int64 × Session :=
  let (output, s) := q.counting.execute s
  (output.bind Output.count?, s)

/-- Begin to execute the query with a token. -/
def beginExecute (q : Queryable α) (token : String) (s : Session) :
    SearchProgress (Output α) × Session :=
  q.provider.beginExecute q.query q.external token s

/-- Begin to run aggregations over the documents that the filter of the query selects. -/
def beginAggregate (q : Queryable α) (spec : Aggregation.Spec) (read : Option Json → Option β)
    (token : String) (s : Session) : SearchProgress β × Session :=
  q.provider.beginAggregate q.query q.external spec read token s

end Queryable

end DocSearch
