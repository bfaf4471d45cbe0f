import DocSearch.Plan.Basic
import DocSearch.Provider.Output
import DocSearch.Provider.Search

/-!
# Executing queries

A provider sends queries to one index and reads the documents that come back.  `Provider.execute`
waits for the answer in place.  `Provider.beginExecute` and `Provider.beginAggregate` can be
cancelled by a token, and are resumed while they wait.  Each sends at most one request, which
`Provider.requestFor` shows without sending it.
-/

namespace DocSearch

/-- What sends queries to an index and reads the documents that come back.  The engine that it sends
them to and the counters that it raises are those of the session: every provider that is used in a
session shares them, so they are handed to each call and are no part of the provider. -/
structure Provider (α : Type) where
  index : String
  read : Json → Option α

namespace Provider

variable {α β : Type}

/-- The provider for the same index with another reader. -/
def retarget (p : Provider α) (read : Json → Option β) : Provider β := ⟨p.index, read⟩

/-- The plan for a query, on record. -/
def compile (p : Provider α) (q : Query) (s : Session) : Except QueryError Plan × Session :=
  match q.plan with
  | .ok plan =>
    (.ok plan, s.record .queryTranslated [("index", p.index), ("root", q.kind.name)])
  | .error reason =>
    (.error (.rejected reason),
      (s.tally fun c => { c with rejected := c.rejected + 1 }).record .queryRejected
        [("code", reason.code), ("index", p.index), ("reason", reason.message)])

/-- The request for a plan, with the filter of the caller, if any, in the place of the plan's own.
To count documents only their total is asked for. -/
def request (p : Provider α) (plan : Plan) (external : Option Filter) : SearchRequest :=
  let base : SearchRequest :=
    { SearchRequest.ofIndex p.index with
      query := external.or plan.filter, trackTotal := plan.countOnly }
  if plan.countOnly then { base with size := some 0 }
  else
    { base with
      offset := plan.skip, size := plan.take, sort := plan.sort.toList, includes := plan.fields }

/-- The request for aggregations over the documents that the filter of a plan selects. -/
def aggregationRequest (p : Provider α) (plan : Plan) (external : Option Filter)
    (spec : Aggregation.Spec) : SearchRequest :=
  { SearchRequest.ofIndex p.index with
    query := external.or plan.filter, size := some 0, aggregations := some spec }

/-- The request that a query leads to, with aggregations attached; nothing is sent. -/
def requestFor (p : Provider α) (q : Query) (external : Option Filter)
    (aggregations : Option Aggregation.Spec) (s : Session) :
    Except QueryError SearchRequest × Session :=
  let (plan, s) := p.compile q s
  (plan.map fun plan => { p.request plan external with aggregations := aggregations }, s)

/-- The body of the request that a query leads to, as it would be sent. -/
def queryText (p : Provider α) (q : Query) (external : Option Filter)
    (aggregations : Option Aggregation.Spec) (s : Session) : Except QueryError String × Session :=
  let (request, s) := p.requestFor q external aggregations s
  (request.map SearchRequest.text, s)

/-- What a response brings; a refusal is a failure. -/
def accept (p : Provider α) (response : SearchResponse) (s : Session) :
    Except QueryError Hits × Session :=
  match response with
  | .hits found => (.ok found, s)
  | .invalid diagnostic =>
    (.error (.refused diagnostic),
      s.countFailure.record .queryRemoteFailed [("diagnostic", diagnostic), ("index", p.index)])

/-- The output of a plan: the number of documents, or the documents themselves. -/
def materialize (p : Provider α) (plan : Plan) (response : SearchResponse) (s : Session) :
    Except QueryError (Output α) × Session :=
  match p.accept response s with
  | (.error e, s) => (.error e, s)
  | (.ok found, s) =>
    if plan.countOnly then
      let n := windowCount found.total plan.skip plan.take
      (.ok (.count n), s.countSuccess 0 [("count", toString n.toInt), ("index", p.index)])
    else
      match found.documents.mapM p.read with
      | none => (.error .undecodable, s)
      | some items =>
        (.ok (.documents items), s.countSuccess items.length
          [("hits", toString items.length), ("index", p.index),
            ("total", toString found.total.toInt)])

/-- Send a request and wait for the answer in place. -/
def send (request : SearchRequest) (s : Session) : Except QueryError SearchResponse × Session :=
  match s.perform (.search true request) with
  | (.ok response, s) => (.ok response, s)
  | (.error fault, s) => (.error (.fault fault), s.countFailure)

/-- Execute a query and wait for the answer in place. -/
def execute (p : Provider α) (q : Query) (external : Option Filter) (s : Session) :
    Except QueryError (Output α) × Session :=
  match p.compile q s with
  | (.error e, s) => (.error e, s)
  | (.ok plan, s) =>
    match send (p.request plan external) s with
    | (.error e, s) => (.error e, s)
    | (.ok response, s) => p.materialize plan response s

/-- Begin to execute a query with a token. -/
def beginExecute (p : Provider α) (q : Query) (external : Option Filter) (token : String)
    (s : Session) : SearchProgress (Output α) × Session :=
  match p.compile q s with
  | (.error e, s) => (.finished (.error e), s)
  | (.ok plan, s) => s.beginSearch token (p.request plan external) (p.materialize plan)

/-- The results of aggregations, read from a response. -/
def readAggregations (p : Provider α) (spec : Aggregation.Spec) (read : Option Json → Option β)
    (response : SearchResponse) (s : Session) : Except QueryError β × Session :=
  match p.accept response s with
  | (.error e, s) => (.error e, s)
  | (.ok found, s) =>
    match read found.aggregations with
    | none => (.error .undecodable, s)
    | some results =>
      (.ok results, s.countSuccess 0
        [("aggregations", toString spec.size), ("index", p.index),
          ("total", toString found.total.toInt)])

/-- Begin to run aggregations over the documents that the filter of a query selects. -/
def beginAggregate (p : Provider α) (q : Query) (external : Option Filter) (spec : Aggregation.Spec)
    (read : Option Json → Option β) (token : String) (s : Session) : SearchProgress β × Session :=
  match p.compile q s with
  | (.error e, s) => (.finished (.error e), s)
  | (.ok plan, s) =>
    s.beginSearch token (p.aggregationRequest plan external spec) (p.readAggregations spec read)

end Provider

end DocSearch
