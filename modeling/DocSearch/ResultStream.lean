import DocSearch.Queryable

/-!
# Streams of results

A `ResultStream` yields the documents of a query one by one.  The query is sent when the stream is
polled for the first time, and never again; a query that fails is one item, after which the
stream ends.
-/

namespace DocSearch

/-- How far a stream is: nothing is sent, the answer is awaited, documents are left, or it has
ended. -/
inductive StreamState (α : Type) where
  | notStarted
  | awaiting (pending : PendingSearch (Output α))
  | iterating (items : List α)
  | done

/-- The documents of a query, yielded one by one, with the token that cancels the query. -/
structure ResultStream (α : Type) where
  source : Queryable α
  token : String
  state : StreamState α

/-- What a poll of a stream brings: nothing yet, an item, or the end. -/
inductive Poll (α : Type) where
  | pending
  | item (outcome : Except QueryError α)
  | finished

namespace ResultStream

variable {α : Type}

/-- The stream of a query, not yet started. -/
def ofQueryable (source : Queryable α) (token : String) : ResultStream α :=
  ⟨source, token, .notStarted⟩

/-- The query has been sent, or the stream was closed. -/
def isStarted (stream : ResultStream α) : Bool :=
  match stream.state with
  | .notStarted => false
  | _ => true

/-- The stream has ended. -/
def isDone (stream : ResultStream α) : Bool :=
  match stream.state with
  | .done => true
  | _ => false

/-- The least number of items that are left, and the greatest if it is known. -/
def sizeHint (stream : ResultStream α) : Nat × Option Nat :=
  match stream.state with
  | .notStarted | .awaiting _ => (0, none)
  | .iterating items => (items.length, some items.length)
  | .done => (0, some 0)

/-- End the stream, whatever is left of it. -/
def close (stream : ResultStream α) : ResultStream α := { stream with state := .done }

/-- Yield the next of the documents that are left. -/
def yield (stream : ResultStream α) : List α → Poll α × ResultStream α
  | [] => (.finished, { stream with state := .done })
  | item :: rest => (.item (.ok item), { stream with state := .iterating rest })

/-- Go on after a step of the query. -/
def receive (stream : ResultStream α) :
    SearchProgress (Output α) × Session → Poll α × ResultStream α × Session
  | (.waiting pending, s) => (.pending, { stream with state := .awaiting pending }, s)
  | (.finished output, s) =>
    match output.bind Output.documents? with
    | .ok items =>
      let (result, stream) := stream.yield items
      (result, stream, s)
    | .error e => (.item (.error e), { stream with state := .done }, s)

/-- Poll the stream; `elapsed` says that the time has passed that a slow engine takes. -/
def poll (stream : ResultStream α) (elapsed : Bool) (s : Session) :
    Poll α × ResultStream α × Session :=
  match stream.state with
  | .notStarted => stream.receive (stream.source.beginExecute stream.token s)
  | .awaiting pending => stream.receive (s.resumeSearch stream.token pending elapsed)
  | .iterating items =>
    let (result, stream) := stream.yield items
    (result, stream, s)
  | .done => (.finished, stream, s)

end ResultStream

end DocSearch
