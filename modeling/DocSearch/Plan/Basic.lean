import DocSearch.Document.SortKey
import DocSearch.Plan.Compilation

/-!
# Plans

`Query.plan` makes a `Plan` for one search request from a query, or rejects it.  It walks from the
outermost operation inwards: the outermost `skip`, `take` and `project` count, the innermost `sort`
counts, the filters are combined in the order in which they were chained, and the first fault met is
the reason of the rejection.
-/

namespace DocSearch

/-- What one search request has to do for a query. -/
structure Plan where
  filter : Option Filter
  skip : Option UInt64
  take : Option UInt64
  fields : List String
  sort : Option SortKey
  countOnly : Bool

/-- The number of documents in a `skip` or `take` has to be at least zero. -/
def countOf (kind : NodeKind) (n : Int64) : Except Rejection UInt64 :=
  if n.toInt < 0 then .error (.negativeCount kind n) else .ok (UInt64.ofNat n.toInt.toNat)

/-- The fields of a projection: at least one, and all of them direct. -/
def Projection.fieldNames : Projection → Except Rejection (List String)
  | .member field => .error (.bareMember field)
  | .object [] => .error .noProjectedFields
  | .object fields =>
    fields.mapM fun field => if field.isDirect then .ok field.name else .error (.nestedMember field)

/-- What has been read of a query on the way from the outermost operation inwards: the outermost
counts and fields, the innermost sort key, and the filters, the last one read first. -/
structure Unwound where
  skip : Option UInt64
  take : Option UInt64
  fields : Option (List String)
  sort : Option SortKey
  filters : List Filter
  countOnly : Bool

namespace Unwound

/-- Nothing has been read. -/
def start : Unwound := ⟨none, none, none, none, [], false⟩

/-- Read one more operation, which is the outermost one or not. -/
def read (outermost : Bool) (u : Unwound) : Step → Except Rejection Unwound
  | .filter p => do return { u with filters := (← p.compile) :: u.filters }
  | .sort field direction => .ok { u with sort := some ⟨field.name, direction⟩ }
  | .skip n => do
    let n ← countOf .skip n
    return { u with skip := u.skip.or (some n) }
  | .take n => do
    let n ← countOf .take n
    return { u with take := u.take.or (some n) }
  | .project shape => do
    let fields ← shape.fieldNames
    return { u with fields := u.fields.or (some fields) }
  | .count => if outermost then .ok { u with countOnly := true } else .error .countNotLast
  | .groupBy key => .error (.grouping key)

/-- Read the operations of a query that lie within the outermost one. -/
def readInner : Unwound → List Step → Except Rejection Unwound
  | u, [] => .ok u
  | u, step :: rest => do readInner (← u.read false step) rest

/-- Read all operations of a query. -/
def readAll : List Step → Except Rejection Unwound
  | [] => .ok start
  | step :: rest => do readInner (← start.read true step) rest

end Unwound

/-- One filter for several: none, the only one, or all of them together. -/
def conjunction : List Filter → Option Filter
  | [] => none
  | [filter] => some filter
  | filters => some (.must filters)

/-- The plan for a query. -/
def Query.plan (q : Query) : Except Rejection Plan := do
  let u ← Unwound.readAll q.steps
  return ⟨conjunction u.filters, u.skip, u.take, u.fields.getD [], u.sort, u.countOnly⟩

end DocSearch
