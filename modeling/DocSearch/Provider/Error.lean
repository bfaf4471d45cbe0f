import DocSearch.Engine.Fault
import DocSearch.Plan.Rejection

/-!
# Errors of queries

Why a query or a batch of changes has no result.  A query that is rejected is not sent.
-/

namespace DocSearch

/-- Why a query or a batch of changes has no result. -/
inductive QueryError where
  | rejected (reason : Rejection)
  | refused (diagnostic : String)
  | unmapped (kind : String)
  | fault (f : Fault)
  | cancelled
  | undecodable
  | notDocuments
  | notCount
deriving DecidableEq, Repr

namespace QueryError

/-- The code of an error. -/
def code : QueryError → String
  | .rejected reason => reason.code
  | .refused _ => "AERO_REMOTE_QUERY_FAILED"
  | .unmapped _ => "AERO_UNMAPPED_ENTITY"
  | .fault f => f.code
  | .cancelled => "AERO_QUERY_CANCELLED"
  | .undecodable => "AERO_DECODE_FAILED"
  | .notDocuments | .notCount => "AERO_UNEXPECTED_SHAPE"

/-- The message of an error. -/
def message : QueryError → String
  | .rejected reason => reason.message
  | .refused diagnostic => "Remote query failed: " ++ diagnostic
  | .unmapped kind => "No index mapped for entity kind '" ++ kind ++ "'"
  | .fault f => f.message
  | .cancelled => "Query cancelled"
  | .undecodable => "Failed to decode response: a value is not of the expected form"
  | .notDocuments => "Unexpected result shape: expected documents, got a count"
  | .notCount => "Unexpected result shape: expected a count, got documents"

/-- The error is one that a query has only before it is sent. -/
def isRejection : QueryError → Bool
  | .rejected _ | .unmapped _ => true
  | _ => false

end QueryError

end DocSearch
