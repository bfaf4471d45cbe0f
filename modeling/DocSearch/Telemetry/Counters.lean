import DocSearch.Json.Basic

/-!
# Counters

Numbers of queries, documents and changes by what became of them.
-/

namespace DocSearch

/-- Queries answered, queries rejected before they were sent, queries that failed or were refused,
documents returned, and changes carried out and refused.  Each number stays below `2 ^ 64`, where a
counter of 64 bits would start again from zero. -/
structure Counters where
  executed : Nat
  rejected : Nat
  failed : Nat
  documents : Nat
  changesApplied : Nat
  changesRejected : Nat
deriving DecidableEq, Repr

namespace Counters

/-- Nothing has been counted. -/
def zero : Counters := ⟨0, 0, 0, 0, 0, 0⟩

/-- The counters as an object. -/
def toJson (c : Counters) : Json :=
  .obj [("changes_applied", .ofInt c.changesApplied),
    ("changes_rejected", .ofInt c.changesRejected),
    ("documents_returned", .ofInt c.documents), ("queries_executed", .ofInt c.executed),
    ("queries_failed", .ofInt c.failed), ("queries_rejected", .ofInt c.rejected)]

end Counters

end DocSearch
