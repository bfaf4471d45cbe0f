import DocSearch.Json.Basic

/-!
# Aggregations of a request

A `Spec` names the aggregations that a request asks for, each with its clause as the engine reads
it.  `Spec.terms` and its companions add a clause of one kind, and `Spec.ofJson?` takes clauses of
any form.
-/

namespace DocSearch.Aggregation

/-- The kinds of aggregations: the most frequent values, and single numbers. -/
inductive Kind where
  | terms
  | avg
  | sum
  | min
  | max
  | valueCount
  | cardinality
deriving DecidableEq, Repr

namespace Kind

/-- All kinds. -/
def all : List Kind := [.terms, .avg, .sum, .min, .max, .valueCount, .cardinality]

/-- The name of a kind. -/
def name : Kind → String
  | .terms => "terms"
  | .avg => "avg"
  | .sum => "sum"
  | .min => "min"
  | .max => "max"
  | .valueCount => "value_count"
  | .cardinality => "cardinality"

/-- The kind with a name. -/
def ofName? (name : String) : Option Kind := all.find? (·.name == name)

end Kind

/-- The aggregations that a request asks for: a clause for every name. -/
structure Spec where
  clauses : SortedMap Json
deriving DecidableEq

namespace Spec

/-- No aggregation. -/
def empty : Spec := ⟨.empty⟩

/-- The aggregations that the entries of an object name. -/
def ofJson? : Json → Option Spec
  | .obj entries => some ⟨.ofList entries⟩
  | _ => none

/-- Set the clause of a name. -/
def insert (spec : Spec) (name : String) (clause : Json) : Spec :=
  ⟨spec.clauses.insert name clause⟩

/-- Set the clause of a name to one of a kind over a field. -/
def aggregate (spec : Spec) (kind : Kind) (name field : String) : Spec :=
  spec.insert name (.obj [(kind.name, .obj [("field", .str field)])])

/-- Collect the most frequent values of a field. -/
def terms (spec : Spec) (name field : String) : Spec := spec.aggregate .terms name field

/-- Collect at most `size` of the most frequent values of a field. -/
def termsSized (spec : Spec) (name field : String) (size : UInt32) : Spec :=
  spec.insert name
    (.obj [(Kind.terms.name, .obj [("field", .str field), ("size", .ofInt size.toNat)])])

/-- The clause of a name. -/
def get? (spec : Spec) (name : String) : Option Json := spec.clauses.get? name

/-- The names in order. -/
def names (spec : Spec) : List String := spec.clauses.entries.map (·.1)

/-- The number of aggregations. -/
def size (spec : Spec) : Nat := spec.clauses.size

/-- No aggregation is asked for. -/
def isEmpty (spec : Spec) : Bool := spec.clauses.isEmpty

/-- The aggregations as the engine reads them. -/
def toJson (spec : Spec) : Json := .obj spec.clauses.entries

end Spec

end DocSearch.Aggregation
