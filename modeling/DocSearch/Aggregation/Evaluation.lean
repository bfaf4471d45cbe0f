import DocSearch.Aggregation.Spec
import DocSearch.Document.Path

/-!
# Evaluating aggregations

`Clause.ofJson` reads the clause of an aggregation, `Clause.evaluate` computes its result from the
values of its field, and `Spec.evaluate` the results of all aggregations of a request.
`tally` counts the values of a field by their texts.
-/

namespace DocSearch.Aggregation

/-- What is wrong with the clause of a name. -/
inductive ClauseFault where
  | notOneType (name : String)
  | noField (name : String)
  | unknownType (type name : String)
deriving DecidableEq, Repr

/-- The message of a fault. -/
def ClauseFault.message : ClauseFault → String
  | .notOneType name => "aggregation '" ++ name ++ "' must have exactly one type"
  | .noField name => "aggregation '" ++ name ++ "' requires a field"
  | .unknownType type name => "unknown aggregation type [" ++ type ++ "] for '" ++ name ++ "'"

/-- A clause: the kind of aggregation, the field, and how many values to list at most. -/
structure Clause where
  kind : Kind
  field : String
  size : Nat
deriving DecidableEq, Repr

/-- The number of values that are listed when the clause does not say. -/
def defaultSize : Nat := 10

/-- A number of values as a clause says it. -/
def sizeOf? : Json → Option Nat
  | .num (.int n) => if 0 ≤ n then some n.toNat else none
  | _ => none

/-- The clause of a name: an object whose one key is the kind and whose value has the field. -/
def Clause.ofJson (name : String) (clause : Json) : Except ClauseFault Clause :=
  match clause with
  | .obj [(type, body)] =>
    match (body.get? "field").bind Json.string? with
    | none => .error (.noField name)
    | some field =>
      match Kind.ofName? type with
      | none => .error (.unknownType type name)
      | some kind => .ok ⟨kind, field, ((body.get? "size").bind sizeOf?).getD defaultSize⟩
  | _ => .error (.notOneType name)

/-- A value of a field and the number of times that it occurs. -/
structure Tally where
  key : Json
  count : Nat
deriving DecidableEq

/-- Count one more value. -/
def count (tallies : Entries Tally) (v : Json) : Entries Tally :=
  match Entries.get? v.compact tallies with
  | some old => Entries.insert v.compact { old with count := old.count + 1 } tallies
  | none => Entries.insert v.compact ⟨v, 1⟩ tallies

/-- The values of a list with their numbers of occurrences, in the order of their texts. -/
def tally (values : List Json) : List Tally :=
  (values.foldl count []).map (·.2)

/-- The most frequent values, those that are equally frequent in the order of their texts. -/
def mostFrequent (size : Nat) (values : List Json) : List Tally :=
  ((tally values).mergeSort fun a b => decide (b.count ≤ a.count)).take size

/-- The numbers among values. -/
def numbers (values : List Json) : List Binary64 := values.filterMap Json.number?

/-- The mean of numbers; there is none of no numbers, or when their sum is too large. -/
def mean? (xs : List Binary64) : Option Binary64 :=
  if xs.isEmpty then none else (Binary64.sum? xs).bind (·.div? (.ofInt xs.length))

/-- The number that `choose` keeps of a list. -/
def reduce? (choose : Binary64 → Binary64 → Binary64) : List Binary64 → Option Binary64
  | [] => none
  | x :: rest => some (rest.foldl choose x)

/-- A value with its number of occurrences as the engine writes it. -/
def Tally.toJson (t : Tally) : Json := .obj [("doc_count", .ofInt t.count), ("key", t.key)]

/-- A list of values with their numbers of occurrences as the engine writes it. -/
def bucketsToJson (tallies : List Tally) : Json :=
  .obj [("buckets", .arr (tallies.map Tally.toJson))]

/-- A single number as the engine writes it. -/
def metricToJson (v : Json) : Json := .obj [("value", v)]

/-- The result of a kind of aggregation over values. -/
def Kind.evaluate (kind : Kind) (size : Nat) (values : List Json) : Json :=
  match kind with
  | .terms => bucketsToJson (mostFrequent size values)
  | .avg => metricToJson (.ofBinary64? (mean? (numbers values)))
  | .sum => metricToJson (.ofBinary64? (Binary64.sum? (numbers values)))
  | .min => metricToJson (.ofBinary64? (reduce? Binary64.min (numbers values)))
  | .max => metricToJson (.ofBinary64? (reduce? Binary64.max (numbers values)))
  | .valueCount => metricToJson (.ofInt values.length)
  | .cardinality => metricToJson (.ofInt (tally values).length)

/-- The result of a clause over documents. -/
def Clause.evaluate (clause : Clause) (documents : List Json) : Json :=
  clause.kind.evaluate clause.size (documents.flatMap (Document.fieldValues · clause.field))

/-- The results of named clauses, or what is wrong with the first one that cannot be read. -/
def evaluateClauses (documents : List Json) : Entries Json → Except ClauseFault (Entries Json)
  | [] => .ok []
  | (name, clause) :: rest => do
    let clause ← Clause.ofJson name clause
    return (name, clause.evaluate documents) :: (← evaluateClauses documents rest)

/-- The results of all aggregations over documents. -/
def Spec.evaluate (spec : Spec) (documents : List Json) : Except ClauseFault Json :=
  (evaluateClauses documents spec.clauses.entries).map .obj

end DocSearch.Aggregation
