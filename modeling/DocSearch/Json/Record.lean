import DocSearch.Json.Basic

/-!
# Records

A record with named parts is written as an object with these names, or as the array of its parts in
order.  `Record.ofJson?` recognises both, and `required?`, `nullable?` and `defaulted?` read a part.
The readers of scalars and lists below it reject values of any other kind.
-/

namespace DocSearch

namespace Json

/-- The truth value that a value is. -/
def bool? : Json → Option Bool
  | .bool b => some b
  | _ => none

/-- The integer that a value is. -/
def int? : Json → Option Int
  | .num (.int n) => some n
  | _ => none

/-- The integer of 64 bits that a value is. -/
def int64? (v : Json) : Option Int64 :=
  v.int?.bind fun n =>
    if Int64.minValue.toInt ≤ n ∧ n ≤ Int64.maxValue.toInt then some (Int64.ofInt n) else none

/-- The number below `2 ^ bits` that a value is. -/
def natOfBits? (bits : Nat) (v : Json) : Option Nat :=
  v.int?.bind fun n => if 0 ≤ n ∧ n.toNat < 1 <<< bits then some n.toNat else none

/-- The items of an array, each read by the same reader. -/
def listOf? {α : Type} (read : Json → Option α) : Json → Option (List α)
  | .arr items => items.mapM read
  | _ => none

/-- A value that may be null. -/
def nullOr? {α : Type} (read : Json → Option α) : Json → Option (Option α)
  | .null => some none
  | v => (read v).map some

end Json

/-- A record as it is written: its entries, or its parts in order. -/
inductive RecordForm where
  | named (entries : List (String × Json))
  | placed (items : List Json)

/-- A record with the names of its parts. -/
structure Record where
  names : List String
  form : RecordForm

namespace Record

variable {α : Type}

/-- A value as a record.  An object may have other entries, but must not repeat a part; an array
must not have more items than there are parts. -/
def ofJson? (names : List String) : Json → Option Record
  | .obj entries =>
    if names.all fun name => (entries.filter (·.1 == name)).length ≤ 1 then
      some ⟨names, .named entries⟩
    else none
  | .arr items => if items.length ≤ names.length then some ⟨names, .placed items⟩ else none
  | _ => none

/-- The value of a part, if it is written. -/
def get? (r : Record) (name : String) : Option Json :=
  match r.form with
  | .named entries => Entries.get? name entries
  | .placed items => items[r.names.idxOf name]?

/-- The record is written as an array. -/
def isPlaced (r : Record) : Bool :=
  match r.form with
  | .named _ => false
  | .placed _ => true

/-- A part that has to be written. -/
def required? (r : Record) (name : String) (read : Json → Option α) : Option α :=
  (r.get? name).bind read

/-- A part that may be null, and may be left out of an object. -/
def nullable? (r : Record) (name : String) (read : Json → Option α) : Option (Option α) :=
  match r.get? name with
  | some v => Json.nullOr? read v
  | none => if r.isPlaced then none else some none

/-- A part that has a default when it is left out. -/
def defaulted? (r : Record) (name : String) (default : α) (read : Json → Option α) : Option α :=
  match r.get? name with
  | some v => read v
  | none => some default

end Record

end DocSearch
