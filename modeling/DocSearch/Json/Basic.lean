import DocSearch.Number.Binary64
import DocSearch.SortedMap

/-!
# JSON values

A number is an exact integer or a binary64 number, and `Num.same` tells the two kinds apart.
`Json` is the type of documents, literals and messages.  `Json.same` compares values with their
numbers compared by `Num.same`, `Json.normalize` sorts the entries of every object and keeps the
last of several values for a key.
-/

namespace DocSearch

/-- A JSON number: an exact integer, or a binary64 number. -/
inductive Num where
  | int (n : Int)
  | float (x : Binary64)
deriving DecidableEq, Repr

namespace Num

/-- The number as a binary64 number; an integer is rounded. -/
def toBinary64 : Num → Binary64
  | .int n => .ofInt n
  | .float x => x

/-- An integer and a binary64 number are never the same; the two zeros of binary64 are. -/
def same : Num → Num → Bool
  | .int m, .int n => m == n
  | .float x, .float y => x.same y
  | _, _ => false

end Num

/-- A JSON value.  The entries of an object may stand in any order and repeat a key; those of a
normal value have increasing keys. -/
inductive Json where
  | null
  | bool (b : Bool)
  | num (n : Num)
  | str (s : String)
  | arr (items : List Json)
  | obj (entries : List (String × Json))

namespace Json

instance : Inhabited Json := ⟨null⟩

mutual

/-- Two values are equal or not. -/
def decEq : (a b : Json) → Decidable (a = b)
  | .null, .null => isTrue rfl
  | .bool a, .bool b => decidable_of_iff (a = b) (by simp)
  | .num a, .num b => decidable_of_iff (a = b) (by simp)
  | .str a, .str b => decidable_of_iff (a = b) (by simp)
  | .arr as, .arr bs =>
    have := decEqItems as bs
    decidable_of_iff (as = bs) (by simp)
  | .obj as, .obj bs =>
    have := decEqEntries as bs
    decidable_of_iff (as = bs) (by simp)
  | .null, .bool _ | .null, .num _ | .null, .str _ | .null, .arr _ | .null, .obj _
  | .bool _, .null | .bool _, .num _ | .bool _, .str _ | .bool _, .arr _ | .bool _, .obj _
  | .num _, .null | .num _, .bool _ | .num _, .str _ | .num _, .arr _ | .num _, .obj _
  | .str _, .null | .str _, .bool _ | .str _, .num _ | .str _, .arr _ | .str _, .obj _
  | .arr _, .null | .arr _, .bool _ | .arr _, .num _ | .arr _, .str _ | .arr _, .obj _
  | .obj _, .null | .obj _, .bool _ | .obj _, .num _ | .obj _, .str _ | .obj _, .arr _ =>
    isFalse (by simp)

/-- Two lists of values are equal or not. -/
def decEqItems : (as bs : List Json) → Decidable (as = bs)
  | [], [] => isTrue rfl
  | a :: as, b :: bs =>
    have := decEq a b
    have := decEqItems as bs
    decidable_of_iff (a = b ∧ as = bs) (by simp)
  | [], _ :: _ | _ :: _, [] => isFalse (by simp)

/-- Two lists of entries are equal or not. -/
def decEqEntries : (as bs : List (String × Json)) → Decidable (as = bs)
  | [], [] => isTrue rfl
  | (j, a) :: as, (k, b) :: bs =>
    have := decEq a b
    have := decEqEntries as bs
    decidable_of_iff (j = k ∧ a = b ∧ as = bs) (by simp [and_assoc])
  | [], _ :: _ | _ :: _, [] => isFalse (by simp)

end

instance : DecidableEq Json := decEq

mutual

/-- Two values are the same up to the sign of zero. -/
def same : Json → Json → Bool
  | .null, .null => true
  | .bool a, .bool b => a == b
  | .num a, .num b => a.same b
  | .str a, .str b => a == b
  | .arr as, .arr bs => sameItems as bs
  | .obj as, .obj bs => sameEntries as bs
  | _, _ => false

/-- Two lists have the same values in the same places. -/
def sameItems : List Json → List Json → Bool
  | [], [] => true
  | a :: as, b :: bs => a.same b && sameItems as bs
  | _, _ => false

/-- Two lists of entries have the same keys and values in the same places. -/
def sameEntries : List (String × Json) → List (String × Json) → Bool
  | [], [] => true
  | (j, a) :: as, (k, b) :: bs => j == k && a.same b && sameEntries as bs
  | _, _ => false

end

/-- The value of a key of an object. -/
def get? (key : String) : Json → Option Json
  | .obj entries => Entries.get? key entries
  | _ => none

/-- The value is null. -/
def isNull : Json → Bool
  | .null => true
  | _ => false

/-- The value is an object. -/
def isObject : Json → Bool
  | .obj _ => true
  | _ => false

/-- A value is scalar when it is neither an array nor an object. -/
def isScalar : Json → Bool
  | .arr _ | .obj _ => false
  | _ => true

/-- The number of a value, as a binary64 number. -/
def number? : Json → Option Binary64
  | .num n => some n.toBinary64
  | _ => none

/-- The text of a value. -/
def string? : Json → Option String
  | .str s => some s
  | _ => none

/-- An integer as a value. -/
def ofInt (n : Int) : Json := .num (.int n)

/-- A list of texts as a value. -/
def ofStrings (texts : List String) : Json := .arr (texts.map .str)

/-- A binary64 number as a value, and null where there is none. -/
def ofBinary64? : Option Binary64 → Json
  | some x => .num (.float x)
  | none => .null

/-- An object from entries in any order. -/
def object (entries : List (String × Json)) : Json := .obj (Entries.ofList entries)

mutual

/-- The value with the entries of every object sorted, the last value of a key kept. -/
def normalize : Json → Json
  | .arr items => .arr (normalizeItems items)
  | .obj entries => object (normalizeEntries entries)
  | v => v

/-- `normalize` on every value of a list. -/
def normalizeItems : List Json → List Json
  | [] => []
  | v :: rest => v.normalize :: normalizeItems rest

/-- `normalize` on the value of every entry. -/
def normalizeEntries : List (String × Json) → List (String × Json)
  | [] => []
  | (k, v) :: rest => (k, v.normalize) :: normalizeEntries rest

end

end Json

end DocSearch
