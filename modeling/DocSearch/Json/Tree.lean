import DocSearch.Json.Token

/-!
# Trees of JSON texts

A `Tree` holds what a text says before its strings and numbers are evaluated.  `Tree.ofTokens?`
reads tokens with the open arrays and objects kept in a list, so that any depth of nesting can be
read; `Tree.evaluate?` evaluates strings and numbers, and allows a limited depth only.
-/

namespace DocSearch.Json

/-- A JSON text as a tree, with strings and numbers as they are written. -/
inductive Tree where
  | null
  | bool (b : Bool)
  | number (l : NumberLiteral)
  | string (units : List StringUnit)
  | array (items : List Tree)
  | object (entries : List (List StringUnit × Tree))

/-- An array or object that is not closed yet, its last part first. -/
inductive Frame where
  | array (items : List Tree)
  | object (entries : List (List StringUnit × Tree))
  | member (entries : List (List StringUnit × Tree)) (key : List StringUnit)

/-- What may follow the tokens read so far. -/
inductive Expected where
  | value
  | firstItem
  | firstKey
  | key
  | colon
  | separator
  | finished (tree : Tree)

/-- A reader of tokens: the open arrays and objects, the innermost first, and what may follow. -/
structure Reader where
  frames : List Frame
  expected : Expected

namespace Reader

/-- The reader before the first token. -/
def start : Reader := ⟨[], .value⟩

/-- The reader after a whole value. -/
def deliver (tree : Tree) : List Frame → Option Reader
  | [] => some ⟨[], .finished tree⟩
  | .array items :: frames => some ⟨.array (tree :: items) :: frames, .separator⟩
  | .member entries key :: frames => some ⟨.object ((key, tree) :: entries) :: frames, .separator⟩
  | .object _ :: _ => none

/-- The reader after the first token of a value. -/
def beginValue (frames : List Frame) : Token → Option Reader
  | .null => deliver .null frames
  | .bool b => deliver (.bool b) frames
  | .number l => deliver (.number l) frames
  | .string units => deliver (.string units) frames
  | .openArray => some ⟨.array [] :: frames, .firstItem⟩
  | .openObject => some ⟨.object [] :: frames, .firstKey⟩
  | _ => none

/-- The reader after one more token. -/
def step? (reader : Reader) (token : Token) : Option Reader :=
  match reader.expected, reader.frames, token with
  | .value, frames, token => beginValue frames token
  | .firstItem, .array items :: frames, .closeArray => deliver (.array items.reverse) frames
  | .firstItem, frames, token => beginValue frames token
  | .firstKey, .object entries :: frames, .closeObject => deliver (.object entries.reverse) frames
  | .firstKey, .object entries :: frames, .string key
  | .key, .object entries :: frames, .string key => some ⟨.member entries key :: frames, .colon⟩
  | .colon, frames, .colon => some ⟨frames, .value⟩
  | .separator, .array items :: frames, .comma => some ⟨.array items :: frames, .value⟩
  | .separator, .array items :: frames, .closeArray => deliver (.array items.reverse) frames
  | .separator, .object entries :: frames, .comma => some ⟨.object entries :: frames, .key⟩
  | .separator, .object entries :: frames, .closeObject => deliver (.object entries.reverse) frames
  | _, _, _ => none

/-- The tree of a text whose tokens have all been read. -/
def finish? (reader : Reader) : Option Tree :=
  match reader.expected with
  | .finished tree => some tree
  | _ => none

end Reader

namespace Tree

/-- The tree that a list of tokens writes. -/
def ofTokens? (tokens : List Token) : Option Tree :=
  (tokens.foldlM Reader.step? Reader.start).bind Reader.finish?

/-- The tree that a text writes. -/
def ofText? (text : String) : Option Tree := (tokens? text.toList).bind ofTokens?

/-- The text of a quoted string. -/
def text? (units : List StringUnit) : Option String :=
  (StringUnit.decode? units).map String.ofList

mutual

/-- The value of a tree with at most `room` arrays and objects inside one another.  Entries keep
their order, repeated keys included. -/
def evaluate? (room : Nat) : Tree → Option Json
  | .null => some .null
  | .bool b => some (.bool b)
  | .number l => (Num.ofLiteral? l).map .num
  | .string units => (text? units).map .str
  | .array items => if room = 0 then none else (evaluateItems? (room - 1) items).map .arr
  | .object entries => if room = 0 then none else (evaluateEntries? (room - 1) entries).map .obj

/-- `evaluate?` on every item of an array. -/
def evaluateItems? (room : Nat) : List Tree → Option (List Json)
  | [] => some []
  | tree :: rest => do return (← tree.evaluate? room) :: (← evaluateItems? room rest)

/-- `evaluate?` on the value of every entry of an object. -/
def evaluateEntries? (room : Nat) : List (List StringUnit × Tree) → Option (List (String × Json))
  | [] => some []
  | (key, tree) :: rest => do
    return (← text? key, ← tree.evaluate? room) :: (← evaluateEntries? room rest)

end

end Tree

end DocSearch.Json
