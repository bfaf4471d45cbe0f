import DocSearch.Json.Basic
import DocSearch.Json.Quoted
import DocSearch.Number.Decimal

/-!
# JSON texts

`Json.compact` writes a value without blanks, and `Json.pretty` with an entry or item to a line,
indented by two spaces for every enclosing array or object.
-/

namespace DocSearch

/-- The text of a number: an integer in decimal, a binary64 number by its shortest decimal. -/
def Num.text : Num → List Char
  | .int n => (toString n).toList
  | .float x => x.text

namespace Json

mutual

/-- A value without blanks, in front of more characters. -/
def chars : Json → List Char → List Char
  | .null, rest => 'n' :: 'u' :: 'l' :: 'l' :: rest
  | .bool true, rest => 't' :: 'r' :: 'u' :: 'e' :: rest
  | .bool false, rest => 'f' :: 'a' :: 'l' :: 's' :: 'e' :: rest
  | .num n, rest => n.text ++ rest
  | .str s, rest => quoted s ++ rest
  | .arr items, rest => '[' :: itemChars items (']' :: rest)
  | .obj entries, rest => '\x7b' :: entryChars entries ('\x7d' :: rest)

/-- The items of an array with commas between them, in front of more characters. -/
def itemChars : List Json → List Char → List Char
  | [], rest => rest
  | [v], rest => v.chars rest
  | v :: w :: more, rest => v.chars (',' :: itemChars (w :: more) rest)

/-- The entries of an object with commas between them, in front of more characters. -/
def entryChars : List (String × Json) → List Char → List Char
  | [], rest => rest
  | [(k, v)], rest => quoted k ++ ':' :: v.chars rest
  | (k, v) :: entry :: more, rest =>
    quoted k ++ ':' :: v.chars (',' :: entryChars (entry :: more) rest)

end

/-- A value without blanks. -/
def compact (v : Json) : String := String.ofList (v.chars [])

/-- A line break and the indentation inside `depth` arrays and objects. -/
def newline (depth : Nat) : List Char := '\n' :: List.replicate (2 * depth) ' '

mutual

/-- A value inside `depth` arrays and objects, with an entry or item to a line, in front of more
characters. -/
def prettyChars (depth : Nat) : Json → List Char → List Char
  | .arr [], rest => '[' :: ']' :: rest
  | .arr (v :: more), rest =>
    '[' :: prettyItems (depth + 1) (v :: more) (newline depth ++ ']' :: rest)
  | .obj [], rest => '\x7b' :: '\x7d' :: rest
  | .obj (entry :: more), rest =>
    '\x7b' :: prettyEntries (depth + 1) (entry :: more) (newline depth ++ '\x7d' :: rest)
  | v, rest => v.chars rest

/-- The items of an array, each on a line of its own, in front of more characters. -/
def prettyItems (depth : Nat) : List Json → List Char → List Char
  | [], rest => rest
  | [v], rest => newline depth ++ v.prettyChars depth rest
  | v :: w :: more, rest =>
    newline depth ++ v.prettyChars depth (',' :: prettyItems depth (w :: more) rest)

/-- The entries of an object, each on a line of its own, in front of more characters. -/
def prettyEntries (depth : Nat) : List (String × Json) → List Char → List Char
  | [], rest => rest
  | [(k, v)], rest => newline depth ++ (quoted k ++ ':' :: ' ' :: v.prettyChars depth rest)
  | (k, v) :: entry :: more, rest =>
    newline depth ++
      (quoted k ++
        ':' :: ' ' :: v.prettyChars depth (',' :: prettyEntries depth (entry :: more) rest))

end

/-- A value with an entry or item to a line. -/
def pretty (v : Json) : String := String.ofList (v.prettyChars 0 [])

end Json

end DocSearch
