import DocSearch.Text.Printable

/-!
# Texts shown to a reader

`shown` writes a text as a quoted literal for diagnostics.  Quotes and backslashes are escaped, and
every character that is not printable is written by its code point; `guarded` does so for some
controls alone.  `shownRecord`, `shownApplied`, `shownList` and `shownOption` write values that are
made of others.
-/

namespace DocSearch.Text

/-- A character inside a quoted literal. -/
def shownChar (c : Char) : List Char :=
  if c = '"' then ['\\', '"']
  else if c = '\\' then ['\\', '\\']
  else if c = '\n' then ['\\', 'n']
  else if c = '\r' then ['\\', 'r']
  else if c = '\t' then ['\\', 't']
  else if c.toNat = 0 then ['\\', '0']
  else if isPrintable c then [c]
  else '\\' :: 'u' :: '\x7b' :: Nat.toDigits 16 c.toNat ++ ['\x7d']

/-- A text as a quoted literal. -/
def shown (s : String) : String :=
  String.ofList ('"' :: s.toList.flatMap shownChar ++ ['"'])

/-- A text with the controls from U+007F to U+009F, which a terminal may obey, written by their code
points. -/
def guarded (s : String) : String :=
  String.ofList (s.toList.flatMap fun c =>
    if c = '\x7f' then ['\\', 'x', '7', 'f']
    else if 0x80 ≤ c.toNat ∧ c.toNat ≤ 0x9f then
      '\\' :: 'u' :: '\x7b' :: Nat.toDigits 16 c.toNat ++ ['\x7d']
    else [c])

/-- Texts with commas between them. -/
def commaSeparated (texts : List String) : String := ", ".intercalate texts

/-- A record by its name and its named parts. -/
def shownRecord (name : String) (parts : List (String × String)) : String :=
  name ++ " \x7b " ++ commaSeparated (parts.map fun part => part.1 ++ ": " ++ part.2) ++ " \x7d"

/-- A constructor with its arguments. -/
def shownApplied (name : String) (arguments : List String) : String :=
  name ++ "(" ++ commaSeparated arguments ++ ")"

/-- A list of values. -/
def shownList (items : List String) : String := "[" ++ commaSeparated items ++ "]"

/-- A map from texts to values. -/
def shownMap (entries : List (String × String)) : String :=
  "\x7b" ++ commaSeparated (entries.map fun entry => shown entry.1 ++ ": " ++ entry.2) ++ "\x7d"

/-- A value that may be there or not. -/
def shownOption : Option String → String
  | some v => shownApplied "Some" [v]
  | none => "None"

end DocSearch.Text
