/-!
# Quoted JSON strings

`quoted` writes a text between quotation marks.  A quotation mark, a backslash and the control
characters below U+0020 are escaped, and all other characters stand for themselves, so no character
below U+0020 occurs in the result.
-/

namespace DocSearch.Json

/-- The lower-case hexadecimal digit of a number below sixteen. -/
def hexDigit (n : Nat) : Char := Nat.digitChar n

/-- A character inside a quoted string. -/
def escape (c : Char) : List Char :=
  if c = '"' then ['\\', '"']
  else if c = '\\' then ['\\', '\\']
  else if c = '\n' then ['\\', 'n']
  else if c = '\r' then ['\\', 'r']
  else if c = '\t' then ['\\', 't']
  else if c = '\x08' then ['\\', 'b']
  else if c = '\x0c' then ['\\', 'f']
  else if c.toNat < 0x20 then
    ['\\', 'u', '0', '0', hexDigit (c.toNat / 16), hexDigit (c.toNat % 16)]
  else [c]

/-- A text as a quoted string. -/
def quoted (s : String) : List Char := '"' :: s.toList.flatMap escape ++ ['"']

end DocSearch.Json
