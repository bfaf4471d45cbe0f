import DocSearch.Pattern.Basic
import DocSearch.Text.Hexadecimal

/-!
# Escapes in patterns

`readEscape?` reads what follows a backslash: a character by its number or its name, a mark that
stands for itself, a class of characters, or an edge.  The forms that end with a closing brace and
the classes of a single property are not patterns.
-/

namespace DocSearch.Pattern

/-- The number that `n` hexadecimal digits write, after the number of the digits before them. -/
def readHex? (m : Mode) : Nat → Nat → List Char → Option (Nat × List Char)
  | 0, number, cs => some (number, cs)
  | _, _, [] => none
  | n + 1, number, c :: rest => do readHex? m n (16 * number + (← Text.hexValue? c)) (m.skip rest)

/-- A code point that is a character. -/
def isCharNumber (n : Nat) : Bool := n < 0xD800 || (0xDFFF < n && n < 0x110000)

/-- A character by `n` hexadecimal digits; two of them write a byte. -/
def readNumbered? (m : Mode) (n : Nat) (cs : List Char) : Option (Primitive × List Char) := do
  let (number, rest) ← readHex? m n 0 (m.skip cs)
  if isCharNumber number then some (.char (Char.ofNat number) (n == 2), rest) else none

/-- The character that a letter names. -/
def named? (c : Char) : Option Char :=
  if c = 'a' then some '\x07'
  else if c = 'f' then some '\x0c'
  else if c = 't' then some '\t'
  else if c = 'n' then some '\n'
  else if c = 'r' then some '\r'
  else if c = 'v' then some '\x0b'
  else none

/-- A part that a single character after a backslash writes. -/
def escaped? (c : Char) : Option Primitive :=
  if ['d', 's', 'w'].contains c then some (.oneOf false)
  else if ['D', 'S', 'W'].contains c then some (.oneOf true)
  else if ['b', 'B', '<', '>'].contains c then some (.edge true)
  else if ['A', 'z'].contains c then some (.edge false)
  else if c.toNat < 0x80 && !c.isAlphanum then some (.char c false)
  else (named? c).map (.char · false)

/-- The part that a text writes after a backslash. -/
def readEscape? (m : Mode) : List Char → Option (Primitive × List Char)
  | [] => none
  | c :: rest =>
    if c = 'x' then readNumbered? m 2 rest
    else if c = 'u' then readNumbered? m 4 rest
    else if c = 'U' then readNumbered? m 8 rest
    else (escaped? c).map (·, rest)

end DocSearch.Pattern
