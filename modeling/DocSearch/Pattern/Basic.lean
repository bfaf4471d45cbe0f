import DocSearch.Text.Blank

/-!
# Patterns

A pattern is a regular expression over texts.  Patterns are only tested for being well formed, and
never matched.  This module holds what is common to their parts: the `Mode` in which a part is
read, the `Primitive` parts, and the `Fault` of a pattern.  Modes that need to know the cases or
the word characters of all scripts admit no part that depends on them.
-/

namespace DocSearch.Pattern

/-- Why a text is no pattern that can be matched. -/
inductive Fault where
  | malformed
  | wordEdge
deriving DecidableEq, Repr

/-- The message of a fault. -/
def Fault.message : Fault → String
  | .malformed => "error building NFA"
  | .wordEdge =>
    "unsupported regex feature for DFAs: cannot build DFAs for regexes with Unicode word " ++
      "boundaries; switch to ASCII word boundaries, or heuristically enable Unicode word " ++
      "boundaries or use a different regex engine"

/-- A part that stands for one character or for a place between two.  A character may be written as
the byte that has its number; a class is that of the digits, blanks or word characters, or of all
other characters; an edge is a place where a line, a text or a word begins or ends. -/
inductive Primitive where
  | char (c : Char) (byte : Bool)
  | anyChar
  | oneOf (negated : Bool)
  | edge (ofWord : Bool)
deriving DecidableEq, Repr

/-- How a part is read: for characters of all scripts or of ASCII alone, for letters of any case or
of the written one, and with or without blanks and comments between its characters. -/
structure Mode where
  unicode : Bool
  caseless : Bool
  spaced : Bool
deriving DecidableEq, Repr

namespace Mode

/-- The mode at the start of a pattern. -/
def initial : Mode := ⟨true, false, false⟩

/-- A text without the blanks and comments at its start, which may be inside a comment. -/
def skipFrom (comment : Bool) : List Char → List Char
  | [] => []
  | c :: rest =>
    if comment then skipFrom (c != '\n') rest
    else if Text.isBlank c then skipFrom false rest
    else if c = '#' then skipFrom true rest
    else c :: rest

/-- A text without what the mode passes over at its start. -/
def skip (m : Mode) (cs : List Char) : List Char := if m.spaced then skipFrom false cs else cs

/-- The next character of a text, blanks and the mark of one comment apart if the mode passes over
them. -/
def peek? (m : Mode) (cs : List Char) : Option Char :=
  if m.spaced then
    match cs.dropWhile Text.isBlank with
    | '#' :: rest => (rest.dropWhile Text.isBlank).head?
    | rest => rest.head?
  else cs.head?

/-- The mode admits a part outside of brackets.  In ASCII mode no part may match a byte that is not
ASCII. -/
def admits (m : Mode) : Primitive → Bool
  | .char c byte => if m.unicode then !m.caseless else !byte || c.toNat < 0x80
  | .anyChar => m.unicode
  | .oneOf negated => !m.unicode && !negated
  | .edge _ => true

/-- The mode admits a part as a member of a set in brackets. -/
def admitsMember (m : Mode) : Primitive → Bool
  | .char c _ => if m.unicode then !m.caseless else c.toNat < 0x80
  | .oneOf negated => !m.unicode && !negated
  | _ => false

/-- The mode admits the set of a named ASCII class, or of all other characters. -/
def admitsNamedClass (m : Mode) (negated : Bool) : Bool :=
  if m.unicode then !m.caseless else !negated

end Mode

/-- How deep the parts of a list are nested as one part, by how deep each of them is. -/
def jointDepth : List Nat → Nat
  | [] => 0
  | [depth] => depth
  | depths => depths.foldl max 0 + 1

end DocSearch.Pattern
