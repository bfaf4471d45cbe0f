import DocSearch.Pattern.Escape

/-!
# Sets in brackets

A pattern may hold a set of characters in brackets, with members, ranges, named classes, sets in
brackets inside it, and operators between operands that may be empty.  `Bracket.step?` reads one
part of the innermost open set.
-/

namespace DocSearch.Pattern

/-- An open set: it has no part yet but hyphens, how deep the operand before its last operator is
nested, and how deep each of the members since then. -/
structure Bracket where
  fresh : Bool
  operand : Option Nat
  members : List Nat
deriving DecidableEq, Repr

/-- Open sets, the innermost one first, or else a closed set that is nested so deep. -/
inductive Brackets where
  | inside (innermost : Bracket) (outer : List Bracket)
  | closed (depth : Nat)
deriving DecidableEq, Repr

namespace Bracket

/-- How deep what stands in an open set is nested. -/
def depth (b : Bracket) : Nat :=
  match b.operand with
  | none => jointDepth b.members
  | some left => max left (jointDepth b.members) + 1

/-- A set with one more member. -/
def add (b : Bracket) (depth : Nat) : Bracket := ⟨false, b.operand, depth :: b.members⟩

/-- A set after an operator. -/
def operate (b : Bracket) : Bracket := ⟨false, some b.depth, []⟩

/-- A set whose bracket has just been read, with the rest of the text.  The complement of a set is
not ASCII. -/
def open? (m : Mode) (cs : List Char) : Option (Bracket × List Char) :=
  match m.skip cs with
  | '^' :: rest => if m.unicode then some (⟨true, none, []⟩, rest) else none
  | rest => some (⟨true, none, []⟩, rest)

/-- The names of the ASCII classes. -/
def classNames : List String :=
  ["alnum", "alpha", "ascii", "blank", "cntrl", "digit", "graph", "lower", "print", "punct",
    "space", "upper", "word", "xdigit"]

/-- A named class after its opening bracket: it is negated, and the rest of the text. -/
def namedClass? : List Char → Option (Bool × List Char)
  | ':' :: cs =>
    let negated := cs.head? == some '^'
    let cs := if negated then cs.drop 1 else cs
    let name := cs.takeWhile (· != ':')
    match cs.drop name.length with
    | ':' :: ']' :: rest =>
      if classNames.contains (String.ofList name) then some (negated, rest) else none
    | _ => none
  | _ => none

/-- A character or a class as a member of a set. -/
def readMember? (m : Mode) : List Char → Option (Primitive × List Char)
  | [] => none
  | '\\' :: rest => readEscape? m rest
  | c :: rest => some (.char c false, rest)

/-- The rest of a text after a member, or after a range from one character to another that is not
before it. -/
def readRange? (m : Mode) (cs : List Char) : Option (List Char) := do
  let (first, cs) ← readMember? m cs
  if !m.admitsMember first then none
  else
    match m.skip cs with
    | '-' :: rest =>
      if m.peek? rest == some ']' || m.peek? rest == some '-' then some ('-' :: rest)
      else
        match first, ← readMember? m (m.skip rest) with
        | .char a _, (.char b byte, rest) =>
          if a ≤ b && m.admitsMember (.char b byte) then some rest else none
        | _, _ => none
    | rest => some rest

/-- The sets after a closing bracket. -/
def close (b : Bracket) : List Bracket → Brackets
  | [] => .closed (b.depth + 1)
  | outer :: more => .inside (outer.add (b.depth + 1)) more

/-- The sets after one more part of the innermost one, and the rest of the text. -/
def step? (m : Mode) (b : Bracket) (outer : List Bracket) (c : Char) (rest : List Char) :
    Option (Brackets × List Char) :=
  if b.fresh && (c = '-' || (c = ']' && b.members.isEmpty)) then
    if m.admitsMember (.char c false) then
      some (.inside ⟨c = '-', none, 0 :: b.members⟩ outer, rest)
    else none
  else
    match c, rest with
    | ']', rest => some (b.close outer, rest)
    | '[', rest =>
      match namedClass? rest with
      | some (negated, rest) =>
        if m.admitsNamedClass negated then some (.inside (b.add 0) outer, rest) else none
      | none => (open? m rest).map fun (inner, rest) => (.inside inner (b :: outer), rest)
    | '&', '&' :: rest | '-', '-' :: rest | '~', '~' :: rest =>
      some (.inside b.operate outer, rest)
    | c, rest => (readRange? m (c :: rest)).map fun rest => (.inside (b.add 0) outer, rest)

end Bracket

end DocSearch.Pattern
