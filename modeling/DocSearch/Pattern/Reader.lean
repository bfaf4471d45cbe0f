import DocSearch.Pattern.Bracket
import DocSearch.Text.Alphanumeric

/-!
# Reading patterns

`Pattern.check` tells whether a text is a pattern.  It is read part by part, with the open groups
kept in a list, each with the mode that holds in it and how deep its parts are nested.
-/

namespace DocSearch.Pattern

/-- A part that has been read: how deep it is nested, and that it may be repeated. -/
structure Part where
  depth : Nat
  repeatable : Bool
deriving DecidableEq, Repr

/-- An open group, or the whole pattern: the mode that holds in it, how deep its alternatives before
the last bar are nested, and the parts since then, the last one first. -/
structure Group where
  mode : Mode
  alternatives : List Nat
  parts : List Part
deriving DecidableEq, Repr

namespace Group

/-- How deep the alternative that is being read is nested. -/
def lastDepth (g : Group) : Nat := jointDepth (g.parts.map Part.depth)

/-- How deep what stands in a group is nested. -/
def depth (g : Group) : Nat := jointDepth (g.lastDepth :: g.alternatives)

/-- A group with one more part. -/
def add (g : Group) (part : Part) : Group := { g with parts := part :: g.parts }

/-- A group after a bar. -/
def bar (g : Group) : Group := ⟨g.mode, g.lastDepth :: g.alternatives, []⟩

/-- A group whose last part is repeated. -/
def repeat? (g : Group) : Option Group :=
  match g.parts with
  | ⟨depth, true⟩ :: parts => some { g with parts := ⟨depth + 1, true⟩ :: parts }
  | _ => none

end Group

/-- A reader of patterns: the innermost group, the groups around it, the sets in brackets that are
open, the names of groups so far, and that a word edge of all scripts has been read. -/
structure Reader where
  group : Group
  outer : List Group
  brackets : List Bracket
  names : List (List Char)
  wordEdge : Bool
deriving DecidableEq, Repr

namespace Reader

/-- The reader before the first part. -/
def start : Reader := ⟨⟨.initial, [], []⟩, [], [], [], false⟩

/-- The reader inside a group in which a mode holds. -/
def openGroup (r : Reader) (m : Mode) : Reader :=
  { r with group := ⟨m, [], []⟩, outer := r.group :: r.outer }

/-- The reader after the group is closed. -/
def closeGroup? (r : Reader) : Option Reader :=
  match r.outer with
  | [] => none
  | g :: outer => some { r with group := g.add ⟨r.group.depth + 1, true⟩, outer := outer }

/-- A text names a group. -/
def isName : List Char → Bool
  | [] => false
  | c :: rest =>
    (c = '_' || Text.isAlphabetic c) &&
      rest.all fun d => ['_', '.', '[', ']'].contains d || Text.isAlphanumeric d

/-- The reader inside a named group, after its name. -/
def openNamed? (r : Reader) (cs : List Char) : Option (Reader × List Char) :=
  let name := cs.takeWhile (· != '>')
  match cs.drop name.length with
  | '>' :: rest =>
    if isName name && !r.names.contains name then
      some ({ r.openGroup r.group.mode with names := name :: r.names }, rest)
    else none
  | _ => none

/-- The characters that switch a mode on, or after a hyphen off. -/
def switches : List Char := ['i', 'm', 's', 'U', 'u', 'R', 'x']

/-- A text is a list of switches, none of them twice and not a hyphen at the end. -/
def areSwitches (cs : List Char) : Bool :=
  cs.all ('-' :: switches).contains && decide cs.Nodup && cs.getLast? != some '-'

/-- What a list of switches makes of a setting. -/
def switched (cs : List Char) (switch : Char) (setting : Bool) : Bool :=
  (setting && !(cs.dropWhile (· != '-')).contains switch) ||
    (cs.takeWhile (· != '-')).contains switch

/-- What a list of switches makes of a mode. -/
def switchMode (cs : List Char) (m : Mode) : Mode :=
  ⟨switched cs 'u' m.unicode, switched cs 'i' m.caseless, switched cs 'x' m.spaced⟩

/-- The reader after switches, which hold up to the end of the group or in a group of their own. -/
def openSwitched? (r : Reader) (cs : List Char) : Option (Reader × List Char) :=
  let items := cs.takeWhile fun c => c != ':' && c != ')'
  let mode := switchMode items r.group.mode
  if !areSwitches items then none
  else
    match cs.drop items.length with
    | ':' :: rest => some (r.openGroup mode, rest)
    | ')' :: rest =>
      if items.isEmpty then none
      else some ({ r with group := { r.group.add ⟨0, false⟩ with mode := mode } }, rest)
    | _ => none

/-- The reader after an opening parenthesis and what tells the kind of its group. -/
def open? (r : Reader) (cs : List Char) : Option (Reader × List Char) :=
  match r.group.mode.skip cs with
  | '?' :: 'P' :: '<' :: rest | '?' :: '<' :: rest => r.openNamed? rest
  | '?' :: rest => r.openSwitched? rest
  | rest => some (r.openGroup r.group.mode, rest)

/-- The reader after a part that stands for one character or one place. -/
def addPrimitive? (r : Reader) (p : Primitive) : Option Reader :=
  if r.group.mode.admits p then
    some { r with
      group := r.group.add ⟨0, true⟩
      wordEdge := r.wordEdge || (p = .edge true && r.group.mode.unicode) }
  else none

/-- The reader after the mark of a repetition, and the rest of the text without the mark that makes
it lazy. -/
def repeat? (r : Reader) (rest : List Char) : Option (Reader × List Char) :=
  r.group.repeat?.map fun g =>
    ({ r with group := g }, if rest.head? = some '?' then rest.drop 1 else rest)

/-- The reader after a part of the sets in brackets. -/
def takeBrackets (r : Reader) : Brackets → Reader
  | .inside b outer => { r with brackets := b :: outer }
  | .closed depth => { r with brackets := [], group := r.group.add ⟨depth, true⟩ }

/-- The reader after one more part, and the rest of the text.  A counted repetition is not a
pattern, as it ends with a closing brace. -/
def step? (r : Reader) (c : Char) (rest : List Char) : Option (Reader × List Char) :=
  let mode := r.group.mode
  match r.brackets with
  | b :: outer =>
    (b.step? mode outer c rest).map fun (brackets, rest) => (r.takeBrackets brackets, rest)
  | [] =>
    if c = '(' then r.open? rest
    else if c = ')' then r.closeGroup?.map (·, rest)
    else if c = '|' then some ({ r with group := r.group.bar }, rest)
    else if c = '[' then
      (Bracket.open? mode rest).map fun (b, rest) => ({ r with brackets := [b] }, rest)
    else if c = '?' ∨ c = '*' ∨ c = '+' then r.repeat? rest
    else if c = '\x7b' then none
    else if c = '\\' then do
      let (p, rest) ← readEscape? mode rest
      (r.addPrimitive? p).map (·, rest)
    else if c = '.' then (r.addPrimitive? .anyChar).map (·, rest)
    else if c = '^' ∨ c = '$' then (r.addPrimitive? (.edge false)).map (·, rest)
    else (r.addPrimitive? (.char c false)).map (·, rest)

/-- The reader at the end of a text that has at most `n` parts. -/
def readFrom? : Nat → Reader → List Char → Option Reader
  | n, r, cs =>
    match r.group.mode.skip cs, n with
    | [], _ => some r
    | _, 0 => none
    | c :: rest, n + 1 => do
      let (r, rest) ← r.step? c rest
      readFrom? n r rest

/-- How deep the parts of a pattern may be nested. -/
def depthLimit : Nat := 250

/-- All groups and sets are closed, and no part is nested too deep. -/
def isComplete (r : Reader) : Bool :=
  r.outer.isEmpty && r.brackets.isEmpty && r.group.depth ≤ depthLimit

end Reader

/-- Whether a text without closing braces is a pattern that can be matched.  A part has at least one
character, so there are at most as many parts as characters. -/
def check (cs : List Char) : Except Fault Unit :=
  match Reader.readFrom? cs.length .start cs with
  | some r =>
    if !r.isComplete then .error .malformed
    else if r.wordEdge then .error .wordEdge
    else .ok ()
  | none => .error .malformed

end DocSearch.Pattern
