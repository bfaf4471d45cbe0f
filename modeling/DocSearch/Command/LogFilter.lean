import DocSearch.Pattern.Reader
import DocSearch.Telemetry.Event
import DocSearch.Text.Alphanumeric
import DocSearch.Text.Blank
import DocSearch.Text.Split

/-!
# Filters of the log

A `LogFilter` decides which entries of the log are shown.  It is written as directives with commas
between them.  `Directive.ofText` reads one: a level, or a target with a level, and between them in
brackets a span that the directive is limited to and a field that an entry has to have, perhaps with
a value, which is a number or a pattern.  Of the directives that apply to an entry the one with the
longest target decides.
-/

namespace DocSearch.Command

/-- How much is shown. -/
inductive LogLevel where
  | off
  | error
  | warn
  | info
  | debug
  | trace
deriving DecidableEq, Repr

namespace LogLevel

/-- All levels, each showing more than those before it. -/
def all : List LogLevel := [.off, .error, .warn, .info, .debug, .trace]

/-- The name of a level. -/
def name : LogLevel → String
  | .off => "off"
  | .error => "error"
  | .warn => "warn"
  | .info => "info"
  | .debug => "debug"
  | .trace => "trace"

/-- The place of a level among all. -/
def rank (level : LogLevel) : Nat := all.idxOf level

/-- The number that digits write. -/
def number? (digits : List Char) : Option Nat :=
  if digits.isEmpty || !digits.all Char.isDigit then none
  else some (digits.foldl (fun n c => 10 * n + (c.toNat - '0'.toNat)) 0)

/-- The number that digits write, perhaps after a plus sign. -/
def signedNumber? : List Char → Option Nat
  | '+' :: digits => number? digits
  | digits => number? digits

/-- The level that a text names, in letters of any case or by its place. -/
def ofText? (cs : List Char) : Option LogLevel :=
  match signedNumber? cs with
  | some n => all[n]?
  | none => all.find? fun level => level.name.toList == cs.map Char.toLower

/-- The least level that shows entries of a severity. -/
def ofSeverity : Severity → LogLevel
  | .trace => .trace
  | .info => .info
  | .warn => .warn
  | .error => .error

end LogLevel

/-- Why a directive cannot be read. -/
inductive DirectiveFault where
  | malformed
  | unknownLevel
  | value (fault : Pattern.Fault)
deriving DecidableEq, Repr

/-- The message of a fault. -/
def DirectiveFault.message : DirectiveFault → String
  | .malformed => "invalid filter directive"
  | .unknownLevel =>
    "error parsing level filter: expected one of " ++
      "\"off\", \"error\", \"warn\", \"info\", \"debug\", \"trace\", or a number 0-5"
  | .value fault => "invalid field filter: " ++ fault.message

/-- What a directive is limited to: entries with a field, and entries inside a span. -/
structure Scope where
  field : Option String
  inSpan : Bool
deriving DecidableEq, Repr

/-- No limit. -/
def Scope.everywhere : Scope := ⟨none, false⟩

/-- A level for the targets that begin with a text, within a scope. -/
structure Directive where
  target : String
  scope : Scope
  level : LogLevel
deriving DecidableEq, Repr

namespace Directive

/-- The number of bytes of a text in UTF-8. -/
def byteCount (cs : List Char) : Nat := (String.ofList cs).utf8ByteSize

/-- The characters within the first `n` bytes of a text. -/
def takeBytes : Nat → List Char → List Char
  | _, [] => []
  | n, c :: rest => if c.utf8Size ≤ n then c :: takeBytes (n - c.utf8Size) rest else []

/-- The characters after the first `n` bytes of a text. -/
def dropBytes : Nat → List Char → List Char
  | _, [] => []
  | n, c :: rest => if n = 0 then c :: rest else dropBytes (n - c.utf8Size) rest

/-- The characters between two places of a text, counted in bytes. -/
def cut (text : List Char) (first last : Nat) : List Char :=
  takeBytes (last - first) (dropBytes first text)

/-- A text without blanks at its ends. -/
def trim (cs : List Char) : List Char :=
  ((cs.dropWhile Text.isBlank).reverse.dropWhile Text.isBlank).reverse

/-- A character that a target may begin with. -/
def beginsTarget (c : Char) : Bool := Text.isAlphanumeric c || c = '_' || c = ':' || c = '-'

/-- A directive whose level is written by a text; an empty one stands for all entries. -/
def withLevel (target : List Char) (scope : Scope) (level : List Char) :
    Except DirectiveFault Directive :=
  if level.isEmpty then .ok ⟨String.ofList target, scope, .trace⟩
  else
    match LogLevel.ofText? level with
    | some level => .ok ⟨String.ofList target, scope, level⟩
    | none => .error .unknownLevel

/-- The directive that a single word is: a level for all targets, or else a target that is shown in
full. -/
def ofWord (word : List Char) : Directive :=
  match LogLevel.ofText? word with
  | some level => ⟨"", .everywhere, level⟩
  | none => ⟨String.ofList word, .everywhere, .trace⟩

/-- A text is a number in decimal, without a sign. -/
def isDecimal (cs : List Char) : Bool :=
  let whole := cs.takeWhile Char.isDigit
  let rest := cs.drop whole.length
  let places := if rest.head? = some '.' then (rest.drop 1).takeWhile Char.isDigit else []
  let rest := if rest.head? = some '.' then rest.drop (places.length + 1) else rest
  !(whole.isEmpty && places.isEmpty) &&
    match rest with
    | [] => true
    | e :: '+' :: digits | e :: '-' :: digits | e :: digits =>
      e.toLower = 'e' && !digits.isEmpty && digits.all Char.isDigit

/-- A text is a number, or one of the names of what is no finite number. -/
def isNumber (cs : List Char) : Bool :=
  let magnitude := if cs.head? = some '+' ∨ cs.head? = some '-' then cs.drop 1 else cs
  isDecimal magnitude ||
    ["inf", "infinity", "nan"].any fun name => name.toList == magnitude.map Char.toLower

/-- The scope of a field, which may have a value and be that of a named span; only spans are tested
for values.  The value ends at the second equals sign. -/
def fieldScope (named : Bool) (field : List Char) : Except DirectiveFault Scope :=
  let name := field.takeWhile (· != '=')
  match field.drop name.length with
  | [] => .ok ⟨some (String.ofList name), named⟩
  | _ :: rest =>
    let value := rest.takeWhile (· != '=')
    if isNumber value then .ok ⟨some (String.ofList name), true⟩
    else
      match Pattern.check value with
      | .ok () => .ok ⟨some (String.ofList name), true⟩
      | .error fault => .error (.value fault)

/-- Read what follows an opening bracket, where `place` counts the bytes before it. -/
def readScope (text target : List Char) (place : Nat) (cs : List Char) :
    Except DirectiveFault Directive :=
  let span := cs.takeWhile fun c => c != ']' && c != '\x7b'
  let place := place + byteCount span
  match cs.drop span.length with
  | ']' :: rest => finish ⟨none, true⟩ (place + 1) rest
  | '\x7b' :: rest =>
    let field := rest.takeWhile (· != '\x7d')
    let last := place + 1 + byteCount field
    match rest.drop field.length with
    | '\x7d' :: rest =>
      if field.isEmpty then .error .malformed
      else
        match fieldScope (!span.isEmpty) (cut text (place + 1) last), rest with
        | .ok scope, ']' :: rest => finish scope (last + 2) rest
        | .ok _, _ => .error .malformed
        | .error fault, _ => .error fault
    | _ => .error .malformed
  | _ => .error .malformed
where
  /-- Read what follows the closing bracket. -/
  finish (scope : Scope) (place : Nat) : List Char → Except DirectiveFault Directive
    | [] => withLevel target scope []
    | '=' :: _ => withLevel target scope (dropBytes (place + 1) text)
    | _ => .error .malformed

/-- The directive that a text writes.  Its marks are looked for after the blanks at its start, but
its parts are cut from the text as it stands. -/
def ofText (text : List Char) : Except DirectiveFault Directive :=
  match trim text with
  | [] => .error .malformed
  | '[' :: rest => readScope text [] 1 rest
  | first :: rest =>
    if !beginsTarget first then .error .malformed
    else
      let name := first :: rest.takeWhile fun c => c != '=' && c != '['
      let place := byteCount name
      match (first :: rest).drop name.length with
      | '=' :: _ => withLevel (cut text 0 place) .everywhere (dropBytes (place + 1) text)
      | '[' :: rest => readScope text (cut text 0 place) (place + 1) rest
      | _ => .ok (ofWord text)

/-- The target of all entries of the log. -/
def entryTarget : String := "aerosearch"

/-- The fields of all entries of the log. -/
def entryFields : List String := ["event_name", "message"]

/-- A directive applies to the entries of the log, none of which is inside a span. -/
def applies (d : Directive) : Bool :=
  d.target.toList.isPrefixOf entryTarget.toList && d.scope.field.all entryFields.contains &&
    !d.scope.inSpan

/-- The place of the field of a directive: none, and then the fields of an entry in order. -/
def fieldRank (d : Directive) : Nat :=
  match d.scope.field with
  | some field => entryFields.idxOf field + 1
  | none => 0

/-- A directive is less specific than another one: its target is shorter, or it is as long and its
field comes first. -/
def lessSpecific (d other : Directive) : Bool :=
  d.target.length < other.target.length ||
    (d.target.length == other.target.length && d.fieldRank < other.fieldRank)

end Directive

/-- A filter of the log. -/
structure LogFilter where
  directives : List Directive
deriving DecidableEq, Repr

namespace LogFilter

/-- The directives that a text writes, those that are empty left out. -/
def parts (s : String) : List (List Char) :=
  (Text.splitAt ',' s.toList).filter fun part => !part.isEmpty

/-- The filter that a text writes, if all its directives can be read. -/
def ofText? (s : String) : Option LogFilter :=
  ((parts s).mapM fun part => (Directive.ofText part).toOption).map .mk

/-- The filter that a text writes, without the directives that cannot be read. -/
def ofText (s : String) : LogFilter :=
  ⟨(parts s).filterMap fun part => (Directive.ofText part).toOption⟩

/-- The directives of a text that cannot be read, with the reasons. -/
def unreadable (s : String) : List (String × DirectiveFault) :=
  (parts s).filterMap fun part =>
    match Directive.ofText part with
    | .ok _ => none
    | .error fault => some (String.ofList part, fault)

/-- The directive that decides: the most specific one, and of several the last. -/
def deciding? (filter : LogFilter) : Option Directive :=
  (filter.directives.filter Directive.applies).foldl
    (fun best d =>
      match best with
      | some b => if d.lessSpecific b then some b else some d
      | none => some d)
    none

/-- The level that a filter shows; only errors when it has no directives. -/
def level (filter : LogFilter) : LogLevel :=
  if filter.directives.isEmpty then .error
  else (filter.deciding?.map Directive.level).getD .off

/-- A filter shows an entry. -/
def shows (filter : LogFilter) (r : LogRecord) : Bool :=
  decide ((LogLevel.ofSeverity r.severity).rank ≤ filter.level.rank)

end LogFilter

end DocSearch.Command
