import DocSearch.Json.Quoted

/-!
# Events

What is worth a line in the log.  A `LogRecord` is an event with named fields, and
`LogRecord.line` its line: an object with the event and the severity first and then the fields in
the order of their names.
-/

namespace DocSearch

/-- How much an event matters. -/
inductive Severity where
  | trace
  | info
  | warn
  | error
deriving DecidableEq, Repr

namespace Severity

/-- The name of a severity. -/
def name : Severity → String
  | .trace => "TRACE"
  | .info => "INFO"
  | .warn => "WARN"
  | .error => "ERROR"

/-- The severity with a name. -/
def ofName? (name : String) : Option Severity :=
  [trace, info, warn, error].find? (·.name == name)

end Severity

/-- What happens in queries, in the replay of changes and with the configuration. -/
inductive Event where
  | queryTranslated
  | queryRejected
  | queryExecuted
  | queryRemoteFailed
  | changeApplied
  | changeRejected
  | replayComplete
  | configLoaded
deriving DecidableEq, Repr

namespace Event

/-- All events. -/
def all : List Event :=
  [.queryTranslated, .queryRejected, .queryExecuted, .queryRemoteFailed, .changeApplied,
    .changeRejected, .replayComplete, .configLoaded]

/-- The name of an event. -/
def name : Event → String
  | .queryTranslated => "QUERY_TRANSLATED"
  | .queryRejected => "QUERY_REJECTED"
  | .queryExecuted => "QUERY_EXECUTED"
  | .queryRemoteFailed => "QUERY_REMOTE_FAILED"
  | .changeApplied => "CHANGE_APPLIED"
  | .changeRejected => "CHANGE_REJECTED"
  | .replayComplete => "REPLAY_COMPLETE"
  | .configLoaded => "CONFIG_LOADED"

/-- How much an event matters. -/
def severity : Event → Severity
  | .queryTranslated => .trace
  | .queryRejected | .changeRejected => .warn
  | .queryRemoteFailed => .error
  | .queryExecuted | .changeApplied | .replayComplete | .configLoaded => .info

end Event

/-- An entry of the log. -/
structure LogRecord where
  severity : Severity
  event : String
  fields : List (String × String)
deriving DecidableEq, Repr

namespace LogRecord

/-- The entry of an event. -/
def ofEvent (event : Event) (fields : List (String × String)) : LogRecord :=
  ⟨event.severity, event.name, fields⟩

/-- A member of a line. -/
def memberChars (name value : String) : List Char := Json.quoted name ++ ':' :: Json.quoted value

/-- The fields in the order of their names; those of one name as they stand. -/
def sortedFields (r : LogRecord) : List (String × String) :=
  r.fields.mergeSort fun a b => decide (a.1 ≤ b.1)

/-- The line of an entry. -/
def line (r : LogRecord) : String :=
  String.ofList
    ('\x7b' :: memberChars "event" r.event ++ ',' :: memberChars "severity" r.severity.name ++
      r.sortedFields.flatMap (fun field => ',' :: memberChars field.1 field.2) ++ ['\x7d'])

end LogRecord

end DocSearch
