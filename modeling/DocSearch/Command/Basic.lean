import DocSearch.Command.Arguments
import DocSearch.Command.Error
import DocSearch.Command.LogFilter
import DocSearch.Json.Parser
import DocSearch.Provider.Basic
import DocSearch.Query.Decoding
import DocSearch.Text.Shown

/-!
# Commands

`Command.translate` shows the request for a query, and `Command.query` runs a query over
documents; both read their input from files and need no engine but one in memory.  `Command.run`
reads the configuration first and then carries out a command, and reports its result with the
notices on the way.
-/

namespace DocSearch.Command

/-- How the texts of files are read. -/
abbrev Files := String → Except ReadFailure String

/-- The text of a file. -/
def readText (files : Files) (path : String) : Except CommandError String :=
  (files path).mapError (.unreadable path)

/-- A file read by a reader of texts. -/
def readFile {α : Type} (files : Files) (path : String) (read : String → Option α) :
    Except CommandError α := do
  match read (← readText files path) with
  | some value => return value
  | none => throw (.malformed path)

/-- The id of a document at a position: its `id`, if that is a text or a number, or else the
position. -/
def documentId (position : Nat) (document : Json) : String :=
  match document.get? "id" with
  | some (.str s) => s
  | some (.num n) => String.ofList n.text
  | _ => toString position

/-- Documents with their ids, where `position` is the position of the first. -/
def keyedFrom (position : Nat) : List Json → Except CommandError (List (String × Json))
  | [] => .ok []
  | document :: rest => do
    if !document.isObject then throw (.notObject position)
    return (documentId position document, document) :: (← keyedFrom (position + 1) rest)

/-- Documents with their ids; all of them have to be objects. -/
def keyedDocuments (documents : List Json) : Except CommandError (List (String × Json)) :=
  keyedFrom 0 documents

/-- The values of an array that a text writes. -/
def parseDocuments? (text : String) : Option (List Json) :=
  (Json.parse? text).bind (Json.listOf? some)

/-- The provider for an index under a configuration. -/
def provider (config : Config) (index : String) : Provider Json :=
  ⟨config.indexPrefix ++ index, some⟩

/-- The result of a command, and the log of carrying it out. -/
abbrev Outcome := Except CommandError Json × List LogRecord

/-- The index and the body of a request. -/
def requestToJson (r : SearchRequest) : Json := .obj [("body", r.toJson), ("index", .str r.index)]

/-- What a query yields. -/
def outputToJson : Output Json → Json
  | .documents items => .obj [("hits", .arr items)]
  | .count n => .obj [("count", .ofInt n.toInt)]

/-- Show the request for the query of a file. -/
def translate (files : Files) (queryPath index : String) (config : Config) : Outcome :=
  match readFile files queryPath Query.ofText? with
  | .error e => (.error e, [])
  | .ok q =>
    let (request, s) :=
      (provider config index).requestFor q none none (.start (.memory .empty))
    ((request.map requestToJson).mapError .query, s.log)

/-- The query of one file and the documents of another, with their ids. -/
def readInput (files : Files) (queryPath dataPath : String) :
    Except CommandError (Query × List (String × Json)) := do
  let q ← readFile files queryPath Query.ofText?
  let documents ← readFile files dataPath parseDocuments?
  return (q, ← keyedDocuments documents)

/-- Run the query of a file over the documents of another. -/
def query (files : Files) (queryPath dataPath index : String) (config : Config) : Outcome :=
  match readInput files queryPath dataPath with
  | .error e => (.error e, [])
  | .ok (q, rows) =>
    let engine := Memory.empty.insertAll (config.indexPrefix ++ index) rows
    let (output, s) := (provider config index).execute q none (.start (.memory engine))
    ((output.map outputToJson).mapError .query, s.log)

/-- Carry out a command under a configuration. -/
def perform (files : Files) (arguments : Arguments) (config : Config) : Outcome :=
  match arguments.task with
  | .translate => translate files arguments.query arguments.index config
  | .query data => query files arguments.query data arguments.index config

/-- The configuration of a file, or the one that sets nothing. -/
def loadConfig (files : Files) : Option String → Except ConfigError Config
  | none => .ok .default
  | some path =>
    match files path with
    | .error failure => .error (.unreadable failure.message)
    | .ok text => Config.ofText text

/-- The entry of the log for a configuration that was read from a file. -/
def loadedRecord (config : Config) : Option String → List LogRecord
  | none => []
  | some path =>
    [.ofEvent .configLoaded [("indices", toString config.indexes.size), ("path", path)]]

/-- The filter of the log: the one of the environment if it can be read, or else the configured
one. -/
def logFilter (environment : Option String) (configured : String) : LogFilter :=
  (environment.bind LogFilter.ofText?).getD (LogFilter.ofText configured)

/-- What is told on the standard error: an entry of the log, a directive of the configured filter
that is left out, or why the command fails. -/
inductive Notice where
  | record (r : LogRecord)
  | ignored (directive : String) (fault : DirectiveFault)
  | failure (e : CommandError)
deriving DecidableEq, Repr

/-- An entry of the log as it is shown. -/
def recordText (r : LogRecord) : String :=
  r.severity.name ++ " " ++ Text.guarded r.line ++ " event_name=" ++ Text.shown r.event

/-- The text of a notice. -/
def Notice.text : Notice → String
  | .record r => recordText r
  | .ignored directive fault => "ignoring `" ++ directive ++ "`: " ++ fault.message
  | .failure e => e.line

/-- The notices of a filter on entries of the log. -/
def LogFilter.notices (filter : LogFilter) (log : List LogRecord) : List Notice :=
  (log.filter filter.shows).map .record

/-- The notices on the directives of a configured filter that cannot be read, which is looked at
only when the one of the environment cannot be read. -/
def ignoredNotices (environment : Option String) (configured : String) : List Notice :=
  if (environment.bind LogFilter.ofText?).isSome then []
  else (LogFilter.unreadable configured).map fun (directive, fault) => .ignored directive fault

/-- The result of a command, and the notices on the way.  The configured filter of the log counts
once the configuration is read. -/
def run (files : Files) (environment : Option String) (arguments : Arguments) :
    Except CommandError Json × List Notice :=
  match loadConfig files arguments.config with
  | .error e => (.error (.config e), [.failure (.config e)])
  | .ok config =>
    let (result, log) := perform files arguments config
    (result,
      (logFilter environment Config.defaultLogFilter).notices
          (loadedRecord config arguments.config) ++
        ignoredNotices environment config.logFilter ++
        (logFilter environment config.logFilter).notices log ++
        match result with
        | .ok _ => []
        | .error e => [.failure e])

/-- The name and the version of the program. -/
def versionText : String := "aerosearch 0.1.0\n"

/-- What is written on the standard output, what is told on the standard error, and the exit
status. -/
structure Report where
  output : String
  notices : List Notice
  status : Nat
deriving DecidableEq, Repr

/-- What the program does for its arguments; its help is left to the caller. -/
def report (files : Files) (environment : Option String) (arguments : List String) : Report :=
  match Arguments.parse arguments with
  | .error e => ⟨if e = .versionRequested then versionText else "", [], e.exitStatus⟩
  | .ok arguments =>
    match run files environment arguments with
    | (.ok result, notices) => ⟨result.pretty ++ "\n", notices, 0⟩
    | (.error _, notices) => ⟨"", notices, 1⟩

end DocSearch.Command
