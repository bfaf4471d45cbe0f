import DocSearch.Config
import DocSearch.Provider.Error

/-!
# Errors of commands

Why a command fails, with the line that tells so.
-/

namespace DocSearch.Command

/-- Why the text of a file cannot be read. -/
inductive ReadFailure where
  | notFound
  | notDirectory
  | directory
  | nameTooLong
  | notText
  | other (reason : String)
deriving DecidableEq, Repr

/-- The message of a failure. -/
def ReadFailure.message : ReadFailure → String
  | .notFound => "No such file or directory (os error 2)"
  | .notDirectory => "Not a directory (os error 20)"
  | .directory => "Is a directory (os error 21)"
  | .nameTooLong => "File name too long (os error 36)"
  | .notText => "stream did not contain valid UTF-8"
  | .other reason => reason

/-- Why a command fails. -/
inductive CommandError where
  | config (e : ConfigError)
  | unreadable (path : String) (failure : ReadFailure)
  | malformed (path : String)
  | notObject (position : Nat)
  | query (e : QueryError)
deriving DecidableEq, Repr

namespace CommandError

/-- The code of an error. -/
def code : CommandError → String
  | .config _ => "AERO_CLI_CONFIG_ERROR"
  | .unreadable .. => "AERO_CLI_IO_ERROR"
  | .malformed _ | .notObject _ => "AERO_CLI_INVALID_INPUT"
  | .query _ => "AERO_CLI_QUERY_FAILED"

/-- The message of an error. -/
def message : CommandError → String
  | .config e => e.message
  | .unreadable path failure => path ++ ": " ++ failure.message
  | .malformed path => path ++ ": not JSON of the expected form"
  | .notObject position => "document " ++ toString position ++ " is not a JSON object"
  | .query e => e.message ++ " (" ++ e.code ++ ")"

/-- The line of an error. -/
def line (e : CommandError) : String := e.code ++ ": " ++ e.message

end CommandError

end DocSearch.Command
