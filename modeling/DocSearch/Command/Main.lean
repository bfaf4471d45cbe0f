import DocSearch.Command.Basic

/-!
# The program

The program reads the files that its arguments name, carries out a command, and writes the result
on the standard output and everything else on the standard error.
-/

namespace DocSearch.Command

/-- The failure that an error of the file system means; the code of an error has either sign. -/
def ReadFailure.ofError : IO.Error → ReadFailure
  | .noFileOrDirectory .. | .noSuchThing .. => .notFound
  | .inappropriateType _ code _ =>
    if code = 20 ∨ code = 0 - 20 then .notDirectory else .directory
  | .invalidArgument _ code detail =>
    if code = 36 ∨ code = 0 - 36 then .nameTooLong else .other detail
  | e => .other (toString e)

/-- Read a file as a text. -/
def readFileText (path : String) : IO (Except ReadFailure String) := do
  try
    match String.fromUTF8? (← IO.FS.readBinFile path) with
    | some text => return .ok text
    | none => return .error .notText
  catch e => return .error (.ofError e)

/-- The paths that arguments name. -/
def Arguments.paths (a : Arguments) : List String :=
  a.config.toList ++ a.query ::
    match a.task with
    | .translate => []
    | .query data => [data]

/-- How the program is called. -/
def usageText : String :=
  "Usage:\n" ++
  "  aerosearch translate --query <file> [--config <file>] [--index <name>]\n" ++
  "  aerosearch query --query <file> --data <file> [--config <file>] [--index <name>]\n"

/-- The files that arguments name, read once. -/
def readAll (arguments : List String) : IO Files := do
  match Arguments.parse arguments with
  | .error _ => return fun _ => .error .notFound
  | .ok a =>
    let texts ← a.paths.mapM fun path => do return (path, ← readFileText path)
    return fun path => (texts.lookup path).getD (.error .notFound)

/-- Write the help for arguments that cannot be used. -/
def writeUsage (arguments : List String) : IO Unit := do
  match Arguments.parse arguments with
  | .error .helpRequested => IO.print usageText
  | .error .versionRequested | .ok _ => return
  | .error _ => IO.eprint usageText

end DocSearch.Command

open DocSearch.Command in
/-- Run the program. -/
def main (arguments : List String) : IO UInt32 := do
  let files ← readAll arguments
  let result := report files (← IO.getEnv "RUST_LOG") arguments
  for notice in result.notices do
    IO.eprintln notice.text
  writeUsage arguments
  IO.print result.output
  return UInt32.ofNat result.status
