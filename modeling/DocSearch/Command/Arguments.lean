/-!
# Arguments of the command line

`Arguments.parse` reads the arguments after the name of the program.  They are read from left to
right, and the first mistake is reported.  An option takes the next argument as its value, unless
that begins with a dash; its value is checked when the next option is read or the arguments end.
-/

namespace DocSearch.Command

/-- Why there are no arguments to run a command with: help or the version is asked for, or there
is a mistake. -/
inductive UsageError where
  | helpRequested
  | versionRequested
  | nothingGiven
  | unknownCommand
  | unknownArgument
  | badValue
  | repeatedOption
  | missingOption
  | valueForFlag
deriving DecidableEq, Repr

/-- The exit status of the program. -/
def UsageError.exitStatus : UsageError → Nat
  | .helpRequested | .versionRequested => 0
  | _ => 2

/-- The commands of the program. -/
inductive Verb where
  | translate
  | query
deriving DecidableEq, Repr

/-- The name of a command. -/
def Verb.name : Verb → String
  | .translate => "translate"
  | .query => "query"

/-- The command with a name. -/
def Verb.ofName? (name : String) : Option Verb :=
  [Verb.translate, .query].find? (·.name == name)

/-- The options that have a value. -/
inductive Setting where
  | query
  | data
  | config
  | index
deriving DecidableEq, Repr

namespace Setting

/-- The name of an option. -/
def name : Setting → String
  | .query => "query"
  | .data => "data"
  | .config => "config"
  | .index => "index"

/-- The options of a command. -/
def ofVerb : Verb → List Setting
  | .translate => [.query, .config, .index]
  | .query => [.query, .data, .config, .index]

/-- The options of a command that have to be given. -/
def required : Verb → List Setting
  | .translate => [.query]
  | .query => [.query, .data]

/-- The option of a command with a name. -/
def ofName? (verb : Verb) (name : String) : Option Setting :=
  (ofVerb verb).find? (·.name == name)

/-- A text can be the value of an option; the path of a file is not empty. -/
def admits (setting : Setting) (value : String) : Bool :=
  match setting with
  | .index => true
  | _ => !value.isEmpty

end Setting

/-- The options read so far, the option that was read last while its value is not checked, and
whether only arguments without a dash may follow. -/
structure Reading where
  given : List (Setting × String)
  current : Option (Setting × Option String)
  onlyValues : Bool
deriving DecidableEq, Repr

namespace Reading

/-- Nothing has been read. -/
def start : Reading := ⟨[], none, false⟩

/-- Check the value of an option and keep it. -/
def give (r : Reading) (setting : Setting) (value : String) : Except UsageError Reading :=
  if r.given.any (·.1 == setting) then .error .repeatedOption
  else if setting.admits value then .ok { r with given := (setting, value) :: r.given }
  else .error .badValue

/-- Check the option that was read last. -/
def settle (r : Reading) : Except UsageError Reading :=
  match r.current with
  | none => .ok r
  | some (_, none) => .error .badValue
  | some (setting, some value) => { r with current := none }.give setting value

/-- Read an argument that begins with two dashes. -/
def readLong (verb : Verb) (r : Reading) (name : String) (value : Option String) :
    Except UsageError Reading :=
  match Setting.ofName? verb name, value with
  | some setting, none => do return { ← r.settle with current := some (setting, none) }
  | some setting, some value => do (← r.settle).give setting value
  | none, none => if name = "help" then r.settle.bind fun _ => .error .helpRequested
    else .error .unknownArgument
  | none, some _ => .error (if name = "help" then .valueForFlag else .unknownArgument)

/-- Read an argument that begins with one dash, where `c` is the character after it. -/
def readShort (r : Reading) (c : Char) : Except UsageError Reading :=
  if c = 'h' then r.settle.bind fun _ => .error .helpRequested else .error .unknownArgument

/-- Read an argument that does not begin with a dash: the value of the last option. -/
def readValue (r : Reading) (value : String) : Except UsageError Reading :=
  match r.current with
  | some (setting, none) => .ok { r with current := some (setting, some value) }
  | _ => .error .unknownArgument

/-- A text up to its first equals sign, and the text after it if there is one. -/
def splitValue (cs : List Char) : String × Option String :=
  (String.ofList (cs.takeWhile (· != '=')), (cs.dropWhile (· != '=')).tail?.map String.ofList)

/-- Read one more argument. -/
def read (verb : Verb) (r : Reading) (argument : String) : Except UsageError Reading :=
  if r.onlyValues then .error .unknownArgument
  else
    match argument.toList with
    | ['-', '-'] => .ok { r with onlyValues := true }
    | '-' :: '-' :: rest =>
      let (name, value) := splitValue rest
      r.readLong verb name value
    | '-' :: c :: _ => r.readShort c
    | _ => r.readValue argument

/-- The value of an option. -/
def value? (r : Reading) (setting : Setting) : Option String := r.given.lookup setting

end Reading

/-- What a command does: it shows a request, or runs a query over the documents of a file. -/
inductive Task where
  | translate
  | query (data : String)
deriving DecidableEq, Repr

/-- The arguments of a command: paths of files, and the index before its configured beginning. -/
structure Arguments where
  task : Task
  query : String
  config : Option String
  index : String
deriving DecidableEq, Repr

namespace Arguments

/-- The index when none is given. -/
def defaultIndex : String := "documents"

/-- The arguments of a command with the options that were read. -/
def ofReading (verb : Verb) (r : Reading) : Except UsageError Arguments :=
  match verb, r.value? .query, r.value? .data with
  | .translate, some query, _ =>
    .ok ⟨.translate, query, r.value? .config, (r.value? .index).getD defaultIndex⟩
  | .query, some query, some data =>
    .ok ⟨.query data, query, r.value? .config, (r.value? .index).getD defaultIndex⟩
  | _, _, _ => .error .missingOption

/-- Read the arguments after the name of a command. -/
def parseOptions (verb : Verb) (arguments : List String) : Except UsageError Arguments := do
  let r ← arguments.foldlM (Reading.read verb) Reading.start
  ofReading verb (← r.settle)

/-- A text is the name of a command, the one that shows help included. -/
def isCommand (name : String) : Bool := name = "help" || (Verb.ofName? name).isSome

/-- Read the arguments after `help`. -/
def parseHelp : List String → UsageError
  | [] => .helpRequested
  | [name] => if isCommand name then .helpRequested else .unknownCommand
  | _ => .unknownCommand

/-- Read an argument that begins with a dash before any command. -/
def parseFlag (flag : List Char) : UsageError :=
  match flag with
  | '-' :: '-' :: rest =>
    let (name, value) := Reading.splitValue rest
    if name = "help" then (if value.isSome then .valueForFlag else .helpRequested)
    else if name = "version" then (if value.isSome then .valueForFlag else .versionRequested)
    else .unknownArgument
  | '-' :: 'h' :: _ => .helpRequested
  | '-' :: 'V' :: _ => .versionRequested
  | '-' :: _ :: _ => .unknownArgument
  | _ => .unknownCommand

/-- Read the arguments after the name of the program. -/
def parse : List String → Except UsageError Arguments
  | [] => .error .nothingGiven
  | first :: rest =>
    match Verb.ofName? first with
    | some verb => parseOptions verb rest
    | none =>
      if first = "help" then .error (parseHelp rest)
      else if first = "--" then
        match rest with
        | [] => .error .nothingGiven
        | name :: _ => .error (if isCommand name then .unknownArgument else .unknownCommand)
      else .error (parseFlag first.toList)

end Arguments

end DocSearch.Command
