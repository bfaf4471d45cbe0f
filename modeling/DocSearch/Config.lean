import DocSearch.Json.Parser
import DocSearch.Json.Record
import DocSearch.Mapping
import DocSearch.Text.Blank
import DocSearch.Text.Uppercase

/-!
# Configuration

A configuration sets the text that the names of all indexes begin with, the indexes of kinds, and
the filter of the log.  `Config.ofText` reads it and checks that the names of indexes are in
lower case and have no blanks.
-/

namespace DocSearch

/-- The settings of a client. -/
structure Config where
  indexPrefix : String
  indexes : SortedMap String
  logFilter : String
deriving DecidableEq

/-- What is wrong with the names in a configuration. -/
inductive ConfigFault where
  | blankPrefix (indexPrefix : String)
  | upperPrefix (indexPrefix : String)
  | emptyIndex (kind : String)
  | badIndex (index kind : String)
deriving DecidableEq, Repr

/-- The message of a fault. -/
def ConfigFault.message : ConfigFault → String
  | .blankPrefix indexPrefix => "index_prefix '" ++ indexPrefix ++ "' must not contain whitespace"
  | .upperPrefix indexPrefix => "index_prefix '" ++ indexPrefix ++ "' must be lower-case"
  | .emptyIndex kind => "index name for '" ++ kind ++ "' must not be empty"
  | .badIndex index kind =>
    "index name '" ++ index ++ "' for '" ++ kind ++ "' must be lower-case without whitespace"

/-- Why there is no configuration. -/
inductive ConfigError where
  | unreadable (reason : String)
  | malformed
  | invalid (fault : ConfigFault)
deriving DecidableEq, Repr

namespace ConfigError

/-- The code of an error. -/
def code : ConfigError → String
  | .unreadable _ => "AERO_CONFIG_READ"
  | .malformed => "AERO_CONFIG_PARSE"
  | .invalid _ => "AERO_CONFIG_INVALID"

/-- The message of an error. -/
def message : ConfigError → String
  | .unreadable reason => "Failed to read config: " ++ reason
  | .malformed => "Invalid config JSON: not an object of the settings"
  | .invalid fault => "Invalid config: " ++ fault.message

end ConfigError

/-- The value of a tree with the named members alone; the others are not evaluated. -/
def Json.Tree.evaluateNamed? (names : List String) : Json.Tree → Option Json
  | .object entries => do
    let kept ← entries.filterMapM fun (key, tree) => do
      let key ← Json.Tree.text? key
      if key ∈ names then return some (key, ← tree.evaluate? (Json.maxDepth - 1)) else return none
    return .obj kept
  | tree => tree.evaluate? Json.maxDepth

/-- The texts under the keys of an object; the last one of a key counts. -/
def Json.texts? : Json → Option (SortedMap String)
  | .obj entries =>
    (entries.mapM fun entry : String × Json => entry.2.string?.map (entry.1, ·)).map .ofList
  | _ => none

namespace Config

/-- The filter of the log when none is set. -/
def defaultLogFilter : String := "info"

/-- The configuration that sets nothing. -/
def default : Config := ⟨"", .empty, defaultLogFilter⟩

/-- The settings that a tree writes.  What is left out is at its default. -/
def ofTree? (tree : Json.Tree) : Option Config := do
  let names := ["index_prefix", "indices", "log_filter"]
  let r ← Record.ofJson? names (← tree.evaluateNamed? names)
  return ⟨← r.defaulted? "index_prefix" "" Json.string?,
    ← r.defaulted? "indices" .empty Json.texts?,
    ← r.defaulted? "log_filter" defaultLogFilter Json.string?⟩

/-- A text has a blank character. -/
def hasBlank (s : String) : Bool := s.toList.any Text.isBlank

/-- A text has a character in upper case. -/
def hasUpper (s : String) : Bool := s.toList.any Text.isUppercase

/-- What is wrong with the index of a kind. -/
def indexFault? (kind index : String) : Option ConfigFault :=
  if Text.allBlank index then some (.emptyIndex kind)
  else if hasBlank index || hasUpper index then some (.badIndex index kind)
  else none

/-- The first fault of a configuration, with the kinds in order. -/
def fault? (c : Config) : Option ConfigFault :=
  if hasBlank c.indexPrefix then some (.blankPrefix c.indexPrefix)
  else if hasUpper c.indexPrefix then some (.upperPrefix c.indexPrefix)
  else c.indexes.entries.findSome? fun entry => indexFault? entry.1 entry.2

/-- The configuration that a text writes. -/
def ofText (text : String) : Except ConfigError Config :=
  match (Json.Tree.ofText? text).bind ofTree? with
  | none => .error .malformed
  | some c =>
    match c.fault? with
    | some fault => .error (.invalid fault)
    | none => .ok c

/-- The configuration as an object. -/
def toJson (c : Config) : Json :=
  .obj [("index_prefix", .str c.indexPrefix),
    ("indices", .obj (c.indexes.entries.map fun entry => (entry.1, .str entry.2))),
    ("log_filter", .str c.logFilter)]

/-- Put the settings of a configuration into a mapping. -/
def apply (c : Config) (b : MappingBuilder) : MappingBuilder :=
  b.withOverrides c.indexPrefix c.indexes

end Config

end DocSearch
