import DocSearch.SortedMap
import DocSearch.Text.Lowercase

/-!
# The indexes of kinds

A `Mapping` says in which index the entities of a kind are stored.  It is built by a
`MappingBuilder` from registrations, names that override them, and a text that all names begin
with.
-/

namespace DocSearch

/-- The index of every kind. -/
structure Mapping where
  indexes : SortedMap String
deriving DecidableEq

namespace Mapping

/-- No kind has an index. -/
def empty : Mapping := ⟨.empty⟩

/-- The index of a kind. -/
def indexFor (m : Mapping) (kind : String) : Option String := m.indexes.get? kind

/-- The kinds with their indexes, in the order of the kinds. -/
def pairs (m : Mapping) : List (String × String) := m.indexes.entries

/-- The number of kinds. -/
def size (m : Mapping) : Nat := m.indexes.size

/-- No kind has an index. -/
def isEmpty (m : Mapping) : Bool := m.indexes.isEmpty

end Mapping

/-- What a mapping is built from: the registered index of every kind, the names that override
them, and the text that all names begin with. -/
structure MappingBuilder where
  registered : SortedMap String
  overrides : SortedMap String
  indexPrefix : String
deriving DecidableEq

namespace MappingBuilder

/-- No registrations. -/
def empty : MappingBuilder := ⟨.empty, .empty, ""⟩

/-- Register the index of a kind. -/
def registerAs (b : MappingBuilder) (kind index : String) : MappingBuilder :=
  { b with registered := b.registered.insert kind index }

/-- Register a kind with its name in lower case as its index. -/
def register (b : MappingBuilder) (kind : String) : MappingBuilder :=
  b.registerAs kind (Text.lowercase kind)

/-- Set the text that all names begin with. -/
def withPrefix (b : MappingBuilder) (indexPrefix : String) : MappingBuilder :=
  { b with indexPrefix := indexPrefix }

/-- Set the text that all names begin with, and the names that override the registered ones. -/
def withOverrides (b : MappingBuilder) (indexPrefix : String) (overrides : SortedMap String) :
    MappingBuilder :=
  { b with indexPrefix := indexPrefix, overrides := overrides }

/-- The mapping of the registered kinds. -/
def build (b : MappingBuilder) : Mapping :=
  ⟨b.registered.mapEntries fun kind index =>
    b.indexPrefix ++ (b.overrides.get? kind).getD index⟩

end MappingBuilder

end DocSearch
