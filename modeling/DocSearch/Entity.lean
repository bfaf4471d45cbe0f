import DocSearch.Queryable
import DocSearch.Replay

/-!
# Entities

An `Entity` describes a type whose values are stored one to a document: its kind, by which its
index is found, its ids, and how a value is written and read.  `Mapping.set` is the query for all
entities of a kind, and `Entity.create`, `Entity.update` and `Entity.delete` are changes of
single ones.
-/

namespace DocSearch

/-- A type whose values are stored one to a document. -/
structure Entity (α : Type) where
  kind : String
  id : α → String
  write : α → Json
  read : Json → Option α

namespace Entity

variable {α : Type}

/-- Store a value. -/
def create (e : Entity α) (value : α) : Change :=
  ⟨.create, e.kind, e.id value, some (e.write value)⟩

/-- Set the entries of a stored value. -/
def update (e : Entity α) (value : α) : Change := { e.create value with kind := .update }

/-- Delete the value of an id. -/
def deleteById (e : Entity α) (id : String) : Change := ⟨.delete, e.kind, id, none⟩

/-- Delete a value. -/
def delete (e : Entity α) (value : α) : Change := e.deleteById (e.id value)

end Entity

namespace Mapping

variable {α : Type}

/-- The index of a type of entities. -/
def indexOf (m : Mapping) (e : Entity α) : Option String := m.indexFor e.kind

/-- The query for all entities of a type. -/
def set (m : Mapping) (e : Entity α) : Except QueryError (Queryable α) :=
  match m.indexOf e with
  | some index => .ok (.ofProvider ⟨index, e.read⟩)
  | none => .error (.unmapped e.kind)

end Mapping

end DocSearch
