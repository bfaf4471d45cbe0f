/-!
# Sorted maps

Maps from texts to values, as lists of entries in increasing order of their keys.
`Entries.insert`, `Entries.get?` and `Entries.ofList` work on bare lists of entries; `SortedMap`
carries the proof that its keys increase, so that each key occurs once.
-/

namespace DocSearch

/-- The entries of a map, each a key and its value. -/
abbrev Entries (α : Type) := List (String × α)

namespace Entries

variable {α : Type}

/-- The entries with the value of `key` set: in the place of the old value, or else before the first
larger key. -/
def insert (key : String) (value : α) : Entries α → Entries α
  | [] => [(key, value)]
  | (k, v) :: rest =>
    if key < k then (key, value) :: (k, v) :: rest
    else if key = k then (key, value) :: rest
    else (k, v) :: insert key value rest

/-- The value of `key`, if it has one. -/
def get? (key : String) : Entries α → Option α
  | [] => none
  | (k, v) :: rest => if k = key then some v else get? key rest

/-- Sorted entries from a list in any order; of several values for a key the last one counts. -/
def ofList (entries : List (String × α)) : Entries α :=
  entries.foldl (fun sorted entry => insert entry.1 entry.2 sorted) []

/-- The keys increase. -/
def Sorted (entries : Entries α) : Prop := entries.Pairwise fun a b => a.1 < b.1

/-- After an insertion the key has the inserted value, and every other key the value it had. -/
theorem get?_insert (key other : String) (value : α) (entries : Entries α) :
  get? other (insert key value entries) = if key = other then some value else get? other entries
  := by
  induction entries with
  | nil => simp [insert, get?]
  | cons head rest ih =>
    simp only [insert]
    split
    · simp [get?]
    · split
      · rename_i heq
        simp only [get?, heq]
        split <;> rfl
      · rename_i hne
        simp only [get?, ih]
        split
        · rename_i hhead
          rw [if_neg (fun h => hne (h.trans hhead.symm))]
        · rfl

/-- An entry after an insertion is the inserted one or an old one. -/
theorem eq_or_mem_of_mem_insert {key : String} {value : α} {entries : Entries α}
    {entry : String × α} (h : entry ∈ insert key value entries) :
  entry = (key, value) ∨ entry ∈ entries
  := by
  induction entries with
  | nil => simpa [insert] using h
  | cons head rest ih =>
    simp only [insert] at h
    split at h
    · simpa using h
    · split at h
      · rcases List.mem_cons.1 h with h | h
        · exact Or.inl h
        · exact Or.inr (List.mem_cons_of_mem _ h)
      · rcases List.mem_cons.1 h with h | h
        · exact Or.inr (List.mem_cons.2 (Or.inl h))
        · exact (ih h).imp id (List.mem_cons_of_mem _)

/-- An insertion keeps the keys increasing. -/
theorem Sorted.insert {entries : Entries α} (h : Sorted entries) (key : String) (value : α) :
  Sorted (Entries.insert key value entries)
  := by
  induction entries with
  | nil => simp [Entries.insert, Sorted]
  | cons head rest ih =>
    obtain ⟨hhead, hrest⟩ := List.pairwise_cons.1 h
    simp only [Entries.insert]
    split
    case isTrue hlt =>
      apply List.pairwise_cons.2 ⟨_, h⟩
      intro entry hentry
      rcases List.mem_cons.1 hentry with rfl | hentry
      · exact hlt
      · exact String.lt_trans hlt (hhead entry hentry)
    case isFalse hlt =>
      split
      case isTrue heq =>
        apply List.pairwise_cons.2 ⟨_, hrest⟩
        intro entry hentry
        exact heq ▸ hhead entry hentry
      case isFalse hne =>
        apply List.pairwise_cons.2 ⟨_, ih hrest⟩
        intro entry hentry
        rcases eq_or_mem_of_mem_insert hentry with rfl | hentry
        · apply Decidable.byContradiction
          intro hnot
          exact hne (String.le_antisymm (String.not_lt.1 hnot) (String.not_lt.1 hlt))
        · exact hhead entry hentry

/-- The entries from a list have increasing keys. -/
theorem sorted_ofList (entries : List (String × α)) :
  Sorted (ofList entries)
  := by
  suffices h : ∀ sorted : Entries α, Sorted sorted →
      Sorted (entries.foldl (fun sorted entry => insert entry.1 entry.2 sorted) sorted) from
    h [] List.Pairwise.nil
  induction entries with
  | nil => exact fun _ h => h
  | cons entry rest ih => exact fun sorted h => ih _ (h.insert entry.1 entry.2)

end Entries

/-- A map from texts to values; its entries have increasing keys. -/
structure SortedMap (α : Type) where
  entries : Entries α
  sorted : entries.Sorted

namespace SortedMap

variable {α β : Type}

instance [DecidableEq α] : DecidableEq (SortedMap α) := fun a b =>
  decidable_of_iff (a.entries = b.entries) (by cases a; cases b; simp)

/-- The map without entries. -/
def empty : SortedMap α := ⟨[], List.Pairwise.nil⟩

instance : Inhabited (SortedMap α) := ⟨empty⟩

/-- The map with the value of `key` set. -/
def insert (m : SortedMap α) (key : String) (value : α) : SortedMap α :=
  ⟨m.entries.insert key value, m.sorted.insert key value⟩

/-- The value of `key`, if it has one. -/
def get? (m : SortedMap α) (key : String) : Option α := m.entries.get? key

/-- After an insertion the key has the inserted value, and every other key the value it had. -/
theorem get?_insert (m : SortedMap α) (key other : String) (value : α) :
  (m.insert key value).get? other = if key = other then some value else m.get? other
  := Entries.get?_insert key other value m.entries

/-- A map from a list of entries in any order; the last value of a key counts. -/
def ofList (entries : List (String × α)) : SortedMap α :=
  ⟨Entries.ofList entries, Entries.sorted_ofList entries⟩

/-- The number of entries. -/
def size (m : SortedMap α) : Nat := m.entries.length

/-- The map has no entry. -/
def isEmpty (m : SortedMap α) : Bool := m.entries.isEmpty

/-- The map with every value replaced by a function of its key and itself. -/
def mapEntries (f : String → α → β) (m : SortedMap α) : SortedMap β :=
  ⟨m.entries.map fun entry => (entry.1, f entry.1 entry.2), by
    simpa [Entries.Sorted, List.pairwise_map] using m.sorted⟩

end SortedMap

end DocSearch
