import Mathlib.Data.List.Basic
import DocSearch.SortedMap

/-!
# What sorted entries hold

Sorted entries are determined by what is looked up in them: `Entries.Sorted.ext`, and so are sorted
maps: `SortedMap.ext_get?`.  The lemmas on appending, filtering and reversing say what is looked up
in entries that are put together, and `Entries.get?_foldl_insert` what many insertions do.
-/

namespace DocSearch

namespace Entries

variable {α : Type} {entries : Entries α} {key : String}

/-- A key has no value when no entry has the key. -/
theorem get?_eq_none_iff :
  get? key entries = none ↔ ∀ entry ∈ entries, entry.1 ≠ key
  := by
  induction entries with
  | nil => simp [get?]
  | cons entry rest ih =>
      rw [get?, List.forall_mem_cons, ← ih]
      by_cases hkey : entry.1 = key
      · simp [hkey]
      · simp [hkey]

/-- A key that is smaller than all others has no value. -/
theorem get?_eq_none_of_lt (h : ∀ entry ∈ entries, key < entry.1) :
  get? key entries = none
  := by
  apply get?_eq_none_iff.mpr
  rintro entry hentry rfl
  apply String.lt_irrefl _ (h entry hentry)

/-- A value that is looked up stands in the entries. -/
theorem mem_of_get? {value : α} (h : get? key entries = some value) :
  (key, value) ∈ entries
  := by
  induction entries with
  | nil => cases h
  | cons entry rest ih =>
      rw [get?] at h
      split at h
      case isTrue hkey =>
        obtain rfl := hkey
        obtain rfl := Option.some.inj h
        exact List.mem_cons_self
      case isFalse hkey => exact List.mem_cons_of_mem entry (ih h)

/-- The first list that has a value for a key counts. -/
theorem get?_append {other : Entries α} :
  get? key (entries ++ other) = (get? key entries).or (get? key other)
  := by
  induction entries with
  | nil => rfl
  | cons entry rest ih =>
      rw [List.cons_append, get?, get?, ih]
      split <;> rfl

/-- The entries whose keys pass a test have the values of these keys. -/
theorem get?_filter {p : String → Bool} :
  get? key (entries.filter fun entry => p entry.1) = if p key then get? key entries else none
  := by
  induction entries with
  | nil => simp [get?]
  | cons entry rest ih =>
      rw [List.filter_cons, get?]
      by_cases hkey : entry.1 = key
      · by_cases hp : p key = true
        · simp [get?, hkey, hp]
        · simpa [get?, hkey, hp] using ih
      · by_cases hp : p entry.1 = true
        · simpa [get?, hkey, hp] using ih
        · simpa [hkey, hp] using ih

/-- After insertions one by one the last value of a key counts. -/
theorem get?_foldl_insert {changes : Entries α} :
  get? key (changes.foldl (fun entries change => insert change.1 change.2 entries) entries) =
    (get? key changes.reverse).or (get? key entries)
  := by
  induction changes generalizing entries with
  | nil => rfl
  | cons change changes ih =>
      rw [List.foldl_cons, ih, List.reverse_cons, get?_append, get?_insert, get?, get?]
      cases get? key changes.reverse with
      | some value => rfl
      | none => split <;> rfl

/-- A key has a value when it is the key of an entry. -/
theorem get?_isSome_iff :
  (get? key entries).isSome = true ↔ key ∈ entries.map (·.1)
  := by
  rw [Option.isSome_iff_ne_none, ne_eq, get?_eq_none_iff, List.mem_map]
  simp

/-- A key has the new value that its entry gets when all values are replaced. -/
theorem get?_map {β : Type} {f : String → α → β} :
  get? key (entries.map fun entry => (entry.1, f entry.1 entry.2)) = (get? key entries).map (f key)
  := by
  induction entries with
  | nil => rfl
  | cons entry rest ih =>
      rw [List.map_cons, get?, get?, ih]
      split
      case isTrue hkey => rw [← hkey, Option.map_some]
      case isFalse hkey => rfl

/-- The entry of a new key is added. -/
theorem insert_perm {value : α} (h : ∀ entry ∈ entries, entry.1 ≠ key) :
  (insert key value entries).Perm ((key, value) :: entries)
  := by
  induction entries with
  | nil => apply List.Perm.refl
  | cons entry rest ih =>
      rw [List.forall_mem_cons] at h
      rw [insert]
      split
      case isTrue => apply List.Perm.refl
      case isFalse =>
        rw [if_neg (Ne.symm h.1)]
        exact ((ih h.2).cons entry).trans (List.Perm.swap _ _ rest)

/-- Entries with different new keys are all added. -/
theorem foldl_insert_perm {changes : Entries α} (hnodup : (changes.map (·.1)).Nodup)
    (hnew : ∀ change ∈ changes, ∀ entry ∈ entries, entry.1 ≠ change.1) :
  (changes.foldl (fun entries change => insert change.1 change.2 entries) entries).Perm
    (changes ++ entries)
  := by
  induction changes generalizing entries with
  | nil => apply List.Perm.refl
  | cons change changes ih =>
      rw [List.map_cons, List.nodup_cons] at hnodup
      rw [List.forall_mem_cons] at hnew
      have hinsert : (insert change.1 change.2 entries).Perm (change :: entries) :=
        insert_perm hnew.1
      apply (ih hnodup.2 _).trans
      · apply (hinsert.append_left changes).trans List.perm_middle
      · intro later hlater entry hentry
        rcases List.mem_cons.mp (hinsert.mem_iff.mp hentry) with rfl | hentry
        · rintro heq
          exact hnodup.1 (heq ▸ List.mem_map_of_mem hlater)
        · exact hnew.2 later hlater entry hentry

/-- The entries from a list with different keys are those of the list. -/
theorem ofList_perm {list : List (String × α)} (h : (list.map (·.1)).Nodup) :
  (ofList list).Perm list
  := by
  have hperm : (ofList list).Perm (list ++ []) := foldl_insert_perm h (by simp)
  rwa [List.append_nil] at hperm

namespace Sorted

/-- Insertions one by one keep the keys increasing. -/
theorem foldl_insert (h : entries.Sorted) (changes : Entries α) :
  Entries.Sorted
    (changes.foldl (fun entries change => Entries.insert change.1 change.2 entries) entries)
  := by
  induction changes generalizing entries with
  | nil => exact h
  | cons change changes ih => apply ih (h.insert change.1 change.2)

/-- The value of an entry is looked up when the keys increase. -/
theorem get?_of_mem {value : α} (h : entries.Sorted) (hmem : (key, value) ∈ entries) :
  get? key entries = some value
  := by
  induction entries with
  | nil => cases hmem
  | cons entry rest ih =>
      obtain ⟨hhead, hrest⟩ := List.pairwise_cons.mp h
      rw [get?]
      rcases List.mem_cons.mp hmem with rfl | hmem
      · rw [if_pos rfl]
      · have hne : entry.1 ≠ key := fun heq => String.lt_irrefl _ (heq ▸ hhead _ hmem)
        rw [if_neg hne, ih hrest hmem]

/-- Entries with increasing keys have the same values when they are reversed. -/
theorem get?_reverse (h : entries.Sorted) :
  get? key entries.reverse = get? key entries
  := by
  induction entries with
  | nil => rfl
  | cons entry rest ih =>
      obtain ⟨hhead, hrest⟩ := List.pairwise_cons.mp h
      rw [List.reverse_cons, get?_append, ih hrest, get?, get?, get?]
      by_cases hkey : entry.1 = key
      · have hnone : get? key rest = none := get?_eq_none_of_lt (hkey ▸ hhead)
        rw [hnone, if_pos hkey, Option.none_or]
      · rw [if_neg hkey, if_neg hkey, Option.or_none]

/-- Sorted entries that have a value for the first key of other entries do not begin with a larger
key. -/
theorem not_lt_head {other : Entries α} {entry entry' : String × α}
    (h : Entries.Sorted (entry' :: other))
    (hget : get? entry.1 (entry :: entries) = get? entry.1 (entry' :: other)) :
  ¬ entry.1 < entry'.1
  := by
  intro hlt
  have hnone : get? entry.1 (entry' :: other) = none := by
    apply get?_eq_none_of_lt
    rw [List.forall_mem_cons]
    use hlt
    intro x hx
    apply String.lt_trans hlt ((List.pairwise_cons.mp h).1 x hx)
  rw [hnone, get?, if_pos rfl] at hget
  cases hget

/-- Sorted entries are determined by what is looked up in them. -/
theorem ext {other : Entries α} (h : entries.Sorted) (hother : other.Sorted)
    (hget : ∀ key, get? key entries = get? key other) :
  entries = other
  := by
  induction entries generalizing other with
  | nil =>
      cases other with
      | nil => rfl
      | cons entry rest => simpa [get?] using hget entry.1
  | cons entry rest ih =>
      cases other with
      | nil => simpa [get?] using hget entry.1
      | cons entry' rest' =>
          have hle := not_lt_head hother (hget entry.1)
          have hge := not_lt_head h (hget entry'.1).symm
          have hkey : entry.1 = entry'.1 :=
            String.le_antisymm (String.not_lt.mp hge) (String.not_lt.mp hle)
          have hvalue : entry.2 = entry'.2 := by
            simpa [get?, hkey] using hget entry'.1
          obtain rfl : entry = entry' := Prod.ext hkey hvalue
          obtain ⟨hhead, hrest⟩ := List.pairwise_cons.mp h
          obtain ⟨hhead', hrest'⟩ := List.pairwise_cons.mp hother
          congr 1
          apply ih hrest hrest'
          intro key
          by_cases heq : entry.1 = key
          · subst heq
            rw [get?_eq_none_of_lt hhead, get?_eq_none_of_lt hhead']
          · simpa [get?, heq] using hget key

end Sorted

end Entries

namespace SortedMap

variable {α : Type} {m m' : SortedMap α}

/-- Maps are determined by what is looked up in them. -/
theorem ext_get? (h : ∀ key, m.get? key = m'.get? key) :
  m = m'
  := by
  obtain ⟨entries, hsorted⟩ := m
  obtain ⟨entries', hsorted'⟩ := m'
  obtain rfl : entries = entries' := hsorted.ext hsorted' h
  rfl

/-- A key has the new value that its entry gets when all values are replaced. -/
theorem get?_mapEntries {β : Type} {f : String → α → β} {key : String} :
  (m.mapEntries f).get? key = (m.get? key).map (f key)
  := Entries.get?_map

/-- Of two values that are set for a key the last one counts. -/
theorem insert_insert {key : String} {value value' : α} :
  (m.insert key value).insert key value' = m.insert key value'
  := by
  apply ext_get?
  intro other
  rw [get?_insert, get?_insert, get?_insert]
  split <;> rfl

end SortedMap

end DocSearch
