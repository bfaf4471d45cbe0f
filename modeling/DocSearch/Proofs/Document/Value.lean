import DocSearch.Document.Path

/-!
# Values of a field

`Document.Reaches` says where a path of keys leads inside a document, and `Document.HasValue` which
values a document has in a field; `Document.mem_fieldValues` states that `Document.fieldValues`
lists exactly these.
-/

namespace DocSearch.Document

/-- A path of keys leads from a value to another one, through objects alone. -/
inductive Reaches : List String → Json → Json → Prop
  | here (v : Json) : Reaches [] v v
  | step {key : String} {rest : List String} {entries : Entries Json} {v w : Json}
      (h : Entries.get? key entries = some v) (hrest : Reaches rest v w) :
      Reaches (key :: rest) (.obj entries) w

/-- A document has a value in a field: the value that the path of the field leads to, or an item of
it when it is an array.  Null is no value. -/
inductive HasValue (document : Json) (field : String) : Json → Prop
  | whole {v : Json} (h : Reaches (Field.mk field).segments document v) (hnull : v ≠ .null)
      (hsingle : ∀ items, v ≠ .arr items) : HasValue document field v
  | item {items : List Json} {v : Json}
      (h : Reaches (Field.mk field).segments document (.arr items)) (hitem : v ∈ items)
      (hnull : v ≠ .null) : HasValue document field v

theorem follow_eq_some_iff {path : List String} {v w : Json} :
  follow path v = some w ↔ Reaches path v w
  := by
  induction path generalizing v with
  | nil =>
      constructor
      · intro h
        obtain rfl := Option.some.inj h
        apply Reaches.here
      · rintro ⟨⟩
        rfl
  | cons key rest ih =>
      rw [follow, Option.bind_eq_some_iff]
      constructor
      · rintro ⟨u, hu, hw⟩
        cases v with
        | obj entries => exact Reaches.step hu (ih.mp hw)
        | _ => simp [Json.get?] at hu
      · rintro (_ | ⟨hu, hw⟩)
        exact ⟨_, hu, ih.mpr hw⟩

theorem isNull_eq_false_iff {v : Json} :
  v.isNull = false ↔ v ≠ .null
  := by
  cases v <;> simp [Json.isNull]

/-- The value of a field is the one that its path leads to, unless it is null. -/
theorem lookup_eq_some_iff {document : Json} {field : String} {v : Json} :
  lookup document field = some v ↔ Reaches (Field.mk field).segments document v ∧ v ≠ .null
  := by
  rw [lookup, Option.filter_eq_some_iff, follow_eq_some_iff, Bool.not_eq_true',
    isNull_eq_false_iff]

/-- The values that are listed for a field are those that the document has in it. -/
theorem mem_fieldValues {document : Json} {field : String} {v : Json} :
  v ∈ fieldValues document field ↔ HasValue document field v
  := by
  rw [fieldValues]
  constructor
  · intro h
    split at h
    case h_1 items hlookup =>
      rw [List.mem_filter, Bool.not_eq_true', isNull_eq_false_iff] at h
      apply HasValue.item (lookup_eq_some_iff.mp hlookup).1 h.1 h.2
    case h_2 w hsingle hlookup =>
      obtain rfl := List.mem_singleton.mp h
      obtain ⟨hreach, hnull⟩ := lookup_eq_some_iff.mp hlookup
      apply HasValue.whole hreach hnull
      rintro items rfl
      apply hsingle items rfl
    case h_3 => cases h
  · intro h
    cases h with
    | whole h hnull hsingle =>
        rw [lookup_eq_some_iff.mpr ⟨h, hnull⟩]
        cases v with
        | arr items => cases hsingle items rfl
        | _ => simp
    | item h hitem hnull =>
        rw [lookup_eq_some_iff.mpr ⟨h, Json.noConfusion⟩]
        simpa [isNull_eq_false_iff] using ⟨hitem, hnull⟩

end DocSearch.Document
