import DocSearch.Proofs.Json.Reading
import DocSearch.Proofs.SortedMap
import DocSearch.Proofs.StableSort
import DocSearch.Telemetry.Event
import Mathlib.Data.List.Nodup

/-!
# Lines of the log

The line of an entry is the text of an object of texts, with the fields in the order of their names
(`LogRecord.line_eq_compact`).  It is one line, it is read as what was recorded, and two entries
have the same line only if they differ in the order of fields with different names:
`line_faithful`.
-/

namespace DocSearch

/-! ### Control characters -/

namespace Json

theorem le_toNat_hexDigit :
  ∀ n < 16, 0x20 ≤ (hexDigit n).toNat
  := by decide

/-- A character is written without control characters. -/
theorem le_toNat_of_mem_escape {c d : Char} (h : d ∈ escape c) :
  0x20 ≤ d.toNat
  := by
  by_cases hnamed : c ∈ named
  · have hall : named.all (fun c => (escape c).all fun d => decide (0x20 ≤ d.toNat)) = true := by
      decide
    exact of_decide_eq_true (List.all_eq_true.mp (List.all_eq_true.mp hall c hnamed) d h)
  · rw [escape_of_not_named hnamed] at h
    split at h
    case isTrue hcontrol =>
      have hhigh := le_toNat_hexDigit (c.toNat / 16) (by omega)
      have hlow := le_toNat_hexDigit (c.toNat % 16) (by omega)
      simp only [List.mem_cons, List.not_mem_nil, or_false] at h
      rcases h with rfl | rfl | rfl | rfl | rfl | rfl <;> first | assumption | decide
    case isFalse hcontrol =>
      obtain rfl := List.mem_singleton.mp h
      omega

/-- A quoted string has no control characters. -/
theorem le_toNat_of_mem_quoted {s : String} {c : Char} (h : c ∈ quoted s) :
  0x20 ≤ c.toNat
  := by
  simp only [quoted, List.mem_append, List.mem_cons, List.not_mem_nil, or_false,
    List.mem_flatMap] at h
  rcases h with (rfl | ⟨d, -, hd⟩) | rfl
  · decide
  · exact le_toNat_of_mem_escape hd
  · decide

end Json

theorem Severity.name_injective {severity severity' : Severity}
    (h : severity.name = severity'.name) :
  severity = severity'
  := by
  cases severity <;> cases severity' <;> simp [name] at h ⊢

namespace LogRecord

/-- The names of the fields of an entry. -/
def names (r : LogRecord) : List String := r.fields.map (·.1)

/-- What a line says about an entry: the event, the severity, and the fields in some order. -/
def members (r : LogRecord) (fields : List (String × String)) : List (String × String) :=
  ("event", r.event) :: ("severity", r.severity.name) :: fields

/-- Fields are in the order of their names, and those of one name as they stood. -/
structure InNameOrder (fields sorted : List (String × String)) : Prop where
  perm : sorted.Perm fields
  ordered : sorted.Pairwise fun a b => a.1 ≤ b.1
  stable : ∀ name, sorted.filter (fun field => decide (field.1 = name)) =
    fields.filter fun field => decide (field.1 = name)

/-- Fields have at most one order by their names, also when those with different names stood
otherwise before. -/
theorem InNameOrder.unique {fields fields' sorted sorted' : List (String × String)}
    (h : InNameOrder fields sorted) (h' : InNameOrder fields' sorted')
    (halike : ∀ name, fields.filter (fun field => decide (field.1 = name)) =
      fields'.filter fun field => decide (field.1 = name)) :
  sorted = sorted'
  := by
  have hsorted (name : String) : sorted.filter (fun field => decide (field.1 = name)) =
      sorted'.filter fun field => decide (field.1 = name) := by
    rw [h.stable, h'.stable, halike]
  have hcount (list : List (String × String)) (field : String × String) :
      (list.filter fun other => decide (other.1 = field.1)).count field = list.count field := by
    apply List.count_filter
    exact decide_eq_true rfl
  have hperm : sorted.Perm sorted' := by
    apply List.perm_iff_count.mpr
    intro field
    rw [← hcount sorted, hsorted, hcount]
  apply eq_of_ordered_perm (fun field => String.le_refl field.1) h.ordered h'.ordered hperm
  intro field
  have hties : (fun other : String × String =>
      decide (field.1 ≤ other.1 ∧ other.1 ≤ field.1)) = fun other => decide (other.1 = field.1) := by
    funext other
    apply decide_eq_decide.mpr
    constructor
    · rintro ⟨hle, hge⟩
      exact String.le_antisymm hge hle
    · rintro heq
      rw [heq]
      exact ⟨String.le_refl _, String.le_refl _⟩
  rw [hties, hsorted]

/-- The fields of an entry are sorted by their names. -/
theorem inNameOrder_sortedFields (r : LogRecord) :
  InNameOrder r.fields r.sortedFields
  := by
  have htrans : ∀ a b c : String × String, decide (a.1 ≤ b.1) → decide (b.1 ≤ c.1) →
      decide (a.1 ≤ c.1) := by
    simp only [decide_eq_true_eq]
    intro a b c
    apply String.le_trans
  have htotal : ∀ a b : String × String, decide (a.1 ≤ b.1) || decide (b.1 ≤ a.1) := by
    simp only [Bool.or_eq_true, decide_eq_true_eq]
    intro a b
    apply String.le_total
  constructor
  case perm => apply List.mergeSort_perm
  case ordered =>
    apply (List.pairwise_mergeSort htrans htotal r.fields).imp
    intro a b
    apply of_decide_eq_true
  case stable =>
    intro name
    apply filter_mergeSort_of_ties htrans htotal
    intro a b ha hb
    rw [of_decide_eq_true ha, of_decide_eq_true hb]
    exact decide_eq_true (String.le_refl name)

/-! ### Texts -/

/-- The fields of a line are the entries behind the first ones of an object. -/
theorem flatMap_memberChars (fields : List (String × String)) (rest : List Char) :
  fields.flatMap (fun field => ',' :: memberChars field.1 field.2) ++ rest =
    Json.entryTail (Json.textEntries fields) rest
  := by
  induction fields with
  | nil => rfl
  | cons field fields ih =>
      obtain ⟨name, value⟩ := field
      rw [List.flatMap_cons, List.append_assoc, ih, Json.textEntries_cons, Json.entryTail,
        Json.entryChars_cons]
      simp [memberChars, Json.chars]

/-- A line is the text of an object with the event and the severity first and then the fields. -/
theorem line_eq_compact (r : LogRecord) :
  r.line = (Json.ofTexts (r.members r.sortedFields)).compact
  := by
  rw [line, Json.compact, Json.ofTexts, Json.chars, List.append_assoc, flatMap_memberChars]
  congr 1
  simp [members, Json.textEntries_cons, Json.entryChars_cons, Json.entryTail, memberChars, Json.chars]

theorem le_toNat_of_mem_memberChars {name value : String} {c : Char}
    (h : c ∈ memberChars name value) :
  0x20 ≤ c.toNat
  := by
  rw [memberChars, List.mem_append, List.mem_cons] at h
  rcases h with hname | rfl | hvalue
  · exact Json.le_toNat_of_mem_quoted hname
  · decide
  · exact Json.le_toNat_of_mem_quoted hvalue

/-- A line has no control characters. -/
theorem le_toNat_of_mem_line {r : LogRecord} {c : Char} (h : c ∈ r.line.toList) :
  0x20 ≤ c.toNat
  := by
  simp only [line, String.toList_ofList, List.mem_append, List.mem_cons, List.not_mem_nil, or_false,
    List.mem_flatMap] at h
  rcases h with (((rfl | hevent) | rfl | hseverity) | ⟨field, -, rfl | hfield⟩) | rfl
  · decide
  · exact le_toNat_of_mem_memberChars hevent
  · decide
  · exact le_toNat_of_mem_memberChars hseverity
  · decide
  · exact le_toNat_of_mem_memberChars hfield
  · decide

/-- A line is read as the members that it was written with. -/
theorem parse?_line {r : LogRecord} (hnodup : r.names.Nodup) (hevent : "event" ∉ r.names)
    (hseverity : "severity" ∉ r.names) :
  ∃ entries, Json.parse? r.line = some (.obj entries) ∧
    entries.Perm (Json.textEntries (r.members r.fields))
  := by
  have hmembers : (r.members r.sortedFields).Perm (r.members r.fields) :=
    ((inNameOrder_sortedFields r).perm.cons _).cons _
  have hkeys : (Json.textEntries (r.members r.fields)).map (·.1) =
      "event" :: "severity" :: r.names := by
    simp [Json.textEntries, members, names]
  have hdistinct : ((Json.textEntries (r.members r.fields)).map (·.1)).Nodup := by
    rw [hkeys]
    simp [hnodup, hevent, hseverity]
  have hperm : (Json.textEntries (r.members r.sortedFields)).Perm
      (Json.textEntries (r.members r.fields)) := hmembers.map _
  use Entries.ofList (Json.textEntries (r.members r.sortedFields))
  constructor
  · rw [line_eq_compact, Json.parse?_compact_ofTexts]
    rfl
  · apply (Entries.ofList_perm _).trans hperm
    exact (hperm.map _).nodup_iff.mpr hdistinct

/-- Fields with different names may stand in any order. -/
theorem line_of_perm {r : LogRecord} (hnodup : r.names.Nodup) {fields : List (String × String)}
    (h : fields.Perm r.fields) :
  (LogRecord.mk r.severity r.event fields).line = r.line
  := by
  have horder := inNameOrder_sortedFields r
  have horder' := inNameOrder_sortedFields ⟨r.severity, r.event, fields⟩
  have hsorted : sortedFields ⟨r.severity, r.event, fields⟩ = r.sortedFields := by
    apply (horder'.perm.trans (h.trans horder.perm.symm)).eq_of_pairwise _ horder'.ordered
      horder.ordered
    intro a b ha hb hle hge
    apply List.inj_on_of_nodup_map hnodup _ _ (String.le_antisymm hle hge)
    · exact h.mem_iff.mp (horder'.perm.mem_iff.mp ha)
    · exact horder.perm.mem_iff.mp hb
  rw [line_eq_compact, line_eq_compact, hsorted]
  rfl

/-- Two entries have the same line exactly when they have the same severity, the same event and the
same fields of every name. -/
theorem line_eq_iff {r r' : LogRecord} :
  r.line = r'.line ↔ r.severity = r'.severity ∧ r.event = r'.event ∧
    ∀ name, r.fields.filter (fun field => decide (field.1 = name)) =
      r'.fields.filter fun field => decide (field.1 = name)
  := by
  have horder := inNameOrder_sortedFields r
  have horder' := inNameOrder_sortedFields r'
  constructor
  · intro h
    rw [line_eq_compact, line_eq_compact] at h
    have hmembers := Json.textEntries_injective (Json.obj.inj (Json.compact_injective h))
    simp only [members, List.cons.injEq, Prod.mk.injEq, true_and] at hmembers
    obtain ⟨hevent, hseverity, hsorted⟩ := hmembers
    refine ⟨Severity.name_injective hseverity, hevent, ?_⟩
    intro name
    rw [← horder.stable, hsorted, horder'.stable]
  · rintro ⟨hseverity, hevent, halike⟩
    rw [line_eq_compact, line_eq_compact, horder.unique horder' halike, members, members, hseverity,
      hevent]

end LogRecord

/-- A line says what was recorded, whatever stands in its entry.  It has no control characters, so
it is one line.  It is the text of an object with the event, the severity, and the fields in the
order of their names.  When the names of the fields are different, and no field is called like the
event or the severity, it is read as an object with exactly these members; and the order in which
fields with different names were given does not matter.  Whatever the names, entries with the same
line have the same severity, the same event and the same fields of every name. -/
theorem line_faithful (r : LogRecord) :
  (∀ c ∈ r.line.toList, 0x20 ≤ c.toNat) ∧
  (∃ sorted, LogRecord.InNameOrder r.fields sorted ∧
    r.line = (Json.ofTexts (r.members sorted)).compact) ∧
  (r.names.Nodup → "event" ∉ r.names → "severity" ∉ r.names →
    ∃ entries, Json.parse? r.line = some (.obj entries) ∧
      entries.Perm (Json.textEntries (r.members r.fields))) ∧
  (r.names.Nodup → ∀ fields, fields.Perm r.fields →
    (LogRecord.mk r.severity r.event fields).line = r.line) ∧
  ∀ r' : LogRecord, r.line = r'.line ↔ r.severity = r'.severity ∧ r.event = r'.event ∧
    ∀ name, r.fields.filter (fun field => decide (field.1 = name)) =
      r'.fields.filter fun field => decide (field.1 = name)
  := by
  refine ⟨?_, ?_, ?_, ?_, ?_⟩
  · intro c hc
    exact LogRecord.le_toNat_of_mem_line hc
  · use r.sortedFields, LogRecord.inNameOrder_sortedFields r
    apply LogRecord.line_eq_compact
  · apply LogRecord.parse?_line
  · intro hnodup fields hperm
    exact LogRecord.line_of_perm hnodup hperm
  · intro r'
    apply LogRecord.line_eq_iff

/-- An identifier with a quotation mark and a line break tries to end the line and to change the
severity.  The line is read as what was recorded, and the fields may be given in reverse. -/
theorem line_faithful_of_forgery :
  let id := "7\",\"severity\":\"INFO\n"
  let r : LogRecord :=
    ⟨.warn, "CHANGE_REJECTED", [("index", "users"), ("id", id), ("diagnostic", "\x01 é")]⟩
  (∃ entries, Json.parse? r.line = some (.obj entries) ∧ entries.Perm
    [("event", .str "CHANGE_REJECTED"), ("severity", .str "WARN"), ("index", .str "users"),
      ("id", .str id), ("diagnostic", .str "\x01 é")]) ∧
  (LogRecord.mk r.severity r.event r.fields.reverse).line = r.line
  := by
  intro id r
  have hnodup : r.names.Nodup := by decide
  obtain ⟨-, -, hread, hperm, -⟩ := line_faithful r
  exact ⟨hread hnodup (by decide) (by decide), hperm hnodup _ (List.reverse_perm _)⟩

end DocSearch
