import DocSearch.Proofs.Number.Rounding
import DocSearch.Proofs.Predicate.Meaning

/-!
# Equality with an integer

A document matches the filter for equality with an integer when it has a number in the field that is
the same one in binary64.  Below `2 ^ 53` this is numerical equality; from there on an integer and
its neighbour can be the same in binary64: `integer_term_accepts` and `neighbour_accepted`.
-/

namespace DocSearch

/-- A number is numerically equal to an integer: it is that integer, or a binary64 number with its
value. -/
inductive Num.EqualsInt (n : Int) : Num → Prop
  | int : EqualsInt n (.int n)
  | float {x : Binary64} (h : x.value = n * Binary64.unitsOfOne) : EqualsInt n (.float x)

namespace Num

variable {a : Num} {n : Int}

/-- A number that is numerically equal to an integer is the same in binary64. -/
theorem EqualsInt.toBinary64_value (h : a.EqualsInt n) :
  a.toBinary64.value = (Binary64.ofInt n).value
  := by
  cases h with
  | int => rfl
  | float h => rw [toBinary64, h, Binary64.value_ofInt_of_value h]

/-- A number that is the same in binary64 as an integer below `2 ^ 53` is numerically equal
to it. -/
theorem equalsInt_of_lt (hn : n.natAbs < 2 ^ 53)
    (h : a.toBinary64.value = (Binary64.ofInt n).value) :
  a.EqualsInt n
  := by
  rw [Binary64.value_ofInt_of_lt hn] at h
  cases a with
  | float x => apply EqualsInt.float h
  | int m =>
      rw [toBinary64] at h
      rcases Nat.lt_or_ge m.natAbs (2 ^ 53) with hm | hm
      · rw [Binary64.value_ofInt_of_lt hm] at h
        have hone : (0 : Int) < Binary64.unitsOfOne := by exact_mod_cast Binary64.unitsOfOne_pos
        obtain rfl : m = n := Int.eq_of_mul_eq_mul_right hone.ne' h
        apply EqualsInt.int
      · -- The other integer is rounded to a magnitude that the integer does not reach.
        have hunits := Binary64.le_units_ofInt hm
        rw [← Binary64.natAbs_value, h, Int.natAbs_mul, Int.natAbs_natCast] at hunits
        have hlt := Nat.mul_lt_mul_of_pos_right hn Binary64.unitsOfOne_pos
        omega

end Num

/-- A document matches equality with an integer when it has a number in the field that is the same
in binary64. -/
theorem accepts_integer_term_iff {document : Json} {field : String} {n : Int} :
  (Filter.term field (.num (.int n))).accepts document = true ↔
    ∃ a, Document.HasValue document field (.num a) ∧
      a.toBinary64.value = (Binary64.ofInt n).value
  := by
  have hterm : (Comparison.eq.filter ⟨field⟩ (.num (.int n))).accepts document = true ↔
      Comparison.eq.Holds document ⟨field⟩ (.num (.int n)) := Comparison.accepts_filter_iff rfl .eq
  rw [Comparison.filter, Comparison.Holds] at hterm
  rw [hterm]
  constructor
  · rintro ⟨v, hv, hequal⟩
    cases hequal with
    | same => exact ⟨_, hv, rfl⟩
    | number h => exact ⟨_, hv, h⟩
  · rintro ⟨a, ha, h⟩
    exact ⟨_, ha, Json.EqualsTerm.number h⟩

/-- The filter for equality of a field with an integer accepts a document when the document has a
number in the field that is the same as the integer in binary64, and so when it has one that is
numerically equal to the integer.  For an integer below `2 ^ 53` it accepts no other document. -/
theorem integer_term_accepts (document : Json) (field : String) (n : Int) :
  ∃ filter, (Predicate.fieldIs field .eq (.num (.int n))).compile = .ok filter ∧
    (filter.accepts document = true ↔
      ∃ a, Document.HasValue document field (.num a) ∧
        a.toBinary64.value = (Binary64.ofInt n).value) ∧
    ((∃ a, Document.HasValue document field (.num a) ∧ a.EqualsInt n) →
      filter.accepts document = true) ∧
    (n.natAbs < 2 ^ 53 →
      (filter.accepts document = true ↔
        ∃ a, Document.HasValue document field (.num a) ∧ a.EqualsInt n))
  := by
  have hequal : (∃ a, Document.HasValue document field (.num a) ∧ a.EqualsInt n) →
      (Filter.term field (.num (.int n))).accepts document = true := by
    rintro ⟨a, ha, h⟩
    exact accepts_integer_term_iff.mpr ⟨a, ha, h.toBinary64_value⟩
  refine ⟨_, rfl, accepts_integer_term_iff, hequal, ?_⟩
  intro hn
  constructor
  · intro haccepts
    obtain ⟨a, ha, h⟩ := accepts_integer_term_iff.mp haccepts
    exact ⟨a, ha, Num.equalsInt_of_lt hn h⟩
  · exact hequal

/-- The largest integer below `2 ^ 53`, with its neighbour and itself as a binary64 number among the
items of a field. -/
theorem integer_term_accepts_of_largest :
  let n : Int := 2 ^ 53 - 1
  let stored (items : List Json) : Json := .obj [("size", .obj [("bytes", .arr items)])]
  let neighbours := stored [.num (.int (n + 1)), .num (.int (n - 1)), .str (toString n)]
  let document := stored [.null, .num (.int (n + 1)), .num (.float (.ofInt n))]
  n.natAbs < 2 ^ 53 ∧
  ∃ filter, (Predicate.fieldIs "size.bytes" .eq (.num (.int n))).compile = .ok filter ∧
    filter.accepts document = true ∧ filter.accepts neighbours = false
  := by
  intro n stored neighbours document
  have hn : n.natAbs < 2 ^ 53 := by decide
  have hvalue : Document.HasValue document "size.bytes" (.num (.float (.ofInt n))) :=
    Document.mem_fieldValues.mp (by decide +kernel)
  have hothers : Document.fieldValues neighbours "size.bytes" =
      [.num (.int (n + 1)), .num (.int (n - 1)), .str (toString n)] := by decide +kernel
  refine ⟨hn, _, rfl, ?_, ?_⟩
  · obtain ⟨filter, hfilter, -, -, hexact⟩ := integer_term_accepts document "size.bytes" n
    cases hfilter
    exact (hexact hn).mpr ⟨_, hvalue, .float (Binary64.value_ofInt_of_lt hn)⟩
  · obtain ⟨filter, hfilter, -, -, hexact⟩ := integer_term_accepts neighbours "size.bytes" n
    cases hfilter
    rw [Bool.eq_false_iff, ne_eq, hexact hn]
    rintro ⟨a, ha, hequal⟩
    rw [← Document.mem_fieldValues, hothers] at ha
    cases hequal <;> simp [n] at ha

/-- The integer `2 ^ 53 + 1` is rounded to its neighbour: a document that has only the neighbour
matches equality with it. -/
theorem neighbour_accepted :
  let n : Int := 2 ^ 53 + 1
  let document : Json := .obj [("bytes", .num (.int (2 ^ 53)))]
  ∃ filter, (Predicate.fieldIs "bytes" .eq (.num (.int n))).compile = .ok filter ∧
    filter.accepts document = true ∧
    ¬ ∃ a, Document.HasValue document "bytes" (.num a) ∧ a.EqualsInt n
  := by
  intro n document
  have hvalues : Document.fieldValues document "bytes" = [.num (.int (2 ^ 53))] := by
    decide +kernel
  refine ⟨_, rfl, by decide +kernel, ?_⟩
  rintro ⟨a, ha, hequal⟩
  rw [← Document.mem_fieldValues, hvalues] at ha
  cases hequal <;> simp [n] at ha

end DocSearch
