import DocSearch.Proofs.Aggregation.Terms
import DocSearch.Proofs.Json.Sameness
import DocSearch.Proofs.Json.Text
import DocSearch.Proofs.Predicate.Meaning

/-!
# Documents of a bucket

A bucket of an aggregation by terms is to have the number of documents with its key.  It has the
number of values that are the key: a document counts as often as it repeats the key, and not at all
when it has only an equal number in another form, which equality with the key accepts.
`bucket_counts_values` states the exact difference, and when there is none.
-/

namespace DocSearch.Aggregation

/-- The number of documents that match equality of a field with a value. -/
def matchCount (documents : List Json) (field : String) (key : Json) : Nat :=
  documents.countP fun d => (Filter.term field key).accepts d

/-- The number of documents that match equality with a value and do not have the value itself. -/
def otherFormCount (documents : List Json) (field : String) (key : Json) : Nat :=
  documents.countP fun d =>
    (Filter.term field key).accepts d && !(Document.fieldValues d field).contains key

/-- The number of times that documents repeat a value. -/
def repeatCount (documents : List Json) (field : String) (key : Json) : Nat :=
  (documents.map fun d => (Document.fieldValues d field).count key - 1).sum

/-- The values with the text of a value are that value. -/
theorem occurrences_compact (values : List Json) (key : Json) :
  occurrences values key.compact = values.count key
  := by
  rw [occurrences, List.count_eq_countP]
  apply List.countP_congr
  intro v _
  rw [beq_iff_eq, beq_iff_eq]
  exact ⟨Json.compact_injective, congrArg Json.compact⟩

theorem equalTerm_self (v : Json) :
  v.equalTerm v = true
  := by
  cases v <;> simp [Json.equalTerm, Json.same_iff_unsigned, Binary64.same]

section Documents

variable (field : String) (key : Json)

/-- A document that has a value matches equality with it. -/
theorem accepts_of_count_pos {d : Json} (h : 0 < (Document.fieldValues d field).count key) :
  (Filter.term field key).accepts d = true
  := List.any_eq_true.mpr ⟨key, List.count_pos_iff.mp h, equalTerm_self key⟩

/-- The values that are the key are counted with the documents that match equality with the key. -/
theorem sum_count_add_otherFormCount (documents : List Json) :
  (documents.map fun d => (Document.fieldValues d field).count key).sum +
      otherFormCount documents field key =
    matchCount documents field key + repeatCount documents field key
  := by
  induction documents with
  | nil => rfl
  | cons d documents ih =>
      simp only [otherFormCount, matchCount, repeatCount, List.map_cons, List.sum_cons,
        List.countP_cons] at ih ⊢
      rcases Nat.eq_zero_or_pos ((Document.fieldValues d field).count key) with hzero | hpos
      · have hcontains : (Document.fieldValues d field).contains key = false := by
          simpa [List.count_eq_zero] using hzero
        rw [hzero, hcontains]
        simp only [Bool.not_false, Bool.and_true]
        omega
      · have hcontains : (Document.fieldValues d field).contains key = true := by
          simpa using List.count_pos_iff.mp hpos
        rw [accepts_of_count_pos field key hpos, hcontains]
        simp only [Bool.not_true, Bool.and_false, Bool.false_eq_true, if_false, if_true]
        omega

end Documents

/-- Buckets are told from their result. -/
theorem bucketsToJson_injective {tallies others : List Tally}
    (h : bucketsToJson tallies = bucketsToJson others) :
  tallies = others
  := by
  have hinjective : Function.Injective Tally.toJson := by
    rintro ⟨key, n⟩ ⟨key', n'⟩ heq
    simp only [Tally.toJson, Json.ofInt, Json.obj.injEq, List.cons.injEq, Prod.mk.injEq,
      Json.num.injEq, Num.int.injEq, Int.natCast_inj, true_and, and_true] at heq
    rw [heq.1, heq.2]
  simp only [bucketsToJson, Json.obj.injEq, List.cons.injEq, Prod.mk.injEq, Json.arr.injEq,
    true_and, and_true] at h
  exact List.map_injective_iff.mpr hinjective h

/-- Buckets have the numbers of values that are their keys.  Together with the documents that match
equality with the key by an equal number in another form, these are the documents that match it,
and the repetitions of the key inside documents.  So a bucket has the number of the documents that
match when each of them has the key once. -/
theorem bucket_counts_values (field : String) (size : Nat) (documents : List Json) :
  ∃ listed, Clause.evaluate ⟨.terms, field, size⟩ documents = bucketsToJson listed ∧
    ∀ t ∈ listed,
      t.count = (documents.map fun d => (Document.fieldValues d field).count t.key).sum ∧
      t.count + otherFormCount documents field t.key =
        matchCount documents field t.key + repeatCount documents field t.key ∧
      ((∀ d ∈ documents, (Filter.term field t.key).accepts d = true →
          (Document.fieldValues d field).count t.key = 1) →
        t.count = matchCount documents field t.key)
  := by
  refine ⟨_, rfl, ?_⟩
  intro t ht
  have hcount :
      t.count = (documents.map fun d => (Document.fieldValues d field).count t.key).sum := by
    rw [((mostFrequent_spec size _).counted t ht).2, occurrences_compact, List.count_flatMap]
    rfl
  have haccount := sum_count_add_otherFormCount field t.key documents
  rw [← hcount] at haccount
  refine ⟨hcount, haccount, ?_⟩
  intro honce
  have hother : otherFormCount documents field t.key = 0 := by
    rw [otherFormCount, List.countP_eq_zero]
    intro d hd haccepts
    rw [Bool.and_eq_true] at haccepts
    have hmem := List.count_pos_iff.mp (Nat.lt_of_lt_of_eq Nat.one_pos (honce d hd haccepts.1).symm)
    simp [hmem] at haccepts
  have hrepeat : repeatCount documents field t.key = 0 := by
    apply List.sum_eq_zero
    rw [List.forall_mem_map]
    intro d hd
    apply Nat.sub_eq_zero_of_le
    rcases Nat.eq_zero_or_pos ((Document.fieldValues d field).count t.key) with hzero | hpos
    · exact hzero.trans_le (Nat.zero_le 1)
    · exact (honce d hd (accepts_of_count_pos field t.key hpos)).le
  omega

/-- A text that a document repeats, one that no document repeats, and a number in two forms. -/
theorem bucket_counts_values_of_forms :
  let documents : List Json :=
    [.obj [("n", .arr [.ofInt 1, .str "a"])],
      .obj [("n", .arr [.num (.float (.ofInt 1)), .str "a", .str "a"])], .obj [("n", .str "b")]]
  let listed : List Tally :=
    [⟨.str "a", 3⟩, ⟨.str "b", 1⟩, ⟨.ofInt 1, 1⟩, ⟨.num (.float (.ofInt 1)), 1⟩]
  Clause.evaluate ⟨.terms, "n", 10⟩ documents = bucketsToJson listed ∧
    3 + otherFormCount documents "n" (.str "a") =
      matchCount documents "n" (.str "a") + repeatCount documents "n" (.str "a") ∧
    1 + otherFormCount documents "n" (.ofInt 1) =
      matchCount documents "n" (.ofInt 1) + repeatCount documents "n" (.ofInt 1) ∧
    1 = matchCount documents "n" (.str "b")
  := by
  intro documents listed
  have hranks : Ranks (documents.flatMap (Document.fieldValues · "n")) listed := by
    constructor <;> decide +kernel
  have hevaluate : Clause.evaluate ⟨.terms, "n", 10⟩ documents = bucketsToJson listed :=
    congrArg bucketsToJson ((mostFrequent_spec 10 _).top _ hranks)
  obtain ⟨listed', hevaluate', hcounts⟩ := bucket_counts_values "n" 10 documents
  obtain rfl : listed' = listed := bucketsToJson_injective (hevaluate'.symm.trans hevaluate)
  refine ⟨hevaluate, (hcounts ⟨.str "a", 3⟩ (by simp [listed])).2.1,
    (hcounts ⟨.ofInt 1, 1⟩ (by simp [listed])).2.1,
    (hcounts ⟨.str "b", 1⟩ (by simp [listed])).2.2 (by decide +kernel)⟩

/-- A document that repeats a value is counted twice, and one that has a number in another form is
not counted. -/
theorem bucket_count_ne_matchCount :
  let repeated : List Json := [.obj [("tags", .arr [.str "a", .str "a"])]]
  let forms : List Json := [.obj [("n", .ofInt 1)], .obj [("n", .num (.float (.ofInt 1)))]]
  Clause.evaluate ⟨.terms, "tags", 10⟩ repeated = bucketsToJson [⟨.str "a", 2⟩] ∧
    matchCount repeated "tags" (.str "a") = 1 ∧
    Clause.evaluate ⟨.terms, "n", 10⟩ forms =
      bucketsToJson [⟨.ofInt 1, 1⟩, ⟨.num (.float (.ofInt 1)), 1⟩] ∧
    matchCount forms "n" (.ofInt 1) = 2
  := by
  intro repeated forms
  have hrepeated : Ranks (repeated.flatMap (Document.fieldValues · "tags")) [⟨.str "a", 2⟩] := by
    constructor <;> decide +kernel
  have hforms : Ranks (forms.flatMap (Document.fieldValues · "n"))
      [⟨.ofInt 1, 1⟩, ⟨.num (.float (.ofInt 1)), 1⟩] := by
    constructor <;> decide +kernel
  refine ⟨?_, by decide +kernel, ?_, by decide +kernel⟩
  · exact congrArg bucketsToJson ((mostFrequent_spec 10 _).top _ hrepeated)
  · exact congrArg bucketsToJson ((mostFrequent_spec 10 _).top _ hforms)

end DocSearch.Aggregation
