import DocSearch.Aggregation.Result
import DocSearch.Proofs.Aggregation.Clauses
import DocSearch.Proofs.Aggregation.Ranking

/-!
# Buckets of an aggregation by terms

`MostFrequent` says what it means that tallies list the most frequent of some values: they are the
first ones of the ranking of the values.  An aggregation by terms yields them, agrees with those
that count values, and is read back as it is: `terms_most_frequent`.
-/

namespace DocSearch.Aggregation

/-- The number of values that a clause lists at most. -/
inductive Clause.Lists (body : Json) : Nat → Prop
  | given {n : Nat} (h : body.get? "size" = some (.ofInt n)) : Lists body n
  | default (h : ∀ n : Nat, body.get? "size" ≠ some (.ofInt n)) : Lists body 10

/-- Tallies list the `size` most frequent of some values. -/
structure MostFrequent (values : List Json) (size : Nat) (listed : List Tally) : Prop where
  top : ∀ ranking, Ranks values ranking → listed = ranking.take size
  ranked : ∃ ranking, Ranks values ranking
  distinct : (listed.map (·.key.compact)).Nodup
  counted : ∀ t ∈ listed, 0 < t.count ∧ t.count = occurrences values t.key.compact
  ordered : listed.Pairwise Tally.Precedes
  length : listed.length = min size (values.map Json.compact).dedup.length
  omitted : ∀ v ∈ values, (∀ t ∈ listed, t.key.compact ≠ v.compact) →
    ∀ t ∈ listed, occurrences values v.compact ≤ t.count

theorem bind_sizeOf?_eq_some_iff {v : Option Json} {n : Nat} :
  v.bind sizeOf? = some n ↔ v = some (.ofInt n)
  := by
  rw [Option.bind_eq_some_iff]
  constructor
  · rintro ⟨w, rfl, hw⟩
    fun_cases sizeOf? w with
    | case1 k hk =>
        rw [sizeOf?, if_pos hk] at hw
        rw [← Option.some.inj hw, Json.ofInt, Int.toNat_of_nonneg hk]
    | case2 k hk =>
        rw [sizeOf?, if_neg hk] at hw
        cases hw
    | case3 w hw' =>
        rw [sizeOf?] at hw
        · cases hw
        · exact hw'
  · rintro rfl
    exact ⟨.ofInt n, rfl, by simp [sizeOf?, Json.ofInt]⟩

/-- A clause lists as many values as it says, or ten. -/
theorem Clause.lists_size (body : Json) :
  Lists body (((body.get? "size").bind sizeOf?).getD defaultSize)
  := by
  cases hsize : (body.get? "size").bind sizeOf? with
  | some n => exact Lists.given (bind_sizeOf?_eq_some_iff.mp hsize)
  | none =>
      apply Lists.default
      intro n hn
      rw [bind_sizeOf?_eq_some_iff.mpr hn] at hsize
      cases hsize

/-- The most frequent values are listed. -/
theorem mostFrequent_spec (size : Nat) (values : List Json) :
  MostFrequent values size (mostFrequent size values)
  := by
  have hranks := ranks_ranking values
  have hsublist : (mostFrequent size values).Sublist (ranking values) := List.take_sublist _ _
  have htexts : ((ranking values).map (·.key.compact)).Perm (values.map Json.compact).dedup :=
    ((ranking_perm values).map _).trans (texts_tally values)
  constructor
  case top =>
    intro other hother
    rw [mostFrequent_eq_take, hranks.unique hother]
  case ranked => exact ⟨_, hranks⟩
  case distinct =>
    exact (htexts.nodup_iff.mpr (List.nodup_dedup _)).sublist (hsublist.map _)
  case counted =>
    intro t ht
    have hmem := hsublist.mem ht
    have hcount := hranks.counted t hmem
    refine ⟨?_, hcount⟩
    rw [hcount, occurrences, List.countP_pos_iff]
    exact ⟨t.key, List.mem_of_find?_eq_some (hranks.first t hmem), beq_self_eq_true _⟩
  case ordered => exact hranks.ordered.sublist hsublist
  case length =>
    rw [mostFrequent_eq_take, List.length_take, ← htexts.length_eq, List.length_map]
  case omitted =>
    intro v hv hnone t ht
    obtain ⟨u, hu, htext⟩ := hranks.complete v hv
    -- The tally of the omitted value stands behind the cut.
    have hsplit := List.take_append_drop size (ranking values)
    rw [← hsplit, List.mem_append] at hu
    rcases hu with hu | hu
    · cases hnone u hu htext
    · have hordered := hranks.ordered
      rw [← hsplit, List.pairwise_append] at hordered
      have hle := (hordered.2.2 t ht u hu).count_le
      rw [← htext, ← hranks.counted u (List.mem_of_mem_drop hu)]
      exact hle

/-! ### Reading buckets back -/

theorem natOfBits?_ofInt {bits n : Nat} (h : n < 2 ^ bits) :
  Json.natOfBits? bits (.ofInt n) = some n
  := by
  rw [← Nat.one_shiftLeft] at h
  exact if_pos ⟨Int.natCast_nonneg n, h⟩

/-- A tally is read back as a bucket. -/
theorem Bucket.ofJson?_toJson {t : Tally} (h : t.count < 2 ^ 64) :
  Bucket.ofJson? t.toJson = some ⟨t.key, .ofNat t.count⟩
  := by
  have hcount := natOfBits?_ofInt h
  simp [ofJson?, Tally.toJson, Record.ofJson?, Record.defaulted?, Record.get?, Entries.get?, hcount]

/-- Tallies are read back as buckets in the same order. -/
theorem Buckets.ofJson?_toJson {tallies : List Tally} (h : ∀ t ∈ tallies, t.count < 2 ^ 64) :
  Buckets.ofJson? (bucketsToJson tallies) =
    some ⟨tallies.map fun t => ⟨t.key, .ofNat t.count⟩⟩
  := by
  have hread : (tallies.map Tally.toJson).mapM Bucket.ofJson? =
      some (tallies.map fun t => ⟨t.key, .ofNat t.count⟩) := by
    induction tallies with
    | nil => rfl
    | cons t tallies ih =>
        rw [List.forall_mem_cons] at h
        simp [Bucket.ofJson?_toJson h.1, ih h.2]
  simp [ofJson?, bucketsToJson, Record.ofJson?, Record.defaulted?, Record.get?, Entries.get?,
    Json.listOf?, hread]

/-! ### Aggregations by terms -/

/-- The ranking has a tally for each text. -/
theorem length_ranking (values : List Json) :
  (ranking values).length = (values.map Json.compact).dedup.length
  := by
  rw [(ranking_perm values).length_eq, ← (texts_tally values).length_eq, List.length_map]

/-- The numbers of a ranking add up to the number of values. -/
theorem sum_ranking (values : List Json) :
  ((ranking values).map Tally.count).sum = values.length
  := by
  rw [((ranking_perm values).map _).sum_eq, sum_tally]

/-- An aggregation by the terms of a field lists the most frequent values of the field in all
documents, ten of them when its clause does not say how many.  When all of them are listed, their
numbers add up to the number of values, and their number is that of different texts, as the other
aggregations of the field say.  The result is read back as the buckets in this order, as far as
their numbers are of 64 bits, which those of values in memory are. -/
theorem terms_most_frequent {body : Json} {field : String}
    (hfield : body.get? "field" = some (.str field)) (name : String) (documents : List Json) :
  let values := documents.flatMap (Document.fieldValues · field)
  ∃ size listed, Clause.Lists body size ∧
    Clause.ofJson name (.obj [("terms", body)]) = .ok ⟨.terms, field, size⟩ ∧
    Clause.evaluate ⟨.terms, field, size⟩ documents = bucketsToJson listed ∧
    MostFrequent values size listed ∧
    ((values.map Json.compact).dedup.length ≤ size → ∀ n,
      Clause.evaluate ⟨.valueCount, field, n⟩ documents =
        metricToJson (.ofInt (listed.map Tally.count).sum) ∧
      Clause.evaluate ⟨.cardinality, field, n⟩ documents = metricToJson (.ofInt listed.length)) ∧
    (values.length < 2 ^ 64 → ∃ bs, Buckets.ofJson? (bucketsToJson listed) = some bs ∧
      bs.buckets.map (fun b => (b.key, b.documents.toNat)) = listed.map fun t => (t.key, t.count))
  := by
  intro values
  obtain ⟨size, hlists, hclause⟩ : ∃ size, Clause.Lists body size ∧
      Clause.ofJson name (.obj [("terms", body)]) = .ok ⟨.terms, field, size⟩ :=
    ⟨_, Clause.lists_size body, Clause.ofJson_of_field name .terms hfield⟩
  have hlisted := mostFrequent_spec size values
  refine ⟨size, mostFrequent size values, hlists, hclause, rfl, hlisted, ?_, ?_⟩
  · intro hall n
    have htake : mostFrequent size values = ranking values := by
      rw [mostFrequent_eq_take]
      exact List.take_of_length_le (length_ranking values ▸ hall)
    constructor
    · rw [htake, sum_ranking]
      rfl
    · rw [htake, (ranking_perm values).length_eq]
      rfl
  · intro hlength
    have hcount : ∀ t ∈ mostFrequent size values, t.count < 2 ^ 64 := by
      intro t ht
      rw [(hlisted.counted t ht).2]
      exact Nat.lt_of_le_of_lt List.countP_le_length hlength
    refine ⟨_, Buckets.ofJson?_toJson hcount, ?_⟩
    rw [List.map_map]
    apply List.map_congr_left
    intro t ht
    simp only [Function.comp_apply, UInt64.toNat_ofNat', Nat.mod_eq_of_lt (hcount t ht)]

/-- Of values of several kinds, three of them with a tie at the cut, those with the smaller texts
are listed. -/
theorem terms_most_frequent_of_tie :
  let body : Json := .obj [("field", .str "tags"), ("size", .ofInt 3)]
  let documents : List Json :=
    [.obj [("tags", .arr [.num (.float (.ofInt 1)), .str "b", .null, .str "a"])],
      .obj [("tags", .str "a")], .obj [("tags", .null)],
      .obj [("tags", .arr [.ofInt 1, .str "b"])]]
  let listed : List Tally := [⟨.str "a", 2⟩, ⟨.str "b", 2⟩, ⟨.ofInt 1, 1⟩]
  body.get? "field" = some (.str "tags") ∧
    Clause.ofJson "top" (.obj [("terms", body)]) = .ok ⟨.terms, "tags", 3⟩ ∧
    Clause.evaluate ⟨.terms, "tags", 3⟩ documents = bucketsToJson listed ∧
    ∃ bs, Buckets.ofJson? (bucketsToJson listed) = some bs ∧
      bs.buckets.map (fun b => (b.key, b.documents.toNat)) = listed.map fun t => (t.key, t.count)
  := by
  intro body documents listed
  have hfield : body.get? "field" = some (.str "tags") := rfl
  obtain ⟨size, listed', -, hclause, hevaluate, hlisted, -, hread⟩ :=
    terms_most_frequent hfield "top" documents
  obtain ⟨-, -, rfl⟩ := Clause.mk.inj (Except.ok.inj hclause)
  have hranks : Ranks (documents.flatMap (Document.fieldValues · "tags"))
      (listed ++ [⟨.num (.float (.ofInt 1)), 1⟩]) := by
    constructor <;> decide +kernel
  obtain rfl : listed' = listed := hlisted.top _ hranks
  exact ⟨hfield, hclause, hevaluate, hread (by decide +kernel)⟩

end DocSearch.Aggregation
