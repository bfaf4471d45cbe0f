import DocSearch.Proofs.Document.Sorting
import DocSearch.Proofs.SortedMap
import DocSearch.Aggregation.Evaluation
import Mathlib.Algebra.BigOperators.Group.List.Lemmas
import Mathlib.Algebra.Ring.Nat

/-!
# The most frequent values

`tally` counts values by their texts: it has one tally for each text, with the first value of the
text and the number of values with it (`mem_tally_iff`, `tally_increasing`).  `Ranks` says which
order of tallies is the ranking of values; there is exactly one (`ranks_ranking`, `Ranks.unique`),
and the most frequent values are the first ones of it.
-/

namespace DocSearch.Aggregation

/-- The number of values with a text. -/
def occurrences (values : List Json) (text : String) : Nat := values.countP (·.compact == text)

/-- The first value with a text. -/
def first? (values : List Json) (text : String) : Option Json := values.find? (·.compact == text)

theorem occurrences_eq_count (values : List Json) (text : String) :
  occurrences values text = (values.map Json.compact).count text
  := by
  rw [List.count_eq_countP, List.countP_map]
  rfl

theorem compact_of_first? {values : List Json} {text : String} {v : Json}
    (h : first? values text = some v) :
  v.compact = text
  := by
  simpa using List.find?_some h

/-- A value among others is one of the values with its text. -/
theorem exists_first? {values : List Json} {v : Json} (h : v ∈ values) :
  ∃ w, first? values v.compact = some w
  := by
  rw [← Option.isSome_iff_exists, first?, List.find?_isSome]
  exact ⟨v, h, beq_self_eq_true _⟩

/-! ### Counting -/

/-- Entries tell for each text the first value that has it and the number of those that do. -/
structure Counts (values : List Json) (tallies : Entries Tally) : Prop where
  sorted : tallies.Sorted
  get? (text : String) : Entries.get? text tallies =
    (first? values text).map fun key => ⟨key, occurrences values text⟩

namespace Counts

variable {values : List Json} {tallies : Entries Tally}

theorem nil :
  Counts [] []
  := ⟨List.Pairwise.nil, fun _ => rfl⟩

/-- One more value is counted. -/
theorem concat (h : Counts values tallies) (v : Json) :
  Counts (values ++ [v]) (count tallies v)
  := by
  constructor
  case sorted =>
    rw [count]
    split <;> apply h.sorted.insert
  case get? =>
    intro text
    have hother (t : Tally) : Entries.get? text (Entries.insert v.compact t tallies) =
        if v.compact = text then some t else
          (first? values text).map fun key => ⟨key, occurrences values text⟩ := by
      rw [Entries.get?_insert, h.get?]
    rw [count, h.get?]
    by_cases htext : v.compact = text
    · subst htext
      cases hfirst : first? values v.compact with
      | some key =>
          rw [first?] at hfirst
          simp [hother, first?, occurrences, List.find?_append, hfirst]
      | none =>
          have hzero : occurrences values v.compact = 0 :=
            List.countP_eq_zero.mpr (List.find?_eq_none.mp hfirst)
          rw [first?] at hfirst
          rw [occurrences] at hzero
          simp [hother, first?, occurrences, List.find?_append, hfirst, hzero]
    · have hsame : first? (values ++ [v]) text = first? values text ∧
          occurrences (values ++ [v]) text = occurrences values text := by
        simp [first?, occurrences, List.find?_append, htext]
      rw [hsame.1, hsame.2]
      cases first? values v.compact <;> simp [hother, htext]

theorem foldl (h : Counts values tallies) (more : List Json) :
  Counts (values ++ more) (more.foldl count tallies)
  := by
  induction more generalizing values tallies with
  | nil => rwa [List.append_nil]
  | cons v more ih =>
      rw [List.foldl_cons, List.append_cons]
      exact ih (h.concat v)

/-- A text has a tally of the key with the text. -/
theorem compact_of_mem (h : Counts values tallies) {entry : String × Tally}
    (hmem : entry ∈ tallies) :
  entry.2.key.compact = entry.1
  := by
  have hget := h.sorted.get?_of_mem hmem
  rw [h.get?, Option.map_eq_some_iff] at hget
  obtain ⟨key, hkey, heq⟩ := hget
  rw [← heq]
  exact compact_of_first? hkey

end Counts

variable {values : List Json}

theorem counts_tally (values : List Json) :
  Counts values (values.foldl count [])
  := by
  simpa using Counts.nil.foldl values

/-- A tally has the first value with its text and the number of those with it. -/
theorem mem_tally_iff {t : Tally} :
  t ∈ tally values ↔ first? values t.key.compact = some t.key ∧
    t.count = occurrences values t.key.compact
  := by
  have hcounts := counts_tally values
  rw [tally, List.mem_map]
  constructor
  · rintro ⟨⟨text, key, n⟩, hmem, rfl⟩
    have hget := hcounts.sorted.get?_of_mem hmem
    obtain rfl : key.compact = text := hcounts.compact_of_mem hmem
    rw [hcounts.get?, Option.map_eq_some_iff] at hget
    obtain ⟨first, hfirst, heq⟩ := hget
    obtain ⟨rfl, rfl⟩ := Tally.mk.inj heq
    exact ⟨hfirst, rfl⟩
  · rintro ⟨hkey, hcount⟩
    refine ⟨(t.key.compact, t), Entries.mem_of_get? ?_, rfl⟩
    rw [hcounts.get?, hkey, Option.map_some, ← hcount]

/-- The texts of the tallies increase. -/
theorem tally_increasing (values : List Json) :
  (tally values).Pairwise fun t u => t.key.compact < u.key.compact
  := by
  have hcounts := counts_tally values
  rw [tally, List.pairwise_map]
  apply List.Pairwise.imp_of_mem _ hcounts.sorted
  intro entry entry' hmem hmem' hlt
  rwa [hcounts.compact_of_mem hmem, hcounts.compact_of_mem hmem']

/-- The texts of the tallies are those of the values. -/
theorem texts_tally (values : List Json) :
  ((tally values).map (·.key.compact)).Perm (values.map Json.compact).dedup
  := by
  have hnodup : ((tally values).map (·.key.compact)).Nodup := by
    rw [List.Nodup, List.pairwise_map]
    apply (tally_increasing values).imp
    intro t u hlt heq
    exact String.lt_irrefl _ (heq ▸ hlt)
  rw [List.perm_ext_iff_of_nodup hnodup (List.nodup_dedup _)]
  intro text
  simp only [List.mem_map, List.mem_dedup]
  constructor
  · rintro ⟨t, ht, rfl⟩
    exact ⟨t.key, List.mem_of_find?_eq_some (mem_tally_iff.mp ht).1, rfl⟩
  · rintro ⟨v, hv, rfl⟩
    obtain ⟨w, hw⟩ := exists_first? hv
    have htext := compact_of_first? hw
    refine ⟨⟨w, occurrences values v.compact⟩, mem_tally_iff.mpr ?_, htext⟩
    rw [htext]
    exact ⟨hw, rfl⟩

/-- The numbers of all tallies add up to the number of values. -/
theorem sum_tally (values : List Json) :
  ((tally values).map Tally.count).sum = values.length
  := by
  have hcount : (tally values).map Tally.count =
      ((tally values).map (·.key.compact)).map (values.map Json.compact).count := by
    rw [List.map_map]
    apply List.map_congr_left
    intro t ht
    rw [(mem_tally_iff.mp ht).2, occurrences_eq_count]
    rfl
  rw [hcount, ((texts_tally values).map _).sum_eq, List.sum_map_count_dedup_eq_length,
    List.length_map]

/-! ### Ranking -/

/-- A tally stands before another one: it is of more values, or of as many with a smaller text. -/
def Tally.Precedes (t u : Tally) : Prop :=
  u.count < t.count ∨ t.count = u.count ∧ t.key.compact < u.key.compact

instance : DecidableRel Tally.Precedes := fun t u =>
  inferInstanceAs
    (Decidable (u.count < t.count ∨ t.count = u.count ∧ t.key.compact < u.key.compact))

/-- Tallies are the ranking of values: one for each text, with the first value of the text and the
number of those with it, the most frequent ones first and then those with the smaller texts. -/
structure Ranks (values : List Json) (ranking : List Tally) : Prop where
  first : ∀ t ∈ ranking, first? values t.key.compact = some t.key
  counted : ∀ t ∈ ranking, t.count = occurrences values t.key.compact
  complete : ∀ v ∈ values, ∃ t ∈ ranking, t.key.compact = v.compact
  ordered : ranking.Pairwise Tally.Precedes

/-- The tallies of values, the most frequent ones first. -/
def ranking (values : List Json) : List Tally :=
  (tally values).mergeSort fun t u => decide (u.count ≤ t.count)

theorem mostFrequent_eq_take (size : Nat) (values : List Json) :
  mostFrequent size values = (ranking values).take size
  := rfl

theorem ranking_perm (values : List Json) :
  (ranking values).Perm (tally values)
  := List.mergeSort_perm _ _

/-- Tallies are sorted by their numbers, and those with the same number stay in the order of their
texts. -/
theorem ranking_ordered (values : List Json) :
  (ranking values).Pairwise Tally.Precedes
  := by
  have htrans : ∀ t u w : Tally, decide (u.count ≤ t.count) → decide (w.count ≤ u.count) →
      decide (w.count ≤ t.count) := by
    simp only [decide_eq_true_eq]
    omega
  have htotal : ∀ t u : Tally, decide (u.count ≤ t.count) || decide (t.count ≤ u.count) := by
    simp only [Bool.or_eq_true, decide_eq_true_eq]
    omega
  rw [List.pairwise_iff_forall_sublist]
  intro t u hsublist
  have hle := List.pairwise_iff_forall_sublist.mp
    (List.pairwise_mergeSort htrans htotal (tally values)) hsublist
  rcases Nat.lt_or_eq_of_le (of_decide_eq_true hle) with hlt | heq
  · exact Or.inl hlt
  · -- Among the tallies with this number the sort keeps the order.
    have hfilter := hsublist.filter fun w => w.count == t.count
    rw [ranking, filter_mergeSort_of_ties htrans htotal] at hfilter
    · simp only [List.filter_cons, List.filter_nil, heq, beq_self_eq_true, if_true] at hfilter
      exact Or.inr ⟨heq.symm, List.pairwise_iff_forall_sublist.mp (tally_increasing values)
        (hfilter.trans List.filter_sublist)⟩
    · intro v w hv hw
      simp only [beq_iff_eq] at hv hw
      exact decide_eq_true (by omega)

/-- The ranking of values. -/
theorem ranks_ranking (values : List Json) :
  Ranks values (ranking values)
  := by
  constructor
  case first =>
    intro t ht
    exact (mem_tally_iff.mp ((ranking_perm values).mem_iff.mp ht)).1
  case counted =>
    intro t ht
    exact (mem_tally_iff.mp ((ranking_perm values).mem_iff.mp ht)).2
  case complete =>
    intro v hv
    have hmem : v.compact ∈ (tally values).map (·.key.compact) :=
      (texts_tally values).mem_iff.mpr (List.mem_dedup.mpr (List.mem_map_of_mem hv))
    obtain ⟨t, ht, htext⟩ := List.mem_map.mp hmem
    exact ⟨t, (ranking_perm values).mem_iff.mpr ht, htext⟩
  case ordered => exact ranking_ordered values

namespace Tally.Precedes

variable {t u : Tally}

theorem irrefl : ¬ t.Precedes t
  := by
  rintro (h | ⟨-, h⟩)
  · exact Nat.lt_irrefl _ h
  · exact String.lt_irrefl _ h

theorem asymm (h : t.Precedes u) :
  ¬ u.Precedes t
  := by
  rintro (h' | ⟨heq', h'⟩) <;> rcases h with h | ⟨heq, h⟩
  · omega
  · omega
  · omega
  · exact String.lt_irrefl _ (String.lt_trans h h')

theorem count_le (h : t.Precedes u) :
  u.count ≤ t.count
  := by
  rcases h with h | ⟨h, -⟩ <;> omega

end Tally.Precedes

namespace Ranks

variable {ranking other : List Tally}

/-- A tally of a ranking stands in any other one. -/
theorem subset (h : Ranks values ranking) (hother : Ranks values other) {t : Tally}
    (ht : t ∈ ranking) :
  t ∈ other
  := by
  have hkey := h.first t ht
  obtain ⟨u, hu, htext⟩ := hother.complete t.key (List.mem_of_find?_eq_some hkey)
  have hkey' := hother.first u hu
  rw [htext, hkey] at hkey'
  have hcount : t.count = u.count := by rw [h.counted t ht, hother.counted u hu, htext]
  obtain rfl : t = u := by
    cases t
    cases u
    rw [Tally.mk.injEq]
    exact ⟨Option.some.inj hkey', hcount⟩
  exact hu

/-- A tally stands once in a ranking. -/
theorem nodup (h : Ranks values ranking) :
  ranking.Nodup
  := by
  apply h.ordered.imp
  rintro t u hprecedes rfl
  exact Tally.Precedes.irrefl hprecedes

/-- Values have only one ranking. -/
theorem unique (h : Ranks values ranking) (hother : Ranks values other) :
  ranking = other
  := by
  have hperm : ranking.Perm other := by
    rw [List.perm_ext_iff_of_nodup h.nodup hother.nodup]
    exact fun t => ⟨h.subset hother, hother.subset h⟩
  apply hperm.eq_of_pairwise _ h.ordered hother.ordered
  intro t u _ _ hprecedes hprecedes'
  cases hprecedes.asymm hprecedes'

end Ranks

end DocSearch.Aggregation
