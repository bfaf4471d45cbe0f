import DocSearch.Proofs.Document.Lexicographic
import DocSearch.Proofs.Engine.Aggregations

/-!
# Pages

`SearchRequest.ordered` lists what all pages of a search return together: the documents that match,
in the order of the sort keys, each with the fields that are kept.  A page is a part of this list,
and its total number and results are those of all pages (`Memory.search_paged`).  So two pages in a
row are one page: `pages_join`.
-/

namespace DocSearch

namespace SearchRequest

/-- The search for the page of `size` documents from `offset` on. -/
def paged (r : SearchRequest) (offset size : UInt64) : SearchRequest :=
  { r with offset := some offset, size := some size }

/-- All clauses of the aggregations can be read. -/
def Readable (r : SearchRequest) : Prop := ∀ spec, r.aggregations = some spec → spec.WellFormed

/-- The documents that match a search as its pages return them. -/
def ordered (r : SearchRequest) (stored : List Json) : List Json :=
  (Document.sortByAll r.sort (r.matching stored)).map (Document.project r.includes)

/-- The pages return every document that matches once. -/
theorem ordered_perm (r : SearchRequest) (stored : List Json) :
  (r.ordered stored).Perm ((r.matching stored).map (Document.project r.includes))
  := (lexSorted_sortByAll r.sort _).perm.map _

theorem length_ordered (r : SearchRequest) (stored : List Json) :
  (r.ordered stored).length = (r.matching stored).length
  := by
  rw [(r.ordered_perm stored).length_eq, List.length_map]

end SearchRequest

/-- Two parts of a list, the second one where the first one ends, are one part. -/
theorem take_drop_append {α : Type} (xs : List α) (a b c : Nat) :
  (xs.drop a).take b ++ (xs.drop (a + b)).take c = (xs.drop a).take (b + c)
  := by
  rw [List.take_add, List.drop_drop]

namespace Memory

variable {m : Memory} {r : SearchRequest} {index : Index}

/-- Aggregations that can be read have results. -/
theorem exists_results (h : r.Readable) (documents : List Json) :
  ∃ results, aggregations r documents = .ok results
  := by
  rw [aggregations]
  cases hspec : r.aggregations with
  | none => exact ⟨none, rfl⟩
  | some spec =>
      obtain ⟨results, hresults⟩ :=
        Aggregation.Spec.exists_evaluate_of_wellFormed documents (h spec hspec)
      exact ⟨some (.obj results), by simp only [hresults, Except.map]⟩

/-- A page is a part of the documents that match.  Its total number and results are those of all
pages, and the engine serves the next page. -/
theorem search_paged {results : Option Json} (h : m.Serves r.index index)
    (hresults : aggregations r (r.matching index.documents) = .ok results) (offset size : UInt64) :
  ∃ m', m.search (r.paged offset size) = (.ok (.hits
      ⟨((r.ordered index.documents).drop offset.toNat).take size.toNat,
        Int64.ofNat (r.matching index.documents).length, results⟩), m') ∧
    m'.Serves r.index index
  := by
  obtain ⟨m', hsearch, hserves⟩ := search_eq_answer (r := r.paged offset size) h
  refine ⟨m', ?_, hserves _ _ h⟩
  rw [hsearch, answer_of_results (r := r.paged offset size) h hresults, SearchRequest.ordered,
    ← List.map_drop, ← List.map_take]
  rfl

end Memory

/-- A number of documents that fits is exact as a size. -/
theorem toNat_toUInt64_ofNat {n : Nat} (h : n < 2 ^ 63) :
  (Int64.ofNat n).toUInt64.toNat = n
  := by
  rw [show (Int64.ofNat n).toUInt64 = UInt64.ofNat n from rfl, UInt64.toNat_ofNat',
    Nat.mod_eq_of_lt (by omega)]

/-- A page and the one that begins where it ends have the documents of the one page that is as large
as both.  All pages have the same total number, which is the number of stored documents that match,
and the same results of aggregations; and the first page of that size has every document that
matches once, with the fields that are kept.  The number is a signed one, since an index in memory
has fewer than `2 ^ 63` documents. -/
theorem pages_join {m : Memory} {r : SearchRequest} {index : Index} (h : m.Serves r.index index)
    (hread : r.Readable) (hlength : index.documents.length < 2 ^ 63) {a b c : UInt64}
    (hab : a.toNat + b.toNat < 2 ^ 64) (hbc : b.toNat + c.toNat < 2 ^ 64) :
  ∃ first second both whole m₁ m₂ m₃ m₄,
    m.search (r.paged a b) = (.ok (.hits first), m₁) ∧
    m₁.search (r.paged (a + b) c) = (.ok (.hits second), m₂) ∧
    m₂.search (r.paged a (b + c)) = (.ok (.hits both), m₃) ∧
    m₃.search (r.paged 0 both.total.toUInt64) = (.ok (.hits whole), m₄) ∧
    first.documents ++ second.documents = both.documents ∧
    (first.total = both.total ∧ second.total = both.total ∧
      both.total.toInt = (r.matching index.documents).length) ∧
    (first.aggregations = both.aggregations ∧ second.aggregations = both.aggregations) ∧
    whole.documents.Perm ((r.matching index.documents).map (Document.project r.includes))
  := by
  obtain ⟨results, hresults⟩ := Memory.exists_results hread (r.matching index.documents)
  obtain ⟨m₁, hfirst, h₁⟩ := Memory.search_paged h hresults a b
  obtain ⟨m₂, hsecond, h₂⟩ := Memory.search_paged h₁ hresults (a + b) c
  obtain ⟨m₃, hboth, h₃⟩ := Memory.search_paged h₂ hresults a (b + c)
  have hmatching : (r.matching index.documents).length ≤ index.documents.length :=
    List.length_filter_le _ _
  have hlt : (r.matching index.documents).length < 2 ^ 63 := Nat.lt_of_le_of_lt hmatching hlength
  obtain ⟨m₄, hwhole, -⟩ := Memory.search_paged h₃ hresults 0
    (Int64.ofNat (r.matching index.documents).length).toUInt64
  refine ⟨_, _, _, _, m₁, m₂, m₃, m₄, hfirst, hsecond, hboth, hwhole, ?_,
    ⟨rfl, rfl, Int64.toInt_ofNat_of_lt hlt⟩, ⟨rfl, rfl⟩, ?_⟩
  · rw [UInt64.toNat_add, UInt64.toNat_add, Nat.mod_eq_of_lt hab, Nat.mod_eq_of_lt hbc]
    apply take_drop_append
  · rw [toNat_toUInt64_ofNat hlt, UInt64.toNat_zero, List.drop_zero, ← r.length_ordered,
      List.take_length]
    apply r.ordered_perm

/-- Three documents match, two of which tie; the second page ends beyond the last one. -/
theorem pages_join_of_past_end :
  let index : Index := ⟨[
    ("1", .obj [("size", .num (.int 3)), ("tag", .str "x")]),
    ("2", .obj [("tag", .str "y")]),
    ("3", .obj [("hidden", .bool true), ("size", .num (.int 9))]),
    ("4", .obj [("size", .num (.int 3)), ("tag", .str "z")])]⟩
  let shown : Filter := .mustNot (.term "hidden" (.bool true))
  let largest : Aggregation.Spec := Aggregation.Spec.empty.aggregate .max "largest" "size"
  let r : SearchRequest :=
    ⟨"library", some shown, none, none, [⟨"size", .desc⟩], ["tag"], false, some largest⟩
  let m : Memory := Memory.empty.setIndex "library" index
  m.Serves "library" index ∧ r.Readable ∧ index.documents.length < 2 ^ 63 ∧
  (1 : UInt64).toNat + (1 : UInt64).toNat < 2 ^ 64 ∧
  (1 : UInt64).toNat + (7 : UInt64).toNat < 2 ^ 64 ∧
  ∃ first second both whole m₁ m₂ m₃ m₄,
    m.search (r.paged 1 1) = (.ok (.hits first), m₁) ∧
    m₁.search (r.paged 2 7) = (.ok (.hits second), m₂) ∧
    m₂.search (r.paged 1 8) = (.ok (.hits both), m₃) ∧
    m₃.search (r.paged 0 both.total.toUInt64) = (.ok (.hits whole), m₄) ∧
    first.documents ++ second.documents = both.documents ∧ both.total.toInt = 3 ∧
    first.aggregations = second.aggregations ∧
    whole.documents.Perm
      [.obj [("tag", .str "x")], .obj [("tag", .str "y")], .obj [("tag", .str "z")]]
  := by
  intro index shown largest r m
  have hserves : m.Serves "library" index := ⟨rfl, rfl, rfl⟩
  have hread : r.Readable := by
    rintro spec hspec
    obtain rfl := Option.some.inj hspec
    rw [Aggregation.Spec.wellFormed_iff, show largest.clauses.entries =
      [("largest", .obj [("max", .obj [("field", .str "size")])])] by decide +kernel]
    simp only [List.forall_mem_cons, List.not_mem_nil, false_imp_iff, implies_true, and_true]
    exact .intro .max rfl
  have hlength : index.documents.length < 2 ^ 63 := by decide
  have hab : (1 : UInt64).toNat + (1 : UInt64).toNat < 2 ^ 64 := by decide
  have hbc : (1 : UInt64).toNat + (7 : UInt64).toNat < 2 ^ 64 := by decide
  have hnumber : (r.matching index.documents).length = 3 := by decide +kernel
  have htags : (r.matching index.documents).map (Document.project r.includes) =
      [.obj [("tag", .str "x")], .obj [("tag", .str "y")], .obj [("tag", .str "z")]] := by
    decide +kernel
  obtain ⟨first, second, both, whole, m₁, m₂, m₃, m₄, hfirst, hsecond, hboth, hwhole, hjoin,
    ⟨-, -, htotal⟩, ⟨hresults, hresults'⟩, hperm⟩ := pages_join hserves hread hlength hab hbc
  rw [hnumber] at htotal
  rw [htags] at hperm
  exact ⟨hserves, hread, hlength, hab, hbc, first, second, both, whole, m₁, m₂, m₃, m₄, hfirst,
    hsecond, hboth, hwhole, hjoin, htotal, hresults.trans hresults'.symm, hperm⟩

end DocSearch
