import DocSearch.Engine.Memory
import DocSearch.Proofs.Document.Sorting
import DocSearch.Proofs.Number.Magnitude

/-!
# Sorting by several keys

`SortKey.Precedes` says when a document comes before another one by a key, and `LexPrecedes` when it
does by several keys, the first of them most significant.  Stable sorts by one key after the other,
the last key first, leave documents in the order of all keys together, those that are alike by all
of them as they stood: `Document.lexSorted_sortByAll`.  A search pages the documents that match in
this order: `find_lexSorted`.
-/

namespace DocSearch

open Document

/-! ### The order by one key -/

/-- The type of the second value is the next one after that of the first.  Null comes first, then
truth values, numbers, texts, arrays and objects. -/
inductive Json.NextType : Json → Json → Prop
  | truth (a : Bool) : NextType .null (.bool a)
  | number (a : Bool) (n : Num) : NextType (.bool a) (.num n)
  | text (n : Num) (s : String) : NextType (.num n) (.str s)
  | array (s : String) (items : List Json) : NextType (.str s) (.arr items)
  | object (items : List Json) (entries : Entries Json) : NextType (.arr items) (.obj entries)

/-- A value comes before another one by their types, and within a type `false` before `true`, the
smaller number before the larger one, and texts in the order of their code points.  No array comes
before another one, and no object before another one. -/
inductive Json.Before : Json → Json → Prop
  | types {v w : Json} (h : Relation.TransGen NextType v w) : Before v w
  | truth : Before (.bool false) (.bool true)
  | numbers {m n : Num} (h : m.toBinary64.value < n.toBinary64.value) : Before (.num m) (.num n)
  | texts {s t : String} (h : s.toList < t.toList) : Before (.str s) (.str t)

theorem nextType_iff {v w : Json} :
  v.NextType w ↔ typeRank w = typeRank v + 1
  := by
  constructor
  · rintro (_ | _ | _ | _ | _) <;> rfl
  · intro h
    cases v <;> cases w <;> cases h <;> constructor

/-- Every type but the first one is the next one after some type. -/
theorem exists_nextType {w : Json} (h : 0 < typeRank w) :
  ∃ v : Json, v.NextType w
  := by
  cases w with
  | null => cases Nat.lt_irrefl 0 h
  | bool a => exact ⟨.null, .truth a⟩
  | num n => exact ⟨.bool true, .number true n⟩
  | str s => exact ⟨.num (.int 0), .text _ s⟩
  | arr items => exact ⟨.str "", .array "" items⟩
  | obj entries => exact ⟨.arr [], .object [] entries⟩

/-- A type is ranked below those that come after it. -/
theorem typeRank_lt_iff {v w : Json} :
  typeRank v < typeRank w ↔ Relation.TransGen Json.NextType v w
  := by
  constructor
  · intro h
    induction hrank : typeRank w generalizing w with
    | zero => omega
    | succ rank ih =>
        obtain ⟨u, hu⟩ := exists_nextType (w := w) (by omega)
        have hstep := nextType_iff.mp hu
        by_cases hlast : typeRank v = rank
        · exact Relation.TransGen.single (nextType_iff.mpr (by omega))
        · exact Relation.TransGen.tail (ih (by omega) (by omega)) hu
  · intro h
    induction h with
    | single hstep =>
        rw [nextType_iff.mp hstep]
        exact Nat.lt_succ_self _
    | tail _ hstep ih =>
        rw [nextType_iff.mp hstep]
        exact Nat.lt_succ_of_lt ih

/-- Values are compared as they come before each other. -/
theorem compareValues_eq_lt_iff {v w : Json} :
  compareValues v w = .lt ↔ v.Before w
  := by
  fun_cases compareValues v w with
  | case1 a b =>
      constructor
      · intro h
        cases a <;> cases b <;> cases h
        exact Json.Before.truth
      · rintro (h | _)
        · exact absurd (typeRank_lt_iff.mpr h) (Nat.lt_irrefl _)
        · rfl
  | case2 m n =>
      rw [Binary64.order, Int.compare_eq_lt, Binary64.place_lt_iff]
      constructor
      · exact Json.Before.numbers
      · rintro (h | _ | h)
        · exact absurd (typeRank_lt_iff.mpr h) (Nat.lt_irrefl _)
        · exact h
  | case3 s t =>
      rw [show compare s t = compareOfLessAndEq s t from rfl, compareOfLessAndEq_eq_lt,
        String.lt_iff]
      constructor
      · exact Json.Before.texts
      · rintro (h | _ | _ | h)
        · exact absurd (typeRank_lt_iff.mpr h) (Nat.lt_irrefl _)
        · exact h
  | case4 v w hbool hnum hstr =>
      rw [Nat.compare_eq_lt, typeRank_lt_iff]
      constructor
      · exact Json.Before.types
      · rintro (h | _ | _ | _)
        · exact h
        · cases hbool _ _ rfl rfl
        · cases hnum _ _ rfl rfl
        · cases hstr _ _ rfl rfl

theorem compareValues_eq_gt_iff {v w : Json} :
  compareValues v w = .gt ↔ w.Before v
  := by
  rw [← compareValues_eq_lt_iff, Std.OrientedCmp.gt_iff_lt]

namespace SortKey

/-- A document comes before another one by a key: its value comes before that of the other one, or
the other way round in descending order, or the other one has no value. -/
inductive Precedes (key : SortKey) (a b : Json) : Prop
  | missing {v : Json} (ha : lookup a key.field = some v) (hb : lookup b key.field = none) :
      Precedes key a b
  | ascending {v w : Json} (hdirection : key.direction = .asc) (ha : lookup a key.field = some v)
      (hb : lookup b key.field = some w) (h : v.Before w) : Precedes key a b
  | descending {v w : Json} (hdirection : key.direction = .desc) (ha : lookup a key.field = some v)
      (hb : lookup b key.field = some w) (h : w.Before v) : Precedes key a b

/-- Two documents are alike by a key when none of them comes before the other one. -/
def Alike (key : SortKey) (a b : Json) : Prop := ¬ key.Precedes a b ∧ ¬ key.Precedes b a

variable {key : SortKey} {a b : Json}

/-- A document without a value comes before no other one. -/
theorem not_precedes_of_missing (ha : lookup a key.field = none) :
  ¬ key.Precedes a b
  := by
  rintro (⟨hvalue, -⟩ | ⟨-, hvalue, -⟩ | ⟨-, hvalue, -⟩) <;> cases ha.symm.trans hvalue

/-- Documents that both have a value come before each other as their values do. -/
theorem precedes_iff_of_values {v w : Json} (ha : lookup a key.field = some v)
    (hb : lookup b key.field = some w) :
  key.Precedes a b ↔ directed key.direction (compareValues v w) = .lt
  := by
  constructor
  · rintro (⟨-, hmissing⟩ | ⟨hdirection, ha', hb', h⟩ | ⟨hdirection, ha', hb', h⟩)
    · cases hb.symm.trans hmissing
    · obtain rfl := Option.some.inj (ha.symm.trans ha')
      obtain rfl := Option.some.inj (hb.symm.trans hb')
      rw [hdirection, directed, compareValues_eq_lt_iff]
      exact h
    · obtain rfl := Option.some.inj (ha.symm.trans ha')
      obtain rfl := Option.some.inj (hb.symm.trans hb')
      rw [hdirection, directed, Ordering.swap_eq_lt, compareValues_eq_gt_iff]
      exact h
  · intro h
    cases hdirection : key.direction with
    | asc =>
        rw [hdirection, directed, compareValues_eq_lt_iff] at h
        exact Precedes.ascending hdirection ha hb h
    | desc =>
        rw [hdirection, directed, Ordering.swap_eq_lt, compareValues_eq_gt_iff] at h
        exact Precedes.descending hdirection ha hb h

/-- Documents are compared as they come before each other. -/
theorem compareBy_eq_lt_iff :
  compareBy key a b = .lt ↔ key.Precedes a b
  := by
  rw [compareBy]
  cases ha : lookup a key.field with
  | none =>
      have hnot : ¬ key.Precedes a b := not_precedes_of_missing ha
      cases lookup b key.field <;> simp [hnot]
  | some v =>
      cases hb : lookup b key.field with
      | none => exact ⟨fun _ => Precedes.missing ha hb, fun _ => rfl⟩
      | some w => exact (precedes_iff_of_values ha hb).symm

/-- A document may stand before those that do not come before it. -/
theorem mayPrecede_iff :
  key.MayPrecede a b ↔ ¬ key.Precedes b a
  := by
  rw [← isLE_compareBy_iff, ← compareBy_eq_lt_iff, Ordering.isLE_iff_ne_gt]
  exact not_congr Std.OrientedCmp.gt_iff_lt

/-- Two documents are alike by a key when they are equal in its order. -/
theorem ties_iff :
  key.Ties a b ↔ key.Alike a b
  := by
  rw [Ties, mayPrecede_iff, mayPrecede_iff, and_comm, Alike]

instance : Decidable (key.Alike a b) := decidable_of_iff _ ties_iff

end SortKey

/-- Documents that are alike by a key stand after a stable sort by it in the order in which they
stood. -/
theorem StablySorted.sublist_of_alike {key : SortKey} {documents sorted : List Json} {a b : Json}
    (h : StablySorted key documents sorted) (halike : key.Alike a b)
    (hsublist : [a, b].Sublist sorted) :
  [a, b].Sublist documents
  := by
  have ha : key.Ties a a := ⟨SortKey.MayPrecede.refl key a, SortKey.MayPrecede.refl key a⟩
  have hb : key.Ties a b := SortKey.ties_iff.mpr halike
  have hfilter := hsublist.filter fun c => decide (key.Ties a c)
  rw [h.stable] at hfilter
  simp only [List.filter_cons, List.filter_nil, ha, hb, decide_true, if_true] at hfilter
  exact hfilter.trans List.filter_sublist

/-! ### The order by several keys -/

/-- A document comes before another one by several keys: it does by one of them, and the two are
alike by the keys before this one. -/
inductive LexPrecedes : List SortKey → Json → Json → Prop
  | here {key : SortKey} {keys : List SortKey} {a b : Json} (h : key.Precedes a b) :
      LexPrecedes (key :: keys) a b
  | later {key : SortKey} {keys : List SortKey} {a b : Json} (halike : key.Alike a b)
      (h : LexPrecedes keys a b) : LexPrecedes (key :: keys) a b

/-- Two documents are alike by all keys. -/
def LexAlike (keys : List SortKey) (a b : Json) : Prop := ∀ key ∈ keys, key.Alike a b

instance {keys : List SortKey} {a b : Json} : Decidable (LexAlike keys a b) :=
  inferInstanceAs (Decidable (∀ key ∈ keys, key.Alike a b))

/-- The documents that are alike by several keys are those that are alike by the first one and by
the others. -/
theorem filter_lexAlike_cons {key : SortKey} {keys : List SortKey} (a : Json)
    (documents : List Json) :
  documents.filter (fun b => decide (LexAlike (key :: keys) a b)) =
    (documents.filter fun b => decide (LexAlike keys a b)).filter fun b => decide (key.Ties a b)
  := by
  rw [List.filter_filter]
  apply List.filter_congr
  intro b _
  rw [Bool.eq_iff_iff, Bool.and_eq_true, decide_eq_true_iff, decide_eq_true_iff, decide_eq_true_iff,
    SortKey.ties_iff]
  exact List.forall_mem_cons

/-- A list has the documents of another one in the order of several keys, those that are alike by
all of them as they stood. -/
structure LexSorted (keys : List SortKey) (documents sorted : List Json) : Prop where
  perm : sorted.Perm documents
  ordered : sorted.Pairwise fun a b => ¬ LexPrecedes keys b a
  stable : ∀ a, sorted.filter (fun b => decide (LexAlike keys a b)) =
    documents.filter fun b => decide (LexAlike keys a b)

namespace LexSorted

variable {keys : List SortKey} {key : SortKey} {documents sorted sorted' : List Json}

/-- Without keys the documents stay as they stand. -/
theorem nil (documents : List Json) :
  LexSorted [] documents documents
  := by
  constructor
  case perm => exact List.Perm.refl documents
  case ordered =>
    apply List.pairwise_of_forall
    rintro a b ⟨⟩
  case stable =>
    intro a
    rfl

/-- A stable sort by one key of documents in the order of other keys puts them in the order of all
keys, the one key most significant. -/
theorem cons (h : LexSorted keys documents sorted) (hsorted : StablySorted key sorted sorted') :
  LexSorted (key :: keys) documents sorted'
  := by
  constructor
  case perm => exact hsorted.perm.trans h.perm
  case ordered =>
    rw [List.pairwise_iff_forall_sublist]
    intro a b hsublist hprecedes
    cases hprecedes with
    | here hkey =>
        have hmay := List.pairwise_iff_forall_sublist.mp hsorted.ordered hsublist
        exact SortKey.mayPrecede_iff.mp hmay hkey
    | later halike hkeys =>
        have hstood := hsorted.sublist_of_alike ⟨halike.2, halike.1⟩ hsublist
        exact List.pairwise_iff_forall_sublist.mp h.ordered hstood hkeys
  case stable =>
    intro a
    rw [filter_lexAlike_cons, filter_lexAlike_cons, ← h.stable, List.filter_comm, hsorted.stable,
      List.filter_comm]

end LexSorted

/-- Documents are sorted by several keys, each deciding where those before it are equal. -/
theorem lexSorted_sortByAll (keys : List SortKey) (documents : List Json) :
  LexSorted keys documents (sortByAll keys documents)
  := by
  induction keys with
  | nil => exact LexSorted.nil documents
  | cons key keys ih => exact ih.cons (sortBy_stablySorted key _)

/-- Values of all types in descending order: the two arrays stand as they stood, and so do the
documents without a value, which come last. -/
example :
  let valued (v : Json) : Json := .obj [("v", v)]
  let documents := [.obj [], valued (.bool true), valued (.str "1"), valued (.arr [.null]),
    valued (.num (.int 2)), valued .null, valued (.obj []), valued (.arr [])]
  sortByAll [⟨"v", .desc⟩] documents =
    [valued (.obj []), valued (.arr [.null]), valued (.arr []), valued (.str "1"),
      valued (.num (.int 2)), valued (.bool true), .obj [], valued .null]
  := by
  cbv

/-- The documents that a search finds are a page of those that match, which stand in the order of
all sort keys, the first one most significant; those that are alike by all keys stand in the order
in which they were inserted. -/
theorem find_lexSorted (r : SearchRequest) (documents : List Json) :
  let matching := documents.filter (Filter.acceptsAll · r.query)
  ∃ hits, LexSorted r.sort matching hits ∧
    Memory.find r documents = (Memory.aggregations r matching).map fun results =>
      ⟨(Memory.page r hits).map (Document.project r.includes), Int64.ofNat matching.length, results⟩
  := by
  intro matching
  use sortByAll r.sort matching, lexSorted_sortByAll r.sort matching
  rw [Memory.find]
  rfl

end DocSearch
