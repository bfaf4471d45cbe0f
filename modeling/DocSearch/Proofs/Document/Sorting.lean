import DocSearch.Document.Order
import DocSearch.Proofs.StableSort

/-!
# Stable sorting

`StablySorted key documents sorted` says that `sorted` are the documents in the order of a key,
those that are equal in it as they stood.  There is exactly one such list: `Document.sortBy` yields
it (`sortBy_stablySorted`), and any two are equal (`StablySorted.unique`).
-/

namespace DocSearch

/-- In the order of a key a document may stand before another one: its value is not beyond that of
the other one, or the other one lacks the field. -/
inductive SortKey.MayPrecede (key : SortKey) (a b : Json) : Prop
  | missing (h : Document.lookup b key.field = none) : MayPrecede key a b
  | ascending {v w : Json} (hdirection : key.direction = .asc)
      (ha : Document.lookup a key.field = some v) (hb : Document.lookup b key.field = some w)
      (h : Document.compareValues v w ≠ .gt) : MayPrecede key a b
  | descending {v w : Json} (hdirection : key.direction = .desc)
      (ha : Document.lookup a key.field = some v) (hb : Document.lookup b key.field = some w)
      (h : Document.compareValues v w ≠ .lt) : MayPrecede key a b

namespace Document

/-! ### The order of documents -/

/-- The place of a value among the truth values or the numbers. -/
def numericPlace : Json → Int
  | .bool b => b.toInt
  | .num n => n.toBinary64.place
  | _ => 0

/-- The text of a value that is a text. -/
def textPlace : Json → String
  | .str s => s
  | _ => ""

/-- Values are ordered by their types, then as truth values or numbers, then as texts. -/
theorem compareValues_eq :
  compareValues = compareLex (compareOn typeRank)
    (compareLex (compareOn numericPlace) (compareOn textPlace))
  := by
  funext v w
  cases v with
  | bool a =>
      cases w with
      | bool b => cases a <;> cases b <;> rfl
      | _ => rfl
  | num m =>
      cases w with
      | num n => simp [compareValues, compareLex, compareOn, typeRank, numericPlace, textPlace,
          Binary64.order]
      | _ => rfl
  | str s =>
      cases w with
      | str t => simp [compareValues, compareLex, compareOn, typeRank, numericPlace, textPlace]
      | _ => rfl
  | _ => cases w <;> rfl

instance : Std.TransCmp compareValues := by
  rw [compareValues_eq]
  infer_instance

theorem directed_swap {direction : Direction} {o : Ordering} :
  directed direction o.swap = (directed direction o).swap
  := by
  cases direction <;> rfl

theorem directed_compareValues_trans {direction : Direction} {u v w : Json}
    (huv : (directed direction (compareValues u v)).isLE)
    (hvw : (directed direction (compareValues v w)).isLE) :
  (directed direction (compareValues u w)).isLE
  := by
  cases direction with
  | asc =>
      rw [directed] at huv hvw ⊢
      exact Std.TransCmp.isLE_trans huv hvw
  | desc =>
      rw [directed, ← Std.OrientedCmp.eq_swap] at huv hvw ⊢
      exact Std.TransCmp.isLE_trans hvw huv

instance {key : SortKey} : Std.TransCmp (compareBy key) where
  eq_swap {a b} := by
    cases ha : lookup a key.field <;> cases hb : lookup b key.field <;>
      simp [compareBy, ha, hb, ← directed_swap, ← Std.OrientedCmp.eq_swap]
  isLE_trans {a b c} hab hbc := by
    cases ha : lookup a key.field <;> cases hb : lookup b key.field <;>
      cases hc : lookup c key.field <;> simp_all [compareBy]
    apply directed_compareValues_trans hab hbc

theorem isLE_compareBy_iff {key : SortKey} {a b : Json} :
  (compareBy key a b).isLE = true ↔ key.MayPrecede a b
  := by
  constructor
  · intro h
    cases hb : lookup b key.field with
    | none => apply SortKey.MayPrecede.missing hb
    | some w =>
        cases ha : lookup a key.field with
        | none => simp [compareBy, ha, hb] at h
        | some v =>
            cases hdirection : key.direction with
            | asc =>
                apply SortKey.MayPrecede.ascending hdirection ha hb
                simpa [compareBy, ha, hb, hdirection, directed, ← Ordering.isLE_iff_ne_gt] using h
            | desc =>
                apply SortKey.MayPrecede.descending hdirection ha hb
                simpa [compareBy, ha, hb, hdirection, directed, ← Ordering.isGE_iff_ne_lt] using h
  · intro h
    cases h with
    | missing hb => cases ha : lookup a key.field <;> simp [compareBy, ha, hb]
    | ascending hdirection ha hb h =>
        simpa [compareBy, ha, hb, hdirection, directed, ← Ordering.isLE_iff_ne_gt] using h
    | descending hdirection ha hb h =>
        simpa [compareBy, ha, hb, hdirection, directed, ← Ordering.isGE_iff_ne_lt] using h

end Document

/-! ### Sorted lists -/

namespace SortKey

variable {key : SortKey} {a b c : Json}

theorem MayPrecede.trans (hab : key.MayPrecede a b) (hbc : key.MayPrecede b c) :
  key.MayPrecede a c
  := by
  rw [← Document.isLE_compareBy_iff] at hab hbc ⊢
  exact Std.TransCmp.isLE_trans hab hbc

theorem MayPrecede.total (key : SortKey) (a b : Json) :
  key.MayPrecede a b ∨ key.MayPrecede b a
  := by
  have hswap : Document.compareBy key b a = (Document.compareBy key a b).swap :=
    Std.OrientedCmp.eq_swap
  rw [← Document.isLE_compareBy_iff, ← Document.isLE_compareBy_iff, hswap]
  cases Document.compareBy key a b <;> simp

theorem MayPrecede.refl (key : SortKey) (a : Json) :
  key.MayPrecede a a
  := by
  rcases MayPrecede.total key a a with h | h <;> exact h

instance : Decidable (key.MayPrecede a b) := decidable_of_iff _ Document.isLE_compareBy_iff

/-- Two documents are equal in the order of a key. -/
def Ties (key : SortKey) (a b : Json) : Prop := key.MayPrecede a b ∧ key.MayPrecede b a

instance : Decidable (key.Ties a b) := inferInstanceAs (Decidable (_ ∧ _))

end SortKey

/-- A list has the documents of another one in the order of a key, those that are equal in it as
they stood. -/
structure StablySorted (key : SortKey) (documents sorted : List Json) : Prop where
  perm : sorted.Perm documents
  ordered : sorted.Pairwise key.MayPrecede
  stable : ∀ a, sorted.filter (fun b => decide (key.Ties a b)) =
    documents.filter fun b => decide (key.Ties a b)

/-- Documents have at most one order by a key. -/
theorem StablySorted.unique {key : SortKey} {documents sorted sorted' : List Json}
    (h : StablySorted key documents sorted) (h' : StablySorted key documents sorted') :
  sorted = sorted'
  := by
  apply eq_of_ordered_perm (SortKey.MayPrecede.refl key) h.ordered h'.ordered
    (h.perm.trans h'.perm.symm)
  intro c
  exact (h.stable c).trans (h'.stable c).symm

/-- Documents are sorted stably by a key. -/
theorem Document.sortBy_stablySorted (key : SortKey) (documents : List Json) :
  StablySorted key documents (Document.sortBy key documents)
  := by
  have htrans : ∀ a b c, (compareBy key a b).isLE → (compareBy key b c).isLE →
      (compareBy key a c).isLE := fun a b c => Std.TransCmp.isLE_trans
  have htotal : ∀ a b, (compareBy key a b).isLE || (compareBy key b a).isLE := by
    intro a b
    rw [Bool.or_eq_true, isLE_compareBy_iff, isLE_compareBy_iff]
    apply SortKey.MayPrecede.total
  constructor
  case perm => apply List.mergeSort_perm
  case ordered =>
    apply (List.pairwise_mergeSort htrans htotal documents).imp
    intro a b
    apply isLE_compareBy_iff.mp
  case stable =>
    intro a
    apply filter_mergeSort_of_ties htrans htotal
    intro b c hb hc
    rw [isLE_compareBy_iff]
    exact (of_decide_eq_true hb).2.trans (of_decide_eq_true hc).1

end DocSearch
