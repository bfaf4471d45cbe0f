import Mathlib.Data.List.Basic

/-!
# Stable sorts

Two lists with the same elements in an order are equal when those that tie stand in them alike
(`eq_of_ordered_perm`), and a stable sort leaves those that tie as they stood
(`filter_mergeSort_of_ties`).  So a stable sort is determined by its order.
-/

namespace DocSearch

variable {α : Type}

/-- Of two lists with the same elements in an order, the first ones tie. -/
theorem ties_of_ordered_perm {le : α → α → Prop} {a b : α} {as bs : List α} (hrefl : ∀ a, le a a)
    (ha : (a :: as).Pairwise le) (hb : (b :: bs).Pairwise le) (h : (a :: as).Perm (b :: bs)) :
  le a b ∧ le b a
  := by
  constructor
  · rcases List.mem_cons.mp (h.mem_iff.mpr List.mem_cons_self) with rfl | hmem
    · apply hrefl
    · exact (List.pairwise_cons.mp ha).1 b hmem
  · rcases List.mem_cons.mp (h.mem_iff.mp List.mem_cons_self) with rfl | hmem
    · apply hrefl
    · exact (List.pairwise_cons.mp hb).1 a hmem

/-- Two lists with the same elements in an order are equal when those that tie with any one element
stand in them alike. -/
theorem eq_of_ordered_perm {le : α → α → Prop} [DecidableRel le] {as bs : List α}
    (hrefl : ∀ a, le a a) (ha : as.Pairwise le) (hb : bs.Pairwise le) (h : as.Perm bs)
    (hstable : ∀ c, as.filter (fun d => decide (le c d ∧ le d c)) =
      bs.filter fun d => decide (le c d ∧ le d c)) :
  as = bs
  := by
  induction as generalizing bs with
  | nil => exact h.nil_eq
  | cons a as ih =>
      cases bs with
      | nil => cases h.symm.nil_eq
      | cons b bs =>
          have hself : le a a ∧ le a a := ⟨hrefl a, hrefl a⟩
          have hties := ties_of_ordered_perm hrefl ha hb h
          have hhead := hstable a
          simp only [List.filter_cons, hself, hties, and_self, decide_true, if_true] at hhead
          obtain ⟨rfl, -⟩ := List.cons.inj hhead
          congr 1
          apply ih ha.of_cons hb.of_cons h.cons_inv
          intro c
          have hc := hstable c
          by_cases hca : le c a ∧ le a c <;> simpa [List.filter_cons, hca] using hc

/-- Elements that are all equal in the order of a stable sort stay as they stood. -/
theorem filter_mergeSort_of_ties {le : α → α → Bool} {p : α → Bool}
    (htrans : ∀ a b c, le a b → le b c → le a c) (htotal : ∀ a b, le a b || le b a)
    (hties : ∀ a b, p a → p b → le a b) (xs : List α) :
  (xs.mergeSort le).filter p = xs.filter p
  := by
  have hsorted : (xs.filter p).Pairwise fun a b => le a b := by
    rw [List.pairwise_filter]
    apply List.pairwise_of_forall
    intro a b ha hb
    exact hties a b ha hb
  have hsublist := (List.sublist_mergeSort htrans htotal hsorted List.filter_sublist).filter p
  rw [List.filter_filter] at hsublist
  simp only [Bool.and_self] at hsublist
  symm
  apply hsublist.eq_of_length
  apply ((List.mergeSort_perm xs _).filter _).length_eq.symm

end DocSearch
