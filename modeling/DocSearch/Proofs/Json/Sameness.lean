import DocSearch.Json.Basic
import Mathlib.Data.List.Basic

/-!
# Values up to the sign of zero

`Json.unsigned` replaces every negative zero of a value by zero.  Two values are the same in the
sense of `Json.same` exactly when they are equal afterwards: `Json.same_iff_unsigned`.
-/

namespace DocSearch

/-- The number itself, and zero for the two zeros. -/
def Binary64.unsigned (x : Binary64) : Binary64 := if x.isZero then .zero else x

theorem Binary64.place_eq_zero_iff {x : Binary64} :
  x.place = 0 ↔ x.isZero = true
  := by
  rw [place, isZero, beq_iff_eq]
  split <;> omega

/-- A number other than the two zeros is determined by its place. -/
theorem Binary64.eq_of_place {x y : Binary64} (hplace : x.place = y.place)
    (hzero : ¬ x.isZero = true) :
  x = y
  := by
  obtain ⟨negative, rank⟩ := x
  obtain ⟨negative', rank'⟩ := y
  have hrank : rank.val ≠ 0 := fun h => hzero (beq_iff_eq.mpr h)
  -- The place of a number that is not zero has its sign.
  cases negative <;> cases negative' <;>
    simp only [place, if_true, Bool.false_eq_true, if_false] at hplace
  · rw [Fin.ext (Int.ofNat.inj hplace)]
  · omega
  · omega
  · rw [Fin.ext (Int.ofNat.inj (Int.neg_inj.mp hplace))]

/-- Two numbers are the same exactly when they are equal up to the sign of zero. -/
theorem Binary64.same_iff_unsigned {x y : Binary64} :
  x.same y = true ↔ x.unsigned = y.unsigned
  := by
  have hplace (z : Binary64) : z.unsigned.place = z.place := by
    rw [unsigned]
    split
    case isTrue hzero => exact (place_eq_zero_iff.mpr hzero).symm
    case isFalse => rfl
  rw [same, beq_iff_eq]
  constructor
  · intro h
    by_cases hzero : x.isZero = true
    · have hzero' : y.isZero = true := by
        rw [← place_eq_zero_iff, ← h, place_eq_zero_iff]
        exact hzero
      rw [unsigned, unsigned, if_pos hzero, if_pos hzero']
    · rw [eq_of_place h hzero]
  · intro h
    rw [← hplace x, ← hplace y, h]

/-- A number with the sign of zero left out. -/
def Num.unsigned : Num → Num
  | .int n => .int n
  | .float x => .float x.unsigned

theorem Num.same_iff_unsigned {m n : Num} :
  m.same n = true ↔ m.unsigned = n.unsigned
  := by
  cases m <;> cases n <;> simp [same, unsigned, Binary64.same_iff_unsigned]

namespace Json

mutual

/-- The value with every negative zero replaced by zero. -/
def unsigned : Json → Json
  | .num n => .num n.unsigned
  | .arr items => .arr (unsignedItems items)
  | .obj entries => .obj (unsignedEntries entries)
  | v => v

/-- `unsigned` on every value of a list. -/
def unsignedItems : List Json → List Json
  | [] => []
  | v :: rest => v.unsigned :: unsignedItems rest

/-- `unsigned` on the value of every entry. -/
def unsignedEntries : List (String × Json) → List (String × Json)
  | [] => []
  | (k, v) :: rest => (k, v.unsigned) :: unsignedEntries rest

end

mutual

/-- Two values are the same exactly when they are equal up to the sign of zero. -/
theorem same_iff_unsigned : (a b : Json) → (a.same b = true ↔ a.unsigned = b.unsigned)
  | .arr as, b => by
      cases b with
      | arr bs => simp only [same, unsigned, sameItems_iff_unsigned as bs, arr.injEq]
      | _ => simp [same, unsigned]
  | .obj as, b => by
      cases b with
      | obj bs => simp only [same, unsigned, sameEntries_iff_unsigned as bs, obj.injEq]
      | _ => simp [same, unsigned]
  | .num m, b => by
      cases b with
      | num n => simp only [same, unsigned, Num.same_iff_unsigned, num.injEq]
      | _ => simp [same, unsigned]
  | .null, b | .bool _, b | .str _, b => by cases b <;> simp [same, unsigned]

theorem sameItems_iff_unsigned :
    (as bs : List Json) → (sameItems as bs = true ↔ unsignedItems as = unsignedItems bs)
  | [], [] => by simp [sameItems]
  | [], _ :: _ | _ :: _, [] => by simp [sameItems, unsignedItems]
  | a :: as, b :: bs => by
      simp only [sameItems, unsignedItems, Bool.and_eq_true, same_iff_unsigned a b,
        sameItems_iff_unsigned as bs, List.cons.injEq]

theorem sameEntries_iff_unsigned :
    (as bs : List (String × Json)) →
      (sameEntries as bs = true ↔ unsignedEntries as = unsignedEntries bs)
  | [], [] => by simp [sameEntries]
  | [], _ :: _ | _ :: _, [] => by simp [sameEntries, unsignedEntries]
  | (j, a) :: as, (k, b) :: bs => by
      simp only [sameEntries, unsignedEntries, Bool.and_eq_true, beq_iff_eq, same_iff_unsigned a b,
        sameEntries_iff_unsigned as bs, List.cons.injEq, Prod.mk.injEq]

end

/-- Entries are changed one by one. -/
theorem unsignedEntries_eq_map (entries : List (String × Json)) :
  unsignedEntries entries = entries.map fun entry => (entry.1, entry.2.unsigned)
  := by
  induction entries with
  | nil => rfl
  | cons entry rest ih => rw [unsignedEntries, ih, List.map_cons]

theorem unsignedItems_eq_map (items : List Json) :
  unsignedItems items = items.map unsigned
  := by
  induction items with
  | nil => rfl
  | cons v rest ih => rw [unsignedItems, ih, List.map_cons]

end Json

end DocSearch
