import Mathlib.Data.List.Basic

/-!
# Computations that may fail

`Except.bind_eq_ok_iff` and `Except.bind_eq_error_iff` say when two computations in a row succeed
and fail.  `FirstFault fault items e` says that `e` is the fault of the first item of a list that
has one; a list of checks fails with it.
-/

namespace DocSearch

variable {ε α β : Type}

@[simp]
theorem Except.pure_eq_ok_iff {a b : α} :
  (pure a : Except ε α) = .ok b ↔ a = b
  := by
  simp [pure, Except.pure]

@[simp]
theorem Except.pure_ne_error {a : α} {e : ε} :
  (pure a : Except ε α) ≠ .error e
  := by
  simp [pure, Except.pure]

/-- Two computations in a row succeed when the first one does, and the second one does with its
result. -/
theorem Except.bind_eq_ok_iff {x : Except ε α} {f : α → Except ε β} {b : β} :
  x >>= f = .ok b ↔ ∃ a, x = .ok a ∧ f a = .ok b
  := by
  cases x with
  | error e => simp [bind, Except.bind]
  | ok a => simp [bind, Except.bind]

/-- Two computations in a row fail when the first one does, or the second one does with the result
of the first one. -/
theorem Except.bind_eq_error_iff {x : Except ε α} {f : α → Except ε β} {e : ε} :
  x >>= f = .error e ↔ x = .error e ∨ ∃ a, x = .ok a ∧ f a = .error e
  := by
  cases x with
  | error e => simp [bind, Except.bind]
  | ok a => simp [bind, Except.bind]

/-- A computation fails as its only step that can fail does. -/
theorem Except.bind_pure_eq_error_iff {x : Except ε α} {f : α → β} {e : ε} :
  (do return f (← x)) = Except.error e ↔ x = .error e
  := by
  rw [Except.bind_eq_error_iff]
  simp only [Except.pure_ne_error, and_false, exists_false, or_false]

/-- A computation succeeds exactly when it does not fail. -/
theorem Except.exists_ok_iff {x : Except ε α} :
  (∃ a, x = .ok a) ↔ ∀ e, x ≠ .error e
  := by
  cases x with
  | error e => simp
  | ok a => simp

/-- The first item of a list that has a fault has the fault `e`. -/
def FirstFault (fault : α → ε → Prop) (items : List α) (e : ε) : Prop :=
  ∃ before item after, items = before ++ item :: after ∧
    (∀ x ∈ before, ∀ e', ¬ fault x e') ∧ fault item e

namespace FirstFault

variable {fault : α → ε → Prop} {e : ε}

theorem nil_iff :
  FirstFault fault [] e ↔ False
  := by
  simp [FirstFault]

/-- The first fault of a list is that of its head, or the first one of its tail when the head has
none. -/
theorem cons_iff {x : α} {items : List α} :
  FirstFault fault (x :: items) e ↔ fault x e ∨ (∀ e', ¬ fault x e') ∧ FirstFault fault items e
  := by
  constructor
  · rintro ⟨before, item, after, heq, hbefore, hitem⟩
    cases before with
    | nil =>
        obtain ⟨rfl, -⟩ := List.cons.inj heq
        left
        apply hitem
    | cons y before =>
        obtain ⟨rfl, hrest⟩ := List.cons.inj heq
        right
        use hbefore x List.mem_cons_self, before, item, after, hrest
        use fun z hz => hbefore z (List.mem_cons_of_mem x hz)
  · rintro (hx | ⟨hx, before, item, after, rfl, hbefore, hitem⟩)
    · use [], x, items, rfl
      simpa using hx
    · use x :: before, item, after, rfl
      simpa using ⟨⟨hx, hbefore⟩, hitem⟩

/-- The first fault of two lists in a row is that of the first list, or that of the second one when
the first list has none. -/
theorem append_iff {xs ys : List α} :
  FirstFault fault (xs ++ ys) e ↔
    FirstFault fault xs e ∨ (∀ x ∈ xs, ∀ e', ¬ fault x e') ∧ FirstFault fault ys e
  := by
  induction xs with
  | nil => simp [nil_iff]
  | cons x xs ih =>
      rw [List.cons_append, cons_iff, cons_iff, ih]
      simp only [List.forall_mem_cons]
      tauto

theorem singleton_iff {x : α} :
  FirstFault fault [x] e ↔ fault x e
  := by
  simp [cons_iff, nil_iff]

/-- A list has a first fault when one of its items has a fault. -/
theorem exists_iff {items : List α} :
  (∃ e, FirstFault fault items e) ↔ ∃ x ∈ items, ∃ e, fault x e
  := by
  induction items with
  | nil => simp [nil_iff]
  | cons x items ih =>
      simp only [cons_iff, exists_or, List.exists_mem_cons_iff, ← ih, exists_and_left,
        ← not_exists]
      tauto

/-- The first faults of a list are faults of one and the same item. -/
theorem exists_common {items : List α} {e' : ε} (h : FirstFault fault items e)
    (h' : FirstFault fault items e') :
  ∃ x ∈ items, fault x e ∧ fault x e'
  := by
  induction items with
  | nil => cases nil_iff.mp h
  | cons x items ih =>
      rcases cons_iff.mp h, cons_iff.mp h' with ⟨hx | ⟨hx, h⟩, hx' | ⟨hx', h'⟩⟩
      · use x, List.mem_cons_self
      · cases hx' e hx
      · cases hx e' hx'
      · obtain ⟨y, hy, hboth⟩ := ih h h'
        use y, List.mem_cons_of_mem x hy

theorem map_iff {γ : Type} {f : γ → α} {items : List γ} :
  FirstFault fault (items.map f) e ↔ FirstFault (fun x => fault (f x)) items e
  := by
  induction items with
  | nil => simp [nil_iff]
  | cons x items ih => rw [List.map_cons, cons_iff, cons_iff, ih]

/-- What fails with the first fault of a list succeeds when no item of the list has a fault. -/
theorem exists_ok_iff {x : Except ε β} {items : List α}
    (h : ∀ e, x = .error e ↔ FirstFault fault items e) :
  (∃ b, x = .ok b) ↔ ∀ item ∈ items, ∀ e, ¬ fault item e
  := by
  have hexists : (∃ e, FirstFault fault items e) ↔ ∃ x ∈ items, ∃ e, fault x e := exists_iff
  simp only [Except.exists_ok_iff, ne_eq, h, ← not_exists, hexists]
  simp

end FirstFault

/-- Checks that are made one after the other fail with the first fault that one of them finds. -/
theorem mapM_eq_error_iff {check : α → Except ε β} {fault : α → ε → Prop}
    (h : ∀ x e, check x = .error e ↔ fault x e) {items : List α} {e : ε} :
  items.mapM check = .error e ↔ FirstFault fault items e
  := by
  induction items with
  | nil => simp [FirstFault.nil_iff]
  | cons x items ih =>
      rw [List.mapM_cons, Except.bind_eq_error_iff, FirstFault.cons_iff, h]
      have hx : (∃ b, check x = .ok b) ↔ ∀ e', ¬ fault x e' := by
        simp only [Except.exists_ok_iff, ne_eq, h]
      rw [← hx, ← ih]
      simp only [Except.bind_eq_error_iff, Except.pure_ne_error, and_false, exists_false, or_false,
        exists_and_right]

end DocSearch
