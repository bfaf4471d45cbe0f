import DocSearch.Filter.Matching
import DocSearch.Plan.Compilation
import DocSearch.Proofs.Document.Value
import DocSearch.Proofs.Number.Magnitude
import DocSearch.Proofs.Outcome
import DocSearch.Proofs.Text.Word

/-!
# The meaning of predicates

`Predicate.Holds` says which documents satisfy a predicate, by the tree of the predicate alone:
negation, conjunction and disjunction are those of logic, and a leaf is about the values that the
document has in a field.  `Predicate.accepts_of_compile` states that a document matches the filter
of a predicate exactly when the predicate holds of it.
-/

namespace DocSearch

/-- A value equals another one as a term: it is the same value, or both are numbers with the same
value in binary64. -/
inductive Json.EqualsTerm : Json → Json → Prop
  | same (v : Json) : EqualsTerm v v
  | number {m n : Num} (h : m.toBinary64.value = n.toBinary64.value) :
      EqualsTerm (.num m) (.num n)

/-- Equality with a scalar is what `equalTerm` decides. -/
theorem Json.equalTerm_iff {v literal : Json} (hscalar : literal.isScalar = true) :
  v.equalTerm literal = true ↔ v.EqualsTerm literal
  := by
  constructor
  · intro h
    cases v <;> cases literal <;>
      simp_all [equalTerm, same, isScalar, Binary64.same_iff, EqualsTerm.same, EqualsTerm.number]
  · intro h
    cases h with
    | same => cases v <;> simp_all [equalTerm, same, isScalar, Binary64.same_iff]
    | number h => simpa [equalTerm, Binary64.same_iff] using h

/-- A value stands in an order of texts to a literal when its text does; to null every value
does. -/
def Json.Ordered (order : String → String → Prop) (v literal : Json) : Prop :=
  literal ≠ .null → order (Document.indexText v) (Document.indexText literal)

/-- Two values share a word when the texts of both have it. -/
def Json.ShareWord (v w : Json) : Prop :=
  ∃ word, Text.HasWord (Document.indexText v) word ∧ Text.HasWord (Document.indexText w) word

/-- A comparison of a field with a literal holds of a document. -/
def Comparison.Holds (document : Json) (field : Field) (literal : Json) : Comparison → Prop
  | .eq => ∃ v, Document.HasValue document field.name v ∧ v.EqualsTerm literal
  | .ne => ¬ ∃ v, Document.HasValue document field.name v ∧ v.EqualsTerm literal
  | .gt => ∃ v, Document.HasValue document field.name v ∧ v.Ordered (· > ·) literal
  | .gte => ∃ v, Document.HasValue document field.name v ∧ v.Ordered (· ≥ ·) literal
  | .lt => ∃ v, Document.HasValue document field.name v ∧ v.Ordered (· < ·) literal
  | .lte => ∃ v, Document.HasValue document field.name v ∧ v.Ordered (· ≤ ·) literal

/-- A predicate holds of a document.  A comparison that is not one of a field with a literal has no
meaning. -/
def Predicate.Holds (document : Json) : Predicate → Prop
  | .compare (.field field) op (.literal literal) => op.Holds document field literal
  | .compare _ _ _ => False
  | .contains field value => ∃ v, Document.HasValue document field.name v ∧ v.ShareWord value
  | .not p => ¬ p.Holds document
  | .and p q => p.Holds document ∧ q.Holds document
  | .or p q => p.Holds document ∨ q.Holds document

/-! ### Filters of comparisons and text matches -/

/-- A literal that is not null has the text by which a value like it is indexed. -/
theorem literalText_of_ne_null {literal : Json} (h : literal ≠ .null) :
  literalText literal = some (Document.indexText literal)
  := by
  cases literal <;> first | rfl | contradiction

/-- A bound by the text of a literal is respected when the text is ordered so, and by every text
when the literal is null. -/
theorem all_literalText_iff {literal : Json} {test : String → Bool} :
  (literalText literal).all test = true
    ↔ (literal ≠ .null → test (Document.indexText literal) = true)
  := by
  by_cases h : literal = .null
  · simp [h, literalText]
  · simp [literalText_of_ne_null h, h]

/-- A document matches the filter of a comparison exactly when the comparison holds of it. -/
theorem Comparison.accepts_filter_iff {document : Json} {field : Field} {literal : Json}
    (hscalar : literal.isScalar = true) (op : Comparison) :
  (op.filter field literal).accepts document = true ↔ op.Holds document field literal
  := by
  have hterm : (Filter.term field.name literal).accepts document = true
      ↔ ∃ v, Document.HasValue document field.name v ∧ v.EqualsTerm literal := by
    simp [Filter.accepts, Document.mem_fieldValues, Json.equalTerm_iff hscalar]
  have hrange : ∀ bounds : Bounds, (Filter.range field.name bounds).accepts document = true
      ↔ ∃ v, Document.HasValue document field.name v ∧
          bounds.contain (Document.indexText v) = true := by
    simp [Filter.accepts, Document.mem_fieldValues]
  cases op with
  | eq => exact hterm
  | ne =>
      rw [Comparison.Holds, ← hterm]
      simp [Comparison.filter, Filter.mustNot, Filter.accepts, Filter.acceptances]
  | _ =>
      simp [Comparison.filter, hrange, Comparison.bounds, Bounds.none, Bounds.contain,
        all_literalText_iff, Comparison.Holds, Json.Ordered]

/-- A document matches a full-text query for the text of a value exactly when one of its values
shares a word with that value. -/
theorem Filter.accepts_fullText_iff {document : Json} {field : String} {value : Json} :
  (Filter.fullText field (Document.indexText value)).accepts document = true
    ↔ ∃ v, Document.HasValue document field v ∧ v.ShareWord value
  := by
  simp [Filter.accepts, Document.mem_fieldValues, Text.shareWord_iff, Json.ShareWord]

/-! ### Boolean combinations -/

namespace Filter

variable {document : Json}

/-- A document matches all of the clauses. -/
theorem accepts_must_iff {clauses : List Filter} :
  (must clauses).accepts document = true ↔ ∀ clause ∈ clauses, clause.accepts document = true
  := by
  simp only [must, accepts, acceptances, List.any_nil, Bool.not_false, Bool.and_true,
    List.isEmpty_nil, Bool.true_or]
  induction clauses with
  | nil => simp [acceptances]
  | cons clause clauses ih => simp [acceptances, ← ih]

/-- A document matches the negation of a clause when it does not match the clause. -/
theorem accepts_mustNot_iff {clause : Filter} :
  (mustNot clause).accepts document = true ↔ ¬ clause.accepts document = true
  := by
  simp [mustNot, accepts, acceptances]

/-- A document matches one of two clauses. -/
theorem accepts_should_iff {first second : Filter} :
  (should [first, second]).accepts document = true
    ↔ first.accepts document = true ∨ second.accepts document = true
  := by
  simp only [should, accepts, acceptances, required]
  by_cases hfirst : first.accepts document = true
  · simp [hfirst]
  · by_cases hsecond : second.accepts document = true
    · simp [hfirst, hsecond]
    · simp [hfirst, hsecond]

end Filter

/-! ### Filters of predicates -/

section Compilation

variable {p q : Predicate} {filter : Filter}

/-- A comparison has a filter when it is one of a field with a scalar. -/
theorem compileComparison_eq_ok_iff {left : Operand} {op : Comparison} {right : Operand} :
  compileComparison left op right = .ok filter
    ↔ ∃ field literal, left = .field field ∧ right = .literal literal ∧
        literal.isScalar = true ∧ op.filter field literal = filter
  := by
  cases left with
  | literal v => simp [compileComparison]
  | field f =>
      cases right with
      | field g => simp [compileComparison]
      | literal v =>
          by_cases hv : v.isScalar = true
          · simp [compileComparison, scalar, hv, Except.map]
          · simp [compileComparison, scalar, hv, Except.map]

/-- A text match has a filter when its value is a scalar other than null. -/
theorem compileContains_eq_ok_iff {field : Field} {value : Json} :
  compileContains field value = .ok filter
    ↔ value.isScalar = true ∧ value ≠ .null ∧
        .fullText field.name (Document.indexText value) = filter
  := by
  by_cases hnull : value = .null
  · simp [compileContains, scalar, hnull, Json.isScalar, literalText, bind, Except.bind]
  · by_cases hv : value.isScalar = true
    · simp [compileContains, scalar, hv, hnull, literalText_of_ne_null, bind, Except.bind]
    · simp [compileContains, scalar, hv, bind, Except.bind]

theorem Predicate.compile_not_eq_ok_iff :
  (Predicate.not p).compile = .ok filter ↔ ∃ f, p.compile = .ok f ∧ Filter.mustNot f = filter
  := by
  simp only [Predicate.compile, Except.bind_eq_ok_iff, Except.pure_eq_ok_iff]

theorem Predicate.compile_and_eq_ok_iff :
  (Predicate.and p q).compile = .ok filter
    ↔ ∃ f g, p.compile = .ok f ∧ q.compile = .ok g ∧ Filter.must [f, g] = filter
  := by
  simp only [Predicate.compile, Except.bind_eq_ok_iff, Except.pure_eq_ok_iff, exists_and_left]

theorem Predicate.compile_or_eq_ok_iff :
  (Predicate.or p q).compile = .ok filter
    ↔ ∃ f g, p.compile = .ok f ∧ q.compile = .ok g ∧ Filter.should [f, g] = filter
  := by
  simp only [Predicate.compile, Except.bind_eq_ok_iff, Except.pure_eq_ok_iff, exists_and_left]

/-- A document matches the filter of a predicate exactly when the predicate holds of it. -/
theorem Predicate.accepts_of_compile {document : Json} (h : p.compile = .ok filter) :
  filter.accepts document = true ↔ p.Holds document
  := by
  induction p generalizing filter with
  | compare left op right =>
      obtain ⟨field, literal, rfl, rfl, hscalar, rfl⟩ := compileComparison_eq_ok_iff.mp h
      apply op.accepts_filter_iff hscalar
  | contains field value =>
      obtain ⟨-, -, rfl⟩ := compileContains_eq_ok_iff.mp h
      apply Filter.accepts_fullText_iff
  | not p ih =>
      obtain ⟨f, hf, rfl⟩ := compile_not_eq_ok_iff.mp h
      rw [Filter.accepts_mustNot_iff, ih hf, Predicate.Holds]
  | and p q ihp ihq =>
      obtain ⟨f, g, hf, hg, rfl⟩ := compile_and_eq_ok_iff.mp h
      simp [Filter.accepts_must_iff, ihp hf, ihq hg, Predicate.Holds]
  | or p q ihp ihq =>
      obtain ⟨f, g, hf, hg, rfl⟩ := compile_or_eq_ok_iff.mp h
      rw [Filter.accepts_should_iff, ihp hf, ihq hg, Predicate.Holds]

end Compilation

end DocSearch
