import DocSearch.Proofs.Plan.Rejection
import DocSearch.Proofs.Predicate.Meaning

/-!
# Leaves of predicates and filters

The leaves of a predicate are its comparisons and text matches, and those of a filter are its tests
of one field, both from left to right.  `Predicate.Mirrors` says which test stands for which leaf.
The filter of a predicate has one test for every leaf, in the same places, and the filter of a plan
has those of all predicates of its query in chained order: `leaves_mirrored`.
-/

namespace DocSearch

/-! ### Leaves -/

namespace Predicate

/-- The name of the field that a leaf is about. -/
def fieldName? : Predicate → Option String
  | .compare (.field field) _ _ | .contains field _ => some field.name
  | _ => none

theorem leafCount_eq_length (p : Predicate) :
  p.leafCount = p.leaves.length
  := by
  induction p with
  | compare left op right => rfl
  | contains field value => rfl
  | not p ih => exact ih
  | and p q ihp ihq => rw [leafCount, leaves, List.length_append, ihp, ihq]
  | or p q ihp ihq => rw [leafCount, leaves, List.length_append, ihp, ihq]

end Predicate

namespace Filter

mutual

/-- The tests of a field in a filter: those of the clauses that have to match come first, then those
of the clauses that must not match, and then the others. -/
def leaves : Filter → List Filter
  | .bool must mustNot should _ => clauseLeaves must ++ clauseLeaves mustNot ++ clauseLeaves should
  | leaf => [leaf]

/-- The tests of a field in a list of filters. -/
def clauseLeaves : List Filter → List Filter
  | [] => []
  | filter :: rest => filter.leaves ++ clauseLeaves rest

end

/-- The name of the field that a test is about. -/
def fieldName? : Filter → Option String
  | .term field _ | .range field _ | .fullText field _ => some field
  | .bool .. => none

theorem clauseLeaves_eq_flatMap (filters : List Filter) :
  clauseLeaves filters = filters.flatMap leaves
  := by
  induction filters with
  | nil => rfl
  | cons filter rest ih => rw [clauseLeaves, ih, List.flatMap_cons]

mutual

theorem leafCount_eq_length : (filter : Filter) → filter.leafCount = filter.leaves.length
  | .term _ _ | .range _ _ | .fullText _ _ => rfl
  | .bool must mustNot should _ => by
      rw [leafCount, leaves, List.length_append, List.length_append, leafCounts_eq_length must,
        leafCounts_eq_length mustNot, leafCounts_eq_length should]

theorem leafCounts_eq_length :
    (filters : List Filter) → leafCounts filters = (clauseLeaves filters).length
  | [] => rfl
  | filter :: rest => by
      rw [leafCounts, clauseLeaves, List.length_append, leafCount_eq_length filter,
        leafCounts_eq_length rest]

end

theorem leaves_must (clauses : List Filter) :
  (must clauses).leaves = clauses.flatMap leaves
  := by
  simp [must, leaves, clauseLeaves_eq_flatMap]

theorem leaves_mustNot (clause : Filter) :
  (mustNot clause).leaves = clause.leaves
  := by
  simp [mustNot, leaves, clauseLeaves_eq_flatMap]

theorem leaves_should (clauses : List Filter) :
  (should clauses).leaves = clauses.flatMap leaves
  := by
  simp [should, leaves, clauseLeaves_eq_flatMap]

end Filter

/-! ### Mirrored leaves -/

/-- The bound that an operator sets; equality sets none. -/
def Bounds.bound (bounds : Bounds) : Comparison → Option String
  | .eq | .ne => Option.none
  | .gt => bounds.gt
  | .gte => bounds.gte
  | .lt => bounds.lt
  | .lte => bounds.lte

/-- A test of a filter stands for a leaf of a predicate.  It is about the same field: equality and
its negation are tests for the literal itself, an order sets no bound but its own one, to the text
of the literal unless this is null, and a text match is a full-text query for the text of its
value. -/
inductive Predicate.Mirrors : Predicate → Filter → Prop
  | equality (field : Field) {op : Comparison} (literal : Json) (hop : op = .eq ∨ op = .ne) :
      Mirrors (.compare (.field field) op (.literal literal)) (.term field.name literal)
  | order (field : Field) {op : Comparison} {literal : Json} {bounds : Bounds}
      (hop : op ≠ .eq ∧ op ≠ .ne)
      (hown : bounds.bound op =
        if literal = .null then none else some (Document.indexText literal))
      (hothers : ∀ other, other ≠ op → bounds.bound other = none) :
      Mirrors (.compare (.field field) op (.literal literal)) (.range field.name bounds)
  | textMatch (field : Field) {value : Json} (hvalue : value ≠ .null) :
      Mirrors (.contains field value) (.fullText field.name (Document.indexText value))

namespace Predicate

/-- A leaf and the test that stands for it are about the same field. -/
theorem Mirrors.exists_fieldName {p : Predicate} {filter : Filter} (h : p.Mirrors filter) :
  ∃ name, p.fieldName? = some name ∧ filter.fieldName? = some name
  := by
  cases h with
  | equality field literal hop => exact ⟨field.name, rfl, rfl⟩
  | order field hop hown hothers => exact ⟨field.name, rfl, rfl⟩
  | textMatch field hvalue => exact ⟨field.name, rfl, rfl⟩

/-- Leaves and the tests that stand for them are about the same fields in the same order. -/
theorem exists_names_of_mirrors {ps : List Predicate} {filters : List Filter}
    (h : List.Forall₂ Mirrors ps filters) :
  ∃ names : List String,
    ps.map fieldName? = names.map some ∧ filters.map Filter.fieldName? = names.map some
  := by
  induction h with
  | nil => exact ⟨[], rfl, rfl⟩
  | cons hp _ ih =>
      obtain ⟨name, hname, hname'⟩ := hp.exists_fieldName
      obtain ⟨names, hnames, hnames'⟩ := ih
      use name :: names
      simp only [List.map_cons, hname, hname', hnames, hnames', true_and]

end Predicate

/-- The text of a literal that sets a bound. -/
theorem literalText_eq (literal : Json) :
  literalText literal = if literal = .null then none else some (Document.indexText literal)
  := by
  split
  case isTrue h => rw [h, literalText]
  case isFalse h => apply literalText_of_ne_null h

/-- The filter of a comparison has one test, which stands for the comparison. -/
theorem Comparison.mirrors_filter (op : Comparison) (field : Field) (literal : Json) :
  List.Forall₂ Predicate.Mirrors [.compare (.field field) op (.literal literal)]
    (op.filter field literal).leaves
  := by
  have horder (hop : op ≠ .eq ∧ op ≠ .ne) :
      Predicate.Mirrors (.compare (.field field) op (.literal literal))
        (.range field.name (op.bounds literal)) := by
    apply Predicate.Mirrors.order field hop
    · rw [← literalText_eq]
      cases op <;> simp_all [bounds, Bounds.bound]
    · intro other hother
      cases op <;> cases other <;> simp_all [bounds, Bounds.bound, Bounds.none]
  cases op with
  | eq => exact .cons (.equality field literal (Or.inl rfl)) .nil
  | ne =>
      rw [filter, Filter.leaves_mustNot]
      exact .cons (.equality field literal (Or.inr rfl)) .nil
  | gt | gte | lt | lte => exact .cons (horder (by simp)) .nil

/-- The filter of a predicate has one test for every leaf, in the same places. -/
theorem Predicate.mirrors_of_compile {p : Predicate} {filter : Filter}
    (h : p.compile = .ok filter) :
  List.Forall₂ Mirrors p.leaves filter.leaves
  := by
  induction p generalizing filter with
  | compare left op right =>
      obtain ⟨field, literal, rfl, rfl, -, rfl⟩ := compileComparison_eq_ok_iff.mp h
      apply op.mirrors_filter
  | contains field value =>
      obtain ⟨-, hvalue, rfl⟩ := compileContains_eq_ok_iff.mp h
      exact .cons (.textMatch field hvalue) .nil
  | not p ih =>
      obtain ⟨f, hf, rfl⟩ := compile_not_eq_ok_iff.mp h
      rw [Filter.leaves_mustNot]
      apply ih hf
  | and p q ihp ihq =>
      obtain ⟨f, g, hf, hg, rfl⟩ := compile_and_eq_ok_iff.mp h
      rw [Filter.leaves_must, List.flatMap_cons, List.flatMap_singleton]
      apply List.rel_append (ihp hf) (ihq hg)
  | or p q ihp ihq =>
      obtain ⟨f, g, hf, hg, rfl⟩ := compile_or_eq_ok_iff.mp h
      rw [Filter.leaves_should, List.flatMap_cons, List.flatMap_singleton]
      apply List.rel_append (ihp hf) (ihq hg)

/-! ### Plans -/

/-- The tests of a field that a plan makes. -/
def Plan.leaves (plan : Plan) : List Filter := plan.filter.toList.flatMap Filter.leaves

/-- One filter for several has the tests of all of them. -/
theorem leaves_conjunction (filters : List Filter) :
  (conjunction filters).toList.flatMap Filter.leaves = filters.flatMap Filter.leaves
  := by
  match filters with
  | [] => rfl
  | [filter] => rfl
  | first :: second :: rest =>
      rw [conjunction, Option.toList_some, List.flatMap_singleton, Filter.leaves_must]
      all_goals simp

/-- The tests of filters stand for the leaves of their predicates. -/
theorem mirrors_flatMap {ps : List Predicate} {filters : List Filter}
    (h : List.Forall₂ (fun p filter => p.compile = .ok filter) ps filters) :
  List.Forall₂ Predicate.Mirrors (ps.flatMap Predicate.leaves) (filters.flatMap Filter.leaves)
  := by
  induction h with
  | nil => exact .nil
  | cons hp _ ih => apply List.rel_append (Predicate.mirrors_of_compile hp) ih

/-- The filter of a predicate has as many tests as the predicate has leaves, and read from left to
right every test stands for the leaf in its place, so that they are about the same fields.  The
tests of a plan are those of the filters of all predicates of its query, in the order in which these
were chained, and stand for the leaves of the predicates. -/
theorem leaves_mirrored :
  (∀ (p : Predicate) (filter : Filter), p.compile = .ok filter →
    filter.leafCount = p.leafCount ∧
    List.Forall₂ Predicate.Mirrors p.leaves filter.leaves ∧
    ∃ names : List String, p.leaves.map Predicate.fieldName? = names.map some ∧
      filter.leaves.map Filter.fieldName? = names.map some) ∧
  ∀ (q : Query) (plan : Plan), q.plan = .ok plan →
    (∃ filters, List.Forall₂ (fun p filter => p.compile = .ok filter) q.predicates filters ∧
      plan.leaves = filters.flatMap Filter.leaves) ∧
    List.Forall₂ Predicate.Mirrors (q.predicates.flatMap Predicate.leaves) plan.leaves
  := by
  constructor
  · intro p filter h
    have hmirrors := Predicate.mirrors_of_compile h
    refine ⟨?_, hmirrors, Predicate.exists_names_of_mirrors hmirrors⟩
    rw [filter.leafCount_eq_length, p.leafCount_eq_length, hmirrors.length_eq]
  · intro q plan h
    obtain ⟨filters, hfilters, hplan⟩ := (Query.plan_describes h).filter
    have hleaves : plan.leaves = filters.flatMap Filter.leaves := by
      rw [Plan.leaves, hplan, leaves_conjunction]
    use ⟨filters, hfilters, hleaves⟩
    rw [hleaves]
    apply mirrors_flatMap hfilters

/-- The negation of an inequality beside a text match and an order to null, which sets no bound; and
another filter chained onto it. -/
theorem leaves_mirrored_of_nested :
  let tag : Predicate := .fieldIs "tags" .ne (.num (.int 1))
  let title : Predicate := .contains ⟨"title"⟩ (.str "Search")
  let date : Predicate := .fieldIs "date" .gt .null
  let year : Predicate := .fieldIs "year" .lte (.num (.int 1999))
  let p : Predicate := .or (.not tag) (.and title date)
  let q : Query := (Query.source.filter p).filter year
  ∃ filter plan, p.compile = .ok filter ∧ q.plan = .ok plan ∧
    filter.leafCount = 3 ∧ List.Forall₂ Predicate.Mirrors [tag, title, date] filter.leaves ∧
    List.Forall₂ Predicate.Mirrors [tag, title, date, year] plan.leaves
  := by
  intro tag title date year p q
  let filter : Filter := .should [.mustNot (.mustNot (.term "tags" (.num (.int 1)))),
    .must [.fullText "title" "Search", .range "date" Bounds.none]]
  have hp : p.compile = .ok filter := rfl
  obtain ⟨hcount, hleaves, -⟩ := leaves_mirrored.1 p filter hp
  refine ⟨filter, _, hp, rfl, hcount, hleaves, (leaves_mirrored.2 q _ rfl).2⟩

end DocSearch
