import DocSearch.Proofs.Plan.Unwinding

/-!
# Which queries are rejected

`Query.Expressible` says which queries have a plan.  `Step.Fault` says what is wrong with a single
operation, given whether it is the outermost one, and `Predicate.LeafFault` with a leaf of a
predicate.  A query without a plan is rejected for the first faulty operation on the way inwards,
and a faulty filter for its leftmost faulty leaf.
-/

namespace DocSearch

/-- The comparisons and text matches of a predicate, from left to right. -/
def Predicate.leaves : Predicate → List Predicate
  | .compare left op right => [.compare left op right]
  | .contains field value => [.contains field value]
  | .not p => p.leaves
  | .and p q | .or p q => p.leaves ++ q.leaves

/-- What is wrong with a comparison, the left side first, or with a text match. -/
inductive Predicate.LeafFault : Predicate → Rejection → Prop
  | literalOnLeft (v : Json) (op : Comparison) (right : Operand) :
      LeafFault (.compare (.literal v) op right) (.literalOnLeft op)
  | fieldOnRight (field : Field) (op : Comparison) (other : Field) :
      LeafFault (.compare (.field field) op (.field other)) (.fieldOnRight field op other)
  | comparedNotScalar (field : Field) (op : Comparison) {v : Json} (h : v.isScalar = false) :
      LeafFault (.compare (.field field) op (.literal v)) .literalNotScalar
  | containedNotScalar (field : Field) {v : Json} (h : v.isScalar = false) :
      LeafFault (.contains field v) .literalNotScalar
  | containedNull (field : Field) : LeafFault (.contains field .null) (.containsNull field)

/-- A field that is not a direct one cannot be kept. -/
inductive Field.Fault : Field → Rejection → Prop
  | nested {field : Field} (h : field.isDirect = false) : Fault field (.nestedMember field)

/-- What is wrong with an operation, which is the outermost one or not. -/
inductive Step.Fault (outermost : Bool) : Step → Rejection → Prop
  | filter {p : Predicate} {r : Rejection} (h : FirstFault Predicate.LeafFault p.leaves r) :
      Fault outermost (.filter p) r
  | negativeSkip {n : Int64} (h : n.toInt < 0) : Fault outermost (.skip n) (.negativeCount .skip n)
  | negativeTake {n : Int64} (h : n.toInt < 0) : Fault outermost (.take n) (.negativeCount .take n)
  | bareMember (field : Field) : Fault outermost (.project (.member field)) (.bareMember field)
  | noFields : Fault outermost (.project (.object [])) .noProjectedFields
  | field {fields : List Field} {r : Rejection} (h : FirstFault Field.Fault fields r) :
      Fault outermost (.project (.object fields)) r
  | innerCount (h : outermost = false) : Fault outermost .count .countNotLast
  | grouping (key : Field) : Fault outermost (.groupBy key) (.grouping key)

/-- The operations of a query from the outermost one inwards, with whether they are the outermost
one. -/
def Query.nodes (q : Query) : List (Bool × Step) :=
  match q.steps with
  | [] => []
  | step :: rest => (true, step) :: rest.map fun step => (false, step)

/-- A query that the engine has a request for. -/
structure Query.Expressible (q : Query) : Prop where
  noGrouping : ∀ key, .groupBy key ∉ q.steps
  countOutermost : .count ∉ q.steps.tail
  skips : ∀ n, .skip n ∈ q.steps → 0 ≤ n.toInt
  takes : ∀ n, .take n ∈ q.steps → 0 ≤ n.toInt
  projections : ∀ shape, .project shape ∈ q.steps → ∃ fields, shape = .object fields ∧
    fields ≠ [] ∧ ∀ field ∈ fields, field.name ≠ "" ∧ '.' ∉ field.name.toList
  comparisons : ∀ p, .filter p ∈ q.steps → ∀ left op right, .compare left op right ∈ p.leaves →
    (∃ field, left = .field field) ∧ ∃ v, right = .literal v ∧ v.isScalar = true
  textMatches : ∀ p, .filter p ∈ q.steps → ∀ field v, .contains field v ∈ p.leaves →
    v.isScalar = true ∧ v ≠ .null

/-- An operation whose fault is an argument that makes no sense: a negative number, a `count` that
is not the outermost operation, or a text match with null as the leftmost faulty leaf. -/
inductive Step.InvalidArgument (outermost : Bool) : Step → Prop
  | negativeSkip {n : Int64} (h : n.toInt < 0) : InvalidArgument outermost (.skip n)
  | negativeTake {n : Int64} (h : n.toInt < 0) : InvalidArgument outermost (.take n)
  | innerCount (h : outermost = false) : InvalidArgument outermost .count
  | containedNull {p : Predicate} {before after : List Predicate} {field : Field}
      (h : p.leaves = before ++ .contains field .null :: after)
      (hbefore : ∀ leaf ∈ before, ∀ r, ¬ leaf.LeafFault r) : InvalidArgument outermost (.filter p)

theorem Field.isDirect_iff {field : Field} :
  field.isDirect = true ↔ field.name ≠ "" ∧ '.' ∉ field.name.toList
  := by
  simp [isDirect]

/-! ### Faults of predicates -/

theorem compileComparison_eq_error_iff {left : Operand} {op : Comparison} {right : Operand}
    {r : Rejection} :
  compileComparison left op right = .error r ↔ (Predicate.compare left op right).LeafFault r
  := by
  constructor
  · intro h
    cases left with
    | literal v =>
        obtain rfl := Except.error.inj h
        apply Predicate.LeafFault.literalOnLeft
    | field f =>
        cases right with
        | field g =>
            obtain rfl := Except.error.inj h
            apply Predicate.LeafFault.fieldOnRight
        | literal v =>
            cases hv : v.isScalar
            · simp [compileComparison, scalar, hv, Except.map] at h
              obtain rfl := h
              apply Predicate.LeafFault.comparedNotScalar f op hv
            · simp [compileComparison, scalar, hv, Except.map] at h
  · intro h
    cases h with
    | literalOnLeft => rfl
    | fieldOnRight => rfl
    | comparedNotScalar f op hv => simp [compileComparison, scalar, hv, Except.map]

theorem compileContains_eq_error_iff {field : Field} {value : Json} {r : Rejection} :
  compileContains field value = .error r ↔ (Predicate.contains field value).LeafFault r
  := by
  constructor
  · intro h
    cases value with
    | null =>
        obtain rfl := Except.error.inj h
        apply Predicate.LeafFault.containedNull
    | arr items =>
        obtain rfl := Except.error.inj h
        apply Predicate.LeafFault.containedNotScalar field rfl
    | obj entries =>
        obtain rfl := Except.error.inj h
        apply Predicate.LeafFault.containedNotScalar field rfl
    | _ => cases h
  · intro h
    cases h with
    | containedNotScalar _ hv => simp [compileContains, scalar, hv, bind, Except.bind]
    | containedNull => rfl

/-- A predicate is rejected for its leftmost faulty leaf. -/
theorem Predicate.compile_eq_error_iff {p : Predicate} {r : Rejection} :
  p.compile = .error r ↔ FirstFault LeafFault p.leaves r
  := by
  have hpair : ∀ {p q : Predicate} (combine : Filter → Filter → Filter),
      (∀ r, p.compile = .error r ↔ FirstFault LeafFault p.leaves r) →
      (∀ r, q.compile = .error r ↔ FirstFault LeafFault q.leaves r) → ∀ r,
      ((do return combine (← p.compile) (← q.compile)) = .error r
        ↔ FirstFault LeafFault (p.leaves ++ q.leaves) r) := by
    intro p q combine ihp ihq r
    rw [Except.bind_eq_error_iff, FirstFault.append_iff, ← FirstFault.exists_ok_iff ihp]
    simp only [Except.bind_pure_eq_error_iff, exists_and_right, ihp, ihq]
  induction p generalizing r with
  | compare left op right =>
      rw [compile, compileComparison_eq_error_iff, leaves, FirstFault.singleton_iff]
  | contains field value =>
      rw [compile, compileContains_eq_error_iff, leaves, FirstFault.singleton_iff]
  | not p ih =>
      rw [compile, Except.bind_pure_eq_error_iff]
      exact ih
  | and p q ihp ihq => exact hpair (fun f g => .must [f, g]) (fun _ => ihp) (fun _ => ihq) r
  | or p q ihp ihq => exact hpair (fun f g => .should [f, g]) (fun _ => ihp) (fun _ => ihq) r

/-! ### Faults of operations -/

theorem countOf_eq_error_iff {kind : NodeKind} {n : Int64} {r : Rejection} :
  countOf kind n = .error r ↔ n.toInt < 0 ∧ r = .negativeCount kind n
  := by
  by_cases h : n.toInt < 0 <;> simp [countOf, h, eq_comm]

/-- A list of fields is rejected for the first field that is not direct. -/
theorem mapM_isDirect_eq_error_iff {fields : List Field} {r : Rejection} :
  (fields.mapM fun field =>
      if field.isDirect then Except.ok field.name else .error (Rejection.nestedMember field))
    = .error r ↔ FirstFault Field.Fault fields r
  := by
  apply mapM_eq_error_iff
  intro field r
  constructor
  · intro h
    split at h
    case isTrue => cases h
    case isFalse hdirect =>
      obtain rfl := Except.error.inj h
      apply Field.Fault.nested (Bool.not_eq_true _ ▸ hdirect)
  · rintro ⟨hdirect⟩
    simp [hdirect]

/-- A projection is rejected for what is wrong with it, wherever it stands. -/
theorem Projection.fieldNames_eq_error_iff {shape : Projection} {r : Rejection} {outermost : Bool} :
  shape.fieldNames = .error r ↔ (Step.project shape).Fault outermost r
  := by
  constructor
  · intro h
    cases shape with
    | member field =>
        obtain rfl := Except.error.inj h
        apply Step.Fault.bareMember
    | object fields =>
        cases fields with
        | nil =>
            obtain rfl := Except.error.inj h
            apply Step.Fault.noFields
        | cons field fields => apply Step.Fault.field (mapM_isDirect_eq_error_iff.mp h)
  · intro h
    cases h with
    | bareMember => rfl
    | noFields => rfl
    | @field fields _ h =>
        cases fields with
        | nil => cases FirstFault.nil_iff.mp h
        | cons field fields => exact mapM_isDirect_eq_error_iff.mpr h

namespace Unwound

variable {u : Unwound} {r : Rejection}

/-- An operation is rejected for what is wrong with it. -/
theorem read_eq_error_iff {outermost : Bool} {step : Step} :
  u.read outermost step = .error r ↔ step.Fault outermost r
  := by
  cases step with
  | filter p =>
      rw [read, Except.bind_pure_eq_error_iff, Predicate.compile_eq_error_iff]
      constructor
      · apply Step.Fault.filter
      · rintro ⟨h⟩
        exact h
  | sort field direction =>
      constructor
      · intro h
        cases h
      · rintro ⟨⟩
  | skip n =>
      rw [read, Except.bind_pure_eq_error_iff, countOf_eq_error_iff]
      constructor
      · rintro ⟨h, rfl⟩
        apply Step.Fault.negativeSkip h
      · intro h
        cases h with
        | negativeSkip h => exact ⟨h, rfl⟩
  | take n =>
      rw [read, Except.bind_pure_eq_error_iff, countOf_eq_error_iff]
      constructor
      · rintro ⟨h, rfl⟩
        apply Step.Fault.negativeTake h
      · intro h
        cases h with
        | negativeTake h => exact ⟨h, rfl⟩
  | project shape =>
      rw [read, Except.bind_pure_eq_error_iff]
      apply Projection.fieldNames_eq_error_iff
  | count =>
      cases outermost with
      | true =>
          constructor
          · intro h
            cases h
          · intro h
            cases h with
            | innerCount h => cases h
      | false =>
          constructor
          · intro h
            obtain rfl := Except.error.inj h
            apply Step.Fault.innerCount rfl
          · rintro ⟨⟩
            rfl
  | groupBy key =>
      constructor
      · intro h
        obtain rfl := Except.error.inj h
        apply Step.Fault.grouping
      · rintro ⟨⟩
        rfl

/-- The operations inside the outermost one are rejected for the first faulty one of them. -/
theorem readInner_eq_error_iff {steps : List Step} :
  u.readInner steps = .error r ↔ FirstFault (Step.Fault false) steps r
  := by
  induction steps generalizing u with
  | nil => simp [readInner, FirstFault.nil_iff]
  | cons step steps ih =>
      have hok : (∃ next, u.read false step = .ok next) ↔ ∀ e, ¬ step.Fault false e := by
        simp only [Except.exists_ok_iff, ne_eq, read_eq_error_iff]
      simp only [readInner, Except.bind_eq_error_iff, read_eq_error_iff, ih, exists_and_right, hok,
        FirstFault.cons_iff]

/-- The operations of a query are rejected for the first faulty one of them. -/
theorem readAll_eq_error_iff {q : Query} :
  readAll q.steps = .error r ↔ FirstFault (fun node => node.2.Fault node.1) q.nodes r
  := by
  obtain ⟨steps⟩ := q
  cases steps with
  | nil => simp [readAll, Query.nodes, FirstFault.nil_iff]
  | cons step steps =>
      have hok : (∃ u, start.read true step = .ok u) ↔ ∀ e, ¬ step.Fault true e := by
        simp only [Except.exists_ok_iff, ne_eq, read_eq_error_iff]
      simp only [readAll, Except.bind_eq_error_iff, read_eq_error_iff, readInner_eq_error_iff,
        exists_and_right, hok, Query.nodes, FirstFault.cons_iff, FirstFault.map_iff]

end Unwound

namespace Query

variable {q : Query}

/-- A query is rejected for the first faulty operation on the way inwards. -/
theorem plan_eq_error_iff {r : Rejection} :
  q.plan = .error r ↔ FirstFault (fun node => node.2.Fault node.1) q.nodes r
  := by
  rw [← Unwound.readAll_eq_error_iff, plan, Except.bind_pure_eq_error_iff]

/-! ### Expressible queries -/

theorem mem_steps_iff {step : Step} :
  step ∈ q.steps ↔ ∃ outermost, (outermost, step) ∈ q.nodes
  := by
  obtain ⟨steps⟩ := q
  cases steps <;> simp [nodes, or_comm]

theorem mem_tail_iff {step : Step} :
  step ∈ q.steps.tail ↔ (false, step) ∈ q.nodes
  := by
  obtain ⟨steps⟩ := q
  cases steps <;> simp [nodes]

/-- The operations of an expressible query have no faults. -/
theorem Expressible.not_fault (h : q.Expressible) {node : Bool × Step} (hnode : node ∈ q.nodes)
    (r : Rejection) :
  ¬ node.2.Fault node.1 r
  := by
  obtain ⟨outermost, step⟩ := node
  have hstep : step ∈ q.steps := mem_steps_iff.mpr ⟨outermost, hnode⟩
  intro hfault
  cases hfault with
  | @filter p r hfault =>
      obtain ⟨leaf, hleaf, r, hr⟩ := FirstFault.exists_iff.mp ⟨r, hfault⟩
      cases hr with
      | literalOnLeft v op right =>
          obtain ⟨⟨field, hleft⟩, -⟩ := h.comparisons p hstep _ _ _ hleaf
          cases hleft
      | fieldOnRight field op other =>
          obtain ⟨-, v, hright, -⟩ := h.comparisons p hstep _ _ _ hleaf
          cases hright
      | comparedNotScalar field op hv =>
          obtain ⟨-, v, hright, hscalar⟩ := h.comparisons p hstep _ _ _ hleaf
          obtain rfl := Operand.literal.inj hright
          rw [hv] at hscalar
          cases hscalar
      | containedNotScalar field hv =>
          obtain ⟨hscalar, -⟩ := h.textMatches p hstep _ _ hleaf
          rw [hv] at hscalar
          cases hscalar
      | containedNull field => exact (h.textMatches p hstep _ _ hleaf).2 rfl
  | negativeSkip hn =>
      have := h.skips _ hstep
      omega
  | negativeTake hn =>
      have := h.takes _ hstep
      omega
  | bareMember field =>
      obtain ⟨fields, hshape, -⟩ := h.projections _ hstep
      cases hshape
  | noFields =>
      obtain ⟨fields, hshape, hne, -⟩ := h.projections _ hstep
      obtain rfl := Projection.object.inj hshape
      exact hne rfl
  | @field fields r hfault =>
      obtain ⟨fields, hshape, -, hdirect⟩ := h.projections _ hstep
      obtain rfl := Projection.object.inj hshape
      obtain ⟨field, hfield, r, ⟨hnested⟩⟩ := FirstFault.exists_iff.mp ⟨r, hfault⟩
      rw [Field.isDirect_iff.mpr (hdirect field hfield)] at hnested
      cases hnested
  | innerCount houtermost =>
      apply h.countOutermost
      rwa [mem_tail_iff, ← houtermost]
  | grouping key => exact h.noGrouping key hstep

/-- A query whose operations have no faults is expressible. -/
theorem expressible_of_not_fault (h : ∀ node ∈ q.nodes, ∀ r, ¬ node.2.Fault node.1 r) :
  q.Expressible
  := by
  have hstep : ∀ step ∈ q.steps, ∃ outermost, ∀ r, ¬ step.Fault outermost r := by
    intro step hmem
    obtain ⟨outermost, hnode⟩ := mem_steps_iff.mp hmem
    use outermost
    apply h _ hnode
  have hleaf : ∀ p, .filter p ∈ q.steps → ∀ leaf ∈ p.leaves, ∀ r, ¬ leaf.LeafFault r := by
    intro p hp leaf hmem r hr
    obtain ⟨outermost, hnone⟩ := hstep _ hp
    obtain ⟨e, he⟩ := FirstFault.exists_iff.mpr ⟨leaf, hmem, r, hr⟩
    apply hnone e (Step.Fault.filter he)
  constructor
  case noGrouping =>
    intro key hmem
    obtain ⟨outermost, hnone⟩ := hstep _ hmem
    apply hnone _ (Step.Fault.grouping key)
  case countOutermost =>
    intro hmem
    apply h _ (mem_tail_iff.mp hmem) _ (Step.Fault.innerCount rfl)
  case skips =>
    intro n hmem
    obtain ⟨outermost, hnone⟩ := hstep _ hmem
    apply Int.not_lt.mp
    intro hn
    apply hnone _ (Step.Fault.negativeSkip hn)
  case takes =>
    intro n hmem
    obtain ⟨outermost, hnone⟩ := hstep _ hmem
    apply Int.not_lt.mp
    intro hn
    apply hnone _ (Step.Fault.negativeTake hn)
  case projections =>
    intro shape hmem
    obtain ⟨outermost, hnone⟩ := hstep _ hmem
    cases shape with
    | member field => cases hnone _ (Step.Fault.bareMember field)
    | object fields =>
        use fields, rfl
        constructor
        · rintro rfl
          apply hnone _ Step.Fault.noFields
        · intro field hfield
          apply Field.isDirect_iff.mp
          by_contra hdirect
          obtain ⟨e, he⟩ := FirstFault.exists_iff.mpr
            ⟨field, hfield, _, Field.Fault.nested (Bool.not_eq_true _ ▸ hdirect)⟩
          apply hnone e (Step.Fault.field he)
  case comparisons =>
    intro p hp left op right hmem
    have hnone := hleaf p hp _ hmem
    cases left with
    | literal v => cases hnone _ (Predicate.LeafFault.literalOnLeft v op right)
    | field f =>
        cases right with
        | field g => cases hnone _ (Predicate.LeafFault.fieldOnRight f op g)
        | literal v =>
            cases hv : v.isScalar with
            | true => simp [hv]
            | false => cases hnone _ (Predicate.LeafFault.comparedNotScalar f op hv)
  case textMatches =>
    intro p hp field v hmem
    have hnone := hleaf p hp _ hmem
    constructor
    · cases hv : v.isScalar with
      | true => rfl
      | false => cases hnone _ (Predicate.LeafFault.containedNotScalar field hv)
    · rintro rfl
      apply hnone _ (Predicate.LeafFault.containedNull field)

/-- The queries that have a plan are the expressible ones. -/
theorem exists_plan_iff :
  (∃ plan, q.plan = .ok plan) ↔ q.Expressible
  := by
  rw [FirstFault.exists_ok_iff fun r => plan_eq_error_iff]
  constructor
  · apply expressible_of_not_fault
  · intro h node hnode
    apply h.not_fault hnode

end Query

/-! ### The class of a rejection -/

/-- A rejection for a leaf is one for its argument when the leaf is a text match with null. -/
theorem Predicate.LeafFault.isUnsupported_eq_false_iff {leaf : Predicate} {r : Rejection}
    (h : leaf.LeafFault r) :
  r.isUnsupported = false ↔ ∃ field, leaf = .contains field .null
  := by
  cases h with
  | containedNotScalar field hv =>
      simp only [Rejection.isUnsupported, Bool.true_eq_false, false_iff, not_exists]
      rintro g heq
      obtain ⟨-, rfl⟩ := Predicate.contains.inj heq
      cases hv
  | _ => simp [Rejection.isUnsupported]

/-- A rejection for an operation is one for its argument when the argument makes no sense. -/
theorem Step.Fault.isUnsupported_eq_false_iff {outermost : Bool} {step : Step} {r : Rejection}
    (h : step.Fault outermost r) :
  r.isUnsupported = false ↔ step.InvalidArgument outermost
  := by
  cases h with
  | @filter p r h =>
      constructor
      · intro hr
        obtain ⟨before, leaf, after, heq, hbefore, hleaf⟩ := h
        obtain ⟨field, rfl⟩ := hleaf.isUnsupported_eq_false_iff.mp hr
        apply Step.InvalidArgument.containedNull heq hbefore
      · intro hnull
        cases hnull with
        | @containedNull _ before after field heq hbefore =>
            -- The leftmost faulty leaf is that text match, and the rejection is for no other one.
            have hfirst : FirstFault Predicate.LeafFault p.leaves (.containsNull field) :=
              ⟨before, _, after, heq, hbefore, Predicate.LeafFault.containedNull field⟩
            obtain ⟨leaf, -, hleaf, hsame⟩ := h.exists_common hfirst
            apply hleaf.isUnsupported_eq_false_iff.mpr
            cases hsame
            use field
  | negativeSkip h => simp [Rejection.isUnsupported, Step.InvalidArgument.negativeSkip h]
  | negativeTake h => simp [Rejection.isUnsupported, Step.InvalidArgument.negativeTake h]
  | innerCount h => simp [Rejection.isUnsupported, Step.InvalidArgument.innerCount h]
  | @field fields r h =>
      obtain ⟨before, field, after, -, -, ⟨hdirect⟩⟩ := h
      simp only [Rejection.isUnsupported, Bool.true_eq_false, false_iff]
      rintro ⟨⟩
  | _ =>
      simp only [Rejection.isUnsupported, Bool.true_eq_false, false_iff]
      rintro ⟨⟩

/-- A query has a plan exactly when it is expressible.  Otherwise it is rejected for the first
faulty operation on the way inwards, and the rejection is one for an argument exactly when the
argument of that operation makes no sense. -/
theorem plan_outcome (q : Query) :
  ((∃ plan, q.plan = .ok plan) ↔ q.Expressible) ∧
  (∀ r, q.plan = .error r ↔ FirstFault (fun node => node.2.Fault node.1) q.nodes r) ∧
  ∀ outermost step r, Step.Fault outermost step r →
    (r.isUnsupported = false ↔ step.InvalidArgument outermost)
  := by
  constructor
  · apply Query.exists_plan_iff
  · constructor
    · intro r
      apply Query.plan_eq_error_iff
    · intro outermost step r h
      apply h.isUnsupported_eq_false_iff

/-- A query with a faultless outermost `take`, inside it a filter whose second leaf is a text match
with null, and innermost a faulty projection. -/
theorem plan_outcome_of_containsNull :
  let p : Predicate :=
    .and (.fieldIs "year" .gt (.num (.int 1990))) (.not (.contains ⟨"title"⟩ .null))
  let q : Query := ((Query.source.project (.member ⟨"title"⟩)).filter p).take 3
  (Step.filter p).Fault false (.containsNull ⟨"title"⟩) ∧
    FirstFault (fun node => node.2.Fault node.1) q.nodes (.containsNull ⟨"title"⟩) ∧
    ¬ q.Expressible ∧ (Step.filter p).InvalidArgument false
  := by
  intro p q
  have hplan : q.plan = .error (.containsNull ⟨"title"⟩) := rfl
  have hfault : (Step.filter p).Fault false (.containsNull ⟨"title"⟩) := by
    have hsecond : (Predicate.contains ⟨"title"⟩ .null).LeafFault (.containsNull ⟨"title"⟩) :=
      Predicate.LeafFault.containedNull _
    apply Step.Fault.filter
    use [.fieldIs "year" .gt (.num (.int 1990))], .contains ⟨"title"⟩ .null, [], rfl
    constructor
    · simp only [List.mem_singleton, forall_eq]
      rintro r ⟨⟩
      contradiction
    · exact hsecond
  obtain ⟨hexpressible, hfirst, hclass⟩ := plan_outcome q
  constructor
  · exact hfault
  · constructor
    · exact (hfirst _).mp hplan
    · constructor
      · intro h
        obtain ⟨plan, hok⟩ := hexpressible.mpr h
        rw [hplan] at hok
        cases hok
      · exact (hclass _ _ _ hfault).mp rfl

end DocSearch
