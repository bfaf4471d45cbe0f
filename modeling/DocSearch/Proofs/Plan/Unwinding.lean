import DocSearch.Plan.Basic
import DocSearch.Proofs.Outcome
import Mathlib.Data.List.Forall2

/-!
# What a plan takes from a query

`Unwound.Describes u steps` says that `u` holds what counts among the operations `steps`, the last
one chained first: the outermost `skip`, `take` and `project`, the innermost `sort`, and the filters
of all predicates in chained order.  Reading one more operation keeps it true, so a plan takes these
from its query: `Query.plan_describes`.
-/

namespace DocSearch

/-- The number of documents that a `skip` leaves out. -/
def Step.skip? : Step → Option Nat
  | .skip n => some n.toInt.toNat
  | _ => none

/-- The number of documents that a `take` keeps. -/
def Step.take? : Step → Option Nat
  | .take n => some n.toInt.toNat
  | _ => none

/-- The names of the fields that a `project` keeps. -/
def Step.fields? : Step → Option (List String)
  | .project (.object fields) => some (fields.map Field.name)
  | _ => none

/-- The key of a `sort`. -/
def Step.sortKey? : Step → Option SortKey
  | .sort field direction => some ⟨field.name, direction⟩
  | _ => none

/-- The predicate of a `filter`. -/
def Step.predicate? : Step → Option Predicate
  | .filter p => some p
  | _ => none

namespace Query

/-- The number of documents of the outermost `skip`. -/
def outermostSkip (q : Query) : Option Nat := q.steps.findSome? Step.skip?

/-- The number of documents of the outermost `take`. -/
def outermostTake (q : Query) : Option Nat := q.steps.findSome? Step.take?

/-- The fields of the outermost `project`. -/
def outermostFields (q : Query) : Option (List String) := q.steps.findSome? Step.fields?

/-- The key of the innermost `sort`. -/
def innermostSort (q : Query) : Option SortKey := q.steps.reverse.findSome? Step.sortKey?

/-- The predicates of all filters, in the order in which they were chained. -/
def predicates (q : Query) : List Predicate := (q.steps.filterMap Step.predicate?).reverse

end Query

/-! ### The checks of single operations -/

/-- A number that passes its check is the one that was given. -/
theorem countOf_eq_ok {kind : NodeKind} {n : Int64} {m : UInt64} (h : countOf kind n = .ok m) :
  m.toNat = n.toInt.toNat
  := by
  rw [countOf] at h
  split at h
  case isTrue => cases h
  case isFalse hn =>
    obtain rfl := Except.ok.inj h
    apply UInt64.toNat_ofNat_of_lt
    have hmax := n.toInt_lt
    have hsize : UInt64.size = 2 ^ 64 := rfl
    omega

/-- A list of fields that passes its check is the list of their names. -/
theorem mapM_isDirect_eq_ok {fields : List Field} {names : List String}
    (h : (fields.mapM fun field =>
      if field.isDirect then Except.ok field.name else .error (Rejection.nestedMember field))
        = .ok names) :
  names = fields.map Field.name
  := by
  induction fields generalizing names with
  | nil =>
      obtain rfl := Except.pure_eq_ok_iff.mp h
      rfl
  | cons field fields ih =>
      rw [List.mapM_cons, Except.bind_eq_ok_iff] at h
      obtain ⟨name, hname, h⟩ := h
      obtain ⟨rest, hrest, h⟩ := Except.bind_eq_ok_iff.mp h
      obtain rfl := Except.pure_eq_ok_iff.mp h
      split at hname
      case isTrue =>
        obtain rfl := Except.ok.inj hname
        rw [ih hrest, List.map_cons]
      case isFalse => cases hname

/-- A projection that passes its check keeps the fields that it names, of which there is at least
one. -/
theorem Projection.fieldNames_eq_ok {shape : Projection} {names : List String}
    (h : shape.fieldNames = .ok names) :
  (Step.project shape).fields? = some names ∧ names ≠ []
  := by
  cases shape with
  | member field => cases h
  | object fields =>
      cases fields with
      | nil => cases h
      | cons field fields =>
          rw [Step.fields?, mapM_isDirect_eq_ok h]
          simp

/-! ### Reading operations -/

namespace Unwound

/-- How reading one more operation, inside those read before, changes what has been read. -/
structure Extends (u : Unwound) (step : Step) (u' : Unwound) : Prop where
  skip : u'.skip.map UInt64.toNat = (u.skip.map UInt64.toNat).or step.skip?
  take : u'.take.map UInt64.toNat = (u.take.map UInt64.toNat).or step.take?
  fields : u'.fields = u.fields.or step.fields?
  fields_ne : step.fields? ≠ some []
  sort : u'.sort = step.sortKey?.or u.sort
  filters : ∃ filters, List.Forall₂ (fun p filter => p.compile = .ok filter)
    step.predicate?.toList filters ∧ u'.filters = filters ++ u.filters
  countOnly : u'.countOnly = true ↔ u.countOnly = true ∨ step = .count

/-- What has been read holds what counts among the operations, the last one chained first. -/
structure Describes (u : Unwound) (steps : List Step) : Prop where
  skip : u.skip.map UInt64.toNat = steps.findSome? Step.skip?
  take : u.take.map UInt64.toNat = steps.findSome? Step.take?
  fields : u.fields = steps.findSome? Step.fields?
  fields_ne : u.fields ≠ some []
  sort : u.sort = steps.reverse.findSome? Step.sortKey?
  filters : List.Forall₂ (fun p filter => p.compile = .ok filter)
    (steps.filterMap Step.predicate?).reverse u.filters
  countOnly : u.countOnly = true ↔ steps.head? = some .count

variable {u u' : Unwound} {outer : List Step} {step : Step}

/-- An operation that is read changes what it is about and nothing else. -/
theorem extends_of_read {outermost : Bool} (h : u.read outermost step = .ok u') :
  Extends u step u'
  := by
  cases step with
  | filter p =>
      obtain ⟨filter, hp, h⟩ := Except.bind_eq_ok_iff.mp h
      obtain rfl := Except.pure_eq_ok_iff.mp h
      constructor <;> simp [Step.skip?, Step.take?, Step.fields?, Step.sortKey?]
      use [filter]
      simp [Step.predicate?, hp]
  | sort field direction =>
      obtain rfl := Except.ok.inj h
      constructor <;> simp [Step.skip?, Step.take?, Step.fields?, Step.sortKey?, Step.predicate?]
  | skip n =>
      obtain ⟨m, hm, h⟩ := Except.bind_eq_ok_iff.mp h
      obtain rfl := Except.pure_eq_ok_iff.mp h
      have hn := countOf_eq_ok hm
      constructor <;> simp [Step.skip?, Step.take?, Step.fields?, Step.sortKey?, Step.predicate?]
      cases u.skip <;> simp [hn]
  | take n =>
      obtain ⟨m, hm, h⟩ := Except.bind_eq_ok_iff.mp h
      obtain rfl := Except.pure_eq_ok_iff.mp h
      have hn := countOf_eq_ok hm
      constructor <;> simp [Step.skip?, Step.take?, Step.fields?, Step.sortKey?, Step.predicate?]
      cases u.take <;> simp [hn]
  | project shape =>
      obtain ⟨names, hnames, h⟩ := Except.bind_eq_ok_iff.mp h
      obtain rfl := Except.pure_eq_ok_iff.mp h
      obtain ⟨hshape, hne⟩ := Projection.fieldNames_eq_ok hnames
      constructor <;> simp [Step.skip?, Step.take?, hshape, hne, Step.sortKey?, Step.predicate?]
  | count =>
      rw [read] at h
      split at h
      case isTrue =>
        obtain rfl := Except.ok.inj h
        constructor <;> simp [Step.skip?, Step.take?, Step.fields?, Step.sortKey?, Step.predicate?]
      case isFalse => cases h
  | groupBy key => cases h

/-- Only the outermost operation can be a `count`. -/
theorem outermost_of_read_count {outermost : Bool} (h : u.read outermost .count = .ok u') :
  outermost = true
  := by
  rw [read] at h
  split at h
  case isTrue houtermost => exact houtermost
  case isFalse => cases h

theorem start_describes :
  start.Describes []
  := by
  constructor <;> simp [start]

/-- When one more operation is read, it counts as the innermost one so far. -/
theorem Describes.read (hu : u.Describes outer) (h : u.read outer.isEmpty step = .ok u') :
  u'.Describes (outer ++ [step])
  := by
  have hread := extends_of_read h
  constructor
  case skip => rw [hread.skip, hu.skip, List.findSome?_append, List.findSome?_singleton]
  case take => rw [hread.take, hu.take, List.findSome?_append, List.findSome?_singleton]
  case fields => rw [hread.fields, hu.fields, List.findSome?_append, List.findSome?_singleton]
  case fields_ne =>
    have hne := hu.fields_ne
    rw [hread.fields]
    cases hfields : u.fields with
    | none => simpa using hread.fields_ne
    | some names => simpa [hfields] using hne
  case sort =>
    rw [hread.sort, hu.sort, List.reverse_append, List.findSome?_append, List.reverse_singleton,
      List.findSome?_singleton]
  case filters =>
    obtain ⟨filters, hfilters, heq⟩ := hread.filters
    have hone : ([step].filterMap Step.predicate?).reverse = step.predicate?.toList := by
      cases hp : step.predicate? <;> simp [hp]
    rw [heq, List.filterMap_append, List.reverse_append, hone]
    apply List.rel_append hfilters hu.filters
  case countOnly =>
    rw [hread.countOnly, hu.countOnly]
    cases outer with
    | nil => simp
    | cons first outer =>
        have hstep : step ≠ .count := by
          rintro rfl
          cases outermost_of_read_count h
        simp [hstep]

/-- Reading the remaining operations makes them count inside those read before. -/
theorem Describes.readInner {steps : List Step} (hu : u.Describes outer) (houter : outer ≠ [])
    (h : u.readInner steps = .ok u') :
  u'.Describes (outer ++ steps)
  := by
  induction steps generalizing u outer with
  | nil =>
      obtain rfl := Except.ok.inj h
      simpa using hu
  | cons step steps ih =>
      obtain ⟨next, hnext, h⟩ := Except.bind_eq_ok_iff.mp h
      rw [← List.isEmpty_eq_false_iff.mpr houter] at hnext
      rw [List.append_cons]
      apply ih (hu.read hnext) (by simp) h

/-- What has been read of all operations holds what counts among them. -/
theorem describes_of_readAll {steps : List Step} (h : readAll steps = .ok u) :
  u.Describes steps
  := by
  cases steps with
  | nil =>
      obtain rfl := Except.ok.inj h
      apply start_describes
  | cons step steps =>
      obtain ⟨next, hnext, h⟩ := Except.bind_eq_ok_iff.mp h
      apply (start_describes.read hnext).readInner (by simp) h

end Unwound

/-- A plan has what counts in a query. -/
structure Plan.Describes (plan : Plan) (q : Query) : Prop where
  skip : plan.skip.map UInt64.toNat = q.outermostSkip
  take : plan.take.map UInt64.toNat = q.outermostTake
  fields : plan.fields = q.outermostFields.getD []
  fields_ne : q.outermostFields ≠ some []
  sort : plan.sort = q.innermostSort
  filter : ∃ filters, List.Forall₂ (fun p filter => p.compile = .ok filter) q.predicates filters ∧
    plan.filter = conjunction filters
  countOnly : plan.countOnly = true ↔ q.steps.head? = some .count

/-- The plan of a query has what counts in it. -/
theorem Query.plan_describes {q : Query} {plan : Plan} (h : q.plan = .ok plan) :
  plan.Describes q
  := by
  obtain ⟨u, hu, h⟩ := Except.bind_eq_ok_iff.mp h
  obtain rfl := Except.pure_eq_ok_iff.mp h
  obtain ⟨hskip, htake, hfields, hne, hsort, hfilters, hcount⟩ := Unwound.describes_of_readAll hu
  constructor
  case fields => rw [hfields, outermostFields]
  case fields_ne => rwa [hfields] at hne
  case filter => use u.filters, hfilters
  all_goals assumption

end DocSearch
