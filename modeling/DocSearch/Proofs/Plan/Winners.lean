import DocSearch.Proofs.Plan.Rejection
import DocSearch.Proofs.Plan.Unwinding

/-!
# The operations that win

`Plan.Resolves plan q` says which operations of the query `q` the parts of `plan` come from: the
outermost `skip`, `take` and `project`, the innermost `sort`, an outermost `count`, and all filters.
These depend only on the operations of every kind by themselves, so queries that interleave the same
operations of every kind in different ways have the same plan: `plan_resolution`.
-/

namespace DocSearch

namespace Query

/-- The outermost operation of a kind. -/
def outermost? (q : Query) (kind : NodeKind) : Option Step :=
  q.steps.find? fun step => step.kind = kind

/-- The innermost operation of a kind. -/
def innermost? (q : Query) (kind : NodeKind) : Option Step :=
  q.steps.reverse.find? fun step => step.kind = kind

/-- The operations of a kind, the outermost first. -/
def ofKind (q : Query) (kind : NodeKind) : List Step :=
  q.steps.filter fun step => step.kind = kind

/-- Two queries have the same operations of every kind in the same order, however those of different
kinds are interleaved. -/
def SameByKind (q q' : Query) : Prop := ∀ kind, q.ofKind kind = q'.ofKind kind

end Query

/-- A `skip` or a `take` is about a number of documents. -/
inductive Step.HasCount : Step → UInt64 → Prop
  | skip {n : Int64} {m : UInt64} (h : (m.toNat : Int) = n.toInt) : HasCount (.skip n) m
  | take {n : Int64} {m : UInt64} (h : (m.toNat : Int) = n.toInt) : HasCount (.take n) m

/-- A `project` keeps the fields with some names. -/
inductive Step.HasFields : Step → List String → Prop
  | object (fields : List Field) : HasFields (.project (.object fields)) (fields.map Field.name)

/-- A `sort` is by a key. -/
inductive Step.HasSortKey : Step → SortKey → Prop
  | sort (field : Field) (direction : Direction) :
      HasSortKey (.sort field direction) ⟨field.name, direction⟩

/-- One filter stands for several: none for none, a single one for itself, and for more of them the
combination in which all have to match. -/
inductive Filter.Combines : List Filter → Option Filter → Prop
  | none : Combines [] none
  | single (filter : Filter) : Combines [filter] (some filter)
  | several (first second : Filter) (rest : List Filter) :
      Combines (first :: second :: rest) (some (.bool (first :: second :: rest) [] [] none))

/-- The parts of a plan come from the operations that win in a query. -/
structure Plan.Resolves (plan : Plan) (q : Query) : Prop where
  skip : Option.Rel Step.HasCount (q.outermost? .skip) plan.skip
  take : Option.Rel Step.HasCount (q.outermost? .take) plan.take
  sort : Option.Rel Step.HasSortKey (q.innermost? .sort) plan.sort
  fields : ∃ fields, Option.Rel Step.HasFields (q.outermost? .project) fields ∧
    plan.fields = fields.getD []
  countOnly : plan.countOnly = true ↔ q.kind = .count
  filter : ∃ filters, List.Forall₂ (fun p filter => p.compile = .ok filter) q.predicates filters ∧
    Filter.Combines filters plan.filter

/-! ### What an operation determines -/

theorem Step.hasCount_unique :
  Relator.RightUnique Step.HasCount
  := by
  rintro step m m' (h | h) (h' | h')
  · apply UInt64.toNat_inj.mp
    omega
  · apply UInt64.toNat_inj.mp
    omega

theorem Step.hasFields_unique :
  Relator.RightUnique Step.HasFields
  := by
  rintro step fields fields' ⟨⟩ ⟨⟩
  rfl

theorem Step.hasSortKey_unique :
  Relator.RightUnique Step.HasSortKey
  := by
  rintro step key key' ⟨⟩ ⟨⟩
  rfl

theorem Filter.combines_unique :
  Relator.RightUnique Filter.Combines
  := by
  rintro filters filter filter' ⟨⟩ ⟨⟩ <;> rfl

theorem Filter.combines_conjunction (filters : List Filter) :
  Filter.Combines filters (conjunction filters)
  := by
  match filters with
  | [] => apply Filter.Combines.none
  | [filter] => apply Filter.Combines.single
  | first :: second :: rest => apply Filter.Combines.several

theorem Predicate.compile_unique :
  Relator.RightUnique fun (p : Predicate) filter => p.compile = .ok filter
  := by
  rintro p filter filter' h h'
  apply Except.ok.inj (h.symm.trans h')

/-- What is determined by a value is determined by an optional one. -/
theorem rightUnique_optionRel {α β : Type} {r : α → β → Prop} (h : Relator.RightUnique r) :
  Relator.RightUnique (Option.Rel r)
  := by
  rintro a b b' (hb | ⟨⟩) (hb' | ⟨⟩)
  · rw [h hb hb']
  · rfl

/-! ### Winners among the operations of a kind -/

namespace Query

variable {q q' : Query} {kind : NodeKind}

/-- What operations of a kind determine through a function comes from the first operation of the
kind, when it is the first result of the function. -/
theorem optionRel_find? {α β : Type} {f : Step → Option α} {g : β → α} {r : Step → β → Prop}
    {steps : List Step} {part : Option β} (hpart : part.map g = steps.findSome? f)
    (hf : ∀ step ∈ steps, (f step).isSome = true ↔ step.kind = kind)
    (hr : ∀ step ∈ steps, ∀ b, f step = some (g b) → r step b) :
  Option.Rel r (steps.find? fun step => step.kind = kind) part
  := by
  induction steps with
  | nil =>
      obtain rfl := Option.map_eq_none_iff.mp hpart
      apply Option.Rel.none
  | cons step steps ih =>
      rw [List.forall_mem_cons] at hf hr
      rw [List.find?_cons]
      by_cases hkind : step.kind = kind
      · obtain ⟨a, ha⟩ := Option.isSome_iff_exists.mp (hf.1.mpr hkind)
        rw [List.findSome?_cons, ha] at hpart
        obtain ⟨b, rfl, rfl⟩ := Option.map_eq_some_iff.mp hpart
        rw [decide_eq_true hkind]
        apply Option.Rel.some (hr.1 b ha)
      · have hnone : f step = none := by
          rw [← Option.not_isSome_iff_eq_none, hf.1]
          exact hkind
        rw [List.findSome?_cons, hnone] at hpart
        rw [decide_eq_false hkind]
        apply ih hpart hf.2 hr.2

theorem SameByKind.outermost? (h : q.SameByKind q') :
  q.outermost? kind = q'.outermost? kind
  := by
  have hhead := congrArg List.head? (h kind)
  rwa [ofKind, ofKind, List.head?_filter, List.head?_filter] at hhead

theorem SameByKind.innermost? (h : q.SameByKind q') :
  q.innermost? kind = q'.innermost? kind
  := by
  have hlast := congrArg (fun steps => steps.reverse.head?) (h kind)
  simp only [ofKind, ← List.filter_reverse, List.head?_filter] at hlast
  apply hlast

/-- The predicates of a query are those of its filters. -/
theorem predicates_eq_ofKind :
  q.predicates = ((q.ofKind .filter).filterMap Step.predicate?).reverse
  := by
  rw [predicates, ofKind, List.filterMap_filter]
  congr 1
  apply List.filterMap_congr
  intro step _
  cases step <;> rfl

/-- A query that can be expressed counts documents when it has a `count`. -/
theorem Expressible.kind_eq_count_iff (h : q.Expressible) :
  q.kind = .count ↔ q.ofKind .count ≠ []
  := by
  have houtermost := h.countOutermost
  obtain ⟨steps⟩ := q
  cases steps with
  | nil => simp [Query.kind, ofKind]
  | cons step steps =>
      have hrest : ∀ inner ∈ steps, inner.kind ≠ .count := by
        rintro inner hinner hkind
        cases inner with
        | count => exact houtermost hinner
        | _ => cases hkind
      rw [ofKind, List.filter_cons, List.filter_eq_nil_iff.mpr (by simpa using hrest)]
      by_cases hkind : step.kind = .count
      · simp [Query.kind, hkind]
      · simp [Query.kind, hkind]

end Query

/-! ### Plans -/

namespace Plan

variable {plan plan' : Plan} {q q' : Query}

/-- The parts of the plan for a query come from the operations that win in it. -/
theorem Describes.resolves (h : plan.Describes q) (hq : q.Expressible) :
  plan.Resolves q
  := by
  constructor
  case skip =>
    apply Query.optionRel_find? h.skip
    · intro step _
      cases step <;> simp [Step.skip?, Step.kind]
    · intro step hstep m hm
      cases step with
      | skip n =>
          have hn := hq.skips n hstep
          have hm := Option.some.inj hm
          apply Step.HasCount.skip
          omega
      | _ => cases hm
  case take =>
    apply Query.optionRel_find? h.take
    · intro step _
      cases step <;> simp [Step.take?, Step.kind]
    · intro step hstep m hm
      cases step with
      | take n =>
          have hn := hq.takes n hstep
          have hm := Option.some.inj hm
          apply Step.HasCount.take
          omega
      | _ => cases hm
  case sort =>
    apply Query.optionRel_find? (f := Step.sortKey?) (g := id)
    · rw [Option.map_id, h.sort]
      rfl
    · intro step _
      cases step <;> simp [Step.sortKey?, Step.kind]
    · intro step _ key hkey
      cases step with
      | sort field direction =>
          obtain rfl := Option.some.inj hkey
          apply Step.HasSortKey.sort
      | _ => cases hkey
  case fields =>
    refine ⟨q.outermostFields, ?_, h.fields⟩
    apply Query.optionRel_find? (f := Step.fields?) (g := id)
    · rw [Option.map_id]
      rfl
    · intro step hstep
      cases step with
      | project shape =>
          obtain ⟨fields, rfl, -⟩ := hq.projections shape hstep
          simp [Step.fields?, Step.kind]
      | _ => simp [Step.fields?, Step.kind]
    · intro step hstep names hnames
      cases step with
      | project shape =>
          obtain ⟨fields, rfl, -⟩ := hq.projections shape hstep
          obtain rfl := Option.some.inj hnames
          apply Step.HasFields.object
      | _ => cases hnames
  case countOnly =>
    rw [h.countOnly, Query.kind]
    cases q.steps with
    | nil => simp
    | cons step steps => cases step <;> simp [Step.kind]
  case filter =>
    obtain ⟨filters, hfilters, heq⟩ := h.filter
    use filters, hfilters
    rw [heq]
    apply Filter.combines_conjunction

/-- Plans of queries with the same operations of every kind are the same. -/
theorem Resolves.unique (h : plan.Resolves q) (h' : plan'.Resolves q') (hsame : q.SameByKind q')
    (hq : q.Expressible) (hq' : q'.Expressible) :
  plan = plan'
  := by
  obtain ⟨hskip, htake, hsort, ⟨fields, hfields, heq⟩, hcount, ⟨filters, hfilters, hfilter⟩⟩ := h
  obtain ⟨hskip', htake', hsort', ⟨fields', hfields', heq'⟩, hcount',
    ⟨filters', hfilters', hfilter'⟩⟩ := h'
  rw [hsame.outermost?] at hskip htake hfields
  rw [hsame.innermost?] at hsort
  rw [Query.predicates_eq_ofKind, hsame, ← Query.predicates_eq_ofKind] at hfilters
  rw [hq.kind_eq_count_iff, hsame, ← hq'.kind_eq_count_iff, ← hcount', ← Bool.eq_iff_iff]
    at hcount
  have hskips := rightUnique_optionRel Step.hasCount_unique hskip hskip'
  have htakes := rightUnique_optionRel Step.hasCount_unique htake htake'
  have hsorts := rightUnique_optionRel Step.hasSortKey_unique hsort hsort'
  obtain rfl := rightUnique_optionRel Step.hasFields_unique hfields hfields'
  obtain rfl := Predicate.compile_unique.forall₂ hfilters hfilters'
  have hcombined := Filter.combines_unique hfilter hfilter'
  have hnames := heq.trans heq'.symm
  cases plan
  cases plan'
  congr

end Plan

/-- The parts of the plan for a query come from the operations that win in it: the outermost `skip`,
`take` and `project`, the innermost `sort`, an outermost `count`, and the filters of all predicates
in chained order.  Every query with a plan that has the same operations of every kind in the same
order has the same plan. -/
theorem plan_resolution {q : Query} {plan : Plan} (hplan : q.plan = .ok plan) :
  plan.Resolves q ∧
  ∀ (q' : Query) (plan' : Plan), q'.plan = .ok plan' → q'.SameByKind q → plan' = plan
  := by
  have hq := Query.exists_plan_iff.mp ⟨plan, hplan⟩
  have hresolves := (Query.plan_describes hplan).resolves hq
  use hresolves
  intro q' plan' hplan' hsame
  have hq' := Query.exists_plan_iff.mp ⟨plan', hplan'⟩
  apply ((Query.plan_describes hplan').resolves hq').unique hresolves hsame hq' hq

/-- Two filters, sorts, skips and projections, counted in the end; in the other query the operations
of every kind follow one another. -/
theorem plan_resolution_of_interleaved :
  let books : Predicate := .fieldIs "kind" .eq (.str "book")
  let recent : Predicate := .fieldIs "year" .gt (.num (.int 1990))
  let title : Projection := .object [⟨"title"⟩, ⟨"year"⟩]
  let kind : Projection := .object [⟨"kind"⟩]
  let sorted : Query := ((Query.source.filter books).sort ⟨"year"⟩ .desc).skip 7
  let narrowed : Query := (((sorted.project kind).take 4).filter recent).sort ⟨"title"⟩ .asc
  let q : Query := ((narrowed.skip 2).project title).count
  let ordered : Query := (Query.source.sort ⟨"year"⟩ .desc).sort ⟨"title"⟩ .asc
  let shaped : Query := (((ordered.project kind).project title).skip 7).skip 2
  let q' : Query := (((shaped.take 4).filter books).filter recent).count
  ∃ plan plan', q.plan = .ok plan ∧ q'.plan = .ok plan' ∧ q'.SameByKind q ∧
    plan.Resolves q ∧ plan' = plan
  := by
  intro books recent title kind sorted narrowed q ordered shaped q'
  have hsame : q'.SameByKind q := by
    rintro (_ | _ | _ | _ | _ | _ | _ | _) <;> rfl
  obtain ⟨hresolves, hunique⟩ := plan_resolution (q := q) rfl
  exact ⟨_, _, rfl, rfl, hsame, hresolves, hunique q' _ rfl hsame⟩

end DocSearch
