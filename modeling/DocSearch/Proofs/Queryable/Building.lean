import DocSearch.Proofs.Provider.Aggregating

/-!
# Building a queryable

`BuilderCalls` are the calls by which a queryable is built from another one, with the types of the
documents before and after each call.  A call leaves the filter and the aggregations of the caller
as they are unless it sets them, `Queryable.external_perform` and
`Queryable.aggregations_perform`, and it chains at most one operation, `Queryable.query_perform`.
So they are those that the last call set which sets any, wherever it stands among the calls:
`hatches_survive_building`.
-/

namespace DocSearch

/-- A call by which a queryable over documents of type `β` is built from one over documents of type
`α`. -/
inductive BuilderCall : Type → Type → Type 1
  | filter {α : Type} (p : Predicate) : BuilderCall α α
  | orderBy {α : Type} (field : Field) : BuilderCall α α
  | orderByDescending {α : Type} (field : Field) : BuilderCall α α
  | skip {α : Type} (n : Int64) : BuilderCall α α
  | take {α : Type} (n : Int64) : BuilderCall α α
  | groupBy {α : Type} (key : Field) : BuilderCall α α
  | select {α β : Type} (fields : List Field) (read : Json → Option β) : BuilderCall α β
  | selectWith {α β : Type} (shape : Projection) (read : Json → Option β) : BuilderCall α β
  | withFilter {α : Type} (filter : Filter) : BuilderCall α α
  | withAggregations {α : Type} (spec : Aggregation.Spec) : BuilderCall α α
  | clone {α : Type} : BuilderCall α α

namespace BuilderCall

variable {α β : Type}

/-- The queryable that a call builds. -/
def perform : BuilderCall α β → Queryable α → Queryable β
  | filter p, q => q.filter p
  | orderBy field, q => q.orderBy field
  | orderByDescending field, q => q.orderByDescending field
  | skip n, q => q.skip n
  | take n, q => q.take n
  | groupBy key, q => q.groupBy key
  | select fields read, q => q.select fields read
  | selectWith shape read, q => q.selectWith shape read
  | withFilter f, q => q.withFilter f
  | withAggregations spec, q => q.withAggregations spec
  | clone, q => q

/-- The operation that a call chains. -/
def step? : BuilderCall α β → Option Step
  | filter p => some (.filter p)
  | orderBy field => some (.sort field .asc)
  | orderByDescending field => some (.sort field .desc)
  | skip n => some (.skip n)
  | take n => some (.take n)
  | groupBy key => some (.groupBy key)
  | select fields _ => some (.project (.object fields))
  | selectWith shape _ => some (.project shape)
  | withFilter _ | withAggregations _ | clone => none

/-- The filter that a call sets. -/
def external? : BuilderCall α β → Option Filter
  | withFilter f => some f
  | _ => none

/-- The aggregations that a call sets. -/
def aggregations? : BuilderCall α β → Option Aggregation.Spec
  | withAggregations spec => some spec
  | _ => none

end BuilderCall

/-- Calls by which a queryable is built, one after the other. -/
inductive BuilderCalls : Type → Type → Type 1
  | nil {α : Type} : BuilderCalls α α
  | cons {α β γ : Type} (call : BuilderCall α β) (calls : BuilderCalls β γ) : BuilderCalls α γ

namespace BuilderCalls

variable {α β γ δ : Type}

/-- The queryable that calls build. -/
def run : {α β : Type} → BuilderCalls α β → Queryable α → Queryable β
  | _, _, nil, q => q
  | _, _, cons call calls, q => calls.run (call.perform q)

/-- Calls followed by other calls. -/
def append : {α β γ : Type} → BuilderCalls α β → BuilderCalls β γ → BuilderCalls α γ
  | _, _, _, nil, after => after
  | _, _, _, cons call calls, after => cons call (calls.append after)

/-- What calls contribute one after the other, those that contribute nothing left out. -/
def collect (f : {α β : Type} → BuilderCall α β → Option δ) :
    {α β : Type} → BuilderCalls α β → List δ
  | _, _, nil => []
  | _, _, cons call calls => (f call).toList ++ calls.collect f

/-- The operations that calls chain. -/
def steps (calls : BuilderCalls α β) : List Step := calls.collect BuilderCall.step?

/-- The filters that calls set. -/
def externals (calls : BuilderCalls α β) : List Filter := calls.collect BuilderCall.external?

/-- The aggregations that calls set. -/
def aggregations (calls : BuilderCalls α β) : List Aggregation.Spec :=
  calls.collect BuilderCall.aggregations?

theorem run_append (calls : BuilderCalls α β) (after : BuilderCalls β γ) (q : Queryable α) :
  (calls.append after).run q = after.run (calls.run q)
  := by
  induction calls with
  | nil => rfl
  | cons call calls ih => apply ih after (call.perform q)

/-- The last contribution of calls is that of the calls after the first one, if they contribute
anything. -/
theorem getLast?_collect_cons (f : {α β : Type} → BuilderCall α β → Option δ)
    (call : BuilderCall α β) (calls : BuilderCalls β γ) :
  ((cons call calls).collect f).getLast? = (calls.collect f).getLast?.or (f call)
  := by
  rw [collect, List.getLast?_append]
  cases f call <;> rfl

end BuilderCalls

namespace Queryable

variable {α β γ : Type}

/-! ### One call -/

theorem external_perform (call : BuilderCall α β) (q : Queryable α) :
  (call.perform q).external = call.external?.or q.external
  := by
  cases call <;> rfl

theorem aggregations_perform (call : BuilderCall α β) (q : Queryable α) :
  (call.perform q).aggregations = call.aggregations?.or q.aggregations
  := by
  cases call <;> rfl

theorem index_perform (call : BuilderCall α β) (q : Queryable α) :
  (call.perform q).provider.index = q.provider.index
  := by
  cases call <;> rfl

theorem query_perform (call : BuilderCall α β) (q : Queryable α) :
  (call.perform q).query = call.step?.toList.foldl Query.chain q.query
  := by
  cases call <;> rfl

/-! ### Many calls -/

/-- What every call keeps or replaces by its own contribution is the last contribution of many
calls. -/
theorem view_run {view : {α : Type} → Queryable α → Option γ}
    {f : {α β : Type} → BuilderCall α β → Option γ}
    (hview : ∀ {α β : Type} (call : BuilderCall α β) (q : Queryable α),
      view (call.perform q) = (f call).or (view q))
    (calls : BuilderCalls α β) (q : Queryable α) :
  view (calls.run q) = (calls.collect f).getLast?.or (view q)
  := by
  induction calls with
  | nil => rfl
  | cons call calls ih =>
      rw [BuilderCalls.run, ih, hview, BuilderCalls.getLast?_collect_cons, Option.or_assoc]

theorem index_run (calls : BuilderCalls α β) (q : Queryable α) :
  (calls.run q).provider.index = q.provider.index
  := by
  induction calls with
  | nil => rfl
  | cons call calls ih => rw [BuilderCalls.run, ih, index_perform]

/-- Calls chain their operations in order. -/
theorem query_run (calls : BuilderCalls α β) (q : Queryable α) :
  (calls.run q).query = calls.steps.foldl Query.chain q.query
  := by
  induction calls with
  | nil => rfl
  | cons call calls ih =>
      rw [BuilderCalls.run, ih, query_perform, ← List.foldl_append]
      rfl

/-! ### What is sent -/

/-- A queryable shows and sends what a provider does for a query with a filter of the caller; the
aggregations of the caller are only shown. -/
structure Sends (q : Queryable β) (p : Provider α) (query : Query) (external : Option Filter)
    (aggregations : Option Aggregation.Spec) (s : Session) : Prop where
  text : ∀ plan, query.plan = .ok plan →
    (q.text s).1 = .ok { p.request plan external with aggregations := aggregations }.text
  documents : ∀ plan, query.plan = .ok plan →
    s.engine.Receives (p.request plan external) (q.documents s).2.engine
  count : ∀ plan, query.count.plan = .ok plan →
    s.engine.Receives (p.request plan external) (q.count s).2.engine
  beginAggregate : ∀ plan, query.plan = .ok plan →
    ∀ {γ : Type} (spec : Aggregation.Spec) (read : Option Json → Option γ) (token : String),
      Session.SendsOnce token (p.aggregationRequest plan external spec) s.engine
        (q.beginAggregate spec read token s)

/-- A queryable sends what another provider for its index does. -/
theorem sends_of_index {q : Queryable β} {p : Provider α} (hindex : q.provider.index = p.index)
    (s : Session) :
  q.Sends p q.query q.external q.aggregations s
  := by
  have hrequest : ∀ plan,
      p.request plan q.external = q.provider.request plan q.external := by
    intro plan
    rw [Provider.request, Provider.request, hindex]
  constructor
  case text =>
    intro plan hplan
    rw [hrequest, Queryable.text, Provider.queryText]
    apply congrArg (Except.map SearchRequest.text) (Provider.requestFor_of_plan hplan _)
  case documents =>
    intro plan hplan
    rw [hrequest]
    apply Provider.receives_execute hplan
  case count =>
    intro plan hplan
    rw [hrequest]
    apply Provider.receives_execute hplan
  case beginAggregate =>
    intro plan hplan γ spec read token
    have haggregation : p.aggregationRequest plan q.external spec =
        q.provider.aggregationRequest plan q.external spec := by
      rw [Provider.aggregationRequest, Provider.aggregationRequest, hindex]
    rw [haggregation]
    apply (Provider.stage_beginAggregate hplan spec read).sendsOnce
    apply q.provider.engine_readAggregations spec read

/-! ### Calls in another order -/

/-- A call that sets the filter or the aggregations of the caller. -/
inductive Hatch where
  | filter (f : Filter)
  | aggregations (spec : Aggregation.Spec)

/-- The call that sets the filter or the aggregations of the caller. -/
def Hatch.call : Hatch → BuilderCall α α
  | .filter f => .withFilter f
  | .aggregations spec => .withAggregations spec

/-- The filter or the aggregations of the caller can as well be set after an operation is chained.
-/
theorem perform_hatch_comm (hatch : Hatch) {call : BuilderCall α β} (h : call.step?.isSome)
    (q : Queryable α) :
  call.perform (hatch.call.perform q) = hatch.call.perform (call.perform q)
  := by
  -- A call that chains nothing may set the same as the hatch, and is ruled out.
  cases hatch with
  | filter f =>
      cases call with
      | withFilter | withAggregations | clone => cases h
      | _ => rfl
  | aggregations spec =>
      cases call with
      | withFilter | withAggregations | clone => cases h
      | _ => rfl

/-- Calls build the same when a filter or aggregations are set after an operation is chained and not
before. -/
theorem run_hatch_comm (before : BuilderCalls α β) (hatch : Hatch) {call : BuilderCall β γ}
    (h : call.step?.isSome) {δ : Type} (after : BuilderCalls γ δ) (q : Queryable α) :
  (before.append (.cons hatch.call (.cons call after))).run q =
    (before.append (.cons call (.cons hatch.call after))).run q
  := by
  rw [BuilderCalls.run_append, BuilderCalls.run_append]
  apply congrArg after.run (perform_hatch_comm hatch h (before.run q))

end Queryable

/-- A queryable that calls build from all documents of a provider has the filter and the
aggregations of the caller that were set last, the index of the provider, and the query to which
exactly the chaining calls have chained, in order; it shows and sends what the provider does for
these to the engine.  The calls build the same queryable when a filter or aggregations are set after
an operation is chained and not before. -/
theorem hatches_survive_building {α β : Type} (p : Provider α) (calls : BuilderCalls α β) :
  let built := calls.run (.ofProvider p)
  let query := calls.steps.foldl Query.chain .source
  built.external = calls.externals.getLast? ∧
  built.aggregations = calls.aggregations.getLast? ∧
  built.provider.index = p.index ∧
  built.query = query ∧
  (∀ s, built.Sends p query calls.externals.getLast? calls.aggregations.getLast? s) ∧
  ∀ {γ δ : Type} (before : BuilderCalls α γ) (hatch : Queryable.Hatch) (call : BuilderCall γ δ)
    (after : BuilderCalls δ β), calls = before.append (.cons hatch.call (.cons call after)) →
    call.step?.isSome →
    (before.append (.cons call (.cons hatch.call after))).run (.ofProvider p) = built
  := by
  intro built query
  have hexternal : built.external = calls.externals.getLast? := by
    rw [Queryable.view_run Queryable.external_perform]
    apply Option.or_none
  have haggregations : built.aggregations = calls.aggregations.getLast? := by
    rw [Queryable.view_run Queryable.aggregations_perform]
    apply Option.or_none
  have hindex : built.provider.index = p.index := Queryable.index_run calls _
  have hquery : built.query = query := Queryable.query_run calls _
  refine ⟨hexternal, haggregations, hindex, hquery, ?_, ?_⟩
  · intro s
    rw [← hexternal, ← haggregations, ← hquery]
    apply Queryable.sends_of_index hindex
  · rintro γ δ before hatch call after rfl hstep
    symm
    apply Queryable.run_hatch_comm before hatch hstep

/-- The documents are filtered, the caller sets aggregations and a filter and replaces the filter,
titles are selected, which are read as another type, and all but three are left out: the titles are
sent for with the second filter, as when it is set after they are selected. -/
theorem hatches_survive_building_of_titles :
  let p : Provider Json := ⟨"library", some⟩
  let books : Predicate := .fieldIs "kind" .eq (.str "book")
  let spec := Aggregation.Spec.empty.terms "kinds" "kind"
  let before : BuilderCalls Json Json :=
    .cons (.filter books) (.cons (.withAggregations spec) (.cons (.withFilter (.must [])) .nil))
  let hatch : Queryable.Hatch := .filter (.range "year" .none)
  let titles : BuilderCall Json String := .select [⟨"title"⟩] Json.string?
  let after : BuilderCalls String String := .cons (.take 3) (.cons .clone .nil)
  let calls := before.append (.cons hatch.call (.cons titles after))
  let built := calls.run (.ofProvider p)
  let s : Session := .start (.memory Memory.empty)
  built.external = some (.range "year" .none) ∧ built.aggregations = some spec ∧
    built.query.steps = [.take 3, .project (.object [⟨"title"⟩]), .filter books] ∧
    titles.step?.isSome ∧
    (before.append (.cons titles (.cons hatch.call after))).run (.ofProvider p) = built ∧
    s.engine.Receives ⟨"library", some (.range "year" .none), none, some 3, [], ["title"], false,
      none⟩ (built.documents s).2.engine
  := by
  intro p books spec before hatch titles after calls built s
  obtain ⟨hexternal, haggregations, -, hquery, hsends, hmoved⟩ := hatches_survive_building p calls
  refine ⟨hexternal, haggregations, congrArg Query.steps hquery, rfl, ?_, ?_⟩
  · apply hmoved before hatch titles after rfl rfl
  · apply (hsends s).documents _ rfl

end DocSearch
