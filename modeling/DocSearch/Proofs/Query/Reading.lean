import DocSearch.Query.Decoding
import DocSearch.Query.Encoding

/-!
# Queries are read back

What `Query.toJson` writes is read by `Query.ofJson?` as the query that was written:
`query_reads_back`.  A predicate is an object with one entry, which tells its kind, so
`Predicate.ofJson?_toJson` goes by induction on the predicate.  `Step.Written` says what is read
from the entries of a node, one fact for each of the tag, the parts and the query below; with it
the operations of a query are read back one by one.
-/

namespace DocSearch

/-! ### Names and numbers -/

theorem Field.ofJson?_toJson (f : Field) :
  Field.ofJson? f.toJson = some f
  := rfl

theorem Comparison.ofJson?_name (form : Form) (op : Comparison) :
  Comparison.ofJson? form (.str op.name) = some op
  := by
  cases op <;> rfl

theorem Direction.ofJson?_name (form : Form) (direction : Direction) :
  Direction.ofJson? form (.str direction.name) = some direction
  := by
  cases direction <;> rfl

theorem NodeKind.ofJson?_name (outermost : Bool) (kind : NodeKind) :
  NodeKind.ofJson? outermost (.str kind.name) = some kind
  := by
  cases kind <;> rfl

/-- A signed number of 64 bits is read back, the least and the greatest one included. -/
theorem Json.int64?_ofInt (n : Int64) :
  Json.int64? (.ofInt n.toInt) = some n
  := by
  have hrange : Int64.minValue.toInt ≤ n.toInt ∧ n.toInt ≤ Int64.maxValue.toInt :=
    ⟨n.minValue_le_toInt, n.toInt_le⟩
  rw [int64?, ofInt, int?, Option.bind_some, if_pos hrange, Int64.ofInt_toInt]

/-! ### Predicates and projections -/

theorem Operand.ofJson?_toJson (operand : Operand) :
  Operand.ofJson? operand.toJson = some operand
  := by
  cases operand <;> rfl

/-- A predicate is written as an object with one entry. -/
theorem Predicate.exists_toJson_eq (p : Predicate) :
  ∃ kind body, p.toJson = .obj [(kind, body)]
  := by
  cases p <;> exact ⟨_, _, rfl⟩

/-- A negation is read from what is read for its predicate.  The object below the negation is not
the array of a conjunction, although its value may be any literal. -/
theorem Predicate.ofJson?_not {form : Form} {v : Json} {p : Predicate}
    (hobject : ∃ kind body, v = .obj [(kind, body)]) (hv : Predicate.ofJson? form v = some p) :
  Predicate.ofJson? form (.obj [("not", v)]) = some (.not p)
  := by
  obtain ⟨kind, body, rfl⟩ := hobject
  rw [Predicate.ofJson?, if_pos rfl, hv, Option.map_some]
  simp

/-- A predicate is read back, by itself and inside a query. -/
theorem Predicate.ofJson?_toJson (form : Form) (p : Predicate) :
  Predicate.ofJson? form p.toJson = some p
  := by
  induction p with
  | compare left op right =>
      simp [toJson, ofJson?, leaf?, Form.body?, Record.ofJson?, Record.required?, Record.get?,
        Entries.get?, Operand.ofJson?_toJson, Comparison.ofJson?_name]
  | contains field value =>
      simp [toJson, ofJson?, leaf?, Form.body?, Record.ofJson?, Record.required?, Record.get?,
        Entries.get?, Field.ofJson?_toJson]
  | not p ih => exact ofJson?_not p.exists_toJson_eq ih
  | and p q ihp ihq => simp [toJson, ofJson?, ihp, ihq]
  | or p q ihp ihq => simp [toJson, ofJson?, ihp, ihq]

/-- A list is read back when each of its items is. -/
theorem Json.listOf?_map {α : Type} {read : Json → Option α} {write : α → Json}
    (h : ∀ x, read (write x) = some x) (items : List α) :
  Json.listOf? read (.arr (items.map write)) = some items
  := by
  have hread : read ∘ write = fun x => pure (id x) := funext h
  rw [listOf?, List.mapM_map, hread, List.mapM_pure, List.map_id]
  rfl

theorem Projection.ofJson?_toJson (shape : Projection) :
  Projection.ofJson? shape.toJson = some shape
  := by
  cases shape with
  | object fields => simp [toJson, ofJson?, Json.listOf?_map Field.ofJson?_toJson]
  | member field => rfl

/-! ### Nodes -/

/-- The entries of a node tell the kind of an operation, the operation itself, and the operations
that are read from the form of the query below. -/
structure Step.Written (step : Step) (source : Json) (entries : List (String × Json)) : Prop where
  kind (outermost : Bool) : NodeKind.ofEntries? outermost entries = some step.kind
  step : (Record.ofJson? step.kind.parts (.obj entries)).bind (Step.ofRecord? step.kind) = some step
  source : Query.sourceOfEntries? entries = Query.stepsOfJson? false source

/-- The node of an operation is an object that tells the operation. -/
theorem Step.exists_written (step : Step) (source : Json) :
  ∃ entries, step.toJson source = .obj entries ∧ step.Written source entries
  := by
  cases step <;> refine ⟨_, rfl, ?_, ?_, ?_⟩ <;>
    simp [kind, NodeKind.ofEntries?, NodeKind.ofJson?_name, NodeKind.parts, Record.ofJson?,
      ofRecord?, Record.required?, Record.get?, Entries.get?, Query.sourceOfEntries?,
      Predicate.ofJson?_toJson, Field.ofJson?_toJson, Direction.ofJson?_name, Json.int64?_ofInt,
      Projection.ofJson?_toJson]

theorem Step.kind_ne_source (step : Step) :
  step.kind ≠ .source
  := by
  cases step <;> simp [kind]

namespace Query

/-- The operations of a query are read back, whether or not the query is inside another one. -/
theorem stepsOfJson?_stepsToJson (outermost : Bool) (steps : List Step) :
  stepsOfJson? outermost (stepsToJson steps) = some steps
  := by
  induction steps generalizing outermost with
  | nil => rfl
  | cons step rest ih =>
      obtain ⟨entries, hentries, hwritten⟩ := step.exists_written (stepsToJson rest)
      rw [stepsToJson, hentries, stepsOfJson?, hwritten.kind, hwritten.source, ih]
      simp [step.kind_ne_source, hwritten.step]

/-- The outermost node of a query has its kind under `op`. -/
theorem get?_op_toJson (q : Query) :
  q.toJson.get? "op" = some (.str q.kind.name)
  := by
  obtain ⟨steps⟩ := q
  cases steps with
  | nil => rfl
  | cons step rest => cases step <;> rfl

/-- The outermost node of a query has the form of the query below under `source`. -/
theorem get?_source_toJson (q : Query) :
  q.toJson.get? "source" = q.inner?.map toJson
  := by
  obtain ⟨steps⟩ := q
  cases steps with
  | nil => rfl
  | cons step rest => cases step <;> rfl

end Query

/-- A query is read back from its JSON form, whatever its operations are: any predicates, also those
that have no filter, any literals, any projections and any signed numbers of 64 bits.  Its outermost
node is tagged with its kind, and has in it the form of the query that it is chained onto. -/
theorem query_reads_back (q : Query) :
  Query.ofJson? q.toJson = some q ∧
  q.toJson.get? "op" = some (.str q.kind.name) ∧
  q.toJson.get? "source" = q.inner?.map Query.toJson
  := by
  refine ⟨?_, q.get?_op_toJson, q.get?_source_toJson⟩
  rw [Query.ofJson?, Query.toJson, Query.stepsOfJson?_stepsToJson, Option.map_some]

/-- A predicate without a filter, a literal that looks like a node, and the least signed number. -/
example :
  let node : Json := .obj [("op", .str "source")]
  let p : Predicate := .not (.compare (.literal node) .ne (.field ⟨"a.b"⟩))
  let q : Query := (((Query.source.filter p).skip Int64.minValue).project (.object [])).count
  Query.ofJson? q.toJson = some q
  := by
  decide +kernel

end DocSearch
