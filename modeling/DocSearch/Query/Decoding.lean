import DocSearch.Json.Parser
import DocSearch.Json.Record
import DocSearch.Query.Basic

/-!
# Queries from JSON

`Predicate.ofJson?` and `Query.ofJson?` read the JSON form of predicates and queries.  A node of a
query may also be the array of its kind and its parts.  Inside a query more forms are accepted than
for a predicate by itself, which `Form` tells apart.
-/

namespace DocSearch

/-- The forms that are accepted: those of a predicate by itself, or also the looser ones inside a
query. -/
inductive Form where
  | strict
  | loose
deriving DecidableEq, Repr

/-- The name of a constant: a text, or an object with the text as its only key.  The value of the
key is null; in loose form it may also be an empty object. -/
def Form.constant? (form : Form) : Json → Option String
  | .str name => some name
  | .obj [(name, .null)] => some name
  | .obj [(name, .obj [])] => if form = .loose then some name else none
  | _ => none

/-- The parts of a body: an object, or in loose form also the array of all parts. -/
def Form.body? (form : Form) (names : List String) (v : Json) : Option Record :=
  (Record.ofJson? names v).bind fun r =>
    match r.form with
    | .named _ => some r
    | .placed items => if form = .loose ∧ items.length = names.length then some r else none

/-- The field that a path names. -/
def Field.ofJson? (v : Json) : Option Field := v.string?.map Field.mk

/-- The operator with a name. -/
def Comparison.ofJson? (form : Form) (v : Json) : Option Comparison :=
  (form.constant? v).bind fun name => Comparison.all.find? (·.name == name)

/-- The direction with a name. -/
def Direction.ofJson? (form : Form) (v : Json) : Option Direction :=
  (form.constant? v).bind fun name => [Direction.asc, .desc].find? (·.name == name)

/-- The operand that an object with one entry is. -/
def Operand.ofJson? : Json → Option Operand
  | .obj [(kind, v)] =>
    if kind = "field" then (Field.ofJson? v).map .field
    else if kind = "literal" then some (.literal v)
    else none
  | _ => none

/-- The comparison or text match that an object with one entry is. -/
def Predicate.leaf? (form : Form) (kind : String) (body : Json) : Option Predicate :=
  if kind = "compare" then do
    let r ← form.body? ["left", "op", "right"] body
    return .compare (← r.required? "left" Operand.ofJson?)
      (← r.required? "op" (Comparison.ofJson? form)) (← r.required? "right" Operand.ofJson?)
  else if kind = "contains" then do
    let r ← form.body? ["field", "value"] body
    return .contains (← r.required? "field" Field.ofJson?) (← r.required? "value" some)
  else none

/-- The predicate that an object with one entry is. -/
def Predicate.ofJson? (form : Form) : Json → Option Predicate
  | .obj [(kind, .arr [p, q])] =>
    if kind = "and" then do return .and (← ofJson? form p) (← ofJson? form q)
    else if kind = "or" then do return .or (← ofJson? form p) (← ofJson? form q)
    else leaf? form kind (.arr [p, q])
  | .obj [(kind, v)] => if kind = "not" then (ofJson? form v).map .not else leaf? form kind v
  | _ => none

/-- The projection that an object with one entry is. -/
def Projection.ofJson? : Json → Option Projection
  | .obj [(kind, v)] =>
    if kind = "object" then (Json.listOf? Field.ofJson? v).map .object
    else if kind = "member" then (Field.ofJson? v).map .member
    else none
  | _ => none

/-- The kind of a node: its name, or below the outermost node also its place among the kinds. -/
def NodeKind.ofJson? (outermost : Bool) : Json → Option NodeKind
  | .str name => NodeKind.all.find? (·.name == name)
  | .num (.int n) => if outermost ∨ n < 0 then none else NodeKind.all[n.toNat]?
  | _ => none

/-- The names of the parts of a node, in order. -/
def NodeKind.parts : NodeKind → List String
  | .source => []
  | .filter => ["source", "predicate"]
  | .sort => ["source", "field", "direction"]
  | .skip | .take => ["source", "count"]
  | .project => ["source", "projection"]
  | .count => ["source"]
  | .groupBy => ["source", "key"]

/-- The operation of a kind with the parts of a record. -/
def Step.ofRecord? (kind : NodeKind) (r : Record) : Option Step :=
  match kind with
  | .source => none
  | .filter => (r.required? "predicate" (Predicate.ofJson? .loose)).map .filter
  | .sort => do
    return .sort (← r.required? "field" Field.ofJson?)
      (← r.required? "direction" (Direction.ofJson? .loose))
  | .skip => (r.required? "count" Json.int64?).map .skip
  | .take => (r.required? "count" Json.int64?).map .take
  | .project => (r.required? "projection" Projection.ofJson?).map .project
  | .count => some .count
  | .groupBy => (r.required? "key" Field.ofJson?).map .groupBy

/-- The kind under `op` among the entries of a node; it is there once. -/
def NodeKind.ofEntries? (outermost : Bool) (entries : List (String × Json)) : Option NodeKind :=
  match entries.filter (·.1 == "op") with
  | [(_, v)] => NodeKind.ofJson? outermost v
  | _ => none

namespace Query

mutual

/-- The operations of a query, the last one first.  The parts of a node have to be complete, without
repetition, and other entries are ignored. -/
def stepsOfJson? (outermost : Bool) : Json → Option (List Step)
  | .obj entries => do
    let kind ← NodeKind.ofEntries? outermost entries
    if kind = .source then return []
    let step ← (Record.ofJson? kind.parts (.obj entries)).bind (Step.ofRecord? kind)
    return step :: (← sourceOfEntries? entries)
  | .arr (tag :: items) => do
    let kind ← NodeKind.ofJson? outermost tag
    if items.length ≠ kind.parts.length then none
    if kind = .source then return []
    let step ← (Record.ofJson? kind.parts (.arr items)).bind (Step.ofRecord? kind)
    return step :: (← sourceOfItems? items)
  | _ => none

/-- The operations below a node that is written as an object. -/
def sourceOfEntries? : List (String × Json) → Option (List Step)
  | [] => none
  | (key, v) :: rest => if key = "source" then stepsOfJson? false v else sourceOfEntries? rest

/-- The operations below a node that is written as an array. -/
def sourceOfItems? : List Json → Option (List Step)
  | [] => none
  | v :: _ => stepsOfJson? false v

end

/-- The query that a value writes. -/
def ofJson? (v : Json) : Option Query := (stepsOfJson? true v).map Query.mk

/-- The query that a text writes; its literals are made normal. -/
def ofText? (text : String) : Option Query :=
  ((Json.entriesInOrder? text).bind ofJson?).map (mapLiterals Json.normalize)

end Query

end DocSearch
