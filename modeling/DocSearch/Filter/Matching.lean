import DocSearch.Document.Path
import DocSearch.Filter.Basic
import DocSearch.Text.Word

/-!
# Matching

`Filter.accepts` decides whether a document matches a filter.  A test of a field holds when one of
the field's values passes it: equality with a value, bounds on the text of the value in the order
of texts, or a word in common.
-/

namespace DocSearch

/-- A value equals another one: two numbers as binary64 numbers, and any other values as JSON. -/
def Json.equalTerm : Json → Json → Bool
  | .num a, .num b => a.toBinary64.same b.toBinary64
  | a, b => a.same b

/-- A text respects the bounds that are there. -/
def Bounds.contain (bounds : Bounds) (text : String) : Bool :=
  bounds.gt.all (fun bound => decide (bound < text)) &&
    bounds.gte.all (fun bound => decide (bound ≤ text)) &&
    bounds.lt.all (fun bound => decide (text < bound)) &&
    bounds.lte.all (fun bound => decide (text ≤ bound))

namespace Filter

/-- The number of `should` clauses that have to match: the one that is set, or else one when there
is no `must` clause and none otherwise. -/
def required (must : List Filter) : Option UInt32 → Nat
  | some n => n.toNat
  | none => if must.isEmpty then 1 else 0

mutual

/-- A document matches a filter. -/
def accepts (document : Json) : Filter → Bool
  | .term field value => (Document.fieldValues document field).any (·.equalTerm value)
  | .range field bounds =>
    (Document.fieldValues document field).any fun v => bounds.contain (Document.indexText v)
  | .fullText field query =>
    (Document.fieldValues document field).any fun v => Text.shareWord (Document.indexText v) query
  | .bool must mustNot should minimum =>
    (acceptances document must).all id && !(acceptances document mustNot).any id &&
      (should.isEmpty || required must minimum ≤ (acceptances document should).count true)

/-- For each filter of a list, whether a document matches it. -/
def acceptances (document : Json) : List Filter → List Bool
  | [] => []
  | filter :: rest => filter.accepts document :: acceptances document rest

end

/-- A document matches an optional filter, which every document does when there is none. -/
def acceptsAll (document : Json) : Option Filter → Bool
  | some filter => filter.accepts document
  | none => true

end Filter

end DocSearch
