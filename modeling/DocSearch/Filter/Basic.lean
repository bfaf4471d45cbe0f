import DocSearch.Json.Printer

/-!
# Filters

The filter language of the engine: tests of one field, and boolean combinations of filters.
`Filter.must`, `Filter.mustNot` and `Filter.should` are the three plain combinations, and
`Filter.toJson` is the clause that the engine reads.
-/

namespace DocSearch

/-- The bounds of a range, each of which may be missing. -/
structure Bounds where
  gt : Option String
  gte : Option String
  lt : Option String
  lte : Option String
deriving DecidableEq, Repr

/-- The bounds that exclude nothing. -/
def Bounds.none : Bounds := ⟨.none, .none, .none, .none⟩

/-- A filter of the engine. -/
inductive Filter where
  | term (field : String) (value : Json)
  | range (field : String) (bounds : Bounds)
  | fullText (field : String) (query : String)
  | bool (must mustNot should : List Filter) (minimumShouldMatch : Option UInt32)

namespace Filter

instance : Inhabited Filter := ⟨.bool [] [] [] none⟩

/-- All of the clauses. -/
def must (clauses : List Filter) : Filter := .bool clauses [] [] none

/-- Not the clause. -/
def mustNot (clause : Filter) : Filter := .bool [] [clause] [] none

/-- At least one of the clauses. -/
def should (clauses : List Filter) : Filter := .bool [] [] clauses (some 1)

/-- A filter with the bounds of a range replaced; every other filter is left as it is. -/
def mapBounds (f : Bounds → Bounds) : Filter → Filter
  | .range field bounds => .range field (f bounds)
  | filter => filter

mutual

/-- The number of tests of a field. -/
def leafCount : Filter → Nat
  | .term .. | .range .. | .fullText .. => 1
  | .bool must mustNot should _ => leafCounts must + leafCounts mustNot + leafCounts should

/-- The number of tests of a field in a list of filters. -/
def leafCounts : List Filter → Nat
  | [] => 0
  | filter :: rest => filter.leafCount + leafCounts rest

end

/-- The entry of a bound, if it is there. -/
def boundEntry (key : String) : Option String → List (String × Json)
  | some bound => [(key, .str bound)]
  | none => []

/-- The entry of a list of clauses, if it is not empty. -/
def clausesEntry (key : String) : List Json → List (String × Json)
  | [] => []
  | clauses => [(key, .arr clauses)]

/-- The entry of the number of clauses that have to match, if it is set. -/
def minimumEntry : Option UInt32 → List (String × Json)
  | some n => [("minimum_should_match", .ofInt n.toNat)]
  | none => []

mutual

/-- The clause that the engine reads. -/
def toJson : Filter → Json
  | .term field value => .obj [("term", .obj [(field, .obj [("value", value)])])]
  | .range field bounds =>
    .obj [("range", .obj [(field, .obj
      (boundEntry "gt" bounds.gt ++ boundEntry "gte" bounds.gte ++ boundEntry "lt" bounds.lt ++
        boundEntry "lte" bounds.lte))])]
  | .fullText field query => .obj [("match", .obj [(field, .obj [("query", .str query)])])]
  | .bool must mustNot should minimum =>
    .obj [("bool", .obj
      (minimumEntry minimum ++ clausesEntry "must" (clausesToJson must) ++
        clausesEntry "must_not" (clausesToJson mustNot) ++
        clausesEntry "should" (clausesToJson should)))]

/-- The clauses of a list of filters. -/
def clausesToJson : List Filter → List Json
  | [] => []
  | filter :: rest => filter.toJson :: clausesToJson rest

end

end Filter

end DocSearch
