import DocSearch.Engine.Request
import DocSearch.Proofs.Json.Sameness
import DocSearch.Proofs.SortedMap
import Mathlib.Logic.Function.Basic

/-!
# What the body of a search tells

The parts of a request are looked up in its body one by one, although the body leaves out what is
empty or not set.  So the body of a search determines the search, apart from the name of the index,
and a clause determines its filter: `body_lossless`.
-/

namespace DocSearch

/-! ### Optional entries -/

/-- What is made of a list, unless it is empty. -/
def unlessEmpty {α β : Type} (f : List α → β) (items : List α) : Option β :=
  if items.isEmpty then none else some (f items)

/-- A list is determined by what is made of it unless it is empty. -/
theorem unlessEmpty_inj {α β : Type} {f : List α → β} (hf : Function.Injective f)
    {items items' : List α} (h : unlessEmpty f items = unlessEmpty f items') :
  items = items'
  := by
  cases items <;> cases items' <;> simp_all [unlessEmpty, hf.eq_iff]

/-- A flag is determined by what is there only when it is set. -/
theorem eq_of_flag {α : Type} {b b' : Bool} {v : α}
    (h : (if b then some v else none) = if b' then some v else none) :
  b = b'
  := by
  cases b <;> cases b' <;> simp at h ⊢

namespace Filter

variable {key other : String}

@[simp]
theorem get?_boundEntry (bound : Option String) :
  Entries.get? key (boundEntry other bound) = if other = key then bound.map .str else none
  := by
  cases bound <;> simp [boundEntry, Entries.get?]

@[simp]
theorem get?_minimumEntry (minimum : Option UInt32) :
  Entries.get? key (minimumEntry minimum) =
    if "minimum_should_match" = key then minimum.map (fun n => .ofInt n.toNat) else none
  := by
  cases minimum <;> simp [minimumEntry, Entries.get?]

@[simp]
theorem get?_clausesEntry (clauses : List Json) :
  Entries.get? key (clausesEntry other clauses) =
    if other = key then unlessEmpty .arr clauses else none
  := by
  cases clauses <;> simp [clausesEntry, Entries.get?, unlessEmpty]

end Filter

namespace SearchRequest

variable {key other : String}

@[simp]
theorem get?_optionalEntry (v : Option Json) :
  Entries.get? key (optionalEntry other v) = if other = key then v else none
  := by
  cases v <;> simp [optionalEntry, Entries.get?]

@[simp]
theorem get?_includesEntry (fields : List String) :
  Entries.get? key (includesEntry fields) =
    if "_source" = key then
      unlessEmpty (fun fields => .obj [("includes", .ofStrings fields)]) fields
    else none
  := by
  cases fields <;> simp [includesEntry, Entries.get?, unlessEmpty]

@[simp]
theorem get?_sortEntry (keys : List SortKey) :
  Entries.get? key (sortEntry keys) =
    if "sort" = key then unlessEmpty (fun keys => .arr (keys.map SortKey.toJson)) keys else none
  := by
  cases keys <;> simp [sortEntry, Entries.get?, unlessEmpty]

@[simp]
theorem get?_trackEntry (trackTotal : Bool) :
  Entries.get? key (if trackTotal then [("track_total_hits", Json.bool true)] else []) =
    if "track_total_hits" = key then (if trackTotal then some (.bool true) else none) else none
  := by
  cases trackTotal <;> simp [Entries.get?]

end SearchRequest

/-! ### Parts that determine themselves -/

theorem Json.ofInt_injective :
  Function.Injective Json.ofInt
  := by
  intro m n h
  exact Num.int.inj (Json.num.inj h)

theorem Json.ofUInt32_injective :
  Function.Injective fun n : UInt32 => Json.ofInt n.toNat
  := by
  intro m n h
  exact UInt32.toNat_inj.mp (Int.ofNat.inj (Json.ofInt_injective h))

theorem Json.ofUInt64_injective :
  Function.Injective fun n : UInt64 => Json.ofInt n.toNat
  := by
  intro m n h
  exact UInt64.toNat_inj.mp (Int.ofNat.inj (Json.ofInt_injective h))

theorem Json.str_injective :
  Function.Injective Json.str
  := fun _ _ h => Json.str.inj h

theorem Json.arr_injective :
  Function.Injective Json.arr
  := fun _ _ h => Json.arr.inj h

theorem Json.ofStrings_injective :
  Function.Injective Json.ofStrings
  := Json.arr_injective.comp (List.map_injective_iff.mpr Json.str_injective)

theorem Direction.name_injective :
  Function.Injective Direction.name
  := by
  intro d d' h
  cases d <;> cases d' <;> simp [name] at h ⊢

theorem SortKey.toJson_injective :
  Function.Injective SortKey.toJson
  := by
  rintro ⟨field, direction⟩ ⟨field', direction'⟩ h
  simp only [SortKey.toJson, Json.obj.injEq, List.cons.injEq, Prod.mk.injEq, Json.str.injEq,
    and_true, true_and] at h
  rw [h.1, Direction.name_injective h.2]

/-- The clause of a list of sort keys determines them. -/
theorem SearchRequest.keys_injective :
  Function.Injective fun keys : List SortKey => Json.arr (keys.map SortKey.toJson)
  := Json.arr_injective.comp (List.map_injective_iff.mpr SortKey.toJson_injective)

/-- The clause of a list of fields that are returned determines them. -/
theorem SearchRequest.fields_injective :
  Function.Injective fun fields : List String => Json.obj [("includes", .ofStrings fields)]
  := by
  intro fields fields' h
  simpa [Json.ofStrings_injective.eq_iff] using h

theorem Aggregation.Spec.toJson_injective :
  Function.Injective Aggregation.Spec.toJson
  := by
  rintro ⟨⟨entries, hsorted⟩⟩ ⟨⟨entries', hsorted'⟩⟩ h
  obtain rfl := Json.obj.inj h
  rfl

/-! ### Filters -/

namespace Filter

/-- The entries of a range. -/
def boundEntries (bounds : Bounds) : Entries Json :=
  boundEntry "gt" bounds.gt ++ boundEntry "gte" bounds.gte ++ boundEntry "lt" bounds.lt ++
    boundEntry "lte" bounds.lte

/-- The entries of a combination. -/
def boolEntries (minimum : Option UInt32) (must mustNot should : List Json) : Entries Json :=
  minimumEntry minimum ++ clausesEntry "must" must ++ clausesEntry "must_not" mustNot ++
    clausesEntry "should" should

/-- The bounds of a range are determined by its entries. -/
theorem bounds_eq_of_entries {b b' : Bounds} (h : boundEntries b = boundEntries b') :
  b = b'
  := by
  have hgt : b.gt = b'.gt := by
    apply Option.map_injective Json.str_injective
    simpa [boundEntries, Entries.get?_append] using congrArg (Entries.get? "gt") h
  have hgte : b.gte = b'.gte := by
    apply Option.map_injective Json.str_injective
    simpa [boundEntries, Entries.get?_append] using congrArg (Entries.get? "gte") h
  have hlt : b.lt = b'.lt := by
    apply Option.map_injective Json.str_injective
    simpa [boundEntries, Entries.get?_append] using congrArg (Entries.get? "lt") h
  have hlte : b.lte = b'.lte := by
    apply Option.map_injective Json.str_injective
    simpa [boundEntries, Entries.get?_append] using congrArg (Entries.get? "lte") h
  cases b
  cases b'
  rw [Bounds.mk.injEq]
  exact ⟨hgt, hgte, hlt, hlte⟩

/-- The parts of a combination are determined by its entries. -/
theorem parts_eq_of_entries {minimum minimum' : Option UInt32}
    {must must' mustNot mustNot' should should' : List Json}
    (h : boolEntries minimum must mustNot should = boolEntries minimum' must' mustNot' should') :
  minimum = minimum' ∧ must = must' ∧ mustNot = mustNot' ∧ should = should'
  := by
  constructor
  · apply Option.map_injective Json.ofUInt32_injective
    simpa [boolEntries, Entries.get?_append] using
      congrArg (Entries.get? "minimum_should_match") h
  refine ⟨?_, ?_, ?_⟩ <;> apply unlessEmpty_inj Json.arr_injective
  · simpa [boolEntries, Entries.get?_append] using congrArg (Entries.get? "must") h
  · simpa [boolEntries, Entries.get?_append] using congrArg (Entries.get? "must_not") h
  · simpa [boolEntries, Entries.get?_append] using congrArg (Entries.get? "should") h

mutual

/-- A filter is determined by its clause. -/
theorem eq_of_toJson : (f g : Filter) → f.toJson = g.toJson → f = g
  | .term field value, g, h => by
      cases g <;> simp_all [toJson]
  | .range field bounds, g, h => by
      cases g with
      | range field' bounds' =>
          simp only [toJson, Json.obj.injEq, List.cons.injEq, Prod.mk.injEq, and_true,
            true_and] at h
          rw [h.1, bounds_eq_of_entries h.2]
      | _ => simp [toJson] at h
  | .fullText field query, g, h => by
      cases g <;> simp_all [toJson]
  | .bool must mustNot should minimum, g, h => by
      cases g with
      | bool must' mustNot' should' minimum' =>
          simp only [toJson, Json.obj.injEq, List.cons.injEq, Prod.mk.injEq, and_true,
            true_and] at h
          obtain ⟨rfl, hmust, hmustNot, hshould⟩ := parts_eq_of_entries h
          rw [eq_of_clausesToJson must must' hmust,
            eq_of_clausesToJson mustNot mustNot' hmustNot,
            eq_of_clausesToJson should should' hshould]
      | _ => simp [toJson] at h

/-- A list of filters is determined by their clauses. -/
theorem eq_of_clausesToJson :
    (fs gs : List Filter) → clausesToJson fs = clausesToJson gs → fs = gs
  | [], [], _ => rfl
  | [], _ :: _, h | _ :: _, [], h => by simp [clausesToJson] at h
  | f :: fs, g :: gs, h => by
      obtain ⟨hhead, htail⟩ := List.cons.inj h
      rw [eq_of_toJson f g hhead, eq_of_clausesToJson fs gs htail]

end

end Filter

/-! ### The sign of zero -/

namespace Json

theorem unsignedEntries_append (entries entries' : List (String × Json)) :
  unsignedEntries (entries ++ entries') = unsignedEntries entries ++ unsignedEntries entries'
  := by
  simp only [unsignedEntries_eq_map, List.map_append]

end Json

/-- The aggregations with every negative zero replaced by zero. -/
def Aggregation.Spec.unsigned (spec : Aggregation.Spec) : Aggregation.Spec :=
  ⟨spec.clauses.mapEntries fun _ clause => clause.unsigned⟩

theorem Aggregation.Spec.toJson_unsigned (spec : Aggregation.Spec) :
  spec.unsigned.toJson = spec.toJson.unsigned
  := by
  rw [toJson, toJson, Json.unsigned, Json.unsignedEntries_eq_map]
  rfl

namespace Filter

mutual

/-- The filter with every negative zero replaced by zero. -/
def unsigned : Filter → Filter
  | .term field value => .term field value.unsigned
  | .bool must mustNot should minimum =>
    .bool (unsignedAll must) (unsignedAll mustNot) (unsignedAll should) minimum
  | filter => filter

/-- `unsigned` on every filter of a list. -/
def unsignedAll : List Filter → List Filter
  | [] => []
  | filter :: rest => filter.unsigned :: unsignedAll rest

end

@[simp]
theorem unsignedEntries_boundEntry (key : String) (bound : Option String) :
  Json.unsignedEntries (boundEntry key bound) = boundEntry key bound
  := by
  cases bound <;> rfl

@[simp]
theorem unsignedEntries_minimumEntry (minimum : Option UInt32) :
  Json.unsignedEntries (minimumEntry minimum) = minimumEntry minimum
  := by
  cases minimum <;> rfl

@[simp]
theorem unsignedEntries_clausesEntry (key : String) (clauses : List Json) :
  Json.unsignedEntries (clausesEntry key clauses) = clausesEntry key (Json.unsignedItems clauses)
  := by
  cases clauses <;> rfl

mutual

/-- The clause of a filter and the filter have their zeros in the same places. -/
theorem toJson_unsigned : (f : Filter) → f.unsigned.toJson = f.toJson.unsigned
  | .term field value => rfl
  | .range field bounds => by
      simp [unsigned, toJson, Json.unsigned, Json.unsignedEntries, Json.unsignedEntries_append]
  | .fullText field query => rfl
  | .bool must mustNot should minimum => by
      simp [unsigned, toJson, Json.unsigned, Json.unsignedEntries, Json.unsignedEntries_append,
        clausesToJson_unsignedAll]

theorem clausesToJson_unsignedAll :
    (fs : List Filter) → clausesToJson (unsignedAll fs) = Json.unsignedItems (clausesToJson fs)
  | [] => rfl
  | f :: fs => by
      rw [unsignedAll, clausesToJson, clausesToJson, Json.unsignedItems, toJson_unsigned f,
        clausesToJson_unsignedAll fs]

end

end Filter

/-! ### Requests -/

namespace SearchRequest

/-- A request is determined by its body and the name of its index. -/
theorem eq_of_toJson {r r' : SearchRequest} (hindex : r.index = r'.index)
    (h : r.toJson = r'.toJson) :
  r = r'
  := by
  have hincludes : r.includes = r'.includes := by
    apply unlessEmpty_inj fields_injective
    simpa [toJson, Json.get?, Entries.get?_append] using congrArg (Json.get? "_source") h
  have haggregations : r.aggregations = r'.aggregations := by
    apply Option.map_injective Aggregation.Spec.toJson_injective
    simpa [toJson, Json.get?, Entries.get?_append] using congrArg (Json.get? "aggs") h
  have hoffset : r.offset = r'.offset := by
    apply Option.map_injective Json.ofUInt64_injective
    simpa [toJson, Json.get?, Entries.get?_append] using congrArg (Json.get? "from") h
  have hquery : r.query = r'.query := by
    apply Option.map_injective Filter.eq_of_toJson
    simpa [toJson, Json.get?, Entries.get?_append] using congrArg (Json.get? "query") h
  have hsize : r.size = r'.size := by
    apply Option.map_injective Json.ofUInt64_injective
    simpa [toJson, Json.get?, Entries.get?_append] using congrArg (Json.get? "size") h
  have hsort : r.sort = r'.sort := by
    apply unlessEmpty_inj keys_injective
    simpa [toJson, Json.get?, Entries.get?_append] using congrArg (Json.get? "sort") h
  have htrack : r.trackTotal = r'.trackTotal := by
    apply eq_of_flag (v := Json.bool true)
    simpa [toJson, Json.get?, Entries.get?_append] using congrArg (Json.get? "track_total_hits") h
  cases r
  cases r'
  rw [SearchRequest.mk.injEq]
  exact ⟨hindex, hquery, hoffset, hsize, hsort, hincludes, htrack, haggregations⟩

/-- The request with every negative zero replaced by zero. -/
def unsigned (r : SearchRequest) : SearchRequest :=
  { r with query := r.query.map Filter.unsigned,
           aggregations := r.aggregations.map Aggregation.Spec.unsigned }

theorem unsignedEntries_optionalEntry (key : String) (v : Option Json) :
  Json.unsignedEntries (optionalEntry key v) = optionalEntry key (v.map Json.unsigned)
  := by
  cases v <;> rfl

theorem unsignedEntries_includesEntry (fields : List String) :
  Json.unsignedEntries (includesEntry fields) = includesEntry fields
  := by
  cases fields with
  | nil => rfl
  | cons field rest =>
      simp [includesEntry, Json.unsignedEntries, Json.unsigned, Json.ofStrings,
        Json.unsignedItems_eq_map]

theorem unsignedEntries_sortEntry (keys : List SortKey) :
  Json.unsignedEntries (sortEntry keys) = sortEntry keys
  := by
  cases keys with
  | nil => rfl
  | cons key rest =>
      simp [sortEntry, Json.unsignedEntries, Json.unsigned, Json.unsignedItems_eq_map,
        SortKey.toJson]

/-- The body of a request and the request have their zeros in the same places. -/
theorem toJson_unsigned (r : SearchRequest) :
  r.unsigned.toJson = r.toJson.unsigned
  := by
  have hnat (n : Nat) : (Json.ofInt n).unsigned = Json.ofInt n := rfl
  have htrack : Json.unsignedEntries
      (if r.trackTotal then [("track_total_hits", Json.bool true)] else []) =
        if r.trackTotal then [("track_total_hits", Json.bool true)] else [] := by
    cases r.trackTotal <;> rfl
  simp only [toJson, unsigned, Json.unsigned, Json.unsignedEntries_append,
    unsignedEntries_includesEntry, unsignedEntries_optionalEntry, unsignedEntries_sortEntry, htrack,
    Option.map_map, Function.comp_def, hnat, Filter.toJson_unsigned,
    Aggregation.Spec.toJson_unsigned]
  rfl

end SearchRequest

/-- A request is determined by the name of its index and its body.  Up to the sign of zero, too, it
is determined by them up to the sign of zero, and a filter is determined by its clause. -/
theorem body_lossless (r r' : SearchRequest) :
  (r.index = r'.index ∧ r.toJson = r'.toJson ↔ r = r') ∧
  (r.index = r'.index ∧ r.toJson.same r'.toJson = true ↔ r.unsigned = r'.unsigned) ∧
  Function.Injective Filter.toJson
  := by
  refine ⟨⟨?_, ?_⟩, ⟨?_, ?_⟩, Filter.eq_of_toJson⟩
  · rintro ⟨hindex, hbody⟩
    exact SearchRequest.eq_of_toJson hindex hbody
  · rintro rfl
    exact ⟨rfl, rfl⟩
  · rintro ⟨hindex, hbody⟩
    rw [Json.same_iff_unsigned, ← SearchRequest.toJson_unsigned, ← SearchRequest.toJson_unsigned]
      at hbody
    exact SearchRequest.eq_of_toJson hindex hbody
  · intro h
    rw [Json.same_iff_unsigned, ← SearchRequest.toJson_unsigned, ← SearchRequest.toJson_unsigned, h]
    have hindex := congrArg SearchRequest.index h
    exact ⟨hindex, rfl⟩

end DocSearch
