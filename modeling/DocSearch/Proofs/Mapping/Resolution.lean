import DocSearch.Config
import DocSearch.Proofs.SortedMap

/-!
# How the index of a kind is resolved

`MappingCall` lists what can be done to the builder of a mapping, and `MappingBuilder.run` does many
of them one after the other.  The last registration of a kind, the last prefix and the last
configuration count, each by itself and wherever it stands: `mapping_resolution`.
-/

namespace DocSearch

/-- What can be done to the builder of a mapping: to register a kind with its name in lower case or
with another one as its index, to set the prefix of all names, and to put in a configuration. -/
inductive MappingCall where
  | register (kind : String)
  | registerAs (kind index : String)
  | withPrefix (indexPrefix : String)
  | withConfig (config : Config)

namespace MappingCall

/-- The builder after a call. -/
def perform : MappingCall → MappingBuilder → MappingBuilder
  | register kind, b => b.register kind
  | registerAs kind index, b => b.registerAs kind index
  | withPrefix indexPrefix, b => b.withPrefix indexPrefix
  | withConfig config, b => config.apply b

/-- The index that a call registers for a kind. -/
def index? (kind : String) : MappingCall → Option String
  | register other => if other = kind then some (Text.lowercase other) else none
  | registerAs other index => if other = kind then some index else none
  | _ => none

/-- The prefix that a call sets. -/
def prefix? : MappingCall → Option String
  | withPrefix indexPrefix => some indexPrefix
  | withConfig config => some config.indexPrefix
  | _ => none

/-- The configuration that a call puts in. -/
def config? : MappingCall → Option Config
  | withConfig config => some config
  | _ => none

/-- A call registers a kind. -/
def Registers (call : MappingCall) (kind : String) : Prop := (call.index? kind).isSome = true

instance (call : MappingCall) (kind : String) : Decidable (call.Registers kind) :=
  inferInstanceAs (Decidable ((call.index? kind).isSome = true))

/-! ### The calls that count -/

variable {α : Type} {calls before after : List MappingCall} {call other : MappingCall}
  {f : MappingCall → Option α} {kind : String}

/-- What the last of those calls sets that set something. -/
def last? (f : MappingCall → Option α) (calls : List MappingCall) : Option α :=
  calls.reverse.findSome? f

theorem last?_append :
  last? f (before ++ after) = (last? f after).or (last? f before)
  := by
  rw [last?, List.reverse_append, List.findSome?_append, last?, last?]

theorem last?_cons :
  last? f (call :: after) = (last? f after).or (f call)
  := by
  rw [last?, List.reverse_cons, List.findSome?_append, List.findSome?_singleton, last?]

/-- Something is set in the end when a call sets it. -/
theorem last?_isSome_iff :
  (last? f calls).isSome = true ↔ ∃ call ∈ calls, (f call).isSome = true
  := by
  rw [last?, List.findSome?_isSome_iff]
  simp only [List.mem_reverse]

/-- A kind has an index in the end when a call registers it. -/
theorem isSome_last?_index_iff :
  (last? (index? kind) calls).isSome = true ↔ ∃ call ∈ calls, call.Registers kind
  := last?_isSome_iff

/-- What a call sets is set in the end when no later call sets it. -/
theorem last?_of_later (hlater : ∀ later ∈ after, f later = none) :
  last? f (before ++ call :: after) = (f call).or (last? f before)
  := by
  have hnone : last? f after = none := by
    rw [last?, List.findSome?_eq_none_iff]
    simpa only [List.mem_reverse] using hlater
  rw [last?_append, last?_cons, hnone, Option.none_or]

/-- It does not matter which of two calls comes first when one of them does not set anything. -/
theorem last?_swap (h : f call = none ∨ f other = none) :
  last? f (before ++ other :: call :: after) = last? f (before ++ call :: other :: after)
  := by
  simp only [last?_append, last?_cons]
  rcases h with h | h
  · rw [h, Option.or_none, Option.or_none]
  · rw [h, Option.or_none, Option.or_none]

/-- A call that registers a kind sets nothing else. -/
theorem Registers.sets_nothing_else (h : call.Registers kind) :
  call.prefix? = none ∧ call.config? = none ∧ ∀ kind', kind' ≠ kind → call.index? kind' = none
  := by
  rw [Registers] at h
  cases call with
  | register name =>
      rw [index?] at h
      split at h
      case isTrue hname =>
        subst hname
        exact ⟨rfl, rfl, fun kind' hne => if_neg hne.symm⟩
      case isFalse => cases h
  | registerAs name index =>
      rw [index?] at h
      split at h
      case isTrue hname =>
        subst hname
        exact ⟨rfl, rfl, fun kind' hne => if_neg hne.symm⟩
      case isFalse => cases h
  | withPrefix indexPrefix => cases h
  | withConfig config => cases h

/-- The prefix that is set in the end; it is empty when none is set. -/
def lastPrefix (calls : List MappingCall) : String := (last? prefix? calls).getD ""

/-- The index of a kind in the configuration that is put in last. -/
def lastOverride? (kind : String) (calls : List MappingCall) : Option String :=
  (last? config? calls).bind fun config => config.indexes.get? kind

end MappingCall

namespace MappingBuilder

open MappingCall

variable {b : MappingBuilder} {before : List MappingCall}

/-- The builder after calls one by one. -/
def run (calls : List MappingCall) (b : MappingBuilder) : MappingBuilder :=
  calls.foldl (fun b call => call.perform b) b

/-- A builder holds what calls have set in the end. -/
structure Reflects (b : MappingBuilder) (calls : List MappingCall) : Prop where
  registered : ∀ kind, b.registered.get? kind = last? (index? kind) calls
  overrides : ∀ kind, b.overrides.get? kind = lastOverride? kind calls
  indexPrefix : b.indexPrefix = lastPrefix calls

theorem reflects_empty :
  empty.Reflects []
  := ⟨fun _ => rfl, fun _ => rfl, rfl⟩

/-- After one more call a builder holds what this call sets, and else what it held before. -/
theorem Reflects.perform (h : b.Reflects before) (call : MappingCall) :
  (call.perform b).Reflects (before ++ [call])
  := by
  have hlast : ∀ {α : Type} (f : MappingCall → Option α),
      last? f (before ++ [call]) = (f call).or (last? f before) :=
    fun f => last?_of_later (List.forall_mem_nil _)
  constructor
  case registered =>
    intro kind
    rw [hlast, ← h.registered]
    cases call with
    | register other =>
        rw [MappingCall.perform, register, registerAs, SortedMap.get?_insert, index?]
        split <;> rfl
    | registerAs other index =>
        rw [MappingCall.perform, registerAs, SortedMap.get?_insert, index?]
        split <;> rfl
    | withPrefix indexPrefix => rfl
    | withConfig config => rfl
  case overrides =>
    intro kind
    rw [lastOverride?, hlast]
    cases call with
    | withConfig config => rfl
    | _ => apply h.overrides
  case indexPrefix =>
    rw [lastPrefix, hlast]
    cases call with
    | withPrefix indexPrefix => rfl
    | withConfig config => rfl
    | _ => apply h.indexPrefix

/-- After more calls a builder holds what all calls have set in the end. -/
theorem Reflects.run (h : b.Reflects before) (calls : List MappingCall) :
  (b.run calls).Reflects (before ++ calls)
  := by
  induction calls generalizing b before with
  | nil =>
      rw [List.append_nil]
      apply h
  | cons call calls ih =>
      rw [List.append_cons]
      apply ih (h.perform call)

/-- A mapping has the index that the calls before it resolve a kind to. -/
theorem indexFor_build (calls : List MappingCall) (kind : String) :
  (empty.run calls).build.indexFor kind = (last? (index? kind) calls).map fun index =>
    lastPrefix calls ++ (lastOverride? kind calls).getD index
  := by
  have hreflects := reflects_empty.run calls
  rw [List.nil_append] at hreflects
  rw [Mapping.indexFor, build, SortedMap.get?_mapEntries, hreflects.registered,
    hreflects.overrides, hreflects.indexPrefix]

end MappingBuilder

namespace Config

variable {config : Config} {text : String}

/-- A configuration is read from a text that writes it, when it has no fault. -/
theorem ofText_eq_ok_iff :
  ofText text = .ok config ↔
    (Json.Tree.ofText? text).bind ofTree? = some config ∧ config.fault? = none
  := by
  rw [ofText]
  cases (Json.Tree.ofText? text).bind ofTree? with
  | none => simp
  | some c =>
      simp only [Option.some.injEq]
      split
      case h_1 fault hfault =>
        constructor
        · intro h
          cases h
        · rintro ⟨rfl, hnone⟩
          cases hfault.symm.trans hnone
      case h_2 hnone =>
        constructor
        · intro h
          obtain rfl := Except.ok.inj h
          exact ⟨rfl, hnone⟩
        · rintro ⟨rfl, -⟩
          rfl

/-- In a configuration without a fault the prefix has no blank and no character in upper case. -/
theorem plain_prefix (h : config.fault? = none) :
  hasBlank config.indexPrefix = false ∧ hasUpper config.indexPrefix = false
  := by
  rw [fault?] at h
  split at h
  case isTrue => cases h
  case isFalse hblank =>
    split at h
    case isTrue => cases h
    case isFalse hupper => exact ⟨eq_false_of_ne_true hblank, eq_false_of_ne_true hupper⟩

/-- In a configuration without a fault an index is not empty, and it has no blank and no character
in upper case. -/
theorem plain_index {kind index : String} (h : config.fault? = none)
    (hindex : config.indexes.get? kind = some index) :
  index ≠ "" ∧ hasBlank index = false ∧ hasUpper index = false
  := by
  have hmem := Entries.mem_of_get? hindex
  have hnone : indexFault? kind index = none := by
    rw [fault?] at h
    split at h
    · cases h
    · split at h
      · cases h
      · rw [List.findSome?_eq_none_iff] at h
        apply h _ hmem
  rw [indexFault?] at hnone
  split at hnone
  case isTrue => cases hnone
  case isFalse hempty =>
    split at hnone
    case isTrue => cases hnone
    case isFalse hbad =>
      constructor
      · rintro rfl
        apply hempty rfl
      · rwa [Bool.or_eq_true, not_or, Bool.not_eq_true, Bool.not_eq_true] at hbad

end Config

open MappingCall in
/-- A mapping that is built after any calls has an index for exactly the kinds that are registered:
the last prefix, followed by the index that the last configuration has for the kind, or else by the
one of the last registration of the kind.  So it does not matter whether the registration of a kind
or another call comes first, unless that registers the kind too.  When the last configuration was
read from a text and the prefix is not set after it, the index of a kind that is in it is not empty,
and it has no blank and no character in upper case. -/
theorem mapping_resolution (calls : List MappingCall) :
  let mapping := (MappingBuilder.empty.run calls).build
  (∀ kind, mapping.indexFor kind = (last? (index? kind) calls).map fun index =>
    lastPrefix calls ++ (lastOverride? kind calls).getD index) ∧
  (∀ kind, kind ∈ mapping.pairs.map (·.1) ↔ ∃ call ∈ calls, call.Registers kind) ∧
  (∀ before after registration other kind, calls = before ++ registration :: other :: after →
    registration.Registers kind → ¬ other.Registers kind →
    (MappingBuilder.empty.run (before ++ other :: registration :: after)).build = mapping) ∧
  ∀ before config after text, calls = before ++ .withConfig config :: after →
    (∀ later ∈ after, later.prefix? = none) → Config.ofText text = .ok config →
    ∀ kind index, (∃ call ∈ calls, call.Registers kind) →
      config.indexes.get? kind = some index →
      ∃ name, mapping.indexFor kind = some name ∧ name ≠ "" ∧
        ∀ c ∈ name.toList, Text.isBlank c = false ∧ Text.isUppercase c = false
  := by
  intro mapping
  have hindexFor := MappingBuilder.indexFor_build calls
  refine ⟨hindexFor, ?_, ?_, ?_⟩
  · intro kind
    have hsome : (mapping.indexFor kind).isSome = (last? (index? kind) calls).isSome := by
      rw [hindexFor, Option.isSome_map]
    rw [← isSome_last?_index_iff, ← hsome]
    apply Entries.get?_isSome_iff.symm
  · rintro before after registration other kind rfl hregisters hother
    obtain ⟨hlast, hconfig, hindex⟩ := hregisters.sets_nothing_else
    apply congrArg Mapping.mk
    apply SortedMap.ext_get?
    intro name
    have hsame : last? (index? name) (before ++ other :: registration :: after) =
        last? (index? name) (before ++ registration :: other :: after) := by
      apply last?_swap
      by_cases hname : name = kind
      · right
        rw [hname]
        apply Option.not_isSome_iff_eq_none.mp hother
      · left
        apply hindex name hname
    apply (MappingBuilder.indexFor_build _ name).trans
    rw [hsame, lastPrefix, last?_swap (Or.inl hlast), lastOverride?, last?_swap (Or.inl hconfig)]
    apply (hindexFor name).symm
  · rintro before config after text rfl hafter htext kind index hregistered hindex
    obtain ⟨-, hfault⟩ := Config.ofText_eq_ok_iff.mp htext
    obtain ⟨hne, hblank, hupper⟩ := Config.plain_index hfault hindex
    obtain ⟨hblank', hupper'⟩ := Config.plain_prefix hfault
    have hconfig : ∀ later ∈ after, later.config? = none := by
      intro later hlater
      have hnone := hafter later hlater
      cases later with
      | withConfig config => cases hnone
      | _ => rfl
    have hsome := isSome_last?_index_iff.mpr hregistered
    obtain ⟨registered, hlast⟩ := Option.isSome_iff_exists.mp hsome
    use config.indexPrefix ++ index
    refine ⟨?_, ?_, ?_⟩
    · rw [hindexFor, hlast, lastPrefix, last?_of_later hafter, lastOverride?,
        last?_of_later hconfig]
      simp only [prefix?, config?, Option.some_or, Option.bind_some, hindex, Option.map_some,
        Option.getD_some]
    · simp [hne]
    · intro c hc
      rw [String.toList_append, List.mem_append] at hc
      rw [Config.hasBlank, List.any_eq_false] at hblank hblank'
      rw [Config.hasUpper, List.any_eq_false] at hupper hupper'
      rcases hc with hc | hc
      · exact ⟨eq_false_of_ne_true (hblank' c hc), eq_false_of_ne_true (hupper' c hc)⟩
      · exact ⟨eq_false_of_ne_true (hblank c hc), eq_false_of_ne_true (hupper c hc)⟩

open MappingCall in
/-- An order is registered twice, before and after a configuration that has an index for orders and
that sets another prefix than the one before; a note is registered as well. -/
theorem mapping_resolution_of_configured :
  let text := "\x7b\"index_prefix\":\"prod-\",\"indices\":\x7b\"Order\":\"orders-v2\"\x7d\x7d"
  let config : Config := ⟨"prod-", .ofList [("Order", "orders-v2")], "info"⟩
  let note : MappingCall := .register "Note"
  let order : MappingCall := .registerAs "Order" "orders"
  let before : List MappingCall := [.withPrefix "dev-", .register "Order"]
  let calls := before ++ .withConfig config :: note :: [order]
  let mapping := (MappingBuilder.empty.run calls).build
  Config.ofText text = .ok config ∧ note.Registers "Note" ∧ ¬ order.Registers "Note" ∧
  mapping.indexFor "Note" = some "prod-note" ∧
  (MappingBuilder.empty.run (before ++ .withConfig config :: order :: [note])).build = mapping ∧
  ∃ name, mapping.indexFor "Order" = some name ∧ name ≠ "" ∧
    ∀ c ∈ name.toList, Text.isBlank c = false ∧ Text.isUppercase c = false
  := by
  intro text config note order before calls mapping
  have hfault : config.fault? = none := by decide +kernel
  have htext : Config.ofText text = .ok config :=
    Config.ofText_eq_ok_iff.mpr ⟨by decide +kernel, hfault⟩
  have hnote : note.Registers "Note" := by decide
  have horder : ¬ order.Registers "Note" := by decide
  have hafter : ∀ later ∈ [note, order], later.prefix? = none := by decide
  have hregistered : ∃ call ∈ calls, call.Registers "Order" := ⟨order, by simp [calls], by decide⟩
  obtain ⟨hindexFor, -, hswap, hplain⟩ := mapping_resolution calls
  refine ⟨htext, hnote, horder, ?_, ?_, ?_⟩
  · apply (hindexFor "Note").trans
    decide +kernel
  · apply hswap (before ++ [MappingCall.withConfig config]) [] note order "Note" rfl hnote horder
  · apply hplain before config [note, order] text rfl hafter htext "Order" "orders-v2" hregistered
    decide

end DocSearch
