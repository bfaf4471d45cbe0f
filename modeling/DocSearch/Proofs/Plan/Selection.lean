import DocSearch.Proofs.Plan.Unwinding
import DocSearch.Proofs.Predicate.Meaning

/-!
# The documents that a plan selects

The filter of a plan accepts a document exactly when the filters of all predicates of the query do
(`Plan.Describes.accepts_iff`), so exactly when every predicate holds of it (`accepts_iff_holds`).
-/

namespace DocSearch

/-- A document matches one filter for several when it matches each of them. -/
theorem acceptsAll_conjunction_iff {document : Json} {filters : List Filter} :
  Filter.acceptsAll document (conjunction filters) = true
    ↔ ∀ filter ∈ filters, filter.accepts document = true
  := by
  match filters with
  | [] => simp [conjunction, Filter.acceptsAll]
  | [filter] => simp [conjunction, Filter.acceptsAll]
  | first :: second :: rest =>
      apply Filter.accepts_must_iff

/-- When the filter of every predicate accepts a document exactly if the predicate is true of it in
some sense, the filter of a plan accepts it exactly if every predicate of the query is. -/
theorem Plan.Describes.accepts_iff {plan : Plan} {q : Query} (h : plan.Describes q)
    {document : Json} {Satisfied : Predicate → Prop}
    (hsatisfied : ∀ p filter, p.compile = .ok filter →
      (filter.accepts document = true ↔ Satisfied p)) :
  Filter.acceptsAll document plan.filter = true ↔ ∀ p ∈ q.predicates, Satisfied p
  := by
  obtain ⟨filters, hfilters, hplan⟩ := h.filter
  rw [hplan, acceptsAll_conjunction_iff]
  clear hplan
  generalize q.predicates = predicates at hfilters
  induction hfilters with
  | nil => simp
  | cons hp _ ih => simp [hsatisfied _ _ hp, ih]

/-- A document matches the filter of a predicate exactly when the predicate holds of it, and the
filter of a query exactly when every predicate of the query holds of it. -/
theorem accepts_iff_holds :
  (∀ (p : Predicate) (filter : Filter) (document : Json), p.compile = .ok filter →
    (Filter.acceptsAll document (some filter) = true ↔ p.Holds document)) ∧
  ∀ (q : Query) (plan : Plan) (document : Json), q.plan = .ok plan →
    (Filter.acceptsAll document plan.filter = true ↔ ∀ p ∈ q.predicates, p.Holds document)
  := by
  constructor
  · intro p filter document h
    apply Predicate.accepts_of_compile h
  · intro q plan document h
    apply (Query.plan_describes h).accepts_iff
    intro p filter hp
    apply Predicate.accepts_of_compile hp

/-- Two documents with the integer 1 among their tags, which equals the binary64 number 1, and a text
in an inner field, which stands in every order to null.  They differ in their titles: the first one
has the word that is looked for, in the lower case that a capital sigma has at the end of a word,
while the second one has it within a longer word, and with the other lower-case sigma. -/
theorem accepts_iff_holds_of_shared_word :
  let p : Predicate := .or (.not (.fieldIs "tags" .eq (.num (.float (.ofInt 1)))))
    (.contains ⟨"title"⟩ (.str "A ΟΔΟΣ"))
  let q : Query := (Query.source.filter p).filter (.fieldIs "at.city" .gt .null)
  let titled (title : String) : Json := .obj [("at", .obj [("city", .str "Oslo")]),
    ("tags", .arr [.null, .num (.int 1)]), ("title", .str title)]
  ∃ filter plan, p.compile = .ok filter ∧ q.plan = .ok plan ∧
    p.Holds (titled "1, οδος") ∧ ¬ p.Holds (titled "παροδος, οδοσ") ∧
    (∀ r ∈ q.predicates, r.Holds (titled "1, οδος")) ∧
    ¬ ∀ r ∈ q.predicates, r.Holds (titled "παροδος, οδοσ")
  := by
  intro p q titled
  use .should [.mustNot (.term "tags" (.num (.float (.ofInt 1)))), .fullText "title" "A ΟΔΟΣ"]
  refine ⟨_, rfl, rfl, (accepts_iff_holds.1 p _ _ rfl).mp ?_, ?_,
    (accepts_iff_holds.2 q _ _ rfl).mp ?_, ?_⟩
  · decide +kernel
  · rw [← accepts_iff_holds.1 p _ _ rfl]
    decide +kernel
  · decide +kernel
  · rw [← accepts_iff_holds.2 q _ _ rfl]
    decide +kernel

end DocSearch
