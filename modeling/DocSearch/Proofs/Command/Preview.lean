import DocSearch.Proofs.Command.Loading
import DocSearch.Proofs.Provider.Sending

/-!
# Previews of requests

The request that a command shows for a query is the one that a query of documents executes, and
both commands fail alike.  In the engine that holds the documents nothing else can fail: the index
is there, even when there are no documents, and every document can be read:
`query_executes_shown_request`.
-/

namespace DocSearch.Command

/-- A query is executed as a request on the engine in which documents are loaded: the engine
receives the request, answers with what it finds, and the query comes to an output. -/
structure Executes (p : Provider Json) (q : Query) (rows : List (String × Json))
    (request : SearchRequest) (output : Output Json) (s' : Session) : Prop where
  execute : p.execute q none (.start (.memory (loadedEngine p rows))) = (.ok output, s')
  receives : (Engine.memory (loadedEngine p rows)).Receives request s'.engine
  answer : ∃ found, ((loadedEngine p rows).search request).1 = .ok (.hits found)

variable {files : Files} {queryPath dataPath index : String} {config : Config} {q : Query}
  {plan : Plan} {reason : Rejection} {rows : List (String × Json)}

/-- A query with a plan comes to an output when the engine has the index: every document is read as
it is. -/
theorem exists_execute_eq {name : String} {s : Session} {m : Memory} {stored : Index}
    (hplan : q.plan = .ok plan) (hengine : s.engine = .memory m) (h : m.Serves name stored) :
  ∃ output s', Provider.execute ⟨name, some⟩ q none s = (.ok output, s')
  := by
  cases hcount : plan.countOnly with
  | true =>
      obtain ⟨s', hexecute⟩ :=
        Provider.execute_count (p := ⟨name, some⟩) hplan hcount hengine h
      exact ⟨_, s', hexecute⟩
  | false =>
      obtain ⟨s', m', hexecute, -, -⟩ :=
        Provider.execute_documents (p := ⟨name, some⟩) hplan hcount hengine h (mapM_some _)
      exact ⟨_, s', hexecute⟩

/-- The engine in which documents are loaded answers the request for a plan with what it finds. -/
theorem exists_answer_eq (p : Provider Json) (plan : Plan) (rows : List (String × Json)) :
  ∃ found, ((loadedEngine p rows).search (p.request plan none)).1 = .ok (.hits found)
  := by
  have hserves :
      (loadedEngine p rows).Serves (p.request plan none).index (Index.ofList rows) := by
    rw [Provider.request_index]
    apply serves_loadedEngine
  obtain ⟨m', hsearch, -⟩ := Memory.search_of_serves hserves Provider.request_aggregations
  exact ⟨_, congrArg Prod.fst hsearch⟩

/-- A query with a plan is executed as the request for its plan. -/
theorem exists_executes (index : String) (config : Config) (rows : List (String × Json))
    (hplan : q.plan = .ok plan) :
  ∃ output s', Executes (provider config index) q rows
    ((provider config index).request plan none) output s'
  := by
  let p := provider config index
  let s : Session := .start (.memory (loadedEngine p rows))
  obtain ⟨output, s', hexecute⟩ : ∃ output s', p.execute q none s = (.ok output, s') :=
    exists_execute_eq hplan rfl (serves_loadedEngine p rows)
  have hreceives : s.engine.Receives (p.request plan none) (p.execute q none s).2.engine :=
    Provider.receives_execute hplan
  rw [hexecute] at hreceives
  use output, s'
  constructor
  case execute => exact hexecute
  case receives => exact hreceives
  case answer => exact exists_answer_eq p plan rows

/-- The request for the plan of a query is shown for it. -/
theorem translate_of_plan (hquery : readFile files queryPath Query.ofText? = .ok q)
    (hplan : q.plan = .ok plan) :
  (translate files queryPath index config).1 =
    .ok (requestToJson ((provider config index).request plan none))
  := by
  have hrequest : ((provider config index).requestFor q none none (.start (.memory .empty))).1 =
      .ok ((provider config index).request plan none) := by
    rw [Provider.requestFor_of_plan hplan, ← Provider.request_aggregations]
  simp only [translate, hquery, hrequest]
  rfl

/-- No request is shown for a query that is rejected. -/
theorem translate_of_rejection (hquery : readFile files queryPath Query.ofText? = .ok q)
    (hplan : q.plan = .error reason) :
  (translate files queryPath index config).1 = .error (.query (.rejected reason))
  := by
  have hrejects : (provider config index).Rejects q none "" (.start (.memory .empty)) reason _ :=
    Provider.rejects_of_plan hplan
  simp only [translate, hquery, hrejects.requestFor]
  rfl

/-- A query that is rejected fails on all documents. -/
theorem query_of_rejection (hinput : readInput files queryPath dataPath = .ok (q, rows))
    (hplan : q.plan = .error reason) :
  (query files queryPath dataPath index config).1 = .error (.query (.rejected reason))
  := by
  have hrejects : (provider config index).Rejects q none ""
      (.start (.memory (loadedEngine (provider config index) rows))) reason _ :=
    Provider.rejects_of_plan hplan
  rw [query_of_execute hinput hrejects.execute]
  rfl

/-- When the file of a query can be read, and the other file has an array of objects, a query of the
documents fails exactly when the request for the query cannot be shown, with the same error.
Otherwise the request that is shown is the one that is executed, and what the engine finds is the
answer. -/
theorem query_executes_shown_request (index : String) (config : Config) {documents : List Json}
    (hquery : readFile files queryPath Query.ofText? = .ok q)
    (hdata : readFile files dataPath parseDocuments? = .ok documents)
    (hobjects : ∀ document ∈ documents, document.isObject = true) :
  (∀ e, (query files queryPath dataPath index config).1 = .error e ↔
    (translate files queryPath index config).1 = .error e) ∧
  ∀ shown, (translate files queryPath index config).1 = .ok shown →
    ∃ rows request output s', keyedDocuments documents = .ok rows ∧
      Executes (provider config index) q rows request output s' ∧
      query files queryPath dataPath index config = (.ok (outputToJson output), s'.log) ∧
      shown = requestToJson request
  := by
  obtain ⟨rows, hkeyed, -, -⟩ := exists_keyedFrom_eq hobjects 0
  have hinput := readInput_eq hquery hdata hkeyed
  cases hplan : q.plan with
  | error reason =>
      rw [translate_of_rejection hquery hplan, query_of_rejection hinput hplan]
      constructor
      · intro e
        rfl
      · intro shown hshown
        cases hshown
  | ok plan =>
      obtain ⟨output, s', hexecutes⟩ := exists_executes index config rows hplan
      have hresult := query_of_execute hinput hexecutes.execute
      rw [translate_of_plan hquery hplan]
      constructor
      · intro e
        rw [hresult]
        constructor
        · intro h
          cases h
        · intro h
          cases h
      · intro shown hshown
        exact ⟨rows, _, output, s', hkeyed, hexecutes, hresult, (Except.ok.inj hshown).symm⟩

/-- A query of no documents at all and of one, with a prefix of indexes, and a query that is
rejected. -/
theorem query_executes_shown_request_of_no_documents :
  let files : Files := fun path =>
    if path = "two.json" then
      .ok "\x7b\"op\": \"take\", \"count\": 2, \"source\": \x7b\"op\": \"source\"\x7d\x7d"
    else if path = "negative.json" then
      .ok "\x7b\"op\": \"take\", \"count\": -1, \"source\": \x7b\"op\": \"source\"\x7d\x7d"
    else if path = "none.json" then .ok "[]"
    else .ok "[\x7b\"id\": 1\x7d]"
  let config : Config := ⟨"dev-", .empty, "info"⟩
  let q : Query := Query.source.take 2
  let documents : List Json := [.obj [("id", .num (.int 1))]]
  let executed (dataPath : String) : Prop := ∃ rows request output s',
    Executes (provider config "docs") q rows request output s' ∧
    query files "two.json" dataPath "docs" config = (.ok (outputToJson output), s'.log) ∧
    requestToJson request = .obj [("body", .obj [("size", .ofInt 2)]), ("index", .str "dev-docs")]
  let rejected : CommandError := .query (.rejected (.negativeCount .take (-1)))
  readFile files "two.json" Query.ofText? = .ok q ∧
  readFile files "negative.json" Query.ofText? = .ok (Query.source.take (-1)) ∧
  readFile files "none.json" parseDocuments? = .ok [] ∧
  readFile files "one.json" parseDocuments? = .ok documents ∧
  (∀ document ∈ documents, document.isObject = true) ∧
  executed "none.json" ∧ executed "one.json" ∧
  (query files "negative.json" "one.json" "docs" config).1 = .error rejected
  := by
  intro files config q documents executed rejected
  have hquery : readFile files "two.json" Query.ofText? = .ok q := by decide +kernel
  have hnegative : readFile files "negative.json" Query.ofText? = .ok (Query.source.take (-1)) := by
    decide +kernel
  have hnone : readFile files "none.json" parseDocuments? = .ok [] := by decide +kernel
  have hone : readFile files "one.json" parseDocuments? = .ok documents := by decide +kernel
  have hobjects : ∀ document ∈ documents, document.isObject = true := by decide
  have hshown : (translate files "two.json" "docs" config).1 =
      .ok (.obj [("body", .obj [("size", .ofInt 2)]), ("index", .str "dev-docs")]) := by
    decide +kernel
  have hrejected : (translate files "negative.json" "docs" config).1 = .error rejected := by
    decide +kernel
  refine ⟨hquery, hnegative, hnone, hone, hobjects, ?_, ?_, ?_⟩
  · obtain ⟨-, hexecutes⟩ :=
      query_executes_shown_request "docs" config hquery hnone (List.forall_mem_nil _)
    obtain ⟨rows, request, output, s', -, hexecute, hresult, hrequest⟩ := hexecutes _ hshown
    exact ⟨rows, request, output, s', hexecute, hresult, hrequest.symm⟩
  · obtain ⟨-, hexecutes⟩ := query_executes_shown_request "docs" config hquery hone hobjects
    obtain ⟨rows, request, output, s', -, hexecute, hresult, hrequest⟩ := hexecutes _ hshown
    exact ⟨rows, request, output, s', hexecute, hresult, hrequest.symm⟩
  · obtain ⟨hfails, -⟩ := query_executes_shown_request "docs" config hnegative hone hobjects
    exact (hfails rejected).mpr hrejected

end DocSearch.Command
