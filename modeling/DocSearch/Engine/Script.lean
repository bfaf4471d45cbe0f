import DocSearch.Engine.Fault
import DocSearch.Engine.Request

/-!
# A scripted engine

`Script` is an engine that answers from a list prepared in advance and records the calls made on it.
-/

namespace DocSearch

/-- A call on an engine; a search is awaited in place or left to answer later. -/
inductive Call where
  | search (blocking : Bool) (request : SearchRequest)
  | write (request : WriteRequest)

/-- What a scripted engine does on one call: it cancels a token, and then it fails, stays silent
when the call can be left to answer later, or replies. -/
structure Cue where
  cancels : Option String
  fault : Option Fault
  silent : Bool
  reply : SearchResponse

/-- A cue lets a call that can be left to answer later have no answer. -/
def Cue.isSilence (cue : Cue) : Bool := cue.silent && cue.fault.isNone

/-- A scripted engine: the cues for the next calls, and the calls so far. -/
structure Script where
  cues : List Cue
  calls : List Call

namespace Script

/-- The fault of a call for which nothing is prepared. -/
def exhausted : Fault := .protocol "script exhausted"

/-- Record a call and take the cue for it. -/
def take (s : Script) (call : Call) : Option Cue × Script :=
  (s.cues.head?, ⟨s.cues.tail, s.calls ++ [call]⟩)

end Script

end DocSearch
