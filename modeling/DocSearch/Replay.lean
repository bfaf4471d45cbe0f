import DocSearch.Mapping
import DocSearch.Provider.Search

/-!
# Replay of changes

Pending changes are sent to the engine one by one, in order.  A change that the engine refuses is
counted and the next one is sent, while a fault, a kind without an index or a cancelled token
ends the replay; what is written stays written.
-/

namespace DocSearch

/-- What a change does to its document. -/
inductive ChangeKind where
  | create
  | update
  | delete
deriving DecidableEq, Repr

namespace ChangeKind

/-- The name of a kind of change. -/
def name : ChangeKind → String
  | .create => "create"
  | .update => "update"
  | .delete => "delete"

/-- The kind of change with a name. -/
def ofName? (name : String) : Option ChangeKind :=
  [create, update, delete].find? (·.name == name)

end ChangeKind

/-- A change of an entity.  The document is the whole entity when it is created, and the entries
that change when it is updated. -/
structure Change where
  kind : ChangeKind
  entity : String
  id : String
  document : Option Json
deriving DecidableEq

namespace Change

/-- What is written for a change; a document that is left out is the empty object. -/
def write (c : Change) : Write :=
  match c.kind with
  | .create => .index (c.document.getD (.obj []))
  | .update => .update (c.document.getD (.obj []))
  | .delete => .delete

/-- The call that sends a change to an index. -/
def exchange (c : Change) (index : String) : Exchange WriteResponse :=
  .write ⟨index, c.id, c.write⟩

end Change

/-- A replay under way: the change that is sent and its index, the changes after it, and the
number of those before it that are done. -/
structure PendingReplay where
  change : Change
  index : String
  rest : List Change
  applied : Nat
  wait : Wait

/-- A replay that has an outcome, the number of changes that are done, or is under way. -/
abbrev ReplayProgress := Progress PendingReplay (Except QueryError Nat)

namespace Session

/-- Count a change that is answered, on record. -/
def countChange (s : Session) (c : Change) (index : String) : WriteResponse → Session
  | .done =>
    (s.tally fun n => { n with changesApplied := n.changesApplied + 1 }).record .changeApplied
      [("id", c.id), ("index", index), ("kind", c.kind.name)]
  | .invalid diagnostic =>
    (s.tally fun n => { n with changesRejected := n.changesRejected + 1 }).record .changeRejected
      [("diagnostic", diagnostic), ("id", c.id), ("index", index), ("kind", c.kind.name)]

end Session

/-- The number of changes that an answer adds to those done. -/
def WriteResponse.applied : WriteResponse → Nat
  | .done => 1
  | .invalid _ => 0

namespace Mapping

/-- Replay changes with a token, where `applied` changes of `total` are done. -/
def replayFrom (m : Mapping) (token : String) (total : Nat) :
    List Change → Nat → Session → ReplayProgress × Session
  | [], applied, s =>
    (.finished (.ok applied),
      s.record .replayComplete [("applied", toString applied), ("total", toString total)])
  | c :: rest, applied, s =>
    if s.isCancelled token then (.finished (.error .cancelled), s)
    else
      match m.indexFor c.entity with
      | none => (.finished (.error (.unmapped c.entity)), s)
      | some index =>
        match s.submit (c.exchange index) token with
        | (.waiting wait, s) => (.waiting ⟨c, index, rest, applied, wait⟩, s)
        | (.finished (.error e), s) => (.finished (.error e), s)
        | (.finished (.ok response), s) =>
          replayFrom m token total rest (applied + response.applied)
            (s.countChange c index response)

/-- Begin to replay changes with a token. -/
def beginReplay (m : Mapping) (token : String) (changes : List Change) (s : Session) :
    ReplayProgress × Session :=
  m.replayFrom token changes.length changes 0 s

/-- Resume a replay of `total` changes that waits. -/
def resumeReplay (m : Mapping) (token : String) (total : Nat) (pending : PendingReplay)
    (elapsed : Bool) (s : Session) : ReplayProgress × Session :=
  match s.await (pending.change.exchange pending.index) token pending.wait elapsed with
  | (.waiting wait, s) => (.waiting { pending with wait := wait }, s)
  | (.finished (.error e), s) => (.finished (.error e), s)
  | (.finished (.ok response), s) =>
    m.replayFrom token total pending.rest (pending.applied + response.applied)
      (s.countChange pending.change pending.index response)

end Mapping

end DocSearch
