/-!
# Faults

A fault means that no answer came from the engine.
-/

namespace DocSearch

/-- Why a call brought no answer. -/
inductive Fault where
  | connection (detail : String)
  | timeout (milliseconds : UInt64)
  | protocol (detail : String)
deriving DecidableEq, Repr

namespace Fault

/-- The code of a fault. -/
def code : Fault → String
  | .connection _ => "AERO_TRANSPORT_CONNECTION"
  | .timeout _ => "AERO_TRANSPORT_TIMEOUT"
  | .protocol _ => "AERO_TRANSPORT_PROTOCOL"

/-- The message of a fault. -/
def message : Fault → String
  | .connection detail => "Connection failed: " ++ detail
  | .timeout ms => "Request timed out after " ++ toString ms.toNat ++ "ms"
  | .protocol detail => "Protocol error: " ++ detail

/-- The fault of a call that is given up while its answer is awaited. -/
def aborted : Fault := .connection "request aborted"

end Fault

end DocSearch
