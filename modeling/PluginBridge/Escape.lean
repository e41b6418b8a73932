/-! # Calls that do not return

A handler or an extractor usually returns. It may also panic, which unwinds through its callers, or
it may make a nested call that is not answered, so that the whole chain of callers stands still.
-/

namespace PluginBridge

/-- Why a call is not answered. It never will be if nobody but its own chain of calls is at work. -/
inductive Standstill where
  /-- The slot of the request belongs to a worker that is itself further up the chain of calls. -/
  | ownWorker (worker slot : Nat)
  /-- Nobody scans the slot of the request. -/
  | noWorker (slot : Nat)
  /-- The instance's buffers are in use further up the chain of calls. -/
  | ownBuffers (instanceId : Nat)
  /-- The instance's client is in use further up the chain of calls. -/
  | ownClient (instanceId : Nat)
  /-- The chain of calls has no end. -/
  | endless
  deriving DecidableEq, Repr

/-- How a call ends without returning. -/
inductive Escape where
  | panic (message : String)
  | standstill (cause : Standstill)
  deriving DecidableEq, Repr

end PluginBridge
