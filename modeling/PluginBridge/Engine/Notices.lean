import PluginBridge.Engine
import PluginBridge.Notice

/-! # What starting and stopping tell

The notices of an engine operation follow from the engine before it, the engine after it, and its
result, so the engine itself keeps none. -/

namespace PluginBridge.Engine

/-- The notice of an activation. -/
def activationNotice (e : Engine) : Notice :=
  .activated e.processors e.available e.enabled e.maxWorkers

/-- The notice of a claimed slot. -/
def claimNotice (e : Engine) (h : Handle) (c : Client) : Notice :=
  .slotClaimed c.slot (e.dispatch.elim 0 fun d => d.owner c.slot) h

/-- What is told if there is a batch but no client: the worker of the slot could not be started, and
the slot was given back. -/
def refusalNotices (e : Engine) (h : Handle) (refusal : Option String) : List Notice :=
  match e.dispatch, refusal with
  | some d, some cause => [.spawnFailed (d.owner h.slot) cause, .slotReleased h.slot]
  | _, _ => []

/-- What a start tells. A first start that fails has failed before the engine was activated. -/
def startNotices (before after : Engine) (h : Handle) (refusal : Option String)
    (result : Except Violation (Option Client)) : List Notice :=
  let leftover :=
    if before.active = 0 ∧ before.dispatch.isSome then [Notice.leftover before.pool.liveCount]
    else []
  match result with
  | .error _ => leftover
  | .ok client =>
    leftover ++ (if before.active = 0 then [after.activationNotice] else [])
      ++ client.elim (after.refusalNotices h refusal) fun c => [after.claimNotice h c]

/-- Whether a stop gives the slot of its handle back. -/
def releases (e : Engine) (h : Handle) : Bool :=
  e.active != 0 && e.dispatch.any fun d => d.batch.state h.slot == .waiting

/-- What a stop tells. -/
def stopNotices (before after : Engine) (h : Handle) : List Notice :=
  (if before.releases h then [Notice.slotReleased h.slot] else [])
    ++ (if before.dispatch.isSome ∧ after.dispatch.isNone then [Notice.deactivated] else [])

end PluginBridge.Engine
