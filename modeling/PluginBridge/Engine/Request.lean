import PluginBridge.Engine
import PluginBridge.Escape

/-! # A request from post to answer

A caller that posts a job waits for the worker of its slot. Calls may be nested: the handler of one
job may make another request, and while it waits for that one, its own worker serves nothing else. A
posted slot whose worker is in such a wait is not served meanwhile, and neither is one that no running
worker looks at; a request that meets this stands still.

`request` runs a request whose handler works on any world that has an engine in it. -/

namespace PluginBridge

/-- A world with an engine in it. -/
structure EngineIn (W : Type) where
  get : W → Engine
  put : Engine → W → W

namespace Engine

/-- The worker that will serve a client's slot next, or why there is none. A worker that is asked to
exit serves nothing more, and one with a posted slot is busy with it. -/
def server (e : Engine) (c : Client) : Except Standstill Nat :=
  match e.dispatch with
  | none => .error (.noWorker c.slot)
  | some d =>
    let w := d.owner c.slot
    if c.activation ≠ e.retired.length ∨ ¬ (e.pool.thread w).Runs ∨ ¬ d.scans c.slot ∨ d.exits w then
      .error (.noWorker c.slot)
    else if d.ownedPosted w then .error (.ownWorker w c.slot)
    else .ok w

end Engine

/-- How a request came back: with a code, or rejected. -/
abbrev RequestResult := Except Violation ResultCode

namespace EngineIn

variable {W : Type}

/-- Post a job through a client, have it served by `handler`, and collect the result. The handler is
given the worker that serves and the job as the worker finds it in the slot. -/
def request (at_ : EngineIn W) (handler : Nat → Job → W → W × Except Escape ResultCode)
    (c : Client) (job : Job) (w : W) : W × Except Escape RequestResult :=
  let server := (at_.get w).server c
  match (at_.get w).post c job with
  | (e, .error v) => (at_.put e w, .ok (.error v))
  | (e, .ok ()) =>
    let w := at_.put e w
    match server with
    | .error s => (w, .error (.standstill s))
    | .ok worker =>
      match e.job? c with
      | none => (w, .error (.standstill (.noWorker c.slot)))
      | some found =>
        let (w, reply) := handler worker found w
        let code : Except Escape ResultCode :=
          match reply with
          | .ok code => .ok code
          | .error (.panic _) => .ok .failure
          | .error escape => .error escape
        match code with
        | .error escape => (w, .error escape)
        | .ok code =>
          let e := (at_.get w).finish c code
          let w := at_.put e w
          match e.collect c with
          | some code => (w, .ok (.ok code))
          | none => (w, .error (.standstill (.noWorker c.slot)))

end EngineIn

end PluginBridge
