import PluginBridge.Dispatch.Pool
import PluginBridge.Dispatch.Scan

/-! # Scenarios of slots and workers

A scenario drives a small batch of slots from all sides: as the engine, as callers, as a worker, and
with real worker threads. A caller whose job is posted and not answered yet waits in the background.
After every operation the threads pass over their slots until nothing is left to do, and the callers
in the background whose slot is waiting again come back. -/

namespace PluginBridge.Scenario

/-- An operation on slots and workers. -/
inductive SlotOp where
  | claim (i : Nat)
  | release (i : Nat)
  | requestExit (i : Nat)
  | acknowledge (i : Nat)
  | state (i : Nat)
  /-- Serve a slot with a given code number. -/
  | serve (i : Nat) (code : Int)
  /-- Post a job for a raw handle, and stay for the answer if asked to. -/
  | request (i handle event count fields : Nat) (stay : Bool)
  | setHighWater (n : Nat)
  | scan (w : Nat)
  | owner (i : Nat)
  | ownedInUse (w : Nat)
  | acquire (w : Nat)
  | releaseWorker (w : Nat)
  | releaseAll
  | isLive (w : Nat)

/-- The answer of an operation. -/
inductive SlotAnswer where
  | done
  | flag (b : Bool)
  | number (n : Nat)
  | state (s : SlotState)
  /-- The job that was served, if a handler was called. -/
  | served (job : Option Job)
  | posted
  | code (c : ResultCode)
  | scanned (r : ScanResult)
  | violation (v : Violation)
  /-- The operation panicked. -/
  | panicked

/-- The answer of an operation, and everything after it. -/
structure SlotStep where
  answer : SlotAnswer
  states : List SlotState
  highWater : Nat
  live : Nat
  /-- The callers that came back, by slot. -/
  completed : List (Nat × ResultCode)
  jobs : List Job

/-- What the handler does for some handles; the others succeed. -/
abbrev Replies := List (Nat × Reply)

/-- The handler of a scenario. It keeps the jobs that it saw, newest first. -/
def Replies.handler (replies : Replies) : Handler (List Job) := fun job seen =>
  ((replies.lookup job.handle.raw).getD (.code .success), job :: seen)

/-- Slots, workers, and callers in the background. -/
structure SlotScene (n : Nat) where
  dispatch : Dispatch n
  pool : Pool
  /-- The workers of the threads that run although the pool has no room for them. A worker may have
  several. -/
  strays : List Nat := []
  /-- The slots with a caller in the background. -/
  pending : List (Fin n) := []
  seen : List Job := []

namespace SlotScene

variable {n : Nat}

/-- Passes of one thread until it is idle or ends. -/
def passes (replies : Replies) (w : Nat) : (fuel : Nat) → SlotScene n → Bool × SlotScene n
  | 0, scene => (false, scene)
  | fuel + 1, scene =>
    match scene.dispatch.scan replies.handler w scene.seen with
    | ⟨.served, dispatch, seen⟩ => passes replies w fuel { scene with dispatch, seen }
    | ⟨.idle, dispatch, seen⟩ => (false, { scene with dispatch, seen })
    | ⟨.exit, dispatch, seen⟩ => (true, { scene with dispatch, seen })

/-- Let the threads of some workers of the pool pass. -/
def settlePool (replies : Replies) : List Nat → SlotScene n → SlotScene n
  | [], scene => scene
  | w :: ws, scene =>
    if scene.pool.thread w = .scanning then
      let (ended, scene) := passes replies w (n + 2) scene
      settlePool replies ws
        (if ended then { scene with pool := scene.pool.leave w } else scene)
    else settlePool replies ws scene

/-- Let the threads of some workers pass that the pool has no room for. Those that end are gone. -/
def settleStrays (replies : Replies) : List Nat → SlotScene n → SlotScene n
  | [], scene => scene
  | w :: ws, scene =>
    let (ended, scene) := passes replies w (n + 2) scene
    settleStrays replies ws
      (if ended then { scene with strays := scene.strays.erase w } else scene)

/-- Let all threads pass until nothing is left to do. -/
def settle (replies : Replies) (scene : SlotScene n) : SlotScene n :=
  let scene := scene.settlePool replies (List.range scene.pool.threads.length)
  scene.settleStrays replies scene.strays

/-- The outcome of an operation that changes the batch or is refused. -/
def changed (scene : SlotScene n) : Except Violation (Batch n) → SlotScene n × SlotAnswer
  | .ok batch => ({ scene with dispatch := { scene.dispatch with batch } }, .done)
  | .error v => (scene, .violation v)

/-- The outcome of an operation on the workers. -/
def answered : Except Violation Unit → SlotAnswer
  | .ok () => .done
  | .error v => .violation v

/-- Post a job in a slot. -/
def request (replies : Replies) (scene : SlotScene n) (i : Fin n) (job : Job) (stay : Bool) :
    SlotScene n × SlotAnswer :=
  let (batch, r) := scene.dispatch.batch.post i job
  let scene := { scene with dispatch := { scene.dispatch with batch } }
  match r with
  | .error v => (scene, .violation v)
  | .ok () =>
    let waiting := { scene with pending := i :: scene.pending }
    if stay then
      let scene := scene.settle replies
      match scene.dispatch.batch.collect i with
      | some c => (scene, .code c)
      | none => (waiting.settle replies, .posted)
    else (waiting, .posted)

/-- Ask at a slot for the exit of a worker, which may be one that the pool has no room for. -/
def requestExit (scene : SlotScene n) (i : Fin n) : SlotScene n × SlotAnswer :=
  if scene.strays.contains i.val then
    let (ended, dispatch, r) := scene.dispatch.requestExit i true
    let strays := if ended then scene.strays.erase i.val else scene.strays
    ({ scene with strays, dispatch }, answered r)
  else
    let (pool, dispatch, r) := scene.pool.requestExit scene.dispatch i
    ({ scene with pool, dispatch }, answered r)

/-- Stop the threads of some workers of the pool. At a worker without a slot, which cannot be asked,
this panics and leaves that worker and the ones after it running. -/
def releaseWorkers (scene : SlotScene n) (ws : List Nat) : SlotScene n × SlotAnswer :=
  let asked := ws.takeWhile fun w => decide (w < n) || !scene.pool.isLive w
  let (pool, dispatch, r) := Pool.releaseEach asked scene.pool scene.dispatch
  let answer := match r with
    | .ok () => if asked.length < ws.length then .panicked else .done
    | .error v => .violation v
  ({ scene with pool, dispatch }, answer)

/-- Serve a slot from outside. -/
def serve (scene : SlotScene n) (i : Fin n) (code : ResultCode) : SlotScene n × SlotAnswer :=
  let job := scene.dispatch.batch.job? i
  let (dispatch, _) :=
    scene.dispatch.serve (fun _ (w : Unit) => (.code code, w)) i ()
  ({ scene with dispatch }, .served job)

/-- An operation on a slot, which has to exist. -/
def onSlot (scene : SlotScene n) (i : Nat) (f : Fin n → SlotScene n × SlotAnswer) :
    SlotScene n × SlotAnswer :=
  if h : i < n then f ⟨i, h⟩ else (scene, .panicked)

/-- Start the thread of a worker. A thread for which the pool has no room is lost to it, and matters
only if there is a slot for it to look at. -/
def acquire (scene : SlotScene n) (w : Nat) : SlotScene n × SlotAnswer :=
  if w < scene.pool.threads.length then ({ scene with pool := scene.pool.acquire w }, .done)
  else if scene.dispatch.workers = 0 ∨ n ≤ w then (scene, .panicked)
  else ({ scene with strays := w :: scene.strays }, .panicked)

/-- Do an operation. -/
def perform (replies : Replies) (scene : SlotScene n) : SlotOp → SlotScene n × SlotAnswer
  | .claim i => scene.onSlot i fun i => scene.changed (scene.dispatch.batch.claim i)
  | .release i => scene.onSlot i fun i => scene.changed (scene.dispatch.batch.release i)
  | .requestExit i => scene.onSlot i scene.requestExit
  | .acknowledge i => scene.onSlot i fun i =>
    match scene.dispatch.batch.acknowledge i with
    | some batch => ({ scene with dispatch := { scene.dispatch with batch } }, .flag true)
    | none => (scene, .flag false)
  | .state i => scene.onSlot i fun i => (scene, .state (scene.dispatch.batch.state i))
  | .serve i code => scene.onSlot i fun i => scene.serve i (ResultCode.ofInt code)
  | .request i handle event count fields stay =>
    match Handle.decode handle with
    | .error v => (scene, .violation v)
    | .ok h => scene.onSlot i fun i => scene.request replies i ⟨h, event, count, fields⟩ stay
  | .setHighWater highWater =>
    ({ scene with dispatch := { scene.dispatch with highWater } }, .done)
  | .scan w =>
    if scene.dispatch.workers = 0 then (scene, .panicked)
    else
      let s := scene.dispatch.scan replies.handler w scene.seen
      ({ scene with dispatch := s.dispatch, seen := s.world }, .scanned s.result)
  | .owner i =>
    (scene, if scene.dispatch.workers = 0 then .panicked else .number (i % scene.dispatch.workers))
  | .ownedInUse w =>
    (scene, if scene.dispatch.workers = 0 then .panicked else .flag (scene.dispatch.ownedInUse w))
  | .acquire w => scene.acquire w
  | .releaseWorker w => scene.releaseWorkers [w]
  | .releaseAll => scene.releaseWorkers (List.range scene.pool.threads.length)
  | .isLive w => (scene, .flag (scene.pool.isLive w))

/-- The callers in the background that come back now, by slot. -/
def returning (scene : SlotScene n) : List (Nat × ResultCode) :=
  (List.finRange n).filterMap fun i =>
    if scene.pending.contains i then
      (scene.dispatch.batch.collect i).map fun c => (i.val, c)
    else none

/-- Do operations in order. -/
def run (replies : Replies) : List SlotOp → SlotScene n → List SlotStep
  | [], _ => []
  | op :: ops, scene =>
    let (scene, answer) := { scene with seen := [] }.perform replies op
    let scene := scene.settle replies
    let batch := scene.dispatch.batch
    let step : SlotStep :=
      { answer
        states := (List.finRange n).map batch.state
        highWater := scene.dispatch.highWater
        live := scene.pool.liveCount
        completed := scene.returning
        jobs := scene.seen.reverse }
    let pending := scene.pending.filter fun i => batch.state i != .waiting
    step :: run replies ops { scene with pending }

end SlotScene

/-- Run a scenario on a number of slots and workers. -/
def runSlots (capacity workers : Nat) (replies : Replies) (ops : List SlotOp) : List SlotStep :=
  SlotScene.run replies ops
    { dispatch := Dispatch.start capacity workers, pool := Pool.empty workers }

end PluginBridge.Scenario
