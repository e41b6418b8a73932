import PluginBridge.Config
import PluginBridge.Dispatch.Pool

/-! # The dispatch engine

The engine pairs handles with slots and workers. It counts its starts; the first one of an
activation decides whether there is a batch, the last stop takes the batch down again. A client
stands for one claimed slot of one activation. Clients outlive their activation, so the batches of
earlier activations are kept: a request through an old client meets the slot that it always meant.
-/

namespace PluginBridge

/-- The caller's side of a claimed slot: its activation and its place in the batch. -/
structure Client where
  activation : Nat
  slot : Fin slotCount
  deriving DecidableEq, Repr

/-- The state of the engine. -/
structure Engine where
  /-- The settings that it was made with. Of the times among them it depends how long its workers
  sleep, and how long it waits for them. -/
  config : Config
  /-- The number of processors of the machine. -/
  machine : Nat
  enabled : Bool
  available : Bool := false
  /-- Starts that have not been stopped. -/
  active : Nat := 0
  maxWorkers : Nat := 0
  dispatch : Option (Dispatch slotCount) := none
  pool : Pool := Pool.empty 0
  /-- The batches of earlier activations, oldest first. -/
  retired : List (Batch slotCount) := []

/-- A snapshot of the engine. -/
structure EngineStats where
  enabled : Bool
  available : Bool
  active : Nat
  maxWorkers : Nat
  liveWorkers : Nat
  highWater : Nat
  allocated : Bool
  deriving DecidableEq, Repr

namespace Engine

/-- An engine that was never started. `machine` is the number of processors of the machine. -/
def new (config : Config) (machine : Nat) : Engine where
  config
  machine
  enabled := config.enabled

/-- The number of processors to count with. -/
abbrev processors (e : Engine) : Nat := e.config.concurrency.elim e.machine UInt64.toNat

/-- A snapshot of the engine. -/
def stats (e : Engine) : EngineStats where
  enabled := e.enabled
  available := e.available
  active := e.active
  maxWorkers := e.maxWorkers
  liveWorkers := e.pool.liveCount
  highWater := e.dispatch.elim 0 Dispatch.highWater
  allocated := e.dispatch.isSome

/-- Switch dispatching on or off, from the next activation on. -/
def setEnabled (e : Engine) (enabled : Bool) : Engine := { e with enabled }

/-- Release a slot of the current batch, and stop its worker if that was the worker's last claimed
slot. -/
def releaseSlot (e : Engine) (d : Dispatch slotCount) (i : Fin slotCount) :
    Engine × Except Violation Unit :=
  match d.batch.release i with
  | .error v => (e, .error v)
  | .ok batch =>
    let d := Dispatch.lower { d with batch } i
    let w := d.owner i
    if d.ownedInUse w then ({ e with dispatch := some d }, .ok ())
    else
      let (pool, d, r) := e.pool.release d w
      ({ e with dispatch := some d, pool }, r)

/-- Put the current batch away. -/
def retire (e : Engine) : Engine :=
  match e.dispatch with
  | some d => { e with dispatch := none, retired := e.retired ++ [d.batch] }
  | none => e

/-- End an activation. No thread may be left. -/
def deactivate (e : Engine) : Engine × Except Violation Unit :=
  if 0 < e.pool.liveCount then (e, .error (.workersLive e.pool.liveCount)) else (e.retire, .ok ())

/-- Release the claimed ones of some slots, up to the first that cannot be released. -/
def releaseSlots : List (Fin slotCount) → Batch slotCount →
    Batch slotCount × Except Violation Unit
  | [], b => (b, .ok ())
  | i :: rest, b =>
    if b.inUse i then
      match b.release i with
      | .ok b => releaseSlots rest b
      | .error v => (b, .error v)
    else releaseSlots rest b

/-- Take down a batch that an earlier activation left behind. After a failure it stays in place. -/
def teardown (e : Engine) : Engine × Except Violation Unit :=
  match e.dispatch with
  | none => (e, .ok ())
  | some d =>
    match releaseSlots (List.finRange slotCount) d.batch with
    | (batch, .error v) => ({ e with dispatch := some { d with batch } }, .error v)
    | (batch, .ok ()) =>
      let (pool, d, r) := e.pool.releaseAll { d with batch, highWater := 0 }
      let e := { e with dispatch := some d, pool }
      match r with
      | .ok () => (e.retire, .ok ())
      | .error v => (e, .error v)

/-- Begin an activation: count the workers, and make a batch if there are any and the engine is
enabled. -/
def activate (e : Engine) : Engine :=
  let workers := PluginBridge.maxWorkers e.processors
  { e with
    maxWorkers := workers
    available := 0 < workers
    pool := Pool.empty workers e.pool.log
    dispatch := if e.enabled ∧ 0 < workers then some (Dispatch.start slotCount workers) else none }

/-- Claim the slot of a handle in the current batch, if there is one, and make sure that its worker
runs. `refusal` says why the machine starts no threads, if it does not; the slot of a worker that
cannot be started is given back, and there is no client. -/
def claim (e : Engine) (h : Handle) (refusal : Option String := none) :
    Engine × Except Violation (Option Client) :=
  match e.dispatch with
  | none => (e, .ok none)
  | some d =>
    match d.batch.claim h.slot with
    | .error v =>
      let e := { e with active := e.active - 1 }
      if e.active = 0 then
        match e.deactivate with
        | (e, .error v) => (e, .error v)
        | (e, .ok ()) => (e, .error v)
      else (e, .error v)
    | .ok batch =>
      let d := Dispatch.raise { d with batch } h.slot
      let w := d.owner h.slot
      match e.pool.refusal? w refusal with
      | none =>
        ({ e with
            dispatch := some d
            pool := e.pool.acquire w },
          .ok (some ⟨e.retired.length, h.slot⟩))
      | some _ =>
        match { e with dispatch := some d }.releaseSlot d h.slot with
        | (e, .ok ()) => (e, .ok none)
        | (e, .error v) => (e, .error v)

/-- Register a caller for a handle. Without a batch there is no client, nor without the worker of its
slot, and the caller does its work itself; either way the start has to be stopped. -/
def start (e : Engine) (h : Handle) (refusal : Option String := none) :
    Engine × Except Violation (Option Client) :=
  if e.active = 0 then
    match e.teardown with
    | (e, .error v) => (e, .error v)
    | (e, .ok ()) => ({ e.activate with active := 1 }).claim h refusal
  else ({ e with active := e.active + 1 }).claim h refusal

/-- End an activation whose last start was stopped. -/
def settle (e : Engine) : Engine × Except Violation Unit :=
  if e.active = 0 then e.deactivate else (e, .ok ())

/-- Undo one start. The slot of the handle is released if it is claimed. -/
def stop (e : Engine) (h : Handle) : Engine × Except Violation Unit :=
  if e.active = 0 then (e, .error .unbalancedStop)
  else
    let e := { e with active := e.active - 1 }
    match e.dispatch with
    | some d =>
      if d.batch.inUse h.slot then
        match e.releaseSlot d h.slot with
        | (e, .ok ()) => e.settle
        | failed => failed
      else e.settle
    | none => e.settle

/-! ## Requests -/

/-- The batch that a client belongs to. -/
def batchOf? (e : Engine) (c : Client) : Option (Batch slotCount) :=
  if c.activation = e.retired.length then e.dispatch.map Dispatch.batch
  else e.retired[c.activation]?

/-- The engine with another batch for a client's activation. -/
def putBatch (e : Engine) (c : Client) (b : Batch slotCount) : Engine :=
  if c.activation = e.retired.length then
    { e with dispatch := e.dispatch.map fun d => { d with batch := b } }
  else { e with retired := e.retired.set c.activation b }

/-- Post a job in a client's slot. -/
def post (e : Engine) (c : Client) (job : Job) : Engine × Except Violation Unit :=
  match e.batchOf? c with
  | some b =>
    let (b, r) := b.post c.slot job
    (e.putBatch c b, r)
  | none => (e, .error (.slotReleased c.slot))

/-- The job in a client's slot, as its worker finds it. -/
def job? (e : Engine) (c : Client) : Option Job := (e.batchOf? c).bind fun b => b.job? c.slot

/-- Hand a client's slot back with a result. -/
def finish (e : Engine) (c : Client) (code : ResultCode) : Engine :=
  match e.batchOf? c with
  | some b => e.putBatch c (b.finish c.slot code)
  | none => e

/-- The result in a client's slot, once the slot is waiting. -/
def collect (e : Engine) (c : Client) : Option ResultCode :=
  (e.batchOf? c).bind fun b => b.collect c.slot

end Engine

end PluginBridge
