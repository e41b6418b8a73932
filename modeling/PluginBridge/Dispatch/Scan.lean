import PluginBridge.Dispatch

/-! # One pass of a worker over its slots

A pass serves every posted job that it meets and goes on, and it ends at once when it finds the
request to exit at the worker's first slot. -/

namespace PluginBridge

/-- How a handler answered a job. -/
inductive Reply where
  | code (c : ResultCode)
  | panicked
  deriving DecidableEq, Repr

/-- The code that a caller gets: a handler that panicked has failed. -/
def Reply.toCode : Reply → ResultCode
  | .code c => c
  | .panicked => .failure

/-- A handler of jobs, with a world that it can change. -/
abbrev Handler (W : Type) := Job → W → Reply × W

/-- The outcome of a pass. -/
inductive ScanResult where
  | served
  | idle
  | exit
  deriving DecidableEq, Repr

/-- What a pass leaves behind. -/
structure Scan (W : Type) (n : Nat) where
  result : ScanResult
  dispatch : Dispatch n
  world : W

namespace Dispatch

variable {W : Type} {n : Nat}

/-- Serve the job in a slot. A slot without a valid job fails without a call. -/
def serve (d : Dispatch n) (handler : Handler W) (i : Fin n) (w : W) : Dispatch n × W :=
  match d.batch.job? i with
  | some job =>
    let (reply, w) := handler job w
    ({ d with batch := d.batch.finish i reply.toCode }, w)
  | none => ({ d with batch := d.batch.finish i .failure }, w)

/-- Go through slots of a worker, with the outcome so far. -/
def scanSlots (handler : Handler W) (worker : Nat) :
    List (Fin n) → ScanResult → Dispatch n → W → Scan W n
  | [], result, d, w => ⟨result, d, w⟩
  | i :: rest, result, d, w =>
    match d.batch.state i with
    | .posted =>
      let (d, w) := d.serve handler i w
      scanSlots handler worker rest .served d w
    | .exitAsked =>
      if i.val = worker then
        match d.batch.acknowledge i with
        | some batch => ⟨.exit, { d with batch }, w⟩
        | none => scanSlots handler worker rest result d w
      else scanSlots handler worker rest result d w
    | _ => scanSlots handler worker rest result d w

/-- The slots that a worker looks at in one pass. -/
def scanned (d : Dispatch n) (worker : Nat) : List (Fin n) :=
  (d.owned worker).takeWhile fun i => i.val == worker || decide (i.val < d.highWater)

/-- One pass of a worker. -/
def scan (d : Dispatch n) (handler : Handler W) (worker : Nat) (w : W) : Scan W n :=
  scanSlots handler worker (d.scanned worker) .idle d w

end Dispatch

end PluginBridge
