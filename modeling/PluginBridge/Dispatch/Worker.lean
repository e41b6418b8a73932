import PluginBridge.Dispatch.Scan

/-! # A pass of a worker, step by step

A worker reads the high-water mark and then looks at the state of one slot after the other. It reads
a posted job cell by cell and gives it to the handler; what the handler answers comes from outside.
Then it writes the result and hands the slot back. Every step touches one cell once, so that others
may do something between any two of them. -/

namespace PluginBridge

/-- The cells of a job that a worker has read. -/
inductive JobReading where
  | nothing
  | handle (h : Handle)
  | event (h : Handle) (event : Nat)
  | count (h : Handle) (event count : Nat)
  deriving DecidableEq, Repr

/-- What a worker is doing at a slot. -/
inductive ServicePoint where
  /-- The slot was seen posted; the rest of the job is still to be read. -/
  | reading (found : JobReading)
  /-- The handler has the job. -/
  | calling (job : Job)
  /-- The result is still to be written. -/
  | storing (code : ResultCode)
  /-- The result is written; the slot is still to be handed back. -/
  | handing
  /-- The request to exit was seen; it is still to be acknowledged. -/
  | leaving
  deriving DecidableEq, Repr

/-- The rest of a pass: the mark that it read at its beginning and the slots that are left. -/
structure Pass (n : Nat) where
  highWater : Nat
  rest : List (Fin n)
  deriving DecidableEq, Repr

/-- Where the thread of a worker is. -/
inductive WorkerPoint (n : Nat) where
  /-- Between two passes. -/
  | between
  /-- Between two slots of a pass. -/
  | passing (pass : Pass n)
  /-- At a slot, with the rest of the pass to come. -/
  | serving (i : Fin n) (point : ServicePoint) (pass : Pass n)
  /-- There is no thread, or it has ended. -/
  | gone
  deriving DecidableEq, Repr

/-- What a worker makes of a job. -/
inductive ServiceEvent (n : Nat) where
  | called (i : Fin n) (job : Job)
  | answered (i : Fin n) (job : Job) (reply : Reply)
  deriving DecidableEq, Repr

namespace WorkerPoint

variable {n : Nat}

/-- One step of reading a job: the rest of the reading, or what follows it. -/
def read (s : Slot) : JobReading → ServicePoint
  | .nothing =>
    match Handle.ofRaw? s.handle with
    | some h => .reading (.handle h)
    | none => .storing .failure
  | .handle h => .reading (.event h s.event)
  | .event h event => .reading (.count h event s.count)
  | .count h event count => .calling ⟨h, event, count, s.fields⟩

/-- The call that is made at a point of a service. -/
def calls (i : Fin n) : ServicePoint → List (ServiceEvent n)
  | .calling job => [.called i job]
  | _ => []

/-- Where a worker goes after it found a slot in some state. -/
def look (worker : Nat) (i : Fin n) (pass : Pass n) : SlotState → WorkerPoint n
  | .posted => .serving i (.reading .nothing) pass
  | .exitAsked => if i.val = worker then .serving i .leaving pass else .passing pass
  | _ => .passing pass

/-- One step of a worker that waits for no handler. -/
def step (d : Dispatch n) (worker : Nat) :
    WorkerPoint n → Option (Dispatch n × WorkerPoint n × List (ServiceEvent n))
  | .between => some (d, .passing ⟨d.highWater, d.owned worker⟩, [])
  | .passing ⟨_, []⟩ => some (d, .between, [])
  | .passing ⟨mark, i :: rest⟩ =>
    if i.val = worker ∨ i.val < mark then
      some (d, look worker i ⟨mark, rest⟩ (d.batch.state i), [])
    else some (d, .between, [])
  | .serving i (.reading found) pass =>
    let point := read (d.batch.slot i) found
    some (d, .serving i point pass, calls i point)
  | .serving _ (.calling _) _ => none
  | .serving i (.storing code) pass =>
    let batch := d.batch.put i ((d.batch.slot i).store (.result code.toInt))
    some ({ d with batch }, .serving i .handing pass, [])
  | .serving i .handing pass =>
    match d.batch.exchange i .posted .waiting with
    | .ok batch => some ({ d with batch }, .passing pass, [])
    | .error _ => some (d, .passing pass, [])
  | .serving i .leaving pass =>
    match d.batch.acknowledge i with
    | some batch => some ({ d with batch }, .gone, [])
    | none => some (d, .passing pass, [])
  | .gone => none

/-- The handler answers a worker that waits for it. -/
def answer (reply : Reply) : WorkerPoint n → Option (WorkerPoint n × List (ServiceEvent n))
  | .serving i (.calling job) pass =>
    some (.serving i (.storing reply.toCode) pass, [.answered i job reply])
  | _ => none

end WorkerPoint

end PluginBridge
