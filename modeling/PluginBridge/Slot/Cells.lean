import PluginBridge.Handle
import PluginBridge.ResultCode

/-! # A slot and its cells

A slot is a handful of cells that one caller and one worker share. Each cell is read and written in
a single step; the only step that looks before it writes is the exchange of the state. The caller
writes a job cell by cell and then moves the state from waiting to posted, the worker writes the
result and moves it back.

`Store` names the single writes, so that whole operations and their interleavings are built from the
same steps. -/

namespace PluginBridge

/-- A job for a worker. The addresses mean nothing to the slot; zero is the null address. -/
structure Job where
  handle : Handle
  event : Nat
  count : Nat
  fields : Nat
  deriving DecidableEq, Repr

/-- The cells of a slot. -/
structure Slot where
  state : SlotState := .unused
  result : Int := ResultCode.failure.toInt
  count : Nat := 0
  handle : Nat := 0
  event : Nat := 0
  fields : Nat := 0
  deriving DecidableEq, Repr

/-- A write to one of the cells beside the state. -/
inductive Store where
  | handle (n : Nat)
  | event (n : Nat)
  | count (n : Nat)
  | fields (n : Nat)
  | result (n : Int)
  deriving DecidableEq, Repr

namespace Slot

/-- A slot that nobody has used. -/
def fresh : Slot := {}

/-- One write. -/
def store (s : Slot) : Store → Slot
  | .handle n => { s with handle := n }
  | .event n => { s with event := n }
  | .count n => { s with count := n }
  | .fields n => { s with fields := n }
  | .result n => { s with result := n }

/-- Move the state from one value to another, if it has the first. -/
def exchange (s : Slot) (expected next : SlotState) : Option Slot :=
  if s.state = expected then some { s with state := next } else none

/-- The writes that put a job into a slot, in order. The last one makes a request fail that nobody
answers. -/
def jobStores (job : Job) : List Store :=
  [.handle job.handle.raw, .event job.event, .count job.count, .fields job.fields,
   .result ResultCode.failure.toInt]

/-- Put a job into the cells. -/
def storeJob (s : Slot) (job : Job) : Slot := (jobStores job).foldl store s

/-- The job in the cells, if its handle is one. -/
def job? (s : Slot) : Option Job :=
  (Handle.ofRaw? s.handle).map fun h => ⟨h, s.event, s.count, s.fields⟩

/-- The code in the result cell. -/
def code (s : Slot) : ResultCode := ResultCode.ofInt s.result

/-- A write leaves the state alone. -/
@[simp] theorem state_store (s : Slot) (w : Store) : (s.store w).state = s.state := by
  cases w <;> rfl

@[simp] theorem state_storeJob (s : Slot) (job : Job) : (s.storeJob job).state = s.state := rfl

/-- The job that was put into the cells is the one that is found there. -/
@[simp] theorem job?_storeJob (s : Slot) (job : Job) : (s.storeJob job).job? = some job := by
  have h : Handle.ofRaw? job.handle.raw = some job.handle := by
    simp [Handle.ofRaw?, job.handle.pos, job.handle.le]
  change (Handle.ofRaw? job.handle.raw).map _ = _
  rw [h]
  rfl

end Slot

end PluginBridge
