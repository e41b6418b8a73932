import PluginBridge.Slot.Batch

/-! # A request, step by step

A caller that makes a request writes the job into its slot cell by cell and moves the state from
waiting to posted. If that fails the request is rejected. If it works, the caller looks at the state
again and again until the slot is waiting, and then reads the result. Every step touches one cell
once, so that others may do something between any two of them. -/

namespace PluginBridge

/-- Where a caller is in a request. -/
inductive CallerPoint where
  /-- Between two requests. -/
  | between
  /-- These writes are left; after the last one the job is posted. -/
  | storing (job : Job) (rest : List Store)
  /-- The job is posted; the slot has not been seen waiting again. -/
  | watching (job : Job)
  /-- The slot was seen waiting; the result is still to be read. -/
  | collecting (job : Job)
  deriving DecidableEq, Repr

/-- What becomes of a request. -/
inductive RequestEvent where
  | accepted (job : Job)
  | rejected (job : Job) (found : SlotState)
  | returned (job : Job) (code : ResultCode)
  deriving DecidableEq, Repr

namespace CallerPoint

/-- The first point of a request. -/
def start (job : Job) : CallerPoint := .storing job (Slot.jobStores job)

/-- One step of a caller that is in a request: what it makes of the slot, where it is afterwards,
and what became of the request. -/
def step (s : Slot) : CallerPoint → Option (Slot × CallerPoint × List RequestEvent)
  | .between => none
  | .storing job (cell :: rest) => some (s.store cell, .storing job rest, [])
  | .storing job [] =>
    match s.exchange .waiting .posted with
    | some s => some (s, .watching job, [.accepted job])
    | none => some (s, .between, [.rejected job s.state])
  | .watching job =>
    some (s, if s.state = .waiting then .collecting job else .watching job, [])
  | .collecting job => some (s, .between, [.returned job s.code])

theorem step_posting_of_waiting {s : Slot} {job : Job} (h : s.state = .waiting) :
    (storing job []).step s =
      some ({ s with state := .posted }, .watching job, [.accepted job]) := by
  simp [step, Slot.exchange, h]

theorem step_posting_of_ne {s : Slot} {job : Job} (h : s.state ≠ .waiting) :
    (storing job []).step s = some (s, .between, [.rejected job s.state]) := by
  simp [step, Slot.exchange, h]

end CallerPoint

end PluginBridge
