import PluginBridge.Slot.State

/-! # Protocol violations

A violation means that the two sides no longer agree on the protocol: a handle used after it was
given back, a stop without its start, a slot driven out of its states. Inside the library it is an
ordinary error; at the boundary it ends the process. -/

namespace PluginBridge

/-- What came back from two calls can be compared. -/
instance decidableEqExcept {ε α : Type} [DecidableEq ε] [DecidableEq α] :
    DecidableEq (Except ε α)
  | .ok a, .ok b => decidable_of_iff (a = b) (by simp)
  | .error e, .error f => decidable_of_iff (e = f) (by simp)
  | .ok _, .error _ | .error _, .ok _ => isFalse (by simp)

/-- A broken rule of the protocol. -/
inductive Violation where
  /-- No handle was free, in this many rounds after the first. -/
  | capacityExhausted (rounds : Nat)
  /-- A number that is no handle, or a handle that is not registered; `use` names the operation. -/
  | invalidHandle (use : String) (handle : Nat)
  | unbalancedStop
  | slotInUse (index : Nat)
  | slotReleased (index : Nat)
  | transitionStalled (index : Nat) (expected found : SlotState)
  | workerBusy (index : Nat)
  | workersLive (live : Nat)
  deriving DecidableEq, Repr

/-- The wording of a violation. -/
def Violation.message : Violation → String
  | .capacityExhausted rounds =>
    "could not obtain a new handle after round #" ++ toString rounds
  | .invalidHandle use handle =>
    "misuse (" ++ use ++ ") of an invalid handle " ++ toString handle
  | .unbalancedStop => "dispatch engine stopped without being started"
  | .slotInUse index => "slot " ++ toString index ++ " is already claimed"
  | .slotReleased index => "slot " ++ toString index ++ " is not claimed by any caller"
  | .transitionStalled index expected found =>
    "slot " ++ toString index ++ " stalled: expected " ++ expected.name ++ ", found " ++ found.name
  | .workerBusy index => "worker " ++ toString index ++ " still owns claimed slots"
  | .workersLive live => toString live ++ " workers still live at teardown"

end PluginBridge
