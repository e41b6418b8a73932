/-! # The states of a slot

```text
unused --claim--> waiting --post--> posted --serve--> waiting
waiting/unused --ask to exit--> exitAsked --acknowledge--> exitSeen --> unused
waiting --release--> unused
```

The state decides who owns what else the slot holds: the caller while it is waiting, the worker
while a job is posted. -/

namespace PluginBridge

/-- The state of a slot. -/
inductive SlotState where
  /-- Claimed by nobody. -/
  | unused
  /-- Claimed; the last result can be read. -/
  | waiting
  /-- A job is posted and belongs to the worker. -/
  | posted
  /-- The worker is asked to exit. -/
  | exitAsked
  /-- The worker has seen the request to exit. -/
  | exitSeen
  deriving DecidableEq, Repr

namespace SlotState

/-- The number of a state. -/
def toNat : SlotState → Nat
  | .unused => 0
  | .waiting => 1
  | .posted => 2
  | .exitAsked => 3
  | .exitSeen => 4

/-- The state of a number. -/
def ofNat? : Nat → Option SlotState
  | 0 => some .unused
  | 1 => some .waiting
  | 2 => some .posted
  | 3 => some .exitAsked
  | 4 => some .exitSeen
  | _ => none

/-- The name of a state in messages. -/
def name : SlotState → String
  | .unused => "Unused"
  | .waiting => "Wait"
  | .posted => "DataRequest"
  | .exitAsked => "ExitRequest"
  | .exitSeen => "ExitAck"

end SlotState

end PluginBridge
