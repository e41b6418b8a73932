import PluginBridge.Slot.Cells

/-! # A batch of slots

A batch is a fixed number of slots. The operations on it are those of the engine, which claims and
releases slots and asks workers to exit, those of a caller, which posts a job and collects its
result, and those of a worker, which serves a job or acknowledges that it is to exit. Operations of
the engine that wait for another party are given here as the single exchange that they keep trying:
what they report is what they find when nobody answers. -/

namespace PluginBridge

/-- A batch of `n` slots. -/
structure Batch (n : Nat) where
  slots : Vector Slot n

namespace Batch

variable {n : Nat}

/-- A batch that nobody has used. -/
def fresh (n : Nat) : Batch n := ⟨Vector.replicate n Slot.fresh⟩

/-- A slot of the batch. -/
def slot (b : Batch n) (i : Fin n) : Slot := b.slots[i]

/-- The state of a slot. -/
def state (b : Batch n) (i : Fin n) : SlotState := (b.slot i).state

/-- Whether a slot is claimed. -/
def inUse (b : Batch n) (i : Fin n) : Bool := b.state i != .unused

/-- The batch with another slot in one place. -/
def put (b : Batch n) (i : Fin n) (s : Slot) : Batch n := ⟨b.slots.set i s⟩

/-- Move the state of a slot, or find what it is instead. -/
def exchange (b : Batch n) (i : Fin n) (expected next : SlotState) : Except SlotState (Batch n) :=
  match (b.slot i).exchange expected next with
  | some s => .ok (b.put i s)
  | none => .error (b.state i)

/-! ## The engine -/

/-- Claim an unused slot. -/
def claim (b : Batch n) (i : Fin n) : Except Violation (Batch n) :=
  match b.exchange i .unused .waiting with
  | .ok b => .ok b
  | .error _ => .error (.slotInUse i)

/-- Move the state of a slot from the first of several values that it has. The violation names the
first of them. -/
def drive (b : Batch n) (i : Fin n) (first : SlotState) (others : List SlotState)
    (next : SlotState) : Except Violation (Batch n) :=
  match (first :: others).findSome? fun s => (b.exchange i s next).toOption with
  | some b => .ok b
  | none => .error (.transitionStalled i first (b.state i))

/-- Give a waiting slot back. -/
def release (b : Batch n) (i : Fin n) : Except Violation (Batch n) :=
  b.drive i .waiting [] .unused

/-- Ask the worker of a slot to exit. -/
def askExit (b : Batch n) (i : Fin n) : Except Violation (Batch n) :=
  b.drive i .unused [.waiting] .exitAsked

/-- Give a slot back whose worker has seen the request to exit. -/
def finishExit (b : Batch n) (i : Fin n) : Except Violation (Batch n) :=
  b.drive i .exitSeen [] .unused

/-! ## The caller -/

/-- Post a job. The job is in the slot even when it is rejected. -/
def post (b : Batch n) (i : Fin n) (job : Job) : Batch n × Except Violation Unit :=
  let b := b.put i ((b.slot i).storeJob job)
  match b.exchange i .waiting .posted with
  | .ok b => (b, .ok ())
  | .error .posted => (b, .error (.transitionStalled i .waiting .posted))
  | .error _ => (b, .error (.slotReleased i))

/-- The result of a request, once the slot is waiting again. -/
def collect (b : Batch n) (i : Fin n) : Option ResultCode :=
  if b.state i = .waiting then some (b.slot i).code else none

/-! ## The worker -/

/-- The job in a slot. -/
def job? (b : Batch n) (i : Fin n) : Option Job := (b.slot i).job?

/-- Hand a slot back with a result. A slot that is not posted keeps its state. -/
def finish (b : Batch n) (i : Fin n) (c : ResultCode) : Batch n :=
  let b := b.put i ((b.slot i).store (.result c.toInt))
  match b.exchange i .posted .waiting with
  | .ok b => b
  | .error _ => b

/-- Acknowledge the request to exit. -/
def acknowledge (b : Batch n) (i : Fin n) : Option (Batch n) :=
  (b.exchange i .exitAsked .exitSeen).toOption

/-! ## What an operation does to each slot -/

@[simp] theorem slot_fresh (i : Fin n) : (fresh n).slot i = Slot.fresh := by
  simp [slot, fresh]

@[simp] theorem slot_put_self (b : Batch n) (i : Fin n) (s : Slot) : (b.put i s).slot i = s := by
  simp [slot, put]

theorem slot_put_of_ne (b : Batch n) {i j : Fin n} (s : Slot) (ne : j ≠ i) :
    (b.put i s).slot j = b.slot j := by
  have hv : i.val ≠ j.val := fun e => ne (Fin.ext e.symm)
  simp [slot, put, Vector.getElem_set_ne, hv]

@[simp] theorem put_slot (b : Batch n) (i : Fin n) : b.put i (b.slot i) = b := by
  cases b
  simp [put, slot]

@[simp] theorem put_put (b : Batch n) (i : Fin n) (s s' : Slot) :
    (b.put i s).put i s' = b.put i s' := by
  cases b
  simp [put]

theorem post_of_waiting {b : Batch n} {i : Fin n} (job : Job) (h : b.state i = .waiting) :
    b.post i job =
      (b.put i { (b.slot i).storeJob job with state := .posted }, .ok ()) := by
  have hs : (b.slot i).state = .waiting := h
  simp [post, exchange, Slot.exchange, hs]

theorem post_of_ne {b : Batch n} {i : Fin n} (job : Job) (h : b.state i ≠ .waiting) :
    ∃ v, b.post i job = (b.put i ((b.slot i).storeJob job), .error v) := by
  have hs : ((b.slot i).storeJob job).state ≠ .waiting := h
  simp only [post, exchange, slot_put_self, Slot.exchange, hs, if_false, state]
  split
  · next heq => simp at heq
  · exact ⟨_, rfl⟩
  · exact ⟨_, rfl⟩

end Batch

end PluginBridge
