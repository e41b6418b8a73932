import PluginBridge.Slot.Batch

/-! # A batch and the workers that share it

Worker `w` of `m` owns every slot `i` with `i % m = w`. It always looks at its first slot, where it
may be asked to exit, and at the others only below the high-water mark, which stands above every
claimed slot. -/

namespace PluginBridge

/-- The number of workers for a number of processors: the least `m` with `processors ≤ 2 ^ m`, and
none for a single processor. -/
def maxWorkers (processors : Nat) : Nat :=
  if processors ≤ 1 then 0 else (processors - 1).log2 + 1

/-- What the engine and its workers share during one activation. -/
structure Dispatch (n : Nat) where
  batch : Batch n
  /-- A bound above every claimed slot; zero when none is claimed. -/
  highWater : Nat := 0
  workers : Nat

namespace Dispatch

variable {n : Nat}

/-- An activation that has just begun. -/
def start (n workers : Nat) : Dispatch n := ⟨Batch.fresh n, 0, workers⟩

/-- The worker that owns a slot. -/
def owner (d : Dispatch n) (i : Fin n) : Nat := i.val % d.workers

/-- The slots of a worker, in increasing order. -/
def owned (d : Dispatch n) (w : Nat) : List (Fin n) :=
  (List.finRange n).filter fun i => decide (w ≤ i.val) && (i.val - w) % d.workers == 0

/-- Whether any slot of a worker is claimed. -/
def ownedInUse (d : Dispatch n) (w : Nat) : Bool := (d.owned w).any d.batch.inUse

/-- Whether any slot of a worker holds a posted job. -/
def ownedPosted (d : Dispatch n) (w : Nat) : Bool :=
  (d.owned w).any fun i => d.batch.state i == .posted

/-- Whether the owner of a slot looks at it. -/
def scans (d : Dispatch n) (i : Fin n) : Bool :=
  i.val == d.owner i || decide (i.val < d.highWater)

/-- Whether a worker is asked to exit, as it can be at its first slot. -/
def exits (d : Dispatch n) (w : Nat) : Bool :=
  (d.owned w).any fun i => i.val == w && d.batch.state i == .exitAsked

/-- One more than the highest claimed slot below an index. -/
def highestBelow (b : Batch n) (i : Nat) : Nat :=
  (((List.finRange n).filter fun j => decide (j.val < i) && b.inUse j).getLast?).elim 0
    fun j => j.val + 1

/-- Raise the high-water mark above a slot. -/
def raise (d : Dispatch n) (i : Fin n) : Dispatch n :=
  { d with highWater := max d.highWater (i.val + 1) }

/-- Lower the high-water mark after a slot was released, if it stood just above that slot. -/
def lower (d : Dispatch n) (i : Fin n) : Dispatch n :=
  if d.highWater = i.val + 1 then { d with highWater := highestBelow d.batch i.val } else d

end Dispatch

end PluginBridge
