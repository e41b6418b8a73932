import Mathlib.Data.Finset.Lattice.Fold
import Mathlib.Data.Fintype.Card
import Mathlib.Order.Interval.Finset.Nat
import Mathlib.Order.Lattice.Nat
import PluginBridge.Proofs.Engine.Waits

/-!
# The books of the engine

`Books` are all that a caller has to know of the engine in order to foretell what its calls
return: two numbers, two switches and the set of the claimed slots. Nothing in it says how slots are
driven from state to state, how the high-water mark moves or when threads come and go; the mark and
the number of threads are read off the set of claimed slots.
-/

namespace PluginBridge

/-! ## What can be seen of the engine -/

/-- What a call returns. -/
inductive EngineAnswer where
  | started (result : Except Violation (Option Client))
  | stopped (result : Except Violation Unit)
  | switched
  | posted (result : Except Violation Unit)
  /-- What the caller of an answered request collects. -/
  | answered (result : Option ResultCode)
  deriving DecidableEq

/-- What is seen of a system that takes one call after the other: the answer to each call and a
snapshot after it. -/
def watch {S C A T : Type} (perform : S → C → S) (answer : S → C → A) (snapshot : S → T) :
    S → List C → List (A × T)
  | _, [] => []
  | s, call :: calls =>
    (answer s call, snapshot (perform s call)) ::
      watch perform answer snapshot (perform s call) calls

/-- The answer of the engine to a call. -/
def Engine.answer (e : Engine) : EngineCall → EngineAnswer
  | .start h => .started (e.start h).2
  | .stop h => .stopped (e.stop h).2
  | .setEnabled _ => .switched
  | .post c job => .posted (e.post c job).2
  | .finish c code => .answered ((e.finish c code).collect c)

/-! ## The books -/

/-- The books of an engine. -/
structure Books where
  processors : Nat
  enabled : Bool
  /-- The workers of the last activation. -/
  workers : Nat := 0
  /-- Starts that have not been stopped. -/
  active : Nat := 0
  /-- The claimed slots, if there is a batch. -/
  batch : Option (Finset (Fin slotCount)) := none
  /-- The slots of requests that have been accepted and not been answered. -/
  inFlight : Finset (Fin slotCount) := ∅
  /-- How many batches were put away. -/
  dropped : Nat := 0

namespace Books

/-- The claimed slots. -/
def claimed (b : Books) : Finset (Fin slotCount) := b.batch.getD ∅

/-- The number of workers that own a claimed slot. -/
def liveWorkers (b : Books) : Nat := (b.claimed.image fun i => i.val % b.workers).card

/-- The snapshot of an engine with these books. -/
def stats (b : Books) : EngineStats where
  enabled := b.enabled
  available := 0 < b.workers
  active := b.active
  maxWorkers := b.workers
  liveWorkers := b.liveWorkers
  highWater := b.claimed.sup fun i => i.val + 1
  allocated := b.batch.isSome

/-- Put the batch away, if there is one. -/
def drop (b : Books) : Books :=
  { b with batch := none, inFlight := ∅, dropped := b.dropped + if b.batch.isSome then 1 else 0 }

/-- Begin an activation. Whether it has a batch is decided here. -/
def begin (b : Books) : Books :=
  { b.drop with
    workers := maxWorkers b.processors
    active := 1
    batch := if b.enabled ∧ 0 < maxWorkers b.processors then some ∅ else none }

theorem begin_drop (b : Books) : b.drop.begin = b.begin := rfl

/-- Count a start. The first one begins an activation. -/
def count (b : Books) : Books :=
  if b.active = 0 then b.begin else { b with active := b.active + 1 }

/-- Claim a slot, if there is a batch. -/
def enter (b : Books) (i : Fin slotCount) : Books × Option Client :=
  match b.batch with
  | none => (b, none)
  | some slots => ({ b with batch := some (insert i slots) }, some ⟨b.dropped, i⟩)

/-- A start. -/
def start (b : Books) (h : Handle) : Books × Except Violation (Option Client) :=
  if 0 < b.active ∧ h.slot ∈ b.claimed then (b, .error (.slotInUse h.slot))
  else ((b.count.enter h.slot).1, .ok (b.count.enter h.slot).2)

/-- The books after a stop was counted and its slot given back. -/
def leave (b : Books) (i : Fin slotCount) : Books :=
  { b with active := b.active - 1, batch := b.batch.map fun slots => slots.erase i }

/-- End an activation whose last start was stopped, unless a slot is still claimed. -/
def settle (b : Books) : Books × Except Violation Unit :=
  if 0 < b.active then (b, .ok ())
  else if b.claimed = ∅ then (b.drop, .ok ())
  else (b, .error (.workersLive b.liveWorkers))

/-- A stop. -/
def stop (b : Books) (h : Handle) : Books × Except Violation Unit :=
  if b.active = 0 then (b, .error .unbalancedStop) else (b.leave h.slot).settle

/-- Whether a client stands for a claimed slot of the current batch. -/
def Holds (b : Books) (c : Client) : Prop := c.activation = b.dropped ∧ c.slot ∈ b.claimed

instance (b : Books) (c : Client) : Decidable (b.Holds c) := instDecidableAnd

/-- A request begins. -/
def post (b : Books) (c : Client) : Books × Except Violation Unit :=
  if b.Holds c then
    if c.slot ∈ b.inFlight then (b, .error (.transitionStalled c.slot .waiting .posted))
    else ({ b with inFlight := insert c.slot b.inFlight }, .ok ())
  else (b, .error (.slotReleased c.slot))

/-- A request is answered. -/
def finish (b : Books) (c : Client) (code : ResultCode) : Books × Option ResultCode :=
  if b.Holds c then ({ b with inFlight := b.inFlight.erase c.slot }, some code) else (b, none)

/-- The books after a call. -/
def perform (b : Books) : EngineCall → Books
  | .start h => (b.start h).1
  | .stop h => (b.stop h).1
  | .setEnabled enabled => { b with enabled }
  | .post c _ => (b.post c).1
  | .finish c code => (b.finish c code).1

/-- The answer to a call by the books. -/
def answer (b : Books) : EngineCall → EngineAnswer
  | .start h => .started (b.start h).2
  | .stop h => .stopped (b.stop h).2
  | .setEnabled _ => .switched
  | .post c _ => .posted (b.post c).2
  | .finish c code => .answered (b.finish c code).2

end Books

/-! ## The books of an engine -/

/-- The claimed slots of a batch. -/
def Batch.claimed {n : Nat} (b : Batch n) : Finset (Fin n) := Finset.univ.filter fun i => b.inUse i

/-- The slots of a batch whose request is in flight. -/
def Batch.inFlight {n : Nat} (b : Batch n) : Finset (Fin n) :=
  Finset.univ.filter fun i => b.state i = .posted

/-- The books of an engine as it is. -/
def Engine.books (e : Engine) : Books where
  processors := e.processors
  enabled := e.enabled
  workers := e.maxWorkers
  active := e.active
  batch := e.dispatch.map fun d => d.batch.claimed
  inFlight := e.dispatch.elim ∅ fun d => d.batch.inFlight
  dropped := e.retired.length

@[simp] theorem Engine.active_books (e : Engine) : e.books.active = e.active := rfl

/-- The books of an engine that was never started. -/
def Books.new (enabled : Bool) (processors : Nat) : Books where
  processors
  enabled

/-! ## Calls that the books foretell -/

namespace Engine

/-- No request is in flight. -/
def Resting (e : Engine) : Prop := ∀ d, e.dispatch = some d → ∀ i, d.batch.state i ≠ .posted

/-- The engine is not started or stopped while a request is in flight. -/
def Allows (e : Engine) : EngineCall → Prop
  | .start _ | .stop _ => e.Resting
  | .setEnabled _ | .post _ _ | .finish _ _ => True

/-- Each of some calls is allowed when its turn comes. -/
def AllowsAll : Engine → List EngineCall → Prop
  | _, [] => True
  | e, call :: calls => e.Allows call ∧ AllowsAll (e.perform call) calls

end Engine

namespace Books

/-- Whether a call is allowed, by the books. -/
def allows (b : Books) : EngineCall → Bool
  | .start _ | .stop _ => b.inFlight = ∅
  | .setEnabled _ | .post _ _ | .finish _ _ => true

/-- Whether each of some calls is allowed when its turn comes, by the books. -/
def allowsAll : Books → List EngineCall → Bool
  | _, [] => true
  | b, call :: calls => b.allows call && allowsAll (b.perform call) calls

end Books

/-! ## The slots of a batch -/

namespace Batch

variable {n : Nat} {b b' : Batch n} {i : Fin n} {x : SlotState}

@[simp] theorem mem_claimed : i ∈ b.claimed ↔ b.inUse i := by
  simp [claimed]

@[simp] theorem mem_inFlight : i ∈ b.inFlight ↔ b.state i = .posted := by
  simp [inFlight]

theorem claimed_congr (same : b'.state = b.state) : b'.claimed = b.claimed := by
  ext i
  rw [mem_claimed, mem_claimed, inUse, inUse, same]

theorem inFlight_congr (same : b'.state = b.state) : b'.inFlight = b.inFlight := by
  ext i
  rw [mem_inFlight, mem_inFlight, same]

@[simp] theorem claimed_fresh (n : Nat) : (fresh n).claimed = ∅ := by
  ext i
  simp [inUse, state, Slot.fresh]

@[simp] theorem inFlight_fresh (n : Nat) : (fresh n).inFlight = ∅ := by
  ext i
  simp [state, Slot.fresh]

theorem claimed_withState (used : x ≠ .unused) : (b.withState i x).claimed = insert i b.claimed := by
  ext j
  by_cases hj : j = i
  · subst hj
    simp [used]
  · simp [inUse_withState_of_ne b x hj, hj]

theorem claimed_withState_unused : (b.withState i .unused).claimed = b.claimed.erase i := by
  ext j
  by_cases hj : j = i
  · subst hj
    simp
  · simp [inUse_withState_of_ne b _ hj, hj]

theorem inFlight_withState_posted : (b.withState i .posted).inFlight = insert i b.inFlight := by
  ext j
  by_cases hj : j = i
  · subst hj
    simp
  · simp [state_withState_of_ne b _ hj, hj]

theorem inFlight_withState (free : x ≠ .posted) :
    (b.withState i x).inFlight = b.inFlight.erase i := by
  ext j
  by_cases hj : j = i
  · subst hj
    simp [free]
  · simp [state_withState_of_ne b _ hj, hj]

/-- What is collected from a claimed slot after an answer is the answer. -/
theorem collect_finish_eq (ordinary : (b.state i).Ordinary) (code : ResultCode) :
    (b.finish i code).collect i = if b.inUse i then some code else none := by
  by_cases posted : b.state i = .posted
  · rw [collect_finish posted, if_pos (inUse_iff.2 (by simp [posted]))]
  · have stored : (b.put i ((b.slot i).store (.result code.toInt))).state i = b.state i :=
      congrFun (state_put (Slot.state_store _ _)) i
    have kept : b.finish i code = b.put i ((b.slot i).store (.result code.toInt)) := by
      rw [finish, exchange_of_ne _ (by rwa [stored])]
    rw [kept, collect, stored]
    by_cases used : b.inUse i
    · rw [if_pos used, if_pos (ordinary.waiting (inUse_iff.1 used) posted)]
      simp [Slot.code, Slot.store]
    · have unused : b.state i = .unused := Decidable.byContradiction fun h => used (inUse_iff.2 h)
      rw [if_neg used, if_neg (by simp [unused])]

end Batch

/-! ## The threads and the mark -/

/-- The threads of a pool that are live, by their workers. -/
theorem Pool.liveCount_eq_card (p : Pool) :
    p.liveCount = ((Finset.range p.threads.length).filter fun w => p.isLive w).card := by
  have threads : p.threads = (List.range p.threads.length).map p.thread := by
    apply List.ext_getElem
    · simp
    · intro w hw _
      simp [thread, hw]
  rw [liveCount, threads, List.countP_map, List.length_map, List.length_range,
    ← List.toFinset_range, List.countP_eq_length_filter, ← List.toFinset_filter,
    List.toFinset_card_of_nodup (List.nodup_range.filter _)]
  rfl

/-- The high-water mark, from the claimed slots. -/
theorem Dispatch.Marked.highWater_eq {n : Nat} {d : Dispatch n} (h : d.Marked) :
    d.highWater = d.batch.claimed.sup fun i => i.val + 1 := by
  apply Nat.le_antisymm
  · rcases h.tight with zero | ⟨i, used, top⟩
    · omega
    · rw [← top]
      exact Finset.le_sup (f := fun i : Fin n => i.val + 1) (Batch.mem_claimed.2 used)
  · apply Finset.sup_le
    intro i used
    exact h.above i (Batch.mem_claimed.1 used)

end PluginBridge
