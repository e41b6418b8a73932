import PluginBridge.Dispatch.Worker
import PluginBridge.Slot.Caller

/-! # Callers, workers and the engine at once

The callers of a batch, its workers and the engine take turns in any order. A move is one step of
one of them; a handler may take any number of moves of others before it answers, and a request that
it makes itself is that of one more caller. Steps have a single order: what one party wrote, every
later step of another one finds.

Each caller has a slot of its own choice, which never changes; several callers may have the same
one. -/

namespace PluginBridge

/-- What happens to requests and jobs, with the caller or the worker whom it happens to. -/
inductive TrafficEvent (κ : Type) (n : Nat) where
  | request (k : κ) (event : RequestEvent)
  | service (worker : Nat) (event : ServiceEvent n)
  deriving DecidableEq, Repr

/-- A batch with everybody who works on it at one moment, and what has happened so far, in order. -/
structure Traffic (κ : Type) (n : Nat) where
  dispatch : Dispatch n
  callers : κ → CallerPoint
  workers : Nat → WorkerPoint n
  history : List (TrafficEvent κ n) := []

/-- One step of somebody. -/
inductive TrafficMove (κ : Type) (n : Nat) where
  /-- A caller begins a request. -/
  | request (k : κ) (job : Job)
  /-- A caller goes on with its request. -/
  | caller (k : κ)
  /-- A worker goes on. -/
  | worker (w : Nat)
  /-- The handler that a worker waits for answers. -/
  | answer (w : Nat) (reply : Reply)
  /-- A thread is started for a worker that has none. -/
  | spawn (w : Nat)
  /-- The engine claims a slot. -/
  | claim (i : Fin n)
  /-- The engine gives a slot back. -/
  | release (i : Fin n)
  /-- The engine asks the worker of a slot to exit. -/
  | askExit (i : Fin n)
  /-- The engine gives a slot back whose worker has exited. -/
  | finishExit (i : Fin n)
  /-- The engine moves the high-water mark. -/
  | mark (highWater : Nat)
  deriving DecidableEq, Repr

namespace Traffic

variable {κ : Type} {n : Nat}

/-- A batch that nobody is working on. -/
def quiet (d : Dispatch n) : Traffic κ n := ⟨d, fun _ => .between, fun _ => .gone, []⟩

/-- The traffic with another batch. -/
def putBatch (t : Traffic κ n) (b : Batch n) : Traffic κ n :=
  { t with dispatch := { t.dispatch with batch := b } }

/-- The traffic with a caller at another point. -/
def putCaller [DecidableEq κ] (t : Traffic κ n) (k : κ) (p : CallerPoint) : Traffic κ n :=
  { t with callers := fun j => if j = k then p else t.callers j }

/-- The traffic with a worker at another point. -/
def putWorker (t : Traffic κ n) (w : Nat) (p : WorkerPoint n) : Traffic κ n :=
  { t with workers := fun v => if v = w then p else t.workers v }

/-- The traffic after something has happened. -/
def record (t : Traffic κ n) (events : List (TrafficEvent κ n)) : Traffic κ n :=
  { t with history := t.history ++ events }

/-- The traffic after an attempt of the engine; one that fails changes nothing and is made again. -/
def attempt (t : Traffic κ n) (r : Except Violation (Batch n)) : Option (Traffic κ n) :=
  r.toOption.map t.putBatch

@[simp] theorem record_nil (t : Traffic κ n) : t.record [] = t := by
  simp [record]

@[simp] theorem putBatch_putBatch (t : Traffic κ n) (b c : Batch n) :
    (t.putBatch b).putBatch c = t.putBatch c := rfl

@[simp] theorem workers_putWorker_self (t : Traffic κ n) (w : Nat) (p : WorkerPoint n) :
    (t.putWorker w p).workers w = p := by simp [putWorker]

variable [DecidableEq κ]

@[simp] theorem putCaller_self (t : Traffic κ n) (k : κ) : t.putCaller k (t.callers k) = t := by
  have h : (fun j => if j = k then t.callers k else t.callers j) = t.callers := by
    funext j
    by_cases e : j = k <;> simp [e]
  simp [putCaller, h]

@[simp] theorem callers_putCaller_self (t : Traffic κ n) (k : κ) (p : CallerPoint) :
    (t.putCaller k p).callers k = p := by simp [putCaller]

@[simp] theorem putCaller_putCaller (t : Traffic κ n) (k : κ) (p q : CallerPoint) :
    (t.putCaller k p).putCaller k q = t.putCaller k q := by
  simp only [putCaller, mk.injEq, true_and, and_true]
  funext j
  by_cases e : j = k <;> simp [e]

theorem putBatch_putCaller (t : Traffic κ n) (k : κ) (p : CallerPoint) (b : Batch n) :
    (t.putCaller k p).putBatch b = (t.putBatch b).putCaller k p := rfl

theorem dispatch_putBatch_putCaller (t : Traffic κ n) (k : κ) (p : CallerPoint) (b : Batch n) :
    ((t.putBatch b).putCaller k p).dispatch.batch = b := rfl

/-- One move, if it can be made. -/
def step (slotOf : κ → Fin n) (t : Traffic κ n) : TrafficMove κ n → Option (Traffic κ n)
  | .request k job =>
    if t.callers k = .between then some (t.putCaller k (.start job)) else none
  | .caller k =>
    ((t.callers k).step (t.dispatch.batch.slot (slotOf k))).map fun (s, p, events) =>
      ((t.putBatch (t.dispatch.batch.put (slotOf k) s)).putCaller k p).record
        (events.map (.request k))
  | .worker w =>
    ((t.workers w).step t.dispatch w).map fun (d, p, events) =>
      ({ t with dispatch := d }.putWorker w p).record (events.map (.service w))
  | .answer w reply =>
    ((t.workers w).answer reply).map fun (p, events) =>
      (t.putWorker w p).record (events.map (.service w))
  | .spawn w => if t.workers w = .gone then some (t.putWorker w .between) else none
  | .claim i => t.attempt (t.dispatch.batch.claim i)
  | .release i => t.attempt (t.dispatch.batch.release i)
  | .askExit i => t.attempt (t.dispatch.batch.askExit i)
  | .finishExit i => t.attempt (t.dispatch.batch.finishExit i)
  | .mark highWater => some { t with dispatch := { t.dispatch with highWater } }

/-- Several moves, if all of them can be made. -/
def run (slotOf : κ → Fin n) (t : Traffic κ n) : List (TrafficMove κ n) → Option (Traffic κ n)
  | [] => some t
  | m :: ms => (t.step slotOf m).bind fun t => t.run slotOf ms

@[simp] theorem run_nil (slotOf : κ → Fin n) (t : Traffic κ n) : t.run slotOf [] = some t := rfl

@[simp] theorem run_cons (slotOf : κ → Fin n) (t : Traffic κ n) (m : TrafficMove κ n)
    (ms : List (TrafficMove κ n)) :
    t.run slotOf (m :: ms) = (t.step slotOf m).bind fun t => t.run slotOf ms := rfl

theorem run_append (slotOf : κ → Fin n) (t : Traffic κ n) (ms ns : List (TrafficMove κ n)) :
    t.run slotOf (ms ++ ns) = (t.run slotOf ms).bind fun t => t.run slotOf ns := by
  induction ms generalizing t with
  | nil => rfl
  | cons m ms ih =>
    simp only [List.cons_append, run_cons, Option.bind_assoc]
    congr
    exact funext fun t => ih t

end Traffic

end PluginBridge
