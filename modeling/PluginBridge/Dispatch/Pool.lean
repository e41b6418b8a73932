import PluginBridge.Dispatch

/-! # The worker threads

A pool has room for one thread per worker. A thread is stopped through the worker's first slot: the
engine asks there, the thread acknowledges and ends, and the slot is given back. A thread that is
too slow to answer in time leaves the request standing; it may still answer later, and then it has
ended although the pool still counts it as live.

A pool keeps a log of the threads that it started, of those that ended and of those that it joined.
The log goes on from one pool to the next. -/

namespace PluginBridge

/-- The thread of a worker. -/
inductive WorkerThread where
  /-- There is none, or it has ended and was joined. -/
  | absent
  /-- It passes over its slots again and again, and answers in time. -/
  | scanning
  /-- It runs, but does not answer in time. -/
  | slow
  /-- It has ended and was not joined. -/
  | ended
  deriving DecidableEq, Repr

/-- The thread passes over its slots, in time or not. -/
def WorkerThread.Runs (t : WorkerThread) : Prop := t = .scanning ∨ t = .slow

instance (t : WorkerThread) : Decidable t.Runs := inferInstanceAs (Decidable (_ ∨ _))

/-- Something that happens to the thread of a worker. -/
inductive ThreadEvent where
  | started (w : Nat)
  | ended (w : Nat)
  | joined (w : Nat)
  deriving DecidableEq, Repr

/-- Whether a thread is started. -/
def ThreadEvent.isStart : ThreadEvent → Bool
  | .started _ => true
  | _ => false

/-- Ask at a slot for the exit of its worker, and give the slot back once the worker has seen it.
`answers` says whether a thread scans the slot and answers in time; if it does, it ends. -/
def Dispatch.requestExit {n : Nat} (d : Dispatch n) (i : Fin n) (answers : Bool) :
    Bool × Dispatch n × Except Violation Unit :=
  match d.batch.askExit i with
  | .error v => (false, d, .error v)
  | .ok batch =>
    let (ended, batch) :=
      if answers then
        match batch.acknowledge i with
        | some batch => (true, batch)
        | none => (false, batch)
      else (false, batch)
    match batch.finishExit i with
    | .ok batch => (ended, { d with batch }, .ok ())
    | .error v => (ended, { d with batch }, .error v)

/-- The threads of all workers. -/
structure Pool where
  threads : List WorkerThread
  /-- What happened to the threads of this pool and of those before it, newest first. -/
  log : List ThreadEvent := []
  deriving DecidableEq, Repr

namespace Pool

/-- A pool without threads, with room for a number of workers. -/
def empty (workers : Nat) (log : List ThreadEvent := []) : Pool :=
  ⟨List.replicate workers .absent, log⟩

/-- The thread of a worker. -/
def thread (p : Pool) (w : Nat) : WorkerThread := p.threads.getD w .absent

/-- Whether the pool has a thread for a worker. -/
def isLive (p : Pool) (w : Nat) : Bool := p.thread w != .absent

/-- The number of threads. -/
def liveCount (p : Pool) : Nat := p.threads.countP (· != .absent)

/-- The pool with another thread for a worker. -/
def put (p : Pool) (w : Nat) (t : WorkerThread) : Pool := { p with threads := p.threads.set w t }

/-- The pool with another event in its log. -/
def note (p : Pool) (event : ThreadEvent) : Pool := { p with log := event :: p.log }

/-- The number of threads that were ever started. -/
def started (p : Pool) : Nat := p.log.countP ThreadEvent.isStart

/-- Why the thread of a worker is not there: there is none, and none can be started for the reason
given. -/
def refusal? (p : Pool) (w : Nat) (refusal : Option String) : Option String :=
  refusal.filter fun _ => !p.isLive w

/-- Start the thread of a worker, unless there is one. -/
def acquire (p : Pool) (w : Nat) : Pool :=
  if p.isLive w then p else (p.put w .scanning).note (.started w)

/-- The thread of a worker becomes too slow to answer in time. -/
def slow (p : Pool) (w : Nat) : Pool := if p.thread w = .scanning then p.put w .slow else p

/-- The thread of a worker answers in time again. -/
def prompt (p : Pool) (w : Nat) : Pool := if p.thread w = .slow then p.put w .scanning else p

/-- The thread of a worker ends. -/
def leave (p : Pool) (w : Nat) : Pool := (p.put w .ended).note (.ended w)

/-- Join the thread of a worker, if it has ended. -/
def join (p : Pool) (w : Nat) : Pool :=
  if p.thread w = .ended then (p.put w .absent).note (.joined w) else p

variable {n : Nat}

/-- Ask at a slot for the exit of its worker. A thread that scans its own first slot in time answers
and ends. -/
def requestExit (p : Pool) (d : Dispatch n) (i : Fin n) :
    Pool × Dispatch n × Except Violation Unit :=
  match d.requestExit i (p.thread i = .scanning) with
  | (true, d, r) => (p.leave i, d, r)
  | (false, d, r) => (p, d, r)

/-- Stop the thread of a worker, if there is one. Every slot of the worker has to be unused. A
worker without a slot cannot be asked, and goes on. -/
def release (p : Pool) (d : Dispatch n) (w : Nat) : Pool × Dispatch n × Except Violation Unit :=
  if ¬ p.isLive w then (p, d, .ok ())
  else if d.ownedInUse w then (p, d, .error (.workerBusy w))
  else if h : w < n then
    match p.requestExit d ⟨w, h⟩ with
    | (p, d, .ok ()) => (p.join w, d, .ok ())
    | failed => failed
  else (p, d, .ok ())

/-- Stop the threads of the given workers, up to the first failure. -/
def releaseEach : List Nat → Pool → Dispatch n → Pool × Dispatch n × Except Violation Unit
  | [], p, d => (p, d, .ok ())
  | w :: ws, p, d =>
    match p.release d w with
    | (p, d, .ok ()) => releaseEach ws p d
    | failed => failed

/-- Stop every thread, up to the first failure. -/
def releaseAll (p : Pool) (d : Dispatch n) : Pool × Dispatch n × Except Violation Unit :=
  releaseEach (List.range p.threads.length) p d

end Pool

end PluginBridge
