import PluginBridge.Proofs.Engine.Calls
import PluginBridge.Proofs.Engine.LateExits

/-!
# Engines with late workers

A worker that sleeps still serves its slots, but may be too late for the engine, which waits for a
worker only when it stops it. So but for such a stop an engine does the same as one whose workers
are all awake (`Engine.prompted`): a start comes to the same (`start_prompted`), a request finds the
same worker (`server_prompted`), and so does a stop that does not ask a worker that sleeps
(`stop_prompted`). A stop that asks one is answered with the request to exit that it leaves behind
(`stop_of_late`).
-/

namespace PluginBridge

/-- The thread, awake. -/
def WorkerThread.prompted : WorkerThread → WorkerThread
  | .slow => .scanning
  | t => t

namespace WorkerThread

variable {t : WorkerThread}

theorem prompted_of_ne_slow (awake : t ≠ .slow) : t.prompted = t := by
  cases t with
  | slow => exact absurd rfl awake
  | absent | scanning | ended => rfl

theorem prompted_eq_absent : t.prompted = .absent ↔ t = .absent := by
  cases t <;> decide

theorem runs_prompted : t.prompted.Runs ↔ t.Runs := by
  cases t <;> decide

end WorkerThread

namespace Pool

variable {n : Nat} {p : Pool} {d : Dispatch n} {w : Nat}

/-- The pool with all workers awake. -/
def prompted (p : Pool) : Pool := { p with threads := p.threads.map WorkerThread.prompted }

@[simp] theorem length_prompted (p : Pool) : p.prompted.threads.length = p.threads.length :=
  List.length_map _

@[simp] theorem thread_prompted (p : Pool) (w : Nat) :
    p.prompted.thread w = (p.thread w).prompted := by
  simp only [thread, prompted, List.getD_eq_getElem?_getD, List.getElem?_map]
  cases p.threads[w]? <;> rfl

@[simp] theorem isLive_prompted (p : Pool) (w : Nat) : p.prompted.isLive w = p.isLive w := by
  rw [Bool.eq_iff_iff, isLive_iff, isLive_iff, thread_prompted, ne_eq,
    WorkerThread.prompted_eq_absent]

theorem liveCount_prompted (p : Pool) : p.prompted.liveCount = p.liveCount := by
  rw [liveCount, liveCount, prompted, List.countP_map]
  refine List.countP_congr fun t _ => ?_
  cases t <;> decide

@[simp] theorem prompted_put (p : Pool) (w : Nat) (t : WorkerThread) :
    (p.put w t).prompted = p.prompted.put w t.prompted := by
  simp [prompted, put, List.map_set]

@[simp] theorem prompted_note (p : Pool) (event : ThreadEvent) :
    (p.note event).prompted = p.prompted.note event := rfl

@[simp] theorem prompted_stopped (p : Pool) (w : Nat) :
    (p.stopped w).prompted = p.prompted.stopped w := by
  rw [stopped, prompted_note, prompted_note, prompted_put]
  rfl

@[simp] theorem prompted_acquire (p : Pool) (w : Nat) :
    (p.acquire w).prompted = p.prompted.acquire w := by
  rw [acquire, acquire, isLive_prompted]
  split
  · rfl
  · rw [prompted_note, prompted_put]
    rfl

theorem refusal?_prompted (p : Pool) (w : Nat) (refusal : Option String) :
    p.prompted.refusal? w refusal = p.refusal? w refusal := by
  rw [refusal?, refusal?, isLive_prompted]

@[simp] theorem prompted_empty (workers : Nat) (log : List ThreadEvent) :
    (empty workers log).prompted = empty workers log := by
  simp [prompted, empty, WorkerThread.prompted]

/-- A pool whose workers are awake is one with all workers awake. -/
theorem prompted_of_awake (awake : ∀ w, p.thread w ≠ .slow) : p.prompted = p := by
  have same : p.threads.map WorkerThread.prompted = p.threads.map id := by
    refine List.map_congr_left fun t mem => ?_
    obtain ⟨w, room, rfl⟩ := List.getElem_of_mem mem
    exact WorkerThread.prompted_of_ne_slow (thread_of_lt room ▸ awake w)
  rw [prompted, same, List.map_id]

theorem Scanning.prompted_eq (scanning : p.Scanning n) : p.prompted = p := by
  refine prompted_of_awake fun w slow => ?_
  have scans := (scanning w (isLive_iff.2 (by simp [slow]))).1
  cases slow.symm.trans scans

theorem put_self (room : w < p.threads.length) : p.put w (p.thread w) = p := by
  rw [thread_of_lt room, put, List.set_getElem_self]

/-- A thread that changes its pace is the same one, awake. -/
theorem prompted_put_of_paced {t : WorkerThread} (room : w < p.threads.length)
    (same : t.prompted = (p.thread w).prompted) : (p.put w t).prompted = p.prompted := by
  have here := put_self (p := p.prompted) (w := w) (by rwa [length_prompted])
  rw [thread_prompted, ← same] at here
  rw [prompted_put, here]

@[simp] theorem prompted_slow (p : Pool) (w : Nat) : (p.slow w).prompted = p.prompted := by
  rw [slow]
  split
  · next scans =>
    have room : w < p.threads.length := lt_of_isLive (isLive_iff.2 (by simp [scans]))
    exact prompted_put_of_paced room (by rw [scans]; rfl)
  · rfl

@[simp] theorem prompted_prompt (p : Pool) (w : Nat) : (p.prompt w).prompted = p.prompted := by
  rw [prompt]
  split
  · next slow =>
    have room : w < p.threads.length := lt_of_isLive (isLive_iff.2 (by simp [slow]))
    exact prompted_put_of_paced room (by rw [slow]; rfl)
  · rfl

/-- A worker that is awake is stopped alike, whether the others are awake or not. -/
theorem release_prompted (d : Dispatch n) (awake : p.thread w ≠ .slow) :
    p.prompted.release d w = ((p.release d w).1.prompted, (p.release d w).2) := by
  rw [release, release, isLive_prompted]
  split
  · rfl
  next live =>
  split
  · rfl
  split
  · next hw =>
    have room := lt_of_isLive (by simpa using live)
    rw [requestExit_eq, requestExit_eq, thread_prompted, WorkerThread.prompted_of_ne_slow awake]
    by_cases idle : d.batch.state ⟨w, hw⟩ ∈ [.unused, .waiting]
    · rw [if_pos idle, if_pos idle]
      by_cases scans : p.thread w = .scanning
      · rw [if_pos scans, if_pos scans]
        dsimp only
        rw [join_leave room, join_leave (by rwa [length_prompted]), prompted_stopped]
      · rw [if_neg scans, if_neg scans]
    · rw [if_neg idle, if_neg idle]
  · rfl

end Pool

namespace Engine

variable {e : Engine} {d : Dispatch slotCount} {h : Handle}

/-- The engine with all workers awake. -/
def prompted (e : Engine) : Engine := { e with pool := e.pool.prompted }

theorem Consistent.prompted_eq (c : e.Consistent) : e.prompted = e := by
  have same : e.pool.prompted = e.pool := by
    cases hd : e.dispatch with
    | some d => exact (c.staffed d hd).scanning.prompted_eq
    | none =>
      refine Pool.prompted_of_awake fun w slow => ?_
      exact c.idle hd w (Pool.isLive_iff.2 (by simp [slow]))
  rw [prompted, same]

/-! ## Batches and clients

Nothing about batches and clients depends on the threads. -/

theorem server_prompted (e : Engine) (c : Client) : e.prompted.server c = e.server c := by
  have dispatch : e.prompted.dispatch = e.dispatch := rfl
  rw [server, server, dispatch]
  cases e.dispatch with
  | none => rfl
  | some d =>
    have runs : (e.prompted.pool.thread (d.owner c.slot)).Runs ↔
        (e.pool.thread (d.owner c.slot)).Runs := by
      rw [prompted, Pool.thread_prompted, WorkerThread.runs_prompted]
    simp only [runs]
    rfl

theorem retire_prompted (e : Engine) : e.prompted.retire = e.retire.prompted := by
  have dispatch : e.prompted.dispatch = e.dispatch := rfl
  rw [retire, retire, dispatch]
  cases e.dispatch <;> rfl

theorem deactivate_prompted (e : Engine) :
    e.prompted.deactivate = (e.deactivate.1.prompted, e.deactivate.2) := by
  have count : e.prompted.pool.liveCount = e.pool.liveCount := e.pool.liveCount_prompted
  rw [deactivate, deactivate, count]
  split
  · rfl
  · rw [retire_prompted]

theorem settle_prompted (e : Engine) : e.prompted.settle = (e.settle.1.prompted, e.settle.2) := by
  rw [settle, settle]
  change (if e.active = 0 then _ else _) = _
  split
  · exact e.deactivate_prompted
  · rfl

/-! ## Starting -/

/-- A slot is given back alike, unless that stops a worker that sleeps. -/
theorem releaseSlot_prompted (d : Dispatch slotCount) (i : Fin slotCount)
    (awake : d.batch.state i = .waiting → (d.without i).ownedInUse (d.owner i) = false →
      e.pool.thread (d.owner i) ≠ .slow) :
    e.prompted.releaseSlot d i = ((e.releaseSlot d i).1.prompted, (e.releaseSlot d i).2) := by
  rw [releaseSlot_eq, releaseSlot_eq]
  by_cases waiting : d.batch.state i = .waiting
  · rw [if_pos waiting, if_pos waiting]
    by_cases more : (d.without i).ownedInUse (d.owner i)
    · rw [if_pos more, if_pos more]
      rfl
    · have same := Pool.release_prompted (d.without i) (awake waiting (Bool.eq_false_iff.2 more))
      rw [if_neg more, if_neg more, prompted, same]
      rfl
  · rw [if_neg waiting, if_neg waiting]

/-- A slot is claimed alike. -/
theorem claim_prompted (used : ∀ d, e.dispatch = some d → d.batch.state h.slot ≠ .unused →
    1 < e.active) (refusal : Option String) :
    e.prompted.claim h refusal = ((e.claim h refusal).1.prompted, (e.claim h refusal).2) := by
  cases hd : e.dispatch with
  | none =>
    rw [claim_of_none hd, claim_of_none (e := e.prompted) hd]
  | some d =>
    have reason := e.pool.refusal?_prompted (d.owner h.slot) refusal
    by_cases unused : d.batch.state h.slot = .unused
    · cases refused : e.pool.refusal? (d.owner h.slot) refusal with
      | none =>
        rw [claim_of_startable hd unused refused,
          claim_of_startable (e := e.prompted) hd unused (reason.trans refused), claimed, claimed,
          prompted, prompted, Pool.prompted_acquire]
      | some cause =>
        rw [claim_of_refused hd unused refused,
          claim_of_refused (e := e.prompted) hd unused (reason.trans refused)]
        rfl
    · have more := used d hd unused
      rw [claim_of_inUse hd unused more, claim_of_inUse (e := e.prompted) hd unused more]
      rfl

theorem begin_prompted (e : Engine) : e.prompted.begin = e.begin.prompted := by
  rw [Engine.begin, Engine.begin, activate, activate, prompted, prompted, Pool.prompted_empty]
  rfl

/-- A start that finds no batch to take down comes to the same. -/
theorem start_prompted (fresh : e.active = 0 → e.dispatch = none) (h : Handle)
    (refusal : Option String) :
    e.prompted.start h refusal = ((e.start h refusal).1.prompted, (e.start h refusal).2) := by
  rcases Nat.eq_zero_or_pos e.active with inactive | active
  · have nothing := fresh inactive
    rw [start_of_inactive inactive (teardown_of_none nothing),
      start_of_inactive (e := e.prompted) inactive (teardown_of_none nothing), begin_prompted]
    exact claim_prompted (fun d hd used => absurd (state_begin hd h.slot) used) refusal
  · rw [start_of_active active, start_of_active (e := e.prompted) active]
    exact claim_prompted (e := e.countUp) (fun _ _ _ => Nat.succ_lt_succ active) refusal

/-! ## Stopping -/

/-- A stop for a handle asks a worker that sleeps for its exit: no slot of that worker but the one of
the handle is claimed. -/
structure Late (e : Engine) (h : Handle) (d : Dispatch slotCount) : Prop where
  batch : e.dispatch = some d
  waiting : d.batch.state h.slot = .waiting
  last : ∀ i ∈ d.owned (d.owner h.slot), d.batch.inUse i → i = h.slot
  slow : e.pool.thread (d.owner h.slot) = .slow

/-- Whether other slots of a worker are claimed. -/
theorem ownedInUse_without_eq_false {i : Fin slotCount} {w : Nat} :
    (d.without i).ownedInUse w = false ↔ ∀ j ∈ d.owned w, d.batch.inUse j → j = i := by
  rw [Bool.eq_false_iff, ne_eq, Dispatch.ownedInUse_iff]
  simp only [Dispatch.owned_without, Dispatch.inUse_without, not_exists, not_and, not_not]

/-- Whether a stop for a handle asks a worker that sleeps can be told from the engine. -/
theorem exists_late_iff : (∃ d, e.Late h d) ↔ e.dispatch.any fun d =>
    d.batch.state h.slot = .waiting ∧ (d.without h.slot).ownedInUse (d.owner h.slot) = false ∧
      e.pool.thread (d.owner h.slot) = .slow := by
  rw [Option.any_eq_true]
  simp only [decide_eq_true_eq, ownedInUse_without_eq_false]
  constructor
  · rintro ⟨d, late⟩
    exact ⟨d, late.batch, late.waiting, late.last, late.slow⟩
  · rintro ⟨d, hd, waiting, last, slow⟩
    exact ⟨d, hd, waiting, last, slow⟩

instance (e : Engine) (h : Handle) : Decidable (∃ d, e.Late h d) :=
  decidable_of_iff _ exists_late_iff.symm

/-- A stop that asks no worker that sleeps comes to the same. -/
theorem stop_prompted (awake : ∀ d, ¬ e.Late h d) :
    e.prompted.stop h = ((e.stop h).1.prompted, (e.stop h).2) := by
  obtain inactive | ⟨active, free | ⟨d, hd, used⟩⟩ := e.stop_cases h
  · rw [stop_of_inactive inactive, stop_of_inactive (e := e.prompted) inactive]
  · rw [stop_of_free active free, stop_of_free (e := e.prompted) active free]
    exact e.countDown.settle_prompted
  have same : e.prompted.countDown.releaseSlot d h.slot = _ :=
    releaseSlot_prompted (e := e.countDown) d h.slot fun waiting idle slow =>
      awake d ⟨hd, waiting, ownedInUse_without_eq_false.1 idle, slow⟩
  cases released : e.countDown.releaseSlot d h.slot with
  | mk e' answer =>
  rw [released] at same
  cases answer with
  | ok _ =>
    rw [stop_of_released active hd used released,
      stop_of_released (e := e.prompted) active hd used same]
    exact e'.settle_prompted
  | error v =>
    rw [stop_of_refused active hd used released,
      stop_of_refused (e := e.prompted) active hd used same]

/-- A stop that asks a worker that sleeps is answered with the request that it leaves behind. -/
theorem stop_of_late (active : 0 < e.active) (late : e.Late h d) :
    (e.stop h).2 = .error (.transitionStalled (d.owner h.slot) .exitSeen .exitAsked) := by
  have used : d.batch.inUse h.slot := Batch.inUse_iff.2 (by simp [late.waiting])
  have idle := ownedInUse_without_eq_false.2 late.last
  have live : e.pool.isLive (d.owner h.slot) := Pool.isLive_iff.2 (by simp [late.slow])
  have stalled := Pool.release_of_late live (by simp [late.slow]) idle (d.owner_lt_size h.slot)
  have answer : (e.countDown.releaseSlot d h.slot).2 =
      .error (.transitionStalled (d.owner h.slot) .exitSeen .exitAsked) := by
    rw [releaseSlot_eq, if_pos late.waiting, if_neg (by simp [idle])]
    exact congrArg (fun r => r.2.2) stalled
  rw [stop_of_refused active late.batch used (Prod.ext rfl answer)]

/-! ## Threads -/

/-- What a thread does on its own account wakes up, or puts to sleep, or finds nothing to do, as
long as nothing is asked of a worker. -/
theorem prompted_move_thread
    (calm : ∀ d, e.dispatch = some d → ∀ i, d.batch.state i ≠ .posted ∧ d.batch.state i ≠ .exitAsked)
    (move : ThreadMove) : (e.move (.thread move)).prompted = e.prompted := by
  cases hd : e.dispatch with
  | none => simp [Engine.move, crew?, hd]
  | some d =>
    rw [Engine.move, crew?_of_dispatch hd]
    cases move with
    | slow w => simp [withCrew, Crew.move, prompted, hd]
    | prompt w => simp [withCrew, Crew.move, prompted, hd]
    | pass w handler world =>
      have nothing : d.postedTo w = [] := by
        refine List.filter_eq_nil_iff.2 fun i _ => ?_
        simpa using (calm d hd i).1
      have running (i : Fin slotCount) (_ : i.val = w) : d.batch.state i ≠ .exitAsked :=
        (calm d hd i).2
      have scan := Dispatch.scan_eq handler running world
      rw [nothing] at scan
      have idle : (Crew.pass ⟨e.pool, d⟩ w handler world).1 = ⟨e.pool, d⟩ := by
        rw [Crew.pass]
        split
        · simp only [scan]
          rfl
        · rfl
      simp [withCrew, Crew.move, idle, prompted, hd]

/-! ## Engines whose workers are awake -/

/-- All workers are awake. -/
def Awake (e : Engine) : Prop := e.prompted = e

theorem Awake.not_late (awake : e.Awake) : ¬ e.Late h d := by
  intro late
  have thread := e.pool.thread_prompted (d.owner h.slot)
  have pool : e.pool.prompted = e.pool := congrArg Engine.pool awake
  rw [pool, late.slow] at thread
  cases thread

/-- A start wakes nobody up and puts nobody to sleep. -/
theorem Awake.start (awake : e.Awake) (fresh : e.active = 0 → e.dispatch = none) (h : Handle)
    (refusal : Option String) : (e.start h refusal).1.Awake := by
  have same := start_prompted fresh h refusal
  rw [awake] at same
  exact (congrArg Prod.fst same).symm

theorem Awake.stop (awake : e.Awake) (h : Handle) : (e.stop h).1.Awake := by
  have same := stop_prompted (h := h) fun d => awake.not_late (d := d)
  rw [awake] at same
  exact (congrArg Prod.fst same).symm

theorem Awake.withBatch (awake : e.Awake) (d : Dispatch slotCount) (b : Batch slotCount) :
    (e.withBatch d b).Awake :=
  congrArg (fun e : Engine => e.withBatch d b) awake

theorem Awake.setEnabled (awake : e.Awake) (enabled : Bool) : (e.setEnabled enabled).Awake :=
  congrArg (fun e : Engine => e.setEnabled enabled) awake

/-! ## An engine that serves -/

variable {R : Handle → Prop} {c : Client}

/-- A start for a handle that is not served yet works, whether workers sleep or not. -/
theorem start_serves (consistent : e.prompted.Consistent) (serves : e.Serves R)
    (first : e.active = 0 → ∀ h, ¬ R h) (new : ¬ R h) (refusal : Option String) :
    ∃ e' client, e.start h refusal = (e', .ok client) ∧ e'.prompted.Consistent ∧
      e.Started e' R h refusal client := by
  have fresh (inactive : e.active = 0) : e.dispatch = none :=
    consistent.dispatch_eq_none serves inactive (first inactive)
  obtain ⟨e', client, eq, started⟩ := consistent.started serves first new refusal
  have same := start_prompted fresh h refusal
  have kept := consistent.start h refusal
  rw [same] at eq kept
  obtain ⟨rfl, answer⟩ := Prod.mk.inj eq
  exact ⟨_, client, Prod.ext rfl answer, kept, started.active, started.serves, started.clients⟩

/-- A stop works, unless it asks a worker that sleeps. -/
theorem stop_serves (consistent : e.prompted.Consistent) (serves : e.Serves R)
    (active : 0 < e.active) (last : e.active = 1 → ∀ k, R k → k = h) (awake : ∀ d, ¬ e.Late h d) :
    ∃ e', e.stop h = (e', .ok ()) ∧ e'.prompted.Consistent ∧ e.Stopped e' R h := by
  obtain ⟨e', eq, stopped⟩ := consistent.stopped serves active last
  have same := stop_prompted awake
  have kept := consistent.stop h
  rw [same] at eq kept
  obtain ⟨rfl, answer⟩ := Prod.mk.inj eq
  exact ⟨_, Prod.ext rfl answer, kept, stopped.active, stopped.serves, stopped.clients⟩

/-- A waiting slot has a worker that will serve it next, whether that sleeps or not. -/
theorem served_of_waiting (consistent : e.prompted.Consistent) (hd : e.dispatch = some d)
    (current : c.activation = e.retired.length) (waiting : d.batch.state c.slot = .waiting)
    (idle : ∀ i, d.batch.state i ≠ .posted) : e.server c = .ok (d.owner c.slot) := by
  rw [← server_prompted]
  exact server_of_waiting current consistent hd waiting idle

end Engine

end PluginBridge
