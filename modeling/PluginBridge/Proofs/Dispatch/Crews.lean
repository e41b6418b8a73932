import PluginBridge.Proofs.Dispatch.Passes
import PluginBridge.Proofs.Dispatch.Threads

/-!
# Exits that come too late

A worker that does not answer the request to exit in time may still see it in a later pass. Its
thread ends then, and its acknowledgement stands in its first slot. Only the request itself would
have taken it away, and it has given up: nothing else moves a slot from there, nobody joins the
thread, and no other one is started, because the pool counts it as live.

`ExitChange` lists what one call makes of the slot and the thread from the request on
(`Crew.exit_change`). By induction over the calls the request stands until the worker passes
(`Crew.asked_performAll`) and the acknowledgement stands for ever (`Crew.Lost.performAll`).
-/

namespace PluginBridge

/-- The slot is on its way through an exit. -/
def SlotState.Exiting (s : SlotState) : Prop := s = .exitAsked ∨ s = .exitSeen

/-- What a thread does on its own account. -/
inductive ThreadMove : Type 1 where
  /-- The thread of a worker passes over its slots, with a handler and a world of this handler. -/
  | pass (w : Nat) {W : Type} (handler : Handler W) (world : W)
  /-- The thread of a worker becomes too slow to answer in time. -/
  | slow (w : Nat)
  /-- The thread of a worker answers in time again. -/
  | prompt (w : Nat)

/-- Something that is done to a pool and to the slots that its threads share. -/
inductive CrewCall (n : Nat) : Type 1 where
  | claim (i : Fin n)
  | free (i : Fin n)
  /-- The high-water mark is set. -/
  | mark (highWater : Nat)
  | post (i : Fin n) (job : Job)
  | finish (i : Fin n) (code : ResultCode)
  | acquire (w : Nat)
  | requestExit (i : Fin n)
  | release (w : Nat)
  | releaseAll
  | thread (move : ThreadMove)

/-- Whether a thread move is a pass of a worker. -/
def ThreadMove.Passes (w : Nat) : ThreadMove → Prop
  | .pass v _ _ => v = w
  | _ => False

/-- Whether a call is a pass of a worker. -/
def CrewCall.Passes {n : Nat} (w : Nat) : CrewCall n → Prop
  | .thread move => move.Passes w
  | _ => False

/-- The threads of the workers, and what they share. -/
structure Crew (n : Nat) where
  pool : Pool
  dispatch : Dispatch n

namespace Crew

variable {n : Nat} {W : Type}

/-- The state of a slot. -/
def state (c : Crew n) (i : Fin n) : SlotState := c.dispatch.batch.state i

/-- The thread of the worker whose first slot this is. -/
def thread (c : Crew n) (i : Fin n) : WorkerThread := c.pool.thread i

/-- One pass of the thread of a worker, if it runs. It ends if it is to exit. -/
def pass (c : Crew n) (w : Nat) (handler : Handler W) (world : W) : Crew n × Option ScanResult :=
  if (c.pool.thread w).Runs then
    let scan := c.dispatch.scan handler w world
    (⟨if scan.result = .exit then c.pool.leave w else c.pool, scan.dispatch⟩, some scan.result)
  else (c, none)

/-- What a thread makes of the crew. -/
def move (c : Crew n) : ThreadMove → Crew n
  | .pass w handler world => (c.pass w handler world).1
  | .slow w => ⟨c.pool.slow w, c.dispatch⟩
  | .prompt w => ⟨c.pool.prompt w, c.dispatch⟩

/-- The crew with another batch, if there is one. -/
def exchange (c : Crew n) : Except Violation (Batch n) → Crew n × Except Violation Unit
  | .ok batch => (⟨c.pool, { c.dispatch with batch }⟩, .ok ())
  | .error v => (c, .error v)

/-- The crew after something was done to its pool. -/
def ofPool (r : Pool × Dispatch n × Except Violation Unit) : Crew n × Except Violation Unit :=
  (⟨r.1, r.2.1⟩, r.2.2)

/-- The crew after a call, and what the call answers. -/
def perform (c : Crew n) : CrewCall n → Crew n × Except Violation Unit
  | .claim i => c.exchange (c.dispatch.batch.claim i)
  | .free i => c.exchange (c.dispatch.batch.release i)
  | .mark highWater => (⟨c.pool, { c.dispatch with highWater }⟩, .ok ())
  | .post i job =>
    let (batch, r) := c.dispatch.batch.post i job
    (⟨c.pool, { c.dispatch with batch }⟩, r)
  | .finish i code => (⟨c.pool, { c.dispatch with batch := c.dispatch.batch.finish i code }⟩, .ok ())
  | .acquire w => (⟨c.pool.acquire w, c.dispatch⟩, .ok ())
  | .requestExit i => ofPool (c.pool.requestExit c.dispatch i)
  | .release w => ofPool (c.pool.release c.dispatch w)
  | .releaseAll => ofPool (c.pool.releaseAll c.dispatch)
  | .thread move => (c.move move, .ok ())

/-- The crew after several calls, whatever they answer. -/
def performAll (c : Crew n) (calls : List (CrewCall n)) : Crew n :=
  calls.foldl (fun c call => (c.perform call).1) c

theorem performAll_append (c : Crew n) (as bs : List (CrewCall n)) :
    c.performAll (as ++ bs) = (c.performAll as).performAll bs :=
  List.foldl_append

end Crew

variable {n : Nat} {w i : Fin n} {c : Crew n} {p : Pool} {d : Dispatch n} {b : Batch n}

/-! ## Slots on their way through an exit -/

namespace Batch

/-- A slot that is driven from elsewhere is not on its way through an exit. -/
theorem state_withState_of_exiting (x : SlotState) (exiting : (b.state w).Exiting)
    (other : ¬ (b.state i).Exiting) : (b.withState i x).state w = b.state w :=
  state_withState_of_ne b x fun same => other (same ▸ exiting)

theorem state_of_ok_of_exiting {b' : Batch n} {x y : SlotState} {v : Violation}
    (exiting : (b.state w).Exiting) (other : ¬ x.Exiting)
    (ok : (if b.state i = x then .ok (b.withState i y) else .error v) = Except.ok b') :
    b'.state w = b.state w := by
  split at ok
  · next found =>
    cases ok
    exact state_withState_of_exiting y exiting (found ▸ other)
  · cases ok

theorem state_post_of_exiting (exiting : (b.state w).Exiting) (i : Fin n) (job : Job) :
    (b.post i job).1.state w = b.state w := by
  have spec := b.post_spec i job
  cases found : b.state i with
  | waiting =>
    simp only [found] at spec
    rw [spec.2]
    exact state_withState_of_exiting _ exiting (by simp [found, SlotState.Exiting])
  | unused | posted | exitAsked | exitSeen =>
    simp only [found] at spec
    rw [spec.2]

theorem state_finish_of_exiting (exiting : (b.state w).Exiting) (i : Fin n) (code : ResultCode) :
    (b.finish i code).state w = b.state w := by
  rw [state_finish]
  split
  · next posted =>
    exact state_withState_of_exiting _ exiting (by simp [posted, SlotState.Exiting])
  · rfl

end Batch

/-! ## Passes -/

namespace Dispatch

variable {W : Type} {v : Nat}

/-- A worker looks at its first slot first. -/
theorem scanned_first (d : Dispatch n) (w : Fin n) : ∃ rest, d.scanned w = w :: rest := by
  have mem : w ∈ d.scanned w := mem_scanned.2 ⟨mem_owned_first w.isLt, .inl rfl⟩
  have sorted := d.scanned_pairwise w
  have least (i : Fin n) (mine : i ∈ d.scanned w) : w ≤ i :=
    (mem_owned.1 (mem_scanned.1 mine).1).1
  cases slots : d.scanned w with
  | nil =>
    rw [slots] at mem
    cases mem
  | cons i rest =>
    rw [slots] at mem sorted least
    rcases List.mem_cons.1 mem with rfl | later
    · exact ⟨rest, rfl⟩
    · have lt := (List.pairwise_cons.1 sorted).1 w later
      exact absurd (least i List.mem_cons_self) (Fin.not_le.2 lt)

/-- A pass that finds the request to exit ends with it. -/
theorem scan_of_asked (handler : Handler W) (world : W) (asked : d.batch.state w = .exitAsked) :
    d.scan handler w world = ⟨.exit, { d with batch := d.batch.withState w .exitSeen }, world⟩ := by
  obtain ⟨rest, slots⟩ := d.scanned_first w
  simp only [scan, slots, scanSlots, asked, if_true, Batch.acknowledge_eq]

/-- A pass that does not find a request to exit at its own slot does not end, and leaves the slots
that are on their way through an exit. -/
theorem scan_of_exiting (handler : Handler W) (world : W) (exiting : (d.batch.state w).Exiting)
    (free : ∀ i : Fin n, i.val = v → d.batch.state i ≠ .exitAsked) :
    (d.scan handler v world).result ≠ .exit ∧
      (d.scan handler v world).dispatch.batch.state w = d.batch.state w := by
  rw [scan_eq handler free world]
  constructor
  · simp only
    split <;> simp
  · have other : w ∉ d.postedTo v := by
      intro mem
      have posted := (mem_postedTo.1 mem).2
      simp [posted, SlotState.Exiting] at exiting
    rw [Batch.state, slot_serveAll_of_notMem other, Batch.state]

end Dispatch

/-! ## One call -/

/-- What a call makes of a slot that is on its way through an exit, and of the worker's thread. -/
inductive ExitChange (w : Nat) (call : CrewCall n) :
    SlotState → WorkerThread → SlotState → WorkerThread → Prop where
  | same (x : SlotState) (t : WorkerThread) : ExitChange w call x t x t
  | started (x : SlotState) : ExitChange w call x .absent x .scanning
  | paced {x : SlotState} {t t' : WorkerThread} (runs : t.Runs) (runs' : t'.Runs) :
      ExitChange w call x t x t'
  | acknowledged {t : WorkerThread} (passes : call.Passes w) (runs : t.Runs) :
      ExitChange w call .exitAsked t .exitSeen .ended

namespace Pool

/-- A request to exit that is not answered in time stands in the slot. -/
theorem requestExit_of_stalled {v : Nat}
    (stalled : (p.requestExit d i).2.2 = .error (.transitionStalled v .exitSeen .exitAsked)) :
    v = i ∧ p.requestExit d i = (p, { d with batch := d.batch.withState i .exitAsked },
      .error (.transitionStalled i .exitSeen .exitAsked)) := by
  rw [requestExit_eq] at stalled ⊢
  by_cases idle : d.batch.state i ∈ [.unused, .waiting]
  · rw [if_pos idle] at stalled ⊢
    by_cases scans : p.thread i = .scanning
    · rw [if_pos scans] at stalled
      cases stalled
    · rw [if_neg scans] at stalled ⊢
      cases stalled
      exact ⟨rfl, rfl⟩
  · rw [if_neg idle] at stalled
    cases stalled

/-- A worker that is stopped and does not answer in time stays. -/
theorem release_of_stalled {u v : Nat}
    (stalled : (p.release d u).2.2 = .error (.transitionStalled v .exitSeen .exitAsked)) :
    p.isLive u ∧ ∃ hu : u < n, v = u ∧
      p.release d u = (p, { d with batch := d.batch.withState ⟨u, hu⟩ .exitAsked },
        .error (.transitionStalled u .exitSeen .exitAsked)) := by
  rw [release] at stalled ⊢
  by_cases live : p.isLive u
  · rw [if_neg (by simpa using live)] at stalled ⊢
    by_cases busy : d.ownedInUse u
    · rw [if_pos busy] at stalled
      cases stalled
    rw [if_neg busy] at stalled ⊢
    by_cases hu : u < n
    · rw [dif_pos hu] at stalled ⊢
      have exit : (p.requestExit d ⟨u, hu⟩).2.2 =
          .error (.transitionStalled v .exitSeen .exitAsked) := by
        cases hr : p.requestExit d ⟨u, hu⟩ with
        | mk q rest =>
        obtain ⟨d', result⟩ := rest
        rw [hr] at stalled
        cases result with
        | ok _ => cases stalled
        | error violation => exact stalled
      obtain ⟨rfl, eq⟩ := requestExit_of_stalled exit
      exact ⟨live, hu, rfl, by rw [eq]⟩
    · rw [dif_neg hu] at stalled
      cases stalled
  · rw [if_pos live] at stalled
    cases stalled

/-- A slot that is on its way through an exit, and its worker's thread, are left alone by requests
to exit. -/
theorem requestExit_of_exiting (p : Pool) (i : Fin n) (exiting : (d.batch.state w).Exiting) :
    (p.requestExit d i).2.1.batch.state w = d.batch.state w ∧
      (p.requestExit d i).1.thread w = p.thread w := by
  rw [requestExit_eq]
  by_cases idle : d.batch.state i ∈ [.unused, .waiting]
  · have other : ¬ (d.batch.state i).Exiting := by
      rintro (asked | seen)
      · simp [asked] at idle
      · simp [seen] at idle
    have ne : w.val ≠ i.val := fun same => other (Fin.ext same ▸ exiting)
    rw [if_pos idle]
    by_cases scans : p.thread i = .scanning
    · rw [if_pos scans]
      exact ⟨Batch.state_withState_of_exiting _ exiting other, thread_leave_of_ne ne⟩
    · rw [if_neg scans]
      exact ⟨Batch.state_withState_of_exiting _ exiting other, rfl⟩
  · rw [if_neg idle]
    exact ⟨rfl, rfl⟩

/-- The worker of a slot on its way through an exit cannot be stopped. -/
theorem release_of_busy (live : p.isLive w) (exiting : (d.batch.state w).Exiting) :
    p.release d w = (p, d, .error (.workerBusy w)) := by
  have used : d.ownedInUse w := by
    refine Dispatch.ownedInUse_iff.2 ⟨w, Dispatch.mem_owned_first w.isLt, Batch.inUse_iff.2 ?_⟩
    rcases exiting with asked | seen
    · simp [asked]
    · simp [seen]
  simp [release, live, used]

theorem release_of_exiting (p : Pool) (v : Nat) (exiting : (d.batch.state w).Exiting) :
    (p.release d v).2.1.batch.state w = d.batch.state w ∧
      (p.release d v).1.thread w = p.thread w := by
  by_cases live : p.isLive v
  · by_cases same : v = w.val
    · subst same
      rw [release_of_busy live exiting]
      exact ⟨rfl, rfl⟩
    · rw [release, if_neg (by simpa using live)]
      split
      · exact ⟨rfl, rfl⟩
      split
      · next hv =>
        have kept := requestExit_of_exiting p ⟨v, hv⟩ exiting
        cases hr : p.requestExit d ⟨v, hv⟩ with
        | mk q rest =>
        obtain ⟨d', result⟩ := rest
        rw [hr] at kept
        cases result with
        | ok _ => exact ⟨kept.1, (thread_join_of_ne (Ne.symm same)).trans kept.2⟩
        | error violation => exact kept
      · exact ⟨rfl, rfl⟩
  · rw [release, if_pos live]
    exact ⟨rfl, rfl⟩

theorem releaseEach_of_exiting (ws : List Nat) (exiting : (d.batch.state w).Exiting) :
    (releaseEach ws p d).2.1.batch.state w = d.batch.state w ∧
      (releaseEach ws p d).1.thread w = p.thread w := by
  induction ws generalizing p d with
  | nil => exact ⟨rfl, rfl⟩
  | cons v ws ih =>
    have first := release_of_exiting p v exiting
    rw [releaseEach]
    cases hr : p.release d v with
    | mk q rest =>
    obtain ⟨d', result⟩ := rest
    rw [hr] at first
    cases result with
    | ok _ =>
      obtain ⟨state, thread⟩ := ih (p := q) (d := d') (by rwa [first.1])
      exact ⟨state.trans first.1, thread.trans first.2⟩
    | error violation => exact first

/-- Stopping several workers fails if one of them cannot be stopped. -/
theorem releaseEach_ne_ok {ws : List Nat} (live : p.isLive w) (exiting : (d.batch.state w).Exiting)
    (mem : w.val ∈ ws) : (releaseEach ws p d).2.2 ≠ .ok () := by
  induction ws generalizing p d with
  | nil => cases mem
  | cons v ws ih =>
    have first := release_of_exiting p v exiting
    rw [releaseEach]
    cases hr : p.release d v with
    | mk q rest =>
    obtain ⟨d', result⟩ := rest
    rw [hr] at first
    cases result with
    | ok _ =>
      rcases List.mem_cons.1 mem with rfl | later
      · rw [release_of_busy live exiting] at hr
        cases hr
      · refine ih ?_ (by rwa [first.1]) later
        rwa [isLive, first.2]
    | error violation => simp

end Pool

namespace Crew

theorem exit_change_acquire (c : Crew n) (w : Fin n) (v : Nat) (x : SlotState) :
    ExitChange w (.acquire v : CrewCall n) x (c.thread w) x ((c.pool.acquire v).thread w) := by
  rw [Pool.acquire, thread]
  by_cases live : c.pool.isLive v
  · rw [if_pos live]
    exact .same x _
  rw [if_neg live, Pool.thread_note]
  by_cases same : v = w.val
  · subst same
    have absent : c.pool.thread w = .absent := by simpa [Pool.isLive] using live
    rw [absent]
    by_cases room : w < c.pool.threads.length
    · rw [Pool.thread_put_self room]
      exact .started x
    · have beyond : (c.pool.put w .scanning).thread w = .absent := by
        simp [Pool.thread, Pool.put, Nat.not_lt.1 room]
      rw [beyond]
      exact .same x _
  · rw [Pool.thread_put_of_ne _ (Ne.symm same)]
    exact .same x _

/-- A thread that changes its pace runs before and after. -/
theorem exit_change_paced {call : CrewCall n} {s t : WorkerThread} {v : Nat}
    (found : c.pool.thread v = s) (runs : s.Runs) (runs' : t.Runs) (x : SlotState) :
    ExitChange w call x (c.thread w) x ((c.pool.put v t).thread w) := by
  by_cases same : v = w.val
  · subst same
    have room : w < c.pool.threads.length := Pool.lt_of_runs (found ▸ runs)
    rw [thread, found, Pool.thread_put_self room]
    exact .paced runs runs'
  · rw [Pool.thread_put_of_ne _ (Ne.symm same)]
    exact .same x _

theorem exit_change_pass {W : Type} (c : Crew n) (v : Nat) (handler : Handler W) (world : W)
    (exiting : (c.state w).Exiting) :
    ExitChange w (.thread (.pass v handler world) : CrewCall n) (c.state w) (c.thread w)
      ((c.pass v handler world).1.state w) ((c.pass v handler world).1.thread w) := by
  rw [pass]
  by_cases runs : (c.pool.thread v).Runs
  · rw [if_pos runs]
    by_cases asked : ∃ i : Fin n, i.val = v ∧ c.dispatch.batch.state i = .exitAsked
    · obtain ⟨i, rfl, asked⟩ := asked
      rw [Dispatch.scan_of_asked handler world asked]
      by_cases same : i = w
      · subst same
        have room : i < c.pool.threads.length := Pool.lt_of_runs runs
        have seen : (c.dispatch.batch.withState i .exitSeen).state i = .exitSeen :=
          Batch.state_withState_self _ _ _
        simp only [if_true, state, thread, seen, Pool.thread_leave_self room, asked]
        exact .acknowledged rfl runs
      · have ne : w ≠ i := Ne.symm same
        simp only [if_true, state, thread, Batch.state_withState_of_ne _ _ ne,
          Pool.thread_leave_of_ne (Fin.val_ne_of_ne ne)]
        exact .same _ _
    · have free (i : Fin n) (mine : i.val = v) : c.dispatch.batch.state i ≠ .exitAsked :=
        fun found => asked ⟨i, mine, found⟩
      obtain ⟨stays, same⟩ := Dispatch.scan_of_exiting handler world exiting free
      simp only [if_neg stays, state, thread, same]
      exact .same _ _
  · rw [if_neg runs]
    exact .same _ _

theorem exit_change (c : Crew n) (call : CrewCall n) (exiting : (c.state w).Exiting) :
    ExitChange w call (c.state w) (c.thread w) ((c.perform call).1.state w)
      ((c.perform call).1.thread w) := by
  have same {c' : Crew n} (state : c'.state w = c.state w) (thread : c'.thread w = c.thread w) :
      ExitChange w call (c.state w) (c.thread w) (c'.state w) (c'.thread w) := by
    rw [state, thread]
    exact .same _ _
  have exchanged {r : Except Violation (Batch n)} (kept : ∀ b, r = .ok b → b.state w = c.state w) :
      ExitChange w call (c.state w) (c.thread w) ((c.exchange r).1.state w)
        ((c.exchange r).1.thread w) := by
    cases r with
    | ok b => exact same (kept b rfl) rfl
    | error v => exact same rfl rfl
  cases call with
  | claim i =>
    refine exchanged fun b claimed => ?_
    rw [Batch.claim_eq] at claimed
    exact Batch.state_of_ok_of_exiting exiting (by simp [SlotState.Exiting]) claimed
  | free i =>
    refine exchanged fun b freed => ?_
    rw [Batch.release_eq] at freed
    exact Batch.state_of_ok_of_exiting exiting (by simp [SlotState.Exiting]) freed
  | mark highWater => exact same rfl rfl
  | post i job => exact same (Batch.state_post_of_exiting exiting i job) rfl
  | finish i code => exact same (Batch.state_finish_of_exiting exiting i code) rfl
  | acquire v => exact c.exit_change_acquire w v _
  | requestExit i =>
    obtain ⟨state, thread⟩ := c.pool.requestExit_of_exiting i exiting
    exact same state thread
  | release v =>
    obtain ⟨state, thread⟩ := c.pool.release_of_exiting v exiting
    exact same state thread
  | releaseAll =>
    obtain ⟨state, thread⟩ := Pool.releaseEach_of_exiting (p := c.pool)
      (List.range c.pool.threads.length) exiting
    exact same state thread
  | thread move =>
    cases move with
    | pass v handler world => exact c.exit_change_pass v handler world exiting
    | slow v =>
      simp only [perform, Crew.move, Pool.slow]
      split
      · next found => exact exit_change_paced found (.inl rfl) (.inr rfl) _
      · exact same rfl rfl
    | prompt v =>
      simp only [perform, Crew.move, Pool.prompt]
      split
      · next found => exact exit_change_paced found (.inr rfl) (.inl rfl) _
      · exact same rfl rfl

/-! ## Several calls -/

/-- What every one of some calls keeps, all of them keep. -/
theorem keeps_performAll {P : Crew n → Prop} {calls : List (CrewCall n)}
    (step : ∀ call ∈ calls, ∀ c, P c → P (c.perform call).1) (start : P c) :
    P (c.performAll calls) := by
  induction calls generalizing c with
  | nil => exact start
  | cons call calls ih =>
    exact ih (fun later mem => step later (List.mem_cons_of_mem _ mem))
      (step call List.mem_cons_self c start)

theorem asked_perform (asked : c.state w = .exitAsked) {call : CrewCall n}
    (silent : ¬ call.Passes w) : (c.perform call).1.state w = .exitAsked := by
  have change := c.exit_change call (.inl asked)
  rw [asked] at change
  generalize c.thread w = t at change
  generalize (c.perform call).1.state w = y at change ⊢
  generalize (c.perform call).1.thread w = s at change
  cases change with
  | same | started | paced => rfl
  | acknowledged passes => exact absurd passes silent

/-- A request to exit stands until the worker passes. -/
theorem asked_performAll (asked : c.state w = .exitAsked) (calls : List (CrewCall n))
    (silent : ∀ call ∈ calls, ¬ call.Passes w) : (c.performAll calls).state w = .exitAsked :=
  keeps_performAll (P := fun c => c.state w = .exitAsked)
    (fun call mem _ asked => asked_perform asked (silent call mem)) asked

/-- The worker's first slot is on its way through an exit, and the pool has a thread of it. -/
structure Standing (c : Crew n) (w : Fin n) : Prop where
  exiting : (c.state w).Exiting
  live : c.thread w ≠ .absent

theorem Standing.perform (standing : c.Standing w) (call : CrewCall n) :
    (c.perform call).1.Standing w := by
  have change := c.exit_change call standing.exiting
  suffices kept : ((c.perform call).1.state w).Exiting ∧ (c.perform call).1.thread w ≠ .absent from
    ⟨kept.1, kept.2⟩
  obtain ⟨exiting, live⟩ := standing
  generalize c.state w = x at change exiting
  generalize c.thread w = t at change live
  generalize (c.perform call).1.state w = y at change ⊢
  generalize (c.perform call).1.thread w = s at change ⊢
  cases change with
  | same => exact ⟨exiting, live⟩
  | started => exact absurd rfl live
  | paced runs runs' => exact ⟨exiting, runs'.ne_absent⟩
  | acknowledged => exact ⟨.inr rfl, by simp⟩

theorem Standing.performAll (standing : c.Standing w) (calls : List (CrewCall n)) :
    (c.performAll calls).Standing w :=
  keeps_performAll (P := fun c => c.Standing w) (fun call _ _ standing => standing.perform call)
    standing

/-- The thread of a worker has ended without being joined, and its acknowledgement still stands in
its first slot. -/
structure Lost (c : Crew n) (w : Fin n) : Prop where
  seen : c.state w = .exitSeen
  ended : c.thread w = .ended

theorem Lost.standing (lost : c.Lost w) : c.Standing w :=
  ⟨.inr lost.seen, by simp [lost.ended]⟩

theorem Lost.perform (lost : c.Lost w) (call : CrewCall n) : (c.perform call).1.Lost w := by
  have change := c.exit_change call (.inr lost.seen)
  suffices kept : (c.perform call).1.state w = .exitSeen ∧ (c.perform call).1.thread w = .ended from
    ⟨kept.1, kept.2⟩
  rw [lost.seen, lost.ended] at change
  generalize (c.perform call).1.state w = y at change ⊢
  generalize (c.perform call).1.thread w = s at change ⊢
  cases change with
  | same => exact ⟨rfl, rfl⟩
  | paced runs => simp [WorkerThread.Runs] at runs

theorem Lost.performAll (lost : c.Lost w) (calls : List (CrewCall n)) :
    (c.performAll calls).Lost w :=
  keeps_performAll (P := fun c => c.Lost w) (fun call _ _ lost => lost.perform call) lost

/-! ## What is answered -/

/-- A request to exit that is not answered in time stands in the slot. -/
theorem asked_of_stalled {ask : CrewCall n} (asks : ask = .release w ∨ ask = .requestExit w)
    (stalled : (c.perform ask).2 = .error (.transitionStalled w .exitSeen .exitAsked)) :
    (c.perform ask).1.state w = .exitAsked := by
  rcases asks with rfl | rfl
  · obtain ⟨-, _, -, eq⟩ := Pool.release_of_stalled stalled
    simp only [perform, ofPool, eq]
    exact Batch.state_withState_self _ _ _
  · obtain ⟨-, eq⟩ := Pool.requestExit_of_stalled stalled
    simp only [perform, ofPool, eq]
    exact Batch.state_withState_self _ _ _

/-- A thread that runs ends with its next pass if it is asked to exit. -/
theorem lost_of_asked {W : Type} (handler : Handler W) (world : W) (asked : c.state w = .exitAsked)
    (runs : (c.thread w).Runs) :
    (c.pass w handler world).2 = some .exit ∧ (c.pass w handler world).1.Lost w := by
  have here : (c.pool.thread w).Runs := runs
  rw [pass, if_pos here, Dispatch.scan_of_asked handler world asked]
  exact ⟨rfl, Batch.state_withState_self _ _ _, Pool.thread_leave_self (Pool.lt_of_runs runs)⟩

/-- How calls answer about a worker that is lost: as if it were still at work. -/
structure Deserted (c : Crew n) (w : Fin n) : Prop extends Lost c w where
  live : c.pool.isLive w
  claimed : c.dispatch.batch.inUse w
  release : c.perform (.release w) = (c, .error (.workerBusy w))
  requestExit : c.perform (.requestExit w) = (c, .error (.transitionStalled w .unused .exitSeen))
  claim : c.perform (.claim w) = (c, .error (.slotInUse w))
  free : c.perform (.free w) = (c, .error (.transitionStalled w .waiting .exitSeen))
  releaseAll : (c.perform .releaseAll).2 ≠ .ok ()
  acquire : c.perform (.acquire w) = (c, .ok ())
  pass {W : Type} (handler : Handler W) (world : W) : c.pass w handler world = (c, none)

theorem Lost.deserted (lost : c.Lost w) : c.Deserted w := by
  have seen : c.dispatch.batch.state w = .exitSeen := lost.seen
  have ended : c.pool.thread w = .ended := lost.ended
  have live : c.pool.isLive w := Pool.isLive_iff.2 (by simp [ended])
  refine ⟨lost, live, Batch.inUse_iff.2 (by simp [seen]), ?_, ?_, ?_, ?_, ?_, ?_, fun handler world => ?_⟩
  · simp only [Crew.perform, Pool.release_of_busy live (.inr seen)]
    rfl
  · simp [Crew.perform, Pool.requestExit_eq, seen, ofPool]
  · simp [Crew.perform, Batch.claim_eq, seen, exchange]
  · simp [Crew.perform, Batch.release_eq, seen, exchange]
  · exact Pool.releaseEach_ne_ok live (.inr seen) (List.mem_range.2 (Pool.lt_of_isLive live))
  · simp [Crew.perform, Pool.acquire, live]
  · simp [Crew.pass, ended, WorkerThread.Runs]

/-- A worker without claimed slots is stopped at once if its thread answers in time; if it does not,
the request to exit stands. -/
theorem release_of_free (live : c.pool.isLive w) (free : c.dispatch.ownedInUse w = false) :
    (c.thread w = .scanning →
        c.perform (.release w) = (⟨c.pool.stopped w, c.dispatch⟩, .ok ())) ∧
      (c.thread w ≠ .scanning →
        (c.perform (.release w)).2 = .error (.transitionStalled w .exitSeen .exitAsked)) := by
  refine ⟨fun scanning => ?_, fun late => ?_⟩
  · simp only [perform, Pool.release_of_scanning scanning free w.isLt]
    rfl
  · simp only [perform, Pool.release_of_late live late free w.isLt]
    rfl

end Crew

end PluginBridge
