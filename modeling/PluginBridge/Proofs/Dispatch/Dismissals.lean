import PluginBridge.Proofs.Dispatch.Dues
import PluginBridge.Proofs.Engine.Calls

/-!
# Workers that are dismissed

Only a worker without claimed slots is dismissed. The request to exit goes through its first slot,
the next pass of its thread acknowledges it there without a call of the handler, and the slot is
given back as it was (`Dispatch.exit_of_unused`).

A crew is regular if its threads answer in time and are accounted for, and no slot is on its way
through an exit. All that is done to it keeps it so (`Crew.Regular.perform`), so that it can be read
off the log of its pool which threads were started, ended and joined on the way.
-/

namespace PluginBridge

variable {n : Nat}

/-- A slot that is unused can carry the request to exit: the next pass of its worker ends with it,
and the slot is unused again, with everything else as it was. -/
theorem Dispatch.exit_of_unused {d : Dispatch n} {w : Fin n} (unused : d.batch.state w = .unused) :
    ∃ asked seen : Batch n, d.batch.askExit w = .ok asked ∧
      (∀ {W : Type} (handler : Handler W) (world : W),
        { d with batch := asked }.scan handler w world =
          ⟨.exit, { d with batch := seen }, world⟩) ∧
      seen.finishExit w = .ok d.batch := by
  have same : d.batch.withState w .unused = d.batch := by
    rw [← unused, Batch.withState, Slot.withState]
    exact d.batch.put_slot w
  refine ⟨d.batch.withState w .exitAsked, d.batch.withState w .exitSeen, ?_,
    fun handler world => ?_, ?_⟩
  · simp [Batch.askExit, Batch.drive_eq, unused]
  · rw [Dispatch.scan_of_asked handler world (Batch.state_withState_self ..),
      Batch.withState_withState]
  · simp [Batch.finishExit, Batch.drive_eq, same]

/-! ## Calls to a regular crew -/

/-- A call to a crew with a number of workers: slots are claimed, released, posted and answered,
workers are started and stopped, and threads pass over their slots and answer in time. An exit is
asked for as a part of stopping a worker only. -/
def CrewCall.Regular (workers : Nat) : CrewCall n → Prop
  | .acquire w => w < workers
  | .requestExit _ | .thread (.slow _) => False
  | _ => True

namespace Crew

variable {c : Crew n} {m : Nat}

/-- What holds of a crew with a number of workers between two calls, if its threads answer in
time. -/
structure Regular (c : Crew n) (m : Nat) : Prop where
  workers : c.dispatch.workers = m
  room : c.pool.threads.length = m
  ordinary : ∀ i, (c.state i).Ordinary
  scanning : c.pool.Scanning n
  accounted : c.pool.Accounted

/-- A crew without threads and claimed slots. -/
def begun (n m : Nat) : Crew n := ⟨Pool.empty m, Dispatch.start n m⟩

theorem regular_begun (n m : Nat) : (begun n m).Regular m where
  workers := rfl
  room := by simp [begun, Pool.empty]
  ordinary i := by simp [begun, state, Dispatch.start, Batch.state, Slot.fresh, SlotState.Ordinary]
  scanning w live := absurd live (Pool.not_isLive_empty m [] w)
  accounted := Pool.accounted_empty m

/-- Another batch of ordinary slots keeps a crew regular. -/
theorem Regular.withBatch (regular : c.Regular m) {b : Batch n}
    (ordinary : ∀ i, (b.state i).Ordinary) :
    Regular ⟨c.pool, { c.dispatch with batch := b }⟩ m :=
  ⟨regular.workers, regular.room, ordinary, regular.scanning, regular.accounted⟩

theorem Regular.withState (regular : c.Regular m) (i : Fin n) {x : SlotState}
    (ordinary : x.Ordinary) :
    Regular ⟨c.pool, { c.dispatch with batch := c.dispatch.batch.withState i x }⟩ m := by
  refine regular.withBatch fun j => ?_
  by_cases here : j = i
  · subst here
    rwa [Batch.state_withState_self]
  · rw [Batch.state_withState_of_ne _ _ here]
    exact regular.ordinary j

/-- Threads may be stopped. -/
theorem Regular.withPool (regular : c.Regular m) {q : Pool}
    (room : q.threads.length = c.pool.threads.length) (scanning : q.Scanning n)
    (accounted : q.Accounted) : Regular ⟨q, c.dispatch⟩ m :=
  ⟨regular.workers, room.trans regular.room, regular.ordinary, scanning, accounted⟩

/-- A pass over ordinary slots leaves ordinary slots, and the thread goes on. -/
theorem Regular.pass (regular : c.Regular m) {W : Type} (w : Nat) (handler : Handler W)
    (world : W) : (c.pass w handler world).1.Regular m := by
  rw [Crew.pass]
  by_cases runs : (c.pool.thread w).Runs
  · have running (i : Fin n) (_ : i.val = w) : c.dispatch.batch.state i ≠ .exitAsked := by
      intro asked
      have ordinary := regular.ordinary i
      rw [state, asked] at ordinary
      simp [SlotState.Ordinary] at ordinary
    have stays : (c.dispatch.scan handler w world).result ≠ .exit := by
      rw [Dispatch.scan_eq handler running world]
      simp only
      split <;> simp
    have nodup : (c.dispatch.postedTo w).Nodup :=
      (c.dispatch.postedTo_pairwise w).imp Fin.ne_of_lt
    have served := regular.withBatch
      (b := (Dispatch.serveAll handler (c.dispatch.postedTo w) c.dispatch world).1.batch) fun i => by
        by_cases mem : i ∈ c.dispatch.postedTo w
        · rw [Dispatch.state_serveAll nodup mem (Dispatch.mem_postedTo.1 mem).2]
          simp [SlotState.Ordinary]
        · rw [Batch.state, Dispatch.slot_serveAll_of_notMem mem]
          exact regular.ordinary i
    rw [← Dispatch.serveAll_batch] at served
    rw [if_pos runs]
    simp only [if_neg stays]
    rw [Dispatch.scan_eq handler running world]
    exact served
  · rw [if_neg runs]
    exact regular

theorem Regular.acquire (regular : c.Regular m) {w : Nat} (mine : w < m) (room : m ≤ n) :
    Regular ⟨c.pool.acquire w, c.dispatch⟩ m := by
  have here : w < c.pool.threads.length := by rwa [regular.room]
  exact regular.withPool (c.pool.length_acquire w)
    (regular.scanning.acquire here (Nat.lt_of_lt_of_le mine room)) (regular.accounted.acquire here)

/-- A worker that is stopped or has no thread is left without one; one that is refused stays. -/
theorem Regular.perform_release (regular : c.Regular m) (w : Nat) :
    c.perform (.release w) =
      if c.pool.isHeld c.dispatch w then (c, .error (.workerBusy w))
      else (⟨c.pool.dismiss w, c.dispatch⟩, .ok ()) := by
  by_cases held : c.pool.isHeld c.dispatch w
  · rw [if_pos held, Crew.perform, Pool.release_of_held held]
    rfl
  · rw [if_neg held, Crew.perform, Pool.release_of_free regular.scanning held]
    rfl

theorem Regular.perform_releaseAll (regular : c.Regular m) :
    c.perform .releaseAll =
      (⟨c.pool.dismissAll (List.range (c.pool.firstHeld c.dispatch)), c.dispatch⟩,
        if c.pool.firstHeld c.dispatch < m then
          .error (.workerBusy (c.pool.firstHeld c.dispatch)) else .ok ()) := by
  rw [Crew.perform, Pool.releaseAll_eq regular.scanning, regular.room]
  rfl

/-- A regular crew stays regular whatever is called. -/
theorem Regular.perform (regular : c.Regular m) (room : m ≤ n) {call : CrewCall n}
    (allowed : call.Regular m) : (c.perform call).1.Regular m := by
  cases call with
  | claim i =>
    rw [Crew.perform, Batch.claim_eq]
    split
    · exact regular.withState i (by simp [SlotState.Ordinary])
    · exact regular
  | free i =>
    rw [Crew.perform, Batch.release_eq]
    split
    · exact regular.withState i (by simp [SlotState.Ordinary])
    · exact regular
  | mark highWater =>
    exact ⟨regular.workers, regular.room, regular.ordinary, regular.scanning, regular.accounted⟩
  | post i job =>
    exact regular.withBatch fun j =>
      (c.dispatch.batch.alike_post i job).ordinary j (regular.ordinary j)
  | finish i code =>
    exact regular.withBatch fun j =>
      (c.dispatch.batch.alike_finish i code).ordinary j (regular.ordinary j)
  | acquire w => exact regular.acquire allowed room
  | requestExit i => exact allowed.elim
  | release w =>
    have accounted := regular.accounted.release c.dispatch w
    have eq := regular.perform_release w
    rw [eq]
    split
    · exact regular
    · next free =>
      rw [Pool.release_of_free regular.scanning free] at accounted
      exact regular.withPool (c.pool.length_dismiss w) (regular.scanning.dismiss w) accounted
  | releaseAll =>
    have accounted := regular.accounted.releaseAll c.dispatch
    rw [Pool.releaseAll_eq regular.scanning] at accounted
    rw [regular.perform_releaseAll]
    exact regular.withPool (c.pool.length_dismissAll _) (regular.scanning.dismissAll _) accounted
  | thread move =>
    cases move with
    | pass w handler world => exact regular.pass w handler world
    | slow w => exact allowed.elim
    | prompt w =>
      have fast : c.pool.thread w ≠ .slow := by
        intro slow
        have scanning := (regular.scanning w (Pool.isLive_iff.2 (by simp [slow]))).1
        rw [slow] at scanning
        cases scanning
      simp only [Crew.perform, Crew.move, Pool.prompt, if_neg fast]
      exact regular

theorem Regular.performAll (regular : c.Regular m) (room : m ≤ n) {calls : List (CrewCall n)}
    (allowed : ∀ call ∈ calls, call.Regular m) : (c.performAll calls).Regular m :=
  keeps_performAll (P := fun c => c.Regular m)
    (fun call mem _ regular => regular.perform room (allowed call mem)) regular

/-- A worker owns a claimed slot if some slot of its remainder is not unused. -/
theorem Regular.ownedInUse_iff (regular : c.Regular m) {w : Nat} (live : c.pool.isLive w) :
    c.dispatch.ownedInUse w ↔ ∃ i : Fin n, i.val % m = w ∧ c.state i ≠ .unused := by
  have mine : w < c.dispatch.workers := by
    rw [regular.workers, ← regular.room]
    exact Pool.lt_of_isLive live
  simp only [Dispatch.ownedInUse_iff, Dispatch.mem_owned_iff mine, Batch.inUse_iff,
    regular.workers, state]

/-- **Only idle workers are stopped.** Let slots be claimed, released, posted and answered and
workers be started and stopped in any order, with at least one slot for each worker and threads that
answer in time. The log of the pool tells which threads were started, ended and joined. At no time
was a thread of a worker started before the one before it was joined, and just those run that have
not ended. A live worker is refused, and nothing changes, exactly if some slot of its remainder is
not unused; otherwise its thread ends by its own next pass, which calls no handler, and is joined,
and everything else is as it was. To stop a worker without a thread changes nothing. To stop all of
them stops the live ones in order up to the first that is refused: this one is reported, and it and
all later ones go on. -/
theorem stops_only_idle_workers (room : m ≤ n) (calls : List (CrewCall n))
    (allowed : ∀ call ∈ calls, call.Regular m) :
    let c := (begun n m).performAll calls
    (ThreadEvent.InTurn c.pool.log ∧
      ∀ w, c.pool.log.count (.started w) =
        c.pool.log.count (.ended w) + if (c.pool.thread w).Runs then 1 else 0) ∧
    (∀ w, c.pool.isLive w →
      (c.perform (.release w) = (c, .error (.workerBusy w)) ↔
        ∃ i : Fin n, i.val % m = w ∧ c.state i ≠ .unused) ∧
      ((∀ i : Fin n, i.val % m = w → c.state i = .unused) →
        ∃ q : Pool, c.perform (.release w) = (⟨q, c.dispatch⟩, .ok ()) ∧
        (∀ v, q.thread v = if v = w then .absent else c.pool.thread v) ∧
        q.log = .joined w :: .ended w :: c.pool.log ∧
        ∃ i : Fin n, i.val = w ∧ ∃ asked seen : Batch n, c.dispatch.batch.askExit i = .ok asked ∧
          (∀ {W : Type} (handler : Handler W) (world : W),
            { c.dispatch with batch := asked }.scan handler w world =
              ⟨.exit, { c.dispatch with batch := seen }, world⟩) ∧
          seen.finishExit i = .ok c.dispatch.batch)) ∧
    (∀ w, ¬ c.pool.isLive w → c.perform (.release w) = (c, .ok ())) ∧
    ∃ b ≤ m,
      (∀ w < b, c.pool.isLive w → ∀ i : Fin n, i.val % m = w → c.state i = .unused) ∧
      (b < m → c.pool.isLive b ∧ ∃ i : Fin n, i.val % m = b ∧ c.state i ≠ .unused) ∧
      (c.perform .releaseAll).2 = (if b < m then .error (.workerBusy b) else .ok ()) ∧
      (c.perform .releaseAll).1.dispatch = c.dispatch ∧
      (∀ w, (c.perform .releaseAll).1.pool.thread w =
        if w < b then .absent else c.pool.thread w) ∧
      (c.perform .releaseAll).1.pool.log =
        (((List.range b).filter c.pool.isLive).flatMap fun w => [.ended w, .joined w]).reverse ++
          c.pool.log := by
  intro c
  have regular : c.Regular m := (regular_begun n m).performAll room allowed
  have idle {w : Nat} (live : c.pool.isLive w) :
      (∀ i : Fin n, i.val % m = w → c.state i = .unused) ↔ ¬ c.pool.isHeld c.dispatch w := by
    simp [Pool.isHeld, live, regular.ownedInUse_iff live, not_exists, not_and]
  refine ⟨⟨regular.accounted.inTurn, regular.accounted.running⟩,
    fun w live => ⟨?_, fun unused => ?_⟩, fun w gone => ?_, c.pool.firstHeld c.dispatch, ?_,
    fun w lt live => ?_, fun lt => ?_, ?_, ?_, fun w => ?_, ?_⟩
  · have held : c.pool.isHeld c.dispatch w ↔ ∃ i : Fin n, i.val % m = w ∧ c.state i ≠ .unused := by
      rw [Pool.isHeld, live, Bool.true_and, regular.ownedInUse_iff live]
    rw [regular.perform_release w, ← held]
    by_cases busy : c.pool.isHeld c.dispatch w
    · simp [busy]
    · simp [busy]
  · have free := (idle live).1 unused
    have mine : w < m := by
      rw [← regular.room]
      exact Pool.lt_of_isLive live
    have first : c.state ⟨w, Nat.lt_of_lt_of_le mine room⟩ = .unused :=
      unused _ (Nat.mod_eq_of_lt mine)
    refine ⟨c.pool.stopped w, ?_, c.pool.thread_stopped w, c.pool.log_stopped w, _, rfl,
      Dispatch.exit_of_unused first⟩
    rw [regular.perform_release w, if_neg free, Pool.dismiss, if_pos live]
  · have free : ¬ c.pool.isHeld c.dispatch w := by simp [Pool.isHeld, gone]
    rw [regular.perform_release w, if_neg free, Pool.dismiss, if_neg gone]
  · rw [← regular.room]
    exact c.pool.firstHeld_le c.dispatch
  · exact (idle live).2 (Pool.not_isHeld_of_lt lt)
  · rw [← regular.room] at lt
    have held := Pool.isHeld_firstHeld lt
    have live := (Bool.and_eq_true_iff.1 held).1
    exact ⟨live, (regular.ownedInUse_iff live).1 (Bool.and_eq_true_iff.1 held).2⟩
  · rw [regular.perform_releaseAll]
  · rw [regular.perform_releaseAll]
  · rw [regular.perform_releaseAll, Pool.thread_dismissAll]
    simp only [List.mem_range]
  · rw [regular.perform_releaseAll]
    exact c.pool.log_dismissAll List.nodup_range

/-- Three workers are started and serve a request; the second slot of the second worker stays
claimed. -/
def halfIdle : List (CrewCall 5) :=
  [.mark 5, .acquire 0, .acquire 1, .acquire 2, .acquire 1, .claim 4,
    .post 4 ⟨⟨5, by decide, by decide⟩, 7, 0, 1⟩,
    .thread (.pass 1 (fun _ _ => (.code .success, ())) ()), .finish 4 .success, .claim 0,
    .release 0, .free 0, .release 2, .acquire 2]

/-- The second worker is refused. When all are to be stopped, the first one goes. -/
theorem stops_only_idle_workers_half :
    (3 ≤ 5 ∧ ∀ call ∈ halfIdle, call.Regular 3) ∧
      let c := (begun 5 3).performAll halfIdle
      c.pool.log =
          [.started 2, .joined 2, .ended 2, .started 2, .started 1, .started 0] ∧
        c.perform (.release 1) = (c, .error (.workerBusy 1)) ∧
        (c.perform (.release 2)).2 = .ok () ∧
        (c.perform .releaseAll).2 = .error (.workerBusy 1) ∧
        ∀ w < 3, (c.perform .releaseAll).1.pool.thread w =
          if w = 0 then .absent else .scanning := by
  have allowed : ∀ call ∈ halfIdle, call.Regular 3 := by
    simp [halfIdle, CrewCall.Regular]
  refine ⟨⟨by decide, allowed⟩, ?_⟩
  intro c
  obtain ⟨-, stops, -, b, le, before, busy, reported, -, threads, -⟩ :=
    stops_only_idle_workers (m := 3) (by decide) halfIdle allowed
  have scanning (w : Nat) (lt : w < 3) : c.pool.thread w = .scanning := by
    decide +kernel +revert
  have live (w : Nat) (lt : w < 3) : c.pool.isLive w := Pool.isLive_iff.2 (by simp [scanning w lt])
  have claimed (i : Fin 5) : c.state i ≠ .unused ↔ i = 4 := by decide +kernel +revert
  have first : b = 1 := by
    by_contra ne
    obtain rfl | lt : b = 0 ∨ 1 < b := by omega
    · obtain ⟨-, i, owned, used⟩ := busy (by decide)
      rw [(claimed i).1 used] at owned
      cases owned
    · exact (claimed 4).2 rfl (before 1 lt (live 1 (by decide)) 4 rfl)
  have third (i : Fin 5) (owned : i.val % 3 = 2) : c.state i = .unused := by
    by_contra used
    rw [(claimed i).1 used] at owned
    cases owned
  subst first
  obtain ⟨q, stopped, -⟩ := (stops 2 (live 2 (by decide))).2 third
  refine ⟨by decide +kernel, (stops 1 (live 1 (by decide))).1.2 ⟨4, rfl, (claimed 4).2 rfl⟩,
    congrArg Prod.snd stopped, reported, fun w lt => ?_⟩
  rw [threads w, scanning w lt]
  simp only [Nat.lt_one_iff]

end Crew

end PluginBridge
