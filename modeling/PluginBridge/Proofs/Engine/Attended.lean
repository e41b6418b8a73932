import PluginBridge.Proofs.Dispatch.Passes
import PluginBridge.Proofs.Dispatch.Threads
import PluginBridge.Proofs.Engine.Jobs

/-!
# Posted requests are attended

Whatever has been called, a posted slot belongs to the current batch, the high-water mark stands
above it, and the thread of its worker scans. So the worker's next pass meets it and serves it
(`posted_is_attended`). No other thread does: each worker has at most one, because the log of the pool
goes on from one activation to the next, and tells of no thread that was started before the one
before it was joined (`accounted_performAll`).
-/

namespace PluginBridge

/-- The worker of a claimed slot is the only one that scans it. -/
theorem Staffed.scanned_iff {n : Nat} {p : Pool} {d : Dispatch n} {i : Fin n} (staffed : Staffed p d)
    (used : d.batch.inUse i) (w : Nat) :
    p.thread w = .scanning ∧ i ∈ d.scanned w ↔ w = d.owner i := by
  constructor
  · rintro ⟨scanning, mem⟩
    have live : p.isLive w := Pool.isLive_iff.2 (by simp [scanning])
    have hw : w < d.workers := staffed.room ▸ Pool.lt_of_isLive live
    exact (Dispatch.owner_eq_of_mem hw (Dispatch.mem_scanned.1 mem).1).symm
  · rintro rfl
    refine ⟨(staffed.scanning _ (staffed.manned i used)).1, Dispatch.mem_scanned.2 ?_⟩
    exact ⟨d.mem_owned_owner i, .inr (staffed.marked.above i used)⟩

namespace Engine

variable {e e' : Engine} {d : Dispatch slotCount} {h : Handle} {c : Client}

/-! ## The threads of an engine over time -/

theorem pool_retire (e : Engine) : e.retire.pool = e.pool := by
  rw [retire]
  split <;> rfl

theorem pool_settle (e : Engine) : e.settle.1.pool = e.pool := by
  rw [settle]
  split
  · rw [deactivate]
    split
    · rfl
    · exact e.pool_retire
  · rfl

theorem accounted_releaseSlot (a : e.pool.Accounted) (d : Dispatch slotCount) (i : Fin slotCount) :
    (e.releaseSlot d i).1.pool.Accounted := by
  rw [releaseSlot]
  split
  · exact a
  · dsimp only
    split
    · exact a
    · exact a.release _ _

theorem accounted_stop (a : e.pool.Accounted) (h : Handle) : (e.stop h).1.pool.Accounted := by
  have counted : e.countDown.pool.Accounted := a
  have course := e.stop_course h
  generalize e.stop h = stopped at course ⊢
  cases course with
  | unbalanced => exact a
  | free =>
    rw [pool_settle]
    exact counted
  | @refused d _ _ _ refused =>
    have released := accounted_releaseSlot counted d h.slot
    rwa [refused] at released
  | @released d e' _ released =>
    have stopped := accounted_releaseSlot counted d h.slot
    rw [released] at stopped
    rwa [pool_settle]

theorem accounted_teardown (a : e.pool.Accounted) : e.teardown.1.pool.Accounted := by
  rw [teardown]
  cases e.dispatch with
  | none => exact a
  | some d =>
    dsimp only
    cases releaseSlots (List.finRange slotCount) d.batch with
    | mk batch answer =>
    cases answer with
    | error v => exact a
    | ok _ =>
      have stopped := a.releaseAll { d with batch, highWater := 0 }
      dsimp only
      split
      · rw [pool_retire]
        exact stopped
      · exact stopped

/-- An activation begins with an empty pool, which takes over a log in which nobody is left. -/
theorem Consistent.accounted_counted (consistent : e.Consistent) (a : e.pool.Accounted)
    (counted : e.Counted e') : e'.pool.Accounted := by
  cases counted with
  | @first b none down =>
    have torn := accounted_teardown a
    have left := consistent.teardown none
    rw [down] at torn left
    exact torn.renew (left.idle (dispatch_teardown down)) _
  | further => exact a

theorem Consistent.accounted_start (consistent : e.Consistent) (a : e.pool.Accounted) (h : Handle) :
    (e.start h).1.pool.Accounted := by
  have outcome := e.start_outcome h
  generalize e.start h = started at outcome ⊢
  cases outcome with
  | refused none down =>
    have torn := accounted_teardown a
    rwa [down] at torn
  | direct counted => exact consistent.accounted_counted a counted
  | @claimed b d counted hd =>
    have staffed := (consistent.counted counted).1.staffed d hd
    have room : d.owner h.slot < b.pool.threads.length := by
      rw [staffed.room]
      exact d.owner_lt h.slot staffed.some
    exact (consistent.accounted_counted a counted).acquire room
  | inUse => exact a

theorem pool_putBatch (e : Engine) (c : Client) (b : Batch slotCount) :
    (e.putBatch c b).pool = e.pool := by
  rw [putBatch]
  split <;> rfl

theorem Consistent.accounted_perform (consistent : e.Consistent) (a : e.pool.Accounted)
    (call : EngineCall) : (e.perform call).pool.Accounted := by
  cases call with
  | start h => exact consistent.accounted_start a h
  | stop h => exact accounted_stop a h
  | setEnabled enabled => exact a
  | post c job =>
    rw [Engine.perform, Engine.post]
    split
    · rw [pool_putBatch]
      exact a
    · exact a
  | finish c code =>
    rw [Engine.perform, Engine.finish]
    split
    · rw [pool_putBatch]
      exact a
    · exact a

/-- The threads of an engine are accounted for, whatever was called. -/
theorem accounted_performAll (consistent : e.Consistent) (a : e.pool.Accounted)
    (calls : List EngineCall) : (e.performAll calls).pool.Accounted := by
  induction calls generalizing e with
  | nil => exact a
  | cons call calls ih => exact ih (consistent.perform call) (consistent.accounted_perform a call)

/-! ## Posted slots -/

/-- Posted slots hold one job each. -/
theorem Laden.jobs (laden : e.Laden) (hd : e.dispatch = some d) {l : List (Fin slotCount)}
    (posted : ∀ i ∈ l, d.batch.state i = .posted) :
    l.map d.batch.job? = (l.filterMap d.batch.job?).map some := by
  induction l with
  | nil => rfl
  | cons i rest ih =>
    have held := laden ⟨e.retired.length, i⟩ (by
      rw [state?_of_current rfl, hd, Option.map_some, posted i List.mem_cons_self])
    rw [job?, batchOf?, if_pos rfl, hd] at held
    obtain ⟨job, found⟩ := Option.isSome_iff_exists.1 held
    have found : d.batch.job? i = some job := found
    rw [List.map_cons, List.filterMap_cons_some found, List.map_cons, found,
      ih fun j mem => posted j (List.mem_cons_of_mem i mem)]

/-- **Posted requests are attended.** Whatever has been called, on which side and in which order,
and whether it succeeded or not: a posted slot belongs to the batch of the current activation, and
among all worker indices exactly one, the remainder of the slot's index, has a scanning thread that
looks at the slot. The log of the pool tells which threads were started, ended and joined since the
engine was made: none was started before the one before it of its index was joined, and of all that
were started for this index just this one has not ended. Its next pass calls the handler once for
each posted slot that it looks at, in increasing order and with the job that is in the slot, and
leaves the slot waiting. -/
theorem posted_is_attended (config : Config) (machine : Nat) (calls : List EngineCall) {c : Client}
    (posted : ((new config machine).performAll calls).state? c = some .posted) :
    let e := (new config machine).performAll calls
    let owner := c.slot.val % e.maxWorkers
    c.activation = e.retired.length ∧ ∃ d, e.dispatch = some d ∧ d.workers = e.maxWorkers ∧
      (∀ w, e.pool.thread w = .scanning ∧ c.slot ∈ d.scanned w ↔ w = owner) ∧
      ThreadEvent.InTurn e.pool.log ∧
      e.pool.log.count (.started owner) = e.pool.log.count (.ended owner) + 1 ∧
      c.slot ∈ d.postedTo owner ∧ (d.postedTo owner).Pairwise (· < ·) ∧
      ∃ jobs : List Job, (d.postedTo owner).map d.batch.job? = jobs.map some ∧
        ∀ {W : Type} (handler : Handler W) (world : W),
          let pass := d.scan handler owner world
          pass.result = .served ∧
            pass.world = jobs.foldl (fun world job => (handler job world).2) world ∧
            pass.dispatch.batch.state c.slot = .waiting := by
  intro e owner
  have consistent : e.Consistent := consistent_performAll (consistent_new config machine) calls
  have laden : e.Laden :=
    laden_performAll (consistent_new config machine) (laden_new config machine) calls
  obtain ⟨current, d, hd, state⟩ := consistent.current posted (by simp)
  have staffed := consistent.staffed d hd
  have workers := consistent.workers d hd
  have used : d.batch.inUse c.slot := Batch.inUse_iff.2 (by simp [state])
  have mine : d.owner c.slot = owner := by rw [Dispatch.owner, workers]
  have scanned := staffed.scanned_iff used
  rw [mine] at scanned
  have running := (scanned owner).2 rfl
  have served : c.slot ∈ d.postedTo owner := Dispatch.mem_postedTo.2 ⟨running.2, state⟩
  have accounted : e.pool.Accounted :=
    accounted_performAll (consistent_new config machine) (Pool.accounted_empty 0) calls
  refine ⟨current, d, hd, workers, scanned, accounted.inTurn,
    accounted.count_started (.inl running.1), served, d.postedTo_pairwise owner, ?_⟩
  · have each (i : Fin slotCount) (mem : i ∈ d.postedTo owner) : d.batch.state i = .posted :=
      (Dispatch.mem_postedTo.1 mem).2
    refine ⟨_, laden.jobs hd each, fun {W} handler world => ?_⟩
    have ordinary (i : Fin slotCount) (_ : i.val = owner) : d.batch.state i ≠ .exitAsked := by
      intro asked
      have ordinary := staffed.ordinary i
      simp [asked, SlotState.Ordinary] at ordinary
    have nodup : (d.postedTo owner).Nodup := (d.postedTo_pairwise owner).imp Fin.ne_of_lt
    intro pass
    have spec : pass = _ := Dispatch.scan_eq handler ordinary world
    rw [if_neg (List.ne_nil_of_mem served)] at spec
    rw [spec]
    exact ⟨rfl, Dispatch.world_serveAll nodup, Dispatch.state_serveAll nodup served state⟩

/-- Two handles that are started, one of them again after its worker was stopped; then both starts
are taken back by stops for a handle that has none, and a request is posted in what is left. -/
def leftBehind (one two stray : Handle) : List EngineCall :=
  [.start one, .start two, .stop one, .start one, .stop stray, .stop stray,
    .post ⟨0, one.slot⟩ ⟨one, 5, 0, 0⟩]

/-- A request that is posted after the last stop is attended as well. -/
theorem posted_is_attended_left :
    let one : Handle := ⟨1, by decide, by decide⟩
    let e := (new {} 4).performAll (leftBehind one ⟨2, by decide, by decide⟩ ⟨9, by decide, by decide⟩)
    e.state? ⟨0, one.slot⟩ = some .posted ∧ e.active = 0 ∧
      ∃ d, e.dispatch = some d ∧ e.pool.thread 0 = .scanning ∧
        (d.scan (fun job jobs => (.panicked, job :: jobs)) 0 []).result = .served ∧
        (d.scan (fun job jobs => (.panicked, job :: jobs)) 0 []).dispatch.batch.state one.slot =
          .waiting := by
  intro one e
  have posted : e.state? ⟨0, one.slot⟩ = some .posted := by decide +kernel
  obtain ⟨-, d, hd, -, scanned, -, -, -, -, jobs, -, pass⟩ := posted_is_attended {} 4 _ posted
  have owner : one.slot.val % e.maxWorkers = 0 := rfl
  have scanning := ((scanned 0).2 owner.symm).1
  obtain ⟨result, -, state⟩ := pass (fun job jobs => (.panicked, job :: jobs)) []
  exact ⟨posted, by decide +kernel, d, hd, scanning, result, state⟩

end Engine

end PluginBridge
