import PluginBridge.Proofs.Engine.LateExits

/-!
# Batches are put away empty

A batch is put away when the pool counts no thread, or when every slot of it was given back and
every thread joined. Whatever the threads do and however late they answer, the pool counts a thread
for each claimed slot (`Crew.Manned`): a thread that has not been joined still counts. So a batch
never goes with a claimed slot, and the slots of earlier batches are unused for good
(`Engine.Manned`).
-/

namespace PluginBridge

variable {n : Nat} {W : Type}

/-! ## Crews -/

/-- Starting a thread ends none. -/
theorem Pool.ended_acquire (p : Pool) (w v : Nat) :
    (p.acquire w).thread v = .ended ↔ p.thread v = .ended := by
  rw [acquire]
  split
  · rfl
  next gone =>
  rw [thread_note]
  by_cases same : v = w
  · have absent := thread_of_not_isLive gone
    rw [same, absent]
    refine iff_of_false (fun ended => ?_) (by simp)
    have live : (p.put w .scanning).isLive w := isLive_iff.2 (by simp [ended])
    have room := lt_of_isLive live
    rw [length_put] at room
    rw [thread_put_self room] at ended
    cases ended
  · rw [thread_put_of_ne _ same]

/-- The pool counts a thread for every claimed slot, and this thread looks at the slot. -/
structure Crew.Manned (c : Crew n) : Prop where
  some : 0 < c.dispatch.workers
  room : c.pool.threads.length = c.dispatch.workers
  manned : ∀ i, c.dispatch.batch.inUse i → c.pool.isLive (c.dispatch.owner i)
  /-- A claimed slot is the first one of its worker, or below the high-water mark. -/
  above : ∀ i, c.dispatch.batch.inUse i →
    i.val = c.dispatch.owner i ∨ i.val < c.dispatch.highWater
  /-- An acknowledgement stands where a thread has ended, and nowhere else. -/
  parted : ∀ w : Fin n, c.state w = .exitSeen ↔ c.thread w = .ended

/-- The mark stands above the slots that are claimed without a slot, if it stood there before. -/
theorem Dispatch.lt_highWater_without {d : Dispatch n} {i j : Fin n} (used : (d.without i).batch.inUse j)
    (lt : j.val < d.highWater) : j.val < (d.without i).highWater := by
  have ne := Fin.val_ne_of_ne (Dispatch.inUse_without.1 used).2
  rw [Dispatch.batch_without] at used
  rw [Dispatch.without, Dispatch.lower]
  split
  · next top =>
    have top : d.highWater = i.val + 1 := top
    exact (Dispatch.highestBelow_spec _ _).1 j used (by omega)
  · exact lt

namespace Crew

variable {p q : Pool} {d d' : Dispatch n} {b : Batch n} {i : Fin n} {w : Nat}

/-- Slots may be given back, and threads go that have no claimed slot left. -/
theorem Manned.weaken (manned : Manned ⟨p, d⟩) (workers : d'.workers = d.workers)
    (room : q.threads.length = p.threads.length)
    (live : ∀ i, d'.batch.inUse i → d.batch.inUse i ∧ (p.isLive (d.owner i) → q.isLive (d.owner i)))
    (mark : ∀ i, d'.batch.inUse i → i.val < d.highWater → i.val < d'.highWater)
    (parted : ∀ w : Fin n, d'.batch.state w = .exitSeen ↔ q.thread w = .ended) :
    Manned ⟨q, d'⟩ where
  some := by rw [workers]; exact manned.some
  room := by rw [workers, room]; exact manned.room
  manned i used := by
    obtain ⟨was, stays⟩ := live i used
    rw [Dispatch.owner, workers]
    exact stays (manned.manned i was)
  above i used := by
    rw [Dispatch.owner, workers]
    exact (manned.above i (live i used).1).imp_right (mark i used)
  parted := parted

theorem Manned.withBatch (manned : Manned ⟨p, d⟩) (fewer : ∀ i, b.inUse i → d.batch.inUse i)
    (seen : ∀ i, b.state i = .exitSeen ↔ d.batch.state i = .exitSeen) :
    Manned ⟨p, { d with batch := b }⟩ :=
  manned.weaken rfl rfl (fun i used => ⟨fewer i used, id⟩) (fun _ _ => id)
    fun w => (seen w).trans (manned.parted w)

/-- Acknowledgements are left alone by changes of other slots. -/
theorem seen_withState {x : SlotState} (was : b.state i ≠ .exitSeen) (is : x ≠ .exitSeen)
    (j : Fin n) : (b.withState i x).state j = .exitSeen ↔ b.state j = .exitSeen := by
  by_cases hj : j = i
  · subst hj
    rw [Batch.state_withState_self]
    exact iff_of_false is was
  · rw [Batch.state_withState_of_ne b x hj]

/-- The slot that is given back may have been the highest claimed one. -/
theorem Manned.without (manned : Manned ⟨p, d⟩) (was : d.batch.state i ≠ .exitSeen) :
    Manned ⟨p, d.without i⟩ := by
  refine manned.weaken (by simp) rfl (fun j used => ?_) (fun j used lt => ?_) fun j => ?_
  · exact ⟨(Dispatch.inUse_without.1 used).1, id⟩
  · exact Dispatch.lt_highWater_without used lt
  · rw [Dispatch.batch_without]
    exact (seen_withState was (by simp) j).trans (manned.parted j)

/-- A worker that does not answer stays, and so may its request. -/
theorem Manned.ask (manned : Manned ⟨p, d⟩) (live : p.isLive i)
    (was : d.batch.state i ≠ .exitSeen) :
    Manned ⟨p, { d with batch := d.batch.withState i .exitAsked }⟩ := by
  have first : d.owner i = i.val := by
    refine Nat.mod_eq_of_lt ?_
    rw [← manned.room]
    exact Pool.lt_of_isLive live
  refine ⟨manned.some, manned.room, fun j used => ?_, fun j used => ?_,
    fun j => (seen_withState was (by simp) j).trans (manned.parted j)⟩
  · change p.isLive (d.owner j)
    by_cases hj : j = i
    · subst hj
      rwa [first]
    · refine manned.manned j ?_
      rwa [Batch.inUse_withState_of_ne d.batch _ hj] at used
  · change j.val = d.owner j ∨ j.val < d.highWater
    by_cases hj : j = i
    · subst hj
      exact .inl first.symm
    · refine manned.above j ?_
      rwa [Batch.inUse_withState_of_ne d.batch _ hj] at used

/-- A worker is stopped once it has no claimed slot. -/
theorem Manned.release (manned : Manned ⟨p, d⟩) (w : Nat) :
    Manned (ofPool (p.release d w)).1 := by
  rcases p.release_cases d w with ⟨_, eq⟩ | ⟨live, free, hw, ⟨scans, eq⟩ | eq⟩
  · rw [eq]
    exact manned
  · rw [eq]
    refine manned.weaken rfl (p.length_stopped w) (fun j used => ⟨used, fun stays => ?_⟩)
      (fun _ _ => id) fun j => (manned.parted j).trans ?_
    · refine Pool.isLive_stopped.2 ⟨stays, fun mine => Bool.eq_false_iff.1 free ?_⟩
      exact Dispatch.ownedInUse_iff.2 ⟨j, mine ▸ d.mem_owned_owner j, used⟩
    · change p.thread j = .ended ↔ (p.stopped w).thread j = .ended
      rw [Pool.thread_stopped]
      split
      · next same => simp [same, scans]
      · rfl
  · rw [eq]
    exact manned.ask (i := ⟨w, hw⟩) live (by simp [Dispatch.state_first_of_free free hw])

theorem Manned.releaseEach (manned : Manned ⟨p, d⟩) (ws : List Nat) :
    Manned (ofPool (Pool.releaseEach ws p d)).1 := by
  induction ws generalizing p d with
  | nil => exact manned
  | cons w ws ih =>
    have first := manned.release w
    rw [Pool.releaseEach]
    cases hr : p.release d w with
    | mk q rest =>
    obtain ⟨d', result⟩ := rest
    rw [hr] at first
    cases result with
    | ok _ => exact ih first
    | error v => exact first

/-- Stopping a worker claims no slot. -/
theorem unused_release (unused : ∀ i, d.batch.state i = .unused)
    (done : p.release d w = (q, d', .ok ())) (i : Fin n) : d'.batch.state i = .unused := by
  rcases p.release_cases d w with ⟨_, eq⟩ | ⟨-, -, _, ⟨-, eq⟩ | eq⟩
  · cases eq.symm.trans done
    exact unused i
  · cases eq.symm.trans done
    exact unused i
  · cases eq.symm.trans done

theorem unused_releaseEach {ws : List Nat} (unused : ∀ i, d.batch.state i = .unused)
    (done : Pool.releaseEach ws p d = (q, d', .ok ())) (i : Fin n) :
    d'.batch.state i = .unused := by
  induction ws generalizing p d with
  | nil =>
    cases done
    exact unused i
  | cons w ws ih =>
    rw [Pool.releaseEach] at done
    cases hr : p.release d w with
    | mk q' rest =>
    obtain ⟨c, result⟩ := rest
    rw [hr] at done
    cases result with
    | ok _ => exact ih (unused_release unused hr) done
    | error v => cases done

/-! ### Threads -/

theorem inUse_serve (d : Dispatch n) (handler : Handler W) (i : Fin n) (w : W) (j : Fin n) :
    (d.serve handler i w).1.batch.inUse j = d.batch.inUse j := by
  obtain ⟨code, served⟩ := d.serve_batch handler i w
  rw [served]
  exact (d.batch.alike_finish i code).inUse j

theorem inUse_serveAll (handler : Handler W) (l : List (Fin n)) (d : Dispatch n) (world : W)
    (j : Fin n) :
    (Dispatch.serveAll handler l d world).1.batch.inUse j = d.batch.inUse j := by
  induction l generalizing d world with
  | nil => rfl
  | cons i rest ih => rw [Dispatch.serveAll, ih, inUse_serve]

/-- A thread that goes on may change its pace. -/
theorem Manned.paced {t : WorkerThread} (manned : Manned ⟨p, d⟩) (runs : (p.thread w).Runs)
    (runs' : t.Runs) : Manned ⟨p.put w t, d⟩ := by
  refine manned.weaken rfl (p.length_put w t) (fun i used => ⟨used, fun stays => ?_⟩)
    (fun _ _ => id) fun j => (manned.parted j).trans ?_
  · by_cases same : d.owner i = w
    · rw [same, Pool.isLive_iff, Pool.thread_put_self (Pool.lt_of_runs runs)]
      exact runs'.ne_absent
    · rwa [Pool.isLive_put_of_ne t same]
  · change p.thread j = .ended ↔ (p.put w t).thread j = .ended
    by_cases same : j.val = w
    · rw [same, Pool.thread_put_self (Pool.lt_of_runs runs)]
      exact iff_of_false runs.ne_ended runs'.ne_ended
    · rw [Pool.thread_put_of_ne t same]

/-- A thread that sees the request to exit ends. -/
theorem Manned.leave (manned : Manned ⟨p, d⟩) (runs : (p.thread i).Runs)
    (asked : d.batch.state i = .exitAsked) :
    Manned ⟨p.leave i, { d with batch := d.batch.withState i .exitSeen }⟩ := by
  have room := Pool.lt_of_runs runs
  refine ⟨manned.some, (p.length_put i .ended).trans manned.room, fun j used => ?_, fun j used => ?_,
    fun j => ?_⟩
  · change (p.leave i).isLive (d.owner j)
    by_cases same : d.owner j = i.val
    · rw [same, Pool.isLive_iff, Pool.thread_leave_self room]
      simp
    · rw [Pool.isLive, Pool.thread_leave_of_ne same]
      refine manned.manned j ?_
      by_cases hj : j = i
      · rw [hj, Batch.inUse_iff, asked]
        simp
      · rwa [Batch.inUse_withState_of_ne d.batch _ hj] at used
  · change j.val = d.owner j ∨ j.val < d.highWater
    refine manned.above j ?_
    by_cases hj : j = i
    · rw [hj, Batch.inUse_iff, asked]
      simp
    · rwa [Batch.inUse_withState_of_ne d.batch _ hj] at used
  · change (d.batch.withState i .exitSeen).state j = .exitSeen ↔ (p.leave i).thread j = .ended
    by_cases hj : j = i
    · rw [hj, Batch.state_withState_self, Pool.thread_leave_self room]
      simp
    · rw [Batch.state_withState_of_ne d.batch _ hj, Pool.thread_leave_of_ne (Fin.val_ne_of_ne hj)]
      exact manned.parted j

theorem seen_finish (b : Batch n) (i : Fin n) (code : ResultCode) (j : Fin n) :
    (b.finish i code).state j = .exitSeen ↔ b.state j = .exitSeen := by
  rw [Batch.state_finish]
  split
  · next posted => exact seen_withState (by simp [posted]) (by simp) j
  · rfl

theorem seen_post (b : Batch n) (i : Fin n) (job : Job) (j : Fin n) :
    (b.post i job).1.state j = .exitSeen ↔ b.state j = .exitSeen := by
  have spec := b.post_spec i job
  cases found : b.state i with
  | waiting =>
    simp only [found] at spec
    rw [spec.2]
    exact seen_withState (by simp [found]) (by simp) j
  | unused | posted | exitAsked | exitSeen =>
    simp only [found] at spec
    rw [spec.2]

/-- Serving slots leaves acknowledgements alone. -/
theorem seen_serveAll (handler : Handler W) (l : List (Fin n)) (d : Dispatch n) (world : W)
    (j : Fin n) : (Dispatch.serveAll handler l d world).1.batch.state j = .exitSeen ↔
      d.batch.state j = .exitSeen := by
  induction l generalizing d world with
  | nil => rfl
  | cons i rest ih =>
    obtain ⟨code, served⟩ := d.serve_batch handler i world
    rw [Dispatch.serveAll, ih, served]
    exact seen_finish d.batch i code j

theorem Manned.pass {c : Crew n} (manned : c.Manned) (w : Nat) (handler : Handler W) (world : W) :
    (c.pass w handler world).1.Manned := by
  rw [Crew.pass]
  by_cases runs : (c.pool.thread w).Runs
  · rw [if_pos runs]
    by_cases asked : ∃ i : Fin n, i.val = w ∧ c.dispatch.batch.state i = .exitAsked
    · obtain ⟨i, rfl, asked⟩ := asked
      rw [Dispatch.scan_of_asked handler world asked]
      exact manned.leave runs asked
    · have free (i : Fin n) (mine : i.val = w) : c.dispatch.batch.state i ≠ .exitAsked :=
        fun found => asked ⟨i, mine, found⟩
      have scan := Dispatch.scan_eq handler free world
      have stays : (c.dispatch.scan handler w world).result ≠ .exit := by
        rw [scan]
        dsimp only
        split <;> simp
      dsimp only
      rw [if_neg stays, scan, Dispatch.serveAll_batch]
      refine Manned.withBatch manned (fun i used => ?_) fun i => seen_serveAll ..
      rwa [inUse_serveAll] at used
  · rw [if_neg runs]
    exact manned

theorem workers_move (c : Crew n) (move : ThreadMove) :
    (c.move move).dispatch.workers = c.dispatch.workers := by
  cases move with
  | slow w => rfl
  | prompt w => rfl
  | pass w handler world =>
    rw [Crew.move, Crew.pass]
    split
    · by_cases asked : ∃ i : Fin n, i.val = w ∧ c.dispatch.batch.state i = .exitAsked
      · obtain ⟨i, rfl, asked⟩ := asked
        rw [Dispatch.scan_of_asked handler world asked]
      · have free (i : Fin n) (mine : i.val = w) : c.dispatch.batch.state i ≠ .exitAsked :=
          fun found => asked ⟨i, mine, found⟩
        rw [Dispatch.scan_eq handler free world, Dispatch.serveAll_batch]
    · rfl

theorem Manned.move {c : Crew n} (manned : c.Manned) (move : ThreadMove) : (c.move move).Manned := by
  cases move with
  | pass w handler world => exact manned.pass w handler world
  | slow w =>
    rw [Crew.move, Pool.slow]
    split
    · next scans => exact Manned.paced manned (.inl scans) (.inr rfl)
    · exact manned
  | prompt w =>
    rw [Crew.move, Pool.prompt]
    split
    · next slow => exact Manned.paced manned (.inr slow) (.inl rfl)
    · exact manned

end Crew

/-! ## The engine -/

namespace Engine

variable {e e' : Engine} {d : Dispatch slotCount} {c : Client} {h : Handle} {p : Pool}

/-- The pool counts a thread for every claimed slot of the current batch, and no slot of an earlier
one is claimed. -/
structure Manned (e : Engine) : Prop where
  workers : ∀ d, e.dispatch = some d → d.workers = e.maxWorkers
  crew : ∀ d, e.dispatch = some d → Crew.Manned ⟨e.pool, d⟩
  retired : ∀ b ∈ e.retired, ∀ i, b.state i = .unused

theorem manned_new (config : Config) (machine : Nat) : (new config machine).Manned :=
  ⟨fun _ hd => (nomatch hd), fun _ hd => (nomatch hd), fun _ hb => (nomatch hb)⟩

/-- Without threads no slot is claimed. -/
theorem Manned.unused_of_gone (manned : e.Manned) (gone : ∀ w, ¬ e.pool.isLive w)
    (hd : e.dispatch = some d) (i : Fin slotCount) : d.batch.state i = .unused :=
  Decidable.byContradiction fun used =>
    gone _ ((manned.crew d hd).manned i (Batch.inUse_iff.2 used))

theorem Manned.retire (manned : e.Manned)
    (unused : ∀ d, e.dispatch = some d → ∀ i, d.batch.state i = .unused) : e.retire.Manned := by
  cases hd : e.dispatch with
  | none =>
    rw [Engine.retire, hd]
    exact manned
  | some d =>
    rw [Engine.retire, hd]
    refine ⟨fun d' hd' => (by cases hd'), fun d' hd' => (by cases hd'), fun b hb => ?_⟩
    rcases List.mem_append.1 hb with old | new
    · exact manned.retired b old
    · rw [List.mem_singleton.1 new]
      exact unused d hd

theorem Manned.settle (manned : e.Manned) : e.settle.1.Manned := by
  rw [Engine.settle]
  split
  · rw [deactivate]
    split
    · exact manned
    · next none =>
      have gone := Pool.liveCount_eq_zero.1 (Nat.eq_zero_of_not_pos none)
      exact manned.retire fun d hd => manned.unused_of_gone gone hd
  · exact manned

/-- An engine of which the crew has changed. -/
theorem Manned.withCrew {d' : Dispatch slotCount} (manned : e.Manned) (hd : e.dispatch = some d)
    (workers : d'.workers = d.workers) (crew : Crew.Manned ⟨p, d'⟩) :
    Manned { e with dispatch := some d', pool := p } := by
  refine ⟨fun c hc => ?_, fun c hc => ?_, manned.retired⟩
  · cases hc
    exact workers.trans (manned.workers d hd)
  · cases hc
    exact crew

theorem Manned.teardown (manned : e.Manned) : e.teardown.1.Manned := by
  rw [Engine.teardown]
  cases hd : e.dispatch with
  | none => exact manned
  | some d =>
  have crew := manned.crew d hd
  have released := state_releaseSlots (List.finRange slotCount) d.batch
  have fewer (i : Fin slotCount)
      (used : (releaseSlots (List.finRange slotCount) d.batch).1.inUse i) : d.batch.inUse i := by
    rcases released i with same | ⟨was, -⟩
    · rwa [Batch.inUse, same] at used
    · exact Batch.inUse_iff.2 (by simp [was])
  have seen (i : Fin slotCount) :
      (releaseSlots (List.finRange slotCount) d.batch).1.state i = .exitSeen ↔
        d.batch.state i = .exitSeen := by
    rcases released i with same | ⟨was, is⟩
    · rw [same]
    · simp [was, is]
  dsimp only
  cases hr : releaseSlots (List.finRange slotCount) d.batch with
  | mk b r =>
  rw [hr] at fewer seen
  cases r with
  | error v => exact manned.withCrew hd rfl (crew.withBatch fewer seen)
  | ok _ =>
    let free : Dispatch slotCount := { d with batch := b, highWater := 0 }
    have unused (i : Fin slotCount) : free.batch.state i = .unused :=
      unused_releaseSlots hr (.inr (List.mem_finRange i))
    have empty : Crew.Manned ⟨e.pool, free⟩ := by
      refine crew.weaken rfl rfl (fun i used => ⟨fewer i used, id⟩) (fun i used => ?_)
        fun w => (seen w).trans (crew.parted w)
      exact absurd (unused i) (Batch.inUse_iff.1 used)
    have stopped := empty.releaseEach (List.range e.pool.threads.length)
    have workers := Pool.workers_releaseEach (List.range e.pool.threads.length) e.pool free
    dsimp only
    rw [Pool.releaseAll]
    cases hs : Pool.releaseEach (List.range e.pool.threads.length) e.pool free with
    | mk q rest =>
    obtain ⟨c, r⟩ := rest
    rw [hs] at stopped workers
    have left : Manned { e with dispatch := some c, pool := q } :=
      manned.withCrew hd workers stopped
    cases r with
    | ok _ =>
      refine left.retire fun d' hd' => ?_
      cases hd'
      exact Crew.unused_releaseEach unused hs
    | error v => exact left

theorem Manned.begin (manned : e.Manned) : e.begin.Manned := by
  refine ⟨fun d hd => ?_, fun d hd => ?_, manned.retired⟩
  · simp only [Engine.begin, activate] at hd
    split at hd
    · cases hd
      rfl
    · cases hd
  · have unused := state_begin hd
    simp only [Engine.begin, activate] at hd
    split at hd
    · next workers =>
      cases hd
      refine ⟨workers.2, by simp [Engine.begin, activate, Pool.empty, Dispatch.start],
        fun i used => absurd (unused i) (Batch.inUse_iff.1 used),
        fun i used => absurd (unused i) (Batch.inUse_iff.1 used), fun w => ?_⟩
      have absent : e.begin.pool.thread w = .absent :=
        Pool.thread_of_not_isLive (Pool.not_isLive_empty _ _ w)
      exact iff_of_false (by simp [Crew.state, unused]) (by simp [Crew.thread, absent])
    · cases hd

theorem Manned.counted (manned : e.Manned) (counted : e.Counted e') : e'.Manned := by
  cases counted with
  | first none down =>
    have gone := manned.teardown
    rw [down] at gone
    exact gone.begin
  | further => exact ⟨manned.workers, manned.crew, manned.retired⟩

theorem Manned.raised (manned : e.Manned) (hd : e.dispatch = some d)
    (unused : d.batch.state h.slot = .unused) :
    Crew.Manned ⟨e.pool.acquire (d.owner h.slot),
      Dispatch.raise { d with batch := d.batch.withState h.slot .waiting } h.slot⟩ := by
  have crew := manned.crew d hd
  have owner : d.owner h.slot < e.pool.threads.length := by
    rw [crew.room]
    exact d.owner_lt h.slot crew.some
  have before {j : Fin slotCount} (ne : j ≠ h.slot)
      (used : (d.batch.withState h.slot .waiting).inUse j) : d.batch.inUse j := by
    rwa [Batch.inUse_withState_of_ne d.batch .waiting ne] at used
  refine ⟨crew.some, (e.pool.length_acquire _).trans crew.room, fun j used => ?_, fun j used => ?_,
    fun j => ?_⟩
  · change (e.pool.acquire (d.owner h.slot)).isLive (d.owner j)
    rw [Pool.isLive_acquire owner]
    by_cases hj : j = h.slot
    · exact .inr (by rw [hj])
    · exact .inl (crew.manned j (before hj used))
  · change j.val = d.owner j ∨ j.val < max d.highWater (h.slot.val + 1)
    by_cases hj : j = h.slot
    · right
      rw [hj]
      omega
    · refine (crew.above j (before hj used)).imp_right fun lt => ?_
      change j.val < d.highWater at lt
      omega
  · refine (Crew.seen_withState (by simp [unused]) (by simp) j).trans ((crew.parted j).trans ?_)
    change e.pool.thread j = .ended ↔ (e.pool.acquire (d.owner h.slot)).thread j = .ended
    rw [Pool.ended_acquire]

theorem Manned.claimed (manned : e.Manned) (hd : e.dispatch = some d)
    (unused : d.batch.state h.slot = .unused) : (e.claimed d h).Manned :=
  manned.withCrew hd rfl (manned.raised hd unused)

/-- The slot of a worker that cannot be started is given back. -/
theorem Manned.unraised (manned : e.Manned) (hd : e.dispatch = some d)
    (unused : d.batch.state h.slot = .unused) :
    Crew.Manned ⟨e.pool, (Dispatch.raise { d with batch := d.batch.withState h.slot .waiting }
      h.slot).without h.slot⟩ := by
  have crew := manned.crew d hd
  have before {j : Fin slotCount} (used : ((Dispatch.raise
      { d with batch := d.batch.withState h.slot .waiting } h.slot).without h.slot).batch.inUse j) :
      d.batch.inUse j := by
    obtain ⟨used, ne⟩ := Dispatch.inUse_without.1 used
    rwa [Dispatch.raise, Batch.inUse_withState_of_ne d.batch .waiting ne] at used
  refine crew.weaken (by simp; rfl) rfl (fun j used => ⟨before used, id⟩) (fun j used lt => ?_)
    fun j => ?_
  · refine Dispatch.lt_highWater_without used ?_
    change j.val < max d.highWater (h.slot.val + 1)
    omega
  · rw [Dispatch.batch_without, Dispatch.raise]
    simp only [Batch.withState_withState]
    exact (Crew.seen_withState (by simp [unused]) (by simp) j).trans (crew.parted j)

theorem Manned.start (manned : e.Manned) (h : Handle) (refusal : Option String := none) :
    (e.start h refusal).1.Manned := by
  rcases e.start_or_refused h refusal with same | ⟨b, d, counted, hd, unused, -, eq⟩
  case inr =>
    rw [eq]
    exact (manned.counted counted).withCrew hd (by simp; rfl) ((manned.counted counted).unraised hd unused)
  rw [same]
  have outcome := e.start_outcome h
  generalize e.start h = started at outcome ⊢
  cases outcome with
  | refused none down =>
    have left := manned.teardown
    rwa [down] at left
  | direct counted => exact manned.counted counted
  | claimed counted hd unused => exact (manned.counted counted).claimed hd unused
  | inUse => exact manned

theorem Manned.releaseSlot (manned : e.Manned) (hd : e.dispatch = some d) (i : Fin slotCount) :
    (e.releaseSlot d i).1.Manned := by
  rw [releaseSlot_eq]
  by_cases waiting : d.batch.state i = .waiting
  · have free := (manned.crew d hd).without (i := i) (by simp [waiting])
    rw [if_pos waiting]
    split
    · exact manned.withCrew hd (by simp) free
    · refine manned.withCrew hd ?_ (free.release _)
      exact (Pool.workers_release e.pool (d.without i) (d.owner i)).trans (by simp)
  · rw [if_neg waiting]
    exact manned

theorem Manned.stop (manned : e.Manned) (h : Handle) : (e.stop h).1.Manned := by
  have counted : e.countDown.Manned := ⟨manned.workers, manned.crew, manned.retired⟩
  have course := e.stop_course h
  generalize e.stop h = stopped at course ⊢
  cases course with
  | unbalanced => exact manned
  | free => exact counted.settle
  | refused hd refused =>
    have left := counted.releaseSlot hd h.slot
    rwa [refused] at left
  | released hd released =>
    have left := counted.releaseSlot hd h.slot
    rw [released] at left
    exact left.settle

theorem Manned.putBatch {b b' : Batch slotCount} (manned : e.Manned) (hb : e.batchOf? c = some b)
    (alike : b.Alike b') (seen : ∀ i, b'.state i = .exitSeen ↔ b.state i = .exitSeen) :
    (e.putBatch c b').Manned := by
  rw [batchOf?] at hb
  rw [Engine.putBatch]
  split at hb
  · next current =>
    rw [if_pos current]
    obtain ⟨d, hd, rfl⟩ := Option.map_eq_some_iff.1 hb
    rw [hd]
    refine manned.withCrew hd rfl ((manned.crew d hd).withBatch (fun i used => ?_) seen)
    rwa [← alike.inUse]
  · next earlier =>
    rw [if_neg earlier]
    refine ⟨manned.workers, manned.crew, fun b'' hb'' i => ?_⟩
    rcases List.mem_or_eq_of_mem_set hb'' with old | rfl
    · exact manned.retired _ old i
    · have unused := manned.retired b (List.mem_of_getElem? hb) i
      have use := alike.inUse i
      simpa [Batch.inUse, unused] using use

theorem Manned.perform (manned : e.Manned) (call : EngineCall) : (e.perform call).Manned := by
  cases call with
  | start h => exact manned.start h
  | stop h => exact manned.stop h
  | setEnabled enabled => exact ⟨manned.workers, manned.crew, manned.retired⟩
  | post c job =>
    simp only [Engine.perform, Engine.post]
    cases hb : e.batchOf? c with
    | none => exact manned
    | some b => exact manned.putBatch hb (b.alike_post c.slot job) (Crew.seen_post b c.slot job)
  | finish c code =>
    simp only [Engine.perform, Engine.finish]
    cases hb : e.batchOf? c with
    | none => exact manned
    | some b => exact manned.putBatch hb (b.alike_finish c.slot code) (Crew.seen_finish b c.slot code)

theorem Manned.move (manned : e.Manned) (move : EngineMove) : (e.move move).Manned := by
  cases move with
  | call call => exact manned.perform call
  | thread move =>
    rw [Engine.move]
    cases hd : e.dispatch with
    | none => rwa [crew?, hd]
    | some d =>
      rw [crew?_of_dispatch hd]
      exact manned.withCrew hd (Crew.workers_move _ move) ((manned.crew d hd).move move)

theorem Manned.moveAll (manned : e.Manned) (moves : List EngineMove) : (e.moveAll moves).Manned := by
  induction moves generalizing e with
  | nil => exact manned
  | cons move moves ih => exact ih (manned.move move)

end Engine

end PluginBridge
