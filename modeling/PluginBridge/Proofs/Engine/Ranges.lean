import PluginBridge.Proofs.Dispatch.Strides
import PluginBridge.Proofs.Engine.Manning

/-!
# Every index of the engine is in range

The pool of an engine has no room at all, or room for the workers that the processors call for
(`Scaled`): only the beginning of an activation makes another pool, and nothing changes the size of
one. A batch has as many workers as the pool has room for. Since there are never more than 64 of
them, each has a first slot among the slots of the batch.

So whatever is called and however late the threads are, no remainder is taken by zero, the owner of
a slot has its place in the pool, and a worker that is asked to exit is asked at a slot that exists
(`InRange`).
-/

namespace PluginBridge

/-! ## The size of a pool -/

namespace Pool

variable {n : Nat} {p : Pool} {d : Dispatch n}

theorem length_release (p : Pool) (d : Dispatch n) (w : Nat) :
    (p.release d w).1.threads.length = p.threads.length := by
  unfold release
  split
  · rfl
  split
  · rfl
  split
  · next hw =>
    rw [requestExit_eq]
    by_cases idle : d.batch.state ⟨w, hw⟩ ∈ [.unused, .waiting]
    · rw [if_pos idle]
      by_cases scans : p.thread w = .scanning
      · rw [if_pos scans]
        exact ((p.leave w).length_join w).trans (p.length_put w .ended)
      · rw [if_neg scans]
    · rw [if_neg idle]
  · rfl

theorem length_releaseEach (ws : List Nat) (p : Pool) (d : Dispatch n) :
    (releaseEach ws p d).1.threads.length = p.threads.length := by
  induction ws generalizing p d with
  | nil => rfl
  | cons w ws ih =>
    have first := p.length_release d w
    unfold releaseEach
    cases hr : p.release d w with
    | mk q rest =>
    obtain ⟨c, answer⟩ := rest
    rw [hr] at first
    cases answer with
    | ok _ => exact (ih q c).trans first
    | error v => exact first

end Pool

theorem Crew.length_move {n : Nat} (c : Crew n) (move : ThreadMove) :
    (c.move move).pool.threads.length = c.pool.threads.length := by
  cases move with
  | pass w handler world =>
    rw [Crew.move, Crew.pass]
    split
    · dsimp only
      split
      · exact c.pool.length_put w _
      · rfl
    · rfl
  | slow w => exact c.pool.length_slow w
  | prompt w => exact c.pool.length_prompt w

namespace Engine

variable {e e' b : Engine} {d : Dispatch slotCount} {h : Handle}

/-! ## The size of an engine -/

/-- The processors of an engine, and the workers that its pool has room for. -/
def scale (e : Engine) : Nat × Nat := (e.processors, e.pool.threads.length)

theorem scale_retire (e : Engine) : e.retire.scale = e.scale := by
  unfold retire
  split <;> rfl

theorem scale_settle (e : Engine) : e.settle.1.scale = e.scale := by
  unfold settle
  split
  · unfold deactivate
    split
    · rfl
    · exact e.scale_retire
  · rfl

theorem scale_teardown (e : Engine) : e.teardown.1.scale = e.scale := by
  unfold teardown
  cases e.dispatch with
  | none => rfl
  | some d =>
  dsimp only
  cases releaseSlots (List.finRange slotCount) d.batch with
  | mk b answer =>
  cases answer with
  | error v => rfl
  | ok _ =>
    have size := Pool.length_releaseEach (List.range e.pool.threads.length) e.pool
      { d with batch := b, highWater := 0 }
    dsimp only
    rw [Pool.releaseAll]
    cases hr : Pool.releaseEach (List.range e.pool.threads.length) e.pool
      { d with batch := b, highWater := 0 } with
    | mk q rest =>
    obtain ⟨c, answer⟩ := rest
    rw [hr] at size
    have same : scale { e with dispatch := some c, pool := q } = e.scale :=
      Prod.ext rfl size
    cases answer with
    | ok _ => exact (scale_retire _).trans same
    | error v => exact same

theorem scale_releaseSlot (e : Engine) (d : Dispatch slotCount) (i : Fin slotCount) :
    (e.releaseSlot d i).1.scale = e.scale := by
  unfold releaseSlot
  split
  · rfl
  · dsimp only
    split
    · rfl
    · exact Prod.ext rfl (Pool.length_release _ _ _)

theorem scale_stop (e : Engine) (h : Handle) : (e.stop h).1.scale = e.scale := by
  have course := e.stop_course h
  generalize e.stop h = stopped at course ⊢
  cases course with
  | unbalanced => rfl
  | free => exact e.countDown.scale_settle
  | @refused d e' v _ refused =>
    have same := e.countDown.scale_releaseSlot d h.slot
    rwa [refused] at same
  | @released d e' _ released =>
    have same := e.countDown.scale_releaseSlot d h.slot
    rw [released] at same
    exact e'.scale_settle.trans same

theorem scale_putBatch (e : Engine) (c : Client) (b : Batch slotCount) :
    (e.putBatch c b).scale = e.scale := by
  unfold putBatch
  split <;> rfl

/-- The processors stay the same, and the pool has room for no worker or for all of them. -/
structure Scaled (n : Nat) (e : Engine) : Prop where
  processors : e.processors = n
  room : e.pool.threads.length = 0 ∨ e.pool.threads.length = PluginBridge.maxWorkers n

variable {n : Nat}

theorem Scaled.of_scale (scaled : e.Scaled n) (same : e'.scale = e.scale) :
    e'.Scaled n := by
  obtain ⟨first, second⟩ := Prod.mk.inj same
  constructor
  · rw [first]
    exact scaled.processors
  · rw [second]
    exact scaled.room

theorem scaled_new (config : Config) (machine : Nat) :
    (new config machine).Scaled (config.concurrency.elim machine UInt64.toNat) :=
  ⟨rfl, .inl rfl⟩

theorem Scaled.begin (scaled : e.Scaled n) : e.begin.Scaled n := by
  constructor
  · exact scaled.processors
  · right
    show (List.replicate (PluginBridge.maxWorkers e.processors) WorkerThread.absent).length = _
    rw [List.length_replicate, scaled.processors]

theorem Scaled.counted (scaled : e.Scaled n) (counted : e.Counted b) :
    b.Scaled n := by
  cases counted with
  | first none down =>
    have same := e.scale_teardown
    rw [down] at same
    exact (scaled.of_scale same).begin
  | further => exact scaled.of_scale rfl

theorem Scaled.start (scaled : e.Scaled n) (h : Handle) :
    (e.start h).1.Scaled n := by
  have outcome := e.start_outcome h
  generalize e.start h = started at outcome ⊢
  cases outcome with
  | refused none down =>
    have same := e.scale_teardown
    rw [down] at same
    exact scaled.of_scale same
  | direct counted => exact scaled.counted counted
  | claimed counted => exact (scaled.counted counted).of_scale (Prod.ext rfl (Pool.length_acquire _ _))
  | inUse => exact scaled

theorem Scaled.perform (scaled : e.Scaled n) (call : EngineCall) :
    (e.perform call).Scaled n := by
  cases call with
  | start h => exact scaled.start h
  | stop h => exact scaled.of_scale (e.scale_stop h)
  | setEnabled enabled => exact scaled.of_scale rfl
  | post c job =>
    rw [Engine.perform, Engine.post]
    cases e.batchOf? c with
    | none => exact scaled
    | some b => exact scaled.of_scale (e.scale_putBatch c _)
  | finish c code =>
    rw [Engine.perform, Engine.finish]
    cases e.batchOf? c with
    | none => exact scaled
    | some b => exact scaled.of_scale (e.scale_putBatch c _)

theorem Scaled.move (scaled : e.Scaled n) (move : EngineMove) :
    (e.move move).Scaled n := by
  cases move with
  | call call => exact scaled.perform call
  | thread move =>
    rw [Engine.move]
    cases hc : e.crew? with
    | none => exact scaled
    | some c =>
      obtain ⟨d, _, rfl⟩ := dispatch_of_crew? hc
      exact scaled.of_scale (Prod.ext rfl (Crew.length_move _ move))

theorem Scaled.moveAll (scaled : e.Scaled n) (moves : List EngineMove) :
    (e.moveAll moves).Scaled n := by
  induction moves generalizing e with
  | nil => exact scaled
  | cons move moves ih => exact ih (scaled.move move)

/-! ## Ranges -/

/-- The indices that an engine works with are in range. -/
structure InRange (e : Engine) : Prop where
  /-- The remainder that finds the owner of a slot is not by zero. -/
  divides : ∀ d, e.dispatch = some d → 0 < d.workers
  /-- The owner of a slot has its place in the pool. -/
  owner : ∀ d, e.dispatch = some d → ∀ i, d.owner i < e.pool.threads.length
  /-- A worker of the pool has a slot to be asked at. -/
  asked : ∀ w < e.pool.threads.length, w < slotCount
  /-- A handle has its slot. -/
  slot : ∀ h : Handle, h.raw - 1 = h.slot.val ∧ h.raw - 1 < slotCount

theorem Scaled.inRange (scaled : e.Scaled n) (manned : e.Manned)
    (word : n < 2 ^ 64) : e.InRange where
  divides d hd := (manned.crew d hd).some
  owner d hd i := by
    have crew := manned.crew d hd
    have room : e.pool.threads.length = d.workers := crew.room
    rw [room]
    exact d.owner_lt i crew.some
  asked w hw := by
    have few : PluginBridge.maxWorkers n ≤ 64 := maxWorkers_le (Nat.le_of_lt word)
    have enough : 64 < slotCount := by decide
    rcases scaled.room with none | all
    · omega
    · omega
  slot h := ⟨rfl, h.slot.isLt⟩

/-- **Worker arithmetic is safe.** The number of workers is none for at most one processor, and
otherwise the least `m` whose power of two reaches the number of processors. It grows with that
number, is at most 64 for any machine word, and is what a machine of 64 bits reads off the leading
zeros. Whatever the number of slots and of workers, the slots of the workers are strides in
increasing order that share no slot and together have each slot once, and each slot is met by its
owner.

So in an engine with whatever settings no index is ever out of range and no remainder is taken by
zero, after whatever was called and whatever the threads did, and in the middle of a start as well:
when the activation has begun and the slot is not claimed yet. -/
theorem worker_arithmetic_is_safe :
    (∀ n, n ≤ 1 → PluginBridge.maxWorkers n = 0) ∧
    (∀ n, n ≤ 2 ^ PluginBridge.maxWorkers n ∧
      ∀ m, n ≤ 2 ^ m → PluginBridge.maxWorkers n ≤ m) ∧
    (∀ n k, n ≤ k → PluginBridge.maxWorkers n ≤ PluginBridge.maxWorkers k) ∧
    (∀ n < 2 ^ 64, PluginBridge.maxWorkers n ≤ 64) ∧
    (∀ x : BitVec 64, 1 < x.toNat →
      PluginBridge.maxWorkers x.toNat = 64 - (x - 1#64).clz.toNat) ∧
    (∀ (capacity : Nat) (d : Dispatch capacity), 1 ≤ d.workers →
      (∀ w, (d.owned w).Pairwise (· < ·) ∧
        (d.owned w).map Fin.val =
          List.range' w ((capacity - w + d.workers - 1) / d.workers) d.workers) ∧
      (∀ v < d.workers, ∀ w < d.workers, v ≠ w → (d.owned v).Disjoint (d.owned w)) ∧
      ∀ i, ((List.range d.workers).flatMap d.owned).count i = 1 ∧
        d.owner i < d.workers ∧ i ∈ d.owned (d.owner i)) ∧
    ∀ (config : Config) (machine : Nat) (moves : List EngineMove), machine < 2 ^ 64 →
      let e := (new config machine).moveAll moves
      e.InRange ∧ ∀ b, e.Counted b → b.InRange := by
  refine ⟨fun n few => maxWorkers_of_le_one few,
    fun n => ⟨le_two_pow_maxWorkers n, fun m => maxWorkers_le⟩, fun n k => maxWorkers_mono,
    fun n word => maxWorkers_le (Nat.le_of_lt word), maxWorkers_eq_clz, ?_, ?_⟩
  · intro capacity d some
    refine ⟨fun w => ⟨d.owned_pairwise w, Dispatch.owned_eq_stride some w⟩,
      fun v hv w hw => Dispatch.owned_disjoint hv hw, fun i => ?_⟩
    exact ⟨Dispatch.count_owned some i, d.owner_lt i some, d.mem_owned_owner i⟩
  · intro config machine moves word e
    have processors : config.concurrency.elim machine UInt64.toNat < 2 ^ 64 := by
      cases config.concurrency with
      | none => exact word
      | some n => exact n.toNat_lt
    have scaled := (scaled_new config machine).moveAll moves
    have manned := (manned_new config machine).moveAll moves
    constructor
    · exact scaled.inRange manned processors
    · intro b counted
      exact (scaled.counted counted).inRange (manned.counted counted) processors

/-- Five processors have three workers, which share eight slots; and an engine on them is stopped
while the thread of a worker is slow. -/
theorem worker_arithmetic_is_safe_slow :
    let d := Dispatch.start 8 3
    let one : Handle := ⟨1, by decide, by decide⟩
    let e := (new {} 5).moveAll [.call (.start one), .thread (.slow 0), .call (.stop one)]
    ((1 : Nat) ≤ 1 ∧ (5 : Nat) ≤ 2 ^ 3 ∧ (4 : Nat) ≤ 5 ∧ (5 : Nat) < 2 ^ 64 ∧ 1 < (5#64).toNat ∧
      1 ≤ d.workers) ∧
    PluginBridge.maxWorkers 1 = 0 ∧
      PluginBridge.maxWorkers 5 = 64 - (5#64 - 1#64).clz.toNat ∧ PluginBridge.maxWorkers 5 ≤ 3 ∧
      PluginBridge.maxWorkers 4 ≤ PluginBridge.maxWorkers 5 ∧ PluginBridge.maxWorkers 5 ≤ 64 ∧
      ((List.range 3).flatMap d.owned).count 7 = 1 ∧
      e.pool.thread 0 = .slow ∧ e.pool.threads.length = 3 ∧ e.InRange := by
  intro d one e
  have hypotheses : (1 : Nat) ≤ 1 ∧ (5 : Nat) ≤ 2 ^ 3 ∧ (4 : Nat) ≤ 5 ∧ (5 : Nat) < 2 ^ 64 ∧
      1 < (5#64).toNat ∧ 1 ≤ d.workers := by decide
  obtain ⟨one_le, reaches, le, word, many, some⟩ := hypotheses
  obtain ⟨few, least, mono, bound, leading, slots, engines⟩ := worker_arithmetic_is_safe
  have range : e.InRange := (engines {} 5 _ word).1
  have once := ((slots 8 d some).2.2 7).1
  exact ⟨⟨one_le, reaches, le, word, many, some⟩, few 1 one_le, leading 5#64 many,
    (least 5).2 3 reaches, mono 4 5 le, bound 5 word, once, by decide +kernel, by decide +kernel,
    range⟩

end Engine

end PluginBridge
