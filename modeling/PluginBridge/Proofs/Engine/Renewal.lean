import PluginBridge.Proofs.Dispatch.Dismissals
import PluginBridge.Proofs.Engine.Books
import PluginBridge.Proofs.Engine.Jobs

/-!
# An activation after a failed takedown

A stop that is taken back by the wrong handle leaves a batch behind, with claimed slots and the
threads of their workers. The next activation takes it down. If none of its slots is posted, this
works, and the new activation begins as if nothing were left (`Renews`). Otherwise the start is
refused because of the lowest posted slot: the claimed slots below it have been given back by then,
and nothing else has changed (`start_of_posted`). Once the posted slots are answered, a start works
again.

That the new activation has workers follows from the old one having had some: the number of workers
is counted anew for each activation, but always from the same processors (`Sized`).
-/

namespace PluginBridge

namespace Engine

variable {e e' : Engine} {d : Dispatch slotCount} {b : Batch slotCount} {h : Handle}
  {k : Fin slotCount}

/-! ## The number of workers -/

/-- The processors of an engine, and the number of workers that it counted from them. -/
def sizes (e : Engine) : Nat × Nat := (e.processors, e.maxWorkers)

theorem sizes_retire (e : Engine) : e.retire.sizes = e.sizes := by
  rw [retire]
  split <;> rfl

theorem sizes_settle (e : Engine) : e.settle.1.sizes = e.sizes := by
  rw [settle]
  split
  · rw [deactivate]
    split
    · rfl
    · exact e.sizes_retire
  · rfl

theorem sizes_teardown (e : Engine) : e.teardown.1.sizes = e.sizes := by
  simp only [teardown]
  split
  · rfl
  · split
    · rfl
    · split
      · exact sizes_retire _
      · rfl

theorem sizes_putBatch (e : Engine) (c : Client) (b : Batch slotCount) :
    (e.putBatch c b).sizes = e.sizes := by
  rw [putBatch]
  split <;> rfl

/-- An engine has not counted its workers yet, or has counted them from its processors. -/
def Sized (e : Engine) : Prop :=
  e.maxWorkers = 0 ∨ e.maxWorkers = PluginBridge.maxWorkers e.processors

theorem Sized.of_sizes (sized : e.Sized) (same : e'.sizes = e.sizes) : e'.Sized := by
  obtain ⟨processors, workers⟩ := Prod.mk.inj same
  rw [Sized, processors, workers]
  exact sized

theorem Sized.perform (sized : e.Sized) (consistent : e.Consistent) (call : EngineCall) :
    (e.perform call).Sized := by
  have counted {b : Engine} (counted : e.Counted b) : b.Sized := by
    cases counted with
    | first => exact .inr rfl
    | further => exact sized
  cases call with
  | start h =>
    have outcome := e.start_outcome h
    rw [Engine.perform]
    generalize e.start h = started at outcome ⊢
    cases outcome with
    | refused none down =>
      have same := e.sizes_teardown
      rw [down] at same
      exact sized.of_sizes same
    | direct up => exact counted up
    | claimed up => exact (counted up).of_sizes rfl
    | inUse => exact sized
  | stop h =>
    have outcome := consistent.stop_outcome h
    rw [Engine.perform]
    generalize e.stop h = stopped at outcome ⊢
    cases outcome with
    | unbalanced => exact sized
    | free => exact sized.of_sizes e.countDown.sizes_settle
    | stalled => exact sized
    | released => exact sized.of_sizes (sizes_settle _)
  | setEnabled enabled => exact sized
  | post c job =>
    rw [Engine.perform, Engine.post]
    cases e.batchOf? c with
    | none => exact sized
    | some b => exact sized.of_sizes (e.sizes_putBatch c _)
  | finish c code =>
    rw [Engine.perform, Engine.finish]
    cases e.batchOf? c with
    | none => exact sized
    | some b => exact sized.of_sizes (e.sizes_putBatch c _)

theorem sized_performAll (consistent : e.Consistent) (sized : e.Sized) (calls : List EngineCall) :
    (e.performAll calls).Sized := by
  induction calls generalizing e with
  | nil => exact sized
  | cons call calls ih => exact ih (consistent.perform call) (sized.perform consistent call)

/-- An engine that has a batch has workers for the next one. -/
theorem Sized.workers (sized : e.Sized) (consistent : e.Consistent) (hd : e.dispatch = some d) :
    0 < PluginBridge.maxWorkers e.processors := by
  have some := (consistent.staffed d hd).some
  rw [consistent.workers d hd] at some
  rcases sized with none | counted
  · omega
  · rwa [← counted]

/-! ## Taking down what is left -/

/-- A takedown that meets no request gives all slots back and stops all threads. -/
theorem Consistent.teardown_of_left (consistent : e.Consistent) (hd : e.dispatch = some d)
    (resting : ∀ i, d.batch.state i ≠ .posted) :
    ∃ b : Batch slotCount, (∀ i, b.state i = .unused) ∧
      e.teardown = ({ e with
        dispatch := none
        pool := e.dismissed
        retired := e.retired ++ [b] }, .ok ()) := by
  have staffed := consistent.staffed d hd
  obtain ⟨b, done, unused⟩ := releaseSlots_of_resting staffed.ordinary resting
  exact ⟨b, unused, (teardown_of_done hd done staffed.scanning).1⟩

/-- A takedown is refused by the lowest posted slot. It has given back the claimed slots below. -/
theorem releaseSlots_of_posted (ordinary : ∀ i, (b.state i).Ordinary) (posted : b.state k = .posted)
    (lowest : ∀ i < k, b.state i ≠ .posted) :
    ∃ b', releaseSlots (List.finRange slotCount) b =
        (b', .error (.transitionStalled k .waiting .posted)) ∧
      (∀ i < k, b'.slot i = { b.slot i with state := .unused }) ∧
      ∀ i, k ≤ i → b'.slot i = b.slot i := by
  have payload := payload_releaseSlots (List.finRange slotCount) b
  have still : (releaseSlots (List.finRange slotCount) b).1.state k = .posted := by
    rcases state_releaseSlots (List.finRange slotCount) b k with same | ⟨waiting, -⟩
    · exact same.trans posted
    · rw [posted] at waiting
      cases waiting
  rcases releaseSlots_cases (List.finRange slotCount) b with ⟨b', ⟨v, refused⟩ | done⟩
  · rw [refused] at still payload
    obtain ⟨i, -, used, free, rfl, above, below⟩ :=
      releaseSlots_error (List.pairwise_lt_finRange _) refused
    have here := (ordinary i).posted (Batch.inUse_iff.1 used) free
    have lowest_i : i = k := by
      refine Fin.le_antisymm (Fin.not_lt.1 fun lt => ?_) (Fin.not_lt.1 fun lt => lowest i lt here)
      rw [below k (List.mem_finRange k) lt] at still
      cases still
    subst lowest_i
    -- A slot is its state and its payload.
    have slot (j : Fin slotCount) {x : SlotState} (state : b'.state j = x) :
        b'.slot j = { b.slot j with state := x } := by
      rw [← state]
      exact congrArg (fun s : Slot => { s with state := b'.state j }) (payload j)
    refine ⟨b', by rw [refused, here], fun j lt => slot j (below j (List.mem_finRange j) lt),
      fun j le => slot j (above j le)⟩
  · rw [done] at still
    cases still.symm.trans (unused_releaseSlots done (.inr (List.mem_finRange k)))

/-- A start over a posted slot is refused, and is not counted. -/
theorem start_of_posted (inactive : e.active = 0) (hd : e.dispatch = some d)
    (ordinary : ∀ i, (d.batch.state i).Ordinary) (posted : d.batch.state k = .posted)
    (lowest : ∀ i < k, d.batch.state i ≠ .posted) (h : Handle) :
    ∃ b, e.start h = ({ e with dispatch := some { d with batch := b } },
        .error (.transitionStalled k .waiting .posted)) ∧
      (∀ i < k, b.slot i = { d.batch.slot i with state := .unused }) ∧
      ∀ i, k ≤ i → b.slot i = d.batch.slot i := by
  obtain ⟨b, refused, below, above⟩ := releaseSlots_of_posted ordinary posted lowest
  exact ⟨b, start_of_refused inactive (teardown_of_refused hd refused), below, above⟩

/-! ## A new activation -/

/-- A start ends an activation that was left behind and begins a new one. Every slot of the old
batch is unused. The takedown stops the live workers in their order, each of which ends and is joined
before the next one is asked, and leaves nobody; only then the new activation begins. This one has
the slot of the handle claimed and its worker running if the engine is enabled, and otherwise no
batch. -/
structure Renews (e : Engine) (h : Handle) : Prop where
  answer : (e.start h).2 = .ok (if e.enabled then some ⟨e.retired.length + 1, h.slot⟩ else none)
  active : (e.start h).1.active = 1
  retired : ∃ old : Batch slotCount, (e.start h).1.retired = e.retired ++ [old] ∧
    ∀ i, old.state i = .unused
  joined : ∃ torn : Engine, e.teardown = (torn, .ok ()) ∧ (∀ w, torn.pool.thread w = .absent) ∧
    torn.pool.log = (((List.range e.pool.threads.length).filter e.pool.isLive).flatMap
      fun w => [.ended w, .joined w]).reverse ++ e.pool.log ∧
    (e.start h).1.pool.log =
      (if e.enabled then [.started (h.slot.val % PluginBridge.maxWorkers e.processors)] else []) ++
        torn.pool.log
  claimed : e.enabled → (e.start h).1.pool.liveCount = 1 ∧
    ∃ d, (e.start h).1.dispatch = some d ∧ d.highWater = h.raw ∧
      (e.start h).1.pool.thread (d.owner h.slot) = .scanning ∧
      ∀ i, d.batch.inUse i ↔ i = h.slot
  direct : ¬ e.enabled → (e.start h).1.dispatch = none ∧ (e.start h).1.pool.liveCount = 0

/-- The first thread of a pool is its only one. -/
theorem liveCount_put_empty {workers w : Nat} (log : List ThreadEvent) (room : w < workers) :
    ((Pool.empty workers log).put w .scanning).liveCount = 1 := by
  have length : (Pool.empty workers log).threads.length = workers := by simp [Pool.empty]
  rw [Pool.liveCount_eq_card, Pool.length_put, length, Finset.card_eq_one]
  refine ⟨w, Finset.ext fun v => ?_⟩
  rw [Finset.mem_filter, Finset.mem_range, Finset.mem_singleton]
  constructor
  · rintro ⟨-, live⟩
    by_contra other
    rw [Pool.isLive_put_of_ne _ other] at live
    exact Pool.not_isLive_empty workers log v live
  · rintro rfl
    exact ⟨room, Pool.isLive_iff.2 (by rw [Pool.thread_put_self (by rwa [length])]; simp)⟩

/-- The first claim of an activation that has workers. -/
theorem claim_begin_of_enabled (enabled : e.enabled)
    (workers : 0 < PluginBridge.maxWorkers e.processors) (h : Handle) :
    ∃ d : Dispatch slotCount, e.begin.claim h = ({ e.begin with
        dispatch := some d
        pool := ((Pool.empty (PluginBridge.maxWorkers e.processors) e.pool.log).put
          (d.owner h.slot) .scanning).note (.started (d.owner h.slot)) },
          .ok (some ⟨e.retired.length, h.slot⟩)) ∧
      d.workers = PluginBridge.maxWorkers e.processors ∧ d.highWater = h.raw ∧
      ∀ i, d.batch.inUse i ↔ i = h.slot := by
  let fresh := Dispatch.start slotCount (PluginBridge.maxWorkers e.processors)
  have begun : e.begin.dispatch = some fresh := by simp [begin, activate, enabled, workers, fresh]
  have gone := Pool.not_isLive_empty (PluginBridge.maxWorkers e.processors) e.pool.log
    (fresh.owner h.slot)
  refine ⟨Dispatch.raise { fresh with batch := fresh.batch.withState h.slot .waiting } h.slot,
    (claim_of_unused begun (state_begin begun h.slot)).trans ?_, rfl, ?_, fun i => ?_⟩
  · have acquired : e.begin.pool.acquire (fresh.owner h.slot) =
        ((Pool.empty (PluginBridge.maxWorkers e.processors) e.pool.log).put
          (fresh.owner h.slot) .scanning).note (.started (fresh.owner h.slot)) :=
      if_neg gone
    rw [claimed, acquired]
    rfl
  · simp only [Dispatch.raise, fresh, Dispatch.start, Handle.slot]
    have := h.pos
    omega
  · rw [Batch.inUse_iff]
    by_cases here : i = h.slot
    · subst here
      simp [Dispatch.raise]
    · have untouched : (fresh.batch.withState h.slot .waiting).state i = .unused :=
        (Batch.state_withState_of_ne _ _ here).trans (state_begin begun i)
      simp [Dispatch.raise, untouched, here]

theorem claim_begin_of_disabled (disabled : ¬ e.enabled) (h : Handle) :
    e.begin.claim h = (e.begin, .ok none) ∧ e.begin.dispatch = none := by
  have none : e.begin.dispatch = none := by simp [begin, activate, disabled]
  exact ⟨claim_of_none none, none⟩

/-- A start over a batch without posted slots begins a new activation. -/
theorem Consistent.renews (consistent : e.Consistent) (sized : e.Sized) (inactive : e.active = 0)
    (hd : e.dispatch = some d) (resting : ∀ i, d.batch.state i ≠ .posted) (h : Handle) :
    e.Renews h := by
  obtain ⟨old, unused, down⟩ := consistent.teardown_of_left hd resting
  have workers := sized.workers consistent hd
  have started : e.start h = _ := start_of_inactive inactive down
  have torn : (∀ w, e.dismissed.thread w = .absent) ∧ e.dismissed.log =
      (((List.range e.pool.threads.length).filter e.pool.isLive).flatMap
        fun w => [.ended w, .joined w]).reverse ++ e.pool.log :=
    ⟨fun w => Pool.thread_of_not_isLive (e.pool.not_isLive_dismissAll w),
      e.pool.log_dismissAll List.nodup_range⟩
  by_cases enabled : e.enabled
  · obtain ⟨d', eq, size, mark, only⟩ := claim_begin_of_enabled (e := { e with
      dispatch := none
      pool := e.dismissed
      retired := e.retired ++ [old] }) enabled workers h
    rw [eq] at started
    have owner : d'.owner h.slot = h.slot.val % PluginBridge.maxWorkers e.processors := by
      rw [Dispatch.owner, size]
    have room : d'.owner h.slot < PluginBridge.maxWorkers e.processors := by
      rw [owner]
      exact Nat.mod_lt _ workers
    have scanning : ((Pool.empty (PluginBridge.maxWorkers e.processors) e.dismissed.log).put
        (d'.owner h.slot) .scanning).thread (d'.owner h.slot) = .scanning :=
      Pool.thread_put_self (by simpa [Pool.empty] using room)
    constructor
    · simp [started, enabled]
    · rw [started]
      rfl
    · rw [started]
      exact ⟨old, rfl, unused⟩
    · refine ⟨_, down, torn.1, torn.2, ?_⟩
      rw [started, if_pos enabled, ← owner]
      rfl
    · rw [started]
      exact fun _ => ⟨liveCount_put_empty e.dismissed.log room, d', rfl, mark, scanning, only⟩
    · exact fun disabled => absurd enabled disabled
  · obtain ⟨eq, none⟩ := claim_begin_of_disabled (e := { e with
      dispatch := none
      pool := e.dismissed
      retired := e.retired ++ [old] }) enabled h
    rw [eq] at started
    constructor
    · simp [started, enabled]
    · rw [started]
      rfl
    · rw [started]
      exact ⟨old, rfl, unused⟩
    · refine ⟨_, down, torn.1, torn.2, ?_⟩
      rw [started, if_neg enabled]
      rfl
    · exact fun on => absurd on enabled
    · rw [started]
      exact fun _ => ⟨none, Pool.liveCount_eq_zero.2 (Pool.not_isLive_empty _ _)⟩

/-! ## Starting again -/

/-- Without a posted slot a start that would begin an activation works. -/
theorem Consistent.start_of_resting (consistent : e.Consistent) (inactive : e.active = 0)
    (resting : e.Resting) (h : Handle) : ∃ client?, (e.start h).2 = .ok client? := by
  have outcome := e.start_outcome h
  generalize e.start h = started at outcome
  cases outcome with
  | @refused e' v none down =>
    cases hd : e.dispatch with
    | none => cases (teardown_of_none hd).symm.trans down
    | some d =>
      obtain ⟨b, -, done⟩ := consistent.teardown_of_left hd (resting d hd)
      cases done.symm.trans down
  | direct => exact ⟨_, rfl⟩
  | claimed => exact ⟨_, rfl⟩
  | inUse active => exact absurd inactive (Nat.ne_of_gt active)

/-- Requests of one activation that are answered. -/
def answering (activation : Nat) (answers : List (Fin slotCount × ResultCode)) : List EngineCall :=
  answers.map fun a => .finish ⟨activation, a.1⟩ a.2

/-- Answers to requests of the current activation change its batch and nothing else. -/
theorem performAll_answering (hd : e.dispatch = some d)
    (answers : List (Fin slotCount × ResultCode)) :
    e.performAll (answering e.retired.length answers) = { e with
      dispatch := some { d with batch := answers.foldl (fun b a => b.finish a.1 a.2) d.batch } } := by
  induction answers generalizing e d with
  | nil =>
    rw [answering, List.map_nil, performAll, List.foldl_nil, List.foldl_nil, ← hd]
  | cons a answers ih =>
    have answered : e.finish ⟨e.retired.length, a.1⟩ a.2 =
        { e with dispatch := some { d with batch := d.batch.finish a.1 a.2 } } := by
      simp [finish, batchOf?, putBatch, hd]
    change (e.finish ⟨e.retired.length, a.1⟩ a.2).performAll
      (answering e.retired.length answers) = _
    rw [answered]
    exact ih (e := { e with dispatch := some { d with batch := d.batch.finish a.1 a.2 } }) rfl

/-- A slot that is posted after several answers was posted before, and none of them was for it. -/
theorem posted_of_answered {answers : List (Fin slotCount × ResultCode)}
    (posted : (answers.foldl (fun b a => b.finish a.1 a.2) b).state k = .posted) :
    b.state k = .posted ∧ ∀ code, (k, code) ∉ answers := by
  induction answers generalizing b with
  | nil => exact ⟨posted, fun _ => List.not_mem_nil⟩
  | cons a answers ih =>
    obtain ⟨before, others⟩ := ih posted
    rw [Batch.state_finish] at before
    have other : k ≠ a.1 := by
      rintro rfl
      split at before
      · simp at before
      · next free => exact free before
    refine ⟨?_, fun code mem => ?_⟩
    · split at before
      · rwa [Batch.state_withState_of_ne _ _ other] at before
      · exact before
    · rcases List.mem_cons.1 mem with same | later
      · exact other (congrArg Prod.fst same)
      · exact others code later

/-- **A start after a failed takedown.** Whatever has been called, on which side and in which order,
and whether it succeeded or not: if no start is left to be stopped, but a batch, and the threads
answer in time, then a start depends on the posted slots of that batch. If there is none, the start
renews the activation. Otherwise it is refused because of the lowest one. No start is counted then,
the workers and the high-water mark are as they were, and so are the slots from the refused one on;
those below it are unused. The next start after the posted slots have been answered renews the
activation, and whatever else is called in between, a start works as soon as no start is left to be
stopped and no slot is posted. -/
theorem starts_over_leftover (config : Config) (machine : Nat) (calls : List EngineCall)
    (inactive : ((new config machine).performAll calls).active = 0)
    (left : ((new config machine).performAll calls).dispatch = some d) (h : Handle) :
    let e := (new config machine).performAll calls
    ((∀ i, d.batch.state i ≠ .posted) → e.Renews h) ∧
    ∀ k, d.batch.state k = .posted → (∀ i < k, d.batch.state i ≠ .posted) →
      ∃ b : Batch slotCount,
        e.start h = ({ e with dispatch := some { d with batch := b } },
          .error (.transitionStalled k .waiting .posted)) ∧
        (∀ i < k, b.slot i = { d.batch.slot i with state := .unused }) ∧
        (∀ i, k ≤ i → b.slot i = d.batch.slot i) ∧
        (∀ answers : List (Fin slotCount × ResultCode),
          (∀ i, d.batch.state i = .posted → ∃ code, (i, code) ∈ answers) →
            let e' := (e.start h).1.performAll (answering e.retired.length answers)
            e'.active = 0 ∧ ∀ h', e'.Renews h') ∧
        ∀ later : List EngineCall,
          let e' := (e.start h).1.performAll later
          e'.active = 0 → e'.Resting → ∀ h', ∃ client?, (e'.start h').2 = .ok client? := by
  intro e
  have consistent : e.Consistent := consistent_performAll (consistent_new config machine) calls
  have sized : e.Sized := sized_performAll (consistent_new config machine) (.inl rfl) calls
  refine ⟨fun resting => consistent.renews sized inactive left resting h,
    fun k posted lowest => ?_⟩
  obtain ⟨b, refused, below, above⟩ :=
    start_of_posted inactive left (consistent.staffed d left).ordinary posted lowest h
  have kept : (e.start h).1.Consistent := consistent.start h
  refine ⟨b, refused, below, above, fun answers all => ?_, fun later inactive resting h' =>
    (consistent_performAll kept later).start_of_resting inactive resting h'⟩
  intro e'
  have consistent' : e'.Consistent := consistent_performAll kept _
  have sized' : e'.Sized := sized_performAll kept (sized.perform consistent (.start h)) _
  have answered : e' = { e with dispatch := some { d with
      batch := answers.foldl (fun b a => b.finish a.1 a.2) b } } := by
    change (e.start h).1.performAll _ = _
    rw [refused]
    exact performAll_answering (e := { e with dispatch := some { d with batch := b } }) rfl answers
  have inactive' : e'.active = 0 := by
    rw [answered]
    exact inactive
  refine ⟨inactive', consistent'.renews sized' inactive' (by rw [answered]) ?_⟩
  intro i still
  obtain ⟨was, none⟩ := posted_of_answered still
  -- A slot that the refused start has left posted was posted before.
  have before : d.batch.state i = .posted := by
    rcases Nat.lt_or_ge i.val k.val with lt | le
    · rw [Batch.state, below i lt] at was
      cases was
    · rw [Batch.state, above i le] at was
      exact was
  obtain ⟨code, mem⟩ := all i before
  exact none code mem

/-- Three handles that are started, and whose starts are taken back by stops for a handle that has
none. -/
def abandoned (low mid high stray : Handle) : List EngineCall :=
  [.start low, .start mid, .start high, .stop stray, .stop stray, .stop stray]

/-- The batch that is left is taken down, at once or after the request in it has been answered. -/
theorem starts_over_leftover_abandoned :
    let mid : Handle := ⟨3, by decide, by decide⟩
    let last : Handle := ⟨9, by decide, by decide⟩
    let calls := abandoned ⟨1, by decide, by decide⟩ mid ⟨5, by decide, by decide⟩ last
    let e := (new {} 4).performAll calls
    let busy := (new {} 4).performAll (calls ++ [.post ⟨0, mid.slot⟩ ⟨mid, 5, 0, 0⟩])
    (e.active = 0 ∧ ∃ d, e.dispatch = some d ∧ ∀ i, d.batch.state i ≠ .posted) ∧ e.Renews last ∧
      (busy.active = 0 ∧ ∃ d, busy.dispatch = some d ∧
        ∀ i, d.batch.state i = .posted ↔ i = mid.slot) ∧
      (busy.start last).2 = .error (.transitionStalled 2 .waiting .posted) ∧
      ((busy.start last).1.performAll (answering 0 [(mid.slot, .success)])).Renews last := by
  intro mid last calls e busy
  have inactive : e.active = 0 := by decide +kernel
  have inactive' : busy.active = 0 := by decide +kernel
  have claimed : e.dispatch.isSome := by decide +kernel
  have claimed' : busy.dispatch.isSome := by decide +kernel
  obtain ⟨d, left⟩ := Option.isSome_iff_exists.1 claimed
  obtain ⟨d', left'⟩ := Option.isSome_iff_exists.1 claimed'
  have resting (i : Fin slotCount) : d.batch.state i ≠ .posted := by
    have all : ∀ i, e.dispatch.map (·.batch.state i) ≠ some .posted := by decide +kernel
    simpa [left] using all i
  have posted (i : Fin slotCount) : d'.batch.state i = .posted ↔ i = mid.slot := by
    have all : ∀ i, busy.dispatch.map (·.batch.state i) = some .posted ↔ i = mid.slot := by
      decide +kernel
    simpa [left'] using all i
  obtain ⟨renews, -⟩ := starts_over_leftover {} 4 calls inactive left last
  obtain ⟨-, refuses⟩ := starts_over_leftover {} 4 _ inactive' left' last
  obtain ⟨b, refused, -, -, answered, -⟩ := refuses mid.slot ((posted _).2 rfl) fun i lt same =>
    Fin.ne_of_lt lt ((posted i).1 same)
  have none : busy.retired.length = 0 := by decide +kernel
  refine ⟨⟨inactive, d, left, resting⟩, renews resting, ⟨inactive', d', left', posted⟩,
    congrArg Prod.snd refused, ?_⟩
  obtain ⟨-, renews'⟩ := answered [(mid.slot, .success)] fun i waits =>
    ⟨.success, by rw [(posted i).1 waits]; exact List.mem_singleton.2 rfl⟩
  rw [none] at renews'
  exact renews' last

end Engine

end PluginBridge
