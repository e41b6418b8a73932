import PluginBridge.Proofs.Engine.Books

/-!
# The engine keeps its books

As long as no start or stop meets a request in flight, the engine does what its books say. Each call
answers what the books answer, and takes the books of the engine to the books after the call
(`Undisturbed.perform_books`); so a whole run is seen to be a run of the books (`keeps_books`).

What carries this is that the threads are then always those of the workers that own a claimed slot
(`Tended.liveCount`). A refused takedown would break it, and is what a request in flight can bring
about.
-/

namespace PluginBridge

namespace Engine

variable {e e' : Engine} {d : Dispatch slotCount} {h : Handle} {c : Client}

/-- The threads are those of the workers that own a claimed slot. -/
structure Tended (e : Engine) : Prop where
  workers : ∀ d, e.dispatch = some d → d.workers = e.maxWorkers
  staffed : ∀ d, e.dispatch = some d → Staffed e.pool d
  busy : ∀ d, e.dispatch = some d → e.pool.Busy d
  idle : e.dispatch = none → ∀ w, ¬ e.pool.isLive w

theorem Tended.liveCount (tended : e.Tended) : e.pool.liveCount = e.books.liveWorkers := by
  cases hd : e.dispatch with
  | none =>
    rw [Pool.liveCount_eq_zero.2 (tended.idle hd)]
    simp [Books.liveWorkers, Books.claimed, books, hd]
  | some d =>
    have staffed := tended.staffed d hd
    have workers := tended.workers d hd
    rw [Pool.liveCount_eq_card]
    simp only [Books.liveWorkers, Books.claimed, books, hd, Option.map_some, Option.getD_some]
    congr 1
    ext w
    rw [Finset.mem_filter, Finset.mem_range, Finset.mem_image]
    constructor
    · rintro ⟨hw, live⟩
      obtain ⟨i, mem, used⟩ := Dispatch.ownedInUse_iff.1 (tended.busy d hd w live)
      refine ⟨i, Batch.mem_claimed.2 used, ?_⟩
      rw [← workers]
      exact Dispatch.owner_eq_of_mem (staffed.room ▸ hw) mem
    · rintro ⟨i, used, rfl⟩
      have live := staffed.manned i (Batch.mem_claimed.1 used)
      rw [← workers]
      exact ⟨Pool.lt_of_isLive live, live⟩

/-- What holds of an engine whose starts and stops never met a request in flight. -/
structure Undisturbed (e : Engine) : Prop where
  consistent : e.Consistent
  busy : ∀ d, e.dispatch = some d → e.pool.Busy d
  available : e.available = decide (0 < e.maxWorkers)

theorem Undisturbed.tended (u : e.Undisturbed) : e.Tended :=
  ⟨u.consistent.workers, u.consistent.staffed, u.busy, u.consistent.idle⟩

/-- A snapshot of the engine, by its books. -/
theorem Undisturbed.stats (u : e.Undisturbed) : e.stats = e.books.stats := by
  have live := u.tended.liveCount
  have mark : e.dispatch.elim 0 Dispatch.highWater = e.books.claimed.sup fun i => i.val + 1 := by
    cases hd : e.dispatch with
    | none => simp [Books.claimed, books, hd]
    | some d =>
      simp only [Books.claimed, books, hd, Option.map_some, Option.getD_some, Option.elim_some]
      exact (u.consistent.staffed d hd).marked.highWater_eq
  have allocated : e.dispatch.isSome = e.books.batch.isSome := by
    simp [books]
  simp only [Engine.stats, Books.stats, live, mark, allocated, u.available]
  rfl

/-! ## Batches that are put away and begun -/

theorem books_retire (e : Engine) : e.retire.books = e.books.drop := by
  cases hd : e.dispatch with
  | none => simp [retire, books, Books.drop, hd]
  | some d => simp [retire, books, Books.drop, hd]

theorem books_begin (none : e.dispatch = none) : e.begin.books = e.books.begin := by
  simp only [begin, activate, books, Books.begin, Books.drop, none]
  split
  · simp [Dispatch.start]
  · simp

/-- A takedown that meets no request works, and puts the batch away. -/
theorem Consistent.teardown_of_resting (consistent : e.Consistent) (resting : e.Resting) :
    ∃ e', e.teardown = (e', .ok ()) ∧ e'.dispatch = none ∧ e'.books = e.books.drop := by
  cases hd : e.dispatch with
  | none =>
    refine ⟨e, teardown_of_none hd, hd, ?_⟩
    simp [books, Books.drop, hd]
  | some d =>
    have staffed := consistent.staffed d hd
    obtain ⟨b, done, -⟩ := releaseSlots_of_resting staffed.ordinary (resting d hd)
    obtain ⟨eq, -⟩ := teardown_of_done hd done staffed.scanning
    refine ⟨_, eq, rfl, ?_⟩
    rw [books_retire]
    simp [books, Books.drop, hd]

/-! ## Starting -/

/-- A start is counted in the books as in the engine. -/
theorem Consistent.counted_books {b : Engine} (consistent : e.Consistent) (resting : e.Resting)
    (counted : e.Counted b) : b.books = e.books.count := by
  cases counted with
  | @first e' none down =>
    obtain ⟨e'', eq, gone, dropped⟩ := consistent.teardown_of_resting resting
    cases down.symm.trans eq
    rw [books_begin gone, dropped, Books.begin_drop, Books.count]
    exact (if_pos none).symm
  | further active =>
    rw [Books.count]
    exact (if_neg (Nat.ne_of_gt active)).symm

theorem books_claimed (hd : e.dispatch = some d) (unused : d.batch.state h.slot = .unused) :
    e.books.enter h.slot = ((e.claimed d h).books, some ⟨e.retired.length, h.slot⟩) := by
  have claimed := Batch.claimed_withState (b := d.batch) (i := h.slot) (x := .waiting) (by simp)
  have inFlight := Batch.inFlight_withState (b := d.batch) (i := h.slot) (x := .waiting) (by simp)
  rw [Finset.erase_eq_of_notMem (by simp [unused])] at inFlight
  simp [Books.enter, books, hd, Engine.claimed, Dispatch.raise, claimed, inFlight]

/-- A start answers what the books answer, and keeps its books. -/
theorem Consistent.start_books (consistent : e.Consistent) (resting : e.Resting) (h : Handle) :
    e.books.start h = ((e.start h).1.books, (e.start h).2) := by
  -- A start that is not refused comes after the count, and the slot is not claimed before it.
  have entered {b : Engine} (counted : e.Counted b)
      (free : ∀ d, b.dispatch = some d → d.batch.state h.slot = .unused) :
      e.books.start h = ((b.books.enter h.slot).1, .ok (b.books.enter h.slot).2) := by
    rw [consistent.counted_books resting counted, Books.start, if_neg]
    rintro ⟨active, claimed⟩
    cases counted with
    | first none => exact absurd none (Nat.ne_of_gt active)
    | further =>
      cases hd : e.dispatch with
      | none => simp [Books.claimed, books, hd] at claimed
      | some d =>
        simp [Books.claimed, books, hd, Batch.inUse_iff] at claimed
        exact claimed (free d hd)
  have outcome := e.start_outcome h
  generalize e.start h = started at outcome ⊢
  cases outcome with
  | refused none down =>
    obtain ⟨e', eq, -, -⟩ := consistent.teardown_of_resting resting
    cases down.symm.trans eq
  | direct counted none =>
    rw [entered counted (by simp [none])]
    simp [Books.enter, books, none]
  | @claimed b d counted hd unused =>
    rw [entered counted fun d' hd' => by cases hd.symm.trans hd'; exact unused,
      books_claimed hd unused]
  | @inUse d active hd used =>
    rw [Books.start, if_pos]
    refine ⟨active, ?_⟩
    simp [Books.claimed, books, hd, Batch.inUse_iff, used]

/-! ## Stopping -/

/-- Settling a stop answers what the books answer, and keeps its books. -/
theorem Tended.settle_books (tended : e.Tended) :
    e.books.settle = (e.settle.1.books, e.settle.2) := by
  have live := tended.liveCount
  rw [Books.settle, Engine.settle]
  by_cases last : e.active = 0
  · rw [active_books, if_neg (by simp [last]), if_pos last, deactivate]
    by_cases free : e.books.claimed = ∅
    · have gone : e.pool.liveCount = 0 := by simp [live, Books.liveWorkers, free]
      rw [if_pos free, if_neg (by simp [gone]), books_retire]
    · have some : 0 < e.pool.liveCount := by
        rw [live, Books.liveWorkers, Finset.card_pos, Finset.image_nonempty]
        exact Finset.nonempty_iff_ne_empty.2 free
      rw [if_neg free, if_pos some, live]
  · rw [active_books, if_pos (Nat.pos_of_ne_zero last), if_neg last]

theorem books_countDown (e : Engine) (free : ∀ d, e.dispatch = some d → d.batch.inUse h.slot = false) :
    e.countDown.books = e.books.leave h.slot := by
  cases hd : e.dispatch with
  | none => simp [countDown, books, Books.leave, hd]
  | some d =>
    have none : h.slot ∉ d.batch.claimed := by simp [free d hd]
    simp [countDown, books, Books.leave, hd, Finset.erase_eq_of_notMem none]

theorem books_without {q : Pool} (hd : e.dispatch = some d)
    (waiting : d.batch.state h.slot = .waiting) :
    books { e.countDown with dispatch := some (d.without h.slot), pool := q } =
      e.books.leave h.slot := by
  have inFlight := Batch.inFlight_withState (b := d.batch) (i := h.slot) (x := .unused) (by simp)
  rw [Finset.erase_eq_of_notMem (by simp [waiting])] at inFlight
  simp [countDown, books, Books.leave, hd, Batch.claimed_withState_unused, inFlight]

theorem Tended.countDown (tended : e.Tended) : e.countDown.Tended :=
  ⟨tended.workers, tended.staffed, tended.busy, tended.idle⟩

theorem Tended.without {q : Pool} (tended : e.Tended) (hd : e.dispatch = some d)
    (staffed : Staffed q (d.without h.slot)) (busy : q.Busy (d.without h.slot)) :
    Tended { e.countDown with dispatch := some (d.without h.slot), pool := q } where
  workers d' hd' := by
    cases hd'
    rw [Dispatch.workers_without]
    exact tended.workers d hd
  staffed d' hd' := by
    cases hd'
    exact staffed
  busy d' hd' := by
    cases hd'
    exact busy
  idle none := by cases none

/-- A stop answers what the books answer, and keeps its books. -/
theorem Undisturbed.stop_books (u : e.Undisturbed) (resting : e.Resting) (h : Handle) :
    e.books.stop h = ((e.stop h).1.books, (e.stop h).2) := by
  have outcome := u.consistent.stop_outcome h
  generalize e.stop h = stopped at outcome ⊢
  cases outcome with
  | unbalanced none =>
    rw [Books.stop]
    exact if_pos none
  | free active free =>
    rw [Books.stop, active_books, if_neg (Nat.ne_of_gt active), ← books_countDown e free]
    exact u.tended.countDown.settle_books
  | stalled active hd posted => exact absurd posted (resting _ hd _)
  | @released d q active hd waiting staffed busy =>
    rw [Books.stop, active_books, if_neg (Nat.ne_of_gt active), ← books_without hd waiting]
    exact (u.tended.without hd staffed busy).settle_books

/-! ## Requests -/

/-- The batch of a client of the current activation. -/
theorem dispatch_of_batchOf? {b : Batch slotCount} (current : c.activation = e.retired.length)
    (hb : e.batchOf? c = some b) : ∃ d, e.dispatch = some d ∧ d.batch = b := by
  rw [batchOf?, if_pos current] at hb
  exact Option.map_eq_some_iff.1 hb

/-- A client holds a slot by the books if its slot is claimed in the current activation. -/
theorem holds_iff :
    e.books.Holds c ↔
      c.activation = e.retired.length ∧ ∃ d, e.dispatch = some d ∧ d.batch.inUse c.slot := by
  cases hd : e.dispatch with
  | none => simp [Books.Holds, Books.claimed, books, hd]
  | some d => simp [Books.Holds, Books.claimed, books, hd]

theorem holds_of_current (current : c.activation = e.retired.length) (hd : e.dispatch = some d) :
    e.books.Holds c ↔ d.batch.inUse c.slot := by
  rw [holds_iff]
  constructor
  · rintro ⟨-, d', hd', used⟩
    cases hd.symm.trans hd'
    exact used
  · exact fun used => ⟨current, d, hd, used⟩

/-- The books of an engine with another batch for a client's activation. -/
theorem books_putBatch {b b' : Batch slotCount} (hb : e.batchOf? c = some b) :
    (e.putBatch c b').books =
      if c.activation = e.retired.length then
        { e.books with batch := some b'.claimed, inFlight := b'.inFlight }
      else e.books := by
  rw [batchOf?] at hb
  by_cases current : c.activation = e.retired.length
  · rw [if_pos current] at hb ⊢
    obtain ⟨d, hd, -⟩ := Option.map_eq_some_iff.1 hb
    simp [putBatch, current, books, hd]
  · simp [putBatch, current, books]

/-- A slot of an earlier activation is unused, and not held by the books. -/
theorem Consistent.not_holds {b : Batch slotCount} (consistent : e.Consistent)
    (hb : e.batchOf? c = some b) (earlier : c.activation ≠ e.retired.length) :
    b.state c.slot = .unused ∧ ¬ e.books.Holds c := by
  rw [batchOf?, if_neg earlier] at hb
  refine ⟨consistent.retired b (List.mem_of_getElem? hb) c.slot, fun holds => ?_⟩
  exact earlier (holds_iff.1 holds).1

theorem not_holds_of_none (none : e.batchOf? c = none) : ¬ e.books.Holds c := by
  intro holds
  obtain ⟨current, d, hd, -⟩ := holds_iff.1 holds
  simp [batchOf?, current, hd] at none

/-- A post answers what the books foretell, and the books say as well what it leaves. -/
theorem Consistent.post_books (consistent : e.Consistent) (c : Client) (job : Job) :
    e.books.post c = ((e.post c job).1.books, (e.post c job).2) := by
  cases hb : e.batchOf? c with
  | none => rw [Books.post, if_neg (not_holds_of_none hb), Engine.post, hb]
  | some b =>
  have spec := b.post_spec c.slot job
  simp only [Engine.post, hb, books_putBatch hb]
  by_cases current : c.activation = e.retired.length
  · obtain ⟨d, hd, rfl⟩ := dispatch_of_batchOf? current hb
    have same : { e.books with batch := some d.batch.claimed, inFlight := d.batch.inFlight } =
        e.books := by
      simp [books, hd]
    have holds := (holds_of_current current hd).trans Batch.inUse_iff
    have inFlight : e.books.inFlight = d.batch.inFlight := by simp [books, hd]
    rw [if_pos current]
    by_cases used : d.batch.state c.slot = .unused
    · rw [used] at spec
      obtain ⟨answer, states⟩ := spec
      rw [Books.post, if_neg (fun held => holds.1 held used), answer, Batch.claimed_congr states,
        Batch.inFlight_congr states, same]
    · rw [Books.post, if_pos (holds.2 used), inFlight]
      by_cases posted : d.batch.state c.slot = .posted
      · rw [posted] at spec
        obtain ⟨answer, states⟩ := spec
        rw [if_pos (Batch.mem_inFlight.2 posted), answer, Batch.claimed_congr states,
          Batch.inFlight_congr states, same]
      · have waiting := ((consistent.staffed d hd).ordinary c.slot).waiting used posted
        rw [waiting] at spec
        obtain ⟨answer, states⟩ := spec
        have claimed : (d.batch.withState c.slot .posted).claimed = d.batch.claimed := by
          rw [Batch.claimed_withState (by simp), Finset.insert_eq_of_mem]
          exact Batch.mem_claimed.2 (Batch.inUse_iff.2 used)
        rw [if_neg (by simp [posted]), answer, Batch.claimed_congr states,
          Batch.inFlight_congr states, claimed, Batch.inFlight_withState_posted]
        simp [books, hd]
  · obtain ⟨unused, free⟩ := consistent.not_holds hb current
    rw [unused] at spec
    rw [if_neg current, Books.post, if_neg free, spec.1]

/-- What is collected of an answer is what the books foretell, and so is what it leaves. -/
theorem Consistent.finish_books (consistent : e.Consistent) (c : Client) (code : ResultCode) :
    e.books.finish c code = ((e.finish c code).books, (e.finish c code).collect c) := by
  cases hb : e.batchOf? c with
  | none =>
    rw [Books.finish, if_neg (not_holds_of_none hb)]
    simp [Engine.finish, hb, Engine.collect]
  | some b =>
  have collect : (e.finish c code).collect c = (b.finish c.slot code).collect c.slot := by
    simp only [Engine.collect, Engine.finish, hb, batchOf?_putBatch hb, Option.bind_some]
  have states := b.state_finish c.slot code
  rw [collect]
  simp only [Engine.finish, hb, books_putBatch hb]
  by_cases current : c.activation = e.retired.length
  · obtain ⟨d, hd, rfl⟩ := dispatch_of_batchOf? current hb
    rw [if_pos current, Batch.collect_finish_eq ((consistent.staffed d hd).ordinary c.slot)]
    have claimed : (d.batch.finish c.slot code).claimed = d.batch.claimed := by
      ext i
      rw [Batch.mem_claimed, Batch.mem_claimed, (d.batch.alike_finish c.slot code).inUse]
    have inFlight : (d.batch.finish c.slot code).inFlight = d.batch.inFlight.erase c.slot := by
      by_cases posted : d.batch.state c.slot = .posted
      · rw [if_pos posted] at states
        rw [Batch.inFlight_congr states, Batch.inFlight_withState (by simp)]
      · rw [if_neg posted] at states
        rw [Batch.inFlight_congr states, Finset.erase_eq_of_notMem (by simpa using posted)]
    rw [claimed, inFlight, Books.finish]
    by_cases used : d.batch.inUse c.slot
    · rw [if_pos used, if_pos ((holds_of_current current hd).2 used)]
      simp [books, hd]
    · have free : d.batch.state c.slot ≠ .posted := fun posted =>
        used (Batch.inUse_iff.2 (by simp [posted]))
      rw [if_neg used, if_neg (mt (holds_of_current current hd).1 used),
        Finset.erase_eq_of_notMem (by simpa using free)]
      simp [books, hd]
  · obtain ⟨unused, free⟩ := consistent.not_holds hb current
    rw [if_neg current, Books.finish, if_neg free,
      Batch.collect_finish_eq (by simp [unused, SlotState.Ordinary]), if_neg (by simp [Batch.inUse, unused])]

/-! ## Calls -/

theorem undisturbed_new (config : Config) (machine : Nat) : (new config machine).Undisturbed where
  consistent := consistent_new config machine
  busy d hd := by cases hd
  available := rfl

theorem Undisturbed.start (u : e.Undisturbed) (resting : e.Resting) (h : Handle) :
    (e.start h).1.Undisturbed := by
  -- Whoever is counted is active, and then busy.
  have counted {b : Engine} (counted : e.Counted b) :
      0 < b.active ∧ b.available = decide (0 < b.maxWorkers) := by
    refine ⟨(u.consistent.counted counted).2, ?_⟩
    cases counted with
    | first => rfl
    | further => exact u.available
  have left := u.consistent.start h
  have outcome := e.start_outcome h
  generalize e.start h = started at left outcome ⊢
  cases outcome with
  | refused none down =>
    obtain ⟨e', eq, -, -⟩ := u.consistent.teardown_of_resting resting
    cases down.symm.trans eq
  | direct up =>
    obtain ⟨active, available⟩ := counted up
    exact ⟨left, fun d hd => left.busy d hd active, available⟩
  | claimed up =>
    obtain ⟨active, available⟩ := counted up
    exact ⟨left, fun d hd => left.busy d hd active, available⟩
  | inUse => exact u

/-- A stop that has been settled leaves the threads busy. -/
theorem Tended.settle (tended : e.Tended) (available : e.available = decide (0 < e.maxWorkers)) :
    (∀ d, e.settle.1.dispatch = some d → e.settle.1.pool.Busy d) ∧
      e.settle.1.available = decide (0 < e.settle.1.maxWorkers) := by
  rw [Engine.settle]
  by_cases last : e.active = 0
  · rw [if_pos last, deactivate]
    by_cases live : 0 < e.pool.liveCount
    · rw [if_pos live]
      exact ⟨tended.busy, available⟩
    · rw [if_neg live]
      cases hd : e.dispatch with
      | none => simpa [retire, hd] using available
      | some d => simpa [retire, hd] using available
  · rw [if_neg last]
    exact ⟨tended.busy, available⟩

theorem Undisturbed.stop (u : e.Undisturbed) (resting : e.Resting) (h : Handle) :
    (e.stop h).1.Undisturbed := by
  have left := u.consistent.stop h
  have outcome := u.consistent.stop_outcome h
  generalize e.stop h = stopped at left outcome ⊢
  cases outcome with
  | unbalanced => exact u
  | free =>
    obtain ⟨busy, available⟩ := u.tended.countDown.settle u.available
    exact ⟨left, busy, available⟩
  | stalled active hd posted => exact absurd posted (resting _ hd _)
  | released active hd waiting staffed busy =>
    obtain ⟨busy, available⟩ := (u.tended.without hd staffed busy).settle u.available
    exact ⟨left, busy, available⟩

theorem Undisturbed.putBatch {b b' : Batch slotCount} (u : e.Undisturbed)
    (hb : e.batchOf? c = some b) (alike : b.Alike b') : (e.putBatch c b').Undisturbed := by
  have left := u.consistent.putBatch hb alike
  rw [batchOf?] at hb
  rw [Engine.putBatch] at left ⊢
  split at hb
  · next current =>
    rw [if_pos current] at left ⊢
    obtain ⟨d, hd, rfl⟩ := Option.map_eq_some_iff.1 hb
    refine ⟨left, fun d' hd' => ?_, u.available⟩
    rw [hd] at hd'
    cases hd'
    exact (u.busy d hd).congr alike.inUse
  · next earlier =>
    rw [if_neg earlier] at left ⊢
    exact ⟨left, u.busy, u.available⟩

theorem Undisturbed.perform (u : e.Undisturbed) {call : EngineCall} (allowed : e.Allows call) :
    (e.perform call).Undisturbed := by
  cases call with
  | start h => exact u.start allowed h
  | stop h => exact u.stop allowed h
  | setEnabled enabled => exact ⟨u.consistent.setEnabled enabled, u.busy, u.available⟩
  | post c job =>
    rw [Engine.perform, Engine.post]
    cases hb : e.batchOf? c with
    | none => exact u
    | some b => exact u.putBatch hb (b.alike_post c.slot job)
  | finish c code =>
    rw [Engine.perform, Engine.finish]
    cases hb : e.batchOf? c with
    | none => exact u
    | some b => exact u.putBatch hb (b.alike_finish c.slot code)

/-- A call answers what the books foretell, and the books say as well what it leaves. -/
theorem Undisturbed.perform_books (u : e.Undisturbed) {call : EngineCall}
    (allowed : e.Allows call) :
    (e.perform call).books = e.books.perform call ∧ e.answer call = e.books.answer call := by
  cases call with
  | start h =>
    have start := u.consistent.start_books allowed h
    simp [Engine.perform, Engine.answer, Books.perform, Books.answer, start]
  | stop h =>
    have stop := u.stop_books allowed h
    simp [Engine.perform, Engine.answer, Books.perform, Books.answer, stop]
  | setEnabled enabled => exact ⟨rfl, rfl⟩
  | post c job =>
    have post := u.consistent.post_books c job
    simp [Engine.perform, Engine.answer, Books.perform, Books.answer, post]
  | finish c code =>
    have finish := u.consistent.finish_books c code
    simp [Engine.perform, Engine.answer, Books.perform, Books.answer, finish]

theorem resting_iff : e.Resting ↔ e.books.inFlight = ∅ := by
  cases hd : e.dispatch with
  | none => simp [Resting, books, hd]
  | some d =>
    simp only [Resting, books, hd, Option.elim_some, Finset.eq_empty_iff_forall_notMem,
      Batch.mem_inFlight]
    exact ⟨fun free => free d rfl, fun free d' hd' => by cases hd'; exact free⟩

/-- Whether calls are allowed can be told from the books. -/
theorem Undisturbed.allowsAll (u : e.Undisturbed) (calls : List EngineCall)
    (allowed : e.books.allowsAll calls) : e.AllowsAll calls := by
  induction calls generalizing e with
  | nil => trivial
  | cons call calls ih =>
    rw [Books.allowsAll, Bool.and_eq_true] at allowed
    have now : e.Allows call := by
      cases call with
      | start h | stop h => exact resting_iff.2 (of_decide_eq_true allowed.1)
      | setEnabled | post | finish => trivial
    refine ⟨now, ih (u.perform now) ?_⟩
    rw [(u.perform_books now).1]
    exact allowed.2

/-- What is seen of a run is what the books foretell. -/
theorem Undisturbed.watch_books (u : e.Undisturbed) (calls : List EngineCall)
    (allowed : e.AllowsAll calls) :
    (e.performAll calls).Undisturbed ∧
      (e.performAll calls).books = calls.foldl Books.perform e.books ∧
      watch Engine.perform answer Engine.stats e calls =
        watch Books.perform Books.answer Books.stats e.books calls := by
  induction calls generalizing e with
  | nil => exact ⟨u, rfl, rfl⟩
  | cons call calls ih =>
    obtain ⟨now, later⟩ := allowed
    have after := u.perform now
    obtain ⟨books, answers⟩ := u.perform_books now
    obtain ⟨stays, run, seen⟩ := ih after later
    refine ⟨stays, run.trans (by rw [books]; rfl), ?_⟩
    rw [watch, watch, answers, after.stats, seen, books]

/-- A request that meets no other one comes back: with its handler's answer if its client holds a
slot, and rejected otherwise. It leaves the books as they were. -/
theorem Consistent.request_books (consistent : e.Consistent) (resting : e.Resting) (c : Client)
    (job : Job) {reply : Except Escape ResultCode} {code : ResultCode}
    (answers : reply = .ok code ∨ code = .failure ∧ ∃ message, reply = .error (.panic message)) :
    let r := EngineIn.request ⟨id, fun e _ => e⟩ (fun _ _ e => (e, reply)) c job e
    r.2 = .ok (if e.books.Holds c then .ok code else .error (.slotReleased c.slot)) ∧
      r.1.books = e.books := by
  by_cases holds : e.books.Holds c
  · obtain ⟨current, d, hd, used⟩ := holds_iff.1 holds
    have waiting := (consistent.staffed d hd).waiting used (resting d hd c.slot)
    have worker := Engine.server_of_waiting current consistent hd waiting (resting d hd)
    let served := e.withBatch d ((d.batch.posting c.slot job).finish c.slot code)
    have eq : EngineIn.request ⟨id, fun e _ => e⟩ (fun _ _ e => (e, reply)) c job e =
        (served, .ok (.ok code)) :=
      EngineIn.request_of_waiting (e := e) rfl hd current waiting worker rfl rfl answers
    have states : ((d.batch.posting c.slot job).finish c.slot code).state = d.batch.state :=
      funext (Batch.state_finish_posting waiting job code)
    rw [eq, if_pos holds]
    refine ⟨rfl, ?_⟩
    simp [served, withBatch, books, hd, Batch.claimed_congr states, Batch.inFlight_congr states]
  · have post := consistent.post_books c job
    rw [Books.post, if_neg holds] at post
    obtain ⟨books, rejected⟩ := Prod.ext_iff.1 post
    rw [EngineIn.request_of_rejected (Prod.ext rfl rejected.symm), if_neg holds]
    exact ⟨rfl, books.symm⟩

/-- **The engine keeps its books.** Take an engine with a given concurrency and any starts, stops,
switches and requests, balanced or not, such that no request is in flight during a start or a stop.
Every answer and every snapshot is the one that the books foretell from the processors, the
switch, the count of starts and the set of claimed slots. The books agree with the engine all the
time, and they foretell each request that meets no other one. -/
theorem keeps_books (config : Config) (n : UInt64) (machine : Nat) (calls : List EngineCall)
    (allowed : (new { config with concurrency := some n } machine).AllowsAll calls) :
    let e := new { config with concurrency := some n } machine
    let b := Books.new config.enabled n.toNat
    e.stats = b.stats ∧
      watch perform answer stats e calls = watch Books.perform Books.answer Books.stats b calls ∧
      (e.performAll calls).books = calls.foldl Books.perform b ∧
      ((e.performAll calls).Resting →
        ∀ c job code reply,
          reply = .ok code ∨ code = .failure ∧ (∃ message, reply = .error (.panic message)) →
            let r := EngineIn.request ⟨id, fun e _ => e⟩ (fun _ _ e => (e, reply)) c job
              (e.performAll calls)
            r.2 = .ok (if (calls.foldl Books.perform b).Holds c then .ok code
              else .error (.slotReleased c.slot)) ∧
            r.1.books = calls.foldl Books.perform b) := by
  intro e b
  have start : e.Undisturbed := undisturbed_new _ machine
  have books : e.books = b := rfl
  obtain ⟨stays, run, seen⟩ := start.watch_books calls allowed
  rw [books] at run seen
  refine ⟨?_, seen, run, fun resting c job code reply answers => ?_⟩
  · rw [start.stats, books]
  · have request := stays.consistent.request_books resting c job answers
    rwa [run] at request

/-- Calls that misuse the engine: a stop for a handle that was never started ends the activation of
another one, whose slot stays behind; the next start discards it and finds the engine switched
off. -/
def misuse (kept used stray : Handle) : List EngineCall :=
  [.start kept, .start used, .start used, .post ⟨0, used.slot⟩ ⟨used, 0, 0, 0⟩, .setEnabled false,
    .finish ⟨0, used.slot⟩ .success, .stop used, .post ⟨0, used.slot⟩ ⟨used, 0, 0, 0⟩, .stop stray,
    .start used, .post ⟨0, kept.slot⟩ ⟨kept, 0, 0, 0⟩, .stop kept, .stop kept]

/-- What the books foretell of calls that misuse the engine. -/
theorem keeps_books_misused :
    let one : Handle := ⟨1, by decide, by decide⟩
    let two : Handle := ⟨2, by decide, by decide⟩
    let nine : Handle := ⟨9, by decide, by decide⟩
    let e := new { concurrency := some 4 } 0
    let calls := misuse two one nine
    e.AllowsAll calls ∧
      (watch perform answer stats e calls).map Prod.fst =
        [.started (.ok (some ⟨0, two.slot⟩)), .started (.ok (some ⟨0, one.slot⟩)),
          .started (.error (.slotInUse 0)), .posted (.ok ()), .switched, .answered (some .success),
          .stopped (.ok ()), .posted (.error (.slotReleased 0)), .stopped (.error (.workersLive 1)),
          .started (.ok none), .posted (.error (.slotReleased 1)), .stopped (.ok ()),
          .stopped (.error .unbalancedStop)] := by
  have allowed : (new { concurrency := some 4 } 0).AllowsAll
      (misuse ⟨2, by decide, by decide⟩ ⟨1, by decide, by decide⟩ ⟨9, by decide, by decide⟩) := by
    apply (undisturbed_new _ _).allowsAll
    decide +kernel
  obtain ⟨-, seen, -, -⟩ := keeps_books {} 4 0 _ allowed
  refine ⟨allowed, ?_⟩
  rw [seen]
  decide +kernel

end Engine

end PluginBridge
