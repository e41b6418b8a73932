import PluginBridge.Proofs.Engine.Teardown

/-!
# The engine between two calls

`Engine.Consistent` ties the count of starts, the batch, the high-water mark and the threads of the
engine together. It survives every operation of the engine, and its failures as well: a stop that is
refused has counted down all the same, and a takedown that is refused has given back the slots below
the one that refused it. What saves it in both cases is that the refusing slot is still claimed.

`StopOutcome` and `StartOutcome` list all that a stop and a start can come to, with what led there.
-/

namespace PluginBridge

/-- What holds of an engine between two calls. -/
structure Engine.Consistent (e : Engine) : Prop where
  workers : ∀ d, e.dispatch = some d → d.workers = e.maxWorkers
  staffed : ∀ d, e.dispatch = some d → Staffed e.pool d
  busy : ∀ d, e.dispatch = some d → 0 < e.active → e.pool.Busy d
  leftover : ∀ d, e.dispatch = some d → e.active = 0 → ∃ i, d.batch.inUse i
  idle : e.dispatch = none → ∀ w, ¬ e.pool.isLive w
  retired : ∀ b ∈ e.retired, ∀ i, b.state i = .unused

namespace Engine

variable {e : Engine} {d : Dispatch slotCount} {h : Handle}

theorem consistent_new (config : Config) (machine : Nat) : (new config machine).Consistent where
  workers d hd := by cases hd
  staffed d hd := by cases hd
  busy d hd := by cases hd
  leftover d hd := by cases hd
  idle _ w := Pool.not_isLive_empty 0 [] w
  retired b hb := by cases hb

/-- An engine without a batch is consistent whatever it counts. -/
theorem consistent_of_none (none : e.dispatch = none) (idle : ∀ w, ¬ e.pool.isLive w)
    (retired : ∀ b ∈ e.retired, ∀ i, b.state i = .unused) : e.Consistent where
  workers d hd := by rw [none] at hd; cases hd
  staffed d hd := by rw [none] at hd; cases hd
  busy d hd := by rw [none] at hd; cases hd
  leftover d hd := by rw [none] at hd; cases hd
  idle _ := idle
  retired := retired

/-- An engine with a batch is consistent if the batch is staffed. -/
theorem consistent_of_some (some : e.dispatch = some d) (workers : d.workers = e.maxWorkers)
    (staffed : Staffed e.pool d) (busy : 0 < e.active → e.pool.Busy d)
    (leftover : e.active = 0 → ∃ i, d.batch.inUse i)
    (retired : ∀ b ∈ e.retired, ∀ i, b.state i = .unused) : e.Consistent where
  workers c hc := by rw [some] at hc; cases hc; exact workers
  staffed c hc := by rw [some] at hc; cases hc; exact staffed
  busy c hc := by rw [some] at hc; cases hc; exact busy
  leftover c hc := by rw [some] at hc; cases hc; exact leftover
  idle none := by rw [some] at none; cases none
  retired := retired

namespace Consistent

theorem setEnabled (c : e.Consistent) (b : Bool) : (e.setEnabled b).Consistent :=
  ⟨c.workers, c.staffed, c.busy, c.leftover, c.idle, c.retired⟩

/-- Putting a batch away keeps an engine consistent if no slot of it is claimed any more. -/
theorem retire (idle : ∀ w, ¬ e.pool.isLive w)
    (retired : ∀ b ∈ e.retired, ∀ i, b.state i = .unused)
    (free : ∀ d, e.dispatch = some d → ∀ i, d.batch.state i = .unused) : e.retire.Consistent := by
  cases hd : e.dispatch with
  | none =>
    rw [Engine.retire, hd]
    exact consistent_of_none hd idle retired
  | some d =>
    rw [Engine.retire, hd]
    refine consistent_of_none rfl idle fun b hb => ?_
    rcases List.mem_append.1 hb with old | new
    · exact retired b old
    · rw [List.mem_singleton.1 new]
      exact free d hd

end Consistent

/-! ## Stopping -/

/-- Settling a stop leaves a consistent engine if all was staffed and busy before. A batch that is
put away has no threads, and so no claimed slots; one that stays has a thread, and so a claimed
slot. -/
theorem settle_consistent (workers : ∀ d, e.dispatch = some d → d.workers = e.maxWorkers)
    (staffed : ∀ d, e.dispatch = some d → Staffed e.pool d ∧ e.pool.Busy d)
    (idle : e.dispatch = none → ∀ w, ¬ e.pool.isLive w)
    (retired : ∀ b ∈ e.retired, ∀ i, b.state i = .unused) : e.settle.1.Consistent := by
  rw [settle]
  by_cases last : e.active = 0
  · rw [if_pos last, deactivate]
    by_cases live : 0 < e.pool.liveCount
    · rw [if_pos live]
      refine ⟨workers, fun d hd => (staffed d hd).1, fun d hd _ => (staffed d hd).2,
        fun d hd _ => ?_, idle, retired⟩
      obtain ⟨w, live⟩ := Pool.exists_isLive live
      obtain ⟨i, -, used⟩ := Dispatch.ownedInUse_iff.1 ((staffed d hd).2 w live)
      exact ⟨i, used⟩
    · rw [if_neg live]
      have gone := Pool.liveCount_eq_zero.1 (Nat.eq_zero_of_not_pos live)
      refine Consistent.retire gone retired fun d hd i => ?_
      refine Decidable.byContradiction fun used => ?_
      exact gone _ ((staffed d hd).1.manned i (Batch.inUse_iff.2 used))
  · rw [if_neg last]
    exact ⟨workers, fun d hd => (staffed d hd).1, fun d hd _ => (staffed d hd).2,
      fun d hd none => absurd none last, idle, retired⟩

/-- A stop is counted before anything else. -/
def countDown (e : Engine) : Engine := { e with active := e.active - 1 }

theorem stop_of_inactive (none : e.active = 0) : e.stop h = (e, .error .unbalancedStop) := by
  rw [stop, if_pos none]

theorem stop_of_free (active : 0 < e.active)
    (free : ∀ d, e.dispatch = some d → d.batch.inUse h.slot = false) :
    e.stop h = e.countDown.settle := by
  rw [stop, if_neg (Nat.ne_of_gt active), countDown]
  cases hd : e.dispatch with
  | none => rfl
  | some d => simp [free d hd]

theorem stop_of_refused {e' : Engine} {v : Violation} (active : 0 < e.active)
    (hd : e.dispatch = some d) (used : d.batch.inUse h.slot)
    (refused : e.countDown.releaseSlot d h.slot = (e', .error v)) : e.stop h = (e', .error v) := by
  rw [countDown] at refused
  simp only [hd] at refused
  simp [stop, Nat.ne_of_gt active, hd, used, refused]

theorem stop_of_released {e' : Engine} (active : 0 < e.active) (hd : e.dispatch = some d)
    (used : d.batch.inUse h.slot) (released : e.countDown.releaseSlot d h.slot = (e', .ok ())) :
    e.stop h = e'.settle := by
  rw [countDown] at released
  simp only [hd] at released
  simp [stop, Nat.ne_of_gt active, hd, used, released]

/-- A stop has no start to undo, or meets a slot that is not claimed, or one that is. -/
theorem stop_cases (e : Engine) (h : Handle) : e.active = 0 ∨ 0 < e.active ∧
    ((∀ d, e.dispatch = some d → d.batch.inUse h.slot = false) ∨
      ∃ d, e.dispatch = some d ∧ d.batch.inUse h.slot) := by
  refine (Nat.eq_zero_or_pos e.active).imp_right fun active => ⟨active, ?_⟩
  cases hd : e.dispatch with
  | none => exact .inl fun d none => by cases none
  | some d =>
    cases used : d.batch.inUse h.slot with
    | false => exact .inl fun d' same => by cases same; exact used
    | true => exact .inr ⟨d, rfl, used⟩

/-- The course that a stop takes, in whatever state it finds the engine. -/
inductive StopCourse (e : Engine) (h : Handle) : Engine × Except Violation Unit → Prop where
  | unbalanced (none : e.active = 0) : StopCourse e h (e, .error .unbalancedStop)
  | free (active : 0 < e.active)
      (free : ∀ d, e.dispatch = some d → d.batch.inUse h.slot = false) :
      StopCourse e h e.countDown.settle
  | refused {d : Dispatch slotCount} {e' : Engine} {v : Violation} (hd : e.dispatch = some d)
      (refused : e.countDown.releaseSlot d h.slot = (e', .error v)) :
      StopCourse e h (e', .error v)
  | released {d : Dispatch slotCount} {e' : Engine} (hd : e.dispatch = some d)
      (released : e.countDown.releaseSlot d h.slot = (e', .ok ())) : StopCourse e h e'.settle

theorem stop_course (e : Engine) (h : Handle) : StopCourse e h (e.stop h) := by
  obtain none | ⟨active, free | ⟨d, hd, used⟩⟩ := e.stop_cases h
  · rw [stop_of_inactive none]
    exact .unbalanced none
  · rw [stop_of_free active free]
    exact .free active free
  · cases hr : e.countDown.releaseSlot d h.slot with
    | mk e' answer =>
    cases answer with
    | ok _ =>
      rw [stop_of_released active hd used hr]
      exact .released hd hr
    | error v =>
      rw [stop_of_refused active hd used hr]
      exact .refused hd hr

theorem stop_of_posted (active : 0 < e.active) (hd : e.dispatch = some d)
    (posted : d.batch.state h.slot = .posted) :
    e.stop h = (e.countDown, .error (.transitionStalled h.slot .waiting .posted)) := by
  have used : d.batch.inUse h.slot = true := Batch.inUse_iff.2 (by simp [posted])
  have refused : d.batch.release h.slot =
      .error (.transitionStalled h.slot .waiting .posted) := by
    rw [Batch.release_eq, if_neg (by simp [posted]), posted]
  exact stop_of_refused active hd used (by simp [releaseSlot, refused])

theorem stop_of_waiting (active : 0 < e.active) (hd : e.dispatch = some d)
    (staffed : Staffed e.pool d) (busy : e.pool.Busy d) (waiting : d.batch.state h.slot = .waiting) :
    ∃ q, e.stop h = settle { e.countDown with dispatch := some (d.without h.slot), pool := q } ∧
      Staffed q (d.without h.slot) ∧ q.Busy (d.without h.slot) := by
  have used : d.batch.inUse h.slot = true := Batch.inUse_iff.2 (by simp [waiting])
  obtain ⟨q, released, staffed⟩ := releaseSlot_of_waiting (e := e.countDown) staffed busy waiting
  exact ⟨q, stop_of_released active hd used released, staffed⟩

/-- What a stop can come to. -/
inductive StopOutcome (e : Engine) (h : Handle) : Engine × Except Violation Unit → Prop where
  | unbalanced (none : e.active = 0) : StopOutcome e h (e, .error .unbalancedStop)
  | free (active : 0 < e.active)
      (free : ∀ d, e.dispatch = some d → d.batch.inUse h.slot = false) :
      StopOutcome e h e.countDown.settle
  /-- The slot is refused, and stays claimed. -/
  | stalled {d : Dispatch slotCount} (active : 0 < e.active) (hd : e.dispatch = some d)
      (posted : d.batch.state h.slot = .posted) :
      StopOutcome e h (e.countDown, .error (.transitionStalled h.slot .waiting .posted))
  | released {d : Dispatch slotCount} {q : Pool} (active : 0 < e.active) (hd : e.dispatch = some d)
      (waiting : d.batch.state h.slot = .waiting) (staffed : Staffed q (d.without h.slot))
      (busy : q.Busy (d.without h.slot)) :
      StopOutcome e h (settle { e.countDown with dispatch := some (d.without h.slot), pool := q })

theorem Consistent.stop_outcome (c : e.Consistent) (h : Handle) : StopOutcome e h (e.stop h) := by
  obtain none | ⟨active, free | ⟨d, hd, used⟩⟩ := e.stop_cases h
  · rw [stop_of_inactive none]
    exact .unbalanced none
  · rw [stop_of_free active free]
    exact .free active free
  · have staffed := c.staffed d hd
    by_cases posted : d.batch.state h.slot = .posted
    · rw [stop_of_posted active hd posted]
      exact .stalled active hd posted
    · have waiting := staffed.waiting used posted
      obtain ⟨q, eq, staffed, busy⟩ :=
        stop_of_waiting active hd staffed (c.busy d hd active) waiting
      rw [eq]
      exact .released active hd waiting staffed busy

theorem Consistent.stop (c : e.Consistent) (h : Handle) : (e.stop h).1.Consistent := by
  have outcome := c.stop_outcome h
  generalize e.stop h = stopped at outcome ⊢
  cases outcome with
  | unbalanced => exact c
  | free active =>
    exact settle_consistent c.workers (fun d hd => ⟨c.staffed d hd, c.busy d hd active⟩) c.idle
      c.retired
  | stalled active hd posted =>
    exact consistent_of_some hd (c.workers _ hd) (c.staffed _ hd) (fun _ => c.busy _ hd active)
      (fun _ => ⟨h.slot, Batch.inUse_iff.2 (by simp [posted])⟩) c.retired
  | released active hd waiting staffed busy =>
    refine settle_consistent (fun d' hd' => ?_) (fun d' hd' => ?_)
      (fun none => by cases none) c.retired
    · cases hd'
      rw [Dispatch.workers_without]
      exact c.workers _ hd
    · cases hd'
      exact ⟨staffed, busy⟩

/-! ## Starting -/

/-- Taking down what an earlier activation left works, or leaves something claimed. -/
theorem Consistent.teardown (c : e.Consistent) (inactive : e.active = 0) :
    e.teardown.1.Consistent := by
  cases hd : e.dispatch with
  | none =>
    rw [teardown_of_none hd]
    exact c
  | some d =>
    have staffed := c.staffed d hd
    rcases releaseSlots_cases (List.finRange slotCount) d.batch with ⟨b, ⟨v, refused⟩ | done⟩
    · obtain ⟨i, posted, staffed⟩ := staffed.refused refused
      rw [teardown_of_refused hd refused]
      exact consistent_of_some rfl (c.workers d hd) staffed
        (fun active => absurd inactive (Nat.ne_of_gt active))
        (fun _ => ⟨i, Batch.inUse_iff.2 (by simp [posted])⟩) c.retired
    · obtain ⟨eq, unused⟩ := teardown_of_done hd done staffed.scanning
      rw [eq]
      dsimp only
      apply Consistent.retire
      · exact e.pool.not_isLive_dismissAll
      · exact c.retired
      · intro d' hd'
        cases hd'
        exact unused

/-! ## Starting -/

/-- The engine with an activation that has just begun. -/
def begin (e : Engine) : Engine := { e.activate with active := 1 }

/-- A start that is not the first is counted before anything else. -/
def countUp (e : Engine) : Engine := { e with active := e.active + 1 }

theorem start_of_active {refusal : Option String} (active : 0 < e.active) :
    e.start h refusal = e.countUp.claim h refusal := by
  rw [start, if_neg (Nat.ne_of_gt active), countUp]

theorem start_of_inactive {e' : Engine} {refusal : Option String} (none : e.active = 0)
    (down : e.teardown = (e', .ok ())) : e.start h refusal = e'.begin.claim h refusal := by
  rw [start, if_pos none, down, begin]

theorem start_of_refused {e' : Engine} {v : Violation} {refusal : Option String}
    (none : e.active = 0) (refused : e.teardown = (e', .error v)) :
    e.start h refusal = (e', .error v) := by
  rw [start, if_pos none, refused]

theorem claim_of_none {refusal : Option String} (none : e.dispatch = none) :
    e.claim h refusal = (e, .ok .none) := by
  simp [claim, none]

/-- The engine after it has claimed the slot of a handle. -/
def claimed (e : Engine) (d : Dispatch slotCount) (h : Handle) : Engine :=
  { e with
    dispatch := some (Dispatch.raise { d with batch := d.batch.withState h.slot .waiting } h.slot)
    pool := e.pool.acquire (d.owner h.slot) }

theorem claim_of_startable {refusal : Option String} (hd : e.dispatch = some d)
    (unused : d.batch.state h.slot = .unused)
    (startable : e.pool.refusal? (d.owner h.slot) refusal = none) :
    e.claim h refusal = (e.claimed d h, .ok (some ⟨e.retired.length, h.slot⟩)) := by
  have owner : (Dispatch.raise { d with batch := d.batch.withState h.slot .waiting } h.slot).owner
      h.slot = d.owner h.slot := rfl
  simp only [claim, hd, Batch.claim_eq, if_pos unused, owner, startable, claimed]

theorem claim_of_unused (hd : e.dispatch = some d) (unused : d.batch.state h.slot = .unused) :
    e.claim h = (e.claimed d h, .ok (some ⟨e.retired.length, h.slot⟩)) :=
  claim_of_startable hd unused rfl

/-- The slot of a worker that cannot be started is given back. -/
theorem claim_of_refused {refusal : Option String} {cause : String} (hd : e.dispatch = some d)
    (unused : d.batch.state h.slot = .unused)
    (refused : e.pool.refusal? (d.owner h.slot) refusal = some cause) :
    e.claim h refusal =
      ({ e with
          dispatch := some ((Dispatch.raise { d with batch := d.batch.withState h.slot .waiting }
            h.slot).without h.slot) },
        .ok none) := by
  let raised := Dispatch.raise { d with batch := d.batch.withState h.slot .waiting } h.slot
  have owner : raised.owner h.slot = d.owner h.slot := rfl
  have waiting : raised.batch.state h.slot = .waiting := Batch.state_withState_self ..
  have gone : e.pool.isLive (d.owner h.slot) = false := by
    have absent := (Option.filter_eq_some_iff.1 refused).2
    simpa using absent
  have back : { e with dispatch := some raised }.releaseSlot raised h.slot =
      ({ e with dispatch := some (raised.without h.slot) }, .ok ()) := by
    rw [releaseSlot_eq, if_pos waiting, owner]
    simp only [Pool.release_of_absent _ gone, ite_self]
  simp only [claim, hd, Batch.claim_eq, if_pos unused]
  have none : e.pool.refusal? (raised.owner h.slot) refusal = some cause := refused
  simp only [raised] at none
  simp only [none]
  rw [back]

/-- A claim that is refused takes the start back; it is the last one only if there were none
before. -/
theorem claim_of_inUse {refusal : Option String} (hd : e.dispatch = some d)
    (used : d.batch.state h.slot ≠ .unused) (more : 1 < e.active) :
    e.claim h refusal = (e.countDown, .error (.slotInUse h.slot)) := by
  have still : e.active - 1 ≠ 0 := by omega
  simp only [claim, hd, Batch.claim_eq, if_neg used, if_neg still, countDown]

/-- The slots of an activation that has just begun are unused. -/
theorem state_begin (hd : e.begin.dispatch = some d) (i : Fin slotCount) :
    d.batch.state i = .unused := by
  simp only [begin, activate] at hd
  split at hd <;> cases hd
  simp [Dispatch.start, Batch.state, Slot.fresh]

/-- The engine as a start finds it once it is counted: the first start takes down what is left of
the activation before and begins a new one. -/
inductive Counted (e : Engine) : Engine → Prop where
  | first {e' : Engine} (none : e.active = 0) (down : e.teardown = (e', .ok ())) :
      Counted e e'.begin
  | further (active : 0 < e.active) : Counted e e.countUp

/-- What a start can come to. -/
inductive StartOutcome (e : Engine) (h : Handle) :
    Engine × Except Violation (Option Client) → Prop where
  /-- What is left of the activation before cannot be taken down. -/
  | refused {e' : Engine} {v : Violation} (none : e.active = 0) (down : e.teardown = (e', .error v)) :
      StartOutcome e h (e', .error v)
  | direct {b : Engine} (counted : e.Counted b) (none : b.dispatch = none) :
      StartOutcome e h (b, .ok .none)
  | claimed {b : Engine} {d : Dispatch slotCount} (counted : e.Counted b) (hd : b.dispatch = some d)
      (unused : d.batch.state h.slot = .unused) :
      StartOutcome e h (b.claimed d h, .ok (some ⟨b.retired.length, h.slot⟩))
  /-- A start for a slot that is claimed already leaves the engine as it was. -/
  | inUse {d : Dispatch slotCount} (active : 0 < e.active) (hd : e.dispatch = some d)
      (used : d.batch.state h.slot ≠ .unused) : StartOutcome e h (e, .error (.slotInUse h.slot))

theorem start_outcome (e : Engine) (h : Handle) : StartOutcome e h (e.start h) := by
  rcases Nat.eq_zero_or_pos e.active with none | active
  · match hr : e.teardown with
    | (e', .error v) =>
      rw [start_of_refused none hr]
      exact .refused none hr
    | (e', .ok ()) =>
      rw [start_of_inactive none hr]
      cases hd : e'.begin.dispatch with
      | none =>
        rw [claim_of_none hd]
        exact .direct (.first none hr) hd
      | some d =>
        have unused := state_begin hd h.slot
        rw [claim_of_unused hd unused]
        exact .claimed (.first none hr) hd unused
  · rw [start_of_active active]
    cases hd : e.dispatch with
    | none =>
      rw [claim_of_none (e := e.countUp) hd]
      exact .direct (.further active) hd
    | some d =>
      by_cases unused : d.batch.state h.slot = .unused
      · rw [claim_of_unused (e := e.countUp) hd unused]
        exact .claimed (.further active) hd unused
      · rw [claim_of_inUse (e := e.countUp) hd unused (Nat.succ_lt_succ active)]
        exact .inUse active hd unused

theorem Consistent.begin (c : e.Consistent) : e.begin.Consistent := by
  by_cases dispatching : e.enabled ∧ 0 < PluginBridge.maxWorkers e.processors
  · refine consistent_of_some (by simp [Engine.begin, activate, dispatching]) rfl
      (Staffed.start dispatching.2) (fun _ w live => ?_)
      (fun inactive => by cases inactive) c.retired
    exact absurd live (Pool.not_isLive_empty _ _ w)
  · exact consistent_of_none (by simp [Engine.begin, activate, dispatching])
      (Pool.not_isLive_empty _ _) c.retired

theorem Consistent.claimed (c : e.Consistent) (hd : e.dispatch = some d) (active : 0 < e.active)
    (h : Handle) : (e.claimed d h).Consistent :=
  consistent_of_some rfl (c.workers d hd) ((c.staffed d hd).claim h.slot)
    (fun _ => (c.staffed d hd).busy_claim (c.busy d hd active) h.slot)
    (fun zero => absurd zero (Nat.ne_of_gt active)) c.retired

theorem Consistent.recount {a : Nat} (c : e.Consistent) (before : 0 < e.active) (after : 0 < a) :
    Consistent { e with active := a } :=
  ⟨c.workers, c.staffed, fun d hd _ => c.busy d hd before,
    fun _ _ none => absurd none (Nat.ne_of_gt after), c.idle, c.retired⟩

theorem Consistent.counted {b : Engine} (c : e.Consistent) (counted : e.Counted b) :
    b.Consistent ∧ 0 < b.active := by
  cases counted with
  | first none down =>
    have left := c.teardown none
    rw [down] at left
    exact ⟨left.begin, Nat.one_pos⟩
  | further active => exact ⟨c.recount active (Nat.succ_pos _), Nat.succ_pos _⟩

/-- A start comes to what it would come to if threads could be started, but for a slot whose worker
is not there: that slot is given back. -/
theorem start_or_refused (e : Engine) (h : Handle) (refusal : Option String) :
    e.start h refusal = e.start h ∨
      ∃ b d, e.Counted b ∧ b.dispatch = some d ∧ d.batch.state h.slot = .unused ∧ refusal ≠ none ∧
        e.start h refusal =
          ({ b with
              dispatch := some ((Dispatch.raise { d with batch := d.batch.withState h.slot .waiting }
                h.slot).without h.slot) },
            .ok none) := by
  have claim {b : Engine} (counted : e.Counted b) : b.claim h refusal = b.claim h ∨
      ∃ d, b.dispatch = some d ∧ d.batch.state h.slot = .unused ∧ refusal ≠ none ∧
        b.claim h refusal =
          ({ b with
              dispatch := some ((Dispatch.raise { d with batch := d.batch.withState h.slot .waiting }
                h.slot).without h.slot) },
            .ok none) := by
    cases hd : b.dispatch with
    | none =>
      rw [claim_of_none hd, claim_of_none hd]
      exact .inl rfl
    | some d =>
    by_cases unused : d.batch.state h.slot = .unused
    · cases refused : b.pool.refusal? (d.owner h.slot) refusal with
      | none =>
        rw [claim_of_startable hd unused refused, claim_of_unused hd unused]
        exact .inl rfl
      | some cause =>
        refine .inr ⟨d, rfl, unused, fun none => ?_, claim_of_refused hd unused refused⟩
        rw [none] at refused
        cases refused
    · cases counted with
      | first => exact absurd (state_begin hd h.slot) unused
      | further active =>
        have more : 1 < e.countUp.active := Nat.succ_lt_succ active
        rw [claim_of_inUse hd unused more, claim_of_inUse hd unused more]
        exact .inl rfl
  rcases Nat.eq_zero_or_pos e.active with inactive | active
  · cases down : e.teardown with
    | mk e' answer =>
    cases answer with
    | error v =>
      rw [start_of_refused inactive down, start_of_refused inactive down]
      exact .inl rfl
    | ok _ =>
      rw [start_of_inactive inactive down, start_of_inactive inactive down]
      have counted : e.Counted e'.begin := .first inactive down
      exact (claim counted).imp_right fun ⟨d, there⟩ => ⟨_, d, counted, there⟩
  · rw [start_of_active active, start_of_active active]
    have counted : e.Counted e.countUp := .further active
    exact (claim counted).imp_right fun ⟨d, there⟩ => ⟨_, d, counted, there⟩

/-- A worker that cannot be started leaves a consistent engine as if there were no batch. -/
theorem Consistent.start_refused (c : e.Consistent) (h : Handle) (refusal : Option String) :
    e.start h refusal = e.start h ∨
      refusal ≠ none ∧ ∃ b, e.Counted b ∧ b.dispatch.isSome ∧ e.start h refusal = (b, .ok none) := by
  refine (e.start_or_refused h refusal).imp_right fun ⟨b, d, counted, hd, unused, given, eq⟩ => ?_
  have marked := ((c.counted counted).1.staffed d hd).marked
  rw [marked.without_raise unused, ← hd] at eq
  exact ⟨given, b, counted, by simp [hd], eq⟩

theorem Consistent.start (c : e.Consistent) (h : Handle) (refusal : Option String := none) :
    (e.start h refusal).1.Consistent := by
  rcases c.start_refused h refusal with given | ⟨-, b, counted, -, eq⟩
  case inr =>
    rw [eq]
    exact (c.counted counted).1
  rw [given]
  have outcome := e.start_outcome h
  generalize e.start h = started at outcome ⊢
  cases outcome with
  | refused none down =>
    have left := c.teardown none
    rw [down] at left
    exact left
  | direct counted => exact (c.counted counted).1
  | claimed counted hd => exact (c.counted counted).1.claimed hd (c.counted counted).2 h
  | inUse => exact c

end Engine

end PluginBridge
