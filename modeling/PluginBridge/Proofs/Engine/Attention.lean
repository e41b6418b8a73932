import PluginBridge.Proofs.Engine.Manning
import PluginBridge.Proofs.Engine.Waits

/-!
# What becomes of a posted slot

Beside posts and answers, nothing that is done to the engine, and nothing that its threads do, posts
a slot or takes a posted one back, gives a posted slot another worker, or ends an exit that a worker
was too late for (`Engine.Evolves`). So a posted slot is served with the next pass of its worker
(`Attends`), unless that worker is on its way through an exit (`Leaving`); and it stays on that way
for ever. There is no third case (`Manned.attends`).
-/

namespace PluginBridge

variable {n : Nat} {W : Type}

namespace Dispatch

variable {d d' d'' : Dispatch n} {i : Fin n}

/-- The same slots are posted, with the same workers, and no exit has been undone. -/
structure Evolves (d d' : Dispatch n) : Prop where
  workers : d'.workers = d.workers
  posted : ∀ i, d'.batch.state i = .posted ↔ d.batch.state i = .posted
  exiting : ∀ i, (d.batch.state i).Exiting → (d'.batch.state i).Exiting

theorem Evolves.of_batch (workers : d'.workers = d.workers) (batch : d'.batch = d.batch) :
    d.Evolves d' :=
  ⟨workers, fun i => by rw [batch], fun i => by rw [batch]; exact id⟩

theorem Evolves.trans (first : d.Evolves d') (then_ : d'.Evolves d'') : d.Evolves d'' :=
  ⟨then_.workers.trans first.workers, fun i => (then_.posted i).trans (first.posted i),
    fun i exiting => then_.exiting i (first.exiting i exiting)⟩

/-- A slot may change its state unless it is posted. -/
theorem evolves_withState {x : SlotState} (was : d.batch.state i ≠ .posted) (is : x ≠ .posted)
    (on : (d.batch.state i).Exiting → x.Exiting) :
    d.Evolves { d with batch := d.batch.withState i x } := by
  refine ⟨rfl, fun j => ?_, fun j => ?_⟩
  · by_cases hj : j = i
    · subst hj
      rw [Batch.state_withState_self]
      exact iff_of_false is was
    · rw [Batch.state_withState_of_ne _ _ hj]
  · by_cases hj : j = i
    · subst hj
      rw [Batch.state_withState_self]
      exact on
    · rw [Batch.state_withState_of_ne _ _ hj]
      exact id

theorem evolves_releaseSlots (l : List (Fin slotCount)) (d : Dispatch slotCount) (mark : Nat) :
    d.Evolves { d with batch := (Engine.releaseSlots l d.batch).1, highWater := mark } := by
  have released := Engine.state_releaseSlots l d.batch
  refine ⟨rfl, fun i => ?_, fun i exiting => ?_⟩
  · rcases released i with same | ⟨was, is⟩
    · rw [same]
    · simp [was, is]
  · rcases released i with same | ⟨was, -⟩
    · rwa [same]
    · rw [was] at exiting
      simp [SlotState.Exiting] at exiting

/-- A slot that is given back was waiting. -/
theorem evolves_without (waiting : d.batch.state i = .waiting) : d.Evolves (d.without i) := by
  have given := evolves_withState (d := d) (i := i) (x := .unused) (by simp [waiting]) (by simp)
    (by simp [waiting, SlotState.Exiting])
  exact given.trans (.of_batch (by simp) (by simp))

theorem evolves_release (p : Pool) (d : Dispatch n) (w : Nat) : d.Evolves (p.release d w).2.1 := by
  rcases p.release_cases d w with ⟨_, eq⟩ | ⟨-, free, hw, ⟨-, eq⟩ | eq⟩
  · rw [eq]
    exact .of_batch rfl rfl
  · rw [eq]
    exact .of_batch rfl rfl
  · rw [eq]
    have unused := state_first_of_free free hw
    exact evolves_withState (by simp [unused]) (by simp) (by simp [unused, SlotState.Exiting])

theorem evolves_releaseEach (ws : List Nat) (p : Pool) (d : Dispatch n) :
    d.Evolves (Pool.releaseEach ws p d).2.1 := by
  induction ws generalizing p d with
  | nil => exact .of_batch rfl rfl
  | cons w ws ih =>
    have first := evolves_release p d w
    rw [Pool.releaseEach]
    cases hr : p.release d w with
    | mk q rest =>
    obtain ⟨c, answer⟩ := rest
    rw [hr] at first
    cases answer with
    | ok _ => exact first.trans (ih q c)
    | error v => exact first

end Dispatch

namespace Engine

variable {e e' e'' : Engine} {d d' : Dispatch slotCount} {c k : Client} {h : Handle} {job : Job}

/-- A client finds its slot on its way through an exit. -/
def AtExit (e : Engine) (c : Client) : Prop := ∃ x, e.state? c = some x ∧ x.Exiting

/-- The same slots are posted, with the same workers, and no exit has been undone. -/
structure Evolves (e e' : Engine) : Prop where
  posted : ∀ c, e'.state? c = some .posted ↔ e.state? c = some .posted
  workers : ∀ c, e.state? c = some .posted → e'.maxWorkers = e.maxWorkers
  exiting : ∀ c, e.AtExit c → e'.AtExit c

theorem Evolves.trans (first : e.Evolves e') (then_ : e'.Evolves e'') : e.Evolves e'' :=
  ⟨fun c => (then_.posted c).trans (first.posted c),
    fun c posted => (then_.workers c ((first.posted c).2 posted)).trans (first.workers c posted),
    fun c exiting => then_.exiting c (first.exiting c exiting)⟩

/-- An engine whose slots are all found as they were. -/
theorem Evolves.of_state (state : ∀ c, e'.state? c = e.state? c)
    (workers : e'.maxWorkers = e.maxWorkers) : e.Evolves e' :=
  ⟨fun c => by rw [state], fun _ _ => workers, fun c => by rw [AtExit, AtExit, state]; exact id⟩

/-- An engine of which the current batch has changed. -/
theorem Evolves.of_dispatch (hd : e.dispatch = some d) (hd' : e'.dispatch = some d')
    (retired : e'.retired = e.retired) (workers : e'.maxWorkers = e.maxWorkers)
    (evolves : d.Evolves d') : e.Evolves e' := by
  have found (c : Client) : (c.activation = e.retired.length ∧
        e.state? c = some (d.batch.state c.slot) ∧ e'.state? c = some (d'.batch.state c.slot)) ∨
      e'.state? c = e.state? c := by
    by_cases current : c.activation = e.retired.length
    · refine .inl ⟨current, ?_, ?_⟩
      · rw [state?_of_current current, hd]
        rfl
      · rw [state?_of_current (by rwa [retired]), hd']
        rfl
    · rw [state?_of_earlier current, state?_of_earlier (by rwa [retired]), retired]
      exact .inr rfl
  refine ⟨fun c => ?_, fun _ _ => workers, fun c => ?_⟩
  · rcases found c with ⟨-, before, after⟩ | same
    · rw [before, after, Option.some.injEq, Option.some.injEq]
      exact evolves.posted c.slot
    · rw [same]
  · rcases found c with ⟨-, before, after⟩ | same
    · rintro ⟨x, is, exiting⟩
      cases before.symm.trans is
      exact ⟨_, after, evolves.exiting c.slot exiting⟩
    · rw [AtExit, AtExit, same]
      exact id

/-! ## Calls -/

theorem evolves_retire (e : Engine) : e.Evolves e.retire := by
  refine .of_state (state?_retire e) ?_
  rw [retire]
  split
  · rfl
  · rfl

theorem evolves_settle (e : Engine) : e.Evolves e.settle.1 := by
  rw [settle]
  split
  · rw [deactivate]
    split
    · exact .of_state (fun _ => rfl) rfl
    · exact evolves_retire e
  · exact .of_state (fun _ => rfl) rfl

theorem evolves_releaseSlot (hd : e.dispatch = some d) (i : Fin slotCount) :
    e.Evolves (e.releaseSlot d i).1 := by
  rw [releaseSlot_eq]
  by_cases waiting : d.batch.state i = .waiting
  · have given := Dispatch.evolves_without waiting
    rw [if_pos waiting]
    split
    · exact .of_dispatch hd rfl rfl rfl given
    · exact .of_dispatch hd rfl rfl rfl (given.trans (Dispatch.evolves_release ..))
  · rw [if_neg waiting]
    exact .of_state (fun _ => rfl) rfl

theorem evolves_stop (e : Engine) (h : Handle) : e.Evolves (e.stop h).1 := by
  have counted : e.Evolves e.countDown := .of_state (fun _ => rfl) rfl
  have course := e.stop_course h
  generalize e.stop h = stopped at course ⊢
  cases course with
  | unbalanced => exact .of_state (fun _ => rfl) rfl
  | free => exact counted.trans (evolves_settle _)
  | refused hd refused =>
    have left := evolves_releaseSlot (e := e.countDown) hd h.slot
    rw [refused] at left
    exact counted.trans left
  | released hd released =>
    have left := evolves_releaseSlot (e := e.countDown) hd h.slot
    rw [released] at left
    exact counted.trans (left.trans (evolves_settle _))

theorem evolves_teardown (e : Engine) : e.Evolves e.teardown.1 := by
  rw [teardown]
  cases hd : e.dispatch with
  | none => exact .of_state (fun _ => rfl) rfl
  | some d =>
  dsimp only
  have freed := Dispatch.evolves_releaseSlots (List.finRange slotCount) d
  cases hr : releaseSlots (List.finRange slotCount) d.batch with
  | mk b answer =>
  rw [hr] at freed
  cases answer with
  | error v => exact .of_dispatch hd rfl rfl rfl (freed d.highWater)
  | ok _ =>
    dsimp only
    let free : Dispatch slotCount := { d with batch := b, highWater := 0 }
    have left := Dispatch.evolves_releaseEach (List.range e.pool.threads.length) e.pool free
    rw [Pool.releaseAll]
    cases hs : Pool.releaseEach (List.range e.pool.threads.length) e.pool free with
    | mk q rest =>
    obtain ⟨c, answer⟩ := rest
    rw [hs] at left
    have torn : e.Evolves { e with dispatch := some c, pool := q } :=
      .of_dispatch hd rfl rfl rfl ((freed 0).trans left)
    cases answer with
    | ok _ => exact torn.trans (evolves_retire _)
    | error v => exact torn

/-- Without a batch nothing is posted. -/
theorem Manned.unposted (manned : e.Manned) (none : e.dispatch = none) (c : Client) :
    e.state? c ≠ some .posted ∧ ¬ e.AtExit c := by
  have unused {x : SlotState} (found : e.state? c = some x) : x = .unused := by
    by_cases current : c.activation = e.retired.length
    · rw [state?_of_current current, none] at found
      cases found
    · rw [state?_of_earlier current] at found
      obtain ⟨b, hb, rfl⟩ := Option.map_eq_some_iff.1 found
      exact manned.retired b (List.mem_of_getElem? hb) c.slot
  refine ⟨fun posted => ?_, fun ⟨x, found, exiting⟩ => ?_⟩
  · cases unused posted
  · rw [unused found] at exiting
    simp [SlotState.Exiting] at exiting

theorem Manned.evolves_begin (manned : e.Manned) (none : e.dispatch = none) :
    e.Evolves e.begin := by
  refine ⟨fun c => ?_, fun c posted => absurd posted (manned.unposted none c).1,
    fun c exiting => absurd exiting (manned.unposted none c).2⟩
  rcases state?_begin none c with same | ⟨before, after⟩
  · rw [same]
  · simp [before, after]

theorem Manned.evolves_counted (manned : e.Manned) (counted : e.Counted e') : e.Evolves e' := by
  cases counted with
  | first none down =>
    have left := manned.teardown
    have torn := e.evolves_teardown
    rw [down] at left torn
    exact torn.trans (left.evolves_begin (dispatch_teardown down))
  | further => exact .of_state (fun _ => rfl) rfl

/-- A slot that is claimed was unused. -/
theorem evolves_claim (unused : d.batch.state h.slot = .unused) :
    d.Evolves (Dispatch.raise { d with batch := d.batch.withState h.slot .waiting } h.slot) := by
  have claimed := Dispatch.evolves_withState (d := d) (i := h.slot) (x := .waiting)
    (by simp [unused]) (by simp) (by simp [unused, SlotState.Exiting])
  exact claimed.trans (.of_batch rfl rfl)

theorem Manned.evolves_start (manned : e.Manned) (h : Handle) (refusal : Option String) :
    e.Evolves (e.start h refusal).1 := by
  rcases e.start_or_refused h refusal with same | ⟨b, d, counted, hd, unused, -, eq⟩
  case inr =>
    have raised := evolves_claim (h := h) unused
    have given := raised.trans (Dispatch.evolves_without (Batch.state_withState_self ..))
    rw [eq]
    exact (manned.evolves_counted counted).trans (.of_dispatch hd rfl rfl rfl given)
  rw [same]
  have outcome := e.start_outcome h
  generalize e.start h = started at outcome ⊢
  cases outcome with
  | refused none down =>
    have torn := e.evolves_teardown
    rwa [down] at torn
  | direct counted => exact manned.evolves_counted counted
  | claimed counted hd unused =>
    exact (manned.evolves_counted counted).trans (.of_dispatch hd rfl rfl rfl (evolves_claim unused))
  | inUse => exact .of_state (fun _ => rfl) rfl

/-! ## Threads -/

/-- A thread serves nothing with a move: it changes its pace, or passes because it is to exit. -/
def ServesNothing (e : Engine) : ThreadMove → Prop
  | .pass w _ _ => ∃ d, e.dispatch = some d ∧ d.exits w
  | _ => True

theorem evolves_thread {move : ThreadMove} (nothing : e.ServesNothing move) :
    e.Evolves (e.move (.thread move)) := by
  cases hd : e.dispatch with
  | none =>
    rw [Engine.move, crew?, hd]
    exact .of_state (fun _ => rfl) rfl
  | some d =>
    rw [Engine.move, crew?_of_dispatch hd]
    refine .of_dispatch hd rfl rfl rfl ?_
    cases move with
    | slow w => exact .of_batch rfl rfl
    | prompt w => exact .of_batch rfl rfl
    | pass w handler world =>
      obtain ⟨d', hd', exits⟩ := nothing
      cases hd.symm.trans hd'
      obtain ⟨i, rfl, asked⟩ := Dispatch.exits_iff.1 exits
      rw [Crew.move, Crew.pass]
      split
      · rw [Dispatch.scan_of_asked handler world asked]
        exact Dispatch.evolves_withState (by simp [asked]) (by simp) fun _ => .inr rfl
      · exact .of_batch rfl rfl

/-! ## Posts and answers -/

/-- Posts and answers change no exit. -/
theorem atExit_of_change {call : EngineCall} (change : SlotChange e call c (e.state? c) (e'.state? c))
    (start : ∀ h, call ≠ .start h) (stop : ∀ h, call ≠ .stop h) : e'.AtExit c ↔ e.AtExit c := by
  rw [AtExit, AtExit]
  generalize e.state? c = old at change ⊢
  generalize e'.state? c = new at change ⊢
  cases change with
  | same => rfl
  | opened given | claimed given => exact absurd given (start _)
  | released given =>
    rcases given with given | given
    · exact absurd given (start _)
    · exact absurd given (stop _)
  | posted | finished => simp [SlotState.Exiting]

theorem atExit_post (e : Engine) (k : Client) (job : Job) (c : Client) :
    (e.post k job).1.AtExit c ↔ e.AtExit c :=
  atExit_of_change (e.post_change k c job) (by simp) (by simp)

theorem atExit_finish (e : Engine) (k : Client) (code : ResultCode) (c : Client) :
    (e.finish k code).AtExit c ↔ e.AtExit c :=
  atExit_of_change (e.finish_change k c code) (by simp) (by simp)

@[simp] theorem maxWorkers_putBatch (e : Engine) (c : Client) (b : Batch slotCount) :
    (e.putBatch c b).maxWorkers = e.maxWorkers := by
  rw [putBatch]
  split
  · rfl
  · rfl

@[simp] theorem maxWorkers_post (e : Engine) (c : Client) (job : Job) :
    (e.post c job).1.maxWorkers = e.maxWorkers := by
  rw [post]
  split
  · simp
  · rfl

@[simp] theorem maxWorkers_finish (e : Engine) (c : Client) (code : ResultCode) :
    (e.finish c code).maxWorkers = e.maxWorkers := by
  rw [finish]
  split
  · simp
  · rfl

/-! ## Workers -/

/-- The worker of a client's slot is on its way through an exit. -/
def Leaving (e : Engine) (c : Client) : Prop :=
  ∃ w : Fin slotCount, w.val = c.slot.val % e.maxWorkers ∧ e.AtExit ⟨c.activation, w⟩

/-- The next pass of the worker of a client's slot serves the slot. -/
def Attends (e : Engine) (c : Client) : Prop :=
  c.activation = e.retired.length ∧ ∃ d, e.dispatch = some d ∧
    (e.pool.thread (d.owner c.slot)).Runs ∧ d.exits (d.owner c.slot) = false ∧
      c.slot ∈ d.postedTo (d.owner c.slot)

/-- The worker of a posted slot serves it with its next pass, unless it is on its way through an
exit. -/
theorem Manned.attends (manned : e.Manned) (posted : e.state? c = some .posted) :
    e.Attends c ↔ ¬ e.Leaving c := by
  obtain ⟨current, d, hd, state⟩ := current_of_retired manned.retired posted (by simp)
  have crew := manned.crew d hd
  have workers := manned.workers d hd
  have first (w : Fin slotCount) : w.val = c.slot.val % e.maxWorkers ↔ w.val = d.owner c.slot := by
    rw [Dispatch.owner, workers]
  have exit (w : Fin slotCount) : e.AtExit ⟨c.activation, w⟩ ↔ (d.batch.state w).Exiting := by
    rw [AtExit, state?_of_current (by exact current), hd]
    simp
  simp only [Leaving, first, exit]
  have used : d.batch.inUse c.slot := Batch.inUse_iff.2 (by simp [state])
  have live : e.pool.isLive (d.owner c.slot) := crew.manned c.slot used
  have size : d.owner c.slot < slotCount := d.owner_lt_size c.slot
  constructor
  · rintro ⟨-, d', hd', runs, stays, -⟩ ⟨w, mine, exiting⟩
    cases hd.symm.trans hd'
    rcases exiting with asked | seen
    · exact Bool.eq_false_iff.1 stays (Dispatch.exits_iff.2 ⟨w, mine, asked⟩)
    · have ended : e.pool.thread w = .ended := (crew.parted w).1 seen
      exact runs.ne_ended (mine ▸ ended)
  · intro stays
    refine ⟨current, d, hd, ?_, ?_, ?_⟩
    · have thread := Pool.isLive_iff.1 live
      have going : e.pool.thread (d.owner c.slot) ≠ .ended := fun ended =>
        stays ⟨⟨_, size⟩, rfl, .inr ((crew.parted ⟨_, size⟩).2 ended)⟩
      cases pace : e.pool.thread (d.owner c.slot) with
      | absent => exact absurd pace thread
      | ended => exact absurd pace going
      | scanning => exact .inl rfl
      | slow => exact .inr rfl
    · refine Bool.eq_false_iff.2 fun exits => ?_
      obtain ⟨w, mine, asked⟩ := Dispatch.exits_iff.1 exits
      exact stays ⟨w, mine, .inl asked⟩
    · refine Dispatch.mem_postedTo.2 ⟨Dispatch.mem_scanned.2 ⟨d.mem_owned_owner c.slot, ?_⟩, state⟩
      exact crew.above c.slot used

end Engine

end PluginBridge
