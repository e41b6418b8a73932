import PluginBridge.Proofs.Engine.Calls

/-!
# An engine that serves

`Engine.Serves` says which slots are claimed: those of some handles, and each of them is waiting. A
start for another handle then works and adds it, unless its worker cannot be started
(`Consistent.started`); a stop works and takes its handle away (`Consistent.stopped`). A request
through a client of one of the handles comes back with the answer of its handler
(`EngineIn.request_of_waiting`).
-/

namespace PluginBridge

namespace Engine

variable {e : Engine} {d : Dispatch slotCount} {h : Handle} {R R' : Handle → Prop}

/-- The client of a handle, if the current activation has a batch. -/
def clientFor (e : Engine) (h : Handle) : Option Client :=
  e.dispatch.map fun _ => ⟨e.retired.length, h.slot⟩

/-- The slots of some handles are waiting, and no others are claimed. -/
def Serves (e : Engine) (R : Handle → Prop) : Prop :=
  ∀ d, e.dispatch = some d →
    (∀ h, R h → d.batch.state h.slot = .waiting) ∧ ∀ i, d.batch.inUse i → ∃ h, R h ∧ h.slot = i

theorem serves_of_none (none : e.dispatch = none) : e.Serves R := by
  intro d hd
  rw [none] at hd
  cases hd

/-- An engine that nobody has started has no batch if it serves no handle. -/
theorem Consistent.dispatch_eq_none (c : e.Consistent) (serves : e.Serves R)
    (inactive : e.active = 0) (none : ∀ h, ¬ R h) : e.dispatch = .none := by
  cases hd : e.dispatch with
  | none => rfl
  | some d =>
    obtain ⟨i, used⟩ := c.leftover d hd inactive
    obtain ⟨h, reg, -⟩ := (serves d hd).2 i used
    exact absurd reg (none h)

theorem Serves.congr (serves : e.Serves R) (same : ∀ h, R h ↔ R' h) : e.Serves R' := by
  intro d hd
  refine ⟨fun h reg => (serves d hd).1 h ((same h).2 reg), fun i used => ?_⟩
  obtain ⟨h, reg, slot⟩ := (serves d hd).2 i used
  exact ⟨h, (same h).1 reg, slot⟩

/-- An engine that serves some handles has no job posted. -/
theorem Serves.not_posted (serves : e.Serves R) (hd : e.dispatch = some d)
    (i : Fin slotCount) : d.batch.state i ≠ .posted := by
  intro posted
  obtain ⟨h, reg, rfl⟩ := (serves d hd).2 i (Batch.inUse_iff.2 (by simp [posted]))
  have waiting := (serves d hd).1 h reg
  simp [waiting] at posted

theorem Serves.unused (serves : e.Serves R) (hd : e.dispatch = some d) (new : ¬ R h) :
    d.batch.state h.slot = .unused := by
  refine Decidable.byContradiction fun used => ?_
  obtain ⟨k, reg, same⟩ := (serves d hd).2 h.slot (Batch.inUse_iff.2 used)
  exact new (Handle.slot_injective same ▸ reg)

/-- Claiming the slot of a handle serves that handle as well. -/
theorem Serves.claimed (serves : e.Serves R) (hd : e.dispatch = some d) (h : Handle) :
    (e.claimed d h).Serves fun k => k = h ∨ R k := by
  intro d' hd'
  cases hd'
  change (∀ k : Handle, _ → (d.batch.withState h.slot .waiting).state k.slot = _) ∧
    ∀ i, (d.batch.withState h.slot .waiting).inUse i → _
  refine ⟨fun k reg => ?_, fun i used => ?_⟩
  · by_cases same : k = h
    · simp [same]
    · rw [Batch.state_withState_of_ne _ _ fun e => same (Handle.slot_injective e)]
      exact (serves d hd).1 k (reg.resolve_left same)
  · by_cases here : i = h.slot
    · exact ⟨h, .inl rfl, here.symm⟩
    · rw [Batch.inUse_withState_of_ne _ _ here] at used
      obtain ⟨k, reg, slot⟩ := (serves d hd).2 i used
      exact ⟨k, .inr reg, slot⟩

/-- What a start for a handle that is not served yet comes to: it is served from then on, or its
worker cannot be started. -/
structure Started (e e' : Engine) (R : Handle → Prop) (h : Handle) (refusal : Option String)
    (client : Option Client) : Prop where
  active : e'.active = e.active + 1
  serves : client = e'.clientFor h ∧ e'.Serves (fun k => k = h ∨ R k) ∨
    refusal ≠ none ∧ client = none ∧ e'.Serves R
  clients : 0 < e.active → e'.clientFor = e.clientFor

/-- Whoever begins an activation finds no batch and makes one with unused slots. -/
theorem Consistent.counted_serves {b : Engine} (c : e.Consistent) (serves : e.Serves R)
    (first : e.active = 0 → ∀ h, ¬ R h) (counted : e.Counted b) :
    b.Serves R ∧ b.active = e.active + 1 ∧ (0 < e.active → b.clientFor = e.clientFor) := by
  cases counted with
  | @first e' inactive down =>
    have none := c.dispatch_eq_none serves inactive (first inactive)
    rw [teardown_of_none none] at down
    cases down
    refine ⟨fun d hd => ?_, by rw [inactive]; rfl, fun active => absurd inactive (Nat.ne_of_gt active)⟩
    exact ⟨fun k reg => absurd reg (first inactive k),
      fun i used => absurd (state_begin hd i) (Batch.inUse_iff.1 used)⟩
  | further active => exact ⟨serves, rfl, fun _ => rfl⟩

/-- A start for a handle that is not served yet works. -/
theorem Consistent.started (c : e.Consistent) (serves : e.Serves R)
    (first : e.active = 0 → ∀ h, ¬ R h) (new : ¬ R h) (refusal : Option String) :
    ∃ e' client, e.start h refusal = (e', .ok client) ∧ e.Started e' R h refusal client := by
  rcases c.start_refused h refusal with given | ⟨given, b, counted, -, eq⟩
  · rw [given]
    have outcome := e.start_outcome h
    generalize e.start h = started at outcome ⊢
    cases outcome with
    | refused inactive down =>
      rw [teardown_of_none (c.dispatch_eq_none serves inactive (first inactive))] at down
      cases down
    | @direct b counted none =>
      obtain ⟨-, active, same⟩ := c.counted_serves serves first counted
      exact ⟨b, _, rfl, active, .inl ⟨by rw [clientFor, none]; rfl, serves_of_none none⟩, same⟩
    | claimed counted hd =>
      obtain ⟨serving, active, same⟩ := c.counted_serves serves first counted
      refine ⟨_, _, rfl, active, .inl ⟨rfl, serving.claimed hd h⟩, fun before => ?_⟩
      rw [← same before]
      funext k
      rw [clientFor, clientFor, hd]
      rfl
    | inUse active hd used => exact absurd (serves.unused hd new) used
  · obtain ⟨serving, active, same⟩ := c.counted_serves serves first counted
    exact ⟨b, none, eq, active, .inr ⟨given, rfl, serving⟩, same⟩

/-- A slot that is given back serves its handle no longer. -/
theorem Serves.without {q : Pool} (serves : e.Serves R) (hd : e.dispatch = some d) (h : Handle) :
    Serves { e.countDown with dispatch := some (d.without h.slot), pool := q }
      fun k => k ≠ h ∧ R k := by
  intro d' hd'
  cases hd'
  refine ⟨fun k ⟨ne, reg⟩ => ?_, fun i used => ?_⟩
  · rw [Dispatch.batch_without,
      Batch.state_withState_of_ne _ _ fun e => ne (Handle.slot_injective e)]
    exact (serves d hd).1 k reg
  · obtain ⟨used, ne⟩ := Dispatch.inUse_without.1 used
    obtain ⟨k, reg, slot⟩ := (serves d hd).2 i used
    exact ⟨k, ⟨fun same => ne (by rw [← slot, same]), reg⟩, slot⟩

/-- The last stop of an engine that serves nobody any more ends the activation. -/
theorem settle_serves (serves : e.Serves R) (busy : ∀ d, e.dispatch = some d → e.pool.Busy d)
    (idle : e.dispatch = none → ∀ w, ¬ e.pool.isLive w) (last : e.active = 0 → ∀ h, ¬ R h) :
    ∃ e', e.settle = (e', .ok ()) ∧ e'.active = e.active ∧ e'.Serves R ∧
      (0 < e.active → e'.clientFor = e.clientFor) := by
  rw [settle]
  by_cases inactive : e.active = 0
  · have gone : e.pool.liveCount = 0 := by
      rw [Pool.liveCount_eq_zero]
      intro w live
      cases hd : e.dispatch with
      | none => exact idle hd w live
      | some d =>
        obtain ⟨i, -, used⟩ := Dispatch.ownedInUse_iff.1 (busy d hd w live)
        obtain ⟨k, reg, -⟩ := (serves d hd).2 i used
        exact last inactive k reg
    rw [if_pos inactive, deactivate, if_neg (by simp [gone])]
    refine ⟨_, rfl, ?_, ?_, fun active => absurd inactive (Nat.ne_of_gt active)⟩
    · rw [retire]
      split <;> rfl
    · apply serves_of_none
      rw [retire]
      split
      · rfl
      · next none => exact none
  · rw [if_neg inactive]
    exact ⟨e, rfl, rfl, serves, fun _ => rfl⟩

/-- What a stop for a handle comes to that works: the handle is not served any more. -/
structure Stopped (e e' : Engine) (R : Handle → Prop) (h : Handle) : Prop where
  active : e'.active + 1 = e.active
  serves : e'.Serves fun k => k ≠ h ∧ R k
  clients : 1 < e.active → e'.clientFor = e.clientFor

/-- A stop works. -/
theorem Consistent.stopped (c : e.Consistent) (serves : e.Serves R) (active : 0 < e.active)
    (last : e.active = 1 → ∀ k, R k → k = h) :
    ∃ e', e.stop h = (e', .ok ()) ∧ e.Stopped e' R h := by
  have nobody (zero : e.active - 1 = 0) (k : Handle) : ¬ (k ≠ h ∧ R k) :=
    fun ⟨ne, reg⟩ => ne (last (by omega) k reg)
  have count {e' : Engine} (same : e'.active = e.active - 1) : e'.active + 1 = e.active := by
    rw [same]
    exact Nat.sub_add_cancel active
  obtain ⟨-, free | ⟨d, hd, used⟩⟩ := (e.stop_cases h).resolve_left (Nat.ne_of_gt active)
  · -- A handle whose slot is not claimed is not served.
    have less : e.countDown.Serves fun k => k ≠ h ∧ R k := by
      intro d hd
      obtain ⟨waiting, mine⟩ := serves d hd
      refine ⟨fun k ⟨_, reg⟩ => waiting k reg, fun i used => ?_⟩
      obtain ⟨k, reg, slot⟩ := mine i used
      refine ⟨k, ⟨?_, reg⟩, slot⟩
      rintro rfl
      have unused := free d hd
      rw [slot, used] at unused
      cases unused
    obtain ⟨e', eq, same, serves, clients⟩ := settle_serves less (fun d hd => c.busy d hd active)
      c.idle nobody
    rw [stop_of_free active free]
    exact ⟨e', eq, count same, serves, fun more => clients (Nat.sub_pos_of_lt more)⟩
  · have waiting := (c.staffed d hd).waiting used (serves.not_posted hd h.slot)
    obtain ⟨q, eq, staffed, busy⟩ := stop_of_waiting active hd (c.staffed d hd) (c.busy d hd active) waiting
    obtain ⟨e', eq', same, serves, clients⟩ := settle_serves
      (serves.without (q := q) hd h) (fun d' hd' => by cases hd'; exact busy)
      (fun none => by cases none) nobody
    refine ⟨e', eq.trans eq', count same, serves, fun more => ?_⟩
    rw [clients (Nat.sub_pos_of_lt more)]
    funext k
    rw [clientFor, clientFor, hd]
    rfl

end Engine

/-! ## Requests -/

namespace Batch

variable {n : Nat} {b : Batch n} {i : Fin n}

/-- The batch with a job posted in a slot. -/
def posting (b : Batch n) (i : Fin n) (job : Job) : Batch n :=
  b.put i { (b.slot i).storeJob job with state := .posted }

theorem job?_posting (b : Batch n) (i : Fin n) (job : Job) : (b.posting i job).job? i = some job := by
  rw [job?, posting, slot_put_self]
  exact Slot.job?_storeJob (b.slot i) job

/-- An answer takes a slot from posted to waiting. -/
theorem finish_posting (b : Batch n) (i : Fin n) (job : Job) (code : ResultCode) :
    (b.posting i job).finish i code =
      ((b.posting i job).put i (((b.posting i job).slot i).store (.result code.toInt))).withState i
        .waiting := by
  rw [finish, exchange_of_eq]
  simp [state, posting]

/-- A slot whose job was posted and answered is waiting, and the others are as they were. -/
theorem state_finish_posting (waiting : b.state i = .waiting) (job : Job) (code : ResultCode)
    (j : Fin n) : ((b.posting i job).finish i code).state j = b.state j := by
  rw [finish_posting]
  by_cases hj : j = i
  · rw [hj, waiting, state_withState_self]
  · rw [state_withState_of_ne _ _ hj]
    simp [state, posting, slot_put_of_ne _ _ hj]

/-- What is collected from a slot is what it was answered. -/
theorem collect_finish_posting (b : Batch n) (i : Fin n) (job : Job) (code : ResultCode) :
    ((b.posting i job).finish i code).collect i = some code := by
  rw [finish_posting]
  simp [collect, Slot.code, Slot.withState, Slot.store]

end Batch

namespace Engine

variable {e : Engine} {d : Dispatch slotCount} {b : Batch slotCount} {c : Client}

/-- The engine with other cells in the batch of its activation. -/
def withBatch (e : Engine) (d : Dispatch slotCount) (b : Batch slotCount) : Engine :=
  { e with dispatch := some { d with batch := b } }

theorem withBatch_self (hd : e.dispatch = some d) : e.withBatch d d.batch = e := by
  cases e
  cases hd
  rfl

section

variable (current : c.activation = e.retired.length)

include current

theorem batchOf?_withBatch : (e.withBatch d b).batchOf? c = some b :=
  if_pos current

theorem putBatch_withBatch (b' : Batch slotCount) :
    (e.withBatch d b).putBatch c b' = e.withBatch d b' :=
  if_pos current

theorem job?_withBatch : (e.withBatch d b).job? c = b.job? c.slot := by
  rw [job?, batchOf?_withBatch current]
  rfl

theorem finish_withBatch (code : ResultCode) :
    (e.withBatch d b).finish c code = e.withBatch d (b.finish c.slot code) := by
  rw [finish, batchOf?_withBatch current]
  exact putBatch_withBatch current _

theorem collect_withBatch : (e.withBatch d b).collect c = b.collect c.slot := by
  rw [collect, batchOf?_withBatch current]
  rfl

theorem post_withBatch (waiting : b.state c.slot = .waiting) (job : Job) :
    (e.withBatch d b).post c job = (e.withBatch d (b.posting c.slot job), .ok ()) := by
  rw [post, batchOf?_withBatch current]
  simp only [Batch.post_of_waiting job waiting, putBatch_withBatch current]
  rfl

/-- A waiting slot has a worker that will serve it next, as long as none is busy. -/
theorem server_of_waiting (h : e.Consistent) (hd : e.dispatch = some d)
    (waiting : d.batch.state c.slot = .waiting) (idle : ∀ i, d.batch.state i ≠ .posted) :
    e.server c = .ok (d.owner c.slot) := by
  have staffed := h.staffed d hd
  have used : d.batch.inUse c.slot := Batch.inUse_iff.2 (by simp [waiting])
  have runs : (e.pool.thread (d.owner c.slot)).Runs :=
    .inl (staffed.scanning _ (staffed.manned _ used)).1
  have scans : d.scans c.slot = true := by
    simp [Dispatch.scans, staffed.marked.above _ used]
  have free : d.ownedPosted (d.owner c.slot) = false := by
    simp [Dispatch.ownedPosted, idle]
  simp [server, hd, current, runs, scans, free, staffed.stays]

end

end Engine

namespace EngineIn

variable {W : Type} {at_ : EngineIn W} {w w' : W} {e : Engine} {d : Dispatch slotCount} {c : Client}
  {job : Job} {handler : Nat → Job → W → W × Except Escape ResultCode}
  {reply : Except Escape ResultCode} {code : ResultCode}

/-- A request through a waiting slot comes back with the answer of its handler if there is a worker
to serve it, and leaves the states of the slots as they were. Its handler finds the engine with the
job posted and leaves it alone; if it panics, the answer is a failure. -/
theorem request_of_waiting (he : at_.get w = e) (hd : e.dispatch = some d)
    (current : c.activation = e.retired.length) (waiting : d.batch.state c.slot = .waiting)
    (served : e.server c = .ok (d.owner c.slot))
    (handled : handler (d.owner c.slot) job
      (at_.put (e.withBatch d (d.batch.posting c.slot job)) w) = (w', reply))
    (kept : at_.get w' = e.withBatch d (d.batch.posting c.slot job))
    (answers : reply = .ok code ∨ code = .failure ∧ ∃ message, reply = .error (.panic message)) :
    at_.request handler c job w =
      (at_.put (e.withBatch d ((d.batch.posting c.slot job).finish c.slot code)) w',
        .ok (.ok code)) := by
  have post := Engine.post_withBatch (d := d) current waiting job
  rw [Engine.withBatch_self hd] at post
  rw [request, he, served, post]
  simp only [Engine.job?_withBatch current, Batch.job?_posting, handled]
  have finish := Engine.finish_withBatch (d := d) (b := d.batch.posting c.slot job) current
  have collect (code : ResultCode) := (Engine.collect_withBatch (d := d) current).trans
    (Batch.collect_finish_posting d.batch c.slot job code)
  rcases answers with rfl | ⟨rfl, message, rfl⟩
  · simp only [kept, finish, collect]
  · simp only [kept, finish, collect]

end EngineIn

end PluginBridge
