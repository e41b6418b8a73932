import PluginBridge.Proofs.Engine.Clients

/-!
# What a request waits for

A request is rejected unless its slot is waiting. If it is, the worker of the slot serves it next,
unless that worker is busy with another slot: whoever made the request is then further down the same
chain of calls, and the request stands still (`request_of_busy`; for every interleaving,
`Traffic.Blocked.run`). Otherwise the request comes back as soon as its handler does
(`request_of_answered`).
-/

namespace PluginBridge

namespace Batch

variable {n : Nat} {b : Batch n} {i : Fin n}

/-- What is collected from a posted slot after its answer is the answer. -/
theorem collect_finish (posted : b.state i = .posted) (code : ResultCode) :
    (b.finish i code).collect i = some code := by
  have stored : (b.put i ((b.slot i).store (.result code.toInt))).state i = .posted := by
    simpa [state] using posted
  rw [finish, exchange_of_eq _ stored]
  simp [collect, Slot.code, Slot.withState, Slot.store]

end Batch

namespace Engine

variable {e e' : Engine} {c k : Client} {job : Job} {v : Violation}

/-- Whether two clients have their slots served by the same worker. -/
def SameWorker (e : Engine) (c k : Client) : Prop :=
  c.slot.val % e.maxWorkers = k.slot.val % e.maxWorkers

theorem SameWorker.symm (same : e.SameWorker c k) : e.SameWorker k c := Eq.symm same

/-- The worker of a waiting slot serves it next, unless it is busy with a posted one. -/
theorem Consistent.server_of_waiting (consistent : e.Consistent)
    (waiting : e.state? c = some .waiting) :
    ((∃ k, e.state? k = some .posted ∧ e.SameWorker k c) →
        e.server c = .error (.ownWorker (c.slot.val % e.maxWorkers) c.slot)) ∧
      ((¬ ∃ k, e.state? k = some .posted ∧ e.SameWorker k c) →
        e.server c = .ok (c.slot.val % e.maxWorkers)) := by
  obtain ⟨current, d, hd, state⟩ := consistent.current waiting (by simp)
  have staffed := consistent.staffed d hd
  have workers := consistent.workers d hd
  have used : d.batch.inUse c.slot := Batch.inUse_iff.2 (by simp [state])
  have runs : (e.pool.thread (d.owner c.slot)).Runs :=
    .inl (staffed.scanning _ (staffed.manned _ used)).1
  have scans : d.scans c.slot = true := by
    simp [Dispatch.scans, staffed.marked.above _ used]
  have server : e.server c =
      if d.ownedPosted (d.owner c.slot) then .error (.ownWorker (d.owner c.slot) c.slot)
      else .ok (d.owner c.slot) := by
    simp [Engine.server, hd, current, runs, scans, staffed.stays]
  have owner : d.owner c.slot = c.slot.val % e.maxWorkers := by rw [Dispatch.owner, workers]
  have busy : d.ownedPosted (d.owner c.slot) ↔ ∃ k, e.state? k = some .posted ∧ e.SameWorker k c := by
    rw [Dispatch.ownedPosted, List.any_eq_true]
    constructor
    · rintro ⟨i, mem, posted⟩
      refine ⟨⟨e.retired.length, i⟩, ?_, ?_⟩
      · rw [state?_of_current rfl, hd]
        simpa using posted
      · have same := Dispatch.owner_eq_of_mem (d.owner_lt c.slot staffed.some) mem
        rwa [Dispatch.owner, Dispatch.owner, workers] at same
    · rintro ⟨k, posted, same⟩
      obtain ⟨-, d', hd', state'⟩ := consistent.current posted (by simp)
      cases hd.symm.trans hd'
      refine ⟨k.slot, ?_, by simp [state']⟩
      have same : d.owner k.slot = d.owner c.slot := by
        rw [Dispatch.owner, Dispatch.owner, workers]
        exact same
      exact same ▸ d.mem_owned_owner k.slot
  rw [server, owner] at *
  refine ⟨fun found => by rw [if_pos (busy.2 found)], fun none => ?_⟩
  rw [if_neg fun found => none (busy.1 found)]

/-- A post to a slot that is not waiting is rejected. -/
theorem post_of_ne (other : e.state? c ≠ some .waiting) (job : Job) :
    ∃ e' v, e.post c job = (e', .error v) := by
  cases hb : e.batchOf? c with
  | none => exact ⟨e, _, by rw [post, hb]⟩
  | some b =>
    have state : b.state c.slot ≠ .waiting := fun waiting => other (by
      rw [state?, hb, Option.map_some, waiting])
    obtain ⟨v, eq⟩ := Batch.post_of_ne job state
    exact ⟨e.putBatch c (b.put c.slot ((b.slot c.slot).storeJob job)), v, by simp only [post, hb, eq]⟩

/-- What is collected from a posted slot after its answer is the answer. -/
theorem collect_finish (posted : e.state? c = some .posted) (code : ResultCode) :
    (e.finish c code).collect c = some code := by
  obtain ⟨b, hb, state⟩ := Option.map_eq_some_iff.1 posted
  rw [collect, finish, hb]
  simp only
  rw [batchOf?_putBatch hb]
  exact Batch.collect_finish state code

/-! ## Which slots are posted -/

/-- An accepted post takes a slot from waiting to posted. -/
theorem state_post (posted : e.post c job = (e', .ok ())) :
    e.state? c = some .waiting ∧ e'.state? c = some .posted := by
  have waiting : e.state? c = some .waiting := by
    refine Decidable.byContradiction fun other => ?_
    obtain ⟨_, v, eq⟩ := post_of_ne other job
    cases posted.symm.trans eq
  refine ⟨waiting, ?_⟩
  obtain ⟨b, hb, state⟩ := Option.map_eq_some_iff.1 waiting
  simp only [post, hb, Batch.post_of_waiting job state] at posted
  cases posted
  rw [state?_putBatch hb, if_pos rfl]
  simp [Batch.state]

/-- A rejected post changes no state. -/
theorem state_rejected (rejected : e.post c job = (e', .error v)) (k : Client) :
    e'.state? k = e.state? k := by
  have change := e.post_change c k job
  rw [rejected] at change
  generalize hold : e.state? k = old at change
  generalize (e', Except.error v).1.state? k = new at change
  cases change with
  | same => rfl
  | opened start | claimed start => cases start
  | finished finish => cases finish
  | released given => rcases given with start | stop <;> contradiction
  | posted post =>
    cases post
    have accepted := (post_of_waiting hold job).1
    rw [rejected] at accepted
    cases accepted

/-- An answer takes a posted slot back to waiting. -/
theorem state_finish (posted : e.state? c = some .posted) (code : ResultCode) :
    (e.finish c code).state? c = some .waiting := by
  have collected := collect_finish posted code
  rw [collect, Option.bind_eq_some_iff] at collected
  obtain ⟨b, hb, code⟩ := collected
  rw [Batch.collect] at code
  split at code
  · next waiting => rw [state?, hb, Option.map_some, waiting]
  · cases code

end Engine

/-- Nothing but a post through a client or its answer changes whether its slot is posted. -/
theorem SlotChange.posted_iff {call : EngineCall} {old new : Option SlotState}
    (change : SlotChange e call c old new) (post : ∀ job, call ≠ .post c job)
    (finish : ∀ code, call ≠ .finish c code) : new = some .posted ↔ old = some .posted := by
  cases change with
  | same => exact Iff.rfl
  | opened | released => simp
  | claimed _ _ free => rcases free with rfl | rfl <;> simp
  | posted posting => exact absurd posting (post _)
  | finished finishing => exact absurd finishing (finish _)

namespace EngineIn

variable {W : Type} {at_ : EngineIn W} {w w' : W} {e : Engine} {c : Client} {job : Job}
  {worker : Nat} {handler : Nat → Job → W → W × Except Escape ResultCode}
  {reply : Except Escape ResultCode} {code : ResultCode} {v : Violation} {s : Standstill}

theorem request_of_rejected (rejected : (at_.get w).post c job = (e, .error v)) :
    at_.request handler c job w = (at_.put e w, .ok (.error v)) := by
  simp only [request, rejected]

/-- A request for a slot that nobody serves next stands still. -/
theorem request_of_busy (posted : (at_.get w).post c job = (e, .ok ()))
    (busy : (at_.get w).server c = .error s) :
    at_.request handler c job w = (at_.put e w, .error (.standstill s)) := by
  simp only [request, posted, busy]

section

variable (posted : (at_.get w).post c job = (e, .ok ())) (served : (at_.get w).server c = .ok worker)
  (found : e.job? c = some job) (handled : handler worker job (at_.put e w) = (w', reply))

include posted served found handled

/-- A request stands still if its handler does. -/
theorem request_of_standing (stands : reply = .error (.standstill s)) :
    at_.request handler c job w = (w', .error (.standstill s)) := by
  simp only [request, posted, served, found, handled, stands]

/-- A request comes back with the answer of its handler, if the slot is still posted then; a panic
counts as a failure. -/
theorem request_of_answered (kept : (at_.get w').state? c = some .posted)
    (answers : reply = .ok code ∨ code = .failure ∧ ∃ message, reply = .error (.panic message)) :
    at_.request handler c job w =
      (at_.put ((at_.get w').finish c code) w', .ok (.ok code)) := by
  have collected (code : ResultCode) := Engine.collect_finish kept code
  rcases answers with rfl | ⟨rfl, message, rfl⟩
  · simp only [request, posted, served, found, handled, collected]
  · simp only [request, posted, served, found, handled, collected]

end

end EngineIn

end PluginBridge
