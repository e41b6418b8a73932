import PluginBridge.Proofs.Dispatch.Crews

/-!
# Batches that differ in their results

The result in a slot is read by the caller of a request that was answered, and by nobody else.
Batches that differ in nothing but the results in their slots (`Batch.Matches`) are therefore the
same to the engine and to its workers: every operation on slots, every exit and every pass comes to
the same, and leaves batches that match again. Whatever looks at no more than the states of the
slots comes to the same on any two batches with the same states.
-/

namespace PluginBridge

variable {n : Nat} {i : Fin n} {W : Type}

/-! ## Slots -/

namespace Slot

/-- What a slot holds beside its result. -/
def question (s : Slot) : Slot := { s with result := 0 }

theorem state_of_question {s t : Slot} (same : s.question = t.question) : s.state = t.state := by
  have states := congrArg Slot.state same
  exact states

theorem job?_of_question {s t : Slot} (same : s.question = t.question) : s.job? = t.job? := by
  have jobs := congrArg Slot.job? same
  exact jobs

theorem question_withState {s t : Slot} (same : s.question = t.question) (x : SlotState) :
    (s.withState x).question = (t.withState x).question :=
  congrArg (withState · x) same

/-- A job that is stored leaves nothing of what was there but the state. -/
theorem storeJob_congr {s t : Slot} (same : s.state = t.state) (job : Job) :
    s.storeJob job = t.storeJob job := by
  simp only [storeJob, jobStores, List.foldl_cons, List.foldl_nil, store, same]

end Slot

/-! ## Batches -/

namespace Batch

variable {b b' : Batch n}

/-- Two batches that differ in nothing but the results in their slots. -/
def Matches (b b' : Batch n) : Prop := ∀ i, (b.slot i).question = (b'.slot i).question

theorem Matches.refl (b : Batch n) : b.Matches b := fun _ => rfl

theorem Matches.trans {b'' : Batch n} (same : b.Matches b') (same' : b'.Matches b'') :
    b.Matches b'' := fun i => (same i).trans (same' i)

theorem Matches.state (same : b.Matches b') : b.state = b'.state :=
  funext fun i => Slot.state_of_question (same i)

theorem Matches.job? (same : b.Matches b') (i : Fin n) : b.job? i = b'.job? i :=
  Slot.job?_of_question (same i)

theorem inUse_congr (same : b.state = b'.state) : b.inUse = b'.inUse :=
  funext fun i => by rw [inUse, inUse, same]

theorem Matches.put {s s' : Slot} (same : b.Matches b') (i : Fin n)
    (slots : s.question = s'.question) : (b.put i s).Matches (b'.put i s') := by
  intro j
  by_cases hj : j = i
  · subst hj
    rw [slot_put_self, slot_put_self]
    exact slots
  · rw [slot_put_of_ne b s hj, slot_put_of_ne b' s' hj]
    exact same j

theorem Matches.withState (same : b.Matches b') (i : Fin n) (x : SlotState) :
    (b.withState i x).Matches (b'.withState i x) :=
  same.put i (Slot.question_withState (same i) x)

theorem state_withState_congr (same : b.state = b'.state) (i : Fin n) (x : SlotState) :
    (b.withState i x).state = (b'.withState i x).state := by
  funext j
  by_cases hj : j = i
  · subst hj
    rw [state_withState_self, state_withState_self]
  · rw [state_withState_of_ne b x hj, state_withState_of_ne b' x hj, same]

/-- What a post answers, and what it leaves of the states, depends on the states. -/
theorem post_congr (same : b.state = b'.state) (i : Fin n) (job : Job) :
    (b.post i job).2 = (b'.post i job).2 ∧ (b.post i job).1.state = (b'.post i job).1.state := by
  have spec := b.post_spec i job
  have spec' := b'.post_spec i job
  have posted := state_withState_congr same i .posted
  rw [← same] at spec'
  cases found : b.state i with
  | waiting =>
    simp only [found] at spec spec'
    exact ⟨spec.1.trans spec'.1.symm, spec.2.trans (posted.trans spec'.2.symm)⟩
  | unused | posted | exitAsked | exitSeen =>
    simp only [found] at spec spec'
    exact ⟨spec.1.trans spec'.1.symm, spec.2.trans spec'.2.symm⟩

theorem Matches.post (same : b.Matches b') (i : Fin n) (job : Job) :
    (b.post i job).1.Matches (b'.post i job).1 := by
  have states : b.state i = b'.state i := congrFun same.state i
  have stored : (b.slot i).storeJob job = (b'.slot i).storeJob job :=
    Slot.storeJob_congr states job
  by_cases waiting : b.state i = .waiting
  · rw [post_of_waiting job waiting, post_of_waiting job (states ▸ waiting), stored]
    exact same.put i rfl
  · obtain ⟨v, eq⟩ := post_of_ne job waiting
    obtain ⟨v', eq'⟩ := post_of_ne job (states ▸ waiting : b'.state i ≠ .waiting)
    rw [eq, eq', stored]
    exact same.put i rfl

theorem state_finish_congr (same : b.state = b'.state) (i : Fin n) (code code' : ResultCode) :
    (b.finish i code).state = (b'.finish i code').state := by
  rw [state_finish, state_finish, state_withState_congr same, same]

/-- Answers with different results leave batches that match. -/
theorem Matches.finish (same : b.Matches b') (i : Fin n) (code code' : ResultCode) :
    (b.finish i code).Matches (b'.finish i code') := by
  have stored : (b.put i ((b.slot i).store (.result code.toInt))).Matches
      (b'.put i ((b'.slot i).store (.result code'.toInt))) := same.put i (same i)
  have states := congrFun stored.state i
  rw [Batch.finish, Batch.finish]
  by_cases posted : (b.put i ((b.slot i).store (.result code.toInt))).state i = .posted
  · rw [exchange_of_eq _ posted, exchange_of_eq _ (states ▸ posted)]
    exact stored.withState i .waiting
  · rw [exchange_of_ne _ posted, exchange_of_ne _ (states ▸ posted)]
    exact stored

/-- The result of an answer is in its slot. -/
theorem code_finish (b : Batch n) (i : Fin n) (code : ResultCode) :
    ((b.finish i code).slot i).code = code := by
  rw [finish]
  by_cases posted : (b.put i ((b.slot i).store (.result code.toInt))).state i = .posted
  · rw [exchange_of_eq _ posted]
    simp [Slot.code, Slot.withState, Slot.store]
  · rw [exchange_of_ne _ posted]
    simp [Slot.code, Slot.store]

end Batch

/-! ## What the workers share -/

namespace Dispatch

variable {d d' : Dispatch n} {b b' : Batch n}

/-- Two batches that match, with the same workers and the same mark. -/
structure Matches (d d' : Dispatch n) : Prop where
  batch : d.batch.Matches d'.batch
  highWater : d.highWater = d'.highWater
  workers : d.workers = d'.workers

namespace Matches

theorem refl (d : Dispatch n) : d.Matches d := ⟨.refl _, rfl, rfl⟩

theorem trans {d'' : Dispatch n} (same : d.Matches d') (same' : d'.Matches d'') : d.Matches d'' :=
  ⟨same.batch.trans same'.batch, same.highWater.trans same'.highWater,
    same.workers.trans same'.workers⟩

theorem withBatch (same : d.Matches d') (batches : b.Matches b') :
    Dispatch.Matches { d with batch := b } { d' with batch := b' } :=
  ⟨batches, same.highWater, same.workers⟩

theorem owner (same : d.Matches d') (i : Fin n) : d.owner i = d'.owner i := by
  rw [Dispatch.owner, Dispatch.owner, same.workers]

theorem owned (same : d.Matches d') (w : Nat) : d.owned w = d'.owned w := by
  rw [Dispatch.owned, Dispatch.owned, same.workers]

theorem ownedInUse (same : d.Matches d') (w : Nat) : d.ownedInUse w = d'.ownedInUse w := by
  rw [Dispatch.ownedInUse, Dispatch.ownedInUse, same.owned, Batch.inUse_congr same.batch.state]

theorem ownedPosted (same : d.Matches d') (w : Nat) : d.ownedPosted w = d'.ownedPosted w := by
  rw [Dispatch.ownedPosted, Dispatch.ownedPosted, same.owned, same.batch.state]

theorem exits (same : d.Matches d') (w : Nat) : d.exits w = d'.exits w := by
  rw [Dispatch.exits, Dispatch.exits, same.owned, same.batch.state]

theorem scans (same : d.Matches d') (i : Fin n) : d.scans i = d'.scans i := by
  rw [Dispatch.scans, Dispatch.scans, same.owner, same.highWater]

theorem scanned (same : d.Matches d') (w : Nat) : d.scanned w = d'.scanned w := by
  rw [Dispatch.scanned, Dispatch.scanned, same.owned, same.highWater]

theorem raise (same : d.Matches d') (i : Fin n) : (d.raise i).Matches (d'.raise i) :=
  ⟨same.batch, by simp only [Dispatch.raise, same.highWater], same.workers⟩

theorem lower (same : d.Matches d') (i : Fin n) : (d.lower i).Matches (d'.lower i) := by
  rw [Dispatch.lower, Dispatch.lower, ← same.highWater]
  split
  · refine ⟨same.batch, ?_, same.workers⟩
    simp only [highestBelow, Batch.inUse_congr same.batch.state]
  · exact same

end Matches

/-! ## Passes -/

/-- A slot is served with the same job, and with whatever answer. -/
theorem Matches.serve (same : d.Matches d') (handler : Handler W) (i : Fin n) (w : W) :
    (d.serve handler i w).1.Matches (d'.serve handler i w).1 ∧
      (d.serve handler i w).2 = (d'.serve handler i w).2 := by
  rw [Dispatch.serve, Dispatch.serve, ← same.batch.job?]
  cases d.batch.job? i with
  | some job => exact ⟨same.withBatch (same.batch.finish i _ _), rfl⟩
  | none => exact ⟨same.withBatch (same.batch.finish i _ _), rfl⟩

theorem Matches.scanSlots (same : d.Matches d') (handler : Handler W) (worker : Nat)
    (l : List (Fin n)) (result : ScanResult) (w : W) :
    let s := scanSlots handler worker l result d w
    let s' := scanSlots handler worker l result d' w
    s.result = s'.result ∧ s.world = s'.world ∧ s.dispatch.Matches s'.dispatch := by
  induction l generalizing d d' result w with
  | nil => exact ⟨rfl, rfl, same⟩
  | cons i rest ih =>
    have states : d.batch.state i = d'.batch.state i := congrFun same.batch.state i
    cases found : d.batch.state i with
    | posted =>
      obtain ⟨served, world⟩ := same.serve handler i w
      simp only [Dispatch.scanSlots, ← states, found, ← world]
      exact ih served _ _
    | exitAsked =>
      simp only [Dispatch.scanSlots, ← states, found, Batch.acknowledge_eq, if_true]
      split
      · exact ⟨rfl, rfl, same.withBatch (same.batch.withState i .exitSeen)⟩
      · exact ih same _ _
    | unused | waiting | exitSeen =>
      simp only [Dispatch.scanSlots, ← states, found]
      exact ih same _ _

/-- A pass meets the same jobs and comes to the same. -/
theorem Matches.scan (same : d.Matches d') (handler : Handler W) (worker : Nat) (w : W) :
    let s := d.scan handler worker w
    let s' := d'.scan handler worker w
    s.result = s'.result ∧ s.world = s'.world ∧ s.dispatch.Matches s'.dispatch := by
  rw [Dispatch.scan, Dispatch.scan, same.scanned]
  exact same.scanSlots handler worker _ _ w

end Dispatch

/-! ## Threads -/

namespace Pool

variable {p : Pool} {d d' : Dispatch n}

/-- The same was done to two pools, and what they share matches. -/
structure Agree (x y : Pool × Dispatch n × Except Violation Unit) : Prop where
  pool : x.1 = y.1
  dispatch : x.2.1.Matches y.2.1
  answer : x.2.2 = y.2.2

theorem Agree.split {x y : Pool × Dispatch n × Except Violation Unit} (agree : Agree x y) :
    ∃ q c c' r, x = (q, c, r) ∧ y = (q, c', r) ∧ c.Matches c' :=
  ⟨x.1, x.2.1, y.2.1, x.2.2, rfl, by rw [agree.pool, agree.answer], agree.dispatch⟩

theorem agree_requestExit (p : Pool) (same : d.Matches d') (i : Fin n) :
    Agree (p.requestExit d i) (p.requestExit d' i) := by
  rw [requestExit_eq, requestExit_eq, ← same.batch.state]
  split
  · split
    · exact ⟨rfl, same.withBatch (same.batch.withState i _), rfl⟩
    · exact ⟨rfl, same.withBatch (same.batch.withState i _), rfl⟩
  · exact ⟨rfl, same, rfl⟩

theorem agree_release (p : Pool) (same : d.Matches d') (w : Nat) :
    Agree (p.release d w) (p.release d' w) := by
  rw [release, release, ← same.ownedInUse]
  split
  · exact ⟨rfl, same, rfl⟩
  split
  · exact ⟨rfl, same, rfl⟩
  split
  · next hw =>
    obtain ⟨q, c, c', r, left, right, dispatch⟩ := (agree_requestExit p same ⟨w, hw⟩).split
    rw [left, right]
    cases r with
    | ok _ => exact ⟨rfl, dispatch, rfl⟩
    | error v => exact ⟨rfl, dispatch, rfl⟩
  · exact ⟨rfl, same, rfl⟩

theorem agree_releaseEach (ws : List Nat) (p : Pool) (same : d.Matches d') :
    Agree (releaseEach ws p d) (releaseEach ws p d') := by
  induction ws generalizing p d d' with
  | nil => exact ⟨rfl, same, rfl⟩
  | cons w ws ih =>
    rw [releaseEach, releaseEach]
    obtain ⟨q, c, c', r, left, right, dispatch⟩ := (agree_release p same w).split
    rw [left, right]
    cases r with
    | ok _ => exact ih q dispatch
    | error v => exact ⟨rfl, dispatch, rfl⟩

end Pool

/-! ## Crews -/

namespace Crew

variable {c c' : Crew n}

/-- The same threads, on batches that match. -/
structure Matches (c c' : Crew n) : Prop where
  pool : c.pool = c'.pool
  dispatch : c.dispatch.Matches c'.dispatch

/-- What a pass of a worker is seen to do: its result, and the world that its handler leaves. -/
def passed (c : Crew n) (w : Nat) (handler : Handler W) (world : W) : Option ScanResult × W :=
  ((c.pass w handler world).2,
    if (c.pool.thread w).Runs then (c.dispatch.scan handler w world).world else world)

theorem Matches.pass (same : c.Matches c') (w : Nat) (handler : Handler W) (world : W) :
    c.passed w handler world = c'.passed w handler world ∧
      (c.pass w handler world).1.Matches (c'.pass w handler world).1 := by
  obtain ⟨result, left, dispatch⟩ := same.dispatch.scan handler w world
  rw [passed, passed, Crew.pass, Crew.pass, ← same.pool]
  split
  · dsimp only
    rw [result, left]
    exact ⟨rfl, rfl, dispatch⟩
  · exact ⟨rfl, same⟩

theorem Matches.move (same : c.Matches c') (move : ThreadMove) :
    (c.move move).Matches (c'.move move) := by
  cases move with
  | pass w handler world => exact (same.pass w handler world).2
  | slow w | prompt w =>
    simp only [Crew.move, ← same.pool]
    exact ⟨rfl, same.dispatch⟩

end Crew

end PluginBridge
