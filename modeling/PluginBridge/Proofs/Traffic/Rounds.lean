import PluginBridge.Proofs.Dispatch.Shares
import PluginBridge.Proofs.Traffic.Moves

/-!
# Rounds of a request

A request that is accepted goes round: its job is posted, a handler is called with it, the handler
answers, and the answer is returned. `RoundStage` says where the current round of a caller stands,
from the cells of its slot, the caller's point and the point of the service at its slot. `Sound`
says that every caller stands somewhere in a round and has nothing but whole rounds behind it, and
`Sound.step` that no move of anybody changes that, as long as each slot has one caller.

The invariant does not care what the engine does meanwhile: whoever posts a job owns the slot's
other cells until the state is moved back from posted, and the engine never moves it from there.
-/

namespace PluginBridge

/-- What happens in a round. -/
inductive RoundEvent where
  | accepted (job : Job)
  | called (job : Job)
  | answered (job : Job) (reply : Reply)
  | returned (job : Job) (code : ResultCode)
  deriving DecidableEq, Repr

/-- A request that was accepted: its job, and how its handler answered. -/
structure Round where
  job : Job
  reply : Reply
  deriving DecidableEq, Repr

/-- What happens in a whole round, in order. -/
def Round.events (r : Round) : List RoundEvent :=
  [.accepted r.job, .called r.job, .answered r.job r.reply, .returned r.job r.reply.toCode]

/-- A slot whose cells hold a job. -/
structure Slot.Carries (s : Slot) (job : Job) : Prop where
  handle : s.handle = job.handle.raw
  event : s.event = job.event
  count : s.count = job.count
  fields : s.fields = job.fields

/-- What was read of a job so far is right. -/
def JobReading.Agrees (job : Job) : JobReading → Prop
  | .nothing => True
  | .handle h => h = job.handle
  | .event h e => h = job.handle ∧ e = job.event
  | .count h e c => h = job.handle ∧ e = job.event ∧ c = job.count

/-- Where a round stands: the slot, its caller, the service at it if there is one, and what has
happened since the last whole round. -/
inductive RoundStage : Slot → CallerPoint → Option ServicePoint → List RoundEvent → Prop where
  | idle {s : Slot} (free : s.state ≠ .posted) : RoundStage s .between none []
  | storing {s : Slot} {job : Job} {rest : List Store} (free : s.state ≠ .posted)
      (carries : (rest.foldl Slot.store s).Carries job) : RoundStage s (.storing job rest) none []
  | posted {s : Slot} {job : Job} (posted : s.state = .posted) (carries : s.Carries job) :
      RoundStage s (.watching job) none [.accepted job]
  | reading {s : Slot} {job : Job} {found : JobReading} (posted : s.state = .posted)
      (carries : s.Carries job) (agrees : found.Agrees job) :
      RoundStage s (.watching job) (some (.reading found)) [.accepted job]
  | calling {s : Slot} {job : Job} (posted : s.state = .posted) :
      RoundStage s (.watching job) (some (.calling job)) [.accepted job, .called job]
  | answered {s : Slot} {job : Job} {reply : Reply} (posted : s.state = .posted) :
      RoundStage s (.watching job) (some (.storing reply.toCode))
        [.accepted job, .called job, .answered job reply]
  | stored {s : Slot} {job : Job} {reply : Reply} (posted : s.state = .posted)
      (result : s.code = reply.toCode) :
      RoundStage s (.watching job) (some .handing) [.accepted job, .called job, .answered job reply]
  | served {s : Slot} {job : Job} {reply : Reply} (free : s.state ≠ .posted)
      (result : s.code = reply.toCode) :
      RoundStage s (.watching job) none [.accepted job, .called job, .answered job reply]
  | seen {s : Slot} {job : Job} {reply : Reply} (free : s.state ≠ .posted)
      (result : s.code = reply.toCode) :
      RoundStage s (.collecting job) none [.accepted job, .called job, .answered job reply]

namespace Slot.Carries

variable {s : Slot} {job : Job}

theorem withState {x : SlotState} (h : s.Carries job) : (s.withState x).Carries job :=
  ⟨h.handle, h.event, h.count, h.fields⟩

/-- The writes of a request put its job into the cells. -/
theorem stores (s : Slot) (job : Job) : ((Slot.jobStores job).foldl Slot.store s).Carries job :=
  ⟨rfl, rfl, rfl, rfl⟩

/-- A cell that is read of the job agrees with it, and after the last one the job is called. -/
theorem read {found : JobReading} (h : s.Carries job) (agrees : found.Agrees job) :
    (∃ next : JobReading, WorkerPoint.read s found = .reading next ∧ next.Agrees job) ∨
      WorkerPoint.read s found = .calling job := by
  cases found with
  | nothing =>
    have valid : Handle.ofRaw? s.handle = some job.handle := by
      rw [h.handle]
      simp [Handle.ofRaw?, job.handle.pos, job.handle.le]
    exact .inl ⟨.handle job.handle, by simp [WorkerPoint.read, valid], rfl⟩
  | handle found => exact .inl ⟨.event found s.event, rfl, agrees, h.event⟩
  | event found event => exact .inl ⟨.count found event s.count, rfl, agrees.1, agrees.2, h.count⟩
  | count found event count =>
    obtain ⟨rfl, rfl, rfl⟩ := agrees
    exact .inr (by rw [WorkerPoint.read, h.fields])

end Slot.Carries

namespace RoundStage

variable {s : Slot} {job : Job} {v : Option ServicePoint} {es : List RoundEvent}

theorem of_between (h : RoundStage s .between v es) : s.state ≠ .posted ∧ v = none ∧ es = [] := by
  cases h with
  | idle free => exact ⟨free, rfl, rfl⟩

theorem of_storing {rest : List Store} (h : RoundStage s (.storing job rest) v es) :
    s.state ≠ .posted ∧ (rest.foldl Slot.store s).Carries job ∧ v = none ∧ es = [] := by
  cases h with
  | storing free carries => exact ⟨free, carries, rfl, rfl⟩

/-- While its caller watches, a slot that is not posted has been served. -/
theorem of_watching (h : RoundStage s (.watching job) v es) (free : s.state ≠ .posted) :
    ∃ reply : Reply, s.code = reply.toCode ∧ v = none ∧
      es = [.accepted job, .called job, .answered job reply] := by
  cases h with
  | served _ result => exact ⟨_, result, rfl, rfl⟩
  | posted posted | reading posted | calling posted | answered posted | stored posted =>
    exact absurd posted free

theorem of_collecting (h : RoundStage s (.collecting job) v es) :
    s.state ≠ .posted ∧ ∃ reply : Reply, s.code = reply.toCode ∧ v = none ∧
      es = [.accepted job, .called job, .answered job reply] := by
  cases h with
  | seen free result => exact ⟨free, _, result, rfl, rfl⟩

theorem of_reading {p : CallerPoint} {found : JobReading}
    (h : RoundStage s p (some (.reading found)) es) :
    ∃ job, p = .watching job ∧ s.state = .posted ∧ s.Carries job ∧ found.Agrees job ∧
      es = [.accepted job] := by
  cases h with
  | reading posted carries agrees => exact ⟨_, rfl, posted, carries, agrees, rfl⟩

theorem of_storing_code {p : CallerPoint} {code : ResultCode}
    (h : RoundStage s p (some (.storing code)) es) :
    ∃ job reply, p = .watching job ∧ s.state = .posted ∧ code = Reply.toCode reply ∧
      es = [.accepted job, .called job, .answered job reply] := by
  cases h with
  | answered posted => exact ⟨_, _, rfl, posted, rfl, rfl⟩

theorem of_handing {p : CallerPoint} (h : RoundStage s p (some .handing) es) :
    ∃ job reply, p = .watching job ∧ s.state = .posted ∧ s.code = Reply.toCode reply ∧
      es = [.accepted job, .called job, .answered job reply] := by
  cases h with
  | stored posted result => exact ⟨_, _, rfl, posted, result, rfl⟩

theorem of_calling {p : CallerPoint} {called : Job} (h : RoundStage s p (some (.calling called)) es) :
    p = .watching called ∧ s.state = .posted ∧ es = [.accepted called, .called called] := by
  cases h with
  | calling posted => exact ⟨rfl, posted, rfl⟩

/-- A round whose job is posted and not being served is begun by looking at its slot. -/
theorem begin {p : CallerPoint} (h : RoundStage s p none es) (posted : s.state = .posted) :
    RoundStage s p (some (.reading .nothing)) es := by
  cases h with
  | posted _ carries => exact .reading posted carries trivial
  | idle free | storing free | served free | seen free => exact absurd posted free

end RoundStage

/-- A round does not notice that the state of its slot changes, unless its job is posted. -/
theorem RoundStage.withState {s : Slot} {p : CallerPoint} {v : Option ServicePoint}
    {es : List RoundEvent} {x : SlotState} (h : RoundStage s p v es) (free : s.state ≠ .posted)
    (hx : x ≠ .posted) : RoundStage (s.withState x) p v es := by
  cases h with
  | idle => exact .idle hx
  | storing _ carries =>
    apply RoundStage.storing hx
    rw [Slot.withState_stores]
    exact carries.withState
  | served _ result => exact .served hx result
  | seen _ result => exact .seen hx result
  | posted posted | reading posted | calling posted | answered posted | stored posted =>
    exact absurd posted free

/-- What an event is in the rounds of a caller, if it belongs to them. -/
def TrafficEvent.inRounds? {κ : Type} [DecidableEq κ] {n : Nat} (slotOf : κ → Fin n) (k : κ) :
    TrafficEvent κ n → Option RoundEvent
  | .request j (.accepted job) => if j = k then some (.accepted job) else none
  | .request _ (.rejected _ _) => none
  | .request j (.returned job code) => if j = k then some (.returned job code) else none
  | .service _ (.called i job) => if i = slotOf k then some (.called job) else none
  | .service _ (.answered i job reply) =>
    if i = slotOf k then some (.answered job reply) else none

/-- The service of a slot that a worker is busy with. An exit is no service. -/
def WorkerPoint.serviceAt {n : Nat} (i : Fin n) : WorkerPoint n → Option ServicePoint
  | .serving _ .leaving _ => none
  | .serving j point _ => if j = i then some point else none
  | _ => none

/-- A worker that exists and goes through slots of its own. -/
def WorkerPoint.Within {n : Nat} (d : Dispatch n) (w : Nat) : WorkerPoint n → Prop
  | .between => w < d.workers
  | .passing pass => w < d.workers ∧ pass.rest <:+ d.owned w
  | .serving i _ pass => w < d.workers ∧ i :: pass.rest <:+ d.owned w
  | .gone => True

namespace Traffic

variable {κ : Type} [DecidableEq κ] {n : Nat}

/-- What has happened in the rounds of a caller. -/
def roundsOf (slotOf : κ → Fin n) (k : κ) (t : Traffic κ n) : List RoundEvent :=
  t.history.filterMap (TrafficEvent.inRounds? slotOf k)

/-- The service at a slot by its owner. -/
def serviceAt (t : Traffic κ n) (i : Fin n) : Option ServicePoint :=
  (t.workers (t.dispatch.owner i)).serviceAt i

/-- A caller stands somewhere in a round and has whole rounds behind it. -/
def InRound (slotOf : κ → Fin n) (t : Traffic κ n) (k : κ) : Prop :=
  ∃ (whole : List Round) (current : List RoundEvent),
    t.roundsOf slotOf k = whole.flatMap Round.events ++ current ∧
      RoundStage (t.dispatch.batch.slot (slotOf k)) (t.callers k) (t.serviceAt (slotOf k)) current

/-- Every worker keeps to its slots, and every caller to its rounds. -/
structure Sound (slotOf : κ → Fin n) (t : Traffic κ n) : Prop where
  within : ∀ w, (t.workers w).Within t.dispatch w
  inRound : ∀ k, t.InRound slotOf k

variable {slotOf : κ → Fin n} {t u : Traffic κ n} {k : κ} {i : Fin n}

theorem roundsOf_record (t : Traffic κ n) (events : List (TrafficEvent κ n)) :
    (t.record events).roundsOf slotOf k =
      t.roundsOf slotOf k ++ events.filterMap (TrafficEvent.inRounds? slotOf k) :=
  List.filterMap_append

/-- A caller stands where it stood if nothing that its round depends on has changed. -/
theorem InRound.frame (h : t.InRound slotOf k)
    (history : u.roundsOf slotOf k = t.roundsOf slotOf k)
    (slot : u.dispatch.batch.slot (slotOf k) = t.dispatch.batch.slot (slotOf k))
    (caller : u.callers k = t.callers k)
    (service : u.serviceAt (slotOf k) = t.serviceAt (slotOf k)) : u.InRound slotOf k := by
  obtain ⟨whole, current, hist, stage⟩ := h
  refine ⟨whole, current, history.trans hist, ?_⟩
  rw [slot, caller, service]
  exact stage

/-! ## Moves of the engine -/

theorem InRound.drive {x : SlotState} (h : t.InRound slotOf k) (i : Fin n)
    (free : t.dispatch.batch.state i ≠ .posted) (hx : x ≠ .posted) :
    (t.putBatch (t.dispatch.batch.withState i x)).InRound slotOf k := by
  obtain ⟨whole, current, hist, stage⟩ := h
  refine ⟨whole, current, hist, ?_⟩
  change RoundStage ((t.dispatch.batch.withState i x).slot (slotOf k)) _ _ _
  by_cases hk : slotOf k = i
  · rw [hk, Batch.slot_withState_self]
    rw [hk] at stage
    exact stage.withState free hx
  · rw [Batch.slot_withState_of_ne _ _ hk]
    exact stage

/-! ## Moves of a caller -/

/-- A caller that begins a request begins a round. -/
theorem InRound.request (h : t.InRound slotOf k) (j : κ) (job : Job)
    (between : t.callers j = .between) :
    (t.putCaller j (.start job)).InRound slotOf k := by
  by_cases hj : k = j
  · subst hj
    obtain ⟨whole, current, hist, stage⟩ := h
    refine ⟨whole, current, hist, ?_⟩
    rw [between] at stage
    obtain ⟨free, service, rfl⟩ := stage.of_between
    rw [callers_putCaller_self]
    change RoundStage _ _ (t.serviceAt (slotOf k)) _
    rw [service]
    exact .storing free (Slot.Carries.stores _ job)
  · exact h.frame rfl rfl (by simp [putCaller, hj]) rfl

/-- A caller's own step takes its round on. -/
theorem InRound.own {s : Slot} {p : CallerPoint} {events : List RequestEvent}
    (h : t.InRound slotOf k)
    (hs : (t.callers k).step (t.dispatch.batch.slot (slotOf k)) = some (s, p, events)) :
    (((t.putBatch (t.dispatch.batch.put (slotOf k) s)).putCaller k p).record
      (events.map (.request k))).InRound slotOf k := by
  obtain ⟨whole, current, hist, stage⟩ := h
  rw [InRound, roundsOf_record]
  have old : ((t.putBatch (t.dispatch.batch.put (slotOf k) s)).putCaller k p).roundsOf slotOf k =
      whole.flatMap Round.events ++ current := hist
  rw [old]
  change ∃ w c, _ ∧ RoundStage ((t.dispatch.batch.put (slotOf k) s).slot (slotOf k))
    (((t.putBatch (t.dispatch.batch.put (slotOf k) s)).putCaller k p).callers k)
    (t.serviceAt (slotOf k)) c
  rw [Batch.slot_put_self, callers_putCaller_self]
  cases point : t.callers k with
  | between => simp [point, CallerPoint.step] at hs
  | storing job rest =>
    rw [point] at hs stage
    obtain ⟨free, carries, service, rfl⟩ := stage.of_storing
    rw [service]
    cases rest with
    | cons cell rest =>
      cases hs
      exact ⟨whole, [], by simp, .storing (by simpa using free) carries⟩
    | nil =>
      by_cases waiting : (t.dispatch.batch.slot (slotOf k)).state = .waiting
      · rw [CallerPoint.step_posting_of_waiting waiting] at hs
        cases hs
        exact ⟨whole, [.accepted job], by simp [TrafficEvent.inRounds?],
          .posted rfl carries.withState⟩
      · rw [CallerPoint.step_posting_of_ne waiting] at hs
        cases hs
        exact ⟨whole, [], by simp [TrafficEvent.inRounds?], .idle free⟩
  | watching job =>
    rw [point] at hs stage
    cases hs
    refine ⟨whole, current, by simp, ?_⟩
    by_cases waiting : (t.dispatch.batch.slot (slotOf k)).state = .waiting
    · have free : (t.dispatch.batch.slot (slotOf k)).state ≠ .posted := by simp [waiting]
      obtain ⟨reply, result, service, rfl⟩ := stage.of_watching free
      rw [if_pos waiting, service]
      exact .seen free result
    · rw [if_neg waiting]
      exact stage
  | collecting job =>
    rw [point] at hs stage
    cases hs
    obtain ⟨free, reply, result, service, rfl⟩ := stage.of_collecting
    rw [service]
    refine ⟨whole ++ [⟨job, reply⟩], [], ?_, .idle free⟩
    simp [TrafficEvent.inRounds?, Round.events, result]

/-- A caller's step is nothing to the others, which have other slots. -/
theorem InRound.other {j : κ} {s : Slot} {p : CallerPoint} {events : List RequestEvent}
    (h : t.InRound slotOf k) (hj : k ≠ j) (slots : slotOf k ≠ slotOf j) :
    (((t.putBatch (t.dispatch.batch.put (slotOf j) s)).putCaller j p).record
      (events.map (.request j))).InRound slotOf k := by
  refine h.frame ?_ (Batch.slot_put_of_ne _ _ slots) (by simp [putCaller, record, putBatch, hj]) rfl
  rw [roundsOf_record]
  have none : (events.map (TrafficEvent.request (n := n) j)).filterMap
      (TrafficEvent.inRounds? slotOf k) = [] := by
    rw [List.filterMap_eq_nil_iff]
    intro e he
    obtain ⟨event, -, rfl⟩ := List.mem_map.1 he
    cases event <;> simp [TrafficEvent.inRounds?, Ne.symm hj]
  rw [none, List.append_nil]
  rfl

/-! ## Moves of a worker -/

section Worker

variable {w : Nat} {p q : WorkerPoint n} {d e : Dispatch n} {o : List (ServiceEvent n)}

theorem serviceAt_serving_of_ne {j : Fin n} (point : ServicePoint) (pass : Pass n) (ne : j ≠ i) :
    (WorkerPoint.serving j point pass).serviceAt i = none := by
  cases point <;> simp [WorkerPoint.serviceAt, ne]

theorem serviceAt_serving_self {point : ServicePoint} {pass : Pass n} (ne : point ≠ .leaving) :
    (WorkerPoint.serving i point pass).serviceAt i = some point := by
  cases point <;> simp_all [WorkerPoint.serviceAt]

/-- A worker that is not at a slot leaves it alone. It may come to it, if a job is posted there. -/
theorem step_away (away : ∀ point pass, p ≠ .serving i point pass)
    (hs : p.step d w = some (e, q, o)) :
    e.batch.slot i = d.batch.slot i ∧ (∀ event ∈ o, ∃ j job, event = .called j job ∧ j ≠ i) ∧
      (q.serviceAt i = none ∨
        q.serviceAt i = some (.reading .nothing) ∧ d.batch.state i = .posted) := by
  cases p with
  | between =>
    cases hs
    exact ⟨rfl, by simp, .inl rfl⟩
  | gone => cases hs
  | passing pass =>
    obtain ⟨mark, rest⟩ := pass
    cases rest with
    | nil =>
      cases hs
      exact ⟨rfl, by simp, .inl rfl⟩
    | cons j rest =>
      simp only [WorkerPoint.step] at hs
      split at hs
      · cases hs
        refine ⟨rfl, by simp, ?_⟩
        cases hstate : d.batch.state j with
        | posted =>
          by_cases hj : j = i
          · subst hj
            exact .inr ⟨by simp [WorkerPoint.look, WorkerPoint.serviceAt], hstate⟩
          · exact .inl (serviceAt_serving_of_ne _ _ hj)
        | exitAsked =>
          left
          simp only [WorkerPoint.look]
          split <;> rfl
        | unused | waiting | exitSeen => exact .inl rfl
      · cases hs
        exact ⟨rfl, by simp, .inl rfl⟩
  | serving j point pass =>
    have hj : j ≠ i := fun h => away point pass (h ▸ rfl)
    cases point with
    | reading found =>
      cases hs
      refine ⟨rfl, ?_, .inl (serviceAt_serving_of_ne _ _ hj)⟩
      cases WorkerPoint.read (d.batch.slot j) found <;> simp [WorkerPoint.calls, hj]
    | calling job => cases hs
    | storing code =>
      cases hs
      exact ⟨Batch.slot_put_of_ne _ _ hj.symm, by simp, .inl (serviceAt_serving_of_ne _ _ hj)⟩
    | handing =>
      by_cases posted : d.batch.state j = .posted
      · simp only [WorkerPoint.step, Batch.exchange_of_eq _ posted] at hs
        cases hs
        exact ⟨Batch.slot_withState_of_ne _ _ hj.symm, by simp, .inl rfl⟩
      · simp only [WorkerPoint.step, Batch.exchange_of_ne _ posted] at hs
        cases hs
        exact ⟨rfl, by simp, .inl rfl⟩
    | leaving =>
      simp only [WorkerPoint.step, Batch.acknowledge_eq] at hs
      split at hs
      · next batch heq =>
        cases hs
        split at heq
        · cases heq
          exact ⟨Batch.slot_withState_of_ne _ _ hj.symm, by simp, .inl rfl⟩
        · cases heq
      · cases hs
        exact ⟨rfl, by simp, .inl rfl⟩

/-- A worker's step keeps the number of workers. -/
theorem step_workers (hs : p.step d w = some (e, q, o)) : e.workers = d.workers := by
  rw [WorkerPoint.dispatch_step hs]

theorem owner_congr (h : e.workers = d.workers) : e.owner i = d.owner i := by
  rw [Dispatch.owner, Dispatch.owner, h]

theorem owned_congr (h : e.workers = d.workers) : e.owned w = d.owned w := by
  rw [Dispatch.owned, Dispatch.owned, h]

/-- The traffic after a step of a worker. -/
def afterWorker (t : Traffic κ n) (w : Nat) (d : Dispatch n) (p : WorkerPoint n)
    (o : List (ServiceEvent n)) : Traffic κ n :=
  ({ t with dispatch := d }.putWorker w p).record (o.map (.service w))

omit [DecidableEq κ] in
/-- The service at a slot after a step of its owner, or of another worker. -/
theorem serviceAt_afterWorker (workers : e.workers = t.dispatch.workers) :
    (t.afterWorker w e q o).serviceAt i =
      if t.dispatch.owner i = w then q.serviceAt i else t.serviceAt i := by
  change WorkerPoint.serviceAt i (if e.owner i = w then q else t.workers (e.owner i)) = _
  rw [owner_congr workers]
  split <;> rfl

/-- Where a caller stands after a step of a worker, from what the step made of its slot and of the
service there. -/
theorem inRound_afterWorker {whole : List Round} {current : List RoundEvent}
    (new : List RoundEvent)
    (hist : t.roundsOf slotOf k = whole.flatMap Round.events ++ current)
    (events : (o.map (TrafficEvent.service w)).filterMap (TrafficEvent.inRounds? slotOf k) = new)
    (stage : RoundStage (e.batch.slot (slotOf k)) (t.callers k)
      ((t.afterWorker w e q o).serviceAt (slotOf k)) (current ++ new)) :
    (t.afterWorker w e q o).InRound slotOf k := by
  refine ⟨whole, current ++ new, ?_, stage⟩
  rw [afterWorker, roundsOf_record, events, ← List.append_assoc, ← hist]
  rfl

/-- A worker that is not at the slot of a caller takes its round on only by coming there. -/
theorem InRound.away (h : t.InRound slotOf k)
    (away : ∀ point pass, t.workers w ≠ .serving (slotOf k) point pass)
    (hs : (t.workers w).step t.dispatch w = some (e, q, o)) :
    (t.afterWorker w e q o).InRound slotOf k := by
  obtain ⟨whole, current, hist, stage⟩ := h
  obtain ⟨slot, events, service⟩ := step_away away hs
  have quiet : (o.map (TrafficEvent.service (κ := κ) w)).filterMap
      (TrafficEvent.inRounds? slotOf k) = [] := by
    rw [List.filterMap_eq_nil_iff]
    intro event he
    obtain ⟨event, he', rfl⟩ := List.mem_map.1 he
    obtain ⟨j, job, rfl, hj⟩ := events event he'
    simp [TrafficEvent.inRounds?, hj]
  apply inRound_afterWorker [] hist quiet
  rw [slot, List.append_nil, serviceAt_afterWorker (step_workers hs)]
  by_cases own : t.dispatch.owner (slotOf k) = w
  · rw [if_pos own]
    have before : t.serviceAt (slotOf k) = none := by
      rw [serviceAt, own]
      cases hp : t.workers w with
      | serving j point pass =>
        exact serviceAt_serving_of_ne _ _ fun hj => away point pass (hj ▸ hp)
      | between | passing | gone => rfl
    rw [before] at stage
    rcases service with after | ⟨after, posted⟩
    · rw [after]
      exact stage
    · rw [after]
      exact stage.begin posted
  · rw [if_neg own]
    exact stage

/-- The owner of a caller's slot, at that slot, takes the round on. -/
theorem InRound.serving {point : ServicePoint} {pass : Pass n} (h : t.InRound slotOf k)
    (own : t.dispatch.owner (slotOf k) = w)
    (at_ : t.workers w = .serving (slotOf k) point pass)
    (hs : (t.workers w).step t.dispatch w = some (e, q, o)) :
    (t.afterWorker w e q o).InRound slotOf k := by
  obtain ⟨whole, current, hist, stage⟩ := h
  have after := serviceAt_afterWorker (i := slotOf k) (q := q) (o := o) (w := w) (step_workers hs)
  rw [if_pos own] at after
  rw [serviceAt, own, at_] at stage
  rw [at_] at hs
  cases point with
  | reading found =>
    rw [serviceAt_serving_self (by simp)] at stage
    obtain ⟨job, hp, posted, carries, agrees, rfl⟩ := stage.of_reading
    cases hs
    rcases carries.read agrees with ⟨next, read, agrees⟩ | read
    · rw [read] at after ⊢
      rw [serviceAt_serving_self (by simp)] at after
      apply inRound_afterWorker [] hist rfl
      rw [after, hp]
      exact .reading posted carries agrees
    · rw [read] at after ⊢
      rw [serviceAt_serving_self (by simp)] at after
      refine inRound_afterWorker [.called job] hist
        (by simp [WorkerPoint.calls, TrafficEvent.inRounds?]) ?_
      rw [after, hp]
      exact .calling posted
  | calling job => cases hs
  | storing code =>
    rw [serviceAt_serving_self (by simp)] at stage
    obtain ⟨job, reply, hp, posted, rfl, rfl⟩ := stage.of_storing_code
    cases hs
    rw [serviceAt_serving_self (by simp)] at after
    apply inRound_afterWorker [] hist rfl
    rw [after, hp]
    change RoundStage ((t.dispatch.batch.put (slotOf k) _).slot (slotOf k)) _ _ _
    rw [Batch.slot_put_self]
    exact .stored posted (ResultCode.ofInt_toInt _)
  | handing =>
    rw [serviceAt_serving_self (by simp)] at stage
    obtain ⟨job, reply, hp, posted, result, rfl⟩ := stage.of_handing
    simp only [WorkerPoint.step, Batch.exchange_of_eq _ posted] at hs
    cases hs
    apply inRound_afterWorker [] hist rfl
    rw [after, hp]
    change RoundStage ((t.dispatch.batch.withState (slotOf k) _).slot (slotOf k)) _ _ _
    rw [Batch.slot_withState_self]
    exact .served (by simp) result
  | leaving =>
    simp only [WorkerPoint.step, Batch.acknowledge_eq] at hs
    by_cases asked : t.dispatch.batch.state (slotOf k) = .exitAsked
    · rw [if_pos asked] at hs
      cases hs
      apply inRound_afterWorker [] hist rfl
      rw [after, List.append_nil]
      change RoundStage ((t.dispatch.batch.withState (slotOf k) _).slot (slotOf k)) _ _ _
      rw [Batch.slot_withState_self]
      refine stage.withState ?_ (by simp)
      change t.dispatch.batch.state (slotOf k) ≠ .posted
      simp [asked]
    · rw [if_neg asked] at hs
      cases hs
      apply inRound_afterWorker [] hist rfl
      rw [after, List.append_nil]
      exact stage

theorem within_congr (workers : e.workers = d.workers) (h : p.Within d w) : p.Within e w := by
  cases p with
  | gone => trivial
  | between =>
    simp only [WorkerPoint.Within] at h ⊢
    rw [workers]
    exact h
  | passing | serving =>
    simp only [WorkerPoint.Within] at h ⊢
    rw [workers, owned_congr workers]
    exact h

/-- A worker that keeps to its slots goes on to do so. -/
theorem within_step (h : p.Within d w) (hs : p.step d w = some (e, q, o)) : q.Within e w := by
  have workers := step_workers hs
  apply within_congr workers
  cases p with
  | between => cases hs; exact ⟨h, List.suffix_rfl⟩
  | gone => cases hs
  | passing pass =>
    obtain ⟨mark, rest⟩ := pass
    obtain ⟨hw, rest_le⟩ := h
    cases rest with
    | nil => cases hs; exact hw
    | cons i rest =>
      have rest_le' : rest <:+ d.owned w := (List.suffix_cons i rest).trans rest_le
      simp only [WorkerPoint.step] at hs
      split at hs
      · cases hs
        cases d.batch.state i with
        | posted => exact ⟨hw, rest_le⟩
        | exitAsked =>
          simp only [WorkerPoint.look]
          split
          · exact ⟨hw, rest_le⟩
          · exact ⟨hw, rest_le'⟩
        | unused | waiting | exitSeen => exact ⟨hw, rest_le'⟩
      · cases hs; exact hw
  | serving i point pass =>
    obtain ⟨hw, rest_le⟩ := h
    have rest_le' : pass.rest <:+ d.owned w := (List.suffix_cons i pass.rest).trans rest_le
    cases point with
    | reading | storing => cases hs; exact ⟨hw, rest_le⟩
    | calling => cases hs
    | handing =>
      simp only [WorkerPoint.step] at hs
      split at hs <;> cases hs <;> exact ⟨hw, rest_le'⟩
    | leaving =>
      simp only [WorkerPoint.step] at hs
      split at hs <;> cases hs
      · trivial
      · exact ⟨hw, rest_le'⟩

/-- A worker that keeps to its slots is at a slot only if it owns it. -/
theorem owner_of_within {point : ServicePoint} {pass : Pass n}
    (h : (WorkerPoint.serving i point pass).Within d w) : d.owner i = w :=
  Dispatch.owner_eq_of_mem h.1 (h.2.subset List.mem_cons_self)

end Worker

/-! ## Moves of everybody -/

/-- The answer of a handler is an answer to the job that it was called with. -/
theorem InRound.answer {w : Nat} {q : WorkerPoint n} {o : List (ServiceEvent n)} {reply : Reply}
    (h : t.InRound slotOf k) (within : (t.workers w).Within t.dispatch w)
    (hs : (t.workers w).answer reply = some (q, o)) :
    (t.afterWorker w t.dispatch q o).InRound slotOf k := by
  obtain ⟨whole, current, hist, stage⟩ := h
  have after := serviceAt_afterWorker (t := t) (w := w) (q := q) (o := o) (i := slotOf k) rfl
  unfold WorkerPoint.answer at hs
  split at hs
  · next i job pass at_ =>
    cases hs
    rw [at_] at within
    have own := owner_of_within within
    by_cases hi : i = slotOf k
    · subst hi
      rw [serviceAt, own, at_, serviceAt_serving_self (by simp)] at stage
      obtain ⟨hp, posted, rfl⟩ := stage.of_calling
      rw [if_pos own, serviceAt_serving_self (by simp)] at after
      refine inRound_afterWorker [.answered job reply] hist (by simp [TrafficEvent.inRounds?]) ?_
      rw [after, hp]
      exact .answered posted
    · refine inRound_afterWorker [] hist (by simp [TrafficEvent.inRounds?, hi]) ?_
      rw [after, List.append_nil]
      split
      · next own' =>
        rw [serviceAt, own', at_, serviceAt_serving_of_ne _ _ hi] at stage
        rw [serviceAt_serving_of_ne _ _ hi]
        exact stage
      · exact stage
  · cases hs

end Traffic

/-- A thread is started only for a worker of the dispatch. -/
def TrafficMove.Hires {κ : Type} {n : Nat} (t : Traffic κ n) : TrafficMove κ n → Prop
  | .spawn w => w < t.dispatch.workers
  | _ => True

namespace Traffic

/-- Every worker goes on to keep to its slots. -/
theorem within_of_step {κ : Type} [DecidableEq κ] {n : Nat} {slotOf : κ → Fin n} {t u : Traffic κ n}
    {m : TrafficMove κ n} (h : ∀ w, (t.workers w).Within t.dispatch w) (hires : m.Hires t)
    (hs : t.step slotOf m = some u) (w : Nat) : (u.workers w).Within u.dispatch w := by
  have workers := workers_step hs
  cases step_worker hs w with
  | same _ point =>
    rw [point]
    exact within_congr workers (h w)
  | stepped _ step => exact within_step (h w) step
  | answered _ dispatch answer =>
    unfold WorkerPoint.answer at answer
    split at answer
    · next serving =>
      have within := h w
      rw [serving] at within
      rw [dispatch, ← (Prod.mk.inj (Option.some.inj answer)).1]
      exact within
    · cases answer
  | spawned move _ point =>
    subst move
    rw [point, WorkerPoint.Within, workers]
    exact hires

/-- **No move disturbs a round**, if each slot has one caller. -/
theorem Sound.step {κ : Type} [DecidableEq κ] {n : Nat} {slotOf : κ → Fin n} {t u : Traffic κ n}
    {m : TrafficMove κ n} (alone : Function.Injective slotOf) (h : t.Sound slotOf)
    (hires : m.Hires t) (hs : t.step slotOf m = some u) : u.Sound slotOf := by
  refine ⟨within_of_step h.within hires hs, fun k => ?_⟩
  cases drives : m.drives with
  | some driven =>
    obtain ⟨i, olds, x⟩ := driven
    rw [step_drives drives] at hs
    split at hs
    · next old =>
      cases hs
      obtain ⟨free, hx⟩ := TrafficMove.drives_not_posted drives
      exact (h.inRound k).drive i (fun posted => free (posted ▸ old)) hx
    · cases hs
  | none =>
  cases m with
  | request j job =>
    simp only [Traffic.step] at hs
    split at hs
    · next between =>
      cases hs
      exact (h.inRound k).request j job between
    · cases hs
  | caller j =>
    obtain ⟨⟨s, p, events⟩, hp, rfl⟩ := Option.map_eq_some_iff.1 hs
    by_cases hk : k = j
    · subst hk
      exact (h.inRound k).own hp
    · exact (h.inRound k).other hk fun same => hk (alone same)
  | worker w =>
    obtain ⟨⟨d, p, events⟩, hp, rfl⟩ := Option.map_eq_some_iff.1 hs
    by_cases at_ : ∃ point pass, t.workers w = .serving (slotOf k) point pass
    · obtain ⟨point, pass, at_⟩ := at_
      have own := owner_of_within (at_ ▸ h.within w)
      exact (h.inRound k).serving own at_ hp
    · exact (h.inRound k).away (fun point pass e => at_ ⟨point, pass, e⟩) hp
  | answer w reply =>
    obtain ⟨⟨p, events⟩, hp, rfl⟩ := Option.map_eq_some_iff.1 hs
    exact (h.inRound k).answer (h.within w) hp
  | spawn w =>
    simp only [Traffic.step] at hs
    split at hs
    · next gone =>
      cases hs
      refine (h.inRound k).frame rfl rfl rfl ?_
      change WorkerPoint.serviceAt _ (if t.dispatch.owner (slotOf k) = w then .between else _) = _
      split
      · next own => rw [serviceAt, own, gone]; rfl
      · rfl
    · cases hs
  | mark highWater =>
    cases hs
    exact (h.inRound k).frame rfl rfl rfl rfl
  | claim | release | askExit | finishExit => cases drives

end Traffic

end PluginBridge
