import PluginBridge.Proofs.Slot.States
import PluginBridge.Traffic

/-!
# What a move does to the states of the slots

Claiming, releasing, asking for an exit and finishing one are the same move with other values: the
state of one slot goes from one of a few values to another. `TrafficMove.drives` gives these values,
and `step_drives` says that such a move does this and nothing else. `step_state` lists everything
that a move of anybody can do to the state of a slot.
-/

namespace PluginBridge

/-- The slot that a move of the engine drives, the states that it drives it from, and the one that
it drives it to. -/
def TrafficMove.drives {κ : Type} {n : Nat} :
    TrafficMove κ n → Option (Fin n × List SlotState × SlotState)
  | .claim i => some (i, [.unused], .waiting)
  | .release i => some (i, [.waiting], .unused)
  | .askExit i => some (i, [.unused, .waiting], .exitAsked)
  | .finishExit i => some (i, [.exitSeen], .unused)
  | _ => none

/-- The engine leaves a posted slot alone, and it posts none. -/
theorem TrafficMove.drives_not_posted {κ : Type} {n : Nat} {m : TrafficMove κ n} {i : Fin n}
    {olds : List SlotState} {x : SlotState} (hm : m.drives = some (i, olds, x)) :
    SlotState.posted ∉ olds ∧ x ≠ .posted := by
  cases m with
  | claim | release | askExit | finishExit => cases hm; simp
  | request | caller | worker | answer | spawn | mark => cases hm

/-- A move of the engine changes the state of its slot, if that has one of the right values. -/
theorem Traffic.step_drives {κ : Type} [DecidableEq κ] {n : Nat} {slotOf : κ → Fin n}
    {t : Traffic κ n} {m : TrafficMove κ n} {i : Fin n} {olds : List SlotState} {x : SlotState}
    (hm : m.drives = some (i, olds, x)) :
    t.step slotOf m =
      if t.dispatch.batch.state i ∈ olds then some (t.putBatch (t.dispatch.batch.withState i x))
      else none := by
  cases m with
  | claim j =>
    cases hm
    simp only [step, attempt, Batch.claim_eq, List.mem_singleton]
    split <;> rfl
  | release j =>
    cases hm
    simp only [step, attempt, Batch.release_eq, List.mem_singleton]
    split <;> rfl
  | askExit j =>
    cases hm
    simp only [step, attempt, Batch.askExit, Batch.drive_eq]
    split <;> rfl
  | finishExit j =>
    cases hm
    simp only [step, attempt, Batch.finishExit, Batch.drive_eq]
    split <;> rfl
  | request | caller | worker | answer | spawn | mark => cases hm

/-! ## How a move changes the state of a slot -/

/-- A step of a caller changes the state of its slot only when it posts its job. -/
theorem CallerPoint.state_step {s s' : Slot} {p q : CallerPoint} {events : List RequestEvent}
    (hs : p.step s = some (s', q, events)) :
    s'.state = s.state ∨ ∃ job, p = .storing job [] ∧ s.state = .waiting ∧ s'.state = .posted := by
  cases p with
  | between => cases hs
  | storing job rest =>
    cases rest with
    | cons cell rest => cases hs; exact .inl (Slot.state_store s cell)
    | nil =>
      by_cases waiting : s.state = .waiting
      · rw [step_posting_of_waiting waiting] at hs
        cases hs
        exact .inr ⟨job, rfl, waiting, rfl⟩
      · rw [step_posting_of_ne waiting] at hs
        cases hs
        exact .inl rfl
  | watching job => cases hs; exact .inl rfl
  | collecting job => cases hs; exact .inl rfl

/-- A step of a worker hands a slot back, or acknowledges the request to exit, or keeps all
states. -/
theorem WorkerPoint.state_step {n : Nat} {d e : Dispatch n} {w : Nat} {p q : WorkerPoint n}
    {o : List (ServiceEvent n)} (hs : p.step d w = some (e, q, o)) (i : Fin n) :
    e.batch.state i = d.batch.state i ∨
      (∃ pass, p = .serving i .handing pass) ∧
        d.batch.state i = .posted ∧ e.batch.state i = .waiting ∨
      d.batch.state i = .exitAsked ∧ e.batch.state i = .exitSeen := by
  cases p with
  | between => cases hs; exact .inl rfl
  | gone => cases hs
  | passing pass =>
    obtain ⟨mark, rest⟩ := pass
    cases rest with
    | nil => cases hs; exact .inl rfl
    | cons j rest =>
      simp only [step] at hs
      split at hs <;> cases hs <;> exact .inl rfl
  | serving j point pass =>
    cases point with
    | reading found => cases hs; exact .inl rfl
    | calling job => cases hs
    | storing code =>
      cases hs
      left
      by_cases hj : i = j
      · subst hj
        simp [Batch.state]
      · simp [Batch.state, Batch.slot_put_of_ne _ _ hj]
    | handing =>
      by_cases posted : d.batch.state j = .posted
      · simp only [step, Batch.exchange_of_eq _ posted] at hs
        cases hs
        by_cases hj : i = j
        · subst hj
          exact .inr (.inl ⟨⟨pass, rfl⟩, posted, Batch.state_withState_self _ _ _⟩)
        · exact .inl (Batch.state_withState_of_ne _ _ hj)
      · simp only [step, Batch.exchange_of_ne _ posted] at hs
        cases hs
        exact .inl rfl
    | leaving =>
      simp only [step, Batch.acknowledge_eq] at hs
      by_cases asked : d.batch.state j = .exitAsked
      · rw [if_pos asked] at hs
        cases hs
        by_cases hj : i = j
        · subst hj
          exact .inr (.inr ⟨asked, Batch.state_withState_self _ _ _⟩)
        · exact .inl (Batch.state_withState_of_ne _ _ hj)
      · rw [if_neg asked] at hs
        cases hs
        exact .inl rfl

/-- How a move can change the state of a slot. -/
inductive StateChange {κ : Type} {n : Nat} (slotOf : κ → Fin n) (t : Traffic κ n)
    (m : TrafficMove κ n) (i : Fin n) : SlotState → SlotState → Prop where
  | same (x : SlotState) : StateChange slotOf t m i x x
  | posted {k : κ} {job : Job} (move : m = .caller k) (slot : slotOf k = i)
      (point : t.callers k = .storing job []) : StateChange slotOf t m i .waiting .posted
  | served {w : Nat} {pass : Pass n} (move : m = .worker w)
      (point : t.workers w = .serving i .handing pass) : StateChange slotOf t m i .posted .waiting
  | exited : StateChange slotOf t m i .exitAsked .exitSeen
  | driven {olds : List SlotState} {x y : SlotState} (drives : m.drives = some (i, olds, y))
      (old : x ∈ olds) : StateChange slotOf t m i x y

/-- Every move changes the state of every slot in one of these ways. -/
theorem Traffic.step_state {κ : Type} [DecidableEq κ] {n : Nat} {slotOf : κ → Fin n}
    {t u : Traffic κ n} {m : TrafficMove κ n} (hs : t.step slotOf m = some u) (i : Fin n) :
    StateChange slotOf t m i (t.dispatch.batch.state i) (u.dispatch.batch.state i) := by
  cases drives : m.drives with
  | some driven =>
    obtain ⟨j, olds, x⟩ := driven
    rw [step_drives drives] at hs
    split at hs
    · next old =>
      cases hs
      change StateChange slotOf t m i _ ((t.dispatch.batch.withState j x).state i)
      by_cases hj : i = j
      · subst hj
        rw [Batch.state_withState_self]
        exact .driven drives old
      · rw [Batch.state_withState_of_ne _ _ hj]
        exact .same _
    · cases hs
  | none =>
  cases m with
  | request j job =>
    simp only [step] at hs
    split at hs <;> cases hs
    exact .same _
  | caller j =>
    obtain ⟨⟨s, p, events⟩, hp, rfl⟩ := Option.map_eq_some_iff.1 hs
    change StateChange slotOf t _ i _ ((t.dispatch.batch.put (slotOf j) s).state i)
    by_cases hj : i = slotOf j
    · subst hj
      simp only [Batch.state, Batch.slot_put_self]
      rcases CallerPoint.state_step hp with same | ⟨job, point, waiting, posted⟩
      · rw [same]
        exact .same _
      · rw [waiting, posted]
        exact .posted rfl rfl point
    · simp only [Batch.state, Batch.slot_put_of_ne _ _ hj]
      exact .same _
  | worker w =>
    obtain ⟨⟨d, p, events⟩, hp, rfl⟩ := Option.map_eq_some_iff.1 hs
    change StateChange slotOf t _ i _ (d.batch.state i)
    rcases WorkerPoint.state_step hp i with same | ⟨⟨pass, handing⟩, posted, waiting⟩ | ⟨asked, seen⟩
    · rw [same]
      exact .same _
    · rw [posted, waiting]
      exact .served rfl handing
    · rw [asked, seen]
      exact .exited
  | answer w reply =>
    obtain ⟨⟨p, events⟩, hp, rfl⟩ := Option.map_eq_some_iff.1 hs
    exact .same _
  | spawn w =>
    simp only [step] at hs
    split at hs <;> cases hs
    exact .same _
  | mark highWater =>
    cases hs
    exact .same _
  | claim | release | askExit | finishExit => cases drives

/-! ## What else a move changes -/

/-- A move of a worker, or of the handler that it waits for. -/
def TrafficMove.byWorker {κ : Type} {n : Nat} (w : Nat) : TrafficMove κ n → Bool
  | .worker v => v == w
  | .answer v _ => v == w
  | _ => false

/-- A step of a caller on its request. -/
def TrafficMove.byCaller {κ : Type} [DecidableEq κ] {n : Nat} (k : κ) : TrafficMove κ n → Bool
  | .caller j => j == k
  | _ => false

/-- How a move can change the point of a worker. -/
inductive WorkerChange {κ : Type} {n : Nat} (t u : Traffic κ n) (m : TrafficMove κ n) (w : Nat) :
    Prop where
  | same (other : m.byWorker w = false) (point : u.workers w = t.workers w)
  | stepped {o : List (ServiceEvent n)} (move : m = .worker w)
      (step : (t.workers w).step t.dispatch w = some (u.dispatch, u.workers w, o))
  | answered {reply : Reply} {o : List (ServiceEvent n)} (move : m = .answer w reply)
      (dispatch : u.dispatch = t.dispatch)
      (answer : (t.workers w).answer reply = some (u.workers w, o))
  | spawned (move : m = .spawn w) (gone : t.workers w = .gone) (point : u.workers w = .between)

/-- How a move can change the point of a caller. -/
inductive CallerChange {κ : Type} [DecidableEq κ] {n : Nat} (slotOf : κ → Fin n) (t u : Traffic κ n)
    (m : TrafficMove κ n) (k : κ) : Prop where
  | same (other : m.byCaller k = false) (point : u.callers k = t.callers k)
  | began {job : Job} (move : m = .request k job) (between : t.callers k = .between)
      (point : u.callers k = .start job)
  | stepped {s : Slot} {events : List RequestEvent} (move : m = .caller k)
      (step : (t.callers k).step (t.dispatch.batch.slot (slotOf k)) =
        some (s, u.callers k, events))
      (history : u.history = t.history ++ events.map (.request k))

section

variable {κ : Type} [DecidableEq κ] {n : Nat} {slotOf : κ → Fin n} {t u : Traffic κ n}
  {m : TrafficMove κ n}

/-- A worker changes nothing of what it shares but the batch. -/
theorem WorkerPoint.dispatch_step {d e : Dispatch n} {w : Nat} {p q : WorkerPoint n}
    {o : List (ServiceEvent n)} (hs : p.step d w = some (e, q, o)) :
    e = { d with batch := e.batch } := by
  unfold WorkerPoint.step at hs
  split at hs <;> try split at hs
  all_goals cases hs <;> rfl

/-- Every move changes the point of every worker in one of these ways. -/
theorem Traffic.step_worker (hs : t.step slotOf m = some u) (w : Nat) : WorkerChange t u m w := by
  cases drives : m.drives with
  | some driven =>
    rw [step_drives drives] at hs
    split at hs <;> cases hs
    refine .same ?_ rfl
    cases m with
    | claim | release | askExit | finishExit => rfl
    | request | caller | worker | answer | spawn | mark => cases drives
  | none =>
  cases m with
  | request =>
    simp only [step] at hs
    split at hs <;> cases hs
    exact .same rfl rfl
  | caller =>
    obtain ⟨_, _, rfl⟩ := Option.map_eq_some_iff.1 hs
    exact .same rfl rfl
  | worker v =>
    obtain ⟨⟨d, p, o⟩, hp, rfl⟩ := Option.map_eq_some_iff.1 hs
    by_cases hv : w = v
    · subst hv
      exact .stepped rfl (by simpa [record, putWorker] using hp)
    · exact .same (by simp [TrafficMove.byWorker, Ne.symm hv]) (by simp [record, putWorker, hv])
  | answer v reply =>
    obtain ⟨⟨p, o⟩, hp, rfl⟩ := Option.map_eq_some_iff.1 hs
    by_cases hv : w = v
    · subst hv
      exact .answered rfl rfl (by simpa [record, putWorker] using hp)
    · exact .same (by simp [TrafficMove.byWorker, Ne.symm hv]) (by simp [record, putWorker, hv])
  | spawn v =>
    simp only [step] at hs
    split at hs
    · next gone =>
      cases hs
      by_cases hv : w = v
      · subst hv
        exact .spawned rfl gone (by simp)
      · exact .same rfl (by simp [putWorker, hv])
    · cases hs
  | mark => cases hs; exact .same rfl rfl
  | claim | release | askExit | finishExit => cases drives

/-- Every move changes the point of every caller in one of these ways. -/
theorem Traffic.step_caller (hs : t.step slotOf m = some u) (k : κ) :
    CallerChange slotOf t u m k := by
  cases drives : m.drives with
  | some driven =>
    rw [step_drives drives] at hs
    split at hs <;> cases hs
    refine .same ?_ rfl
    cases m with
    | claim | release | askExit | finishExit => rfl
    | request | caller | worker | answer | spawn | mark => cases drives
  | none =>
  cases m with
  | request j job =>
    simp only [step] at hs
    split at hs
    · next between =>
      cases hs
      by_cases hk : k = j
      · subst hk
        exact .began rfl between (callers_putCaller_self _ _ _)
      · exact .same rfl (by simp [putCaller, hk])
    · cases hs
  | spawn =>
    simp only [step] at hs
    split at hs <;> cases hs
    exact .same rfl rfl
  | caller j =>
    obtain ⟨⟨s, p, events⟩, hp, rfl⟩ := Option.map_eq_some_iff.1 hs
    by_cases hk : k = j
    · subst hk
      exact .stepped rfl (by simpa [record, putCaller] using hp) rfl
    · exact .same (by simp [TrafficMove.byCaller, Ne.symm hk])
        (by simp [record, putCaller, putBatch, hk])
  | worker | answer =>
    obtain ⟨_, _, rfl⟩ := Option.map_eq_some_iff.1 hs
    exact .same rfl rfl
  | mark => cases hs; exact .same rfl rfl
  | claim | release | askExit | finishExit => cases drives

/-- A caller goes on watching its slot until it finds it waiting. -/
theorem Traffic.watching_step {k : κ} {job : Job} (hs : t.step slotOf m = some u)
    (watching : t.callers k = .watching job) (busy : t.dispatch.batch.state (slotOf k) ≠ .waiting) :
    u.callers k = .watching job := by
  cases step_caller hs k with
  | same other point => rw [point, watching]
  | began move between point => simp [watching] at between
  | stepped move step =>
    have busy : (t.dispatch.batch.slot (slotOf k)).state ≠ .waiting := busy
    rw [watching] at step
    simp only [CallerPoint.step, if_neg busy, Option.some.injEq, Prod.mk.injEq] at step
    exact step.2.1.symm

/-- Only the engine moves the high-water mark, and nothing else than that and the batch changes of
what the workers share. -/
theorem Traffic.step_dispatch (hs : t.step slotOf m = some u) :
    u.dispatch = { t.dispatch with batch := u.dispatch.batch } ∨
      ∃ highWater, m = .mark highWater ∧ u.dispatch = { t.dispatch with highWater } := by
  cases drives : m.drives with
  | some driven =>
    rw [step_drives drives] at hs
    split at hs <;> cases hs
    exact .inl rfl
  | none =>
  cases m with
  | request | spawn =>
    simp only [step] at hs
    split at hs <;> cases hs
    exact .inl rfl
  | caller | answer =>
    obtain ⟨_, _, rfl⟩ := Option.map_eq_some_iff.1 hs
    exact .inl rfl
  | worker w =>
    obtain ⟨⟨d, p, o⟩, hp, rfl⟩ := Option.map_eq_some_iff.1 hs
    exact .inl (WorkerPoint.dispatch_step hp)
  | mark highWater => cases hs; exact .inr ⟨highWater, rfl, rfl⟩
  | claim | release | askExit | finishExit => cases drives

/-- The workers of the dispatch stay the same. -/
theorem Traffic.workers_step (hs : t.step slotOf m = some u) :
    u.dispatch.workers = t.dispatch.workers := by
  rcases step_dispatch hs with same | ⟨_, _, marked⟩
  · rw [same]
  · rw [marked]

/-- What happens in a move comes after what has happened before. -/
theorem Traffic.step_history (hs : t.step slotOf m = some u) : t.history <+: u.history := by
  cases drives : m.drives with
  | some driven =>
    rw [step_drives drives] at hs
    split at hs <;> cases hs
    exact List.prefix_rfl
  | none =>
  cases m with
  | request | spawn =>
    simp only [step] at hs
    split at hs <;> cases hs
    exact List.prefix_rfl
  | caller | worker | answer =>
    obtain ⟨_, _, rfl⟩ := Option.map_eq_some_iff.1 hs
    exact List.prefix_append _ _
  | mark => cases hs; exact List.prefix_rfl
  | claim | release | askExit | finishExit => cases drives

/-- What is new about a request of a caller comes from a step of this caller. -/
theorem Traffic.request_of_step (hs : t.step slotOf m = some u) {k : κ} {event : RequestEvent}
    (new : .request k event ∈ u.history) :
    .request k event ∈ t.history ∨ ∃ s p events, m = .caller k ∧ event ∈ events ∧
      (t.callers k).step (t.dispatch.batch.slot (slotOf k)) = some (s, p, events) := by
  cases drives : m.drives with
  | some driven =>
    rw [step_drives drives] at hs
    split at hs <;> cases hs
    exact .inl new
  | none =>
  cases m with
  | request | spawn =>
    simp only [step] at hs
    split at hs <;> cases hs
    exact .inl new
  | caller j =>
    obtain ⟨⟨s, p, events⟩, hp, rfl⟩ := Option.map_eq_some_iff.1 hs
    refine (List.mem_append.1 new).imp_right fun mem => ?_
    obtain ⟨_, mem, same⟩ := List.mem_map.1 mem
    cases same
    exact ⟨s, p, events, rfl, mem, hp⟩
  | worker | answer =>
    obtain ⟨_, _, rfl⟩ := Option.map_eq_some_iff.1 hs
    refine .inl ((List.mem_append.1 new).resolve_right fun mem => ?_)
    obtain ⟨_, _, same⟩ := List.mem_map.1 mem
    cases same
  | mark => cases hs; exact .inl new
  | claim | release | askExit | finishExit => cases drives

end

end PluginBridge
