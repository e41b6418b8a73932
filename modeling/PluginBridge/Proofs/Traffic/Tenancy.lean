import PluginBridge.Proofs.Traffic.Runs

/-!
# Clients that keep their slots

While clients hold slots, the engine is considerate: it releases other slots only, keeps the
high-water mark above every claimed slot, and asks a worker to exit only if none of the worker's
slots is claimed. `Tended` says what this comes to: the slots of the clients stay claimed, every
pass of a worker gets to them, and their workers stay.
-/

namespace PluginBridge

variable {κ : Type} [DecidableEq κ] {n : Nat}

/-- What may happen while clients hold their slots. A slot that is released is no client's, a worker
that is asked to exit has no claimed slot, the high-water mark stays above every claimed slot, and
only workers of the dispatch are started. -/
def TrafficMove.Considerate (slotOf : κ → Fin n) (t : Traffic κ n) : TrafficMove κ n → Prop
  | .release i => ∀ k, slotOf k ≠ i
  | .askExit i => t.dispatch.ownedInUse i = false
  | .mark highWater => ∀ i, t.dispatch.batch.inUse i → i.val < highWater
  | .spawn w => w < t.dispatch.workers
  | _ => True

namespace Traffic

/-- Nobody is doing anything. Each client has a claimed slot of its own below the high-water mark;
the other slots are claimed or not. -/
structure Opening (slotOf : κ → Fin n) (t : Traffic κ n) : Prop where
  alone : Function.Injective slotOf
  callers : ∀ k, t.callers k = .between
  workers : ∀ w, t.workers w = .gone ∨ t.workers w = .between ∧ w < t.dispatch.workers
  states : ∀ i, t.dispatch.batch.state i = .unused ∨ t.dispatch.batch.state i = .waiting
  claimed : ∀ k, t.dispatch.batch.state (slotOf k) = .waiting
  below : ∀ k, (slotOf k).val < t.dispatch.highWater
  history : t.history = []

end Traffic

/-- A worker whose pass, if it is on one, gets as far as a slot. -/
def WorkerPoint.Sees (i : Fin n) : WorkerPoint n → Prop
  | .passing pass | .serving _ _ pass => i.val < pass.highWater
  | .between | .gone => True

namespace Traffic

/-- What holds while clients keep their slots. -/
structure Tended (slotOf : κ → Fin n) (t : Traffic κ n) : Prop where
  sound : t.Sound slotOf
  claimed : ∀ k, t.dispatch.batch.state (slotOf k) = .waiting ∨
    t.dispatch.batch.state (slotOf k) = .posted
  below : ∀ k, (slotOf k).val < t.dispatch.highWater
  sees : ∀ w k, (t.workers w).Sees (slotOf k)
  /-- A worker with a client is not asked to exit. -/
  unasked : ∀ k (i : Fin n), slotOf k ∈ t.dispatch.owned i → t.dispatch.batch.state i ≠ .exitAsked
  /-- A worker with a client is not about to exit. -/
  stays : ∀ k w i pass, t.workers w = .serving i .leaving pass → slotOf k ∉ t.dispatch.owned w
  accepted : ∀ k job found, .request k (.rejected job found) ∉ t.history

variable {slotOf : κ → Fin n} {t u : Traffic κ n} {m : TrafficMove κ n} {k : κ}

theorem Opening.tended (h : t.Opening slotOf) : t.Tended slotOf where
  sound.within w := by
    rcases h.workers w with gone | ⟨between, hw⟩
    · rw [gone]; trivial
    · rw [between]; exact hw
  sound.inRound k := by
    refine ⟨[], [], by rw [roundsOf, h.history]; rfl, ?_⟩
    have service : t.serviceAt (slotOf k) = none := by
      rcases h.workers (t.dispatch.owner (slotOf k)) with gone | ⟨between, -⟩
      · rw [serviceAt, gone]; rfl
      · rw [serviceAt, between]; rfl
    rw [h.callers k, service]
    apply RoundStage.idle
    rw [show (t.dispatch.batch.slot (slotOf k)).state = .waiting from h.claimed k]
    simp
  claimed k := .inl (h.claimed k)
  below := h.below
  sees w k := by
    rcases h.workers w with gone | ⟨between, -⟩
    · rw [gone]; trivial
    · rw [between]; trivial
  unasked k i _ := by
    rcases h.states i with state | state <;> simp [state]
  stays k w i pass leaving := by
    rcases h.workers w with gone | ⟨between, -⟩
    · simp [gone] at leaving
    · simp [between] at leaving
  accepted k job found := by simp [h.history]

omit [DecidableEq κ] in
theorem hires_of_considerate (h : m.Considerate slotOf t) : m.Hires t := by
  cases m <;> first | exact h | trivial

/-- A worker none of whose slots is claimed has no client. -/
theorem Tended.not_mem_owned (h : t.Tended slotOf) {w : Nat}
    (free : t.dispatch.ownedInUse w = false) : slotOf k ∉ t.dispatch.owned w := by
  intro mem
  have unused := List.any_eq_false.1 free _ mem
  rcases h.claimed k with state | state <;> simp [Batch.inUse, state] at unused

/-- The engine does not drive a client's slot. -/
theorem Tended.not_driven (h : t.Tended slotOf) (ok : m.Considerate slotOf t) {i : Fin n}
    {olds : List SlotState} {x : SlotState} (drives : m.drives = some (i, olds, x))
    (old : t.dispatch.batch.state i ∈ olds) : slotOf k ≠ i := by
  rintro rfl
  cases m with
  | claim | finishExit =>
    cases drives
    rcases h.claimed k with state | state <;> simp [state] at old
  | release =>
    cases drives
    exact ok k rfl
  | askExit =>
    cases drives
    apply h.not_mem_owned (k := k) ok
    rw [Dispatch.mem_owned]
    simp
  | request | caller | worker | answer | spawn | mark => cases drives

/-- The slot of a client stays claimed. -/
theorem Tended.claimed_step (h : t.Tended slotOf) (ok : m.Considerate slotOf t)
    (hs : t.step slotOf m = some u) :
    u.dispatch.batch.state (slotOf k) = .waiting ∨ u.dispatch.batch.state (slotOf k) = .posted := by
  have old := h.claimed k
  have change := step_state hs (slotOf k)
  generalize hx : t.dispatch.batch.state (slotOf k) = x at old change
  generalize u.dispatch.batch.state (slotOf k) = y at change ⊢
  cases change with
  | same => exact old
  | posted => exact .inr rfl
  | served => exact .inl rfl
  | exited => simp at old
  | driven drives mem =>
    subst hx
    exact absurd rfl (h.not_driven ok drives mem)

/-- A slot whose worker has a client is not asked for an exit. -/
theorem Tended.unasked_step (h : t.Tended slotOf) (ok : m.Considerate slotOf t)
    (hs : t.step slotOf m = some u) (i : Fin n) (mem : slotOf k ∈ t.dispatch.owned i) :
    u.dispatch.batch.state i ≠ .exitAsked := by
  have old := h.unasked k i mem
  have change := step_state hs i
  generalize t.dispatch.batch.state i = x at old change
  generalize u.dispatch.batch.state i = y at change ⊢
  cases change with
  | same => exact old
  | posted | served | exited => simp
  | driven drives _ =>
    cases m with
    | claim | release | finishExit => cases drives; simp
    | askExit =>
      cases drives
      exact absurd mem (h.not_mem_owned ok)
    | request | caller | worker | answer | spawn | mark => cases drives

section Worker

variable {w : Nat} {p q : WorkerPoint n} {d e : Dispatch n} {o : List (ServiceEvent n)}

/-- A pass goes as far as the mark stood when it began. -/
theorem sees_step {i : Fin n} (h : p.Sees i) (below : i.val < d.highWater)
    (hs : p.step d w = some (e, q, o)) : q.Sees i := by
  cases p with
  | between => cases hs; exact below
  | gone => cases hs
  | passing pass =>
    obtain ⟨mark, rest⟩ := pass
    cases rest with
    | nil => cases hs; trivial
    | cons j rest =>
      simp only [WorkerPoint.step] at hs
      split at hs
      · cases hs
        cases d.batch.state j with
        | exitAsked =>
          simp only [WorkerPoint.look]
          split <;> exact h
        | posted | unused | waiting | exitSeen => exact h
      · cases hs; trivial
  | serving j point pass =>
    cases point with
    | reading | storing => cases hs; exact h
    | calling => cases hs
    | handing =>
      simp only [WorkerPoint.step] at hs
      split at hs <;> cases hs <;> exact h
    | leaving =>
      simp only [WorkerPoint.step] at hs
      split at hs <;> cases hs
      · trivial
      · exact h

theorem sees_answer {i : Fin n} {reply : Reply} (h : p.Sees i) (ha : p.answer reply = some (q, o)) :
    q.Sees i := by
  unfold WorkerPoint.answer at ha
  split at ha <;> cases ha
  exact h

/-- Reading a job does not lead to an exit. -/
theorem read_ne_leaving (s : Slot) (found : JobReading) :
    WorkerPoint.read s found ≠ .leaving := by
  cases found with
  | nothing =>
    simp only [WorkerPoint.read]
    split <;> simp
  | handle | event | count => simp [WorkerPoint.read]

/-- A worker is about to exit once it has seen the request to, at its first slot. -/
theorem leaving_step {i : Fin n} {pass : Pass n} (hs : p.step d w = some (e, q, o))
    (hq : q = .serving i .leaving pass) : i.val = w ∧ d.batch.state i = .exitAsked := by
  subst hq
  cases p with
  | between | gone => cases hs
  | passing before =>
    obtain ⟨mark, rest⟩ := before
    cases rest with
    | nil => cases hs
    | cons j rest =>
      simp only [WorkerPoint.step] at hs
      split at hs
      · have look : WorkerPoint.look w j ⟨mark, rest⟩ (d.batch.state j) =
            .serving i .leaving pass := by simpa using congrArg (fun x => x.2.1) (Option.some.inj hs)
        cases state : d.batch.state j with
        | exitAsked =>
          rw [state] at look
          simp only [WorkerPoint.look] at look
          split at look
          · next hj => cases look; exact ⟨hj, state⟩
          · cases look
        | posted | unused | waiting | exitSeen =>
          rw [state] at look
          cases look
      · cases hs
  | serving j point before =>
    cases point with
    | reading found =>
      have next : WorkerPoint.serving j (WorkerPoint.read (d.batch.slot j) found) before =
          .serving i .leaving pass := congrArg (fun x => x.2.1) (Option.some.inj hs)
      exact absurd (WorkerPoint.serving.inj next).2.1 (read_ne_leaving _ _)
    | storing | calling => cases hs
    | handing =>
      simp only [WorkerPoint.step] at hs
      split at hs <;> cases hs
    | leaving =>
      simp only [WorkerPoint.step] at hs
      split at hs <;> cases hs

end Worker

/-- A caller whose slot is waiting when it posts its job is accepted. -/
theorem Tended.not_rejected (h : t.Tended slotOf) {s : Slot} {p : CallerPoint}
    {events : List RequestEvent} {job : Job} {found : SlotState}
    (hs : (t.callers k).step (t.dispatch.batch.slot (slotOf k)) = some (s, p, events)) :
    .rejected job found ∉ events := by
  cases point : t.callers k with
  | between => simp [point, CallerPoint.step] at hs
  | storing job rest =>
    rw [point] at hs
    cases rest with
    | cons cell rest => cases hs; simp
    | nil =>
      obtain ⟨_, _, _, stage⟩ := h.sound.inRound k
      rw [point] at stage
      have waiting := (h.claimed k).resolve_right stage.of_storing.1
      rw [CallerPoint.step_posting_of_waiting waiting] at hs
      cases hs
      simp
  | watching | collecting => rw [point] at hs; cases hs; simp

/-- **Considerate moves keep the clients tended.** -/
theorem Tended.step (alone : Function.Injective slotOf) (h : t.Tended slotOf)
    (ok : m.Considerate slotOf t) (hs : t.step slotOf m = some u) : u.Tended slotOf where
  sound := h.sound.step alone (hires_of_considerate ok) hs
  claimed k := h.claimed_step ok hs
  below k := by
    rcases step_dispatch hs with same | ⟨highWater, rfl, marked⟩
    · rw [same]
      exact h.below k
    · rw [marked]
      apply ok (slotOf k)
      rcases h.claimed k with state | state <;> simp [Batch.inUse, state]
  sees w k := by
    cases step_worker hs w with
    | same _ point => rw [point]; exact h.sees w k
    | stepped _ step => exact sees_step (h.sees w k) (h.below k) step
    | answered _ _ answer => exact sees_answer (h.sees w k) answer
    | spawned _ _ point => rw [point]; trivial
  unasked k i mem := h.unasked_step ok hs i (by rwa [owned_congr (workers_step hs)] at mem)
  stays k w i pass leaving mem := by
    rw [owned_congr (workers_step hs)] at mem
    cases step_worker hs w with
    | same _ point => exact h.stays k w i pass (point ▸ leaving) mem
    | stepped _ step =>
      obtain ⟨first, asked⟩ := leaving_step step leaving
      exact h.unasked k i (first ▸ mem) asked
    | answered _ _ answer =>
      rw [leaving] at answer
      exact absurd answer (by unfold WorkerPoint.answer; split <;> simp)
    | spawned _ _ point => simp [point] at leaving
  accepted k job found new := by
    rcases request_of_step hs new with old | ⟨s, p, events, rfl, mem, step⟩
    · exact h.accepted k job found old
    · exact h.not_rejected step mem

end Traffic

end PluginBridge
