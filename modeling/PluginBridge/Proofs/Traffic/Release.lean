import PluginBridge.Proofs.Traffic.ExactlyOnce

/-!
# A slot that is released under its client

A slot is released only while it is waiting, so a release waits until the job in the slot has been
served. Whether the client has noticed, it cannot tell. A client that has seen the slot waiting
before the release still returns. A client that has not seen it finds the slot unused, keeps looking
and never returns (`Stranded.step`), unless the slot is claimed again: then it takes the first
answer that it sees there for its own (`release_overtakes_return`).
-/

namespace PluginBridge

/-- A caller whose request was accepted and has not returned. -/
def CallerPoint.InFlight : CallerPoint → Prop
  | .watching _ | .collecting _ => True
  | .between | .storing _ _ => False

/-- A request in flight is the one that was accepted and has not returned. -/
theorem RoundStage.accepted_of_inFlight {s : Slot} {p : CallerPoint} {v : Option ServicePoint}
    {es : List RoundEvent} (h : RoundStage s p v es) (flight : p.InFlight) :
    es.countP RoundEvent.isAccepted = es.countP RoundEvent.isReturned + 1 := by
  cases h with
  | idle | storing => cases flight
  | posted | reading | calling | answered | stored | served | seen => rfl

/-- Nobody serves a slot that is not posted. -/
theorem RoundStage.service_of_free {s : Slot} {p : CallerPoint} {v : Option ServicePoint}
    {es : List RoundEvent} (h : RoundStage s p v es) (free : s.state ≠ .posted) : v = none := by
  cases h with
  | idle | storing | served | seen => rfl
  | posted posted | reading posted | calling posted | answered posted | stored posted =>
    exact absurd posted free

namespace Traffic

variable {κ : Type} [DecidableEq κ] {n : Nat} {slotOf : κ → Fin n} {t u v : Traffic κ n}
  {m : TrafficMove κ n} {ms : List (TrafficMove κ n)} {k : κ} {i : Fin n} {job : Job} {a : Nat}

theorem InRound.returned_iff (h : t.InRound slotOf k) :
    t.returned slotOf k = t.accepted slotOf k ↔ ¬ (t.callers k).InFlight := by
  obtain ⟨whole, current, stage, accepted, -, returned⟩ := h.counts
  constructor
  · intro same flight
    have := stage.accepted_of_inFlight flight
    omega
  · intro rest
    refine (h.accepted_of_idle (fun job point => rest ?_) fun job point => rest ?_).symm
    · rw [point]
      trivial
    · rw [point]
      trivial

/-- A release finds its slot waiting and leaves it unused. -/
theorem step_release (released : t.step slotOf (.release i) = some u) :
    t.dispatch.batch.state i = .waiting ∧
      u = t.putBatch (t.dispatch.batch.withState i .unused) := by
  rw [step_drives (m := .release i) rfl] at released
  split at released
  · next old =>
    cases released
    exact ⟨List.mem_singleton.1 old, rfl⟩
  · cases released

/-- A caller that watches a slot in which nothing is posted and nothing is to be collected. -/
structure Stranded (slotOf : κ → Fin n) (k : κ) (job : Job) (t : Traffic κ n) : Prop where
  watching : t.callers k = .watching job
  not_waiting : t.dispatch.batch.state (slotOf k) ≠ .waiting
  not_posted : t.dispatch.batch.state (slotOf k) ≠ .posted

/-- Only a claim of its slot helps a stranded caller. -/
theorem Stranded.step (h : t.Stranded slotOf k job) (unclaimed : m ≠ .claim (slotOf k))
    (hs : t.step slotOf m = some u) : u.Stranded slotOf k job := by
  have state : u.dispatch.batch.state (slotOf k) ≠ .waiting ∧
      u.dispatch.batch.state (slotOf k) ≠ .posted := by
    have change := step_state hs (slotOf k)
    have not_waiting := h.not_waiting
    have not_posted := h.not_posted
    generalize t.dispatch.batch.state (slotOf k) = x at change not_waiting not_posted
    generalize u.dispatch.batch.state (slotOf k) = y at change
    cases change with
    | same => exact ⟨not_waiting, not_posted⟩
    | posted => exact absurd rfl not_waiting
    | served => exact absurd rfl not_posted
    | exited => exact ⟨by simp, by simp⟩
    | driven drives =>
      cases m with
      | claim j =>
        cases drives
        exact absurd rfl unclaimed
      | release | askExit | finishExit => cases drives; exact ⟨by simp, by simp⟩
      | request | caller | worker | answer | spawn | mark => cases drives
  exact ⟨watching_step hs h.watching h.not_waiting, state.1, state.2⟩

/-- A client that has seen its slot waiting returns with its next step. -/
theorem Sound.returns (alone : Function.Injective slotOf) (h : t.Sound slotOf)
    (seen : ∀ job, t.callers k ≠ .watching job) (run : Run slotOf (fun t m => m.Hires t) t ms u)
    (once : 1 ≤ ms.countP (TrafficMove.byCaller k)) : t.accepted slotOf k ≤ u.returned slotOf k := by
  by_cases flight : (t.callers k).InFlight
  · refine run.reaches
      (fun v => v.Sound slotOf ∧ t.accepted slotOf k ≤ v.accepted slotOf k ∧
        ∃ job, v.callers k = .collecting job)
      (fun v => t.accepted slotOf k ≤ v.returned slotOf k) (fun _ => 1) (fun _ => Nat.one_pos) ?_
      (fun done _ hs => Nat.le_trans done (returned_step hs)) ⟨h, Nat.le_refl _, ?_⟩ once
    · intro v x m ⟨sound, before, job, point⟩ hires hs
      have next := sound.step alone hires hs
      have more := Nat.le_trans before (accepted_step (k := k) hs)
      cases step_caller hs k with
      | same other same =>
        refine .inr ⟨⟨next, more, job, same.trans point⟩, ?_⟩
        simp [other]
      | began move between => simp [point] at between
      | stepped move step =>
        rw [point] at step
        simp only [CallerPoint.step, Option.some.injEq, Prod.mk.injEq] at step
        have idle := (next.inRound k).accepted_of_idle (by simp [← step.2.1]) (by simp [← step.2.1])
        exact .inl (idle ▸ more)
    · cases point : t.callers k with
      | between | storing => simp [point, CallerPoint.InFlight] at flight
      | watching job => exact absurd point (seen job)
      | collecting job => exact ⟨job, rfl⟩
  · rw [← (h.inRound k).returned_iff.2 flight]
    exact run.keeps (P := fun v => t.returned slotOf k ≤ v.returned slotOf k)
      (fun le _ hs => Nat.le_trans le (returned_step hs)) (Nat.le_refl _)

/-- **What a release waits for.** When a client's slot is released, nobody is serving it, and what
the client has posted is answered. It has returned unless the client is in flight. A client that
still watches the slot never returns, as long as the slot is not claimed again; any other returns
with its next step, and every request that returns has its own answer. -/
theorem release_waits_for_service (opening : t.Opening slotOf)
    (run : Run slotOf (fun t m => m.Hires t) t ms u)
    (released : u.step slotOf (.release (slotOf k)) = some v) :
    v.serviceAt (slotOf k) = none ∧ v.answered slotOf k = v.accepted slotOf k ∧
    (v.returned slotOf k = v.accepted slotOf k ↔ ¬ (v.callers k).InFlight) ∧
    (∀ job, v.callers k = .watching job → ∀ ns x,
      Run slotOf (fun _ m => m ≠ .claim (slotOf k)) v ns x → x.callers k = .watching job) ∧
    ∀ ns x, Run slotOf (fun t m => m.Hires t) v ns x →
      (∃ rounds : List Round, x.roundsOf slotOf k <+: rounds.flatMap Round.events) ∧
      ((∀ job, v.callers k ≠ .watching job) → 1 ≤ ns.countP (TrafficMove.byCaller k) →
        v.accepted slotOf k ≤ x.returned slotOf k) := by
  have step {t u : Traffic κ n} {m : TrafficMove κ n} (sound : t.Sound slotOf)
    (hires : m.Hires t) (hs : t.step slotOf m = some u) : u.Sound slotOf :=
    sound.step opening.alone hires hs
  have before := run.keeps step opening.tended.sound
  have sound : v.Sound slotOf := before.step (m := .release (slotOf k)) opening.alone trivial released
  have unused : v.dispatch.batch.state (slotOf k) = .unused := by
    obtain ⟨-, rfl⟩ := step_release released
    exact Batch.state_withState_self u.dispatch.batch (slotOf k) .unused
  have free : v.dispatch.batch.state (slotOf k) ≠ .posted := by simp [unused]
  have round := sound.inRound k
  refine ⟨?_, round.answered_of_free free, round.returned_iff, fun job watching ns x run => ?_,
    fun ns x run => ⟨((run.keeps step sound).inRound k).begins, fun seen once => ?_⟩⟩
  · obtain ⟨_, _, _, stage⟩ := round
    exact stage.service_of_free free
  · have stranded : v.Stranded slotOf k job := ⟨watching, by simp [unused], free⟩
    exact (run.keeps (fun h unclaimed hs => h.step unclaimed hs) stranded).watching
  · exact sound.returns opening.alone seen run once

/-- The worker has answered both clients of `pair`. The first one has not looked yet, and with its
slot released it never returns. -/
theorem release_waits_for_service_pair : ∃ u v job, pair.run id (pairPosts ++ pairService) = some u ∧
    u.step id (.release 0) = some v ∧ v.callers 0 = .watching job ∧
    v.answered id 0 = v.accepted id 0 ∧
    ∀ ns x, Run id (fun _ m => m ≠ .claim 0) v ns x → x.callers 0 = .watching job := by
  obtain ⟨u, v, job, hu, hv, watching⟩ : ∃ u v job,
      pair.run id (pairPosts ++ pairService) = some u ∧ u.step id (.release 0) = some v ∧
      v.callers 0 = .watching job := ⟨_, _, _, rfl, rfl, rfl⟩
  have hires (t : Traffic (Fin 2) 2) (m) (hm : m ∈ pairPosts ++ pairService) : m.Hires t :=
    hires_of_considerate (pair_considerate t m (List.mem_append_left _ hm))
  obtain ⟨-, answered, -, stays, -⟩ :=
    release_waits_for_service (k := 0) pair_opening (.of_run hires hu) hv
  exact ⟨u, v, job, hu, hv, watching, answered, stays job watching⟩

/-- One slot, which two clients have after each other. -/
def successive : Traffic (Fin 2) 1 where
  dispatch := ⟨⟨#v[{ state := .waiting }]⟩, 1, 1⟩
  callers _ := .between
  workers w := if w = 0 then .between else .gone

/-- A job that can be told from others by its event. -/
def errand (event : Nat) : Job := ⟨⟨9, by decide, by decide⟩, event, 0, 0⟩

/-- A client posts a job. -/
def posting (k : Fin 2) (event : Nat) : List (TrafficMove (Fin 2) 1) :=
  .request k (errand event) :: List.replicate 6 (.caller k)

/-- The worker makes a pass, in which it serves a job. -/
def service (code : ResultCode) : List (TrafficMove (Fin 2) 1) :=
  List.replicate 6 (.worker 0) ++ [.answer 0 (.code code)] ++ List.replicate 3 (.worker 0)

/-- A slot is released whose client has not looked at it since its request was answered. The request
never returns, unless the slot is claimed again; if it is, and the next client's request is
answered, the first client returns the answer to that one. -/
theorem release_overtakes_return : ∃ u v w,
    successive.run (fun _ => 0) (posting 0 5 ++ service .success) = some u ∧
    u.step (fun _ => 0) (.release 0) = some v ∧
    v.run (fun _ => 0) (.claim 0 :: posting 1 6 ++ service .failure ++ [.caller 0, .caller 0]) =
      some w ∧
    .service 0 (.answered 0 (errand 5) (.code .success)) ∈ u.history ∧
    v.callers 0 = .watching (errand 5) ∧
    (∀ ns x, Run (fun _ => 0) (fun _ m => m ≠ .claim 0) v ns x →
      x.callers 0 = .watching (errand 5)) ∧
    .request 0 (.returned (errand 5) .failure) ∈ w.history := by
  obtain ⟨u, v, w, posted, released, followed, served, watching, unused, returned⟩ : ∃ u v w,
      successive.run (fun _ => 0) (posting 0 5 ++ service .success) = some u ∧
      u.step (fun _ => 0) (.release 0) = some v ∧
      v.run (fun _ => 0) (.claim 0 :: posting 1 6 ++ service .failure ++ [.caller 0, .caller 0]) =
        some w ∧
      .service 0 (.answered 0 (errand 5) (.code .success)) ∈ u.history ∧
      v.callers 0 = .watching (errand 5) ∧ v.dispatch.batch.state 0 = .unused ∧
      .request 0 (.returned (errand 5) .failure) ∈ w.history :=
    ⟨_, _, _, rfl, rfl, rfl, by decide, rfl, by decide, by decide⟩
  have stranded : v.Stranded (fun _ => 0) 0 (errand 5) :=
    ⟨watching, by simp [unused], by simp [unused]⟩
  exact ⟨u, v, w, posted, released, followed, served, watching,
    fun ns x run => (run.keeps (fun h unclaimed hs => h.step unclaimed hs) stranded).watching,
    returned⟩

end Traffic

end PluginBridge
