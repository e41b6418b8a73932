import PluginBridge.Proofs.Traffic.Release

/-!
# A request to a busy worker

A worker that has given a job to a handler does nothing until the handler answers. If the handler
makes a request itself, through another slot of this worker, it waits for the slot to be handed back,
and only the worker hands it back. Whatever callers, other workers and the engine do meanwhile, the
request waits as long as the handler does not answer (`Blocked.step`), and a handler does not answer
before its own request returns.
-/

namespace PluginBridge

variable {n : Nat}

namespace Traffic

variable {κ : Type} [DecidableEq κ] {slotOf : κ → Fin n} {t u : Traffic κ n} {m : TrafficMove κ n}
  {ms : List (TrafficMove κ n)} {k : κ} {w : Nat}

/-- A caller watches a posted slot whose worker waits for a handler. -/
structure Blocked (slotOf : κ → Fin n) (w : Nat) (k : κ) (t : Traffic κ n) : Prop where
  sound : t.Sound slotOf
  own : t.dispatch.owner (slotOf k) = w
  calling : ∃ i job pass, t.workers w = .serving i (.calling job) pass
  posted : t.dispatch.batch.state (slotOf k) = .posted
  watching : ∃ job, t.callers k = .watching job

/-- Nobody but the worker of a slot frees it once it is posted. -/
theorem Sound.posted_step (h : t.Sound slotOf) (hs : t.step slotOf m = some u) {i : Fin n}
    (posted : t.dispatch.batch.state i = .posted)
    (busy : ∀ pass, t.workers (t.dispatch.owner i) ≠ .serving i .handing pass) :
    u.dispatch.batch.state i = .posted := by
  have change := step_state hs i
  rw [posted] at change
  generalize u.dispatch.batch.state i = y at change ⊢
  cases change with
  | same => rfl
  | served _ handing =>
    have own := owner_of_within (handing ▸ h.within _)
    exact absurd (own ▸ handing) (busy _)
  | driven drives old => exact absurd old (TrafficMove.drives_not_posted drives).1

/-- Only the answer of the handler helps a blocked caller. -/
theorem Blocked.step (alone : Function.Injective slotOf) (h : t.Blocked slotOf w k)
    (hires : m.Hires t) (silent : ∀ reply, m ≠ .answer w reply) (hs : t.step slotOf m = some u) :
    u.Blocked slotOf w k := by
  obtain ⟨i, job, pass, calling⟩ := h.calling
  obtain ⟨sent, watching⟩ := h.watching
  have posted : u.dispatch.batch.state (slotOf k) = .posted :=
    h.sound.posted_step hs h.posted fun pass handing => by
      rw [h.own, calling] at handing
      cases handing
  refine ⟨h.sound.step alone hires hs, ?_, ⟨i, job, pass, ?_⟩, posted, sent,
    watching_step hs watching (by simp [h.posted])⟩
  · rw [owner_congr (workers_step hs), h.own]
  · cases step_worker hs w with
    | same _ point => rw [point, calling]
    | stepped _ step => rw [calling] at step; cases step
    | answered move => exact absurd move (silent _)
    | spawned _ gone => rw [calling] at gone; cases gone

/-- A blocked caller stays blocked through any run in which the handler does not answer. -/
theorem Blocked.run (alone : Function.Injective slotOf) (h : t.Blocked slotOf w k)
    (run : Run slotOf (fun t m => m.Hires t ∧ ∀ reply, m ≠ .answer w reply) t ms u) :
    u.Blocked slotOf w k :=
  run.keeps (fun h ok hs => h.step alone ok.1 ok.2 hs) h

/-- One client of `pair` posts its job, and the worker gives it to the handler. The handler makes a
request as the other client, which the same worker is to serve. -/
def pairNested (first second : Fin 2) : List (TrafficMove (Fin 2) 2) :=
  .request first (errand 5) :: List.replicate 6 (.caller first) ++ List.replicate 6 (.worker 0) ++
    .request second (errand 6) :: List.replicate 6 (.caller second)

/-- The request that the handler makes does not return before the handler answers. -/
theorem blocked_pair : ∃ u, pair.run id (pairNested 0 1) = some u ∧ ∀ ms v,
    Run id (fun t m => m.Hires t ∧ ∀ reply, m ≠ .answer 0 reply) u ms v → v.Blocked id 0 1 := by
  obtain ⟨u, hu, own, i, job, pass, calling, posted, watching⟩ : ∃ u,
      pair.run id (pairNested 0 1) = some u ∧ u.dispatch.owner 1 = 0 ∧ ∃ i job pass,
        u.workers 0 = .serving i (.calling job) pass ∧ u.dispatch.batch.state 1 = .posted ∧
        ∃ job, u.callers 1 = .watching job :=
    ⟨_, rfl, by decide, _, _, _, rfl, by decide, _, rfl⟩
  have hires (t : Traffic (Fin 2) 2) : ∀ m ∈ pairNested 0 1, m.Hires t := by
    simp [pairNested, TrafficMove.Hires, List.replicate]
  have sound := (Run.of_run hires hu).keeps (fun sound hires hs => sound.step pair_opening.alone hires hs)
    pair_opening.tended.sound
  have blocked : u.Blocked id 0 1 := ⟨sound, own, ⟨i, job, pass, calling⟩, posted, watching⟩
  exact ⟨u, hu, fun ms v run => blocked.run pair_opening.alone run⟩

end Traffic

end PluginBridge
