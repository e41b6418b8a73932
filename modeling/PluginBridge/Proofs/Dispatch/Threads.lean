import PluginBridge.Proofs.Dispatch.Exits

/-!
# The threads of a pool over time

A pool knows one thread of each worker. That no second one runs besides has to be seen from its log.
`Pool.Accounted` ties the two together: of the threads of a worker that were started, all have ended
but one that the pool knows to run, and of those that have ended, all were joined but one that the
pool still keeps. So at no time was a thread started before the one before it was joined. Whatever is
done to a pool keeps it accounted for (`Pool.Accounted.acquire`, `Pool.Accounted.releaseAll`), and so
does a new pool that takes the log over when nobody is left in the old one (`Pool.Accounted.renew`).
-/

namespace PluginBridge

/-- At no time of a log was a thread joined that had not ended, had one ended that was not started,
or was one started before the one before it was joined. -/
def ThreadEvent.InTurn (log : List ThreadEvent) : Prop :=
  ∀ later earlier, log = later ++ earlier → ∀ w,
    earlier.count (.joined w) ≤ earlier.count (.ended w) ∧
    earlier.count (.ended w) ≤ earlier.count (.started w) ∧
    earlier.count (.started w) ≤ earlier.count (.joined w) + 1

theorem WorkerThread.Runs.ne_absent {t : WorkerThread} (runs : t.Runs) : t ≠ .absent := by
  rintro rfl
  simp [Runs] at runs

theorem WorkerThread.Runs.ne_ended {t : WorkerThread} (runs : t.Runs) : t ≠ .ended := by
  rintro rfl
  simp [Runs] at runs

namespace Pool

variable {n : Nat} {d : Dispatch n} {p q : Pool} {w v : Nat} {t : WorkerThread}
  {event : ThreadEvent}

theorem lt_of_runs (runs : (p.thread w).Runs) : w < p.threads.length :=
  lt_of_isLive (isLive_iff.2 runs.ne_absent)

/-- The number of running threads of a worker that a pool knows. -/
def running (p : Pool) (w : Nat) : Nat := if (p.thread w).Runs then 1 else 0

/-- The number of threads of a worker that have ended and were not joined. -/
def unjoined (p : Pool) (w : Nat) : Nat := if p.thread w = .ended then 1 else 0

/-- What the log of a pool tells of its threads. -/
structure Accounted (p : Pool) : Prop where
  running : ∀ w, p.log.count (.started w) = p.log.count (.ended w) + p.running w
  unjoined : ∀ w, p.log.count (.ended w) = p.log.count (.joined w) + p.unjoined w
  inTurn : ThreadEvent.InTurn p.log

theorem running_add_unjoined_le (p : Pool) (w : Nat) : p.running w + p.unjoined w ≤ 1 := by
  rw [Pool.running, Pool.unjoined]
  by_cases runs : (p.thread w).Runs
  · simp [runs, runs.ne_ended]
  · rw [if_neg runs]
    split <;> omega

/-- A pool is accounted for after another event if the numbers of its threads follow it. -/
theorem Accounted.cons (a : p.Accounted) (log : q.log = event :: p.log)
    (running : ∀ w, q.log.count (.started w) = q.log.count (.ended w) + q.running w)
    (unjoined : ∀ w, q.log.count (.ended w) = q.log.count (.joined w) + q.unjoined w) :
    q.Accounted := by
  refine ⟨running, unjoined, fun later earlier split v => ?_⟩
  cases later with
  | nil =>
    rw [List.nil_append] at split
    have all := running v
    have joined := unjoined v
    have one := q.running_add_unjoined_le v
    rw [split] at all joined
    omega
  | cons last later =>
    rw [log, List.cons_append, List.cons.injEq] at split
    exact a.inTurn later earlier split.2 v

theorem thread_of_not_isLive (gone : ¬ p.isLive w) : p.thread w = .absent := by
  simpa [isLive] using gone

theorem accounted_empty (workers : Nat) : (empty workers).Accounted where
  running w := by
    have absent := thread_of_not_isLive (not_isLive_empty workers [] w)
    rw [Pool.running, absent]
    rfl
  unjoined w := by
    have absent := thread_of_not_isLive (not_isLive_empty workers [] w)
    rw [Pool.unjoined, absent]
    rfl
  inTurn later earlier split w := by
    have none : earlier = [] := (List.append_eq_nil_iff.1 split.symm).2
    simp [none]

/-- A new pool goes on with the log of one that nobody is left in. -/
theorem Accounted.renew (a : p.Accounted) (gone : ∀ w, ¬ p.isLive w) (workers : Nat) :
    (empty workers p.log).Accounted := by
  have same (w : Nat) : (empty workers p.log).thread w = p.thread w := by
    rw [thread_of_not_isLive (gone w), thread_of_not_isLive (not_isLive_empty workers p.log w)]
  refine ⟨fun w => ?_, fun w => ?_, a.inTurn⟩
  · rw [Pool.running, same]
    exact a.running w
  · rw [Pool.unjoined, same]
    exact a.unjoined w

theorem Accounted.acquire (a : p.Accounted) (room : w < p.threads.length) :
    (p.acquire w).Accounted := by
  rw [Pool.acquire]
  by_cases live : p.isLive w
  · rwa [if_pos live]
  rw [if_neg live]
  have absent := thread_of_not_isLive live
  refine a.cons rfl (fun v => ?_) (fun v => ?_)
  · have before := a.running v
    by_cases same : v = w
    · subst same
      simp [Pool.running, absent, thread_put_self room, WorkerThread.Runs] at before ⊢
      omega
    · simpa [Pool.running, thread_put_of_ne _ same, Ne.symm same] using before
  · have before := a.unjoined v
    by_cases same : v = w
    · subst same
      simpa [Pool.unjoined, absent, thread_put_self room] using before
    · simpa [Pool.unjoined, thread_put_of_ne _ same] using before

/-- A thread that runs may end. -/
theorem Accounted.leave (a : p.Accounted) (runs : (p.thread w).Runs) : (p.leave w).Accounted := by
  have room := lt_of_runs runs
  refine a.cons rfl (fun v => ?_) (fun v => ?_)
  · have before := a.running v
    by_cases same : v = w
    · subst same
      rw [Pool.running, if_pos runs] at before
      simp [Pool.running, Pool.leave, thread_put_self room, WorkerThread.Runs] at before ⊢
      omega
    · simpa [Pool.running, Pool.leave, thread_put_of_ne _ same, Ne.symm same] using before
  · have before := a.unjoined v
    by_cases same : v = w
    · subst same
      simp [Pool.unjoined, runs.ne_ended, Pool.leave, thread_put_self room] at before ⊢
      omega
    · simpa [Pool.unjoined, Pool.leave, thread_put_of_ne _ same, Ne.symm same] using before

/-- A thread that has ended may be joined. -/
theorem Accounted.join (a : p.Accounted) (w : Nat) : (p.join w).Accounted := by
  rw [Pool.join]
  by_cases ended : p.thread w = .ended
  · have room : w < p.threads.length := lt_of_isLive (isLive_iff.2 (by simp [ended]))
    rw [if_pos ended]
    refine a.cons rfl (fun v => ?_) (fun v => ?_)
    · have before := a.running v
      by_cases same : v = w
      · subst same
        simpa [Pool.running, ended, thread_put_self room, WorkerThread.Runs] using before
      · simpa [Pool.running, thread_put_of_ne _ same] using before
    · have before := a.unjoined v
      by_cases same : v = w
      · subst same
        simp [Pool.unjoined, ended, thread_put_self room] at before ⊢
        omega
      · simpa [Pool.unjoined, thread_put_of_ne _ same, Ne.symm same] using before
  · rwa [if_neg ended]

/-- A thread that runs may change its pace. -/
theorem Accounted.paced (a : p.Accounted) (runs : (p.thread w).Runs) (runs' : t.Runs) :
    (p.put w t).Accounted := by
  have room := lt_of_runs runs
  have known (v : Nat) : (p.put w t).running v = p.running v ∧
      (p.put w t).unjoined v = p.unjoined v := by
    by_cases same : v = w
    · subst same
      simp [Pool.running, Pool.unjoined, thread_put_self room, runs, runs', runs.ne_ended,
        runs'.ne_ended]
    · simp [Pool.running, Pool.unjoined, thread_put_of_ne t same]
  refine ⟨fun v => ?_, fun v => ?_, a.inTurn⟩
  · rw [(known v).1]
    exact a.running v
  · rw [(known v).2]
    exact a.unjoined v

theorem Accounted.slow (a : p.Accounted) (w : Nat) : (p.slow w).Accounted := by
  rw [Pool.slow]
  split
  · next scans => exact a.paced (.inl scans) (.inr rfl)
  · exact a

theorem Accounted.prompt (a : p.Accounted) (w : Nat) : (p.prompt w).Accounted := by
  rw [Pool.prompt]
  split
  · next slow => exact a.paced (.inr slow) (.inl rfl)
  · exact a

/-! ## Stopping -/

theorem Accounted.requestExit (a : p.Accounted) (d : Dispatch n) (i : Fin n) :
    (p.requestExit d i).1.Accounted := by
  rw [requestExit_eq]
  split
  · split
    · next scans => exact a.leave (.inl scans)
    · exact a
  · exact a

theorem Accounted.release (a : p.Accounted) (d : Dispatch n) (w : Nat) :
    (p.release d w).1.Accounted := by
  rw [Pool.release]
  split
  · exact a
  split
  · exact a
  split
  · next hw =>
    have asked := a.requestExit d ⟨w, hw⟩
    cases hr : p.requestExit d ⟨w, hw⟩ with
    | mk q rest =>
    obtain ⟨d', answer⟩ := rest
    rw [hr] at asked
    cases answer with
    | ok _ => exact asked.join w
    | error v => exact asked
  · exact a

theorem Accounted.releaseEach (a : p.Accounted) (ws : List Nat) (d : Dispatch n) :
    (Pool.releaseEach ws p d).1.Accounted := by
  induction ws generalizing p d with
  | nil => exact a
  | cons w ws ih =>
    have first := a.release d w
    rw [Pool.releaseEach]
    cases hr : p.release d w with
    | mk q rest =>
    obtain ⟨d', answer⟩ := rest
    rw [hr] at first
    cases answer with
    | ok _ => exact ih first d'
    | error v => exact first

theorem Accounted.releaseAll (a : p.Accounted) (d : Dispatch n) : (p.releaseAll d).1.Accounted :=
  a.releaseEach _ d

/-! ## One thread for each worker -/

/-- Of all threads of a worker that were ever started, just the one that the pool knows still runs. -/
theorem Accounted.count_started (a : p.Accounted) (runs : (p.thread w).Runs) :
    p.log.count (.started w) = p.log.count (.ended w) + 1 := by
  have known := a.running w
  rwa [Pool.running, if_pos runs] at known

end Pool

end PluginBridge
