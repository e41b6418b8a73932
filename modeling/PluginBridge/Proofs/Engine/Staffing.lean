import PluginBridge.Engine
import PluginBridge.Proofs.Dispatch.Exits
import PluginBridge.Proofs.Dispatch.Marks

/-!
# Slots and their workers

While a batch is in use, its slots, its high-water mark and the threads of the pool belong together:
`Staffed` says that every claimed slot has a thread, `Pool.Busy` that every thread has a claimed
slot. Claiming a slot and giving one back keep both (`Staffed.claim`, `Engine.releaseSlot_of_waiting`).
-/

namespace PluginBridge

/-- A state that a slot has between two calls of the engine: unused, waiting or posted. -/
def SlotState.Ordinary (s : SlotState) : Prop := s ∈ [.unused, .waiting, .posted]

theorem SlotState.Ordinary.waiting {s : SlotState} (h : s.Ordinary) (used : s ≠ .unused)
    (free : s ≠ .posted) : s = .waiting := by
  simp only [SlotState.Ordinary, List.mem_cons, List.not_mem_nil, or_false] at h
  exact (h.resolve_left used).resolve_right free

theorem SlotState.Ordinary.posted {s : SlotState} (h : s.Ordinary) (used : s ≠ .unused)
    (busy : s ≠ .waiting) : s = .posted := by
  simp only [SlotState.Ordinary, List.mem_cons, List.not_mem_nil, or_false] at h
  exact (h.resolve_left used).resolve_left busy

/-- What holds of the threads and the shared part of an activation with a batch. -/
structure Staffed {n : Nat} (p : Pool) (d : Dispatch n) : Prop where
  some : 0 < d.workers
  room : p.threads.length = d.workers
  ordinary : ∀ i, (d.batch.state i).Ordinary
  marked : d.Marked
  manned : ∀ i, d.batch.inUse i → p.isLive (d.owner i)
  scanning : p.Scanning n

/-- Every thread has a claimed slot. -/
def Pool.Busy {n : Nat} (p : Pool) (d : Dispatch n) : Prop := ∀ w, p.isLive w → d.ownedInUse w

/-- Whether threads are busy depends on nothing but which slots are claimed. -/
theorem Pool.Busy.congr {n : Nat} {p : Pool} {d : Dispatch n} {b : Batch n} (busy : p.Busy d)
    (use : ∀ i, b.inUse i = d.batch.inUse i) : p.Busy { d with batch := b } := by
  intro w live
  obtain ⟨i, mem, used⟩ := Dispatch.ownedInUse_iff.1 (busy w live)
  exact Dispatch.ownedInUse_iff.2 ⟨i, mem, by rwa [use]⟩

variable {n : Nat} {p : Pool} {d e : Dispatch n} {i : Fin n} {w v : Nat}

namespace Dispatch

@[simp] theorem batch_lower (d : Dispatch n) (i : Fin n) : (d.lower i).batch = d.batch := by
  rw [lower]
  split <;> rfl

@[simp] theorem workers_lower (d : Dispatch n) (i : Fin n) : (d.lower i).workers = d.workers := by
  rw [lower]
  split <;> rfl

theorem owner_lt (d : Dispatch n) (i : Fin n) (h : 0 < d.workers) : d.owner i < d.workers :=
  Nat.mod_lt _ h

theorem owner_lt_size (d : Dispatch n) (i : Fin n) : d.owner i < n :=
  Nat.lt_of_le_of_lt (Nat.mod_le _ _) i.isLt

end Dispatch

theorem Pool.isLive_acquire (hw : w < p.threads.length) :
    (p.acquire w).isLive v ↔ p.isLive v ∨ v = w := by
  rw [acquire]
  split
  · next live =>
    refine ⟨.inl, fun h => h.elim id fun same => same ▸ live⟩
  · rw [isLive_note]
    by_cases hv : v = w
    · subst hv
      simp [isLive_iff, thread_put_self hw]
    · simp [isLive_put_of_ne _ hv, hv]

theorem Pool.Scanning.acquire (h : p.Scanning n) (hw : w < p.threads.length) (lt : w < n) :
    (p.acquire w).Scanning n := by
  intro v live
  rw [Pool.acquire] at live ⊢
  split at live
  · next already =>
    rw [if_pos already]
    exact h v live
  · next new =>
    rw [if_neg new, Pool.thread_note]
    rw [Pool.isLive_note] at live
    by_cases hv : v = w
    · subst hv
      exact ⟨Pool.thread_put_self hw, lt⟩
    · rw [Pool.isLive_put_of_ne _ hv] at live
      rw [Pool.thread_put_of_ne _ hv]
      exact h v live

theorem Pool.length_acquire (p : Pool) (w : Nat) :
    (p.acquire w).threads.length = p.threads.length := by
  rw [acquire]
  split
  · rfl
  · exact length_put p w _

/-- An activation that has just begun has nothing to staff. -/
theorem Staffed.start {workers : Nat} {log : List ThreadEvent} (h : 0 < workers) :
    Staffed (Pool.empty workers log) (Dispatch.start n workers) where
  some := h
  room := by simp [Pool.empty, Dispatch.start]
  ordinary i := by simp [Dispatch.start, Batch.state, Slot.fresh, SlotState.Ordinary]
  marked := Dispatch.start_marked n workers
  manned i used := by simp [Dispatch.start, Batch.inUse, Batch.state, Slot.fresh] at used
  scanning w live := absurd live (Pool.not_isLive_empty workers log w)

namespace Staffed

/-- Staffing depends on no more of the batch than which slots are claimed. -/
theorem congr (h : Staffed p d) (mark : e.highWater = d.highWater) (workers : e.workers = d.workers)
    (use : ∀ i, e.batch.inUse i = d.batch.inUse i) (ordinary : ∀ i, (e.batch.state i).Ordinary) :
    Staffed p e where
  some := by rw [workers]; exact h.some
  room := by rw [workers]; exact h.room
  ordinary := ordinary
  marked := h.marked.congr mark use
  manned i used := by
    rw [Dispatch.owner, workers]
    exact h.manned i (by rwa [use] at used)
  scanning := h.scanning

/-- A slot that is claimed is waiting unless it is posted. -/
theorem waiting (h : Staffed p d) (used : d.batch.inUse i) (free : d.batch.state i ≠ .posted) :
    d.batch.state i = .waiting :=
  (h.ordinary i).waiting (Batch.inUse_iff.1 used) free

/-- No worker is asked to exit. -/
theorem stays (h : Staffed p d) (w : Nat) : d.exits w = false := by
  rw [Bool.eq_false_iff, ne_eq, Dispatch.exits_iff]
  rintro ⟨i, -, asked⟩
  have ordinary := h.ordinary i
  simp [asked, SlotState.Ordinary] at ordinary

/-- A slot that is claimed gets its thread. -/
theorem claim (h : Staffed p d) (i : Fin n) :
    Staffed (p.acquire (d.owner i))
      (Dispatch.raise { d with batch := d.batch.withState i .waiting } i) := by
  have hw : d.owner i < p.threads.length := by
    rw [h.room]
    exact d.owner_lt i h.some
  refine ⟨h.some, (p.length_acquire _).trans h.room, fun j => ?_, h.marked.claim, fun j used => ?_,
    h.scanning.acquire hw (d.owner_lt_size i)⟩
  · change ((d.batch.withState i .waiting).state j).Ordinary
    by_cases hj : j = i
    · subst hj
      simp [SlotState.Ordinary]
    · rw [Batch.state_withState_of_ne _ _ hj]
      exact h.ordinary j
  · change (p.acquire (d.owner i)).isLive (d.owner j)
    rw [Pool.isLive_acquire hw]
    by_cases hj : j = i
    · exact .inr (by rw [hj])
    · refine .inl (h.manned j ?_)
      rw [← Batch.inUse_withState_of_ne d.batch .waiting hj]
      exact used

/-- The thread of a slot that is claimed has that slot. -/
theorem busy_claim (h : Staffed p d) (busy : p.Busy d) (i : Fin n) :
    (p.acquire (d.owner i)).Busy
      (Dispatch.raise { d with batch := d.batch.withState i .waiting } i) := by
  intro w live
  rw [Dispatch.ownedInUse_iff]
  change ∃ j ∈ d.owned w, (d.batch.withState i .waiting).inUse j
  rcases (Pool.isLive_acquire (by rw [h.room]; exact d.owner_lt i h.some)).1 live with old | rfl
  · obtain ⟨j, mem, used⟩ := Dispatch.ownedInUse_iff.1 (busy w old)
    refine ⟨j, mem, ?_⟩
    by_cases hj : j = i
    · subst hj
      simp
    · rwa [Batch.inUse_withState_of_ne _ _ hj]
  · exact ⟨i, d.mem_owned_owner i, by simp⟩

end Staffed

/-! ## A slot that is given back -/

namespace Dispatch

/-- What is left when a slot is given back. -/
def without (d : Dispatch n) (i : Fin n) : Dispatch n :=
  lower { d with batch := d.batch.withState i .unused } i

@[simp] theorem batch_without (d : Dispatch n) (i : Fin n) :
    (d.without i).batch = d.batch.withState i .unused := by
  simp [without]

@[simp] theorem workers_without (d : Dispatch n) (i : Fin n) :
    (d.without i).workers = d.workers := by
  simp [without]

@[simp] theorem owner_without (d : Dispatch n) (i j : Fin n) :
    (d.without i).owner j = d.owner j := by
  simp [owner]

@[simp] theorem owned_without (d : Dispatch n) (i : Fin n) (w : Nat) :
    (d.without i).owned w = d.owned w := by
  simp [owned]

theorem inUse_without {j : Fin n} :
    (d.without i).batch.inUse j ↔ d.batch.inUse j ∧ j ≠ i := by
  rw [batch_without]
  by_cases hj : j = i
  · subst hj
    simp
  · simp [Batch.inUse_withState_of_ne _ _ hj, hj]

end Dispatch

/-- A slot that is claimed and given back leaves no trace. -/
theorem Dispatch.Marked.without_raise {n : Nat} {d : Dispatch n} {i : Fin n} (marked : d.Marked)
    (unused : d.batch.state i = .unused) :
    (Dispatch.raise { d with batch := d.batch.withState i .waiting } i).without i = d := by
  let raised := Dispatch.raise { d with batch := d.batch.withState i .waiting } i
  have batch : (raised.without i).batch = d.batch := by
    rw [Dispatch.batch_without]
    exact (Batch.withState_withState ..).trans (Batch.withState_self unused)
  have mark : (raised.without i).highWater = d.highWater :=
    marked.unique marked.claim.release fun j => congrArg (fun b : Batch n => b.inUse j) batch
  have workers : (raised.without i).workers = d.workers := Dispatch.workers_without ..
  exact (Dispatch.mk.injEq ..).mpr ⟨batch, mark, workers⟩

/-- Giving a slot back staffs what is left, as long as the worker of the slot stays or has nothing
left to do. -/
theorem Staffed.without (h : Staffed p d) (i : Fin n) {q : Pool}
    (room : q.threads.length = p.threads.length) (scanning : q.Scanning n)
    (stays : ∀ j, d.batch.inUse j → j ≠ i → p.isLive (d.owner j) → q.isLive (d.owner j)) :
    Staffed q (d.without i) where
  some := by rw [Dispatch.workers_without]; exact h.some
  room := by rw [Dispatch.workers_without, room]; exact h.room
  ordinary j := by
    rw [Dispatch.batch_without]
    by_cases hj : j = i
    · subst hj
      simp [SlotState.Ordinary]
    · rw [Batch.state_withState_of_ne _ _ hj]
      exact h.ordinary j
  marked := h.marked.release
  manned j used := by
    obtain ⟨used, ne⟩ := Dispatch.inUse_without.1 used
    rw [Dispatch.owner_without]
    exact stays j used ne (h.manned j used)
  scanning := scanning

/-- A worker other than that of a slot stays busy without the slot. -/
theorem Staffed.ownedInUse_without (h : Staffed p d) (busy : p.Busy d) (i : Fin n)
    (live : p.isLive w) (other : w ≠ d.owner i) : (d.without i).ownedInUse w := by
  obtain ⟨j, mem, used⟩ := Dispatch.ownedInUse_iff.1 (busy w live)
  refine Dispatch.ownedInUse_iff.2 ⟨j, by simpa using mem, Dispatch.inUse_without.2 ⟨used, ?_⟩⟩
  rintro rfl
  have hw : w < d.workers := h.room ▸ Pool.lt_of_isLive live
  exact other (Dispatch.owner_eq_of_mem hw mem).symm

/-- What giving a slot back comes to: a waiting slot is unused then, and its worker is stopped if no
other of its slots is claimed. -/
theorem Engine.releaseSlot_eq (e : Engine) (d : Dispatch slotCount) (i : Fin slotCount) :
    e.releaseSlot d i =
      if d.batch.state i = .waiting then
        if (d.without i).ownedInUse (d.owner i) then
          ({ e with dispatch := some (d.without i) }, .ok ())
        else
          ({ e with
              dispatch := some (e.pool.release (d.without i) (d.owner i)).2.1
              pool := (e.pool.release (d.without i) (d.owner i)).1 },
            (e.pool.release (d.without i) (d.owner i)).2.2)
      else (e, .error (.transitionStalled i .waiting (d.batch.state i))) := by
  rw [releaseSlot, Batch.release_eq]
  by_cases waiting : d.batch.state i = .waiting
  · rw [if_pos waiting, if_pos waiting, ← d.owner_without i i]
    rfl
  · rw [if_neg waiting, if_neg waiting]

/-- A waiting slot can be given back. Its worker stays if another of its slots is claimed, and is
stopped otherwise. -/
theorem Engine.releaseSlot_of_waiting {e : Engine} {d : Dispatch slotCount} {i : Fin slotCount}
    (h : Staffed e.pool d) (busy : e.pool.Busy d) (waiting : d.batch.state i = .waiting) :
    ∃ q, e.releaseSlot d i = ({ e with dispatch := some (d.without i), pool := q }, .ok ()) ∧
      Staffed q (d.without i) ∧ q.Busy (d.without i) := by
  have owner := d.owner_without i i
  by_cases more : (d.without i).ownedInUse (d.owner i)
  · have release : e.releaseSlot d i = ({ e with dispatch := some (d.without i) }, .ok ()) := by
      rw [Dispatch.without] at owner more ⊢
      simp only [Engine.releaseSlot, Batch.release_eq, if_pos waiting, owner, if_pos more]
    rw [release]
    refine ⟨e.pool, rfl, h.without i rfl h.scanning fun j _ _ live => live, fun w live => ?_⟩
    by_cases other : w = d.owner i
    · exact other ▸ more
    · exact h.ownedInUse_without busy i live other
  · have live := h.manned i (Batch.inUse_iff.2 (by simp [waiting]))
    obtain ⟨scans, lt⟩ := h.scanning _ live
    have released := Pool.release_of_scanning scans (by simpa using more) lt
    have release : e.releaseSlot d i =
        ({ e with dispatch := some (d.without i), pool := e.pool.stopped (d.owner i) },
          .ok ()) := by
      rw [Dispatch.without] at owner more released ⊢
      simp only [Engine.releaseSlot, Batch.release_eq, if_pos waiting, owner, if_neg more, released]
    rw [release]
    refine ⟨e.pool.stopped (d.owner i), rfl, h.without i (e.pool.length_stopped _)
      (h.scanning.stopped _) fun j used ne live => ?_, fun w live => ?_⟩
    · refine Pool.isLive_stopped.2 ⟨live, fun same => more ?_⟩
      rw [← same]
      exact Dispatch.ownedInUse_iff.2
        ⟨j, by simpa using d.mem_owned_owner j, Dispatch.inUse_without.2 ⟨used, ne⟩⟩
    · obtain ⟨live, other⟩ := Pool.isLive_stopped.1 live
      exact h.ownedInUse_without busy i live other

end PluginBridge
