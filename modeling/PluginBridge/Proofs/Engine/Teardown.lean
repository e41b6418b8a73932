import PluginBridge.Proofs.Engine.Staffing

/-!
# Taking down what was left behind

A takedown gives the claimed slots back from the lowest on, and stops at the first one that it is
refused. That slot is posted, and the slots above it are untouched. So the high-water mark, which
is lowered only at the end, still stands just above the highest claimed slot (`Staffed.refused`).
-/

namespace PluginBridge

namespace Engine

theorem releaseSlots_cases (l : List (Fin slotCount)) (b : Batch slotCount) :
    ∃ b', (∃ v, releaseSlots l b = (b', .error v)) ∨ releaseSlots l b = (b', .ok ()) := by
  match releaseSlots l b with
  | (b', .error v) => exact ⟨b', .inl ⟨v, rfl⟩⟩
  | (b', .ok ()) => exact ⟨b', .inr rfl⟩

/-- Giving back the claimed ones of some slots leaves none of them claimed, nor any other one that
was not. -/
theorem unused_releaseSlots {l : List (Fin slotCount)} {b b' : Batch slotCount} {j : Fin slotCount}
    (done : releaseSlots l b = (b', .ok ())) (given : b.state j = .unused ∨ j ∈ l) :
    b'.state j = .unused := by
  induction l generalizing b with
  | nil =>
    cases done
    exact given.resolve_right List.not_mem_nil
  | cons i rest ih =>
    simp only [releaseSlots, Batch.release_eq] at done
    rw [List.mem_cons] at given
    by_cases used : b.inUse i
    · rw [if_pos used] at done
      by_cases waiting : b.state i = .waiting
      · rw [if_pos waiting] at done
        apply ih done
        by_cases hj : j = i
        · rw [hj, Batch.state_withState_self]
          exact .inl rfl
        · rw [Batch.state_withState_of_ne b .unused hj]
          exact given.imp_right fun mem => mem.resolve_left hj
      · rw [if_neg waiting] at done
        cases done
    · rw [if_neg used] at done
      apply ih done
      rcases given with unused | rfl | mem
      · exact .inl unused
      · exact .inl (by simpa [Batch.inUse_iff] using used)
      · exact .inr mem

/-- A slot that a takedown goes over is as it was, or it was waiting and has been given back. -/
theorem state_releaseSlots (l : List (Fin slotCount)) (b : Batch slotCount) (j : Fin slotCount) :
    (releaseSlots l b).1.state j = b.state j ∨
      b.state j = .waiting ∧ (releaseSlots l b).1.state j = .unused := by
  induction l generalizing b with
  | nil => exact .inl rfl
  | cons i rest ih =>
    simp only [releaseSlots, Batch.release_eq]
    split
    · by_cases waiting : b.state i = .waiting
      · simp only [if_pos waiting]
        by_cases hj : j = i
        · subst hj
          refine .inr ⟨waiting, ?_⟩
          rcases ih (b.withState j .unused) with same | ⟨-, unused⟩
          · rw [same, Batch.state_withState_self]
          · exact unused
        · rw [← Batch.state_withState_of_ne b .unused hj]
          exact ih _
      · simp only [if_neg waiting]
        exact .inl trivial
    · exact ih b

/-- A slot that is refused is claimed and not waiting. Those from it on are as they were, and those
before it are unused now. -/
theorem releaseSlots_error {l : List (Fin slotCount)} {b b' : Batch slotCount} {v : Violation}
    (sorted : l.Pairwise (· < ·)) (refused : releaseSlots l b = (b', .error v)) :
    ∃ i ∈ l, b.inUse i ∧ b.state i ≠ .waiting ∧ v = .transitionStalled i .waiting (b.state i) ∧
      (∀ j, i ≤ j → b'.state j = b.state j) ∧ ∀ j ∈ l, j < i → b'.state j = .unused := by
  induction l generalizing b with
  | nil => cases refused
  | cons k rest ih =>
    obtain ⟨before, sorted⟩ := List.pairwise_cons.1 sorted
    simp only [releaseSlots, Batch.release_eq] at refused
    -- What is unused when the takedown goes on stays so.
    have stays {c : Batch slotCount} (left : releaseSlots rest c = (b', .error v))
        (unused : c.state k = .unused) : b'.state k = .unused := by
      have kept := state_releaseSlots rest c k
      rw [left] at kept
      rcases kept with same | ⟨waiting, -⟩
      · exact same.trans unused
      · rw [unused] at waiting
        cases waiting
    by_cases used : b.inUse k
    · rw [if_pos used] at refused
      by_cases waiting : b.state k = .waiting
      · rw [if_pos waiting] at refused
        obtain ⟨i, mem, inUse, free, violation, above, below⟩ := ih sorted refused
        have other (j : Fin slotCount) (le : i ≤ j) :
            (b.withState k .unused).state j = b.state j :=
          Batch.state_withState_of_ne b _ (Fin.ne_of_gt (Fin.lt_of_lt_of_le (before i mem) le))
        have here := other i (Fin.le_refl i)
        rw [Batch.inUse, here] at inUse
        rw [here] at free violation
        refine ⟨i, List.mem_cons_of_mem k mem, inUse, free, violation, fun j le => ?_, ?_⟩
        · rw [above j le, other j le]
        · intro j among lt
          rcases List.mem_cons.1 among with rfl | later
          · exact stays refused (Batch.state_withState_self _ _ _)
          · exact below j later lt
      · rw [if_neg waiting] at refused
        cases refused
        refine ⟨k, List.mem_cons_self, used, waiting, rfl, fun _ _ => rfl, fun j among lt => ?_⟩
        rcases List.mem_cons.1 among with rfl | later
        · exact absurd lt (Fin.lt_irrefl j)
        · exact absurd lt (Fin.not_lt.2 (Fin.le_of_lt (before j later)))
    · rw [if_neg used] at refused
      obtain ⟨i, mem, inUse, free, violation, above, below⟩ := ih sorted refused
      refine ⟨i, List.mem_cons_of_mem k mem, inUse, free, violation, above, fun j among lt => ?_⟩
      rcases List.mem_cons.1 among with rfl | later
      · exact stays refused (by simpa [Batch.inUse_iff] using used)
      · exact below j later lt

/-- A slot that cannot be given back is posted. Those from it on are as they were, those before it
may have been given back. -/
theorem releaseSlots_refused {l : List (Fin slotCount)} {b b' : Batch slotCount} {v : Violation}
    (sorted : l.Pairwise (· < ·)) (ordinary : ∀ i, (b.state i).Ordinary)
    (refused : releaseSlots l b = (b', .error v)) :
    ∃ i ∈ l, b'.state i = .posted ∧ (∀ j, i ≤ j → b'.state j = b.state j) ∧
      ∀ j, b'.state j = b.state j ∨ b'.state j = .unused := by
  obtain ⟨i, mem, used, free, -, above, -⟩ := releaseSlots_error sorted refused
  have posted := (ordinary i).posted (Batch.inUse_iff.1 used) free
  refine ⟨i, mem, (above i (Fin.le_refl i)).trans posted, above, fun j => ?_⟩
  have kept := state_releaseSlots l b j
  rw [refused] at kept
  exact kept.imp_right And.right

/-- Without a posted slot all slots can be given back. -/
theorem releaseSlots_of_resting {b : Batch slotCount} (ordinary : ∀ i, (b.state i).Ordinary)
    (resting : ∀ i, b.state i ≠ .posted) :
    ∃ b', releaseSlots (List.finRange slotCount) b = (b', .ok ()) ∧
      ∀ i, b'.state i = .unused := by
  rcases releaseSlots_cases (List.finRange slotCount) b with ⟨b', ⟨v, refused⟩ | done⟩
  · obtain ⟨i, -, posted, above, -⟩ :=
      releaseSlots_refused (List.pairwise_lt_finRange _) ordinary refused
    rw [above i (Fin.le_refl i)] at posted
    exact absurd posted (resting i)
  · exact ⟨b', done, fun i => unused_releaseSlots done (.inr (List.mem_finRange i))⟩

variable {e : Engine} {d : Dispatch slotCount} {b : Batch slotCount} {v : Violation}

theorem teardown_of_none (none : e.dispatch = none) : e.teardown = (e, .ok ()) := by
  simp [teardown, none]

theorem teardown_of_refused (hd : e.dispatch = some d)
    (refused : releaseSlots (List.finRange slotCount) d.batch = (b, .error v)) :
    e.teardown = ({ e with dispatch := some { d with batch := b } }, .error v) := by
  simp only [teardown, hd, refused]

/-- The pool after all workers were stopped. -/
def dismissed (e : Engine) : Pool := e.pool.dismissAll (List.range e.pool.threads.length)

/-- A takedown that gives all slots back stops all threads. -/
theorem teardown_of_done (hd : e.dispatch = some d)
    (done : releaseSlots (List.finRange slotCount) d.batch = (b, .ok ()))
    (scanning : e.pool.Scanning slotCount) :
    e.teardown =
        (retire { e with
          dispatch := some { d with batch := b, highWater := 0 }
          pool := e.dismissed }, .ok ()) ∧
      ∀ i, b.state i = .unused := by
  have unused (i : Fin slotCount) : b.state i = .unused :=
    unused_releaseSlots done (.inr (List.mem_finRange i))
  have stopped := Pool.releaseAll_of_unused (d := { d with batch := b, highWater := 0 }) unused
    scanning
  exact ⟨by simp only [teardown, hd, done, stopped, dismissed], unused⟩

end Engine

/-- A takedown that is refused leaves a posted slot, and everybody that the claimed slots need. -/
theorem Staffed.refused {p : Pool} {d : Dispatch slotCount} {b : Batch slotCount} {v : Violation}
    (h : Staffed p d)
    (refused : Engine.releaseSlots (List.finRange slotCount) d.batch = (b, .error v)) :
    ∃ i, b.state i = .posted ∧ Staffed p { d with batch := b } := by
  obtain ⟨i, -, posted, above, below⟩ :=
    Engine.releaseSlots_refused (List.pairwise_lt_finRange _) h.ordinary refused
  have claimed (j : Fin slotCount) (used : b.inUse j) : d.batch.inUse j := by
    refine Batch.inUse_iff.2 fun unused => Batch.inUse_iff.1 used ?_
    rcases below j with same | unused'
    · exact same.trans unused
    · exact unused'
  refine ⟨i, posted, h.some, h.room, fun j => ?_, ⟨fun j used => h.marked.above j (claimed j used),
    h.marked.tight.imp_right ?_⟩, fun j used => h.manned j (claimed j used), h.scanning⟩
  · rcases below j with same | unused
    · exact same ▸ h.ordinary j
    · exact unused ▸ by simp [SlotState.Ordinary]
  · rintro ⟨j, used, top⟩
    have here := h.marked.above i (claimed i (Batch.inUse_iff.2 (by simp [posted])))
    have le : i ≤ j := Fin.le_def.2 (by omega)
    exact ⟨j, by rwa [Batch.inUse_iff, above j le, ← Batch.inUse_iff], top⟩

end PluginBridge
