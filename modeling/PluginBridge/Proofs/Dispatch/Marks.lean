import PluginBridge.Dispatch
import PluginBridge.Proofs.Slot.States

/-!
# The high-water mark

The mark stands just above the highest claimed slot, and at zero if no slot is claimed. Claiming a
slot raises it as far as it has to be, and releasing one lowers it to the next claimed slot below.
-/

namespace PluginBridge.Dispatch

variable {n : Nat} {d e : Dispatch n} {i : Fin n}

/-- The mark is one more than the highest claimed slot, or zero if none is claimed. -/
structure Marked (d : Dispatch n) : Prop where
  above : ∀ i, d.batch.inUse i → i.val < d.highWater
  tight : d.highWater = 0 ∨ ∃ i, d.batch.inUse i ∧ i.val + 1 = d.highWater

theorem start_marked (n workers : Nat) : (start n workers).Marked where
  above i h := by simp [start, Batch.inUse, Batch.state, Slot.fresh] at h
  tight := .inl rfl

/-- The mark depends on nothing but which slots are claimed. -/
theorem Marked.congr (h : d.Marked) (mark : e.highWater = d.highWater)
    (use : ∀ i, e.batch.inUse i = d.batch.inUse i) : e.Marked where
  above i hi := by
    rw [mark]
    exact h.above i (by rwa [use] at hi)
  tight := by
    simp only [mark, use]
    exact h.tight

/-- There is only one place for the mark. -/
theorem Marked.unique (h : d.Marked) (h' : e.Marked)
    (use : ∀ i, e.batch.inUse i = d.batch.inUse i) : e.highWater = d.highWater := by
  apply Nat.le_antisymm
  · rcases h'.tight with zero | ⟨i, used, top⟩
    · omega
    · have := h.above i (by rwa [← use])
      omega
  · rcases h.tight with zero | ⟨i, used, top⟩
    · omega
    · have := h'.above i (by rwa [use])
      omega

theorem Marked.claim (h : d.Marked) :
    (raise { d with batch := d.batch.withState i .waiting } i).Marked where
  above j hj := by
    by_cases hji : j = i
    · subst hji
      simp only [raise]
      omega
    · have claimed := h.above j (by rwa [← Batch.inUse_withState_of_ne d.batch .waiting hji])
      simp only [raise]
      omega
  tight := by
    right
    rcases h.tight with zero | ⟨j, claimed, top⟩
    · exact ⟨i, by simp [raise], by simp [raise, zero]⟩
    · by_cases higher : i.val < j.val
      · have ne : j ≠ i := fun e => by simp [e] at higher
        refine ⟨j, ?_, ?_⟩
        · simp only [raise]
          rwa [Batch.inUse_withState_of_ne _ _ ne]
        · simp only [raise]
          omega
      · refine ⟨i, by simp [raise], ?_⟩
        simp only [raise]
        omega

/-- The claimed slots below an index are those that the search for the highest of them looks at. -/
theorem highestBelow_spec (b : Batch n) (i : Nat) :
    (∀ j : Fin n, b.inUse j → j.val < i → j.val < highestBelow b i) ∧
      (highestBelow b i = 0 ∨ ∃ j : Fin n, b.inUse j ∧ j.val + 1 = highestBelow b i) := by
  let below := (List.finRange n).filter fun j => decide (j.val < i) && b.inUse j
  have mem (j : Fin n) : j ∈ below ↔ j.val < i ∧ b.inUse j := by simp [below]
  have sorted : below.Pairwise (· < ·) := (List.pairwise_lt_finRange n).filter _
  change (∀ j : Fin n, _ → _ → j.val < below.getLast?.elim 0 fun j => j.val + 1) ∧
    (below.getLast?.elim 0 (fun j => j.val + 1) = 0 ∨
      ∃ j : Fin n, _ ∧ j.val + 1 = below.getLast?.elim 0 fun j => j.val + 1)
  rcases List.eq_nil_or_concat below with none | ⟨front, last, split⟩
  · refine ⟨fun j claimed lower => ?_, by simp [none]⟩
    have := (mem j).2 ⟨lower, claimed⟩
    simp [none] at this
  · rw [List.concat_eq_append] at split
    have claimed := (mem last).1 (by simp [split])
    rw [split] at sorted mem ⊢
    simp only [List.getLast?_append, List.getLast?_singleton, Option.some_or, Option.elim_some]
    refine ⟨fun j used lower => ?_, .inr ⟨last, claimed.2, rfl⟩⟩
    rcases List.mem_append.1 ((mem j).2 ⟨lower, used⟩) with before | here
    · have := (List.pairwise_append.1 sorted).2.2 j before last (by simp)
      exact Nat.lt_succ_of_lt this
    · rw [List.mem_singleton.1 here]
      exact Nat.lt_succ_self _

theorem Marked.release (h : d.Marked) :
    (lower { d with batch := d.batch.withState i .unused } i).Marked := by
  have only (j : Fin n) (used : (d.batch.withState i .unused).inUse j) : j ≠ i ∧ d.batch.inUse j := by
    have ne : j ≠ i := by
      rintro rfl
      simp at used
    exact ⟨ne, by rwa [Batch.inUse_withState_of_ne _ _ ne] at used⟩
  by_cases top : d.highWater = i.val + 1
  · obtain ⟨above, tight⟩ := highestBelow_spec (d.batch.withState i .unused) i.val
    rw [lower, if_pos top]
    refine ⟨fun j used => above j used ?_, tight⟩
    obtain ⟨ne, claimed⟩ := only j used
    have := h.above j claimed
    have := Fin.val_ne_of_ne ne
    omega
  · rw [lower, if_neg top]
    refine ⟨fun j used => h.above j (only j used).2, h.tight.imp_right ?_⟩
    rintro ⟨j, claimed, mark⟩
    have ne : j ≠ i := by
      rintro rfl
      exact top mark.symm
    exact ⟨j, by rwa [Batch.inUse_withState_of_ne _ _ ne], mark⟩

end PluginBridge.Dispatch
