import PluginBridge.Dispatch

/-!
# The share of a worker

The slots are dealt out to the workers by their remainder. `owner_eq_of_mem` and `mem_owned_owner`
say that this deals each slot to exactly one worker, its owner, and `owned_pairwise` that a worker
meets its slots in increasing order.
-/

namespace PluginBridge.Dispatch

variable {n : Nat} {d : Dispatch n} {w : Nat} {i : Fin n}

theorem mem_owned : i ∈ d.owned w ↔ w ≤ i.val ∧ (i.val - w) % d.workers = 0 := by
  simp [owned]

/-- The owner of a slot meets it. -/
theorem mem_owned_owner (d : Dispatch n) (i : Fin n) : i ∈ d.owned (d.owner i) := by
  rw [mem_owned]
  have step : i.val - d.owner i = d.workers * (i.val / d.workers) := by
    have split := Nat.mod_add_div i.val d.workers
    simp only [owner]
    omega
  exact ⟨Nat.mod_le _ _, by rw [step]; exact Nat.mul_mod_right _ _⟩

/-- Nobody but its owner meets a slot. -/
theorem owner_eq_of_mem (hw : w < d.workers) (h : i ∈ d.owned w) : d.owner i = w := by
  obtain ⟨le, rem⟩ := mem_owned.1 h
  obtain ⟨q, hq⟩ := Nat.dvd_of_mod_eq_zero rem
  have split : i.val = w + d.workers * q := by omega
  rw [owner, split, Nat.add_mul_mod_self_left, Nat.mod_eq_of_lt hw]

theorem owned_pairwise (d : Dispatch n) (w : Nat) : (d.owned w).Pairwise (· < ·) :=
  (List.pairwise_lt_finRange n).filter _

theorem length_owned_le (d : Dispatch n) (w : Nat) : (d.owned w).length ≤ n := by
  have le := List.length_filter_le
    (fun i : Fin n => decide (w ≤ i.val) && (i.val - w) % d.workers == 0) (List.finRange n)
  simpa [owned] using le

end PluginBridge.Dispatch
