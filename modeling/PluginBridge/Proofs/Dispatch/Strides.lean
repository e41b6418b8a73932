import PluginBridge.Proofs.Dispatch.Shares
import Mathlib.Algebra.Group.Nat.Defs
import Mathlib.Data.List.Sort

/-!
# How many workers there are, and which slots each of them meets

The number of workers is the logarithm of the number of processors, rounded up: `2 ^ maxWorkers n`
is the first power of two that reaches `n` (`le_two_pow_maxWorkers`, `maxWorkers_le`). On a machine
of 64 bits it is read off the leading zeros of `n - 1` (`maxWorkers_eq_clz`).

A worker meets every `d.workers`-th slot from its first one on (`owned_eq_stride`). No two workers
meet the same slot (`owned_disjoint`), and together they meet all of them once (`count_owned`).
-/

namespace PluginBridge

/-! ## The number of workers -/

theorem maxWorkers_of_le_one {n : Nat} (few : n ≤ 1) : maxWorkers n = 0 := by
  unfold maxWorkers
  exact if_pos few

theorem maxWorkers_of_one_lt {n : Nat} (many : 1 < n) :
    maxWorkers n = (n - 1).log2 + 1 := by
  unfold maxWorkers
  exact if_neg (by omega)

theorem le_two_pow_maxWorkers (n : Nat) : n ≤ 2 ^ maxWorkers n := by
  by_cases few : n ≤ 1
  · rw [maxWorkers_of_le_one few]
    exact few
  · rw [maxWorkers_of_one_lt (by omega)]
    have above : n - 1 < 2 ^ ((n - 1).log2 + 1) := Nat.lt_log2_self
    omega

/-- No smaller power of two reaches the number of processors. -/
theorem maxWorkers_le {n m : Nat} (reaches : n ≤ 2 ^ m) : maxWorkers n ≤ m := by
  by_cases few : n ≤ 1
  · rw [maxWorkers_of_le_one few]
    exact Nat.zero_le m
  · rw [maxWorkers_of_one_lt (by omega)]
    exact (Nat.log2_lt (by omega)).2 (by omega)

theorem maxWorkers_mono {n k : Nat} (le : n ≤ k) : maxWorkers n ≤ maxWorkers k :=
  maxWorkers_le (Nat.le_trans le (le_two_pow_maxWorkers k))

/-- In a word of 64 bits, the workers are the bits of `x - 1` without its leading zeros. -/
theorem maxWorkers_eq_clz (x : BitVec 64) (many : 1 < x.toNat) :
    maxWorkers x.toNat = 64 - (x - 1#64).clz.toNat := by
  have before : (x - 1#64).toNat = x.toNat - 1 := by
    have le : 1#64 ≤ x := by
      rw [BitVec.le_def]
      exact Nat.le_of_lt many
    rw [BitVec.toNat_sub_of_le le]
    rfl
  have nonzero : x - 1#64 ≠ 0#64 := by
    intro zero
    rw [zero] at before
    have none : (0#64).toNat = 0 := rfl
    omega
  have below := BitVec.toNat_lt_two_pow_sub_clz (x := x - 1#64)
  have above := BitVec.two_pow_sub_clz_le_toNat_of_ne_zero (by omega) nonzero
  rw [before] at below above
  apply Nat.le_antisymm
  · exact maxWorkers_le (by omega)
  · -- One bit less is too short for `x - 1`, and so for the number of processors.
    apply Nat.le_of_not_lt
    intro short
    have reaches := le_two_pow_maxWorkers x.toNat
    have longer : 2 ^ maxWorkers x.toNat ≤ 2 ^ (64 - 1 - (x - 1#64).clz.toNat) :=
      Nat.pow_le_pow_right (by omega) (by omega)
    omega

namespace Dispatch

/-! ## The slots of the workers -/

variable {n : Nat} {d : Dispatch n} {v w : Nat} {i : Fin n}

/-- Two workers never meet the same slot. -/
theorem owned_disjoint (hv : v < d.workers) (hw : w < d.workers) (other : v ≠ w) :
    (d.owned v).Disjoint (d.owned w) := by
  intro i first second
  apply other
  rw [← owner_eq_of_mem hv first, ← owner_eq_of_mem hw second]

/-- The workers together meet each slot once. -/
theorem count_owned (some : 0 < d.workers) (i : Fin n) :
    ((List.range d.workers).flatMap d.owned).count i = 1 := by
  apply List.count_eq_one_of_mem
  · rw [List.nodup_flatMap]
    constructor
    · intro w _
      exact (d.owned_pairwise w).imp Fin.ne_of_lt
    · refine List.nodup_range.pairwise_of_forall_ne fun v hv w hw other => ?_
      exact owned_disjoint (List.mem_range.1 hv) (List.mem_range.1 hw) other
  · refine List.mem_flatMap.2 ⟨d.owner i, List.mem_range.2 ?_, d.mem_owned_owner i⟩
    exact Nat.mod_lt _ some

/-- A worker meets its first slot and then every `d.workers`-th one up to the last. -/
theorem owned_eq_stride (some : 0 < d.workers) (w : Nat) :
    (d.owned w).map Fin.val =
      List.range' w ((n - w + d.workers - 1) / d.workers) d.workers := by
  have reached (k : Nat) :
      k < (n - w + d.workers - 1) / d.workers ↔ w + d.workers * k < n := by
    rw [Nat.lt_div_iff_mul_lt some, Nat.mul_comm]
    omega
  refine List.Pairwise.eq_of_mem_iff (r := (· < ·)) ?_ ?_ ?_
  · rw [List.pairwise_map]
    exact d.owned_pairwise w
  · exact List.pairwise_lt_range' _ some
  · intro k
    rw [List.mem_map, List.mem_range']
    constructor
    · rintro ⟨i, mem, rfl⟩
      obtain ⟨le, rem⟩ := mem_owned.1 mem
      obtain ⟨q, hq⟩ := Nat.dvd_of_mod_eq_zero rem
      have bound := i.isLt
      exact ⟨q, (reached q).2 (by omega), by omega⟩
    · rintro ⟨q, hq, rfl⟩
      have bound := (reached q).1 hq
      refine ⟨⟨w + d.workers * q, bound⟩, mem_owned.2 ⟨Nat.le_add_right _ _, ?_⟩, rfl⟩
      rw [Nat.add_sub_cancel_left]
      exact Nat.mul_mod_right _ _

end Dispatch

end PluginBridge
