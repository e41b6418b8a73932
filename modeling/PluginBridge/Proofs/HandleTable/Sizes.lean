import PluginBridge.HandleTable

/-!
# The size of a handle table

A table has a free handle as long as it has fewer than `maxHandle` values (`free?_eq_none`), and
the one that it offers is the smallest (`free?_spec`). A value that is put under a free handle is
one more, and one that is taken out is one less.
-/

namespace PluginBridge

namespace Handle

theorem all_pairwise : all.Pairwise fun h k => h.raw < k.raw := by
  rw [all, List.pairwise_map]
  exact (List.pairwise_lt_finRange _).imp fun {i j} lt => Nat.succ_lt_succ lt

theorem length_all : all.length = maxHandle := by
  simp [all]

/-- Two properties of handles that differ for one handle only are counted with a difference of
one. -/
theorem countP_all {p q : Handle → Bool} (h : Handle) (before : p h = false) (after : q h = true)
    (same : ∀ k, k ≠ h → q k = p k) : all.countP q = all.countP p + 1 := by
  have count (l : List Handle) (sorted : l.Pairwise fun h k => h.raw < k.raw) :
      l.countP q = l.countP p + if h ∈ l then 1 else 0 := by
    induction l with
    | nil => rfl
    | cons k rest ih =>
      obtain ⟨later, sorted⟩ := List.pairwise_cons.1 sorted
      rw [List.countP_cons, List.countP_cons, ih sorted]
      by_cases hk : k = h
      · subst hk
        have absent : k ∉ rest := fun mem => Nat.lt_irrefl _ (later k mem)
        simp [before, after, absent]
      · rw [same k hk]
        simp only [List.mem_cons, Ne.symm hk, false_or]
        omega
  rw [count all all_pairwise, if_pos (mem_all h)]

end Handle

namespace HandleTable

variable {α : Type} {t : HandleTable α} {h k : Handle} {v : α}

theorem get?_put (t : HandleTable α) (h k : Handle) (v : Option α) :
    (t.put h v).get? k = if k = h then v else t.get? k := by
  by_cases hk : k = h
  · rw [hk, get?_put_self, if_pos rfl]
  · rw [get?_put_of_ne t v hk, if_neg hk]

/-- The free handle that a table offers is the smallest. -/
theorem free?_spec (free : t.free? = some h) :
    t.get? h = none ∧ ∀ k : Handle, k.raw < h.raw → (t.get? k).isSome := by
  obtain ⟨none, before, after, split, used⟩ := List.find?_eq_some_iff_append.1 free
  refine ⟨Option.isNone_iff_eq_none.1 none, fun k lt => ?_⟩
  have sorted := Handle.all_pairwise
  have mem := Handle.mem_all k
  rw [split] at sorted mem
  rcases List.mem_append.1 mem with first | rest
  · simpa using used k first
  · have after := (List.pairwise_append.1 sorted).2.1
    rcases List.mem_cons.1 rest with rfl | later
    · exact absurd lt (Nat.lt_irrefl _)
    · exact absurd (List.rel_of_pairwise_cons after later) (Nat.lt_asymm lt)

/-- A table offers no handle when it is full. -/
theorem free?_eq_none : t.free? = none ↔ t.size = maxHandle := by
  rw [free?, List.find?_eq_none, size, ← Handle.length_all, List.countP_eq_length]
  simp [Option.isSome_iff_ne_none]

theorem size_eq_zero : t.size = 0 ↔ ∀ h, t.get? h = none := by
  rw [size, List.countP_eq_zero]
  simp [Handle.mem_all]

theorem size_pos (h : Handle) (used : t.get? h = some v) : 0 < t.size := by
  refine Nat.pos_of_ne_zero fun zero => ?_
  simp [size_eq_zero.1 zero h] at used

/-- A value under a free handle is one more. -/
theorem size_put_some (free : t.get? h = none) : (t.put h (some v)).size = t.size + 1 :=
  Handle.countP_all h (by simp [free]) (by simp) fun k ne => by rw [get?_put_of_ne t _ ne]

/-- A value that is taken out is one less. -/
theorem size_put_none (used : t.get? h = some v) : (t.put h none).size + 1 = t.size :=
  (Handle.countP_all h (by simp) (by simp [used]) fun k ne => by rw [get?_put_of_ne t _ ne]).symm

theorem register_of_free (free : t.free? = some h) : t.register v = .ok (h, t.put h (some v)) := by
  rw [register, free]

theorem register_of_full (full : t.free? = none) :
    t.register v = .error (.capacityExhausted registerRounds) := by
  rw [register, full]

theorem lookup_of_some (used : t.get? h = some v) : t.lookup h = .ok v := by
  rw [lookup, used]

theorem lookup_of_none (free : t.get? h = none) :
    t.lookup h = .error (.invalidHandle "lookup" h.raw) := by
  rw [lookup, free]

theorem revoke_of_some (used : t.get? h = some v) : t.revoke h = .ok (v, t.put h none) := by
  rw [revoke, used]

theorem revoke_of_none (free : t.get? h = none) :
    t.revoke h = .error (.invalidHandle "revoke" h.raw) := by
  rw [revoke, free]

/-- What is left of a table was there before. -/
theorem get?_of_revoked {t' : HandleTable α} {w : α} (done : t.revoke h = .ok (v, t'))
    (found : t'.get? k = some w) : t.get? k = some w := by
  cases used : t.get? h with
  | none =>
    rw [revoke, used] at done
    cases done
  | some u =>
    rw [revoke_of_some used] at done
    cases done
    rw [get?_put] at found
    split at found
    · cases found
    · exact found

end HandleTable

end PluginBridge
