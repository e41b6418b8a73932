import PluginBridge.Proofs.Traffic.Tenancy

/-!
# How long a posted job waits

`WorkerPoint.left` counts the steps that a worker still makes before it hands a posted slot of its
own back, those of its handlers included. Every step of the worker lowers it, steps of others leave
it alone (`Tended.left_step`), and it is never more than `patience`, which depends on the number of
slots only (`left_le`). A worker that is at its last slots, or on a pass that has gone past the
posted one, has to finish this pass and come round again.
-/

namespace PluginBridge

variable {n : Nat}

/-- The steps that are left at a slot. -/
def ServicePoint.left : ServicePoint → Nat
  | .reading .nothing => 7
  | .reading (.handle _) => 6
  | .reading (.event _ _) => 5
  | .reading (.count _ _ _) => 4
  | .calling _ => 3
  | .storing _ => 2
  | .handing => 1
  | .leaving => 1

namespace WorkerPoint

/-- The steps that are left to serve a slot, at the beginning of a pass over some slots or before
it. -/
def leftAfresh (owned : List (Fin n)) (i : Fin n) : Nat := 8 * owned.idxOf i + 9

/-- The steps that are left to serve a slot, between two slots of a pass. -/
def leftOnPass (owned : List (Fin n)) (i : Fin n) (rest : List (Fin n)) : Nat :=
  if i ∈ rest then 8 * rest.idxOf i + 8 else 8 * rest.length + 1 + leftAfresh owned i

/-- The steps that are left to serve a slot. -/
def left (owned : List (Fin n)) (i : Fin n) : WorkerPoint n → Nat
  | .between | .gone => leftAfresh owned i
  | .passing pass => leftOnPass owned i pass.rest
  | .serving j point pass => point.left + if j = i then 0 else leftOnPass owned i pass.rest

/-- A bound for the steps that are left to serve any of `n` slots. -/
def patience (n : Nat) : Nat := 16 * n + 17

variable {owned rest : List (Fin n)} {i j : Fin n} {d e : Dispatch n} {w : Nat}
  {p q : WorkerPoint n} {o : List (ServiceEvent n)}

theorem leftOnPass_self : leftOnPass owned i (i :: rest) = 8 := by
  simp [leftOnPass]

theorem leftOnPass_of_ne (ne : j ≠ i) :
    leftOnPass owned i (j :: rest) = leftOnPass owned i rest + 8 := by
  simp only [leftOnPass, List.mem_cons, Ne.symm ne, false_or, List.length_cons]
  have next : (j :: rest).idxOf i = rest.idxOf i + 1 := by
    rw [List.idxOf_cons, beq_false_of_ne ne, cond_false]
  split <;> omega

theorem leftOnPass_of_not_mem (h : i ∉ rest) : leftAfresh owned i < leftOnPass owned i rest := by
  rw [leftOnPass, if_neg h]
  omega

theorem leftOnPass_owned (h : i ∈ owned) : leftOnPass owned i owned + 1 = leftAfresh owned i := by
  rw [leftOnPass, if_pos h, leftAfresh]

theorem left_pos (owned : List (Fin n)) (i : Fin n) (p : WorkerPoint n) : 0 < p.left owned i := by
  cases p with
  | between | gone => simp [left, leftAfresh]
  | passing pass =>
    simp only [left, leftOnPass]
    split <;> omega
  | serving j point pass =>
    have : 0 < point.left := by
      cases point with
      | reading found => cases found <;> simp [ServicePoint.left]
      | calling | storing | handing | leaving => simp [ServicePoint.left]
    simp only [left]
    omega

/-- Each cell of a job that is read is a step less. -/
theorem left_read (s : Slot) (found : JobReading) :
    (read s found).left + 1 ≤ (ServicePoint.reading found).left := by
  cases found with
  | nothing =>
    simp only [read]
    split <;> simp [ServicePoint.left]
  | handle | event | count => simp [read, ServicePoint.left]

/-- A step of a worker that is between two slots of a pass. -/
theorem left_passing {mark : Nat} (within : j :: rest <:+ d.owned w)
    (sees : i.val < mark) (posted : d.batch.state i = .posted)
    (hs : (passing ⟨mark, j :: rest⟩).step d w = some (e, q, o)) :
    q.left (d.owned w) i + 1 ≤ leftOnPass (d.owned w) i (j :: rest) := by
  simp only [step] at hs
  split at hs
  · cases hs
    by_cases hj : j = i
    · subst hj
      simp [posted, look, left, ServicePoint.left, leftOnPass_self]
    · rw [leftOnPass_of_ne hj]
      cases d.batch.state j with
      | posted => simp [look, left, ServicePoint.left, hj]; omega
      | exitAsked =>
        simp only [look]
        split
        · simp only [left, ServicePoint.left, if_neg hj]
          omega
        · simp only [left]
          omega
      | unused | waiting | exitSeen => simp [look, left]
  · next beyond =>
    cases hs
    -- The slots come in increasing order, so this pass has gone past the posted slot.
    refine leftOnPass_of_not_mem fun mem => beyond (.inr ?_)
    rcases List.mem_cons.1 mem with rfl | later
    · exact sees
    · have sorted := (Dispatch.owned_pairwise d w).sublist within.sublist
      exact Nat.lt_trans (List.rel_of_pairwise_cons sorted later) sees

/-- A step of a worker lowers what is left to serve a posted slot of its own, unless it hands this
slot back or the worker exits. -/
theorem left_step (mine : i ∈ d.owned w) (within : p.Within d w) (sees : p.Sees i)
    (stays : ∀ j pass, p ≠ .serving j .leaving pass) (posted : d.batch.state i = .posted)
    (still : e.batch.state i = .posted) (hs : p.step d w = some (e, q, o)) :
    q.left (d.owned w) i + 1 ≤ p.left (d.owned w) i := by
  cases p with
  | between =>
    cases hs
    exact Nat.le_of_eq (leftOnPass_owned mine)
  | gone => cases hs
  | passing pass =>
    obtain ⟨mark, rest⟩ := pass
    cases rest with
    | nil =>
      cases hs
      exact leftOnPass_of_not_mem List.not_mem_nil
    | cons j rest => exact left_passing within.2 sees posted hs
  | serving j point pass =>
    cases point with
    | reading found =>
      cases hs
      have := left_read (d.batch.slot j) found
      simp only [left]
      omega
    | calling => cases hs
    | storing code =>
      cases hs
      simp only [left, ServicePoint.left]
      omega
    | handing =>
      by_cases hj : j = i
      · subst hj
        simp only [step, Batch.exchange_of_eq _ posted] at hs
        cases hs
        simp at still
      · simp only [step] at hs
        split at hs
        · cases hs
          simp only [left, ServicePoint.left, if_neg hj]
          omega
        · cases hs
          simp only [left, ServicePoint.left, if_neg hj]
          omega
    | leaving => exact absurd rfl (stays j pass)

theorem left_answer {reply : Reply} (h : p.answer reply = some (q, o)) :
    q.left owned i + 1 = p.left owned i := by
  unfold answer at h
  split at h <;> cases h
  simp only [left, ServicePoint.left]
  omega

theorem leftAfresh_le (h : owned.length ≤ n) (i : Fin n) : leftAfresh owned i ≤ 8 * n + 9 := by
  have := List.idxOf_le_length (a := i) (l := owned)
  rw [leftAfresh]
  omega

theorem leftOnPass_le (h : owned.length ≤ n) (i : Fin n) (rest : List (Fin n)) :
    leftOnPass owned i rest ≤ 8 * rest.length + 8 * n + 10 := by
  have afresh := leftAfresh_le h i
  have := List.idxOf_le_length (a := i) (l := rest)
  rw [leftOnPass]
  split <;> omega

/-- A worker that keeps to its slots serves any of them soon. -/
theorem left_le (within : p.Within d w) (i : Fin n) : p.left (d.owned w) i ≤ patience n := by
  have few := Dispatch.length_owned_le d w
  have afresh := leftAfresh_le few i
  cases p with
  | between | gone => simp only [left, patience]; omega
  | passing pass =>
    have := leftOnPass_le few i pass.rest
    have := within.2.length_le
    simp only [left, patience]
    omega
  | serving j point pass =>
    have onPass := leftOnPass_le few i pass.rest
    have shorter := within.2.length_le
    rw [List.length_cons] at shorter
    have here : point.left ≤ 7 := by
      cases point with
      | reading found => cases found <;> simp [ServicePoint.left]
      | calling | storing | handing | leaving => simp [ServicePoint.left]
    simp only [left, patience]
    split <;> omega

end WorkerPoint

namespace Traffic

variable {κ : Type} [DecidableEq κ] {slotOf : κ → Fin n} {t u : Traffic κ n} {m : TrafficMove κ n}
  {k : κ}

/-- The steps of the owner of a slot that are left to serve the slot. -/
def left (t : Traffic κ n) (i : Fin n) : Nat :=
  (t.workers (t.dispatch.owner i)).left (t.dispatch.owned (t.dispatch.owner i)) i

/-- While a job of a client is posted, every move of its worker brings the end of its service
nearer, and no other move puts it off. -/
theorem Tended.left_step (h : t.Tended slotOf) (hs : t.step slotOf m = some u)
    (posted : t.dispatch.batch.state (slotOf k) = .posted)
    (still : u.dispatch.batch.state (slotOf k) = .posted) :
    u.left (slotOf k) + (m.byWorker (t.dispatch.owner (slotOf k))).toNat ≤ t.left (slotOf k) := by
  have workers := workers_step hs
  rw [left, owner_congr workers, owned_congr workers, left]
  have mine := Dispatch.mem_owned_owner t.dispatch (slotOf k)
  generalize t.dispatch.owner (slotOf k) = w at mine ⊢
  cases step_worker hs w with
  | same other point => rw [other, point]; simp
  | stepped move step =>
    subst move
    have stays : ∀ j pass, t.workers w ≠ .serving j .leaving pass :=
      fun j pass leaving => h.stays k w j pass leaving mine
    simpa [TrafficMove.byWorker] using
      WorkerPoint.left_step mine (h.sound.within w) (h.sees w k) stays posted still step
  | answered move _ answer =>
    subst move
    simpa [TrafficMove.byWorker] using Nat.le_of_eq (WorkerPoint.left_answer answer)
  | spawned move gone point =>
    subst move
    simp [TrafficMove.byWorker, gone, point, WorkerPoint.left]

end Traffic

end PluginBridge
