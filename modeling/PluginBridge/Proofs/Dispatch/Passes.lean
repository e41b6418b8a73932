import Mathlib.Data.List.Basic
import PluginBridge.Dispatch.Scan
import PluginBridge.Proofs.Dispatch.Shares
import PluginBridge.Proofs.Slot.States

/-!
# What a pass does

A pass stops looking at the first slot beyond the high-water mark. Since a worker meets its slots in
increasing order, it misses none below the mark (`mem_scanned`). Unless it is asked to exit, it
serves the posted ones among those it looks at, in increasing order and each of them once
(`scan_eq`): the handler gets their jobs (`world_serveAll`) and each of them is waiting afterwards
(`state_serveAll`).
-/

namespace PluginBridge

namespace Dispatch

variable {W : Type} {n : Nat} {d : Dispatch n} {i j : Fin n} {worker : Nat} {handler : Handler W}
  {w : W} {l : List (Fin n)}

/-! ## The slots of a pass -/

/-- What is taken from a list up to the first failure is all that passes, if whatever comes before
something that passes does so too. -/
theorem takeWhile_eq_filter {α : Type} {p : α → Bool} {l : List α}
    (closed : l.Pairwise fun a b => p b → p a) : l.takeWhile p = l.filter p := by
  induction l with
  | nil => rfl
  | cons a rest ih =>
    obtain ⟨first, closed⟩ := List.pairwise_cons.1 closed
    by_cases pass : p a
    · rw [List.takeWhile_cons_of_pos pass, List.filter_cons_of_pos pass, ih closed]
    · rw [List.takeWhile_cons_of_neg pass, List.filter_cons_of_neg pass, eq_comm,
        List.filter_eq_nil_iff]
      exact fun b mem later => pass (first b mem later)

/-- A worker looks at its first slot, and at all of its slots below the mark. -/
theorem mem_scanned :
    i ∈ d.scanned worker ↔ i ∈ d.owned worker ∧ (i.val = worker ∨ i.val < d.highWater) := by
  have closed : (d.owned worker).Pairwise fun a b =>
      (b.val == worker || decide (b.val < d.highWater)) →
        (a.val == worker || decide (a.val < d.highWater)) := by
    refine (d.owned_pairwise worker).imp_of_mem ?_
    intro a b mine _ lt pass
    have beyond := (mem_owned.1 mine).1
    simp only [Bool.or_eq_true, beq_iff_eq, decide_eq_true_eq] at pass ⊢
    have := Fin.lt_def.1 lt
    omega
  rw [scanned, takeWhile_eq_filter closed, List.mem_filter]
  simp

theorem scanned_pairwise (d : Dispatch n) (worker : Nat) : (d.scanned worker).Pairwise (· < ·) :=
  (d.owned_pairwise worker).sublist (List.takeWhile_sublist _)

/-- The posted slots that a worker looks at. -/
def postedTo (d : Dispatch n) (worker : Nat) : List (Fin n) :=
  (d.scanned worker).filter fun i => d.batch.state i = .posted

theorem mem_postedTo :
    i ∈ d.postedTo worker ↔ i ∈ d.scanned worker ∧ d.batch.state i = .posted := by
  simp [postedTo]

theorem postedTo_pairwise (d : Dispatch n) (worker : Nat) : (d.postedTo worker).Pairwise (· < ·) :=
  (d.scanned_pairwise worker).filter _

/-! ## Serving several slots -/

/-- Serve the jobs in some slots, one after the other. -/
def serveAll (handler : Handler W) : List (Fin n) → Dispatch n → W → Dispatch n × W
  | [], d, w => (d, w)
  | i :: rest, d, w => serveAll handler rest (d.serve handler i w).1 (d.serve handler i w).2

/-- A served slot has an answer in it. -/
theorem serve_batch (d : Dispatch n) (handler : Handler W) (i : Fin n) (w : W) :
    ∃ code, (d.serve handler i w).1 = { d with batch := d.batch.finish i code } := by
  rw [serve]
  cases d.batch.job? i with
  | some job => exact ⟨_, rfl⟩
  | none => exact ⟨_, rfl⟩

theorem slot_serve_of_ne (d : Dispatch n) (handler : Handler W) (w : W) (ne : j ≠ i) :
    (d.serve handler i w).1.batch.slot j = d.batch.slot j := by
  obtain ⟨code, served⟩ := d.serve_batch handler i w
  rw [served]
  exact d.batch.slot_finish_of_ne code ne

theorem state_serve (d : Dispatch n) (handler : Handler W) (w : W)
    (posted : d.batch.state i = .posted) :
    (d.serve handler i w).1.batch.state i = .waiting := by
  obtain ⟨code, served⟩ := d.serve_batch handler i w
  rw [served]
  change (d.batch.finish i code).state i = .waiting
  rw [d.batch.state_finish i code, if_pos posted, Batch.state_withState_self]

/-- Serving some slots leaves the others alone. -/
theorem slot_serveAll_of_notMem (other : j ∉ l) :
    (serveAll handler l d w).1.batch.slot j = d.batch.slot j := by
  induction l generalizing d w with
  | nil => rfl
  | cons i rest ih =>
    rw [List.mem_cons, not_or] at other
    obtain ⟨ne, other⟩ := other
    rw [serveAll, ih other, d.slot_serve_of_ne handler w ne]

/-- Serving slots leaves everything but the batch alone. -/
theorem serveAll_batch (l : List (Fin n)) (d : Dispatch n) (w : W) :
    (serveAll handler l d w).1 = { d with batch := (serveAll handler l d w).1.batch } := by
  induction l generalizing d w with
  | nil => rfl
  | cons i rest ih =>
    obtain ⟨code, served⟩ := d.serve_batch handler i w
    rw [serveAll, ih, served]

/-- A posted slot that is served is waiting afterwards. -/
theorem state_serveAll (nodup : l.Nodup) (mem : j ∈ l) (posted : d.batch.state j = .posted) :
    (serveAll handler l d w).1.batch.state j = .waiting := by
  induction l generalizing d w with
  | nil => cases mem
  | cons i rest ih =>
    obtain ⟨once, nodup⟩ := List.nodup_cons.1 nodup
    rw [serveAll]
    by_cases here : j = i
    · subst here
      rw [Batch.state, slot_serveAll_of_notMem once]
      exact d.state_serve handler w posted
    · apply ih nodup ((List.mem_cons.1 mem).resolve_left here)
      rw [Batch.state, d.slot_serve_of_ne handler w here]
      exact posted

/-- The handler gets the jobs of the slots that are served, in order. -/
theorem world_serveAll (nodup : l.Nodup) :
    (serveAll handler l d w).2 =
      (l.filterMap d.batch.job?).foldl (fun w job => (handler job w).2) w := by
  induction l generalizing d w with
  | nil => rfl
  | cons i rest ih =>
    obtain ⟨once, nodup⟩ := List.nodup_cons.1 nodup
    have jobs : rest.filterMap (d.serve handler i w).1.batch.job? =
        rest.filterMap d.batch.job? := by
      apply List.filterMap_congr
      intro j mem
      have ne : j ≠ i := fun same => once (same ▸ mem)
      rw [Batch.job?, Batch.job?, d.slot_serve_of_ne handler w ne]
    rw [serveAll, ih nodup, jobs]
    cases found : d.batch.job? i with
    | some job => simp [serve, found]
    | none => simp [serve, found]

/-! ## Passes -/

/-- Going through slots of a worker serves the posted ones, unless it is asked to exit. -/
theorem scanSlots_eq (handler : Handler W) (worker : Nat) (nodup : l.Nodup)
    (running : ∀ i ∈ l, i.val = worker → d.batch.state i ≠ .exitAsked) (result : ScanResult) (w : W) :
    let posted := l.filter fun i => d.batch.state i = .posted
    scanSlots handler worker l result d w =
      ⟨if posted = [] then result else .served, (serveAll handler posted d w).1,
        (serveAll handler posted d w).2⟩ := by
  induction l generalizing d w result with
  | nil => rfl
  | cons i rest ih =>
    obtain ⟨once, nodup⟩ := List.nodup_cons.1 nodup
    have others := fun j mem => running j (List.mem_cons_of_mem i mem)
    intro posted
    cases state : d.batch.state i with
    | posted =>
      -- The service of one slot changes none of the later ones.
      have same (j : Fin n) (mem : j ∈ rest) :
          (d.serve handler i w).1.batch.state j = d.batch.state j := by
        have ne : j ≠ i := fun same => once (same ▸ mem)
        rw [Batch.state, d.slot_serve_of_ne handler w ne, Batch.state]
      have later : rest.filter (fun j => (d.serve handler i w).1.batch.state j = .posted) =
          rest.filter fun j => d.batch.state j = .posted := by
        apply List.filter_congr
        intro j mem
        rw [same j mem]
      have here : posted = i :: rest.filter fun j => d.batch.state j = .posted := by
        simp [posted, state]
      rw [here, serveAll]
      simp only [scanSlots, state]
      rw [ih nodup (fun j mem => by rw [same j mem]; exact others j mem), later]
      simp
    | exitAsked =>
      have other : i.val ≠ worker := fun mine =>
        running i List.mem_cons_self mine state
      have here : posted = rest.filter fun j => d.batch.state j = .posted := by
        simp [posted, state]
      simp only [scanSlots, state, if_neg other]
      rw [here, ih nodup others]
    | unused | waiting | exitSeen =>
      have here : posted = rest.filter fun j => d.batch.state j = .posted := by
        simp [posted, state]
      simp only [scanSlots, state]
      rw [here, ih nodup others]

/-- A pass that is not asked to exit serves the posted slots that it looks at. -/
theorem scan_eq (handler : Handler W) (running : ∀ i : Fin n, i.val = worker →
    d.batch.state i ≠ .exitAsked) (w : W) :
    d.scan handler worker w =
      ⟨if d.postedTo worker = [] then .idle else .served, (serveAll handler (d.postedTo worker) d w).1,
        (serveAll handler (d.postedTo worker) d w).2⟩ :=
  scanSlots_eq handler worker ((d.scanned_pairwise worker).imp Fin.ne_of_lt)
    (fun i _ => running i) .idle w

end Dispatch

end PluginBridge
