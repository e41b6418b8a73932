import Mathlib.Data.List.Sort
import Mathlib.Data.Set.List
import PluginBridge.Proofs.Dispatch.Crews

/-!
# What a pass owes

`Dispatch.due` lists the slots that one pass of a worker has to serve, by their indices alone: the
posted ones whose remainder is the worker, its first slot in any case and the others below the
high-water mark. The slots that the loop comes to serve are just these (`postedTo_eq_due`). Serving
them calls the handler once for each of them, in this order, with the job that is in the slot, and
hands each slot back with the answer to its own job (`serveAll_answers`). With the request to exit,
which ends a pass at its first slot, this is all that a pass can come to
(`scan_does_its_share`).
-/

namespace PluginBridge

variable {W : Type} {n : Nat}

/-- What a handler answers to some jobs, one after the other, and the world after the last one. -/
def Handler.answers (handler : Handler W) : List Job → W → List Reply × W
  | [], w => ([], w)
  | job :: jobs, w =>
    let (reply, w) := handler job w
    let (replies, w) := Handler.answers handler jobs w
    (reply :: replies, w)

/-- A slot that was handed back with an answer. -/
def Slot.answered (s : Slot) (reply : Reply) : Slot :=
  { s with state := .waiting, result := reply.toCode.toInt }

/-- A posted slot is handed back with its result and nothing else changed. -/
theorem Batch.finish_of_posted {b : Batch n} {i : Fin n} (posted : b.state i = .posted)
    (reply : Reply) : b.finish i reply.toCode = b.put i ((b.slot i).answered reply) := by
  have stored : (b.put i ((b.slot i).store (.result reply.toCode.toInt))).state i = .posted := by
    simpa [Batch.state] using posted
  rw [finish, exchange_of_eq _ stored, withState, put_put, slot_put_self]
  rfl

namespace Dispatch

variable {d : Dispatch n} {worker : Nat} {handler : Handler W} {w : W} {l : List (Fin n)}

/-- The slots that a pass of a worker has to serve, in increasing order. -/
def due (d : Dispatch n) (worker : Nat) : List (Fin n) :=
  (List.finRange n).filter fun i =>
    d.batch.state i = .posted ∧ i.val % d.workers = worker ∧ (i.val = worker ∨ i.val < d.highWater)

theorem mem_owned_iff {i : Fin n} (mine : worker < d.workers) :
    i ∈ d.owned worker ↔ i.val % d.workers = worker :=
  ⟨owner_eq_of_mem mine, fun same => same ▸ d.mem_owned_owner i⟩

/-- A pass misses none of the slots that are due, and serves no other one. -/
theorem postedTo_eq_due (mine : worker < d.workers) : d.postedTo worker = d.due worker := by
  have increasing : (d.due worker).Pairwise (· < ·) := (List.pairwise_lt_finRange n).filter _
  refine (d.postedTo_pairwise worker).eq_of_mem_iff increasing fun i => ?_
  rw [mem_postedTo, mem_scanned, mem_owned_iff mine, and_comm]
  simp [due]

/-- Serving posted slots calls the handler for each of them in turn, and hands each one back with
the answer to its own job. -/
theorem serveAll_answers (handler : Handler W) (w : W) {jobs : List Job} (nodup : l.Nodup)
    (posted : ∀ i ∈ l, d.batch.state i = .posted)
    (found : l.map d.batch.job? = jobs.map some) :
    (serveAll handler l d w).2 = (handler.answers jobs w).2 ∧
      ∀ (k : Nat) (i : Fin n), l[k]? = some i →
        ∃ reply, (handler.answers jobs w).1[k]? = some reply ∧
          (serveAll handler l d w).1.batch.slot i = (d.batch.slot i).answered reply := by
  induction l generalizing d w jobs with
  | nil =>
    cases List.map_eq_nil_iff.1 found.symm
    exact ⟨rfl, by simp⟩
  | cons i rest ih =>
    obtain ⟨once, nodup⟩ := List.nodup_cons.1 nodup
    obtain _ | ⟨job, jobs⟩ := jobs
    · cases found
    obtain ⟨here, later⟩ := List.cons.inj found
    have here : d.batch.job? i = some job := here
    let answer := handler job w
    have served : d.serve handler i w =
        ({ d with batch := d.batch.put i ((d.batch.slot i).answered answer.1) }, answer.2) := by
      simp only [serve, here, Batch.finish_of_posted (posted i List.mem_cons_self)]
      rfl
    -- The service of one slot changes none of the later ones.
    have same {j : Fin n} (mem : j ∈ rest) : (d.serve handler i w).1.batch.slot j = d.batch.slot j :=
      d.slot_serve_of_ne handler w fun eq => once (eq ▸ mem)
    have later : rest.map (d.serve handler i w).1.batch.job? = jobs.map some := by
      rw [← later]
      exact List.map_congr_left fun j mem => by rw [Batch.job?, same mem, Batch.job?]
    have waits (j : Fin n) (mem : j ∈ rest) : (d.serve handler i w).1.batch.state j = .posted := by
      rw [Batch.state, same mem]
      exact posted j (List.mem_cons_of_mem i mem)
    obtain ⟨world, slots⟩ := ih (d.serve handler i w).2 nodup waits later
    rw [serveAll]
    have worldAfter : (d.serve handler i w).2 = answer.2 := by rw [served]
    rw [worldAfter] at world slots
    refine ⟨by rw [worldAfter, world]; rfl, fun k j at_ => ?_⟩
    rw [worldAfter]
    cases k with
    | zero =>
      cases Option.some.inj at_
      refine ⟨answer.1, rfl, ?_⟩
      rw [slot_serveAll_of_notMem once, served]
      exact Batch.slot_put_self _ _ _
    | succ k =>
      have mem : j ∈ rest := List.mem_of_getElem? at_
      obtain ⟨reply, answered, slot⟩ := slots k j at_
      exact ⟨reply, answered, by rw [slot, same mem]⟩

/-- **A pass does exactly its share.** Let posted slots hold jobs. If the worker is asked to exit at
its first slot, the pass ends with the acknowledgement there, calls no handler and changes nothing
else. Otherwise it calls the handler once for each slot that is due, in increasing order and with
the job that is in the slot. It writes the code of the answer to this job, a failure if the handler
panicked, and moves the slot to waiting. All other slots are as they were, and the pass tells
whether any slot was due. -/
theorem scan_does_its_share (d : Dispatch n) (handler : Handler W) {worker : Nat}
    (mine : worker < d.workers)
    (held : ∀ i, d.batch.state i = .posted → (d.batch.job? i).isSome) (world : W) :
    let pass := d.scan handler worker world
    (∀ i : Fin n, i.val = worker → d.batch.state i = .exitAsked →
      pass = ⟨.exit, { d with batch := d.batch.withState i .exitSeen }, world⟩) ∧
    ((∀ i : Fin n, i.val = worker → d.batch.state i ≠ .exitAsked) →
      ∃ jobs : List Job, (d.due worker).map d.batch.job? = jobs.map some ∧
        pass.world = (handler.answers jobs world).2 ∧
        (∀ (k : Nat) (i : Fin n), (d.due worker)[k]? = some i →
          ∃ reply, (handler.answers jobs world).1[k]? = some reply ∧
            pass.dispatch.batch.slot i =
              { d.batch.slot i with state := .waiting, result := reply.toCode.toInt }) ∧
        (∀ i, i ∉ d.due worker → pass.dispatch.batch.slot i = d.batch.slot i) ∧
        pass.dispatch = { d with batch := pass.dispatch.batch } ∧
        pass.result = if d.due worker = [] then .idle else .served) := by
  intro pass
  constructor
  · rintro i rfl asked
    exact scan_of_asked handler world asked
  · intro running
    have nodup : (d.due worker).Nodup :=
      ((List.pairwise_lt_finRange n).filter _).imp Fin.ne_of_lt
    have posted (i : Fin n) (mem : i ∈ d.due worker) : d.batch.state i = .posted := by
      have conditions := (List.mem_filter.1 mem).2
      exact (of_decide_eq_true conditions).1
    obtain ⟨jobs, found⟩ : (d.due worker).map d.batch.job? ∈ Set.range (List.map some) := by
      rw [Set.range_list_map]
      intro job? mem
      obtain ⟨i, due, rfl⟩ := List.mem_map.1 mem
      obtain ⟨job, found⟩ := Option.isSome_iff_exists.1 (held i (posted i due))
      exact ⟨job, found.symm⟩
    have spec : pass = _ := scan_eq handler running world
    rw [postedTo_eq_due mine] at spec
    obtain ⟨called, answered⟩ := serveAll_answers handler world nodup posted
      found.symm
    rw [spec]
    exact ⟨jobs, found.symm, called, answered, fun i other => slot_serveAll_of_notMem other,
      serveAll_batch _ d world, rfl⟩

/-- Two workers and eight slots, four of them posted; the last of these is not below the mark. -/
def crowded : Dispatch 8 where
  batch := ⟨Vector.ofFn fun i =>
    if i ∈ [0, 1, 4, 6] then { state := .posted, handle := i + 1, event := 10 * i } else {}⟩
  highWater := 6
  workers := 2

/-- A pass serves the two slots that are due, and another one that finds the request to exit serves
none. -/
theorem scan_does_its_share_crowded :
    let handler : Handler (List Nat) := fun job seen =>
      (if job.handle.raw = 5 then .panicked else .code .success, job.event :: seen)
    let asked := { crowded with batch := crowded.batch.withState 0 .exitAsked }
    (0 < crowded.workers ∧ ∀ i, crowded.batch.state i = .posted → (crowded.batch.job? i).isSome) ∧
      (∀ i, asked.batch.state i = .posted → (asked.batch.job? i).isSome) ∧
      crowded.due 0 = [0, 4] ∧ (crowded.scan handler 0 []).result = .served ∧
      (crowded.scan handler 0 []).world = [40, 0] ∧
      (crowded.scan handler 0 []).dispatch.batch.slot 4 =
        { crowded.batch.slot 4 with state := .waiting, result := 1 } ∧
      (crowded.scan handler 0 []).dispatch.batch.slot 6 = crowded.batch.slot 6 ∧
      asked.scan handler 0 [] =
        ⟨.exit, { asked with batch := asked.batch.withState 0 .exitSeen }, []⟩ := by
  intro handler asked
  have held (i : Fin 8) : crowded.batch.state i = .posted → (crowded.batch.job? i).isSome := by
    decide +revert
  have held' (i : Fin 8) : asked.batch.state i = .posted → (asked.batch.job? i).isSome := by
    decide +revert
  have due : crowded.due 0 = [0, 4] := by decide
  obtain ⟨-, serves⟩ := scan_does_its_share crowded handler (show 0 < 2 by decide) held []
  obtain ⟨exits, -⟩ := scan_does_its_share asked handler (show 0 < 2 by decide) held' []
  obtain ⟨jobs, found, world, slots, others, -, result⟩ := serves (by decide)
  obtain rfl : jobs = [⟨⟨1, by decide, by decide⟩, 0, 0, 0⟩, ⟨⟨5, by decide, by decide⟩, 40, 0, 0⟩] :=
    List.map_injective_iff.2 (Option.some_injective Job) (found.symm.trans (by rw [due]; rfl))
  obtain ⟨reply, answered, slot⟩ := slots 1 4 (by rw [due]; rfl)
  cases Option.some.inj answered
  exact ⟨⟨by decide, held⟩, held', due, result.trans (by rw [due]; rfl), world, slot,
    others 6 (by decide), exits 0 rfl (by decide)⟩

end Dispatch

end PluginBridge
