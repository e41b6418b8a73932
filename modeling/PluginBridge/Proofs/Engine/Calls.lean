import PluginBridge.Engine.Request
import PluginBridge.Proofs.Engine.Consistency

/-!
# Sequences of calls

An `EngineCall` is anything that is done to the engine, from the outside or by a handler that is
running. A request is two of them: its job is posted, and later the slot is handed back; whatever
its handler calls comes in between (`EngineIn.request_calls`). So a list of calls covers every
order of balanced and unbalanced starts and stops, switches and nested requests, and the engine is
consistent after each of them (`consistent_performAll`).
-/

namespace PluginBridge

/-! ## Requests -/

namespace Batch

variable {n : Nat} {b c : Batch n} {i : Fin n}

/-- Two batches with the same claimed slots, one as ordinary as the other. -/
structure Alike (b c : Batch n) : Prop where
  inUse : ∀ i, c.inUse i = b.inUse i
  ordinary : ∀ i, (b.state i).Ordinary → (c.state i).Ordinary

/-- Writing to the cells of a slot changes no state. -/
theorem Alike.put {s : Slot} (same : s.state = b.state i) : b.Alike (b.put i s) := by
  have state (j : Fin n) : (b.put i s).state j = b.state j := by
    by_cases hj : j = i
    · subst hj
      simpa [Batch.state] using same
    · simp [Batch.state, slot_put_of_ne b s hj]
  exact ⟨fun j => by rw [Batch.inUse, state, Batch.inUse], fun j h => by rwa [state]⟩

/-- A claimed slot stays claimed if it goes from one ordinary state to another. -/
theorem Alike.withState {x : SlotState} (used : b.inUse i) (hx : x ≠ .unused) (ordinary : x.Ordinary) :
    b.Alike (b.withState i x) where
  inUse j := by
    by_cases hj : j = i
    · subst hj
      simpa [used] using hx
    · exact inUse_withState_of_ne b x hj
  ordinary j h := by
    by_cases hj : j = i
    · subst hj
      simpa using ordinary
    · rwa [state_withState_of_ne b x hj]

theorem Alike.trans {d : Batch n} (h : b.Alike c) (h' : c.Alike d) : b.Alike d :=
  ⟨fun i => (h'.inUse i).trans (h.inUse i), fun i ord => h'.ordinary i (h.ordinary i ord)⟩

theorem alike_post (b : Batch n) (i : Fin n) (job : Job) : b.Alike (b.post i job).1 := by
  have stored : b.Alike (b.put i ((b.slot i).storeJob job)) := .put (Slot.state_storeJob ..)
  by_cases waiting : b.state i = .waiting
  · rw [post_of_waiting job waiting]
    have used : (b.put i ((b.slot i).storeJob job)).inUse i := by
      rw [stored.inUse, inUse_iff]
      simp [waiting]
    have posted := Alike.withState (x := .posted) used (by simp) (by simp [SlotState.Ordinary])
    apply stored.trans
    simpa [Batch.withState, Slot.withState] using posted
  · obtain ⟨v, eq⟩ := post_of_ne job waiting
    rw [eq]
    exact stored

theorem alike_finish (b : Batch n) (i : Fin n) (c : ResultCode) : b.Alike (b.finish i c) := by
  have stored : b.Alike (b.put i ((b.slot i).store (.result c.toInt))) :=
    .put (Slot.state_store ..)
  rw [finish]
  by_cases posted : (b.put i ((b.slot i).store (.result c.toInt))).state i = .posted
  · rw [exchange_of_eq _ posted]
    exact stored.trans (.withState (inUse_iff.2 (by simp [posted])) (by simp)
      (by simp [SlotState.Ordinary]))
  · rw [exchange_of_ne _ posted]
    exact stored

end Batch

namespace Engine

variable {e : Engine} {c : Client}

/-- A batch may be exchanged for one with the same claimed slots. -/
theorem Consistent.putBatch {b b' : Batch slotCount} (h : e.Consistent) (hb : e.batchOf? c = some b)
    (alike : b.Alike b') : (e.putBatch c b').Consistent := by
  rw [batchOf?] at hb
  rw [Engine.putBatch]
  split at hb
  · next current =>
    rw [if_pos current]
    obtain ⟨d, hd, rfl⟩ := Option.map_eq_some_iff.1 hb
    have staffed := h.staffed d hd
    have use := alike.inUse
    refine consistent_of_some (d := { d with batch := b' }) (by simp [hd]) (h.workers d hd)
      (staffed.congr rfl rfl use fun i => alike.ordinary i (staffed.ordinary i))
      (fun active => (h.busy d hd active).congr use) (fun inactive => ?_) h.retired
    obtain ⟨i, used⟩ := h.leftover d hd inactive
    exact ⟨i, by rwa [use]⟩
  · next earlier =>
    rw [if_neg earlier]
    refine ⟨h.workers, h.staffed, h.busy, h.leftover, h.idle, fun b'' hb'' i => ?_⟩
    rcases List.mem_or_eq_of_mem_set hb'' with old | rfl
    · exact h.retired _ old i
    · have unused := h.retired b (List.mem_of_getElem? hb) i
      have use := alike.inUse i
      simpa [Batch.inUse, unused] using use

theorem Consistent.post (h : e.Consistent) (c : Client) (job : Job) : (e.post c job).1.Consistent := by
  rw [Engine.post]
  cases hb : e.batchOf? c with
  | none => exact h
  | some b => exact h.putBatch hb (b.alike_post c.slot job)

theorem Consistent.finish (h : e.Consistent) (c : Client) (code : ResultCode) :
    (e.finish c code).Consistent := by
  rw [Engine.finish]
  cases hb : e.batchOf? c with
  | none => exact h
  | some b => exact h.putBatch hb (b.alike_finish c.slot code)

end Engine

/-! ## Calls -/

/-- Something that is done to the engine. -/
inductive EngineCall where
  | start (h : Handle)
  | stop (h : Handle)
  | setEnabled (enabled : Bool)
  /-- A request begins. -/
  | post (c : Client) (job : Job)
  /-- A request is answered. -/
  | finish (c : Client) (code : ResultCode)

namespace Engine

/-- The engine after a call, whether it succeeds or not. -/
def perform (e : Engine) : EngineCall → Engine
  | .start h => (e.start h).1
  | .stop h => (e.stop h).1
  | .setEnabled enabled => e.setEnabled enabled
  | .post c job => (e.post c job).1
  | .finish c code => e.finish c code

/-- The engine after several calls. -/
def performAll (e : Engine) (calls : List EngineCall) : Engine := calls.foldl perform e

theorem performAll_append (e : Engine) (as bs : List EngineCall) :
    e.performAll (as ++ bs) = (e.performAll as).performAll bs :=
  List.foldl_append

variable {e : Engine}

theorem Consistent.perform (h : e.Consistent) (call : EngineCall) : (e.perform call).Consistent := by
  cases call with
  | start handle => exact h.start handle
  | stop handle => exact h.stop handle
  | setEnabled enabled => exact h.setEnabled enabled
  | post c job => exact h.post c job
  | finish c code => exact h.finish c code

theorem consistent_performAll (h : e.Consistent) (calls : List EngineCall) :
    (e.performAll calls).Consistent := by
  induction calls generalizing e with
  | nil => exact h
  | cons call calls ih => exact ih (h.perform call)

/-- **The engine between two calls.** Whatever has been called, on which side and in which order,
and whether it succeeded or not, the engine is orderly afterwards. The slots of its batch are
unused, waiting or posted. The high-water mark stands just above the highest claimed one, and each
claimed one has its worker. While starts are outstanding, each worker has a claimed slot; when none
is, a batch is only there if a slot of it is still claimed. Without a batch there are no workers,
and the batches of earlier activations have no claimed slots. -/
theorem orderly_between_calls (config : Config) (machine : Nat) (calls : List EngineCall) :
    let e := (new config machine).performAll calls
    (∀ d, e.dispatch = some d →
      (∀ i, d.batch.state i ∈ [.unused, .waiting, .posted]) ∧
      (∀ i, d.batch.inUse i → i.val < d.highWater) ∧
      (d.highWater = 0 ∨ ∃ i, d.batch.inUse i ∧ i.val + 1 = d.highWater) ∧
      (∀ i, d.batch.inUse i → e.pool.isLive (i.val % e.maxWorkers)) ∧
      (0 < e.active → ∀ w, e.pool.isLive w → ∃ i, d.batch.inUse i ∧ i.val % e.maxWorkers = w) ∧
      (e.active = 0 → ∃ i, d.batch.inUse i)) ∧
    (e.dispatch = none → e.pool.liveCount = 0) ∧
    ∀ b ∈ e.retired, ∀ i, b.state i = .unused := by
  intro e
  have h : e.Consistent := consistent_performAll (consistent_new config machine) calls
  refine ⟨fun d hd => ?_, fun none => Pool.liveCount_eq_zero.2 (h.idle none), h.retired⟩
  have staffed := h.staffed d hd
  refine ⟨staffed.ordinary, staffed.marked.above, staffed.marked.tight, fun i used => ?_,
    fun active w live => ?_, h.leftover d hd⟩
  · rw [← h.workers d hd]
    exact staffed.manned i used
  · obtain ⟨i, mem, used⟩ := Dispatch.ownedInUse_iff.1 (h.busy d hd active w live)
    have hw : w < d.workers := staffed.room ▸ Pool.lt_of_isLive live
    exact ⟨i, used, by rw [← h.workers d hd]; exact Dispatch.owner_eq_of_mem hw mem⟩

end Engine

/-! ## Requests are calls -/

namespace EngineIn

variable {W : Type} {at_ : EngineIn W}

/-- What is put into a world is found there. -/
def Lawful (at_ : EngineIn W) : Prop := ∀ e w, at_.get (at_.put e w) = e

/-- What a request does to the engine is a post, the calls of its handler, and an answer. -/
theorem request_calls (lawful : at_.Lawful)
    {handler : Nat → Job → W → W × Except Escape ResultCode}
    (calls : ∀ worker job w, ∃ calls, at_.get (handler worker job w).1 = (at_.get w).performAll calls)
    (c : Client) (job : Job) (w : W) :
    ∃ calls, at_.get (at_.request handler c job w).1 = (at_.get w).performAll calls := by
  rw [request]
  have posted : at_.get (at_.put ((at_.get w).post c job).1 w) =
      (at_.get w).performAll [.post c job] := lawful _ _
  cases hp : (at_.get w).post c job with
  | mk e r =>
    rw [hp] at posted
    cases r with
    | error v => exact ⟨_, posted⟩
    | ok _ =>
    cases (at_.get w).server c with
    | error s => exact ⟨_, posted⟩
    | ok worker =>
    cases hj : e.job? c with
    | none => exact ⟨[.post c job], by simpa [hj] using posted⟩
    | some found =>
    obtain ⟨nested, served⟩ := calls worker found (at_.put e w)
    simp only
    cases hr : handler worker found (at_.put e w) with
    | mk w' reply =>
      rw [hr] at served
      have after : at_.get w' = (at_.get w).performAll (.post c job :: nested) := by
        rw [served, posted]
        rfl
      have finished (code : ResultCode) : at_.get (at_.put ((at_.get w').finish c code) w') =
          (at_.get w).performAll (.post c job :: nested ++ [.finish c code]) := by
        rw [lawful, after, Engine.performAll_append]
        rfl
      simp only [hj, hr]
      match reply with
      | .error (.standstill _) => exact ⟨_, after⟩
      | .ok code | .error (.panic _) =>
        simp only
        split <;> exact ⟨_, finished _⟩

end EngineIn

end PluginBridge
