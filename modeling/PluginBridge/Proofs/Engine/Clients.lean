import PluginBridge.Proofs.Engine.Changes
import PluginBridge.Proofs.Engine.Service

/-!
# The life of a client

A start gives out a client when it claims a slot, and the client stands for the slot, not for the
start. A stop gives the slot back, and from then on every request through the client is rejected
(`stays_unused`, `request_of_unused`). That ends when the slot is claimed again in the same
activation: what that start gives out is the same client, so whoever kept the old one has the slot
again (`stopped_client`).
-/

namespace PluginBridge

namespace SlotChange

variable {e : Engine} {call : EngineCall} {c : Client} {old new : Option SlotState}

/-- A slot that was there stays there. -/
theorem isSome (change : SlotChange e call c old new) (there : old.isSome) : new.isSome := by
  cases change with
  | same => exact there
  | opened | claimed | released | posted | finished => rfl

/-- An unused slot stays unused unless its client is given out. -/
theorem unused (change : SlotChange e call c (some .unused) new)
    (kept : ∀ h, call = .start h → (e.start h).2 ≠ .ok (some c)) : new = some .unused := by
  cases change with
  | same => rfl
  | claimed start given => exact absurd given (kept _ start)

end SlotChange

namespace Engine

variable {e e' : Engine} {c : Client} {h : Handle}

/-! ## What starts and stops leave of a client's slot -/

/-- A start that gives out a client has claimed the slot of its handle in the current activation. -/
theorem start_given (given : e.start h = (e', .ok (some c))) :
    c = ⟨e'.retired.length, h.slot⟩ ∧ e'.state? c = some .waiting := by
  have outcome := e.start_outcome h
  rw [given] at outcome
  cases outcome with
  | claimed _ hd => exact ⟨rfl, by rw [state?_claimed hd, if_pos rfl]⟩

/-- A stop that works leaves the slot of its handle unused in every activation. -/
theorem Consistent.state_stop (consistent : e.Consistent) (stopped : (e.stop h).2 = .ok ())
    (slot : c.slot = h.slot) (there : (e.state? c).isSome) :
    (e.stop h).1.state? c = some .unused := by
  obtain ⟨x, found⟩ := Option.isSome_iff_exists.1 there
  have outcome := consistent.stop_outcome h
  generalize e.stop h = result at outcome stopped ⊢
  cases outcome with
  | unbalanced | stalled => cases stopped
  | free _ free =>
    rw [state?_settle]
    refine found.trans (congrArg some (Decidable.byContradiction fun used => ?_))
    obtain ⟨-, d, hd, state⟩ := consistent.current found used
    refine absurd (Batch.inUse_iff.2 ?_) (Bool.eq_false_iff.1 (free d hd))
    rwa [← slot, state]
  | released _ hd =>
    rw [state?_settle, state?_without hd]
    split
    · rfl
    · next other =>
      -- The slot of an earlier activation is unused anyway.
      rw [found]
      refine congrArg some (Decidable.byContradiction fun used => other ?_)
      obtain ⟨current, -⟩ := consistent.current found used
      rw [← current, ← slot]

/-! ## Clients through a run -/

/-- A client that was given out finds its slot for ever. -/
theorem Consistent.state_isSome (consistent : e.Consistent) (there : (e.state? c).isSome)
    (calls : List EngineCall) : ((e.performAll calls).state? c).isSome := by
  induction calls generalizing e with
  | nil => exact there
  | cons call rest ih =>
    exact ih (consistent.perform call) ((consistent.perform_change call c).isSome there)

/-- An unused slot stays unused as long as its client is not given out. -/
theorem Consistent.stays_unused (consistent : e.Consistent) (unused : e.state? c = some .unused)
    (calls : List EngineCall)
    (kept : ∀ before k rest, calls = before ++ .start k :: rest →
      ((e.performAll before).start k).2 ≠ .ok (some c)) :
    (e.performAll calls).state? c = some .unused := by
  induction calls generalizing e with
  | nil => exact unused
  | cons call rest ih =>
    have change := consistent.perform_change call c
    rw [unused] at change
    refine ih (consistent.perform call) (change.unused fun k start => ?_) fun before k after split => ?_
    · exact kept [] k rest (by rw [start]; rfl)
    · exact kept (call :: before) k after (by rw [split]; rfl)

/-! ## Requests -/

/-- A post to an unused slot is rejected. -/
theorem post_of_unused (unused : e.state? c = some .unused) (job : Job) :
    (e.post c job).2 = .error (.slotReleased c.slot) := by
  obtain ⟨b, hb, state⟩ := Option.map_eq_some_iff.1 unused
  have stored : (b.put c.slot ((b.slot c.slot).storeJob job)).state c.slot = .unused := by
    simpa [Batch.state] using state
  simp only [post, hb, Batch.post]
  rw [Batch.exchange_of_ne _ (by simp [stored]), stored]

/-- A post to a waiting slot is accepted, and the worker of the slot finds the job there. -/
theorem post_of_waiting (waiting : e.state? c = some .waiting) (job : Job) :
    (e.post c job).2 = .ok () ∧ (e.post c job).1.job? c = some job := by
  obtain ⟨b, hb, state⟩ := Option.map_eq_some_iff.1 waiting
  have posted : e.post c job = (e.putBatch c (b.posting c.slot job), .ok ()) := by
    simp only [post, hb, Batch.post_of_waiting job state]
    rfl
  rw [posted]
  refine ⟨rfl, ?_⟩
  rw [job?, batchOf?_putBatch hb]
  exact Batch.job?_posting b c.slot job

end Engine

/-- A request for an unused slot is rejected, whatever its handler would do. -/
theorem EngineIn.request_of_unused {W : Type} {at_ : EngineIn W} {w : W} {c : Client}
    (unused : (at_.get w).state? c = some .unused)
    (handler : Nat → Job → W → W × Except Escape ResultCode) (job : Job) :
    at_.request handler c job w =
      (at_.put ((at_.get w).post c job).1 w, .ok (.error (.slotReleased c.slot))) := by
  have rejected := Engine.post_of_unused unused job
  rw [request]
  cases hp : (at_.get w).post c job with
  | mk e r =>
    rw [hp] at rejected
    cases rejected
    rfl

namespace Engine

/-- **A client whose start was stopped.** After a stop for its handle has worked, every request
through a client is rejected, and no handler sees it, until a start gives that very client out
again. A start for another handle cannot do that, nor one of another activation; but each start for
the same handle does, in the activation of the client, and then a job that is posted through the old
client is accepted and found by the worker. -/
theorem stopped_client (config : Config) (machine : Nat) (past during after : List EngineCall)
    {h : Handle} {c : Client}
    (started : (((new config machine).performAll past).start h).2 = .ok (some c))
    {e : Engine} (run : e = (new config machine).performAll (past ++ .start h :: during))
    (stopped : (e.stop h).2 = .ok ()) :
    ((∀ before rest, after = before ++ .start h :: rest →
        (((e.stop h).1.performAll before).start h).2 ≠ .ok (some c)) →
      ∀ {W : Type} (at_ : EngineIn W) (w : W), at_.get w = (e.stop h).1.performAll after →
        ∀ handler job, at_.request handler c job w =
          (at_.put (((e.stop h).1.performAll after).post c job).1 w,
            .ok (.error (.slotReleased h.slot)))) ∧
    ∀ c' e', ((e.stop h).1.performAll after).start h = (e', .ok (some c')) →
      c'.activation = c.activation →
        c' = c ∧ ∀ job, (e'.post c job).2 = .ok () ∧ (e'.post c job).1.job? c = some job := by
  have reached : ((new config machine).performAll past).Consistent :=
    consistent_performAll (consistent_new config machine) past
  have consistent : e.Consistent := run ▸ consistent_performAll (consistent_new config machine) _
  obtain ⟨mine, waiting⟩ := start_given (Prod.ext rfl started)
  have slot : c.slot = h.slot := by rw [mine]
  have there : (e.state? c).isSome := by
    rw [run, performAll_append]
    exact (reached.start h).state_isSome (by rw [waiting]; rfl) during
  have unused := consistent.state_stop stopped slot there
  refine ⟨fun kept W at_ w hw handler job => ?_, fun c' e' given current => ?_⟩
  · have still := (consistent.stop h).stays_unused unused after fun before k rest split given => by
      have same : k = h := Handle.slot_injective (by
        rw [← slot, (start_given (Prod.ext rfl given)).1])
      exact kept before rest (same ▸ split) (same ▸ given)
    rw [EngineIn.request_of_unused (by rw [hw, still]) handler job, hw, slot]
  · obtain ⟨mine', waiting'⟩ := start_given given
    have same : c' = c := by
      cases c
      cases c'
      simp_all
    exact ⟨same, post_of_waiting (same ▸ waiting')⟩

/-- Two starts: the first one keeps the engine active when the second one is stopped. -/
def keptActive : List EngineCall :=
  [.start ⟨2, by decide, by decide⟩, .start ⟨1, by decide, by decide⟩]

/-- The client of the second start is rejected after its stop, and is given out by the next start. -/
theorem stopped_client_kept :
    let h : Handle := ⟨1, by decide, by decide⟩
    let c : Client := ⟨0, h.slot⟩
    let stopped := ((new {} 4).performAll keptActive).stop h
    let restarted := stopped.1.start h
    stopped.2 = .ok () ∧ restarted.2 = .ok (some c) ∧
      ∀ job, (EngineIn.request ⟨id, fun e _ => e⟩ (fun _ _ e => (e, .ok .success)) c job
          stopped.1).2 = .ok (.error (.slotReleased h.slot)) ∧
        (restarted.1.post c job).2 = .ok () := by
  have follows (h : Handle) (c : Client) {e : Engine} {past : List EngineCall}
      (run : e = (new {} 4).performAll (past ++ [.start h]))
      (started : (((new {} 4).performAll past).start h).2 = .ok (some c))
      (stopped : (e.stop h).2 = .ok ()) (given : ((e.stop h).1.start h).2 = .ok (some c)) (job : Job) :
      (EngineIn.request ⟨id, fun e _ => e⟩ (fun _ _ e => (e, .ok .success)) c job (e.stop h).1).2 =
          .ok (.error (.slotReleased h.slot)) ∧
        (((e.stop h).1.start h).1.post c job).2 = .ok () := by
    obtain ⟨rejected, accepted⟩ := stopped_client {} 4 past [] [] started run stopped
    refine ⟨?_, ((accepted c _ (Prod.ext rfl given) rfl).2 job).1⟩
    rw [rejected (fun before rest split => by simp at split) ⟨id, fun e _ => e⟩ (e.stop h).1 rfl]
  have started : (((new {} 4).performAll [.start ⟨2, by decide, by decide⟩]).start
      ⟨1, by decide, by decide⟩).2 = .ok (some ⟨0, ⟨0, by decide⟩⟩) := by
    decide +kernel
  have stopped : (((new {} 4).performAll keptActive).stop ⟨1, by decide, by decide⟩).2 = .ok () := by
    decide +kernel
  have given : ((((new {} 4).performAll keptActive).stop ⟨1, by decide, by decide⟩).1.start
      ⟨1, by decide, by decide⟩).2 = .ok (some ⟨0, ⟨0, by decide⟩⟩) := by
    decide +kernel
  exact ⟨stopped, given, fun job => follows _ _ rfl started stopped given job⟩

/-- A client whose start was stopped can be served: its handle was started again, the engine was
active all the time, and the handler is given the job of the old client. -/
theorem stopped_client_is_served :
    let seen : EngineIn (Engine × List Job) := ⟨Prod.fst, fun e w => (e, w.2)⟩
    let h : Handle := ⟨1, by decide, by decide⟩
    let c : Client := ⟨0, h.slot⟩
    let job : Job := ⟨h, 5, 0, 0⟩
    let stopped := ((new {} 4).performAll keptActive).stop h
    let restarted := stopped.1.start h
    let served := seen.request (fun _ job w => ((w.1, job :: w.2), .ok .success)) c job
      (restarted.1, [])
    (((new {} 4).performAll [.start ⟨2, by decide, by decide⟩]).start h).2 = .ok (some c) ∧
      stopped.2 = .ok () ∧ restarted.1.retired.length = c.activation ∧
      served.2 = .ok (.ok .success) ∧ served.1.2 = [job] := by
  decide +kernel

end Engine

end PluginBridge
