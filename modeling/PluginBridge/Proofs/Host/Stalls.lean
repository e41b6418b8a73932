import PluginBridge.Proofs.Engine.Changes
import PluginBridge.Proofs.Host.Calls

/-!
# Stops that stall

A stop for a handle whose slot is posted is refused, as when a handler stops its own handle. It
leaves the slots, the high-water mark and the threads alone, but it has counted down
(`stop_of_posted`), and nothing counts up again. So a second stop, after the request has been
answered, is not the one that was missed: it is refused as unbalanced if there is no other start,
and counts down once more if there is (`stop_countDown`). An instance whose close has stalled is
therefore never closed if it is the only one that is open (`stalled_close`).
-/

namespace PluginBridge

/-- Whether a call goes past the count of starts: a switch, or a part of a request. -/
def EngineCall.Uncounted : EngineCall → Prop
  | .start _ | .stop _ => False
  | .setEnabled _ | .post _ _ | .finish _ _ => True

namespace Engine

variable {e e' : Engine} {d : Dispatch slotCount} {c : Client} {h : Handle} {calls : List EngineCall}

/-! ## Calls that do not count -/

theorem putBatch_countDown (e : Engine) (c : Client) (b : Batch slotCount) :
    e.countDown.putBatch c b = (e.putBatch c b).countDown := by
  rw [putBatch, putBatch]
  split
  · next current => rw [if_pos (by exact current)]; rfl
  · next earlier => rw [if_neg (by exact earlier)]; rfl

theorem perform_countDown {call : EngineCall} (uncounted : call.Uncounted) (e : Engine) :
    e.countDown.perform call = (e.perform call).countDown := by
  have found (c : Client) : e.countDown.batchOf? c = e.batchOf? c := rfl
  cases call with
  | start h => cases uncounted
  | stop h => cases uncounted
  | setEnabled enabled => rfl
  | post c job =>
    simp only [perform, post, found]
    cases e.batchOf? c with
    | none => rfl
    | some b => exact putBatch_countDown e c _
  | finish c code =>
    simp only [perform, finish, found]
    cases e.batchOf? c with
    | none => rfl
    | some b => exact putBatch_countDown e c _

theorem performAll_countDown (uncounted : ∀ call ∈ calls, call.Uncounted) (e : Engine) :
    e.countDown.performAll calls = (e.performAll calls).countDown := by
  induction calls generalizing e with
  | nil => rfl
  | cons call rest ih =>
    have first := perform_countDown (uncounted call List.mem_cons_self) e
    change (e.countDown.perform call).performAll rest = ((e.perform call).performAll rest).countDown
    rw [first]
    exact ih (fun call mem => uncounted call (List.mem_cons_of_mem _ mem)) _

theorem active_performAll (uncounted : ∀ call ∈ calls, call.Uncounted) (e : Engine) :
    (e.performAll calls).active = e.active := by
  have kept (e : Engine) (c : Client) (b : Batch slotCount) : (e.putBatch c b).active = e.active := by
    rw [putBatch]
    split <;> rfl
  induction calls generalizing e with
  | nil => rfl
  | cons call rest ih =>
    have later := ih (fun call mem => uncounted call (List.mem_cons_of_mem _ mem)) (e.perform call)
    refine later.trans ?_
    cases call with
    | start h => cases uncounted _ List.mem_cons_self
    | stop h => cases uncounted _ List.mem_cons_self
    | setEnabled enabled => rfl
    | post c job =>
      simp only [perform, post]
      cases e.batchOf? c with
      | none => rfl
      | some b => exact kept e c _
    | finish c code =>
      simp only [perform, finish]
      cases e.batchOf? c with
      | none => rfl
      | some b => exact kept e c _

/-! ## The second stop -/

theorem releaseSlot_countDown (e : Engine) (d : Dispatch slotCount) (i : Fin slotCount) :
    e.countDown.releaseSlot d i = ((e.releaseSlot d i).1.countDown, (e.releaseSlot d i).2) := by
  simp only [releaseSlot]
  split
  · rfl
  · split <;> rfl

/-- A stop of an engine that has counted down once too often ends as the stop that it stands for,
and then counts down once too often as well. -/
theorem Consistent.stop_countDown (consistent : e.Consistent) (more : 1 < e.active)
    (waiting : e.state? c = some .waiting) (slot : c.slot = h.slot) :
    ∃ r, e.stop h = (r, .ok ()) ∧ r.active + 1 = e.active ∧
      e.countDown.stop h = r.countDown.settle := by
  have active : 0 < e.active := Nat.lt_of_succ_lt more
  obtain ⟨-, d, hd, state⟩ := consistent.current waiting (by simp)
  rw [slot] at state
  have used : d.batch.inUse h.slot := Batch.inUse_iff.2 (by simp [state])
  obtain ⟨q, released, -⟩ := releaseSlot_of_waiting (e := e.countDown) (consistent.staffed d hd)
    (consistent.busy d hd active) state
  have again := releaseSlot_countDown e.countDown d h.slot
  rw [released] at again
  refine ⟨_, ?_, Nat.sub_add_cancel active,
    stop_of_released (e := e.countDown) (Nat.sub_pos_of_lt more) hd used again⟩
  rw [stop_of_released active hd used released, settle, if_neg]
  exact Nat.ne_of_gt (Nat.sub_pos_of_lt more)

end Engine

namespace Host

variable {S G : Type} {host : Host S G} {h : Handle} {id : InstanceId}

/-- A close whose stop is refused leaves the instance as it is. -/
theorem closeInstance_of_refused {e : Engine} {v : Violation} (used : host.table.get? h = some id)
    (refused : host.engine.stop h = (e, .error v)) (thread : Thread) :
    (host.closeInstance thread h).2 = .ok (.error v) ∧
      Beside { host with engine := e } (host.closeInstance thread h).1 := by
  simp only [closeInstance, HandleTable.lookup_of_some used, stop, refused]
  exact ⟨trivial, Beside.tellAll ..⟩

/-- When all starts have been counted down, no instance can be closed. -/
theorem closeInstance_of_inactive (used : host.table.get? h = some id)
    (none : host.engine.active = 0) (thread : Thread) :
    host.closeInstance thread h = (host, .ok (.error .unbalancedStop)) := by
  have silent : host.engine.stopNotices host.engine h = [] := by
    have kept : ¬ (host.engine.dispatch.isSome ∧ host.engine.dispatch.isNone) := by
      rw [Option.isNone_iff_eq_none]
      rintro ⟨there, gone⟩
      simp [gone] at there
    rw [Engine.stopNotices, if_neg kept]
    simp [Engine.releases, none]
  simp only [closeInstance, HandleTable.lookup_of_some used, stop, Engine.stop_of_inactive none, silent]
  rfl

/-- **A close that stalls.** While a request is in flight in the slot of a handle, a stop for the
handle is refused. It leaves everything of the engine as it was except for the count of starts; a
close that is refused in this way leaves the instance open, with what is bound to it. The stop
cannot be made up for when the slot is waiting again. If there is no other start, every later stop
is refused as unbalanced, the slot stays claimed, and no instance can be closed. If there is another
one, the second stop does what the first one should have done, and after that it takes a start away
from another handle. -/
theorem stalled_close (config : Config) (machine : Nat) (past : List EngineCall) {c : Client}
    (reached : host.engine = (Engine.new config machine).performAll past)
    (used : host.table.get? h = some id) (active : 0 < host.engine.active)
    (inFlight : host.engine.state? c = some .posted) (slot : c.slot = h.slot) (thread : Thread) :
    let e := host.engine
    let stalled := Violation.transitionStalled h.slot .waiting .posted
    e.stop h = ({ e with active := e.active - 1 }, .error stalled) ∧
    (host.closeInstance thread h).2 = .ok (.error stalled) ∧
    Beside { host with engine := (e.stop h).1 } (host.closeInstance thread h).1 ∧
    ∀ calls : List EngineCall, (∀ call ∈ calls, call.Uncounted) →
      (e.performAll calls).state? c = some .waiting →
      (e.active = 1 →
        ((e.stop h).1.performAll calls).state? c = some .waiting ∧
        ∀ k, ((e.stop h).1.performAll calls).stop k =
            ((e.stop h).1.performAll calls, .error .unbalancedStop) ∧
          ∀ host' : Host S G, host'.engine = (e.stop h).1.performAll calls →
            (host'.table.get? k).isSome →
              host'.closeInstance thread k = (host', .ok (.error .unbalancedStop))) ∧
      (1 < e.active →
        ∃ r, (e.performAll calls).stop h = (r, .ok ()) ∧ r.active + 1 = e.active ∧
          ((e.stop h).1.performAll calls).stop h = r.countDown.settle) := by
  intro e stalled
  have consistent : e.Consistent := by
    rw [show e = _ from reached]
    exact Engine.consistent_performAll (Engine.consistent_new config machine) past
  obtain ⟨-, d, hd, state⟩ := consistent.current inFlight (by simp)
  have refused : e.stop h = (e.countDown, .error stalled) :=
    Engine.stop_of_posted active hd (slot ▸ state)
  obtain ⟨closed, beside⟩ := closeInstance_of_refused used refused thread
  rw [refused]
  refine ⟨rfl, closed, beside, fun calls uncounted waiting => ⟨fun one => ?_, fun more => ?_⟩⟩
  · have count := Engine.active_performAll uncounted e
    have behind := Engine.performAll_countDown uncounted e
    have none : (e.countDown.performAll calls).active = 0 := by
      rw [behind, Engine.countDown, count, one]
    refine ⟨by rw [behind]; exact waiting, fun k => ⟨Engine.stop_of_inactive none, ?_⟩⟩
    intro host' engine open'
    obtain ⟨j, found⟩ := Option.isSome_iff_exists.1 open'
    exact closeInstance_of_inactive found (engine ▸ none) thread
  · have count := Engine.active_performAll uncounted e
    have later := Engine.consistent_performAll consistent calls
    obtain ⟨r, stopped, left, again⟩ := later.stop_countDown (by rwa [count]) waiting slot
    exact ⟨r, stopped, left.trans count, by rw [Engine.performAll_countDown uncounted, again]⟩

/-- A slot in which a job is posted, and how its request goes on. -/
def postedOnce : List EngineCall :=
  [.start .first, .post ⟨0, Handle.first.slot⟩ ⟨.first, 5, 0, 0⟩]

/-- The instance of a host whose only close has stalled is never closed. -/
theorem stalled_close_once :
    let h : Handle := ⟨1, by decide, by decide⟩
    let host : Host Unit Unit :=
      { engine := (Engine.new {} 4).performAll postedOnce, table := HandleTable.empty.put h (some 0),
        instances := [Instance.fresh ()], shared := () }
    let e := (host.engine.stop h).1.finish ⟨0, ⟨0, by decide⟩⟩ .success
    (host.closeInstance .main h).2 = .ok (.error (.transitionStalled h.slot .waiting .posted)) ∧
      ∀ host' : Host Unit Unit, host'.engine = e → (host'.table.get? h).isSome →
        host'.closeInstance .main h = (host', .ok (.error .unbalancedStop)) := by
  intro h host e
  have used : host.table.get? h = some 0 := by decide +kernel
  have inFlight : host.engine.state? ⟨0, ⟨0, by decide⟩⟩ = some .posted := by decide +kernel
  obtain ⟨-, stalled, -, later⟩ :=
    stalled_close {} 4 postedOnce rfl used (by decide +kernel) inFlight rfl .main
  refine ⟨stalled, fun host' engine open' => ?_⟩
  have once := (later [.finish ⟨0, ⟨0, by decide⟩⟩ .success] ?_ (by decide +kernel)).1
    (by decide +kernel)
  · exact (once.2 h).2 host' engine open'
  · intro call mem
    rw [List.mem_singleton.1 mem]
    trivial

/-- Extractors that close their own instance, and keep what that came to. -/
def leaving : Behaviour Unit (List (Except Escape (Except Violation Unit))) :=
  fun thread _ spec _ host =>
    let closed := host.closeInstance thread .first
    ⟨{ closed.1 with shared := closed.2 :: closed.1.shared }, spec, .unset spec, .done⟩

/-- A close that stalls leaves its instance open and the engine without a start. The close after
the extraction is refused, although the instance is open. -/
theorem close_is_lost :
    let h : Handle := ⟨1, by decide, by decide⟩
    let call : Call := ⟨some ⟨0, 0, none, 0⟩, 1, some [⟨0, some [102], none, 8, false, .foreign, 0⟩]⟩
    let host := ((new {} 4 []).openInstance .main ()).1
    let after := extract leaving .main h call host
    host.engine.active = 1 ∧ after.result = .ok (.ok .success) ∧
      after.host.shared = [.ok (.error (.transitionStalled 0 .waiting .posted))] ∧
      after.host.size = 1 ∧ after.host.engine.active = 0 ∧
      (after.host.closeInstance .main h).2 = .ok (.error .unbalancedStop) := by
  decide +kernel

end Host

end PluginBridge
