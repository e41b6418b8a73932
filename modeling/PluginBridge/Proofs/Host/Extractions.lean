import PluginBridge.Proofs.Host.Paths

/-!
# What an extraction comes to

An extraction for an open instance gives the fields of the call, one after the other, to the
extractor of this instance, whichever path it takes (`Orderly.extract_ran`). The caller gets the
descriptors and the code that this comes to, and the instance keeps the buffers and the message of a
failure.
-/

namespace PluginBridge

namespace Ending

/-- The code that the caller is answered with, unless the extraction escapes. -/
def code? : Ending → Option ResultCode
  | .done => some .success
  | .failed e => some e.code
  | .escaped _ => none

/-- The message that an instance keeps. -/
def message? : Ending → Option String
  | .failed e => some (withoutNul e.message)
  | _ => none

end Ending

variable {S G : Type} {behaviour : Behaviour S G} {host w after : Host S G} {h : Handle}
  {id : InstanceId} {call : Call} {fields : Option (List Descriptor)} {code : ResultCode}
  {place thread : Thread} {short : Prop}

/-- What an extraction for an instance comes to. -/
inductive Host.Ran (behaviour : Behaviour S G) (id : InstanceId) (call : Call) (host after : Host S G)
    (fields : Option (List Descriptor)) (code : ResultCode) : Prop where
  /-- The extractor of the instance runs over the descriptors of the call, on some thread, in a host
  `w` that looks like the one that the call met with the buffers of the instance in use. -/
  | intro (place : Thread) (w : Host S G) {x : Extraction (Host S G)}
      (met : Host.Alike (host.modify id fun i => { i with buffersHeld := true }) w)
      (ran : extractFields (behaviour place id) call.event call.count call.fields w
        (host.instances[id]?.elim [] Instance.buffers) = x)
      (fields : fields = call.fields.map fun _ => x.fields)
      (code : x.ending.code? = some code)
      (left : Host.Alike (x.world.modify id fun i => { i with
        buffers := x.buffers
        buffersHeld := false
        lastError := x.ending.message?.or i.lastError }) after)

namespace Host

/-- What is left of an extraction may look different in its records. -/
theorem Ran.alike (ran : host.Ran behaviour id call w fields code) (same : w.Alike after) :
    host.Ran behaviour id call after fields code := by
  obtain ⟨place, v, met, ran, fields, code, left⟩ := ran
  exact .intro place v met ran fields code (left.trans same)

/-- Holding the buffers of an instance looks like no more than that. -/
theorem Alike.holding (host : Host S G) (thread : Thread) (id : InstanceId) :
    Alike (host.modify id fun i => { i with buffersHeld := true }) (host.holdBuffers thread id) := by
  rw [Host.holdBuffers]
  split <;> exact ⟨rfl, rfl, rfl⟩

/-- What is left of an extraction that was answered. -/
theorem recorded_putBuffers (host : Host S G) (id : InstanceId) (buffers : Buffers) {ending : Ending}
    (answered : ending.code? = some code) :
    host.putBuffers id buffers ending =
      host.modify id fun i => { i with buffers, buffersHeld := false } := by
  cases ending with
  | escaped => cases answered
  | done | failed => simp [putBuffers]

theorem extractInPlace_ran (met : host.Alike w)
    (free : ¬ w.instances[id]?.any Instance.buffersHeld)
    (came : (extractInPlace behaviour place id call w).2.2 = .ok code)
    (left : (extractInPlace behaviour place id call w).1.Alike after) :
    host.Ran behaviour id call after (extractInPlace behaviour place id call w).2.1 code := by
  have holding : Alike (host.modify id fun i => { i with buffersHeld := true })
      (w.holdBuffers place id) :=
    (met.modify id fun i j same => by
      simp only [Instance.apart, Instance.mk.injEq] at same ⊢
      simp [same]).trans (Alike.holding w place id)
  have buffers : (w.holdBuffers place id).instances[id]?.elim [] Instance.buffers =
      host.instances[id]?.elim [] Instance.buffers := by
    have kept : (host.modify id fun i => { i with buffersHeld := true }).instances[id]?.elim []
        Instance.buffers = host.instances[id]?.elim [] Instance.buffers := by
      simp only [modify, List.getElem?_modify_eq]
      cases host.instances[id]? <;> rfl
    rw [holding.buffers id, kept]
  simp only [extractInPlace, if_neg free, buffers] at came left ⊢
  generalize ran : extractFields (behaviour place id) call.event call.count call.fields
    (w.holdBuffers place id) (host.instances[id]?.elim [] Instance.buffers) = x at came left ⊢
  cases ending : x.ending with
  | escaped e =>
    rw [ending] at came
    cases came
  | done =>
    rw [ending] at came left
    cases came
    refine .intro place _ holding ran rfl (by rw [ending]; rfl) ?_
    rw [ending]
    rw [recorded_putBuffers x.world id x.buffers rfl] at left
    exact left
  | failed e =>
    rw [ending] at came left
    cases came
    refine .intro place _ holding ran rfl (by rw [ending]; rfl) ?_
    have answered : (Ending.failed e).code? = some e.code := rfl
    have recorded : Alike
        (x.world.modify id fun i => { i with
          buffers := x.buffers
          buffersHeld := false
          lastError := (Ending.failed e).message?.or i.lastError })
        (((x.world.putBuffers id x.buffers (.failed e)).tell place (.extractionFailed e)).keepError
          id e) := by
      refine ⟨rfl, rfl, ?_⟩
      rw [recorded_putBuffers x.world id x.buffers answered]
      simp only [keepError, tell, modify, List.modify_modify_eq]
      rfl
    rw [ending]
    exact recorded.trans left

/-- An extraction for an open instance runs its extractor, whichever path it takes. -/
theorem Orderly.extract_ran (o : host.Orderly short) (tame : Tame behaviour)
    (used : host.table.get? h = some id) (thread : Thread) (call : Call) :
    let r := Host.extract behaviour thread h call host
    r.host.instances.length = host.instances.length ∧
      ∃ code, r.result = .ok (.ok code) ∧ host.Ran behaviour id call r.host r.fields code := by
  intro r
  obtain ⟨place, w, met, beside, left, fields, code, came, result⟩ :=
    o.extract_served tame used thread call
  obtain ⟨client, bound⟩ := o.rests used
  have free : ¬ w.instances[id]?.any Instance.buffersHeld := by
    rw [met.any id (p := Instance.buffersHeld) fun _ => rfl]
    exact unheld_of_ties? bound rfl
  have ran := extractInPlace_ran met free came left
  rw [← fields] at ran
  exact ⟨left.length.trans (beside.length.trans met.length), code, result, ran⟩

end Host

end PluginBridge
