import PluginBridge.Proofs.Engine.Waits
import PluginBridge.Proofs.Host.Calls

/-!
# Calls that a worker serves

A call that goes through a slot is put into the memory of the calls under way, where the worker of
the slot finds it. The worker extracts in place and writes the descriptors back. So the caller gets
what the worker's extraction comes to, whatever its extractor does to the host meanwhile, as long as
it leaves the memory alone and the slot is still posted in the end (`extractThroughSlot_of_served`).
Extractors that do not call back see to both (`Orderly.extractThroughSlot_eq`).
-/

namespace PluginBridge

namespace Host

variable {S G : Type} {behaviour : Behaviour S G} {host after : Host S G} {h : Handle}
  {id : InstanceId} {c : Client} {call : Call} {memory : List Frame} {worker : Nat}
  {fields : Option (List Descriptor)} {reply : Except Escape ResultCode}

/-- The host that a worker meets when it is given a call. -/
def posted (host : Host S G) (id : InstanceId) (c : Client) (h : Handle) (call : Call) : Host S G :=
  { host.lent id call with engine := (host.engine.post c (jobOf h call host.nextAddress)).1 }

/-- The code that a caller gets for a job that came back: a panic is a failure. -/
def codeOf : Except Escape ResultCode → ResultCode
  | .ok code => code
  | .error _ => .failure

/-- A worker finds the call that was added to the memory last. -/
theorem resolve_jobOf (kept : host.memory = memory ++ [⟨call.event, call.fields⟩]) (h : Handle) :
    host.resolve (jobOf h call (memory.length + 1)) = call := by
  have found : host.memory[memory.length]? = some ⟨call.event, call.fields⟩ := by simp [kept]
  obtain ⟨event, count, fields⟩ := call
  cases event <;> cases fields <;> simp [resolve, jobOf, found]

/-- What a worker writes for a call is found where the call was, and touches the memory of no
other. -/
theorem memory_writeFields (kept : host.memory = memory ++ [⟨call.event, call.fields⟩])
    (same : call.fields = none → fields = none) :
    (host.writeFields (jobOf h call (memory.length + 1)).fields fields).memory =
      memory ++ [⟨call.event, fields⟩] := by
  cases hf : call.fields with
  | none => simp [writeFields, jobOf, hf, kept, same hf]
  | some ds => simp [writeFields, jobOf, hf, kept, List.modify_eq_take_drop]

/-- Without descriptors nothing is written. -/
theorem fields_extractInPlace (behaviour : Behaviour S G) (thread : Thread) (id : InstanceId)
    (call : Call) (host : Host S G) (none : call.fields = .none) :
    (extractInPlace behaviour thread id call host).2.1 = .none := by
  simp only [extractInPlace]
  split
  · exact none
  · split <;> simp [none]

/-- A worker that is given a call extracts in place for it. -/
theorem serveJob_posted (used : host.table.get? h = some id)
    (worked : extractInPlace behaviour (.worker worker) id call (host.posted id c h call) =
      (after, fields, reply)) (slot : Nat) :
    ∃ journal, serveJob behaviour slot worker (jobOf h call host.nextAddress)
        (host.posted id c h call) =
      ({ after.writeFields (jobOf h call host.nextAddress).fields fields with journal }, reply) := by
  have lookup : (host.posted id c h call).table.lookup (jobOf h call host.nextAddress).handle =
      .ok id := HandleTable.lookup_of_some used
  have found : (host.posted id c h call).resolve (jobOf h call host.nextAddress) = call :=
    resolve_jobOf rfl h
  simp only [serveJob, lookup, found, worked]
  split
  · exact ⟨_, rfl⟩
  · exact ⟨(after.writeFields _ fields).journal, rfl⟩

/-- The caller of a request that is served gets what the worker's extraction comes to. -/
theorem extractThroughSlot_of_served (used : host.table.get? h = some id)
    (waiting : host.engine.state? c = some .waiting) (served : host.engine.server c = .ok worker)
    (worked : extractInPlace behaviour (.worker worker) id call (host.posted id c h call) =
      (after, fields, reply))
    (kept : after.memory = host.memory ++ [⟨call.event, call.fields⟩])
    (still : after.engine.state? c = some .posted) (came : Returned reply) (thread : Thread) :
    ∃ journal, extractThroughSlot behaviour thread id c h call host =
      ⟨{ after.takenBack id host.memory with
          engine := after.engine.finish c (codeOf reply), journal },
        fields, .ok (.ok (codeOf reply))⟩ := by
  let job := jobOf h call host.nextAddress
  obtain ⟨journal, handled⟩ := serveJob_posted used worked c.slot
  obtain ⟨accepted, found⟩ := Engine.post_of_waiting waiting job
  have posted : (engineIn.get (host.lent id call)).post c job =
      ((host.engine.post c job).1, .ok ()) := Prod.ext rfl accepted
  have served : (engineIn.get (host.lent id call)).server c = .ok worker := served
  have none : call.fields = .none → fields = .none := fun none => by
    have written := fields_extractInPlace behaviour (.worker worker) id call
      (host.posted id c h call) none
    rwa [worked] at written
  have written : (after.writeFields job.fields fields).memory =
      host.memory ++ [⟨call.event, fields⟩] := memory_writeFields kept none
  -- The descriptors are written to the memory only.
  obtain ⟨memory, eq⟩ : ∃ memory, after.writeFields job.fields fields = { after with memory } := by
    rw [writeFields]
    split
    · exact ⟨after.memory, rfl⟩
    · exact ⟨_, rfl⟩
  rw [eq] at written handled
  have answers : reply = .ok (codeOf reply) ∨
      codeOf reply = .failure ∧ ∃ message, reply = .error (.panic message) := by
    rcases came with ⟨code, rfl⟩ | ⟨message, rfl⟩
    · exact .inl rfl
    · exact .inr ⟨rfl, message, rfl⟩
  have answered := EngineIn.request_of_answered posted served found handled still answers
  rw [extractThroughSlot_of_answered answered]
  have place : host.nextAddress - 1 = host.memory.length := rfl
  have memory : memory = host.memory ++ [⟨call.event, fields⟩] := written
  simp only [engineIn, place, memory, List.take_left, List.getElem?_concat_length, Option.bind_some]
  split
  · exact ⟨journal, rfl⟩
  · exact ⟨_, rfl⟩

/-! ## Calls between which the host is orderly -/

variable {d : Dispatch slotCount} {short : Prop}

/-- A worker meets a host in which the job of the call was posted. -/
theorem posted_eq (hd : host.engine.dispatch = some d) (waiting : d.batch.state h.slot = .waiting)
    (id : InstanceId) (call : Call) :
    host.posted id ⟨host.engine.retired.length, h.slot⟩ h call = host.handedOver d id h call := by
  have post := Engine.post_withBatch (e := host.engine) (d := d)
    (c := ⟨host.engine.retired.length, h.slot⟩) rfl waiting (jobOf h call host.nextAddress)
  rw [Engine.withBatch_self hd] at post
  rw [posted, post, handedOver]

/-- The worker of the slot of an open instance extracts in place, and the caller gets what this
comes to. -/
theorem Orderly.extractThroughSlot_eq (o : host.Orderly short) (quiet : Quiet behaviour)
    (memory : ∀ thread spec view (host : Host S G),
      (behaviour thread id spec view host).world.memory = host.memory)
    (used : host.table.get? h = some id) (hd : host.engine.dispatch = some d)
    (bound : host.ties? id = some ⟨host.engine.clientFor h, false, false⟩) (thread : Thread)
    (call : Call) :
    let c : Client := ⟨host.engine.retired.length, h.slot⟩
    let y := extractInPlace behaviour (.worker (d.owner h.slot)) id call
      (host.handedOver d id h call)
    ∃ journal, Host.extractThroughSlot behaviour thread id c h call host =
      ⟨{ y.1.takenBack id host.memory with
          engine := y.1.engine.finish c (codeOf y.2.2), journal },
        y.2.1, .ok (.ok (codeOf y.2.2))⟩ := by
  intro c y
  have waiting := o.waiting used hd bound
  have state : host.engine.state? c = some .waiting := by
    rw [Engine.state?_of_current rfl, hd, Option.map_some, waiting]
  have served : host.engine.server c = .ok (d.owner h.slot) :=
    Engine.served_of_waiting o.consistent hd rfl waiting (o.serves.not_posted hd)
  obtain ⟨beside, came⟩ : (host.handedOver d id h call).Beside y.1 ∧ Returned y.2.2 :=
    extractInPlace_quiet quiet (held_handedOver bound d call) rfl _ call
  have kept : y.1.memory = host.memory ++ [⟨call.event, call.fields⟩] :=
    memory_extractInPlace _ id (memory _) call _
  have still : y.1.engine.state? c = some .posted := by
    have engine : y.1.engine = host.engine.withBatch d _ := beside.engine
    rw [engine, Engine.state?_of_current rfl]
    simp [Engine.withBatch, Batch.posting, Batch.state, c]
  refine extractThroughSlot_of_served used state served ?_ kept still came thread
  rw [posted_eq hd waiting]

end Host

end PluginBridge
