import PluginBridge.Engine.Request
import PluginBridge.Field.Extraction
import PluginBridge.Host

/-! # Extraction through a host

A call goes to the worker of the instance's slot if the instance has a client that nobody uses, and
is done by the calling thread otherwise. Either way it ends in `extractInPlace`, which uses the
instance's buffers and keeps the message of a failure. A panic reaches the caller of a direct call;
a worker catches it, and its caller gets a failure. -/

namespace PluginBridge

/-- What the caller of an extraction hands over. -/
structure Call where
  event : Option Event
  count : Nat
  fields : Option (List Descriptor)
  deriving DecidableEq, Repr

/-- What the instances of a host do when they extract, on which thread. -/
abbrev Behaviour (S G : Type) := Thread → InstanceId → Extractor (Host S G)

/-- How a call through a host came back, with its descriptors. -/
structure CallResult (S G : Type) where
  host : Host S G
  fields : Option (List Descriptor)
  result : Except Escape (Except Violation ResultCode)

/-- A message as it is kept: without null characters. -/
def withoutNul (s : String) : String :=
  String.ofList (s.toList.map fun c => if c = '\x00' then ' ' else c)

namespace Host

variable {S G : Type}

/-- Access to the engine of a host. -/
def engineIn : EngineIn (Host S G) := ⟨Host.engine, fun engine host => { host with engine }⟩

/-- Take the buffers of an instance into use. -/
def holdBuffers (host : Host S G) (thread : Thread) (id : InstanceId) : Host S G :=
  let poisoned := host.instances[id]?.any Instance.buffersPoisoned
  let host := if poisoned then host.tell thread .buffersRecovered else host
  host.modify id fun i => { i with buffersHeld := true }

/-- Give the buffers of an instance back after an extraction. -/
def putBuffers (host : Host S G) (id : InstanceId) (buffers : Buffers) (ending : Ending) :
    Host S G :=
  let struck : Bool := match ending with
    | .escaped (.panic _) => true
    | _ => false
  host.modify id fun i =>
    { i with buffers, buffersHeld := false, buffersPoisoned := i.buffersPoisoned || struck }

/-- Keep the message of a failed extraction. -/
def keepError (host : Host S G) (id : InstanceId) (e : ExtractError) : Host S G :=
  host.modify id fun i => { i with lastError := some (withoutNul e.message) }

/-- Extract for an instance on the calling thread. -/
def extractInPlace (behaviour : Behaviour S G) (thread : Thread) (id : InstanceId) (call : Call)
    (host : Host S G) : Host S G × Option (List Descriptor) × Except Escape ResultCode :=
  if host.instances[id]?.any Instance.buffersHeld then
    (host, call.fields, .error (.standstill (.ownBuffers id)))
  else
    let host := host.holdBuffers thread id
    let buffers := host.instances[id]?.elim [] Instance.buffers
    let x := extractFields (behaviour thread id) call.event call.count call.fields host buffers
    let host := x.world.putBuffers id x.buffers x.ending
    let fields := call.fields.map fun _ => x.fields
    match x.ending with
    | .done => (host, fields, .ok .success)
    | .failed e => ((host.tell thread (.extractionFailed e)).keepError id e, fields, .ok e.code)
    | .escaped escape => (host, fields, .error escape)

/-- The call that a job's addresses lead to. -/
def resolve (host : Host S G) (job : Job) : Call where
  event := if job.event = 0 then none else host.memory[job.event - 1]?.bind Frame.event
  count := job.count
  fields := if job.fields = 0 then none else host.memory[job.fields - 1]?.bind Frame.fields

/-- Write descriptors to the memory at an address. -/
def writeFields (host : Host S G) (address : Nat) (fields : Option (List Descriptor)) : Host S G :=
  if address = 0 then host
  else { host with memory := host.memory.modify (address - 1) fun f => { f with fields } }

/-- Serve a job of a slot on a worker. -/
def serveJob (behaviour : Behaviour S G) (slot worker : Nat) (job : Job) (host : Host S G) :
    Host S G × Except Escape ResultCode :=
  match host.table.lookup job.handle with
  | .error v => (host.tell (.worker worker) (.instanceMissing job.handle v), .ok .failure)
  | .ok id =>
    let (host, fields, reply) :=
      extractInPlace behaviour (.worker worker) id (host.resolve job) host
    let host := host.writeFields job.fields fields
    match reply with
    | .error (.panic _) =>
      (host.tell (.worker worker) (.handlerPanicked slot job.handle), reply)
    | _ => (host, reply)

/-- The client of an instance, if it has one that nobody uses. -/
def freeClient? (host : Host S G) (id : InstanceId) : Option Client :=
  host.instances[id]?.bind fun i => if i.clientHeld then none else i.client

/-- The address of the next call's memory. -/
def nextAddress (host : Host S G) : Nat := host.memory.length + 1

/-- The job of a call whose memory begins at an address. A part that was not handed over has the
null address. -/
def jobOf (h : Handle) (call : Call) (address : Nat) : Job where
  handle := h
  event := if call.event.isSome then address else 0
  count := call.count
  fields := if call.fields.isSome then address else 0

/-- Have the worker of a slot extract for an instance. -/
def extractThroughSlot (behaviour : Behaviour S G) (thread : Thread) (id : InstanceId)
    (client : Client) (h : Handle) (call : Call) (host : Host S G) : CallResult S G :=
  let address := host.nextAddress
  let host := host.modify id fun i => { i with clientHeld := true }
  let host := { host with memory := host.memory ++ [⟨call.event, call.fields⟩] }
  let (host, result) :=
    engineIn.request (serveJob behaviour client.slot) client (jobOf h call address) host
  let fields := host.memory[address - 1]?.bind Frame.fields
  let host := { host with memory := host.memory.take (address - 1) }
  let host := host.modify id fun i => { i with clientHeld := false }
  match result with
  | .ok (.ok code) =>
    ⟨if code.isSuccess then host else host.tell thread (.requestFailed h client.slot code),
      fields, .ok (.ok code)⟩
  | result => ⟨host, fields, result⟩

/-- Extract for the instance behind a handle. -/
def extract (behaviour : Behaviour S G) (thread : Thread) (h : Handle) (call : Call)
    (host : Host S G) : CallResult S G :=
  match host.table.lookup h with
  | .error v => ⟨host, call.fields, .ok (.error v)⟩
  | .ok id =>
    match host.freeClient? id with
    | some client => extractThroughSlot behaviour thread id client h call host
    | none =>
      let (host, fields, result) := extractInPlace behaviour thread id call host
      ⟨host, fields, result.map .ok⟩

/-- The buffers behind a handle, while an instance is open there. -/
def buffersOf? (host : Host S G) (h : Handle) : Option Buffers :=
  (host.table.get? h).bind fun id => host.instances[id]?.map Instance.buffers

end Host

end PluginBridge
