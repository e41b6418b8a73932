import PluginBridge.Host.Extraction
import PluginBridge.Scenario.Engine
import PluginBridge.Script

/-! # Scenarios of a host

A scenario opens, uses and closes instances of one scripted plugin. A script may call back with any
operation of the scenario; the operation then runs on the thread of the extraction, and its answer
becomes part of the record of that step. -/

namespace PluginBridge.Scenario

/-- An operation on a host. Handles are given as raw numbers. -/
inductive HostOp where
  /-- Open an instance whose counter starts at a number. -/
  | openInstance (start : UInt64)
  /-- Open instances whose counters start at zero, one, and so on. -/
  | openMany (n : Nat)
  | close (h : Nat)
  | closeRange (first last : Nat)
  | extract (h : Nat) (call : Call)
  | lastError (h : Nat)
  | engineStart (h : Nat)
  | engineStop (h : Nat)
  | setEnabled (b : Bool)
  | stats

/-- The result of an extraction that came back or panicked. -/
inductive ExtractReply where
  | code (c : ResultCode)
  | violation (v : Violation)
  | panicked (message : String)

/-- What a caller finds in its descriptors: the results, or only their lengths when the instance
that holds the results is gone. -/
inductive FieldReport where
  | outputs (fs : List FieldOutput)
  | lengths (ns : List Nat)

/-- The answer of an operation. `T` is what scripts find when they call back. -/
inductive HostAnswer (T : Type) where
  | done
  | nothing
  | flag (b : Bool)
  | handle (h : Handle)
  | count (n : Nat)
  | violation (v : Violation)
  | lastError (message : Option String)
  | index (i : Option Nat)
  | summary (isEmpty enabled : Bool)
  | extracted (reply : ExtractReply) (fields : FieldReport) (records : List (CallRecord T))

/-- The answer of an operation, and the host after it. -/
inductive HostStep where
  | step (answer : HostAnswer HostStep) (size : Nat) (stats : EngineStats)

/-- A host of scripted instances: their counters, and the records of the call under way. -/
abbrev ScriptedHost := Host UInt64 (List (CallRecord HostStep))

namespace ScriptedHost

/-- Performs an operation on a thread, unless it cannot be answered. -/
abbrev Performer :=
  Thread → HostOp → ScriptedHost → ScriptedHost × Except Escape (HostAnswer HostStep)

/-- The next value of an instance's counter. -/
def count (id : InstanceId) (host : ScriptedHost) : UInt64 × ScriptedHost :=
  ((host.instances[id]?).elim 0 Instance.state,
    Host.modify host id fun i => { i with state := i.state + 1 })

/-- The host after an operation, beside its answer. -/
def stepOf (host : ScriptedHost) (answer : HostAnswer HostStep) : HostStep :=
  .step answer (Host.size host) host.engine.stats

/-- The stage of an instance's script. -/
def stage (perform : Performer) (thread : Thread) (id : InstanceId) :
    Stage ScriptedHost HostOp HostStep where
  count := count id
  call op host :=
    let (host, r) := perform thread op host
    (host, r.map (stepOf host))
  keep record host := { host with shared := record :: host.shared }

/-- What instances do when they extract. -/
def behaviour (script : Script HostOp) (perform : Performer) :
    Behaviour UInt64 (List (CallRecord HostStep)) :=
  fun thread id => Script.extractor (stage perform thread id) script

/-- The answer of an operation that returns nothing. -/
def answered : Except Violation Unit → HostAnswer HostStep
  | .ok () => .done
  | .error v => .violation v

/-- The descriptors of a call as its caller finds them. `id` is the instance that was open under the
handle before the call. -/
def report (host : ScriptedHost) (h : Handle) (id : Option InstanceId)
    (fields : Option (List Descriptor)) : FieldReport :=
  let fields := fields.getD []
  match id, Host.buffersOf? host h with
  | some id, some buffers =>
    if host.table.get? h = some id then .outputs (fields.map (Descriptor.output buffers))
    else .lengths (fields.map Descriptor.length)
  | _, _ => .lengths (fields.map Descriptor.length)

/-- Make a call, and answer with its own records. -/
def extract (script : Script HostOp) (perform : Performer) (thread : Thread) (h : Handle)
    (call : Call) (host : ScriptedHost) : ScriptedHost × Except Escape (HostAnswer HostStep) :=
  let outer := host.shared
  let id := host.table.get? h
  let r := Host.extract (behaviour script perform) thread h call { host with shared := [] }
  let records := r.host.shared.reverse
  let host : ScriptedHost := { r.host with shared := outer }
  let answer (reply : ExtractReply) : ScriptedHost × Except Escape (HostAnswer HostStep) :=
    (host, .ok (.extracted reply (report host h id r.fields) records))
  match r.result with
  | .ok (.ok code) => answer (.code code)
  | .ok (.error v) => answer (.violation v)
  | .error (.panic message) => answer (.panicked message)
  | .error escape => (host, .error escape)

/-- Open instances whose counters start at some numbers; the answer is that of the last. -/
def openEach (thread : Thread) :
    List Nat → ScriptedHost → HostAnswer HostStep → ScriptedHost × HostAnswer HostStep
  | [], host, answer => (host, answer)
  | n :: ns, host, _ =>
    match Host.openInstance host thread (UInt64.ofNat n) with
    | (host, .ok h) => openEach thread ns host (.handle h)
    | (host, .error v) => openEach thread ns host (.violation v)

/-- Close some handles, and count those that could be closed. -/
def closeEach (thread : Thread) :
    List Handle → ScriptedHost → Nat → ScriptedHost × Except Escape Nat
  | [], host, count => (host, .ok count)
  | h :: hs, host, count =>
    match Host.closeInstance host thread h with
    | (host, .error escape) => (host, .error escape)
    | (host, .ok (.error _)) => closeEach thread hs host count
    | (host, .ok (.ok ())) => closeEach thread hs host (count + 1)

/-- An operation on a handle, which has to be one. -/
def onHandle (host : ScriptedHost) (raw : Nat)
    (f : Handle → ScriptedHost × Except Escape (HostAnswer HostStep)) :
    ScriptedHost × Except Escape (HostAnswer HostStep) :=
  match Handle.decode raw with
  | .ok h => f h
  | .error v => (host, .ok (.violation v))

/-- Do an operation. Scripts may call back with operations that are nested in it. -/
def perform (script : Script HostOp) : (fuel : Nat) → Performer
  | 0, _, _, host => (host, .error (.standstill .endless))
  | fuel + 1, thread, op, host =>
    match op with
    | .openInstance start =>
      match Host.openInstance host thread start with
      | (host, .ok h) => (host, .ok (.handle h))
      | (host, .error v) => (host, .ok (.violation v))
    | .openMany n =>
      let (host, answer) := openEach thread (List.range n) host .nothing
      (host, .ok answer)
    | .close raw => onHandle host raw fun h =>
      let (host, r) := Host.closeInstance host thread h
      (host, r.map answered)
    | .closeRange first last =>
      let (host, r) := closeEach thread (Handle.between first last) host 0
      (host, r.map .count)
    | .extract raw call => onHandle host raw fun h =>
      extract script (perform script fuel) thread h call host
    | .lastError raw => onHandle host raw fun h =>
      (host, .ok (match Host.lastError host h with
        | .ok message => .lastError message
        | .error v => .violation v))
    | .engineStart raw => onHandle host raw fun h =>
      let (host, r) := Host.start host thread h
      (host, .ok (match r with
        | .ok client => .index (client.map fun c => c.slot.val)
        | .error v => .violation v))
    | .engineStop raw => onHandle host raw fun h =>
      let (host, r) := Host.stop host thread h
      (host, .ok (answered r))
    | .setEnabled b => (Host.setEnabled host b, .ok .done)
    | .stats => (host, .ok (.summary (Host.isEmpty host) host.engine.enabled))

/-- Do operations in order, up to one that cannot be answered. -/
def run (script : Script HostOp) : List HostOp → ScriptedHost → List HostStep
  | [], _ => []
  | op :: ops, host =>
    match perform script nestingLimit .main op { host with engine := rest host.engine } with
    | (_, .error _) => []
    | (host, .ok answer) => stepOf host answer :: run script ops host

end ScriptedHost

/-- Run a scenario on a new host, on a machine with one processor. -/
def runHost (config : Config) (script : Script HostOp) (ops : List HostOp) : List HostStep :=
  ScriptedHost.run script ops (Host.new config 1 [])

end PluginBridge.Scenario
