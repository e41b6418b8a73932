import PluginBridge.Boundary
import PluginBridge.Scenario.Host

/-! # Scenarios of a process

A scenario loads a scripted plugin into a process and uses its entry points, until one of them ends
the process. The plugin takes its counter's start from the configuration. -/

namespace PluginBridge.Scenario

/-- An operation at the boundary. Handles are given as raw numbers. -/
inductive BoundaryOp where
  /-- Make an instance, with or without room for the code. -/
  | init (config : Option (List UInt8)) (room : Bool)
  | destroy (h : Nat)
  /-- Ask on the main thread, or on one that is started for it. -/
  | lastError (h : Nat) (onMain : Bool)
  | extract (h : Nat) (call : Call)
  | getFields
  | getInfo
  /-- The plugin changes what it says about itself. -/
  | advertise (info : PluginInfo) (fields : FieldSchema)
  | setAsync (b : Bool)
  | isAsync
  | initHost (config : Config)
  /-- Set logging up for a further target, which is empty if there is none. -/
  | setUpLogging (target : String)
  | stats

/-- The answer of an operation. -/
inductive BoundaryAnswer where
  | done
  | flag (b : Bool)
  /-- The handle, and the code if there was room for it. -/
  | made (h : Nat) (code : Option ResultCode)
  | message (s : Option String)
  /-- The records are missing if no instance was ever made. -/
  | extracted (code : ResultCode) (fields : List FieldOutput)
      (records : Option (List (CallRecord HostStep)))
  | document (s : String)
  | info (i : InfoTexts)
  | summary (stats : EngineStats) (size : Nat)

/-- A process with a scripted plugin. -/
abbrev ScriptedProcess := Boundary UInt64 (List (CallRecord HostStep))

namespace ScriptedProcess

open Json

/-- The shape of a configuration document: where the counter starts. -/
def startShape : Shape Nat where
  name := "StartConfig"
  initial := 0
  members := [⟨"start", true, do
    let n ← natural "u64"
    pure fun _ => n⟩]

/-- What follows a word in a text that begins with it. -/
def after? : (word text : List Char) → Option (List Char)
  | [], text => some text
  | w :: word, c :: text => if w = c then after? word text else none
  | _ :: _, [] => none

/-- The counter that a configuration asks for, or what it makes of the initialisation. -/
def initOf (config : String) : Init UInt64 :=
  let cs := config.toList
  if config = "" then .made 0
  else if config = "panic" then .panicked "init panicked"
  else
    match after? "fail:".toList cs, after? "json:".toList cs with
    | some message, _ => .failed (.plugin (String.ofList message))
    | _, some document =>
      match parse startShape.read (String.ofList document) with
      | .ok n => .made (UInt64.ofNat n)
      | .error f => .failed (.config f)
    | _, _ =>
      match Text.readCount config with
      | .ok n => .made (UInt64.ofNat n)
      | .error _ => .failed (.plugin ("bad start value " ++ config))

/-- Make a call. Nothing is extracted from a host that has no instance. -/
def extract (script : Script HostOp) (b : ScriptedProcess) (raw : Nat) (call : Call) :
    ScriptedProcess × Except Abort BoundaryAnswer :=
  let clear (h : ScriptedHost) : ScriptedHost := { h with shared := [] }
  let behaviour :=
    ScriptedHost.behaviour script (ScriptedHost.perform script nestingLimit)
  let (b, r) := Boundary.extractFields behaviour { b with host := b.host.map clear } raw call
  match r, b.host with
  | .ok (fields, code), some host =>
    let outputs :=
      match (Handle.ofRaw? raw).bind (Host.buffersOf? host) with
      | some buffers => (fields.getD []).map (Descriptor.output buffers)
      | none => []
    let records := if host.instances.isEmpty then none else some host.shared.reverse
    (b, .ok (.extracted code outputs records))
  | .ok (_, code), none => (b, .ok (.extracted code [] none))
  | .error a, _ => (b, .error a)

/-- Do an operation. -/
def perform (script : Script HostOp) (b : ScriptedProcess) :
    BoundaryOp → ScriptedProcess × Except Abort BoundaryAnswer
  | .init config room =>
    let (b, r) := Boundary.init b config
    (b, r.map fun (h, code) => .made h (if room then some code else none))
  | .destroy h =>
    let (b, r) := Boundary.destroy b h
    (b, r.map fun () => .done)
  | .lastError h onMain =>
    let (b, thread) := if onMain then (b, .main) else Boundary.startThread b
    let (b, r) := Boundary.lastError b thread h
    (b, r.map .message)
  | .extract h call => extract script b h call
  | .getFields =>
    let (b, document) := Boundary.getFields b
    (b, .ok (.document document))
  | .getInfo =>
    let (b, info) := Boundary.getInfo b
    (b, .ok (.info info))
  | .advertise info fields => ({ b with plugin := { b.plugin with info, fields } }, .ok .done)
  | .setAsync enabled =>
    let (b, r) := Boundary.setAsync b enabled
    (b, r.map fun () => .done)
  | .isAsync =>
    let (b, r) := Boundary.isAsync b
    (b, r.map .flag)
  | .initHost config =>
    let (b, r) := Boundary.initHost b config
    (b, r.map .flag)
  | .setUpLogging target =>
    let (b, r) := Boundary.setUpLogging b target
    (b, r.map fun () => .done)
  | .stats =>
    let (b, r) := Boundary.theHost b .main ""
    (b, r.map fun host => .summary host.engine.stats host.size)

/-- Do operations in order, up to one that ends the process. -/
def run (script : Script HostOp) :
    List BoundaryOp → ScriptedProcess → List BoundaryAnswer × Option Abort × ScriptedProcess
  | [], b => ([], none, b)
  | op :: ops, b =>
    let rested := b.host.map fun host => { host with engine := rest host.engine }
    match perform script { b with host := rested } op with
    | (b, .error a) => ([], some a, b)
    | (b, .ok answer) =>
      let (answers, abort, b) := run script ops b
      (answer :: answers, abort, b)

end ScriptedProcess

/-- What a scenario shows of a process. -/
structure BoundaryRun where
  answers : List BoundaryAnswer
  aborted : Bool
  /-- The violation that ended the process, as the log tells it. -/
  violation : Option String
  records : List LogRecord

/-- The violation that a process ended with, if that was logged as a document. -/
def loggedViolation (b : ScriptedProcess) : Option Abort → Option String
  | some (.violation v) =>
    if b.filter.any fun f => f.documents && f.passes (Entry.record ⟨.main, .aborting v⟩) then
      some v.message
    else none
  | _ => none

/-- Run a scenario in a new process, on a machine with one processor. -/
def runBoundary (environment : Environment) (pluginName : String) (info : PluginInfo)
    (fields : FieldSchema) (script : Script HostOp) (ops : List BoundaryOp) : BoundaryRun :=
  let start : ScriptedProcess :=
    { environment, machine := 1, pluginName, shared := []
      plugin := { info, fields, init := ScriptedProcess.initOf } }
  let (answers, abort, b) := ScriptedProcess.run script ops start
  { answers
    aborted := abort.any Abort.endsProcess
    violation := loggedViolation b abort
    records := if b.filter.any LogFilter.documents then b.records.reverse else [] }

end PluginBridge.Scenario
