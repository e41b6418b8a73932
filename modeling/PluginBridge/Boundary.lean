import PluginBridge.Config.Environment
import PluginBridge.Host.Extraction
import PluginBridge.Log.Filter

/-! # The boundary

A process loads one plugin and sees it through a few entry points that know only numbers, addresses
and null-terminated text. All instances share one host, which is made when it is first needed: from
the environment, or from a given configuration if that comes first. Logging is set up when the host
is made or when it is asked for, whichever is first.

Making the host sets logging up in any case, but only the first time counts.

At the boundary nothing can be answered with a violation. A violation is logged and ends the
process, and so does a panic that reaches an entry point. -/

namespace PluginBridge

/-- Why an entry point does not return: it ends the process, or it waits for ever. -/
inductive Abort where
  | violation (v : Violation)
  | panic (message : String)
  | standstill (cause : Standstill)
  deriving DecidableEq, Repr

/-- What a call that escapes does to the entry point that made it. -/
def Abort.ofEscape : Escape → Abort
  | .panic message => .panic message
  | .standstill cause => .standstill cause

/-- Whether the process has ended. -/
def Abort.endsProcess : Abort → Bool
  | .standstill _ => false
  | _ => true

/-- The variables of the environment. -/
structure Environment where
  switch : Option String := none
  concurrency : Option String := none
  log : LogVariables := {}

/-- The texts that a plugin's identity is handed over as. -/
structure InfoTexts where
  name : String
  version : String
  description : String
  contact : String
  deriving DecidableEq, Repr

/-- The identity of a plugin as it is handed over. -/
def PluginInfo.texts (i : PluginInfo) : InfoTexts where
  name := withoutNul i.name
  version := withoutNul i.version
  description := withoutNul i.description
  contact := withoutNul i.contact

/-- A process with a plugin in it. -/
structure Boundary (S G : Type) where
  environment : Environment
  /-- The number of processors of the machine. -/
  machine : Nat
  plugin : Plugin S
  /-- The name under which the plugin logs. -/
  pluginName : String
  /-- What the extractors share when the host is made. -/
  shared : G
  host : Option (Host S G) := none
  filter : Option LogFilter := none
  /-- The records that were written, newest first. -/
  records : List LogRecord := []
  /-- How many threads were started beside the workers. -/
  othersStarted : Nat := 0
  /-- The message of the main thread's last failed initialisation. -/
  initError : Option String := none
  /-- The identity as it was handed over first. -/
  info : Option InfoTexts := none
  /-- The schema document as it was handed over first. -/
  schema : Option String := none

/-- An outcome at the boundary. -/
abbrev AtBoundary (S G α : Type) := Boundary S G × Except Abort α

namespace Boundary

variable {S G : Type}

/-- Go on after an outcome, unless it does not return. -/
def andThen {α β : Type} (r : AtBoundary S G α) (f : Boundary S G → α → AtBoundary S G β) :
    AtBoundary S G β :=
  match r with
  | (b, .ok a) => f b a
  | (b, .error abort) => (b, .error abort)

/-! ## Logging -/

/-- Log something, if logging is set up and the record passes. -/
def log (b : Boundary S G) (e : Entry) : Boundary S G :=
  if b.filter.any fun f => f.passes e.record then { b with records := e.record :: b.records }
  else b

/-- Set logging up for the library and a further target, unless it is set up. The variables are
read in any case, and one that cannot be cut into its parts is a panic. -/
def setUpLogging (b : Boundary S G) (target : String) : AtBoundary S G Unit :=
  match LogFilter.ofVariables? b.environment.log target with
  | some filter => ({ b with filter := b.filter.or (some filter) }, .ok ())
  | none => (b, .error (.panic "a directive is cut inside a character"))

/-- Put the host back after a call, and log what it told. -/
def putHost (b : Boundary S G) (host : Host S G) : Boundary S G :=
  host.journal.foldr (fun e b => b.log e) { b with host := some { host with journal := [] } }

/-- End the process for a violation, and log it. -/
def fail {α : Type} (b : Boundary S G) (thread : Thread) (v : Violation) : AtBoundary S G α :=
  (b.log ⟨thread, .aborting v⟩, .error (.violation v))

/-! ## Threads -/

/-- Start a thread that is no worker. -/
def startThread (b : Boundary S G) : Boundary S G × Thread :=
  let workers := b.host.elim 0 fun host => host.engine.pool.started
  ({ b with othersStarted := b.othersStarted + 1 }, .nameless (workers + b.othersStarted + 2))

/-! ## The host -/

/-- Make the host from a configuration. -/
def makeHost (b : Boundary S G) (thread : Thread) (config : Config) (plugin : String) :
    AtBoundary S G (Host S G) :=
  andThen (b.setUpLogging plugin) fun b () =>
    let b := b.log ⟨thread, .hostCreated config plugin⟩
    let host := Host.new config b.machine b.shared
    ({ b with host := some host }, .ok host)

/-- The host, made from the environment if there is none. -/
def theHost (b : Boundary S G) (thread : Thread) (plugin : String) : AtBoundary S G (Host S G) :=
  match b.host with
  | some host => (b, .ok host)
  | none =>
    let v := b.environment
    let b := match Config.ignoredConcurrency v.concurrency with
      | some (value, fault) => b.log ⟨thread, .concurrencyIgnored value fault⟩
      | none => b
    b.makeHost thread (Config.ofEnvironment v.switch v.concurrency) plugin

/-- Make the host from a configuration, unless there is one. -/
def initHost (b : Boundary S G) (config : Config) : AtBoundary S G Bool :=
  if b.host.isSome then (b, .ok false)
  else andThen (b.makeHost .main config "") fun b _ => (b, .ok true)

/-- Call the host for a handle. The host is made before the handle is looked at. -/
def withHandle {α : Type} (b : Boundary S G) (thread : Thread) (raw : Nat)
    (f : Boundary S G → Host S G → Handle → AtBoundary S G α) : AtBoundary S G α :=
  andThen (b.theHost thread "") fun b host =>
    match Handle.decode raw with
    | .ok h => f b host h
    | .error v => b.fail thread v

/-! ## Entry points -/

/-- Make an instance from a null-terminated configuration: its handle, or zero with a failure.
`refusal` says why the machine starts no threads, if it does not. -/
def init (b : Boundary S G) (config : Option (List UInt8)) (refusal : Option String := none) :
    AtBoundary S G (Nat × ResultCode) :=
  let text := config.elim "" fun bytes => Text.Utf8.decodeLossy (terminated bytes)
  match b.plugin.init text with
  | .panicked message => (b, .error (.panic message))
  | .failed e =>
    let b := b.log ⟨.main, .initFailed e⟩
    ({ b with initError := some (withoutNul e.message) }, .ok (0, .failure))
  | .made state =>
    andThen (b.theHost .main b.pluginName) fun b host =>
      match host.openInstance .main state refusal with
      | (host, .ok h) => (b.putHost host, .ok (h.raw, .success))
      | (host, .error v) => (b.putHost host).fail .main v

/-- Destroy an instance. -/
def destroy (b : Boundary S G) (raw : Nat) : AtBoundary S G Unit :=
  b.withHandle .main raw fun b host h =>
    match host.closeInstance .main h with
    | (host, .ok (.ok ())) => (b.putHost host, .ok ())
    | (host, .ok (.error v)) => (b.putHost host).fail .main v
    | (host, .error escape) => (b.putHost host, .error (.ofEscape escape))

/-- The message of an instance's last failed extraction. Zero stands for the last failed
initialisation of the asking thread. -/
def lastError (b : Boundary S G) (thread : Thread) (raw : Nat) : AtBoundary S G (Option String) :=
  if raw = 0 then (b, .ok (if thread = .main then b.initError else none))
  else
    b.withHandle thread raw fun b host h =>
      match host.lastError h with
      | .ok message => (b, .ok message)
      | .error v => b.fail thread v

/-- Extract fields for an instance: the descriptors and the code. -/
def extractFields (behaviour : Behaviour S G) (b : Boundary S G) (raw : Nat) (call : Call) :
    AtBoundary S G (Option (List Descriptor) × ResultCode) :=
  b.withHandle .main raw fun b host h =>
    let r := Host.extract behaviour .main h call host
    let b := b.putHost r.host
    match r.result with
    | .ok (.ok code) => (b, .ok (r.fields, code))
    | .ok (.error v) => b.fail .main v
    | .error escape => (b, .error (.ofEscape escape))

/-- The plugin's schema document, as it was when first asked for. -/
def getFields (b : Boundary S G) : Boundary S G × String :=
  let schema := b.schema.getD (FieldSchema.toDocument b.plugin.fields)
  ({ b with schema := some schema }, schema)

/-- The plugin's identity, as it was when first asked for. -/
def getInfo (b : Boundary S G) : Boundary S G × InfoTexts :=
  let info := b.info.getD b.plugin.info.texts
  ({ b with info := some info }, info)

/-- Switch dispatching on or off, from the next activation on. -/
def setAsync (b : Boundary S G) (enabled : Bool) : AtBoundary S G Unit :=
  andThen (b.theHost .main "") fun b host => (b.putHost (host.setEnabled enabled), .ok ())

/-- Whether the next activation will dispatch. -/
def isAsync (b : Boundary S G) : AtBoundary S G Bool :=
  andThen (b.theHost .main "") fun b host => (b, .ok host.engine.enabled)

end Boundary

end PluginBridge
