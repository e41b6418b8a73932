import PluginBridge.Notice
import PluginBridge.Config.Environment

/-! # Log records

Each notice has one record: a level, the part of the library that it comes from, and named fields,
of which the first is the message. -/

namespace PluginBridge

/-- How much a record matters. -/
inductive Level where
  | error
  | warn
  | info
  | debug
  | trace
  deriving DecidableEq, Repr

namespace Level

/-- The rank of a level; what matters most comes first. -/
def rank : Level → Nat
  | .error => 1
  | .warn => 2
  | .info => 3
  | .debug => 4
  | .trace => 5

/-- The level with a rank. -/
def ofRank? : Nat → Option Level
  | 1 => some .error
  | 2 => some .warn
  | 3 => some .info
  | 4 => some .debug
  | 5 => some .trace
  | _ => none

/-- The name of a level in a record. -/
def name : Level → String
  | .error => "ERROR"
  | .warn => "WARN"
  | .info => "INFO"
  | .debug => "DEBUG"
  | .trace => "TRACE"

end Level

/-- The value of a field of a record. -/
inductive FieldText where
  | text (s : String)
  | number (n : Nat)
  | flag (b : Bool)
  deriving DecidableEq, Repr

/-- A record of something that happened. -/
structure LogRecord where
  level : Level
  target : String
  thread : Thread
  message : String
  fields : List (String × FieldText)
  deriving DecidableEq, Repr

/-- The beginning of the targets of the library's own parts. -/
def coreTarget : String := "hostcall"

/-- The target of the boundary. -/
def boundaryTarget : String := "hostcall_ffi"

namespace Notice

/-- The level of a notice. -/
def level : Notice → Level
  | .activated .. | .deactivated | .hostCreated .. => .info
  | .leftover _ | .buffersRecovered | .concurrencyIgnored .. => .warn
  | .slotClaimed .. | .slotReleased _ | .instanceOpened _ | .instanceClosed _
  | .extractionFailed _ => .debug
  | .requestFailed .. => .trace
  | .spawnFailed .. | .instanceMissing .. | .handlerPanicked .. | .initFailed _ | .aborting _ =>
    .error

/-- The part of the library that a notice comes from. -/
def target : Notice → String
  | .activated .. | .deactivated | .leftover _ | .slotClaimed .. | .slotReleased _
  | .spawnFailed .. =>
    coreTarget ++ "::engine"
  | .instanceOpened _ | .instanceClosed _ | .extractionFailed _ | .buffersRecovered
  | .instanceMissing .. | .requestFailed .. => coreTarget ++ "::plugin"
  | .handlerPanicked .. => coreTarget ++ "::worker"
  | .concurrencyIgnored .. => coreTarget ++ "::config"
  | .hostCreated .. | .initFailed _ => boundaryTarget
  | .aborting _ => coreTarget ++ "::error"

/-- The message of a notice. -/
def message : Notice → String
  | .activated .. => "Dispatch engine activated"
  | .deactivated => "Dispatch engine deactivated"
  | .leftover _ => "Stopping workers left over from a failed teardown"
  | .slotClaimed .. => "Slot claimed"
  | .slotReleased _ => "Slot released"
  | .spawnFailed .. => "Failed to spawn worker, extracting synchronously"
  | .instanceOpened _ => "Instance opened"
  | .instanceClosed _ => "Instance closed"
  | .extractionFailed _ => "Extraction failed"
  | .buffersRecovered => "Instance mutex poisoned, recovering"
  | .instanceMissing .. => "Request for a closed instance"
  | .handlerPanicked .. => "Extraction handler panicked"
  | .requestFailed .. => "Async extraction failed"
  | .concurrencyIgnored .. => "Ignoring invalid " ++ Config.concurrencyVariable
  | .hostCreated .. => "Plugin host created"
  | .initFailed _ => "Plugin init failed"
  | .aborting _ => "Unrecoverable protocol violation, aborting"

/-- The name of a code in a record. -/
def codeName : ResultCode → String
  | .success => "Success"
  | .failure => "Failure"
  | .notSupported => "NotSupported"

/-- A number that may not be given, as a record shows it. -/
def optional : Option UInt64 → String
  | some n => "Some(" ++ toString n.toNat ++ ")"
  | none => "None"

/-- The fields of a notice beside its message. -/
def fields : Notice → List (String × FieldText)
  | .activated processors available enabled maxWorkers =>
    [("concurrency", .number processors), ("available", .flag available),
     ("enabled", .flag enabled), ("max_workers", .number maxWorkers)]
  | .deactivated | .buffersRecovered => []
  | .leftover live => [("live", .number live)]
  | .slotClaimed slot worker h =>
    [("slot", .number slot), ("worker", .number worker), ("handle", .text (toString h.raw))]
  | .slotReleased slot => [("slot", .number slot)]
  | .spawnFailed worker cause => [("worker", .number worker), ("error", .text cause)]
  | .instanceOpened h | .instanceClosed h => [("handle", .text (toString h.raw))]
  | .extractionFailed e => [("error", .text e.message)]
  | .instanceMissing h v => [("handle", .text (toString h.raw)), ("error", .text v.message)]
  | .handlerPanicked slot h => [("slot", .number slot), ("handle", .text (toString h.raw))]
  | .requestFailed h slot code =>
    [("handle", .text (toString h.raw)), ("slot", .number slot), ("rc", .text (codeName code))]
  | .concurrencyIgnored value fault =>
    [("value", .text value), ("error", .text fault.message)]
  | .hostCreated config plugin =>
    [("enabled", .flag config.enabled), ("concurrency", .text (optional config.concurrency)),
     ("plugin", .text plugin)]
  | .initFailed e => [("error", .text e.message)]
  | .aborting v => [("violation", .text v.message)]

end Notice

/-- The record of a notice. -/
def Entry.record (e : Entry) : LogRecord where
  level := e.notice.level
  target := e.notice.target
  thread := e.thread
  message := e.notice.message
  fields := e.notice.fields

end PluginBridge
