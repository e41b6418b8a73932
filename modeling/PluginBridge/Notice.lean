import PluginBridge.Config
import PluginBridge.Field.Error
import PluginBridge.Handle
import PluginBridge.Plugin
import PluginBridge.Text.Count

/-! # What is worth telling

The engine, the host and the boundary tell an operator what they do. A notice says what happened and
to what; how it is worded and whether anybody hears it is decided elsewhere. -/

namespace PluginBridge

/-- The thread on which something happens. -/
inductive Thread where
  | main
  | worker (w : Nat)
  /-- A thread without a name, the `n`th that the process has started, itself included; the main
  thread is the first. -/
  | nameless (n : Nat)
  deriving DecidableEq, Repr

/-- The name of a thread, or its number if it has none. -/
def Thread.name : Thread → String
  | .main => "main"
  | .worker w => "hostcall-worker-" ++ toString w
  | .nameless n => "ThreadId(" ++ toString n ++ ")"

/-- Something that happened. -/
inductive Notice where
  | activated (processors : Nat) (available enabled : Bool) (maxWorkers : Nat)
  | deactivated
  /-- An activation found a batch that an earlier one had left behind. -/
  | leftover (live : Nat)
  | slotClaimed (slot worker : Nat) (handle : Handle)
  | slotReleased (slot : Nat)
  /-- The thread of a worker could not be started. -/
  | spawnFailed (worker : Nat) (cause : String)
  | instanceOpened (handle : Handle)
  | instanceClosed (handle : Handle)
  | extractionFailed (error : ExtractError)
  /-- The buffers were in use when an earlier extraction panicked. -/
  | buffersRecovered
  /-- A job arrived for an instance that is not there. -/
  | instanceMissing (handle : Handle) (violation : Violation)
  | handlerPanicked (slot : Nat) (handle : Handle)
  | requestFailed (handle : Handle) (slot : Nat) (code : ResultCode)
  | concurrencyIgnored (value : String) (fault : Text.CountFault)
  | hostCreated (config : Config) (plugin : String)
  | initFailed (error : InitError)
  | aborting (violation : Violation)
  deriving DecidableEq, Repr

/-- A notice and the thread that gave it. -/
structure Entry where
  thread : Thread
  notice : Notice
  deriving DecidableEq, Repr

end PluginBridge
