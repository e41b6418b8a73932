import PluginBridge.Engine.Notices
import PluginBridge.Escape
import PluginBridge.Field.Buffers
import PluginBridge.HandleTable

/-! # The plugin host

A host keeps the open instances under handles, together with the engine that gives each of them a
slot. An instance has the state of its plugin, buffers for results, the message of its last failure,
and the client of its slot, if it has one. Buffers and client are used by one call at a time.

Instances are never forgotten here: a handle that is closed no longer leads to its instance, while a
call that is already under way keeps using it. -/

namespace PluginBridge

/-- The identity of an instance: how many were made before it. -/
abbrev InstanceId := Nat

/-- An instance of a plugin, with the plugin's own state. -/
structure Instance (S : Type) where
  state : S
  buffers : Buffers := []
  buffersHeld : Bool := false
  /-- A panic struck while the buffers were in use. -/
  buffersPoisoned : Bool := false
  lastError : Option String := none
  client : Option Client := none
  clientHeld : Bool := false

/-- An instance that was just made. -/
def Instance.fresh {S : Type} (state : S) : Instance S := { state }

/-- The memory of one call: what a job's addresses lead to. -/
structure Frame where
  event : Option Event
  fields : Option (List Descriptor)
  deriving DecidableEq, Repr

/-- A host. `S` is the state of an instance and `G` whatever else extractors share. -/
structure Host (S G : Type) where
  engine : Engine
  table : HandleTable InstanceId := HandleTable.empty
  /-- Every instance that was made, by identity. -/
  instances : List (Instance S) := []
  /-- The memory of the calls under way, outermost first. -/
  memory : List Frame := []
  /-- What was told, newest first. -/
  journal : List Entry := []
  shared : G

namespace Host

variable {S G : Type}

/-- A host without instances. -/
def new (config : Config) (machine : Nat) (shared : G) : Host S G :=
  { engine := Engine.new config machine, shared }

/-- The number of open instances. -/
def size (host : Host S G) : Nat := host.table.size

/-- Whether no instance is open. -/
def isEmpty (host : Host S G) : Bool := host.table.isEmpty

/-- Tell something. -/
def tell (host : Host S G) (thread : Thread) (notice : Notice) : Host S G :=
  { host with journal := ⟨thread, notice⟩ :: host.journal }

/-- Tell several things, in order. -/
def tellAll (host : Host S G) (thread : Thread) (notices : List Notice) : Host S G :=
  notices.foldl (fun host n => host.tell thread n) host

/-- Change an instance. -/
def modify (host : Host S G) (id : InstanceId) (f : Instance S → Instance S) : Host S G :=
  { host with instances := host.instances.modify id f }

/-! ## The engine -/

/-- Switch dispatching on or off, from the next activation on. -/
def setEnabled (host : Host S G) (enabled : Bool) : Host S G :=
  { host with engine := host.engine.setEnabled enabled }

/-- Start the engine for a handle. -/
def start (host : Host S G) (thread : Thread) (h : Handle) (refusal : Option String := none) :
    Host S G × Except Violation (Option Client) :=
  let (engine, result) := host.engine.start h refusal
  ({ host with engine }.tellAll thread (host.engine.startNotices engine h refusal result), result)

/-- Stop the engine for a handle. -/
def stop (host : Host S G) (thread : Thread) (h : Handle) : Host S G × Except Violation Unit :=
  let (engine, result) := host.engine.stop h
  ({ host with engine }.tellAll thread (host.engine.stopNotices engine h), result)

/-! ## Instances -/

/-- Open an instance: give it a handle, and a slot if the engine has one. A handle whose engine
start fails is taken back. `refusal` says why the machine starts no threads, if it does not. -/
def openInstance (host : Host S G) (thread : Thread) (state : S)
    (refusal : Option String := none) : Host S G × Except Violation Handle :=
  let id := host.instances.length
  match host.table.register id with
  | .error v => (host, .error v)
  | .ok (h, table) =>
    let host := { host with table, instances := host.instances ++ [Instance.fresh state] }
    match host.start thread h refusal with
    | (host, .error v) =>
      match host.table.revoke h with
      | .error v => (host, .error v)
      | .ok (_, table) => ({ host with table }, .error v)
    | (host, .ok client) =>
      let host := host.modify id fun i => { i with client }
      (host.tell thread (.instanceOpened h), .ok h)

/-- Close an instance: stop the engine for it, drop its client, and take its handle back. It stays
open if the engine cannot be stopped. -/
def closeInstance (host : Host S G) (thread : Thread) (h : Handle) :
    Host S G × Except Escape (Except Violation Unit) :=
  match host.table.lookup h with
  | .error v => (host, .ok (.error v))
  | .ok id =>
    match host.stop thread h with
    | (host, .error v) => (host, .ok (.error v))
    | (host, .ok ()) =>
      if host.instances[id]?.any Instance.clientHeld then
        (host, .error (.standstill (.ownClient id)))
      else
        let host := host.modify id fun i => { i with client := none }
        match host.table.revoke h with
        | .error v => (host, .ok (.error v))
        | .ok (_, table) => ({ host with table }.tell thread (.instanceClosed h), .ok (.ok ()))

/-- The message of an instance's last failed extraction. -/
def lastError (host : Host S G) (h : Handle) : Except Violation (Option String) :=
  (host.table.lookup h).map fun id => host.instances[id]?.bind Instance.lastError

end Host

end PluginBridge
