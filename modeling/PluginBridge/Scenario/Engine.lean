import PluginBridge.Engine.Request

/-! # Scenarios of an engine

A scenario starts and stops an engine and makes requests through named clients. The handler counts
the jobs of each handle, writes the count to the memory of the caller, and may go on with operations
of its own on the same engine before it answers. What the handler sees is kept in the order in which
it happens. A worker that has nothing to do between two operations may have gone to sleep by the
next one. -/

namespace PluginBridge.Scenario

/-- How deep calls may be nested. Deeper calls are taken to have no end. -/
def nestingLimit : Nat := 1000

/-- Whether a worker sleeps as soon as it has nothing to do, and for longer than the engine waits for
it. -/
def oversleeps (config : Config) : Bool :=
  config.starvationThreshold == 0 && config.transitionSpan.toNanos < config.idleSpan.toNanos

/-- The engine after a while in which its workers had nothing to do. -/
def rest (e : Engine) : Engine :=
  if oversleeps e.config then
    { e with pool := (List.range e.pool.threads.length).foldl Pool.slow e.pool }
  else e

/-- Requests of one client among several that make theirs at the same time. -/
structure ClientLoad where
  client : String
  handle : Nat
  count : Nat

/-- An operation on an engine. Handles are given as raw numbers. -/
inductive EngineOp where
  /-- Start for a handle and keep the client under a name. -/
  | start (h : Nat) (client : String)
  | stop (h : Nat)
  | setEnabled (b : Bool)
  | isEnabled
  | stats
  | dropClient (client : String)
  | request (client : String) (h count : Nat)
  | concurrent (loads : List ClientLoad)

/-- What the handler does for a handle: operations of its own, and then an answer. -/
structure Reaction where
  code : ResultCode := .success
  panics : Bool := false
  nested : List EngineOp := []

/-- How the requests of one of several clients went. -/
structure LoadResult where
  succeeded : Nat := 0
  /-- The counts that came back, in order; a request that was rejected has none, and stands as
  zero. -/
  counts : List Nat := []

namespace LoadResult

/-- Put the outcome of one more request in front. -/
def cons (outcome : Except Violation (ResultCode × Nat)) (r : LoadResult) : LoadResult :=
  match outcome with
  | .ok (code, n) => ⟨r.succeeded + (if code.isSuccess then 1 else 0), n :: r.counts⟩
  | .error _ => { r with counts := 0 :: r.counts }

/-- The first count, which is zero if there was no request. -/
def first (r : LoadResult) : Nat := r.counts.headD 0

/-- The last count, which is zero if there was no request. -/
def last (r : LoadResult) : Nat := r.counts.getLastD 0

end LoadResult

/-- Whether each number is the one before and one more. -/
def gapFree : List Nat → Bool
  | a :: b :: rest => b == a + 1 && gapFree (b :: rest)
  | _ => true

/-- The answer of an operation. -/
inductive EngineAnswer where
  | done
  | flag (b : Bool)
  | index (i : Option Nat)
  | answered (c : ResultCode) (count : Nat)
  | violation (v : Violation)
  /-- There is no such client, or it is in a request. -/
  | noClient
  | loads (results : List LoadResult)

/-- What happened while an operation was under way. -/
inductive EngineEvent where
  | job (handle count : Nat)
  | nested (answer : EngineAnswer) (stats : EngineStats)

/-- The answer of an operation, the engine after it, and what happened on the way. -/
structure EngineStep where
  answer : EngineAnswer
  stats : EngineStats
  events : List EngineEvent

/-- An engine, its clients, and what its handler keeps. -/
structure EngineScene where
  engine : Engine
  /-- The clients by name, without those in a request. -/
  clients : List (String × Client) := []
  /-- The jobs of each handle so far. -/
  counts : List (Nat × Nat) := []
  /-- The memory of the callers under way, outermost first. -/
  memory : List Nat := []
  /-- What happened, newest first. -/
  events : List EngineEvent := []

namespace EngineScene

/-- Access to the engine of a scene. -/
def engineIn : EngineIn EngineScene := ⟨EngineScene.engine, fun engine s => { s with engine }⟩

/-- Performs an operation, unless it cannot be answered. -/
abbrev Performer := EngineOp → EngineScene → EngineScene × Except Escape EngineAnswer

/-- Do the operations of a handler, and note their answers. -/
def nestedOps (perform : Performer) :
    List EngineOp → EngineScene → EngineScene × Except Escape Unit
  | [], scene => (scene, .ok ())
  | op :: ops, scene =>
    match perform op scene with
    | (scene, .error escape) => (scene, .error escape)
    | (scene, .ok answer) =>
      nestedOps perform ops
        { scene with events := .nested answer scene.engine.stats :: scene.events }

/-- Serve a job: count it, tell the caller, and react. -/
def handler (reactions : List (Nat × Reaction)) (perform : Performer) (_worker : Nat) (job : Job)
    (scene : EngineScene) : EngineScene × Except Escape ResultCode :=
  let h := job.handle.raw
  let count := (scene.counts.lookup h).getD 0 + 1
  let scene :=
    { scene with
      counts := (h, count) :: scene.counts.filter fun e => e.1 != h
      memory := if job.event = 0 then scene.memory else scene.memory.set (job.event - 1) count
      events := .job h job.count :: scene.events }
  let reaction := (reactions.lookup h).getD {}
  match nestedOps perform reaction.nested scene with
  | (scene, .error escape) => (scene, .error escape)
  | (scene, .ok ()) =>
    (scene, if reaction.panics then .error (.panic "handler panicked") else .ok reaction.code)

/-- Drop the client under a name. -/
def dropClient (scene : EngineScene) (name : String) : EngineScene :=
  { scene with clients := scene.clients.filter fun e => e.1 != name }

/-- Keep a client under a name, in the place of an older one. -/
def keepClient (scene : EngineScene) (name : String) (c : Client) : EngineScene :=
  { scene with clients := (name, c) :: (scene.dropClient name).clients }

/-- Make a request through a client: the code and the count that came back, or the violation. -/
def post (serve : Nat → Job → EngineScene → EngineScene × Except Escape ResultCode) (c : Client)
    (h : Handle) (count : Nat) (scene : EngineScene) :
    EngineScene × Except Escape (Except Violation (ResultCode × Nat)) :=
  let address := scene.memory.length + 1
  let (scene, result) :=
    engineIn.request serve c ⟨h, address, count, 0⟩ { scene with memory := scene.memory ++ [0] }
  let counted := scene.memory.getD (address - 1) 0
  ({ scene with memory := scene.memory.take (address - 1) },
    result.map fun outcome => outcome.map fun code => (code, counted))

/-- Make a request through the client of a name, which nobody else has for that long. -/
def request (serve : Nat → Job → EngineScene → EngineScene × Except Escape ResultCode)
    (client : String) (h : Handle) (count : Nat) (scene : EngineScene) :
    EngineScene × Except Escape EngineAnswer :=
  match scene.clients.lookup client with
  | none => (scene, .ok .noClient)
  | some c =>
    let (scene, result) := (scene.dropClient client).post serve c h count
    (scene.keepClient client c, result.map fun
      | .ok (code, counted) => .answered code counted
      | .error v => .violation v)

/-- A load whose client has been taken for it. -/
structure ReadyLoad where
  name : String
  client : Client
  handle : Handle
  count : Nat

/-- Make the requests of one client. -/
def load (serve : Nat → Job → EngineScene → EngineScene × Except Escape ResultCode) (c : Client)
    (h : Handle) : (count : Nat) → EngineScene → EngineScene × Except Escape LoadResult
  | 0, scene => (scene, .ok {})
  | n + 1, scene =>
    match scene.post serve c h 1 with
    | (scene, .error escape) => (scene, .error escape)
    | (scene, .ok outcome) =>
      let (scene, r) := load serve c h n scene
      (scene, r.map (LoadResult.cons outcome))

/-- Make the requests of several clients. Their counts are kept per handle, so clients of different
handles get the same counts in every order of their requests. -/
def loads (serve : Nat → Job → EngineScene → EngineScene × Except Escape ResultCode) :
    List ReadyLoad → EngineScene → EngineScene × Except Escape (List LoadResult)
  | [], scene => (scene, .ok [])
  | l :: ls, scene =>
    match load serve l.client l.handle l.count scene with
    | (scene, .error escape) => (scene, .error escape)
    | (scene, .ok r) =>
      match loads serve ls scene with
      | (scene, .ok rs) => (scene, .ok (r :: rs))
      | failed => failed

/-- Take the clients of loads, each of which needs a handle and a client of its own. -/
def takeLoads : List ClientLoad → EngineScene →
    Except EngineAnswer (List ReadyLoad × EngineScene)
  | [], scene => .ok ([], scene)
  | l :: ls, scene =>
    match Handle.decode l.handle, scene.clients.lookup l.client with
    | .error v, _ => .error (.violation v)
    | .ok _, none => .error .noClient
    | .ok handle, some client =>
      (takeLoads ls (scene.dropClient l.client)).map fun (ready, scene) =>
        (⟨l.client, client, handle, l.count⟩ :: ready, scene)

/-- Give the clients of loads back. -/
def keepLoads (ready : List ReadyLoad) (scene : EngineScene) : EngineScene :=
  ready.foldl (fun scene l => scene.keepClient l.name l.client) scene

/-- An operation on a handle, which has to be one. -/
def onHandle (scene : EngineScene) (raw : Nat)
    (f : Handle → EngineScene × Except Escape EngineAnswer) :
    EngineScene × Except Escape EngineAnswer :=
  match Handle.decode raw with
  | .ok h => f h
  | .error v => (scene, .ok (.violation v))

/-- Start the engine for a handle. A client replaces the older one of its name. -/
def start (scene : EngineScene) (h : Handle) (name : String) : EngineScene × EngineAnswer :=
  match scene.engine.start h with
  | (engine, .error v) => ({ scene with engine }, .violation v)
  | (engine, .ok none) => ({ scene with engine }, .index none)
  | (engine, .ok (some c)) =>
    ({ scene.keepClient name c with engine }, .index (some c.slot))

/-- Do an operation. Its handler may do operations that are nested in it. -/
def perform (reactions : List (Nat × Reaction)) : (fuel : Nat) → Performer
  | 0, _, scene => (scene, .error (.standstill .endless))
  | fuel + 1, op, scene =>
    let serve := handler reactions (perform reactions fuel)
    match op with
    | .start raw name => scene.onHandle raw fun h =>
      let (scene, answer) := scene.start h name
      (scene, .ok answer)
    | .stop raw => scene.onHandle raw fun h =>
      let (engine, r) := scene.engine.stop h
      ({ scene with engine }, .ok (match r with | .ok () => .done | .error v => .violation v))
    | .setEnabled b => ({ scene with engine := scene.engine.setEnabled b }, .ok .done)
    | .isEnabled => (scene, .ok (.flag scene.engine.enabled))
    | .stats => (scene, .ok .done)
    | .dropClient name =>
      (scene.dropClient name, .ok (.flag (scene.clients.lookup name).isSome))
    | .request client raw count => scene.onHandle raw fun h => scene.request serve client h count
    | .concurrent ls =>
      match takeLoads ls scene with
      | .error answer => (scene, .ok answer)
      | .ok (ready, taken) =>
        match loads serve ready taken with
        | (after, .ok rs) =>
          ({ keepLoads ready after with events := scene.events }, .ok (.loads rs))
        | (after, .error escape) => (after, .error escape)

/-- Do operations in order, up to one that cannot be answered. -/
def run (reactions : List (Nat × Reaction)) : List EngineOp → EngineScene → List EngineStep
  | [], _ => []
  | op :: ops, scene =>
    match perform reactions nestingLimit op { scene with engine := rest scene.engine, events := [] } with
    | (_, .error _) => []
    | (scene, .ok answer) =>
      ⟨answer, scene.engine.stats, scene.events.reverse⟩ :: run reactions ops scene

end EngineScene

/-- Run a scenario on a new engine, on a machine with one processor. -/
def runEngine (config : Config) (reactions : List (Nat × Reaction)) (ops : List EngineOp) :
    List EngineStep :=
  EngineScene.run reactions ops { engine := Engine.new config 1 }

end PluginBridge.Scenario
