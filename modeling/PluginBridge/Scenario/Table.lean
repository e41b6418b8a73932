import PluginBridge.HandleTable.Shared

/-! # Scenarios of a handle table

A scenario works on a table of texts, of which some have a further owner outside the table: values
held under names. At the end the table goes away, and the held values are counted. -/

namespace PluginBridge.Scenario

/-- An operation on a table. Handles are given as raw numbers. -/
inductive TableOp where
  | register (v : String)
  /-- Make a value outside the table, under a name. -/
  | hold (v name : String)
  | unhold (name : String)
  | registerHeld (name : String)
  | owners (name : String)
  /-- Whether a handle leads to the very value under a name. -/
  | same (h : Nat) (name : String)
  /-- Register numbered values. -/
  | fill (count : Nat) (stem : String)
  | revokeRange (first last : Nat)
  | lookup (h : Nat)
  | revoke (h : Nat)

/-- The answer of an operation. -/
inductive TableAnswer where
  | done
  | flag (b : Bool)
  | count (n : Nat)
  /-- Nothing is held under the name, or nothing was registered. -/
  | nothing
  | handle (h : Handle)
  /-- A value and its number of owners while the caller has it. -/
  | value (v : String) (owners : Nat)
  | violation (v : Violation)

/-- The answer of an operation, and the table after it. -/
structure TableStep where
  answer : TableAnswer
  size : Nat
  isEmpty : Bool

/-- A table and the values that are held beside it. -/
structure TableScene where
  shared : SharedTable String := SharedTable.empty
  held : List (String × ValueId) := []

namespace TableScene

/-- The answer of a registration. -/
def registered : Except Violation Handle → TableAnswer
  | .ok h => .handle h
  | .error v => .violation v

/-- Register a new value. -/
def register (scene : TableScene) (v : String) : TableScene × TableAnswer :=
  let (id, shared) := scene.shared.create v
  let (r, shared) := shared.register id
  ({ scene with shared }, registered r)

/-- Register the values of some numbers; the answer is that of the last. -/
def fill (stem : String) : List Nat → TableScene → TableAnswer → TableScene × TableAnswer
  | [], scene, answer => (scene, answer)
  | n :: ns, scene, _ =>
    let (scene, answer) := scene.register (stem ++ toString n)
    fill stem ns scene answer

/-- Drop the value under a name. -/
def unhold (scene : TableScene) (name : String) : TableScene :=
  match scene.held.lookup name with
  | some id =>
    { shared := scene.shared.release id, held := scene.held.filter fun e => e.1 != name }
  | none => scene

/-- What the caller of a lookup or a revocation sees, before it gives its share up again. -/
def borrowed (scene : TableScene) (r : Except Violation ValueId) (shared : SharedTable String) :
    TableScene × TableAnswer :=
  match r with
  | .ok id =>
    ({ scene with shared := shared.release id },
      .value ((shared.value? id).getD "") (shared.owners id))
  | .error v => ({ scene with shared }, .violation v)

/-- Revoke some handles, and count those that had a value. -/
def revokeEach : List Handle → TableScene → Nat → TableScene × Nat
  | [], scene, count => (scene, count)
  | h :: hs, scene, count =>
    match scene.shared.revoke h with
    | (.ok id, shared) => revokeEach hs { scene with shared := shared.release id } (count + 1)
    | (.error _, shared) => revokeEach hs { scene with shared } count

/-- Do an operation. -/
def perform (scene : TableScene) : TableOp → TableScene × TableAnswer
  | .register v => scene.register v
  | .hold v name =>
    let scene := scene.unhold name
    let (id, shared) := scene.shared.create v
    ({ shared, held := (name, id) :: scene.held }, .done)
  | .unhold name => (scene.unhold name, .flag (scene.held.lookup name).isSome)
  | .registerHeld name =>
    match scene.held.lookup name with
    | none => (scene, .nothing)
    | some id =>
      let (r, shared) := (scene.shared.retain id).register id
      ({ scene with shared }, registered r)
  | .owners name =>
    (scene, (scene.held.lookup name).elim .nothing fun id => .count (scene.shared.owners id))
  | .same raw name =>
    match Handle.decode raw with
    | .error v => (scene, .violation v)
    | .ok h =>
      match scene.shared.table.lookup h with
      | .error v => (scene, .violation v)
      | .ok id => (scene, .flag (scene.held.lookup name == some id))
  | .fill count stem => fill stem (List.range count) scene .nothing
  | .revokeRange first last =>
    let (scene, n) := revokeEach (Handle.between first last) scene 0
    (scene, .count n)
  | .lookup raw =>
    match Handle.decode raw with
    | .error v => (scene, .violation v)
    | .ok h =>
      let (r, shared) := scene.shared.lookup h
      scene.borrowed r shared
  | .revoke raw =>
    match Handle.decode raw with
    | .error v => (scene, .violation v)
    | .ok h =>
      let (r, shared) := scene.shared.revoke h
      scene.borrowed r shared

/-- Do operations in order. -/
def run : List TableOp → TableScene → List TableStep × TableScene
  | [], scene => ([], scene)
  | op :: ops, scene =>
    let (scene, answer) := scene.perform op
    let step : TableStep := ⟨answer, scene.shared.table.size, scene.shared.table.isEmpty⟩
    let (steps, scene) := run ops scene
    (step :: steps, scene)

end TableScene

/-- Run a scenario: its steps, and the owners of the held values once the table is gone, by name. -/
def runTable (ops : List TableOp) : List TableStep × List (String × Nat) :=
  let (steps, scene) := TableScene.run ops {}
  let shared := scene.shared.dropTable
  (steps, (scene.held.map fun e => (e.1, shared.owners e.2)).mergeSort fun a b => a.1 ≤ b.1)

end PluginBridge.Scenario
