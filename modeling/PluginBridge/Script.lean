import PluginBridge.Event.Stream
import PluginBridge.Field.Extraction

/-! # Scripted extractors

A scripted plugin has a list of steps for each field that it supports. The steps read the event, set
values, count, fail, panic, or call back to whoever runs the script. A step that fails ends the
extraction unless it is only an attempt. Every call leaves a record of what was asked and of each
step: its result, the position after it, and the value that the request had then. -/

namespace PluginBridge

/-- One step of a script. `Op` is what can be called back. -/
inductive ScriptStep (Op : Type) where
  /-- A stream step, on the view or on the cursor underneath it. -/
  | stream (step : StreamStep) (underneath : Bool)
  | set (v : FieldValue)
  | setNumber
  | setTime
  | setLength
  /-- The counter of the instance, which goes up by one. -/
  | setCounter
  /-- The argument, or the word for none. -/
  | setArgument
  | setName
  /-- The bytes of the last reading step as text. -/
  | setText
  /-- The first eight bytes of the last reading step as a number, the lowest first. -/
  | setWord
  | fail (e : ExtractError)
  | panic (message : String)
  | call (op : Op)

/-- A step and whether it is only an attempt. -/
structure ScriptLine (Op : Type) where
  step : ScriptStep Op
  attempt : Bool := false

/-- The steps for each supported field. -/
abbrev Script (Op : Type) := List (String × List (ScriptLine Op))

/-- The result of a step. `A` is what a callback answers. -/
inductive StepResult (A : Type) where
  | stream (answer : StreamAnswer)
  | set
  | failed (e : ExtractError)
  | called (answer : A)

/-- The record of a step. -/
structure StepRecord (A : Type) where
  result : StepResult A
  pos : Nat
  value : Option FieldValue

/-- The record of one call of the extractor. -/
structure CallRecord (A : Type) where
  spec : FieldSpec
  num : UInt64
  time : UInt64
  length : Nat
  steps : List (StepRecord A)

/-- What a script needs of the world that it runs in. -/
structure Stage (W Op A : Type) where
  /-- The next value of the instance's counter. -/
  count : W → UInt64 × W
  call : Op → W → W × Except Escape A
  /-- Keep the record of a call that has ended. -/
  keep : CallRecord A → W → W

namespace Script

variable {W Op A : Type} {spec : FieldSpec}

/-- The number whose bytes these are, the lowest first. -/
def wordOf (bytes : List UInt8) : UInt64 :=
  (bytes.take 8).foldr (fun b n => n * 256 + b.toUInt64) 0

/-- Where a call of the extractor stands. -/
structure Progress (W : Type) (spec : FieldSpec) where
  world : W
  view : EventView
  request : FieldRequest spec
  /-- The bytes of the last reading step. -/
  last : List UInt8 := []

/-- Set the value of the request. -/
def Progress.set (p : Progress W spec) (v : FieldValue) :
    Progress W spec × Except Escape (StepResult A) :=
  match p.request.setValue v with
  | .ok request => ({ p with request }, .ok .set)
  | .error e => (p, .ok (.failed e))

/-- Do a stream step. -/
def Progress.stream (p : Progress W spec) (step : StreamStep) (underneath : Bool) :
    Progress W spec × Except Escape (StepResult A) :=
  let (result, view) :=
    if underneath then p.view.onPayload fun c => c.perform step else p.view.perform step
  match result with
  | .ok answer =>
    ({ p with view, last := answer.bytes?.getD p.last }, .ok (.stream answer))
  | .error e => ({ p with view }, .ok (.failed (.io e.message)))

/-- Do one step. -/
def Progress.step (stage : Stage W Op A) (p : Progress W spec) :
    ScriptStep Op → Progress W spec × Except Escape (StepResult A)
  | .stream step underneath => p.stream step underneath
  | .set v => p.set v
  | .setNumber => p.set (.number p.view.num)
  | .setTime => p.set (.number p.view.time)
  | .setLength => p.set (.number (UInt64.ofNat p.view.payload.data.length))
  | .setCounter =>
    let (n, world) := stage.count p.world
    { p with world }.set (.number n)
  | .setArgument => p.set (.text (spec.arg.getD "none"))
  | .setName => p.set (.text spec.name)
  | .setText => p.set (.text (Text.Utf8.decodeLossy p.last))
  | .setWord => p.set (.number (wordOf p.last))
  | .fail e => (p, .ok (.failed e))
  | .panic message => (p, .error (.panic message))
  | .call op =>
    let (world, result) := stage.call op p.world
    ({ p with world }, result.map .called)

/-- The record of a step that has just been done. -/
def Progress.record (p : Progress W spec) (result : StepResult A) : StepRecord A :=
  ⟨result, p.view.pos, p.request.value⟩

/-- Do steps up to the one that ends the call. -/
def Progress.run (stage : Stage W Op A) :
    List (ScriptLine Op) → Progress W spec → Progress W spec × List (StepRecord A) × Ending
  | [], p => (p, [], .done)
  | line :: lines, p =>
    match p.step stage line.step with
    | (p, .error escape) => (p, [], .escaped escape)
    | (p, .ok result) =>
      let record := p.record result
      let more (_ : Unit) :=
        let (p, records, ending) := run stage lines p
        (p, record :: records, ending)
      match result with
      | .failed e => if line.attempt then more () else (p, [record], .failed e)
      | _ => more ()

/-- The extractor of a script. -/
def extractor (stage : Stage W Op A) (script : Script Op) : Extractor W := fun spec view w =>
  let start : Progress W spec := { world := w, view, request := .unset spec }
  let (p, steps, ending) :=
    match script.lookup spec.name with
    | none => (start, [], Ending.failed (.notSupported spec.name))
    | some lines => start.run stage lines
  let record : CallRecord A := ⟨spec, view.num, view.time, view.payload.data.length, steps⟩
  ⟨stage.keep record p.world, spec, p.request, ending⟩

end Script

end PluginBridge
