import PluginBridge.Script

/-! # Scenarios of an extractor

A scenario makes calls on one instance of a scripted plugin, one after the other, with the same
buffers throughout. The script has nobody to call back to. -/

namespace PluginBridge.Scenario

/-- A call: an event, the number of fields, and the field array. -/
structure ExtractCall where
  event : Option Event
  count : Nat
  fields : Option (List Descriptor)

/-- What a call left behind. -/
structure ExtractStep where
  ending : Ending
  outputs : List FieldOutput
  records : List (CallRecord Empty)

/-- An instance without a host: its counter and the records of the call under way. -/
structure ExtractScene where
  counter : UInt64
  records : List (CallRecord Empty) := []

namespace ExtractScene

/-- The stage that a scene gives to its script. -/
def stage : Stage ExtractScene Empty Empty where
  count scene := (scene.counter, { scene with counter := scene.counter + 1 })
  call op _ := nomatch op
  keep record scene := { scene with records := record :: scene.records }

/-- Make calls in order. -/
def run (script : Script Empty) :
    List ExtractCall → ExtractScene → Buffers → List ExtractStep
  | [], _, _ => []
  | c :: cs, scene, buffers =>
    let x := extractFields (Script.extractor stage script) c.event c.count c.fields
      { scene with records := [] } buffers
    ⟨x.ending, x.fields.map (Descriptor.output x.buffers), x.world.records.reverse⟩
      :: run script cs x.world x.buffers

end ExtractScene

/-- Run a scenario on an instance whose counter starts at a number. -/
def runExtract (script : Script Empty) (start : UInt64) (calls : List ExtractCall) :
    List ExtractStep :=
  ExtractScene.run script calls { counter := start } []

end PluginBridge.Scenario
