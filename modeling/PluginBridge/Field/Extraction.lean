import PluginBridge.Escape
import PluginBridge.Field.Buffers

/-! # Extracting the fields of an event

`extractFields` runs an extractor over the descriptors of one call, in order, and stops at the first
field that fails. Each field sees the event from its start. Descriptors before the failing one keep
their results; it and those after it are left not present.

An extractor is a function on a world `W`, which is whatever it can change: the state of its
instance, a trace of its calls, or a whole host that it calls back into. It gets a request for the
field of the descriptor, and may put one of its own in the place of it: the value is taken from the
request that it leaves, whatever that one asks for. -/

namespace PluginBridge

/-- How a call of an extractor, or of a whole extraction, ended. -/
inductive Ending where
  | done
  | failed (e : ExtractError)
  | escaped (x : Escape)
  deriving DecidableEq, Repr

/-- What a call of an extractor leaves behind. -/
structure Extracted (W : Type) where
  world : W
  /-- What the request asks for that the extractor leaves. -/
  asked : FieldSpec
  request : FieldRequest asked
  ending : Ending

/-- The extraction logic of a plugin. -/
abbrev Extractor (W : Type) := FieldSpec → EventView → W → Extracted W

/-- What an extraction leaves behind. -/
structure Extraction (W : Type) where
  world : W
  buffers : Buffers
  fields : List Descriptor
  ending : Ending

namespace Extraction

variable {W : Type}

/-- Put a descriptor in front of those that an extraction went on to. -/
def prepend (d : Descriptor) (x : Extraction W) : Extraction W :=
  { x with fields := d :: x.fields }

/-- Extract cleared descriptors, the first of which is at `place`. -/
def run (extract : Extractor W) (event : Event) :
    (place : Nat) → List Descriptor → W → Buffers → Extraction W
  | _, [], w, bs => ⟨w, bs, [], .done⟩
  | place, d :: ds, w, bs =>
    match d.spec? with
    | .error f => ⟨w, bs, d :: ds, .failed (.invalidField f)⟩
    | .ok spec =>
      let got := extract spec event.view w
      match got.ending with
      | .done =>
        match got.request.value with
        | none => (run extract event (place + 1) ds got.world bs).prepend d
        | some v =>
          match Buffers.store bs place spec.name v with
          | (bs, .error e) => ⟨got.world, bs, d :: ds, .failed e⟩
          | (bs, .ok (result, length)) =>
            (run extract event (place + 1) ds got.world bs).prepend { d with result, length }
      | ending => ⟨got.world, bs, d :: ds, ending⟩

end Extraction

/-- Extract the first `count` of the given descriptors for an event. The event is looked at first,
then the count, then the array. -/
def extractFields {W : Type} (extract : Extractor W) (event : Option Event) (count : Nat)
    (fields : Option (List Descriptor)) (w : W) (bs : Buffers) : Extraction W :=
  match event with
  | none => ⟨w, bs, fields.getD [], .failed (.invalidField .noEvent)⟩
  | some event =>
    if count = 0 then ⟨w, bs, fields.getD [], .done⟩
    else
      match fields with
      | none => ⟨w, bs, [], .failed (.invalidField .noFields)⟩
      | some ds =>
        let x := Extraction.run extract event 0 ((ds.take count).map Descriptor.clear) w bs
        { x with fields := x.fields ++ ds.drop count }

end PluginBridge
