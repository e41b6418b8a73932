import PluginBridge.Event.View
import PluginBridge.Field.Request

/-! # What the host hands over

The host lays out one event and an array of field descriptors in its own memory. A descriptor names
a field and has room for a result: a reference and a length. References point into the buffers of
the instance that extracts, at the place of the descriptor. -/

namespace PluginBridge

/-- An event in the host's memory. `data` is `none` for a null address. -/
structure Event where
  num : UInt64
  time : UInt64
  data : Option (List UInt8)
  length : Nat
  deriving DecidableEq, Repr

/-- A fresh view of an event, at the start of its payload. -/
def Event.view (e : Event) : EventView := ⟨e.num, e.time, Cursor.ofMemory e.data e.length⟩

/-- The result reference of a descriptor. -/
inductive ResultRef where
  /-- What the host had put there before the call. -/
  | foreign
  | null
  /-- The numbers in the buffer at a place. -/
  | numbers (place : Nat)
  /-- The texts in the buffer at a place. -/
  | texts (place : Nat)
  deriving DecidableEq, Repr

/-- A field descriptor in the host's memory. Name and argument are null-terminated, or `none` for a
null address. -/
structure Descriptor where
  id : Nat
  name : Option (List UInt8)
  arg : Option (List UInt8)
  type : Nat
  isList : Bool
  result : ResultRef
  length : Nat
  deriving DecidableEq, Repr

namespace Descriptor

/-- The text at an address, if there is one. -/
def textAt (address : Option (List UInt8)) : Except DescriptorFault (Option String) :=
  match address with
  | none => .ok none
  | some bytes =>
    match Text.Utf8.decode (terminated bytes) with
    | .ok s => .ok (some s)
    | .error f => .error (.notText f)

/-- What a descriptor asks for. Its type is looked at first, then its name, then its argument; an
empty argument is none. -/
def spec? (d : Descriptor) : Except DescriptorFault FieldSpec :=
  match FieldType.ofCode? d.type with
  | none => .error (.unknownType d.type)
  | some type =>
    match textAt d.name with
    | .error f => .error f
    | .ok none => .error (.unnamed d.id)
    | .ok (some name) =>
      match textAt d.arg with
      | .error f => .error f
      | .ok arg => .ok ⟨d.id, ⟨type, d.isList⟩, name, arg.filter (· ≠ "")⟩

/-- A descriptor without a result: the field is not present. -/
def clear (d : Descriptor) : Descriptor := { d with result := .null, length := 0 }

end Descriptor

end PluginBridge
