import PluginBridge.Field.Descriptor

/-! # Result storage of an instance

Results stay in buffers of the instance, one for each place in the descriptor array, until the
instance extracts again. A buffer keeps numbers, null-terminated strings, and the pointers to the
strings that a descriptor refers to. What an earlier extraction left in a buffer stays there until
something of the same kind replaces it. -/

namespace PluginBridge

/-- The storage for one place. `pointers` are places in `strings`. -/
structure FieldBuffer where
  numbers : List UInt64 := []
  strings : List String := []
  pointers : List Nat := []
  deriving DecidableEq, Repr

/-- The storage of an instance. -/
abbrev Buffers := List FieldBuffer

/-- A reference and the number of values behind it. A reference to no values is null. -/
def resultOf (ref : ResultRef) (length : Nat) : ResultRef × Nat :=
  if length = 0 then (.null, 0) else (ref, length)

/-- Whether a text can be handed over with a terminator after it. -/
def hasNul (s : String) : Bool := s.toList.contains '\x00'

namespace FieldBuffer

/-- A buffer that was never used. -/
def empty : FieldBuffer := {}

/-- Store numbers. -/
def storeNumbers (b : FieldBuffer) (place : Nat) (ns : List UInt64) :
    FieldBuffer × (ResultRef × Nat) :=
  ({ b with numbers := ns }, resultOf (.numbers place) ns.length)

/-- Store texts. A null character in one of them leaves the strings as they were, without pointers
to them. -/
def storeTexts (b : FieldBuffer) (place : Nat) (field : String) (ss : List String) :
    FieldBuffer × Except ExtractError (ResultRef × Nat) :=
  if ss.any hasNul then ({ b with pointers := [] }, .error (.interiorNul field))
  else
    ({ b with strings := ss, pointers := List.range ss.length },
      .ok (resultOf (.texts place) ss.length))

/-- Store the value of a field. -/
def store (b : FieldBuffer) (place : Nat) (field : String) :
    FieldValue → FieldBuffer × Except ExtractError (ResultRef × Nat)
  | .number n => let (b, r) := b.storeNumbers place [n]; (b, .ok r)
  | .numbers ns => let (b, r) := b.storeNumbers place ns; (b, .ok r)
  | .text s => b.storeTexts place field [s]
  | .texts ss => b.storeTexts place field ss

end FieldBuffer

namespace Buffers

/-- The buffer at a place; a place that was never used has an empty one. -/
def buffer (bs : Buffers) (place : Nat) : FieldBuffer := bs.getD place .empty

/-- Replace the buffer at a place, with empty ones before it where there were none. -/
def put (bs : Buffers) (place : Nat) (b : FieldBuffer) : Buffers :=
  (bs ++ List.replicate (place + 1 - bs.length) FieldBuffer.empty).set place b

/-- Store the value of the field at a place. -/
def store (bs : Buffers) (place : Nat) (field : String) (v : FieldValue) :
    Buffers × Except ExtractError (ResultRef × Nat) :=
  let (b, r) := (Buffers.buffer bs place).store place field v
  (Buffers.put bs place b, r)

end Buffers

/-- What the host finds when it follows a descriptor's result. -/
inductive FieldOutput where
  /-- The call did not write to the descriptor, which has this length. -/
  | untouched (length : Nat)
  | absent
  | numbers (ns : List UInt64)
  | texts (ss : List String)
  deriving DecidableEq, Repr

/-- Follow the result of a descriptor into the buffers. -/
def Descriptor.output (bs : Buffers) (d : Descriptor) : FieldOutput :=
  match d.result with
  | .foreign => .untouched d.length
  | .null => .absent
  | .numbers place => .numbers ((Buffers.buffer bs place).numbers.take d.length)
  | .texts place =>
    let b := Buffers.buffer bs place
    .texts ((b.pointers.take d.length).map fun p => b.strings.getD p "")

end PluginBridge
