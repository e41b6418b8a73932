import PluginBridge.Json.Reader

/-! # Records

A record is a map with known keys. A `Shape` names them in order, says which must be given, and says
for each what its value changes in the record; a key that is not given leaves the initial value.
Keys come in any order, a key that nobody knows is skipped with its value, and a known key that
comes twice is refused at its second place, before its value is looked at. A record may also be
written as a sequence of its values in order. -/

namespace PluginBridge.Json

/-- One key of a record of type `σ`. -/
structure Member (σ : Type) where
  key : String
  required : Bool
  value : Reader (σ → σ)

/-- A record type: its name, its keys in order, and the record before any key is read. -/
structure Shape (σ : Type) where
  name : String
  members : List (Member σ)
  initial : σ

namespace Shape

variable {σ : Type}

/-- What a message calls a record of this shape. -/
def expected (shape : Shape σ) : String := "struct " ++ shape.name

/-- What a message calls the sequence form of this shape. -/
def expectedLength (shape : Shape σ) : String :=
  let n := shape.members.length
  shape.expected ++ " with " ++ toString n ++ (if n = 1 then " element" else " elements")

/-- The first required key that was not given. -/
def missing? (shape : Shape σ) (seen : List String) : Option String :=
  (shape.members.find? fun m => m.required && !seen.contains m.key).map Member.key

/-- The entries of a map up to its closing bracket: the record and the known keys that were given.
-/
def entries (shape : Shape σ) :
    (fuel : Nat) → (first : Bool) → (seen : List String) → σ → Reader (σ × List String)
  | 0, _, _, _ => refuse .truncated
  | fuel + 1, first, seen, record => do
    match ← nextKey first with
    | none => pure (record, seen)
    | some key =>
      match shape.members.find? fun m => m.key == key with
      | some m =>
        if seen.contains key then mismatch (.repeatedKey key)
        else do
          colon
          let change ← m.value
          entries shape fuel false (key :: seen) (change record)
      | none => do
        colon
        skip
        entries shape fuel false seen record

/-- The values of a sequence, one for each member from position `index` on. -/
def values (shape : Shape σ) : List (Member σ) → (index : Nat) → σ → Reader σ
  | [], _, record => pure record
  | m :: ms, index, record => do
    if ← nextElement (index == 0) then
      let change ← m.value
      values shape ms (index + 1) (change record)
    else if m.required then mismatch (.wrongLength index shape.expectedLength)
    else values shape ms (index + 1) record

/-- Read a record in either form. -/
def read (shape : Shape σ) : Reader σ := do
  let c ← peekSome
  if c = '\x7b' then do
    advance
    let (record, seen) ← shape.entries ((← get).length + 1) true [] shape.initial
    match shape.missing? seen with
    | some key => mismatch (.missingKey key)
    | none => do
      advance
      pure record
  else if c = '[' then do
    advance
    let record ← shape.values shape.members 0 shape.initial
    endSequence
    pure record
  else unexpected c shape.expected

end Shape

end PluginBridge.Json
