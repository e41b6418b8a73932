import PluginBridge.Schema.Field

/-! # Field values -/

namespace PluginBridge

/-- What a field can hold: a type, once or as a list. -/
structure FieldShape where
  type : FieldType
  isList : Bool
  deriving DecidableEq, Repr

/-- The name of a shape in messages. -/
def FieldShape.name (s : FieldShape) : String :=
  s.type.name ++ (if s.isList then " list" else "")

/-- An extracted value. -/
inductive FieldValue where
  | number (n : UInt64)
  | text (s : String)
  | numbers (ns : List UInt64)
  | texts (ss : List String)
  deriving DecidableEq, Repr

/-- The shape of a value. -/
def FieldValue.shape : FieldValue → FieldShape
  | .number _ => ⟨.number, false⟩
  | .text _ => ⟨.text, false⟩
  | .numbers _ => ⟨.number, true⟩
  | .texts _ => ⟨.text, true⟩

end PluginBridge
