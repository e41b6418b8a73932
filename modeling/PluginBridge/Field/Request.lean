import PluginBridge.Field.Error

/-! # One field that is asked for

A request says what is asked for and holds the value found so far. A value of another shape than the
one that the request asks for is refused and changes nothing, so the value in a request always has
that shape. Anyone can make a request, for whatever field and shape. -/

namespace PluginBridge

/-- What is asked for. -/
structure FieldSpec where
  id : Nat
  shape : FieldShape
  name : String
  arg : Option String
  deriving DecidableEq, Repr

/-- A request for a field: the value found so far, if any. -/
structure FieldRequest (spec : FieldSpec) where
  value : Option FieldValue := none
  shape_value : ∀ v, value = some v → v.shape = spec.shape := by simp

namespace FieldRequest

variable {spec : FieldSpec}

/-- A request in which nothing was set yet. -/
def unset (spec : FieldSpec) : FieldRequest spec := {}

@[simp] theorem value_unset (spec : FieldSpec) : (unset spec).value = none := rfl

/-- The error of a value with the wrong shape. -/
def mismatch (spec : FieldSpec) (v : FieldValue) : ExtractError :=
  .typeMismatch spec.name spec.shape.name v.shape.name

/-- Set the value, unless it has the wrong shape. -/
def setValue (_ : FieldRequest spec) (v : FieldValue) : Except ExtractError (FieldRequest spec) :=
  if h : v.shape = spec.shape then .ok ⟨some v, by rintro _ ⟨⟩; exact h⟩
  else .error (mismatch spec v)

/-- Try to set the value; a refused one leaves the request as it was. -/
def attempt (r : FieldRequest spec) (v : FieldValue) : FieldRequest spec :=
  match r.setValue v with
  | .ok r => r
  | .error _ => r

end FieldRequest

end PluginBridge
