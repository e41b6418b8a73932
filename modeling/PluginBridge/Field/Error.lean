import PluginBridge.Event.Cursor
import PluginBridge.Field.Value
import PluginBridge.ResultCode

/-! # Errors of an extraction -/

namespace PluginBridge

/-- Why a field descriptor, or the call that it belongs to, cannot be used. -/
inductive DescriptorFault where
  | noEvent
  | noFields
  | unknownType (code : Nat)
  | unnamed (id : Nat)
  | notText (fault : Text.Utf8.Fault)
  /-- A cause that a plugin gives in its own words. -/
  | other (message : String)
  deriving DecidableEq, Repr

/-- The wording of a descriptor fault. -/
def DescriptorFault.message : DescriptorFault → String
  | .noEvent => "null event"
  | .noFields => "null field array"
  | .unknownType code => "unknown field type " ++ toString code
  | .unnamed id => "field " ++ toString id ++ " has no name"
  | .notText fault => fault.message
  | .other message => message

/-- Why an extraction stopped. -/
inductive ExtractError where
  | notSupported (field : String)
  | typeMismatch (field : String) (expected found : String)
  | invalidField (cause : DescriptorFault)
  /-- A text value holds a null character and cannot be handed over. -/
  | interiorNul (field : String)
  /-- Reading the event failed, for the reason given. -/
  | io (message : String)
  /-- The plugin failed, in its own words. -/
  | plugin (message : String)
  deriving DecidableEq, Repr

namespace ExtractError

/-- The wording of an extraction error. -/
def message : ExtractError → String
  | .notSupported field => "field " ++ field ++ " is not supported"
  | .typeMismatch field expected found =>
    "field " ++ field ++ " expects a " ++ expected ++ " value, got " ++ found
  | .invalidField cause => "invalid field descriptor: " ++ cause.message
  | .interiorNul field => "value for field " ++ field ++ " contains an interior nul byte"
  | .io message => "event read failed: " ++ message
  | .plugin message => message

/-- The result code of an extraction that stopped. -/
def code : ExtractError → ResultCode
  | .notSupported _ => .notSupported
  | _ => .failure

end ExtractError

end PluginBridge
