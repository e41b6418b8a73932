import PluginBridge.Json.Number
import PluginBridge.Text.Quoted

/-! # What can be wrong with a document

A document is read from left to right against the shape that its reader expects, and the first
problem met decides. A malformed text and a text that ends too early have no further detail; a
well-formed value of the wrong shape has a cause, whose wording is `Mismatch.message`. -/

namespace PluginBridge.Json

/-- The value that stands where another was expected. -/
inductive Found where
  | null
  | bool (b : Bool)
  | number (n : Number)
  | text (s : String)
  | sequence
  | map
  deriving DecidableEq, Repr

/-- A value as a message shows it. -/
def Found.message : Found → String
  | .null => "null"
  | .bool b => "boolean \x60" ++ (if b then "true" else "false") ++ "\x60"
  | .number n => n.message
  | .text s => "string " ++ Text.quoted s
  | .sequence => "sequence"
  | .map => "map"

/-- Why a well-formed value does not fit. -/
inductive Mismatch where
  | wrongType (found : Found) (expected : String)
  | wrongValue (found : Found) (expected : String)
  | wrongLength (length : Nat) (expected : String)
  | missingKey (key : String)
  | repeatedKey (key : String)
  | unknownVariant (given : String) (known : List String)
  deriving DecidableEq, Repr

/-- A list of names as a message shows it. -/
def alternatives (names : List String) : String :=
  " or ".intercalate (names.map fun s => "\x60" ++ s ++ "\x60")

/-- The wording of a mismatch. -/
def Mismatch.message : Mismatch → String
  | .wrongType found expected => "invalid type: " ++ found.message ++ ", expected " ++ expected
  | .wrongValue found expected => "invalid value: " ++ found.message ++ ", expected " ++ expected
  | .wrongLength n expected => "invalid length " ++ toString n ++ ", expected " ++ expected
  | .missingKey key => "missing field \x60" ++ key ++ "\x60"
  | .repeatedKey key => "duplicate field \x60" ++ key ++ "\x60"
  | .unknownVariant given known =>
    "unknown variant \x60" ++ given ++ "\x60, expected " ++ alternatives known

/-- The first problem of a document. -/
inductive Fault where
  | malformed
  | truncated
  | mismatch (cause : Mismatch)
  deriving DecidableEq, Repr

/-- The wording of a fault. -/
def Fault.message : Fault → String
  | .malformed => "malformed document"
  | .truncated => "document ends too early"
  | .mismatch cause => cause.message

end PluginBridge.Json
