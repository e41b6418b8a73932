import PluginBridge.Field.Buffers
import PluginBridge.Schema.Field
import PluginBridge.Text.Utf8

/-! # A schema as a C string

The other side is given the address of a plugin's schema document, not the document. What stands
there is a C string: the bytes of the document and a byte of zero. A text with a null character has
no such form, and the other side would get no address. -/

namespace PluginBridge

/-- The bytes of a text with their terminator, unless a null character would end them early. -/
def cString? (s : String) : Option (List UInt8) :=
  if hasNul s then none else some (Text.Utf8.encode s ++ [0])

/-- What stands at the address of a schema. -/
def FieldSchema.toCString? (schema : FieldSchema) : Option (List UInt8) :=
  cString? schema.toDocument

end PluginBridge
