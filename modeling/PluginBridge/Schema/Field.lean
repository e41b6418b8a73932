import PluginBridge.Json.Record
import PluginBridge.Json.Writer

/-! # The fields that a plugin offers

A plugin advertises a list of fields, each with a type, a name and a description. The list travels
as a document: members that have their default are left out when it is written and filled in when it
is read. -/

namespace PluginBridge

/-- The type of a field's values. -/
inductive FieldType where
  | number
  | text
  deriving DecidableEq, Repr

namespace FieldType

/-- The code of a type in a field descriptor. -/
def code : FieldType → Nat
  | .number => 8
  | .text => 9

/-- The type with a given code. -/
def ofCode? (n : Nat) : Option FieldType :=
  if n = 8 then some .number else if n = 9 then some .text else none

/-- The name of a type in documents. -/
def name : FieldType → String
  | .number => "uint64"
  | .text => "string"

/-- The type with a given name. -/
def ofName? (s : String) : Option FieldType :=
  if s = "uint64" then some .number else if s = "string" then some .text else none

open Json

/-- The type named by a text that has been read. -/
def named (s : String) : Reader FieldType :=
  match ofName? s with
  | some t => pure t
  | none => mismatch (.unknownVariant s ["uint64", "string"])

/-- Read a type: its name, or a map from its name to `null`. -/
def read : Reader FieldType := do
  let c ← peekSome
  if c = '"' then do named (← quotedText)
  else if c = '\x7b' then do
    advance
    if (← peekSome) ≠ '"' then refuse .malformed
    let t ← named (← quotedText)
    colon
    unit "unit"
    if (← peekSome) = '\x7d' then advance else refuse .malformed
    pure t
  else refuse .malformed

end FieldType

/-- A field in a plugin's schema. -/
structure FieldEntry where
  type : FieldType
  name : String
  desc : String
  argRequired : Bool := false
  display : String := ""
  properties : String := ""
  deriving DecidableEq, Repr

namespace FieldEntry

open Json

/-- The shape of an entry. Type, name and description have to be given. -/
def shape : Shape FieldEntry where
  name := "FieldEntry"
  initial := { type := .number, name := "", desc := "" }
  members :=
    [⟨"type", true, do
        let t ← FieldType.read
        pure fun e => { e with type := t }⟩,
     ⟨"name", true, do
        let s ← text "a string"
        pure fun e => { e with name := s }⟩,
     ⟨"argRequired", false, do
        let b ← bool
        pure fun e => { e with argRequired := b }⟩,
     ⟨"display", false, do
        let s ← text "a string"
        pure fun e => { e with display := s }⟩,
     ⟨"desc", true, do
        let s ← text "a string"
        pure fun e => { e with desc := s }⟩,
     ⟨"properties", false, do
        let s ← text "a string"
        pure fun e => { e with properties := s }⟩]

/-- An optional text member of the written form. -/
def unlessEmpty (key value : String) : List (String × List Char) :=
  if value = "" then [] else [(key, writeText value)]

/-- The entries of the written form. -/
def documentEntries (e : FieldEntry) : List (String × List Char) :=
  [("type", writeText e.type.name), ("name", writeText e.name)]
    ++ (if e.argRequired then [("argRequired", writeBool true)] else [])
    ++ unlessEmpty "display" e.display
    ++ [("desc", writeText e.desc)]
    ++ unlessEmpty "properties" e.properties

end FieldEntry

/-- A plugin's fields, in its own order. -/
abbrev FieldSchema := List FieldEntry

namespace FieldSchema

/-- Write a schema document. -/
def toDocument (schema : FieldSchema) : String :=
  String.ofList (Json.writeSequence (schema.map fun e => Json.writeMap e.documentEntries))

/-- Read a schema document. -/
def ofDocument (document : String) : Except Json.Fault FieldSchema :=
  Json.parse (Json.list FieldEntry.shape.read) document

end FieldSchema

end PluginBridge
