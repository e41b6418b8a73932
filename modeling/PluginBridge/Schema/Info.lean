import PluginBridge.Json.Record
import PluginBridge.Json.Writer

/-! # What a plugin says about itself -/

namespace PluginBridge

/-- The identity that a plugin reports before any instance of it exists. -/
structure PluginInfo where
  name : String
  version : String
  description : String := ""
  contact : String := ""
  deriving DecidableEq, Repr

namespace PluginInfo

open Json

/-- The shape of an identity document. Name and version have to be given. -/
def shape : Shape PluginInfo where
  name := "PluginInfo"
  initial := { name := "", version := "" }
  members :=
    [⟨"name", true, do
        let s ← text "a string"
        pure fun i => { i with name := s }⟩,
     ⟨"version", true, do
        let s ← text "a string"
        pure fun i => { i with version := s }⟩,
     ⟨"description", false, do
        let s ← text "a string"
        pure fun i => { i with description := s }⟩,
     ⟨"contact", false, do
        let s ← text "a string"
        pure fun i => { i with contact := s }⟩]

/-- Read an identity document. -/
def ofDocument (document : String) : Except Fault PluginInfo := parse shape.read document

/-- The entries of the written form. -/
def documentEntries (i : PluginInfo) : List (String × List Char) :=
  [("name", writeText i.name), ("version", writeText i.version),
   ("description", writeText i.description), ("contact", writeText i.contact)]

/-- Write an identity document. -/
def toDocument (i : PluginInfo) : String := String.ofList (writeMap i.documentEntries)

end PluginInfo

end PluginBridge
