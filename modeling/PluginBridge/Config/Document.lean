import PluginBridge.Config
import PluginBridge.Json.Record
import PluginBridge.Json.Writer

/-! # Configuration documents

A document may give any of the settings in any order; what it leaves out keeps its default. The
written form gives all of them, in the order of the record. -/

namespace PluginBridge.Config

open Json

/-- The shape of a configuration document. No key has to be given. -/
def shape : Shape Config where
  name := "DispatchConfig"
  initial := {}
  members :=
    [⟨"enabled", false, do
        let b ← bool
        pure fun c => { c with enabled := b }⟩,
     ⟨"concurrency", false, do
        let n ← nullable (natural "usize")
        pure fun c => { c with concurrency := n.map UInt64.ofNat }⟩,
     ⟨"starvation_threshold_us", false, do
        let n ← natural "u64"
        pure fun c => { c with starvationThreshold := UInt64.ofNat n }⟩,
     ⟨"idle_sleep_us", false, do
        let n ← natural "u64"
        pure fun c => { c with idleSleep := UInt64.ofNat n }⟩,
     ⟨"transition_timeout_ms", false, do
        let n ← natural "u64"
        pure fun c => { c with transitionTimeout := UInt64.ofNat n }⟩]

/-- Read a configuration document. -/
def ofDocument (document : String) : Except Fault Config := parse shape.read document

/-- The entries of the written form. -/
def documentEntries (c : Config) : List (String × List Char) :=
  [("enabled", writeBool c.enabled),
   ("concurrency", match c.concurrency with
      | some n => writeNatural n.toNat
      | none => "null".toList),
   ("starvation_threshold_us", writeNatural c.starvationThreshold.toNat),
   ("idle_sleep_us", writeNatural c.idleSleep.toNat),
   ("transition_timeout_ms", writeNatural c.transitionTimeout.toNat)]

/-- Write a configuration document. -/
def toDocument (c : Config) : String := String.ofList (writeMap c.documentEntries)

end PluginBridge.Config
