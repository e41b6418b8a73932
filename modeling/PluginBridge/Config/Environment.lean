import PluginBridge.Config
import PluginBridge.Text.Blank
import PluginBridge.Text.Count

/-! # Configuration from the environment

Two variables override the defaults. One switches the engine off when it says so, the other sets the
concurrency when it is a count; a value that is no count is ignored. White space around a value
never matters. -/

namespace PluginBridge.Config

/-- The name of the variable that switches the engine off. -/
def switchVariable : String := "HOSTCALL_ASYNC"

/-- The name of the variable that sets the concurrency. -/
def concurrencyVariable : String := "HOSTCALL_CONCURRENCY"

/-- A text with its ASCII capitals made small. -/
def asciiLower (s : String) : String := String.ofList (s.toList.map Char.toLower)

/-- Whether a value of the switch means off. -/
def switchesOff (value : String) : Bool :=
  ["0", "false", "off"].contains (asciiLower (Text.trim value))

/-- The concurrency that a value sets. -/
def concurrencyOf (value : String) : Except Text.CountFault UInt64 :=
  (Text.readCount (Text.trim value)).map UInt64.ofNat

/-- The configuration that the two variables give; `none` is a variable without a text. -/
def ofEnvironment (switch concurrency : Option String) : Config where
  enabled := !switch.any switchesOff
  concurrency := concurrency.bind fun v => (concurrencyOf v).toOption

/-- The concurrency value that was ignored, with the reason. -/
def ignoredConcurrency (concurrency : Option String) : Option (String × Text.CountFault) :=
  concurrency.bind fun v =>
    match concurrencyOf v with
    | .ok _ => none
    | .error f => some (v, f)

end PluginBridge.Config
