import PluginBridge.Json.Fault
import PluginBridge.Schema.Field
import PluginBridge.Schema.Info

/-! # Plugins

A plugin says who it is and which fields it offers before any instance of it exists, and it makes
instances from a configuration text. Making one may fail, in the plugin's own words or because the
configuration is no document of the right shape. -/

namespace PluginBridge

/-- Why a plugin could not make an instance. -/
inductive InitError where
  | config (fault : Json.Fault)
  | plugin (message : String)
  deriving DecidableEq, Repr

/-- The wording of an initialisation error. -/
def InitError.message : InitError → String
  | .config fault => "invalid plugin config: " ++ fault.message
  | .plugin message => message

/-- How an attempt to make an instance ended. -/
inductive Init (S : Type) where
  | made (state : S)
  | failed (e : InitError)
  | panicked (message : String)

/-- A plugin whose instances have states of type `S`. -/
structure Plugin (S : Type) where
  info : PluginInfo
  fields : FieldSchema
  init : String → Init S

end PluginBridge
