import PluginBridge.Log.Directive

/-! # Which records are written

The variables of the environment decide, when logging is set up, which records are written and how.
One variable gives the directives for everything. Without it another sets the level for this library
and for a further target, if one is named. Records are written as documents only if a third variable
says so. -/

namespace PluginBridge

/-- The variables that logging looks at; `none` is a variable that is not set. -/
structure LogVariables where
  /-- The directives for everything. -/
  everything : Option String := none
  /-- The level for this library. -/
  library : Option String := none
  format : Option String := none

/-- What is written: the records that the directives let through, as documents or as plain lines. -/
structure LogFilter where
  directives : List Directive
  documents : Bool
  deriving DecidableEq, Repr

namespace LogFilter

/-- The level for this library that a value sets, by name. -/
def libraryLevel : Option String → String
  | some "debug" => "debug"
  | some "warn" | some "warning" => "warn"
  | some "error" => "error"
  | _ => "info"

/-- The directives that set a level for this library and for a further target, which is empty if
there is none. -/
def libraryDirectives (level target : String) : String :=
  let own := coreTarget ++ "=" ++ level ++ "," ++ boundaryTarget ++ "=" ++ level
  if target = "" ∨ target = coreTarget ∨ target = boundaryTarget then own
  else own ++ "," ++ target ++ "=" ++ level

/-- The directives that the variables give, for a further target. -/
def directivesText (v : LogVariables) (target : String) : String :=
  v.everything.getD (libraryDirectives (libraryLevel v.library) target)

/-- The filter that the variables set up, for a further target. Without any directive errors get
through. There is no filter if a directive cannot be cut into its parts. -/
def ofVariables? (v : LogVariables) (target : String) : Option LogFilter :=
  (Directive.list? (directivesText v target)).map fun ds =>
    { directives := if ds.isEmpty then [{ threshold := .upTo .error }] else ds
      documents := v.format == some "json" }

/-- Whether a record is written. -/
def passes (f : LogFilter) (r : LogRecord) : Bool :=
  (Directive.decisive? f.directives r).any fun d => d.threshold.admits r.level

end LogFilter

end PluginBridge
