/-! # Result codes

The outcome of one extraction request, as the host sees it. The host knows three numbers; a number
that it does not know counts as a failure. -/

namespace PluginBridge

/-- The outcome of an extraction request. -/
inductive ResultCode where
  | success
  | failure
  | notSupported
  deriving DecidableEq, Repr

namespace ResultCode

/-- The number of a code. -/
def toInt : ResultCode → Int
  | .success => 0
  | .failure => 1
  | .notSupported => 9

/-- The code of a number. -/
def ofInt (n : Int) : ResultCode :=
  if n = 0 then .success else if n = 9 then .notSupported else .failure

/-- The name of a code in documents. -/
def name : ResultCode → String
  | .success => "SUCCESS"
  | .failure => "FAILURE"
  | .notSupported => "NOT_SUPPORTED"

/-- Whether the request did what it was asked. -/
def isSuccess (c : ResultCode) : Bool := c == .success

/-- A code survives being stored as its number. -/
@[simp] theorem ofInt_toInt (c : ResultCode) : ofInt c.toInt = c := by
  cases c <;> decide

end ResultCode

end PluginBridge
