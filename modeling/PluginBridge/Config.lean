/-! # Configuration of the dispatch engine

A configuration says whether requests may go through worker threads at all, how many processors to
count with, and three lengths of time. The times are kept as whole microseconds or milliseconds in a
machine word; a longer time is cut to the largest word. -/

namespace PluginBridge

/-- A length of time: whole seconds and the nanoseconds after them. -/
structure Span where
  secs : Nat
  nanos : Nat
  deriving DecidableEq, Repr

namespace Span

/-- The length of some seconds and nanoseconds, of which a thousand million make a second. There is
none if the seconds do not fit a machine word. -/
def ofParts? (secs nanos : Nat) : Option Span :=
  let whole := secs + nanos / 1000000000
  if whole < UInt64.size then some ⟨whole, nanos % 1000000000⟩ else none

/-- The message of a panic for a length whose seconds do not fit a machine word. -/
def overflowMessage : String := "overflow in Duration::new"

/-- The length in nanoseconds. -/
def toNanos (s : Span) : Nat := s.secs * 1000000000 + s.nanos

/-- Whole units of the given number of nanoseconds, cut to a machine word. -/
def toWord (unit : Nat) (s : Span) : UInt64 :=
  UInt64.ofNat (min (s.toNanos / unit) (UInt64.size - 1))

/-- The length of a number of units, of which `perSecond` make a second. -/
def ofWord (perSecond : Nat) (n : UInt64) : Span :=
  ⟨n.toNat / perSecond, n.toNat % perSecond * (1000000000 / perSecond)⟩

end Span

/-- The settings of the engine. Without a `concurrency` the machine's own is counted. -/
structure Config where
  enabled : Bool := true
  concurrency : Option UInt64 := none
  /-- Microseconds without work after which a worker stops spinning. -/
  starvationThreshold : UInt64 := 1000
  /-- Microseconds that a starved worker sleeps between scans. -/
  idleSleep : UInt64 := 10000
  /-- Milliseconds that the engine waits for a slot to change its state. -/
  transitionTimeout : UInt64 := 5000
  deriving DecidableEq, Repr

namespace Config

/-- The time after which a worker counts as starved. -/
def starvationSpan (c : Config) : Span := Span.ofWord 1000000 c.starvationThreshold

/-- The sleep of a starved worker. -/
def idleSpan (c : Config) : Span := Span.ofWord 1000000 c.idleSleep

/-- The bound on a slot transition. -/
def transitionSpan (c : Config) : Span := Span.ofWord 1000 c.transitionTimeout

/-- Set the time after which a worker counts as starved. -/
def withStarvationSpan (c : Config) (s : Span) : Config :=
  { c with starvationThreshold := s.toWord 1000 }

/-- Set the sleep of a starved worker. -/
def withIdleSpan (c : Config) (s : Span) : Config := { c with idleSleep := s.toWord 1000 }

/-- Set the bound on a slot transition. -/
def withTransitionSpan (c : Config) (s : Span) : Config :=
  { c with transitionTimeout := s.toWord 1000000 }

end Config

end PluginBridge
