import PluginBridge.Event.View

/-! # Stream steps

A step is one operation on a stream. The cursor and the event view answer the same steps, and on the
same bytes they answer alike; they differ only in the position that a failing step leaves behind. -/

namespace PluginBridge

/-- One operation on a stream. -/
inductive StreamStep where
  | read (n : Nat)
  | readExact (n : Nat)
  | readToEnd
  | readText
  | seek (s : Seek)
  deriving DecidableEq, Repr

/-- The answer of a step that succeeded. -/
inductive StreamAnswer where
  | read (bytes : List UInt8)
  | exact (bytes : List UInt8)
  | rest (bytes : List UInt8)
  | text (s : String)
  | position (p : Nat)
  deriving DecidableEq, Repr

/-- The bytes that an answer brought, if it came from a reading step. -/
def StreamAnswer.bytes? : StreamAnswer → Option (List UInt8)
  | .read bytes | .exact bytes | .rest bytes => some bytes
  | .text s => some (Text.Utf8.encode s)
  | .position _ => none

/-- Do a step on a cursor. -/
def Cursor.perform (c : Cursor) : StreamStep → Except StreamError StreamAnswer × Cursor
  | .read n => let (bytes, c) := c.read n; (.ok (.read bytes), c)
  | .readExact n => let (r, c) := c.readExact n; (r.map .exact, c)
  | .readToEnd => let (bytes, c) := c.readToEnd; (.ok (.rest bytes), c)
  | .readText => let (r, c) := c.readText; (r.map .text, c)
  | .seek s => let (r, c) := c.seek s; (r.map .position, c)

/-- Do a step on a view. -/
def EventView.perform (v : EventView) : StreamStep → Except StreamError StreamAnswer × EventView
  | .read n => let (bytes, v) := v.read n; (.ok (.read bytes), v)
  | .readExact n => let (r, v) := v.readExact n; (r.map .exact, v)
  | .readToEnd => let (bytes, v) := v.readToEnd; (.ok (.rest bytes), v)
  | .readText => let (r, v) := v.readText; (r.map .text, v)
  | .seek s => let (r, v) := v.seek s; (r.map .position, v)

/-- The position in an event's payload. -/
def EventView.pos (v : EventView) : Nat := v.payload.pos

end PluginBridge
