import PluginBridge.Event.Cursor

/-! # An event, as an extractor sees it

An event has a number, a time stamp and a payload. The view of it is a stream in its own right,
which knows only how to read once and how to seek; whatever needs more than one read is a loop over
single reads. The cursor underneath can be used as well, and both share one position. -/

namespace PluginBridge

/-- An event with a position in its payload. -/
structure EventView where
  num : UInt64
  time : UInt64
  payload : Cursor
  deriving DecidableEq, Repr

namespace EventView

/-- How many bytes the loop that reads to the end asks for at a time. -/
def chunk : Nat := 32

/-- One read of at most `n` bytes. -/
def read (v : EventView) (n : Nat) : List UInt8 × EventView :=
  let (bytes, payload) := v.payload.read n
  (bytes, { v with payload })

/-- Move the position. -/
def seek (v : EventView) (s : Seek) : Except StreamError Nat × EventView :=
  let (r, payload) := v.payload.seek s
  (r, { v with payload })

/-- Read until `n` bytes have come or a read brings none. -/
def fill (v : EventView) (n : Nat) : List UInt8 × EventView :=
  let got := v.read n
  if _h : 0 < got.1.length ∧ 0 < n then
    let more := fill got.2 (n - got.1.length)
    (got.1 ++ more.1, more.2)
  else ([], v)
  termination_by n
  decreasing_by exact Nat.sub_lt _h.2 _h.1

/-- Read `n` bytes by single reads. What a failing call has read stays read. -/
def readExact (v : EventView) (n : Nat) : Except StreamError (List UInt8) × EventView :=
  let (bytes, v) := v.fill n
  if bytes.length = n then (.ok bytes, v) else (.error .tooShort, v)

/-- Read chunks until one is empty. -/
def readToEnd (v : EventView) : List UInt8 × EventView :=
  let got := v.read chunk
  if _h : 0 < got.1.length then
    let more := readToEnd got.2
    (got.1 ++ more.1, more.2)
  else ([], v)
  termination_by v.payload.rest.length
  decreasing_by
    change (v.payload.read chunk).2.rest.length < v.payload.rest.length
    have hb : 0 < (v.payload.rest.take chunk).length := _h
    rw [Cursor.rest_read, List.length_drop]
    rw [List.length_take] at hb
    simp only [chunk] at hb ⊢
    omega

/-- Read everything that is left as text. The bytes stay read when they are not text. -/
def readText (v : EventView) : Except StreamError String × EventView :=
  let (bytes, v) := v.readToEnd
  match Text.Utf8.decode bytes with
  | .ok s => (.ok s, v)
  | .error _ => (.error .notText, v)

/-- Use the cursor underneath. -/
def onPayload {α : Type} (v : EventView) (f : Cursor → α × Cursor) : α × EventView :=
  let (a, payload) := f v.payload
  (a, { v with payload })

end EventView

end PluginBridge
