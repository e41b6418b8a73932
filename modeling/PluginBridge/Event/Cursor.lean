import PluginBridge.Text.Utf8

/-! # Reading bytes in place

A cursor is a position over bytes that do not change. The position may lie beyond the end, where
there is nothing to read. Two operations need more than they may find: an exact read of more bytes
than are left moves to the end, and a read of text that is not UTF-8 stays where it was. -/

namespace PluginBridge

/-- Why a stream operation failed. -/
inductive StreamError where
  /-- Fewer bytes were left than an exact read needs. -/
  | tooShort
  /-- The bytes are not UTF-8. -/
  | notText
  /-- A seek before the start or beyond the largest position. -/
  | badSeek
  deriving DecidableEq, Repr

/-- The wording of a stream error. -/
def StreamError.message : StreamError → String
  | .tooShort => "failed to fill whole buffer"
  | .notText => "stream did not contain valid UTF-8"
  | .badSeek => "invalid seek to a negative or overflowing position"

/-- The target of a seek. -/
inductive Seek where
  | start (position : Nat)
  | current (offset : Int)
  | fromEnd (offset : Int)
  deriving DecidableEq, Repr

/-- The position at an offset from a base, if it is one. -/
def Seek.shifted? (base : Nat) (offset : Int) : Option Nat :=
  let p := (base : Int) + offset
  if 0 ≤ p ∧ p < UInt64.size then some p.toNat else none

/-- The position that a seek leads to, over `size` bytes from `position`. -/
def Seek.target? (size position : Nat) : Seek → Option Nat
  | .start p => some p
  | .current offset => shifted? position offset
  | .fromEnd offset => shifted? size offset

/-- Bytes and a position. -/
structure Cursor where
  data : List UInt8
  pos : Nat := 0
  deriving DecidableEq, Repr

namespace Cursor

/-- The bytes from the position on. -/
def rest (c : Cursor) : List UInt8 := c.data.drop c.pos

/-- Read at most `n` bytes. -/
def read (c : Cursor) (n : Nat) : List UInt8 × Cursor :=
  let bytes := c.rest.take n
  (bytes, { c with pos := c.pos + bytes.length })

/-- Read `n` bytes, or move to the end. -/
def readExact (c : Cursor) (n : Nat) : Except StreamError (List UInt8) × Cursor :=
  if n ≤ c.rest.length then
    let (bytes, c) := c.read n
    (.ok bytes, c)
  else (.error .tooShort, { c with pos := c.data.length })

/-- Read everything that is left. -/
def readToEnd (c : Cursor) : List UInt8 × Cursor := c.read c.rest.length

/-- Read everything that is left as text. -/
def readText (c : Cursor) : Except StreamError String × Cursor :=
  match Text.Utf8.decode c.rest with
  | .ok s => (.ok s, c.readToEnd.2)
  | .error _ => (.error .notText, c)

/-- Move the position. A failed seek leaves it alone. -/
def seek (c : Cursor) (s : Seek) : Except StreamError Nat × Cursor :=
  match s.target? c.data.length c.pos with
  | some p => (.ok p, { c with pos := p })
  | none => (.error .badSeek, c)

@[simp] theorem data_read (c : Cursor) (n : Nat) : (c.read n).2.data = c.data := rfl

theorem length_read_le (c : Cursor) (n : Nat) : (c.read n).1.length ≤ n := by
  simp only [read, List.length_take]
  omega

theorem rest_read (c : Cursor) (n : Nat) : (c.read n).2.rest = c.rest.drop n := by
  simp only [read, rest, List.length_take, List.length_drop, List.drop_drop]
  by_cases h : n ≤ c.data.length - c.pos
  · rw [Nat.min_eq_left h]
  · rw [Nat.min_eq_right (by omega), List.drop_eq_nil_of_le (by omega),
      List.drop_eq_nil_of_le (by omega)]

end Cursor

/-- A view of `length` bytes at an address; `none` is the null address. Nothing is read past the
bytes that are there. -/
def Cursor.ofMemory (address : Option (List UInt8)) (length : Nat) : Cursor :=
  { data := (address.getD []).take length }

/-- The bytes of a null-terminated string, up to its terminator. -/
def terminated (bytes : List UInt8) : List UInt8 := bytes.takeWhile (· != 0)

end PluginBridge
