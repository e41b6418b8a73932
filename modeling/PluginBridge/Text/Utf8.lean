/-! # Bytes as UTF-8 text

Names, arguments and payloads arrive as bytes. `decode` reads them as UTF-8 and, where they are not,
says where the first fault lies and how long it is: the bytes of a character that has begun and then
breaks off count together, and a character cut short by the end of the input has no length.
`decodeLossy` never fails and puts one replacement character for each such fault. -/

namespace PluginBridge.Text.Utf8

/-- The first place at which bytes stop being UTF-8. `length` is the number of bytes that belong to
the broken character, and `none` when the input ends before it does. -/
structure Fault where
  index : Nat
  length : Option Nat
  deriving DecidableEq, Repr

/-- The wording of a fault. -/
def Fault.message (f : Fault) : String :=
  match f.length with
  | some n =>
    "invalid utf-8 sequence of " ++ toString n ++ " bytes from index " ++ toString f.index
  | none => "incomplete utf-8 byte sequence from index " ++ toString f.index

/-- What a first byte promises: the bits it carries, how many continuation bytes follow it, and the
range of the first of them. -/
structure Lead where
  bits : Nat
  tails : Nat
  low : Nat
  high : Nat

/-- The promise of a first byte; `none` for a byte that starts no character. -/
def lead? (b : Nat) : Option Lead :=
  if b < 0x80 then some ⟨b, 0, 0x80, 0xBF⟩
  else if b < 0xC2 then none
  else if b < 0xE0 then some ⟨b - 0xC0, 1, 0x80, 0xBF⟩
  else if b = 0xE0 then some ⟨0, 2, 0xA0, 0xBF⟩
  else if b = 0xED then some ⟨0xD, 2, 0x80, 0x9F⟩
  else if b < 0xF0 then some ⟨b - 0xE0, 2, 0x80, 0xBF⟩
  else if b = 0xF0 then some ⟨0, 3, 0x90, 0xBF⟩
  else if b < 0xF4 then some ⟨b - 0xF0, 3, 0x80, 0xBF⟩
  else if b = 0xF4 then some ⟨4, 3, 0x80, 0x8F⟩
  else none

/-- One step of reading: a character, a fault, or the end of the input inside a character. `more`
counts the bytes taken after the first one. -/
inductive Piece where
  | char (c : Char) (more : Nat)
  | fault (more : Nat)
  | cut
  deriving DecidableEq, Repr

/-- Take the promised continuation bytes; `taken` of them are already in `code`. -/
def tails (low high : Nat) : (owed taken code : Nat) → List UInt8 → Piece
  | 0, taken, code, _ => .char (Char.ofNat code) taken
  | _ + 1, _, _, [] => .cut
  | owed + 1, taken, code, b :: bs =>
    if low ≤ b.toNat ∧ b.toNat ≤ high then
      tails 0x80 0xBF owed (taken + 1) (code * 64 + (b.toNat - 0x80)) bs
    else .fault taken

/-- The piece that begins with `b`. -/
def piece (b : UInt8) (bs : List UInt8) : Piece :=
  match lead? b.toNat with
  | none => .fault 0
  | some l => tails l.low l.high l.tails 0 l.bits bs

/-- Read bytes that begin at `index` of some input. -/
def decodeFrom (index : Nat) : List UInt8 → Except Fault (List Char)
  | [] => .ok []
  | b :: bs =>
    match piece b bs with
    | .char c more =>
      match decodeFrom (index + more + 1) (bs.drop more) with
      | .ok cs => .ok (c :: cs)
      | .error f => .error f
    | .fault more => .error ⟨index, some (more + 1)⟩
    | .cut => .error ⟨index, none⟩
  termination_by bytes => bytes.length
  decreasing_by simp only [List.length_cons, List.length_drop]; omega

/-- Read bytes as text, or find the first fault. -/
def decode (bytes : List UInt8) : Except Fault String :=
  (decodeFrom 0 bytes).map String.ofList

/-- The characters of `bytes`, a replacement character standing for each fault. -/
def lossyChars : List UInt8 → List Char
  | [] => []
  | b :: bs =>
    match piece b bs with
    | .char c more => c :: lossyChars (bs.drop more)
    | .fault more => '\uFFFD' :: lossyChars (bs.drop more)
    | .cut => ['\uFFFD']
  termination_by bytes => bytes.length
  decreasing_by all_goals (simp only [List.length_cons, List.length_drop]; omega)

/-- Read bytes as text, whatever they are. -/
def decodeLossy (bytes : List UInt8) : String := String.ofList (lossyChars bytes)

/-- The bytes of a text. -/
def encode (s : String) : List UInt8 := s.toUTF8.toList

end PluginBridge.Text.Utf8
