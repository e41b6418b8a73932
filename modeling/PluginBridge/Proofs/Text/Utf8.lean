import PluginBridge.Text.Utf8

/-!
# Reading bytes as text and writing text as bytes

A character has one written form: its bytes are read as this character (`piece_encode`), and bytes
that are read as a character are its bytes (`encode_of_piece`). So bytes are UTF-8 if and only if
they are the bytes of some text, and are read as that text (`decode_eq_ok`). A byte of zero is
written for the null character and for no other.
-/

namespace PluginBridge.Text.Utf8

theorem toNat_valid (c : Char) : c.toNat < 0xD800 ∨ 0xDFFF < c.toNat ∧ c.toNat < 0x110000 := c.valid

theorem toNat_ofNat {n : Nat} (valid : n.isValidChar) : (Char.ofNat n).toNat = n := by
  rw [Char.ofNat, dif_pos valid]
  rfl

variable {low high owed taken code : Nat} {b : UInt8} {bs : List UInt8} {c : Char}

theorem tails_cons (fits : low ≤ b.toNat ∧ b.toNat ≤ high) :
    tails low high (owed + 1) taken code (b :: bs) =
      tails 0x80 0xBF owed (taken + 1) (code * 64 + (b.toNat - 0x80)) bs := by
  rw [tails, if_pos fits]

/-- Promised bytes that were found. -/
theorem tails_eq_char {more : Nat} (found : tails low high (owed + 1) taken code bs = .char c more) :
    ∃ b rest, bs = b :: rest ∧ low ≤ b.toNat ∧ b.toNat ≤ high ∧
      tails 0x80 0xBF owed (taken + 1) (code * 64 + (b.toNat - 0x80)) rest = .char c more := by
  cases bs with
  | nil => cases found
  | cons b rest =>
    rw [tails] at found
    split at found
    · next fits => exact ⟨b, rest, rfl, fits.1, fits.2, found⟩
    · cases found

theorem toNat_ofNat_of_lt {n : Nat} (h : n < 256) : (UInt8.ofNat n).toNat = n := by
  simp only [UInt8.toNat_ofNat']
  omega

/-! ## Characters -/

/-- The first of two bytes. -/
theorem lead?_two {v : Nat} (low : 127 < v) (high : v ≤ 2047) :
    lead? (v / 64 % 32 + 192) = some ⟨v / 64, 1, 0x80, 0xBF⟩ := by
  have bits : v / 64 % 32 + 192 - 0xC0 = v / 64 := by omega
  rw [lead?, if_neg (by omega), if_neg (by omega), if_pos (by omega), bits]

/-- The first of three bytes, and the range that it sets for the second one. -/
theorem lead?_three {v : Nat} (low : 2047 < v) (high : v ≤ 65535)
    (valid : v < 0xD800 ∨ 0xDFFF < v) : ∃ low high,
      lead? (v / 4096 % 16 + 224) = some ⟨v / 4096, 2, low, high⟩ ∧
        low ≤ v / 64 % 64 + 128 ∧ v / 64 % 64 + 128 ≤ high := by
  have bits : v / 4096 % 16 + 224 - 0xE0 = v / 4096 := by omega
  rw [lead?, if_neg (by omega), if_neg (by omega), if_neg (by omega)]
  split
  · exact ⟨0xA0, 0xBF, by rw [show v / 4096 = 0 by omega], by omega, by omega⟩
  split
  · exact ⟨0x80, 0x9F, by rw [show v / 4096 = 0xD by omega], by omega, by omega⟩
  · exact ⟨0x80, 0xBF, by rw [if_pos (by omega), bits], by omega, by omega⟩

/-- The first of four bytes, and the range that it sets for the second one. -/
theorem lead?_four {v : Nat} (low : 65535 < v) (high : v < 0x110000) : ∃ low high,
    lead? (v / 262144 % 8 + 240) = some ⟨v / 262144, 3, low, high⟩ ∧
      low ≤ v / 4096 % 64 + 128 ∧ v / 4096 % 64 + 128 ≤ high := by
  have bits : v / 262144 % 8 + 240 - 0xF0 = v / 262144 := by omega
  rw [lead?, if_neg (by omega), if_neg (by omega), if_neg (by omega), if_neg (by omega),
    if_neg (by omega), if_neg (by omega)]
  split
  · exact ⟨0x90, 0xBF, by rw [show v / 262144 = 0 by omega], by omega, by omega⟩
  split
  · exact ⟨0x80, 0xBF, by rw [bits], by omega, by omega⟩
  · exact ⟨0x80, 0x8F, by rw [if_pos (by omega), show v / 262144 = 4 by omega], by omega, by omega⟩

/-- The bytes of a character are read as that character. -/
theorem piece_encode (c : Char) (bs : List UInt8) : ∃ b more,
    String.utf8EncodeChar c = b :: more ∧ piece b (more ++ bs) = .char c more.length := by
  have valid := toNat_valid c
  have same : Char.ofNat c.toNat = c := Char.ofNat_toNat c
  generalize hv : c.toNat = v at valid same
  have enc : c.val.toNat = v := hv
  have tail (n : Nat) : (UInt8.ofNat (n % 64 + 128)).toNat = n % 64 + 128 :=
    toNat_ofNat_of_lt (by omega)
  simp only [String.utf8EncodeChar, enc]
  split
  · next one =>
    refine ⟨_, _, rfl, ?_⟩
    have lead : lead? (UInt8.ofNat v).toNat = some ⟨v, 0, 0x80, 0xBF⟩ := by
      rw [toNat_ofNat_of_lt (by omega), lead?, if_pos (by omega)]
    simp only [piece, lead, tails, same, List.length_nil]
  split
  · next two =>
    refine ⟨_, _, rfl, ?_⟩
    have code : v / 64 * 64 + (v % 64 + 128 - 0x80) = v := by omega
    simp only [piece, toNat_ofNat_of_lt (by omega : v / 64 % 32 + 192 < 256),
      lead?_two (by omega) two, List.cons_append, List.nil_append]
    rw [tails_cons (by rw [tail]; omega), tail, code]
    simp only [tails, same, List.length_cons, List.length_nil]
  split
  · next three =>
    refine ⟨_, _, rfl, ?_⟩
    obtain ⟨low, high, lead, fits⟩ := lead?_three (by omega) three (by omega)
    have code : (v / 4096 * 64 + (v / 64 % 64 + 128 - 0x80)) * 64 + (v % 64 + 128 - 0x80) = v := by
      omega
    simp only [piece, toNat_ofNat_of_lt (by omega : v / 4096 % 16 + 224 < 256), lead,
      List.cons_append, List.nil_append]
    rw [tails_cons (by rw [tail]; exact fits), tail, tails_cons (by rw [tail]; omega), tail, code]
    simp only [tails, same, List.length_cons, List.length_nil]
  · next four =>
    refine ⟨_, _, rfl, ?_⟩
    obtain ⟨low, high, lead, fits⟩ := lead?_four (v := v) (by omega) (by omega)
    have code : ((v / 262144 * 64 + (v / 4096 % 64 + 128 - 0x80)) * 64 +
        (v / 64 % 64 + 128 - 0x80)) * 64 + (v % 64 + 128 - 0x80) = v := by omega
    simp only [piece, toNat_ofNat_of_lt (by omega : v / 262144 % 8 + 240 < 256), lead,
      List.cons_append, List.nil_append]
    rw [tails_cons (by rw [tail]; exact fits), tail, tails_cons (by rw [tail]; omega), tail,
      tails_cons (by rw [tail]; omega), tail, code]
    simp only [tails, same, List.length_cons, List.length_nil]

theorem ofNat_eq {n : Nat} (b : UInt8) (h : n = b.toNat) : UInt8.ofNat n = b := by
  rw [h, UInt8.ofNat_toNat]

theorem utf8EncodeChar_ofNat {n : Nat} (valid : n.isValidChar) :
    String.utf8EncodeChar (Char.ofNat n) =
      if n ≤ 127 then [UInt8.ofNat n]
      else if n ≤ 2047 then [UInt8.ofNat (n / 64 % 32 + 192), UInt8.ofNat (n % 64 + 128)]
      else if n ≤ 65535 then
        [UInt8.ofNat (n / 4096 % 16 + 224), UInt8.ofNat (n / 64 % 64 + 128),
          UInt8.ofNat (n % 64 + 128)]
      else
        [UInt8.ofNat (n / 262144 % 8 + 240), UInt8.ofNat (n / 4096 % 64 + 128),
          UInt8.ofNat (n / 64 % 64 + 128), UInt8.ofNat (n % 64 + 128)] := by
  have value : (Char.ofNat n).val.toNat = n := toNat_ofNat valid
  rw [String.utf8EncodeChar, value]

/-- What a first byte can promise. -/
theorem lead?_eq_some {b bits owed low high : Nat} (found : lead? b = some ⟨bits, owed, low, high⟩) :
    (owed = 0 ∧ b < 0x80 ∧ bits = b) ∨
    (owed = 1 ∧ 0xC2 ≤ b ∧ b < 0xE0 ∧ bits = b - 0xC0 ∧ low = 0x80 ∧ high = 0xBF) ∨
    (owed = 2 ∧ 0xE0 ≤ b ∧ b < 0xF0 ∧ bits = b - 0xE0 ∧ 0x80 ≤ low ∧ high ≤ 0xBF ∧
      (b = 0xE0 → low = 0xA0) ∧ (b = 0xED → high = 0x9F)) ∨
    (owed = 3 ∧ 0xF0 ≤ b ∧ b ≤ 0xF4 ∧ bits = b - 0xF0 ∧ 0x80 ≤ low ∧ high ≤ 0xBF ∧
      (b = 0xF0 → low = 0x90) ∧ (b = 0xF4 → high = 0x8F)) := by
  grind [lead?]

/-- Bytes that are read as a character are the bytes of that character. -/
theorem encode_of_piece {more : Nat} (read : piece b bs = .char c more) :
    String.utf8EncodeChar c = b :: bs.take more ∧ more ≤ bs.length := by
  have size : b.toNat < 256 := b.toNat_lt
  rw [piece] at read
  split at read
  · cases read
  next lead found =>
  obtain ⟨bits, owed, low, high⟩ := lead
  simp only at read
  rcases lead?_eq_some found with ⟨rfl, one, lead⟩ | ⟨rfl, two, two', lead, first⟩ |
    ⟨rfl, three, three', lead, first, first', e0, ed⟩ |
    ⟨rfl, four, four', lead, first, first', f0, f4⟩
  · cases read
    rw [utf8EncodeChar_ofNat (Or.inl (by omega)), if_pos (by omega), ofNat_eq b lead]
    exact ⟨rfl, Nat.zero_le _⟩
  · obtain ⟨x, rest, rfl, lo, hi, read⟩ := tails_eq_char read
    obtain ⟨rfl, rfl⟩ : _ = c ∧ 1 = more := by simpa [tails] using read
    rw [utf8EncodeChar_ofNat (Or.inl (by omega)), if_neg (by omega), if_pos (by omega),
      ofNat_eq b (by omega), ofNat_eq x (by omega)]
    exact ⟨rfl, by simp⟩
  · obtain ⟨x, rest, rfl, lo, hi, read⟩ := tails_eq_char read
    obtain ⟨y, rest, rfl, lo', hi', read⟩ := tails_eq_char read
    obtain ⟨rfl, rfl⟩ : _ = c ∧ 2 = more := by simpa [tails] using read
    rw [utf8EncodeChar_ofNat (by unfold Nat.isValidChar; omega), if_neg (by omega), if_neg (by omega),
      if_pos (by omega), ofNat_eq b (by omega), ofNat_eq x (by omega), ofNat_eq y (by omega)]
    exact ⟨rfl, by simp⟩
  · obtain ⟨x, rest, rfl, lo, hi, read⟩ := tails_eq_char read
    obtain ⟨y, rest, rfl, lo', hi', read⟩ := tails_eq_char read
    obtain ⟨z, rest, rfl, lo'', hi'', read⟩ := tails_eq_char read
    obtain ⟨rfl, rfl⟩ : _ = c ∧ 3 = more := by simpa [tails] using read
    rw [utf8EncodeChar_ofNat (by unfold Nat.isValidChar; omega), if_neg (by omega), if_neg (by omega),
      if_neg (by omega), ofNat_eq b (by omega), ofNat_eq x (by omega), ofNat_eq y (by omega),
      ofNat_eq z (by omega)]
    exact ⟨rfl, by simp⟩

/-! ## Texts -/

theorem toList_toByteArray (bytes : List UInt8) : bytes.toByteArray.toList = bytes := by
  have loop (bs : ByteArray) (i : Nat) (r : List UInt8) :
      ByteArray.toList.loop bs i r = r.reverse ++ bs.data.toList.drop i := by
    fun_induction ByteArray.toList.loop bs i r with
    | case1 i r h ih =>
      have bound : i < bs.data.toList.length := by simpa using h
      have here : bs.get! i = bs.data.toList[i] := by
        rw [ByteArray.get!]
        simp [getElem!_pos, h]
      rw [ih, here, List.reverse_cons, List.append_assoc, List.singleton_append,
        ← List.drop_eq_getElem_cons bound]
    | case2 i r h =>
      have beyond : bs.data.toList.length ≤ i := by simpa using h
      rw [List.drop_eq_nil_of_le beyond, List.append_nil]
  rw [ByteArray.toList, loop]
  simp

/-- A text is written character by character. -/
theorem encode_eq (s : String) : encode s = s.toList.flatMap String.utf8EncodeChar := by
  have bytes : s.toByteArray = (s.toList.flatMap String.utf8EncodeChar).toByteArray := by
    rw [← List.utf8Encode, ← String.toByteArray_ofList, String.ofList_toList]
  rw [encode, String.toUTF8, bytes, toList_toByteArray]

theorem decodeFrom_flatMap (cs : List Char) (index : Nat) :
    decodeFrom index (cs.flatMap String.utf8EncodeChar) = .ok cs := by
  induction cs generalizing index with
  | nil => rw [List.flatMap_nil, decodeFrom]
  | cons c cs ih =>
    obtain ⟨b, more, written, read⟩ := piece_encode c (cs.flatMap String.utf8EncodeChar)
    rw [List.flatMap_cons, written, List.cons_append, decodeFrom, read]
    simp only [List.drop_left, ih]

theorem flatMap_of_decodeFrom {index : Nat} {bytes : List UInt8} {cs : List Char}
    (read : decodeFrom index bytes = .ok cs) : cs.flatMap String.utf8EncodeChar = bytes := by
  fun_induction decodeFrom index bytes generalizing cs with
  | case1 => cases read; rfl
  | case2 index b bs c more found cs' rest ih =>
    cases read
    rw [List.flatMap_cons, ih rest, (encode_of_piece found).1, List.cons_append,
      List.take_append_drop]
  | case3 => cases read
  | case4 => cases read
  | case5 => cases read

/-- Bytes are read as a text if and only if they are the bytes of that text. -/
theorem decode_eq_ok {bytes : List UInt8} {s : String} : decode bytes = .ok s ↔ encode s = bytes := by
  rw [encode_eq, decode]
  constructor
  · intro read
    cases found : decodeFrom 0 bytes with
    | error f => rw [found] at read; cases read
    | ok cs =>
      rw [found] at read
      cases read
      rw [String.toList_ofList, flatMap_of_decodeFrom found]
  · rintro rfl
    rw [decodeFrom_flatMap, Except.map, String.ofList_toList]

/-- Bytes in which a fault is found are those of no text. -/
theorem encode_ne_of_fault {bytes : List UInt8} {f : Fault} (fault : decode bytes = .error f)
    (s : String) : encode s ≠ bytes := by
  intro written
  rw [decode_eq_ok.2 written] at fault
  cases fault

@[simp] theorem decode_encode (s : String) : decode (encode s) = .ok s := decode_eq_ok.2 rfl

/-! ## Null characters -/

theorem zero_mem_utf8EncodeChar (c : Char) : 0 ∈ String.utf8EncodeChar c ↔ c = '\x00' := by
  have null : c = '\x00' ↔ c.toNat = 0 :=
    ⟨fun h => h ▸ rfl, fun h => by rw [← Char.ofNat_toNat c, h]⟩
  have zero (n : Nat) (h : n < 256) : 0 = UInt8.ofNat n ↔ n = 0 := by
    rw [← UInt8.toNat_inj, toNat_ofNat_of_lt h]
    exact eq_comm
  have high (n : Nat) (h : 128 ≤ n ∧ n < 256) : ¬ 0 = UInt8.ofNat n := by
    rw [zero n h.2]
    omega
  have value : c.val.toNat = c.toNat := rfl
  simp only [String.utf8EncodeChar, value, null]
  -- Only the single byte of a small character can be zero.
  split
  · rw [List.mem_singleton, zero _ (by omega)]
  have large : c.toNat ≠ 0 := by omega
  have tail (n : Nat) := high (n % 64 + 128) (by omega)
  have two := high (c.toNat / 64 % 32 + 192) (by omega)
  have three := high (c.toNat / 4096 % 16 + 224) (by omega)
  have four := high (c.toNat / 262144 % 8 + 240) (by omega)
  split
  · simp only [List.mem_cons, List.not_mem_nil, tail, two, large, or_self]
  split
  · simp only [List.mem_cons, List.not_mem_nil, tail, three, large, or_self]
  · simp only [List.mem_cons, List.not_mem_nil, tail, four, large, or_self]

/-- A byte of zero is written for a null character only. -/
theorem zero_mem_encode (s : String) : 0 ∈ encode s ↔ '\x00' ∈ s.toList := by
  simp [encode_eq, zero_mem_utf8EncodeChar]

end PluginBridge.Text.Utf8
