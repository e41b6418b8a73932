import PluginBridge.Field.Buffers

/-!
# Values in storage

A value that is stored replaces what the buffer at its place had of its kind, and no other buffer
(`store_of_clean`). The descriptor that refers to it then shows the value (`output_showing`), and
goes on to show it whatever is stored at other places (`output_showing_congr`). Otherwise it is as
the host handed it in (`Answers`).
-/

namespace PluginBridge

namespace FieldValue

/-- The numbers that a value is made of. -/
def allNumbers : FieldValue → List UInt64
  | .number n => [n]
  | .numbers ns => ns
  | .text _ | .texts _ => []

/-- The texts that a value is made of. -/
def allTexts : FieldValue → List String
  | .text s => [s]
  | .texts ss => ss
  | .number _ | .numbers _ => []

/-- How many numbers or texts a value is made of. -/
def size (v : FieldValue) : Nat := v.allNumbers.length + v.allTexts.length

/-- What the host finds of a value. -/
def shown (v : FieldValue) : FieldOutput :=
  if v.size = 0 then .absent
  else
    match v.shape.type with
    | .number => .numbers v.allNumbers
    | .text => .texts v.allTexts

/-- The reference to a value at a place, and how many numbers or texts are behind it. -/
def reference (place : Nat) (v : FieldValue) : ResultRef × Nat :=
  match v.shape.type with
  | .number => resultOf (.numbers place) v.size
  | .text => resultOf (.texts place) v.size

/-- Whether all texts of a value can be handed over. -/
def Clean (v : FieldValue) : Prop := ∀ s ∈ v.allTexts, '\x00' ∉ s.toList

variable {v : FieldValue}

theorem length_allNumbers (type : v.shape.type = .number) : v.allNumbers.length = v.size := by
  cases v with
  | number | numbers => rfl
  | text | texts => cases type

theorem length_allTexts (type : v.shape.type = .text) : v.allTexts.length = v.size := by
  cases v with
  | number | numbers => cases type
  | text | texts => simp [size, allNumbers]

theorem reference_of_empty (place : Nat) (empty : v.size = 0) : v.reference place = (.null, 0) := by
  rw [reference]
  split <;> rw [resultOf, if_pos empty]

theorem reference_of_number (place : Nat) (type : v.shape.type = .number) (filled : v.size ≠ 0) :
    v.reference place = (.numbers place, v.size) := by
  simp only [reference, type, resultOf, if_neg filled]

theorem reference_of_text (place : Nat) (type : v.shape.type = .text) (filled : v.size ≠ 0) :
    v.reference place = (.texts place, v.size) := by
  simp only [reference, type, resultOf, if_neg filled]

theorem length_reference (v : FieldValue) (place : Nat) : (v.reference place).2 = v.size := by
  by_cases empty : v.size = 0
  · rw [reference_of_empty place empty, empty]
  cases type : v.shape.type with
  | number => rw [reference_of_number place type empty]
  | text => rw [reference_of_text place type empty]

end FieldValue

/-- What the host finds of a value that may have been left out. -/
def shownOf (v : Option FieldValue) : FieldOutput := v.elim .absent FieldValue.shown

/-- A descriptor that refers to a value at a place. -/
def Descriptor.showing (d : Descriptor) (place : Nat) : Option FieldValue → Descriptor
  | none => d
  | some v => { d with result := (v.reference place).1, length := (v.reference place).2 }

/-- A buffer holds a value that was stored in it. -/
def FieldBuffer.Holds (b : FieldBuffer) (v : FieldValue) : Prop :=
  match v.shape.type with
  | .number => b.numbers = v.allNumbers
  | .text => b.strings = v.allTexts ∧ b.pointers = List.range v.allTexts.length

theorem hasNul_iff {s : String} : hasNul s ↔ '\x00' ∈ s.toList := by
  simp [hasNul]

namespace FieldBuffer

variable {v : FieldValue}

theorem storeTexts_of_clean (b : FieldBuffer) (place : Nat) (field : String) (ss : List String)
    (clean : ∀ s ∈ ss, '\x00' ∉ s.toList) :
    b.storeTexts place field ss =
      ({ b with strings := ss, pointers := List.range ss.length },
        .ok (resultOf (.texts place) ss.length)) := by
  rw [storeTexts, if_neg]
  simpa [hasNul_iff] using clean

theorem storeTexts_of_nul (b : FieldBuffer) (place : Nat) (field : String) (ss : List String)
    (nul : ¬ ∀ s ∈ ss, '\x00' ∉ s.toList) :
    (b.storeTexts place field ss).2 = .error (.interiorNul field) := by
  rw [storeTexts, if_pos]
  simpa [hasNul_iff] using nul

/-- A buffer holds what was stored in it. -/
theorem store_of_clean (b : FieldBuffer) (place : Nat) (field : String) (clean : v.Clean) :
    (b.store place field v).1.Holds v ∧ (b.store place field v).2 = .ok (v.reference place) := by
  cases v with
  | number n => exact ⟨rfl, rfl⟩
  | numbers ns => exact ⟨rfl, rfl⟩
  | text s =>
    rw [store, storeTexts_of_clean b place field [s] clean]
    exact ⟨⟨rfl, rfl⟩, rfl⟩
  | texts ss =>
    rw [store, storeTexts_of_clean b place field ss clean, FieldValue.reference,
      FieldValue.size, FieldValue.allNumbers, List.length_nil, Nat.zero_add]
    exact ⟨⟨rfl, rfl⟩, rfl⟩

/-- A value with a null character in a text is refused. -/
theorem store_of_nul (b : FieldBuffer) (place : Nat) (field : String) (nul : ¬ v.Clean) :
    (b.store place field v).2 = .error (.interiorNul field) := by
  cases v with
  | number n => exact absurd (fun s mem => by cases mem) nul
  | numbers ns => exact absurd (fun s mem => by cases mem) nul
  | text s => exact storeTexts_of_nul b place field _ nul
  | texts ss => exact storeTexts_of_nul b place field _ nul

end FieldBuffer

namespace Buffers

variable {place p : Nat} {v : FieldValue}

theorem buffer_put_self (bs : Buffers) (place : Nat) (b : FieldBuffer) :
    buffer (put bs place b) place = b := by
  have room : place < (bs ++ List.replicate (place + 1 - bs.length) FieldBuffer.empty).length := by
    rw [List.length_append, List.length_replicate]
    omega
  simp [buffer, put, List.getD_eq_getElem?_getD, List.getElem?_set_self room]

/-- A buffer at another place stays as it is. It is empty if it was made only now. -/
theorem buffer_put_of_ne (bs : Buffers) (b : FieldBuffer) (ne : p ≠ place) :
    buffer (put bs place b) p = buffer bs p := by
  have made (k : Nat) : (List.replicate k FieldBuffer.empty)[p - bs.length]?.getD .empty = .empty := by
    rw [List.getElem?_replicate]
    split <;> rfl
  simp only [buffer, put, List.getD_eq_getElem?_getD, List.getElem?_set_ne (Ne.symm ne)]
  by_cases old : p < bs.length
  · rw [List.getElem?_append_left old]
  · rw [List.getElem?_append_right (Nat.not_lt.1 old), made,
      List.getElem?_eq_none (Nat.not_lt.1 old), Option.getD_none]

theorem buffer_store_of_ne (bs : Buffers) (field : String) (v : FieldValue) (ne : p ≠ place) :
    buffer (store bs place field v).1 p = buffer bs p :=
  buffer_put_of_ne bs _ ne

/-- A value that is stored is held at its place. -/
theorem store_of_clean (bs : Buffers) (place : Nat) (field : String) (clean : v.Clean) :
    ∃ bs', store bs place field v = (bs', .ok (v.reference place)) ∧ (buffer bs' place).Holds v ∧
      ∀ p, p ≠ place → buffer bs' p = buffer bs p := by
  obtain ⟨held, result⟩ := (buffer bs place).store_of_clean place field clean
  refine ⟨_, Prod.ext rfl result, ?_, fun _ ne => buffer_store_of_ne bs field v ne⟩
  rw [store, buffer_put_self]
  exact held

theorem store_of_nul (bs : Buffers) (place : Nat) (field : String) (nul : ¬ v.Clean) :
    ∃ bs', store bs place field v = (bs', .error (.interiorNul field)) ∧
      ∀ p, p ≠ place → buffer bs' p = buffer bs p :=
  ⟨_, Prod.ext rfl ((buffer bs place).store_of_nul place field nul),
    fun _ ne => buffer_store_of_ne bs field v ne⟩

end Buffers

/-! ## Reading what was stored -/

namespace Descriptor

variable {d : Descriptor} {bs bs' : Buffers} {place : Nat} {v : FieldValue}

theorem output_of_null (null : d.result = .null) (bs : Buffers) : d.output bs = .absent := by
  rw [output, null]

/-- A descriptor shows the value that it refers to. -/
theorem output_showing (d : Descriptor) (held : (Buffers.buffer bs place).Holds v) :
    (d.showing place (some v)).output bs = v.shown := by
  by_cases empty : v.size = 0
  · simp only [output, showing, FieldValue.reference_of_empty place empty, FieldValue.shown,
      if_pos empty]
  rw [FieldBuffer.Holds] at held
  cases type : v.shape.type with
  | number =>
    rw [type] at held
    simp only [output, showing, FieldValue.reference_of_number place type empty, FieldValue.shown,
      if_neg empty, type, held]
    rw [← FieldValue.length_allNumbers type, List.take_length]
  | text =>
    rw [type] at held
    obtain ⟨strings, pointers⟩ := held
    have followed : (List.range v.allTexts.length).map (fun p => v.allTexts.getD p "") =
        v.allTexts := by
      apply List.ext_getElem
      · simp
      · intro i inside bound
        simp [bound]
    simp only [output, showing, FieldValue.reference_of_text place type empty, FieldValue.shown,
      if_neg empty, type, strings, pointers]
    rw [← FieldValue.length_allTexts type, List.take_of_length_le (Nat.le_of_eq List.length_range),
      followed]

/-- What a descriptor shows depends on the buffer at its place only. -/
theorem output_showing_congr (cleared : d.result = .null)
    (same : Buffers.buffer bs' place = Buffers.buffer bs place) (v : Option FieldValue) :
    (d.showing place v).output bs' = (d.showing place v).output bs := by
  cases v with
  | none => rw [showing, output_of_null cleared, output_of_null cleared]
  | some v =>
    by_cases empty : v.size = 0
    · simp only [output, showing, FieldValue.reference_of_empty place empty]
    cases type : v.shape.type with
    | number =>
      simp only [output, showing, FieldValue.reference_of_number place type empty, same]
    | text => simp only [output, showing, FieldValue.reference_of_text place type empty, same]

end Descriptor

/-- A descriptor after the call, for the value left in its request: it refers to the value, and is
otherwise as it was handed in. -/
structure Answers (bs : Buffers) (d : Descriptor) (v : Option FieldValue) (d' : Descriptor) :
    Prop where
  same : d'.clear = d.clear
  length : d'.length = v.elim 0 FieldValue.size
  null : d'.length = 0 → d'.result = .null
  output : d'.output bs = shownOf v

theorem answers_showing (d : Descriptor) {bs : Buffers} {place : Nat} {v : Option FieldValue}
    (held : ∀ u, v = some u → (Buffers.buffer bs place).Holds u) :
    Answers bs d v (d.clear.showing place v) := by
  cases v with
  | none => exact ⟨rfl, rfl, fun _ => rfl, rfl⟩
  | some u =>
    refine ⟨rfl, u.length_reference place, fun empty => ?_,
      Descriptor.output_showing d.clear (held u rfl)⟩
    replace empty : u.size = 0 := (u.length_reference place).symm.trans empty
    exact congrArg Prod.fst (FieldValue.reference_of_empty place empty)

end PluginBridge
