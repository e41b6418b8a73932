import PluginBridge.Field.Descriptor
import PluginBridge.Proofs.Text.Utf8

/-!
# What a descriptor asks for

A descriptor asks for a field if it has a type that is known, a name, and an argument that can be
read, both as far as their terminators. `Asks` says for which one and `Faulty` says what is wrong
with a descriptor otherwise, in the order in which that is looked for.
-/

namespace PluginBridge

/-- The text at an address: the bytes before the terminator are its bytes. -/
def Reads (address : Option (List UInt8)) (s : String) : Prop :=
  address.map terminated = some (Text.Utf8.encode s)

/-- A text without null characters that stands before its terminator is read whole. -/
theorem terminated_encode {s : String} (clean : '\x00' ∉ s.toList) (beyond : List UInt8) :
    terminated (Text.Utf8.encode s ++ 0 :: beyond) = Text.Utf8.encode s := by
  have inside : ∀ b ∈ Text.Utf8.encode s, (b != 0) = true := by
    intro b there
    rw [bne_iff_ne]
    rintro rfl
    exact clean ((Text.Utf8.zero_mem_encode s).1 there)
  rw [terminated, List.takeWhile_append_of_pos inside, List.takeWhile_cons_of_neg (by simp),
    List.append_nil]

/-- A descriptor asks for a field. An argument that is empty counts as none. -/
structure Asks (d : Descriptor) (spec : FieldSpec) : Prop where
  id : spec.id = d.id
  type : spec.shape.type.code = d.type
  isList : spec.shape.isList = d.isList
  name : Reads d.name spec.name
  arg : spec.arg = none ∧ (d.arg = none ∨ Reads d.arg "") ∨
    ∃ s, spec.arg = some s ∧ s ≠ "" ∧ Reads d.arg s

/-- What is wrong with a descriptor: its type, else its name, else its argument. -/
inductive Faulty (d : Descriptor) : DescriptorFault → Prop where
  | type (unknown : ∀ t : FieldType, t.code ≠ d.type) : Faulty d (.unknownType d.type)
  | unnamed (known : ∃ t : FieldType, t.code = d.type) (null : d.name = none) :
      Faulty d (.unnamed d.id)
  | name {bytes : List UInt8} {f : Text.Utf8.Fault} (known : ∃ t : FieldType, t.code = d.type)
      (there : d.name = some bytes) (unread : ∀ s, ¬ Reads d.name s)
      (fault : Text.Utf8.decode (terminated bytes) = .error f) : Faulty d (.notText f)
  | arg {bytes : List UInt8} {f : Text.Utf8.Fault} (known : ∃ t : FieldType, t.code = d.type)
      (named : ∃ s, Reads d.name s) (there : d.arg = some bytes) (unread : ∀ s, ¬ Reads d.arg s)
      (fault : Text.Utf8.decode (terminated bytes) = .error f) : Faulty d (.notText f)

namespace FieldType

theorem ofCode?_code (t : FieldType) : ofCode? t.code = some t := by
  cases t <;> rfl

theorem ofCode?_eq_some {n : Nat} {t : FieldType} : ofCode? n = some t ↔ t.code = n := by
  constructor
  · intro found
    simp only [ofCode?] at found
    split at found
    · next eight => cases found; exact eight.symm
    split at found
    · next nine => cases found; exact nine.symm
    · cases found
  · rintro rfl
    exact ofCode?_code t

end FieldType

namespace Descriptor

/-! ## Texts at addresses -/

variable {address : Option (List UInt8)} {bytes : List UInt8} {s : String} {f : DescriptorFault}

theorem textAt_eq_some : textAt address = .ok (some s) ↔ Reads address s := by
  cases address with
  | none => simp [textAt, Reads]
  | some bytes =>
    simp only [textAt, Reads, Option.map_some, Option.some.injEq, eq_comm (a := terminated bytes)]
    rw [← Text.Utf8.decode_eq_ok]
    cases Text.Utf8.decode (terminated bytes) <;> simp

theorem textAt_eq_none : textAt address = .ok none ↔ address = none := by
  cases address with
  | none => simp [textAt]
  | some bytes =>
    simp only [textAt]
    cases Text.Utf8.decode (terminated bytes) <;> simp

theorem textAt_eq_error : textAt address = .error f ↔
    ∃ bytes fault, address = some bytes ∧ f = .notText fault ∧
      Text.Utf8.decode (terminated bytes) = .error fault := by
  cases address with
  | none => simp [textAt]
  | some bytes =>
    simp only [textAt]
    cases hd : Text.Utf8.decode (terminated bytes) <;> simp [hd, eq_comm]

theorem not_reads {fault : Text.Utf8.Fault} (there : address = some bytes)
    (unread : Text.Utf8.decode (terminated bytes) = .error fault) (s : String) :
    ¬ Reads address s := by
  intro reads
  rw [there, Reads, Option.map_some, Option.some.injEq] at reads
  exact Text.Utf8.encode_ne_of_fault unread s reads.symm

/-! ## Descriptors -/

variable {d : Descriptor} {spec : FieldSpec}

/-- A descriptor that asks for a field is read as asking for it. -/
theorem spec?_of_asks (asks : Asks d spec) : d.spec? = .ok spec := by
  obtain ⟨id, ⟨type, isList⟩, name, arg⟩ := spec
  obtain ⟨sameId, known, sameList, named, argued⟩ := asks
  simp only at sameId known sameList named argued
  have arg : ∃ a, textAt d.arg = .ok a ∧ a.filter (· ≠ "") = arg := by
    rcases argued with ⟨rfl, null | empty⟩ | ⟨s, rfl, some, given⟩
    · exact ⟨none, textAt_eq_none.2 null, rfl⟩
    · exact ⟨some "", textAt_eq_some.2 empty, rfl⟩
    · exact ⟨_, textAt_eq_some.2 given, by simp [Option.filter, some]⟩
  obtain ⟨a, given, rfl⟩ := arg
  simp only [spec?, FieldType.ofCode?_eq_some.2 known, textAt_eq_some.2 named, given, sameId,
    sameList]

/-- A descriptor with a fault is found to have it. -/
theorem spec?_of_faulty (faulty : Faulty d f) : d.spec? = .error f := by
  have typed (known : ∃ t : FieldType, t.code = d.type) :
      ∃ t, FieldType.ofCode? d.type = some t := by
    obtain ⟨t, code⟩ := known
    exact ⟨t, FieldType.ofCode?_eq_some.2 code⟩
  cases faulty with
  | type unknown =>
    have none : FieldType.ofCode? d.type = none :=
      Option.eq_none_iff_forall_ne_some.2 fun t found =>
        unknown t (FieldType.ofCode?_eq_some.1 found)
    simp only [spec?, none]
  | unnamed known null =>
    obtain ⟨t, known⟩ := typed known
    simp only [spec?, known, textAt_eq_none.2 null]
  | name known there unread fault =>
    obtain ⟨t, known⟩ := typed known
    simp only [spec?, known, textAt_eq_error.2 ⟨_, _, there, rfl, fault⟩]
  | arg known named there unread fault =>
    obtain ⟨t, known⟩ := typed known
    obtain ⟨s, named⟩ := named
    simp only [spec?, known, textAt_eq_some.2 named, textAt_eq_error.2 ⟨_, _, there, rfl, fault⟩]

/-- Every descriptor asks for a field or has a fault. -/
theorem asks_or_faulty (d : Descriptor) : (∃ spec, Asks d spec) ∨ ∃ f, Faulty d f := by
  cases typed : FieldType.ofCode? d.type with
  | none =>
    refine .inr ⟨_, .type fun t code => ?_⟩
    rw [FieldType.ofCode?_eq_some.2 code] at typed
    cases typed
  | some t =>
    have known := FieldType.ofCode?_eq_some.1 typed
    match named : textAt d.name with
    | .error f =>
      obtain ⟨bytes, fault, there, rfl, unread⟩ := textAt_eq_error.1 named
      exact .inr ⟨_, .name ⟨t, known⟩ there (not_reads there unread) unread⟩
    | .ok none => exact .inr ⟨_, .unnamed ⟨t, known⟩ (textAt_eq_none.1 named)⟩
    | .ok (some name) =>
      have named := textAt_eq_some.1 named
      match given : textAt d.arg with
      | .error f =>
        obtain ⟨bytes, fault, there, rfl, unread⟩ := textAt_eq_error.1 given
        exact .inr ⟨_, .arg ⟨t, known⟩ ⟨name, named⟩ there (not_reads there unread) unread⟩
      | .ok none =>
        exact .inl ⟨⟨d.id, ⟨t, d.isList⟩, name, none⟩, rfl, known, rfl, named,
          .inl ⟨rfl, .inl (textAt_eq_none.1 given)⟩⟩
      | .ok (some s) =>
        have given := textAt_eq_some.1 given
        by_cases empty : s = ""
        · exact .inl ⟨⟨d.id, ⟨t, d.isList⟩, name, none⟩, rfl, known, rfl, named,
            .inl ⟨rfl, .inr (empty ▸ given)⟩⟩
        · exact .inl ⟨⟨d.id, ⟨t, d.isList⟩, name, some s⟩, rfl, known, rfl, named,
            .inr ⟨s, rfl, empty, given⟩⟩

/-- Clearing the result of a descriptor does not change what it asks for. -/
@[simp] theorem spec?_clear (d : Descriptor) : d.clear.spec? = d.spec? := rfl

theorem spec?_eq_ok : d.spec? = .ok spec ↔ Asks d spec := by
  refine ⟨fun read => ?_, spec?_of_asks⟩
  rcases d.asks_or_faulty with ⟨spec', asks⟩ | ⟨f, faulty⟩
  · rw [spec?_of_asks asks] at read
    cases read
    exact asks
  · rw [spec?_of_faulty faulty] at read
    cases read

end Descriptor

end PluginBridge
