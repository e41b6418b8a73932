import PluginBridge.Proofs.Field.Specs
import PluginBridge.Proofs.Field.Storage
import PluginBridge.Proofs.Json.Records
import PluginBridge.Schema.CString

/-!
# Schemas across the boundary

An entry is written with the members that differ from their defaults, and read into a record that
has the defaults. `FieldEntry.settings` lays both sides next to each other: for each member that is
written, its key, its text and what the reader makes of it. So an entry is read back from what was
written of it (`FieldEntry.takes_entry`), and a schema with it.

A document has no controls, so a C string holds all of it (`FieldSchema.survives_boundary`).
-/

namespace PluginBridge

open Json

theorem FieldType.takes_read (t : FieldType) : Takes FieldType.read (writeText t.name) t := by
  intro rest _
  have named : FieldType.named t.name rest = .ok (t, rest) := by
    cases t with
    | number => rfl
    | text => rfl
  rw [FieldType.read, bind_of_ok (peekSome_writeText t.name rest), if_pos rfl,
    bind_of_ok (quotedText_writeText t.name rest), named]

namespace FieldEntry

/-- A member of the written form: its key, its text, and the change that its reading makes. -/
abbrev Setting := (String × List Char) × (FieldEntry → FieldEntry)

/-- The members that are written of an entry. -/
def settings (e : FieldEntry) : List Setting :=
  [(("type", writeText e.type.name), fun f => { f with type := e.type }),
   (("name", writeText e.name), fun f => { f with name := e.name })]
    ++ (if e.argRequired then
        [(("argRequired", writeBool true), fun f => { f with argRequired := true })] else [])
    ++ (if e.display = "" then [] else
        [(("display", writeText e.display), fun f => { f with display := e.display })])
    ++ [(("desc", writeText e.desc), fun f => { f with desc := e.desc })]
    ++ (if e.properties = "" then [] else
        [(("properties", writeText e.properties), fun f => { f with properties := e.properties })])

variable (e : FieldEntry)

theorem settings_written : e.settings.map Prod.fst = e.documentEntries := by
  simp only [settings, documentEntries, unlessEmpty, List.map_append]
  split <;> split <;> split <;> rfl

/-- Members that are left out have their default. -/
theorem settings_change : e.settings.foldl (fun f s => s.2 f) shape.initial = e := by
  obtain ⟨type, name, desc, argRequired, display, properties⟩ := e
  by_cases plain : display = "" <;> by_cases bare : properties = "" <;> cases argRequired <;>
    simp [settings, shape, plain, bare]

theorem settings_keys : (e.settings.map fun s => s.1.1).Sublist
    ["type", "name", "argRequired", "display", "desc", "properties"] := by
  simp only [settings, List.map_append]
  split <;> split <;> split <;> simp only [List.map_cons, List.map_nil] <;> decide

/-- Every member is written as its reader reads it, and without controls. -/
theorem settings_sets : ∀ s ∈ e.settings, shape.Sets s.1 s.2 ∧ Printed s.1.2 := by
  have type : shape.Sets ("type", writeText e.type.name) fun f => { f with type := e.type } :=
    ⟨_, rfl, e.type.takes_read.andThen _⟩
  have name : shape.Sets ("name", writeText e.name) fun f => { f with name := e.name } :=
    ⟨_, rfl, (takes_text _ e.name).andThen _⟩
  have argRequired : shape.Sets ("argRequired", writeBool true)
      fun f => { f with argRequired := true } :=
    ⟨_, rfl, (takes_bool true).andThen _⟩
  have display : shape.Sets ("display", writeText e.display)
      fun f => { f with display := e.display } :=
    ⟨_, rfl, (takes_text _ e.display).andThen _⟩
  have desc : shape.Sets ("desc", writeText e.desc) fun f => { f with desc := e.desc } :=
    ⟨_, rfl, (takes_text _ e.desc).andThen _⟩
  have properties : shape.Sets ("properties", writeText e.properties)
      fun f => { f with properties := e.properties } :=
    ⟨_, rfl, (takes_text _ e.properties).andThen _⟩
  -- A member that may be left out is in its part of the list only if it is written.
  have written {p : Prop} [Decidable p] {s t : Setting} (mem : s ∈ if p then [] else [t]) :
      s = t := by
    split at mem
    · cases mem
    · exact List.mem_singleton.1 mem
  intro s mem
  simp only [settings, List.mem_append, List.mem_cons, List.not_mem_nil, or_false] at mem
  obtain ((((rfl | rfl) | given) | given) | rfl) | given := mem
  · exact ⟨type, printed_writeText _⟩
  · exact ⟨name, printed_writeText _⟩
  · rw [← ite_not] at given
    exact written given ▸ ⟨argRequired, printed_writeBool true⟩
  · exact written given ▸ ⟨display, printed_writeText _⟩
  · exact ⟨desc, printed_writeText _⟩
  · exact written given ▸ ⟨properties, printed_writeText _⟩

/-- An entry is read back from what is written of it. -/
theorem takes_entry : Takes shape.read (writeMap e.documentEntries) e := by
  have distinct : (e.settings.map fun s => s.1.1).Nodup :=
    e.settings_keys.nodup (by decide)
  have complete : ∀ m ∈ shape.members, m.required → m.key ∈ e.settings.map fun s => s.1.1 := by
    simp [shape, settings]
  have read := Shape.takes_writeMap e.settings (fun s mem => (e.settings_sets s mem).1) distinct
    complete
  rwa [settings_written, settings_change] at read

theorem printed_entry : Printed (writeMap e.documentEntries) := by
  rw [← settings_written]
  refine printed_writeMap fun entry mem => ?_
  obtain ⟨s, given, rfl⟩ := List.mem_map.1 mem
  exact (e.settings_sets s given).2

end FieldEntry

namespace FieldSchema

/-- A written schema is read back, with nothing but the schema before what follows. -/
theorem takes_schema (schema : FieldSchema) :
    Takes (list FieldEntry.shape.read)
      (writeSequence (schema.map fun e => writeMap e.documentEntries)) schema := by
  have read : Takes (list FieldEntry.shape.read) _ _ :=
    takes_writeSequence (schema.map fun e => (writeMap e.documentEntries, e)) fun x mem => by
      obtain ⟨e, -, rfl⟩ := List.mem_map.1 mem
      exact ⟨e.takes_entry, _, _, rfl, rfl, by decide, by decide⟩
  rw [List.map_map, List.map_map] at read
  have same : schema.map (Prod.snd ∘ fun e => (writeMap e.documentEntries, e)) = schema :=
    List.map_id schema
  rwa [same] at read

theorem ofDocument_toDocument (schema : FieldSchema) : ofDocument schema.toDocument = .ok schema :=
  parse_of_takes schema.takes_schema

/-- A document has no controls. -/
theorem printed_toDocument (schema : FieldSchema) : Printed schema.toDocument.toList := by
  rw [toDocument, String.toList_ofList]
  refine printed_writeSequence fun x mem => ?_
  obtain ⟨e, -, rfl⟩ := List.mem_map.1 mem
  exact e.printed_entry

/-- **A schema survives the boundary.** Whatever the texts of its fields are and whichever members
are left out, its document can always be handed over as a C string that holds all of it, and what is
read from there up to the terminator is the schema again. -/
theorem survives_boundary (schema : FieldSchema) :
    let document := schema.toDocument
    '\x00' ∉ document.toList ∧ 0 ∉ Text.Utf8.encode document ∧
      ∃ bytes, schema.toCString? = some bytes ∧ bytes = Text.Utf8.encode document ++ [0] ∧
        ∀ beyond,
          terminated (bytes ++ beyond) = Text.Utf8.encode document ∧
          Text.Utf8.decode (terminated (bytes ++ beyond)) = .ok document ∧
          ofDocument document = .ok schema := by
  intro document
  have clean : '\x00' ∉ document.toList := by
    intro mem
    have high := schema.printed_toDocument _ mem
    revert high
    decide
  have handed : schema.toCString? = some (Text.Utf8.encode document ++ [0]) := by
    rw [toCString?, cString?, if_neg (by rwa [hasNul_iff])]
  refine ⟨clean, by rwa [Text.Utf8.zero_mem_encode], _, handed, rfl, fun beyond => ?_⟩
  have whole := terminated_encode clean beyond
  rw [List.append_assoc, List.singleton_append, whole]
  exact ⟨rfl, Text.Utf8.decode_encode document, schema.ofDocument_toDocument⟩

end FieldSchema

end PluginBridge
