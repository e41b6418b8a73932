import PluginBridge.Config.Document
import PluginBridge.Proofs.Json.Objects
import PluginBridge.Schema.Info

/-!
# Partial documents

A configuration document may leave settings out, an identity document its description and contact.
What is read is the record of the given keys (`Config.only`, `PluginInfo.only`), in whatever order
they come, with unknown keys between them and blanks wherever they are allowed. A record is read back
from what is written of it, since that gives every key. A known key that is given twice is refused,
and an identity without its name or version is (`partial_documents`).
-/

namespace PluginBridge

open Json

namespace Config

/-- The configuration that has the given settings of another one, and the defaults else. -/
def only (c : Config) (keys : List String) : Config where
  enabled := if "enabled" ∈ keys then c.enabled else ({} : Config).enabled
  concurrency := if "concurrency" ∈ keys then c.concurrency else ({} : Config).concurrency
  starvationThreshold :=
    if "starvation_threshold_us" ∈ keys then c.starvationThreshold
    else ({} : Config).starvationThreshold
  idleSleep := if "idle_sleep_us" ∈ keys then c.idleSleep else ({} : Config).idleSleep
  transitionTimeout :=
    if "transition_timeout_ms" ∈ keys then c.transitionTimeout
    else ({} : Config).transitionTimeout

/-- The value of a key in a configuration: its setting as it is written. -/
def Means (c : Config) (key : String) (value : List Char) : Prop := (key, value) ∈ c.documentEntries

theorem tidy_members : ∀ m ∈ shape.members, Tidy m.value := by
  intro m mem
  simp only [shape, List.mem_cons, List.not_mem_nil, or_false] at mem
  rcases mem with rfl | rfl | rfl | rfl | rfl
  · exact tidy_bool.andThen _
  · exact (tidy_nullable (tidy_natural _)).andThen _
  · exact (tidy_natural _).andThen _
  · exact (tidy_natural _).andThen _
  · exact (tidy_natural _).andThen _

theorem takes_concurrency (n : Option UInt64) :
    Takes (nullable (natural "usize"))
      (match n with
        | some n => writeNatural n.toNat
        | none => "null".toList) (n.map UInt64.toNat) := by
  cases n with
  | some n => exact takes_nullable_natural _ n.toNat_lt
  | none => exact takes_nullable_null _

theorem picks_only (c : Config) : shape.Picks c.Means c.only := by
  have size (n : UInt64) : n.toNat < UInt64.size := n.toNat_lt
  constructor
  · rfl
  · intro key value known means
    simp only [Means, documentEntries, List.mem_cons, List.not_mem_nil, or_false,
      Prod.mk.injEq] at means
    rcases means with ⟨rfl, rfl⟩ | ⟨rfl, rfl⟩ | ⟨rfl, rfl⟩ | ⟨rfl, rfl⟩ | ⟨rfl, rfl⟩
    · refine ⟨_, ⟨_, rfl, (takes_bool c.enabled).andThen _⟩, ?_⟩
      intro seen
      simp [only]
    · refine ⟨_, ⟨_, rfl, (takes_concurrency c.concurrency).andThen _⟩, ?_⟩
      intro seen
      simp [only, Option.map_map, Function.comp_def]
    · refine ⟨_, ⟨_, rfl, (takes_natural _ (size _)).andThen _⟩, ?_⟩
      intro seen
      simp [only]
    · refine ⟨_, ⟨_, rfl, (takes_natural _ (size _)).andThen _⟩, ?_⟩
      intro seen
      simp [only]
    · refine ⟨_, ⟨_, rfl, (takes_natural _ (size _)).andThen _⟩, ?_⟩
      intro seen
      simp [only]
  · intro given given' same
    simp only [Shape.keys, shape, List.map_cons, List.map_nil, List.forall_mem_cons] at same
    obtain ⟨enabled, concurrency, threshold, sleep, timeout, -⟩ := same
    simp only [only, enabled, concurrency, threshold, sleep, timeout]

/-- A configuration gives all of its keys. -/
theorem only_entries (c : Config) : c.only (c.documentEntries.map Prod.fst) = c := rfl

theorem gives_entries (c : Config) : shape.Gives c.Means c.documentEntries := by
  have distinct : shape.keys.Nodup := by decide
  exact .of_nodup (fun e mem => mem) distinct

theorem wellFormed_entries (c : Config) : ∀ e ∈ c.documentEntries, WellFormed .value e.2 := by
  intro e mem
  simp only [documentEntries, List.mem_cons, List.not_mem_nil, or_false] at mem
  rcases mem with rfl | rfl | rfl | rfl | rfl
  · exact wellFormed_writeBool _
  · cases c.concurrency with
    | some n => exact wellFormed_writeNatural _
    | none => exact .wordNull
  · exact wellFormed_writeNatural _
  · exact wellFormed_writeNatural _
  · exact wellFormed_writeNatural _

/-- No key is required. -/
theorem missing_eq (keys : List String) : shape.missing? keys = none := by
  rw [Shape.missing?_eq_none]
  simp [shape]

/-- Any of the settings may be given, in any order and with unknown keys between them. -/
theorem ofDocument_of_gives {c : Config} {document : String} {entries : List (String × List Char)}
    (object : IsObject document entries) (gives : shape.Gives c.Means entries) :
    ofDocument document = .ok (c.only (entries.map Prod.fst)) := by
  rw [ofDocument, Shape.parse_object c.picks_only tidy_members object gives, missing_eq]

theorem ofDocument_toDocument (c : Config) : ofDocument c.toDocument = .ok c := by
  have read := ofDocument_of_gives (isObject_writeMap c.wellFormed_entries) c.gives_entries
  rwa [only_entries] at read

/-- A setting is given at most once. -/
theorem once_of_ofDocument {c : Config} {document : String} {entries : List (String × List Char)}
    (object : IsObject document entries) (read : ofDocument document = .ok c) :
    ∀ key ∈ shape.keys, (entries.map Prod.fst).count key ≤ 1 :=
  (Shape.given_of_parse tidy_members object read).1

end Config

namespace PluginInfo

/-- The identity that has the given members of another one, and empty texts else. -/
def only (i : PluginInfo) (keys : List String) : PluginInfo where
  name := if "name" ∈ keys then i.name else ""
  version := if "version" ∈ keys then i.version else ""
  description := if "description" ∈ keys then i.description else ""
  contact := if "contact" ∈ keys then i.contact else ""

/-- The members of an identity by their keys. -/
def members (i : PluginInfo) : List (String × String) :=
  [("name", i.name), ("version", i.version), ("description", i.description), ("contact", i.contact)]

/-- The value of a key in an identity: its text between quotes, however it is written. -/
def Means (i : PluginInfo) (key : String) (value : List Char) : Prop :=
  ∃ s, (key, s) ∈ i.members ∧ Quotation value s

theorem tidy_members : ∀ m ∈ shape.members, Tidy m.value := by
  intro m mem
  simp only [shape, List.mem_cons, List.not_mem_nil, or_false] at mem
  rcases mem with rfl | rfl | rfl | rfl
  iterate 4 exact (tidy_text _).andThen _

theorem picks_only (i : PluginInfo) : shape.Picks i.Means i.only := by
  constructor
  · rfl
  · intro key value known means
    obtain ⟨s, mem, quotation⟩ := means
    have takes := takes_quotation quotation "a string"
    simp only [members, List.mem_cons, List.not_mem_nil, or_false, Prod.mk.injEq] at mem
    rcases mem with ⟨rfl, rfl⟩ | ⟨rfl, rfl⟩ | ⟨rfl, rfl⟩ | ⟨rfl, rfl⟩
    iterate 4
      refine ⟨_, ⟨_, rfl, takes.andThen _⟩, ?_⟩
      intro seen
      simp [only]
  · intro given given' same
    simp only [Shape.keys, shape, List.map_cons, List.map_nil, List.forall_mem_cons] at same
    obtain ⟨name, version, description, contact, -⟩ := same
    simp only [only, name, version, description, contact]

theorem only_entries (i : PluginInfo) : i.only (i.documentEntries.map Prod.fst) = i := rfl

theorem gives_entries (i : PluginInfo) : shape.Gives i.Means i.documentEntries := by
  have distinct : shape.keys.Nodup := by decide
  refine .of_nodup ?_ distinct
  intro e mem
  simp only [documentEntries, List.mem_cons, List.not_mem_nil, or_false] at mem
  rcases mem with rfl | rfl | rfl | rfl
  iterate 4 exact ⟨_, by simp [members], quotation_writeText _⟩

theorem wellFormed_entries (i : PluginInfo) : ∀ e ∈ i.documentEntries, WellFormed .value e.2 := by
  intro e mem
  simp only [documentEntries, List.mem_cons, List.not_mem_nil, or_false] at mem
  rcases mem with rfl | rfl | rfl | rfl
  iterate 4 exact wellFormed_writeText _

/-- The name comes before the version. -/
theorem missing_eq (keys : List String) :
    shape.missing? keys =
      if "name" ∉ keys then some "name" else if "version" ∉ keys then some "version" else none := by
  by_cases name : "name" ∈ keys <;> by_cases version : "version" ∈ keys <;>
    simp [Shape.missing?, shape, name, version]

theorem ofDocument_of_gives {i : PluginInfo} {document : String}
    {entries : List (String × List Char)} (object : IsObject document entries)
    (gives : shape.Gives i.Means entries) :
    ofDocument document =
      if "name" ∉ entries.map Prod.fst then .error (.mismatch (.missingKey "name"))
      else if "version" ∉ entries.map Prod.fst then .error (.mismatch (.missingKey "version"))
      else .ok (i.only (entries.map Prod.fst)) := by
  rw [ofDocument, Shape.parse_object i.picks_only tidy_members object gives, missing_eq]
  by_cases name : "name" ∉ entries.map Prod.fst
  · rw [if_pos name, if_pos name]
  · rw [if_neg name, if_neg name]
    by_cases version : "version" ∉ entries.map Prod.fst
    · rw [if_pos version, if_pos version]
    · rw [if_neg version, if_neg version]

theorem ofDocument_toDocument (i : PluginInfo) : ofDocument i.toDocument = .ok i := by
  have read := ofDocument_of_gives (isObject_writeMap i.wellFormed_entries) i.gives_entries
  rwa [only_entries] at read

/-- A member is given at most once, and name and version are given. -/
theorem given_of_ofDocument {i : PluginInfo} {document : String}
    {entries : List (String × List Char)} (object : IsObject document entries)
    (read : ofDocument document = .ok i) :
    (∀ key ∈ shape.keys, (entries.map Prod.fst).count key ≤ 1) ∧
      "name" ∈ entries.map Prod.fst ∧ "version" ∈ entries.map Prod.fst := by
  obtain ⟨once, required⟩ := Shape.given_of_parse tidy_members object read
  exact ⟨once, required ⟨"name", true, _⟩ List.mem_cons_self rfl,
    required ⟨"version", true, _⟩ (List.mem_cons_of_mem _ List.mem_cons_self) rfl⟩

end PluginInfo

/-- What is read from an object that gives some known keys, each at most once and with a value of a
record, is the record of the given keys: of a configuration with defaults for the others, of an
identity if it has name and version. So a record is read back from what is written of it. A known key
that is given twice is refused, whatever else stands in the object, and an identity without name or
version is. -/
theorem partial_documents :
    (∀ (c : Config) document entries, IsObject document entries →
      Config.shape.Gives c.Means entries →
      Config.ofDocument document = .ok (c.only (entries.map Prod.fst))) ∧
    (∀ c : Config, Config.ofDocument c.toDocument = .ok c) ∧
    (∀ (i : PluginInfo) document entries, IsObject document entries →
      PluginInfo.shape.Gives i.Means entries →
      PluginInfo.ofDocument document =
        if "name" ∉ entries.map Prod.fst then .error (.mismatch (.missingKey "name"))
        else if "version" ∉ entries.map Prod.fst then .error (.mismatch (.missingKey "version"))
        else .ok (i.only (entries.map Prod.fst))) ∧
    (∀ i : PluginInfo, PluginInfo.ofDocument i.toDocument = .ok i) ∧
    ∀ document entries, IsObject document entries →
      ((∃ key ∈ Config.shape.keys, 1 < (entries.map Prod.fst).count key) →
        ∃ fault, Config.ofDocument document = .error fault) ∧
      ((∃ key ∈ PluginInfo.shape.keys, 1 < (entries.map Prod.fst).count key) ∨
          "name" ∉ entries.map Prod.fst ∨ "version" ∉ entries.map Prod.fst →
        ∃ fault, PluginInfo.ofDocument document = .error fault) := by
  refine ⟨fun c _ _ => Config.ofDocument_of_gives, Config.ofDocument_toDocument,
    fun i _ _ => PluginInfo.ofDocument_of_gives, PluginInfo.ofDocument_toDocument, ?_⟩
  intro document entries object
  constructor
  · rintro ⟨key, known, twice⟩
    cases read : Config.ofDocument document with
    | error fault => exact ⟨fault, rfl⟩
    | ok c =>
      have once := Config.once_of_ofDocument object read key known
      omega
  · intro bad
    cases read : PluginInfo.ofDocument document with
    | error fault => exact ⟨fault, rfl⟩
    | ok i =>
      obtain ⟨once, name, version⟩ := PluginInfo.given_of_ofDocument object read
      rcases bad with ⟨key, known, twice⟩ | noName | noVersion
      · have unique := once key known
        omega
      · exact absurd name noName
      · exact absurd version noVersion

/-- An unknown key comes first, with a sequence that holds an object and an unpaired surrogate; then
the largest concurrency is given. -/
theorem partial_documents_nested :
    let document :=
      " \x7b \"later\" : [ \x7b\"a\\uD800\":-0.5E+3\x7d, null ] ,\n\"concurrency\":18446744073709551615 \x7d"
    let entries :=
      [("later", "[ \x7b\"a\\uD800\":-0.5E+3\x7d, null ]".toList),
       ("concurrency", "18446744073709551615".toList)]
    let c : Config := { enabled := false, concurrency := some 18446744073709551615 }
    IsObject document entries ∧ Config.shape.Gives c.Means entries ∧
      Config.ofDocument document = .ok { concurrency := some 18446744073709551615 } := by
  intro document entries c
  have blank : Gap [' '] := List.all_eq_true.1 rfl
  have feed : Gap ['\n'] := List.all_eq_true.1 rfl
  have zero : Digits ['0'] := ⟨by decide, List.all_eq_true.1 rfl⟩
  have five : Digits ['5'] := ⟨by decide, List.all_eq_true.1 rfl⟩
  have three : Digits ['3'] := ⟨by decide, List.all_eq_true.1 rfl⟩
  have number : WellFormed .value "-0.5E+3".toList :=
    .number (.parts true zero (fun _ => rfl) (.present five) (.present (.inr rfl) .plus three))
  have object : WellFormed .value "\x7b\"a\\uD800\":-0.5E+3\x7d".toList :=
    .map (.entry (.first gap_nil) (.plain (by decide) (by decide) (by decide) (.unit rfl .close))
      gap_nil gap_nil number (.endMap gap_nil))
  have later : WellFormed .value "[ \x7b\"a\\uD800\":-0.5E+3\x7d, null ]".toList :=
    .sequence (.element (.first blank) object (.element (.later gap_nil blank) .wordNull
      (.endSequence blank)))
  have count : WellFormed .value "18446744073709551615".toList :=
    wellFormed_writeNatural 18446744073709551615
  have lists : Lists true _ entries :=
    .entry (.first blank) (quotation_writeText "later") blank blank later
      (.entry (.later blank feed) (quotation_writeText "concurrency")
        gap_nil gap_nil count (.close blank))
  have written : IsObject document entries := ⟨[' '], _, [], by decide, blank, gap_nil, lists⟩
  have gives : Config.shape.Gives c.Means entries := by
    constructor
    · intro e mem known
      rcases List.mem_cons.1 mem with rfl | mem
      · exact absurd known (by decide)
      · rw [List.mem_singleton.1 mem]
        exact List.mem_cons_of_mem _ List.mem_cons_self
    · decide
  exact ⟨written, gives, partial_documents.1 c document entries written gives⟩

end PluginBridge
