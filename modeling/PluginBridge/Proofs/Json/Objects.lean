import PluginBridge.Proofs.Json.Values
import Mathlib.Data.List.Nodup

/-!
# Records from entries in any order

An object lists entries: a key and the text of its value, with blanks between all its parts
(`IsObject`). A record is read from it entry by entry. If the known keys have values that the record
can have, each of them at most once, the record is that of the given keys, whatever their order and
whatever stands between them (`Shape.parse_object`). And no record is read from an object that gives a
known key twice or leaves a required key out (`Shape.given_of_parse`).
-/

namespace PluginBridge.Json

variable {σ : Type} {cs rest : List Char} {first : Bool}

/-- The text of entries up to and with the closing bracket. -/
inductive Lists : Bool → List Char → List (String × List Char) → Prop where
  | close {first : Bool} {gap : List Char} (blank : Gap gap) : Lists first (gap ++ ['\x7d']) []
  | entry {first : Bool} {opening quoted gap gap' value cs : List Char} {key : String}
      {entries : List (String × List Char)} (opens : Opening first opening)
      (quotation : Quotation quoted key) (blank : Gap gap) (blank' : Gap gap')
      (wellFormed : WellFormed .value value) (later : Lists false cs entries) :
      Lists first (opening ++ (quoted ++ (gap ++ ':' :: (gap' ++ (value ++ cs)))))
        ((key, value) :: entries)

/-- A document that is an object with the given entries. -/
structure IsObject (document : String) (entries : List (String × List Char)) : Prop where
  written : ∃ lead text trail, document.toList = lead ++ '\x7b' :: (text ++ trail) ∧
    Gap lead ∧ Gap trail ∧ Lists true text entries

variable {entries : List (String × List Char)}

theorem Lists.ends (later : Lists false cs entries) (rest : List Char) : Ends (cs ++ rest) := by
  cases later with
  | close blank =>
    rw [List.append_assoc]
    exact (ends_cons (.inr (.inr rfl)) rest).after_gap blank
  | entry opens =>
    rw [List.append_assoc]
    exact ends_of_opening opens _

/-! ## Objects that are written -/

theorem lists_writeEntry {opening : List Char} {e : String × List Char}
    (opens : Opening first opening) (wellFormed : WellFormed .value e.2)
    (later : Lists false cs entries) :
    Lists first (opening ++ (writeEntry e ++ cs)) (e :: entries) := by
  have listed := Lists.entry opens (quotation_writeText e.1) gap_nil gap_nil wellFormed later
  simpa [writeEntry] using listed

theorem lists_later (wellFormed : ∀ e ∈ entries, WellFormed .value e.2) :
    Lists false ((entries.flatMap fun e => ',' :: writeEntry e) ++ ['\x7d']) entries := by
  induction entries with
  | nil => exact .close gap_nil
  | cons e entries ih =>
    have later := ih fun f mem => wellFormed f (List.mem_cons_of_mem e mem)
    have listed := lists_writeEntry (.later gap_nil gap_nil) (wellFormed e List.mem_cons_self) later
    simpa using listed

/-- A map that is written is an object, whatever its keys are. -/
theorem isObject_writeMap (wellFormed : ∀ e ∈ entries, WellFormed .value e.2) :
    IsObject (String.ofList (writeMap entries)) entries := by
  have text : Lists true (commaSeparated (entries.map writeEntry) ++ ['\x7d']) entries := by
    cases entries with
    | nil => exact .close gap_nil
    | cons e entries =>
      have later := lists_later fun f mem => wellFormed f (List.mem_cons_of_mem e mem)
      have listed := lists_writeEntry (.first gap_nil) (wellFormed e List.mem_cons_self) later
      rw [List.map_cons, commaSeparated_cons]
      simpa [List.flatMap_map] using listed
  refine ⟨[], _, [], ?_, gap_nil, gap_nil, text⟩
  rw [String.toList_ofList, List.append_nil]
  rfl

/-! ## Records from entries -/

namespace Shape

variable {shape : Shape σ} {seen seen' : List String} {record record' : σ}

/-- The keys that a shape knows. -/
def keys (shape : Shape σ) : List String := shape.members.map Member.key

/-- The known keys among those of entries. -/
def known (shape : Shape σ) (entries : List (String × List Char)) : List String :=
  (entries.map Prod.fst).filter (· ∈ shape.keys)

theorem find?_eq_none {key : String} :
    shape.members.find? (fun m => m.key == key) = none ↔ key ∉ shape.keys := by
  simp [keys, List.find?_eq_none]

theorem known_cons_of_mem {key : String} (mem : key ∈ shape.keys) (value : List Char) :
    shape.known ((key, value) :: entries) = key :: shape.known entries := by
  rw [known, List.map_cons, List.filter_cons_of_pos (by simpa using mem)]
  rfl

theorem known_cons_of_not_mem {key : String} (strange : key ∉ shape.keys) (value : List Char) :
    shape.known ((key, value) :: entries) = shape.known entries := by
  rw [known, List.map_cons, List.filter_cons_of_neg (by simpa using strange)]
  rfl

theorem mem_known {key : String} (mem : key ∈ shape.keys) :
    key ∈ shape.known entries ↔ key ∈ entries.map Prod.fst := by
  rw [known, List.mem_filter]
  simp [mem]

/-- Each known key is given at most once. -/
theorem nodup_known :
    (shape.known entries).Nodup ↔
      ∀ key ∈ shape.keys, (entries.map Prod.fst).count key ≤ 1 := by
  have count {key : String} (mem : key ∈ shape.keys) :
      (shape.known entries).count key = (entries.map Prod.fst).count key :=
    List.count_filter (by simpa using mem)
  rw [List.nodup_iff_count_le_one]
  constructor
  · intro once key mem
    rw [← count mem]
    exact once key
  · intro once key
    by_cases mem : key ∈ shape.keys
    · rw [count mem]
      exact once key mem
    · have strange : key ∉ shape.known entries := by
        intro among
        exact mem (of_decide_eq_true (List.mem_filter.1 among).2)
      rw [List.count_eq_zero_of_not_mem strange]
      exact Nat.zero_le 1

/-- A record by the keys that are given: each adds its value to the record of the others. -/
structure Picks (shape : Shape σ) (means : String → List Char → Prop) (pick : List String → σ) :
    Prop where
  initial : pick [] = shape.initial
  change : ∀ {key value}, key ∈ shape.keys → means key value →
    ∃ change, shape.Sets (key, value) change ∧ ∀ seen, change (pick seen) = pick (key :: seen)
  same : ∀ {given given'}, (∀ key ∈ shape.keys, key ∈ given ↔ key ∈ given') →
    pick given = pick given'

/-- Entries that give each known key at most once, and with a value that it can have. -/
structure Gives (shape : Shape σ) (means : String → List Char → Prop)
    (entries : List (String × List Char)) : Prop where
  values : ∀ e ∈ entries, e.1 ∈ shape.keys → means e.1 e.2
  once : ∀ key ∈ shape.keys, (entries.map Prod.fst).count key ≤ 1

theorem Gives.of_nodup {means : String → List Char → Prop} (values : ∀ e ∈ entries, means e.1 e.2)
    (distinct : (entries.map Prod.fst).Nodup) : shape.Gives means entries :=
  ⟨fun e mem _ => values e mem, fun key _ => List.nodup_iff_count_le_one.1 distinct key⟩

/-- Entries with known values are spelled, in any order and with unknown entries between them. -/
theorem spells_of_lists {means : String → List Char → Prop} {pick : List String → σ}
    (picks : shape.Picks means pick) (tidy : ∀ m ∈ shape.members, Tidy m.value)
    (lists : Lists first cs entries) (gives : ∀ e ∈ entries, e.1 ∈ shape.keys → means e.1 e.2)
    (once : (shape.known entries).Nodup) (new : ∀ key ∈ shape.known entries, key ∉ seen) :
    shape.Spells first seen (pick seen) cs (pick ((shape.known entries).reverse ++ seen))
      ((shape.known entries).reverse ++ seen) := by
  -- Between two entries the record is that of the keys seen so far.
  induction lists generalizing seen with
  | close blank => exact .close blank
  | @entry first opening quoted gap gap' value cs key entries opens quotation blank blank' wellFormed
      later ih =>
    have gives' : ∀ e ∈ entries, e.1 ∈ shape.keys → means e.1 e.2 := by
      intro e mem
      exact gives e (List.mem_cons_of_mem _ mem)
    by_cases mem : key ∈ shape.keys
    · rw [known_cons_of_mem mem] at once new ⊢
      obtain ⟨other, once'⟩ := List.nodup_cons.1 once
      obtain ⟨change, ⟨m, found, takes⟩, added⟩ := picks.change mem
        (gives (key, value) List.mem_cons_self mem)
      have tidied := tidy m (List.mem_of_find?_eq_some found)
      have new' : ∀ other' ∈ shape.known entries, other' ∉ key :: seen := by
        intro other' among old
        rcases List.mem_cons.1 old with rfl | old
        · exact other among
        · exact new other' (List.mem_cons_of_mem _ among) old
      have spelled := ih gives' once' new'
      simp only [List.reverse_cons, List.append_assoc, List.singleton_append]
      rw [← List.append_assoc gap' value]
      refine .entry opens (quotes_of_quotation quotation) blank
        (.known found (new key List.mem_cons_self) (tidied.takes blank' takes)) ?_
      rw [added]
      exact spelled
    · rw [known_cons_of_not_mem mem] at once new ⊢
      rw [← List.append_assoc gap' value]
      exact .entry opens (quotes_of_quotation quotation) blank
        (.unknown (find?_eq_none.2 mem) (takes_skip blank' wellFormed)) (ih gives' once new)

/-! ## Whole documents -/

theorem missing?_congr {given given' : List String} (same : ∀ key ∈ shape.keys,
    key ∈ given ↔ key ∈ given') : shape.missing? given = shape.missing? given' := by
  have agree : ∀ m ∈ shape.members,
      (m.required && !given.contains m.key) = (m.required && !given'.contains m.key) := by
    intro m mem
    have key := same m.key (List.mem_map_of_mem mem)
    rw [← List.contains_iff_mem, ← List.contains_iff_mem] at key
    rw [Bool.eq_iff_iff.2 key]
  rw [missing?, missing?, ← List.head?_filter, ← List.head?_filter, List.filter_congr agree]

theorem read_gap {gap : List Char} (blank : Gap gap) (cs : List Char) :
    shape.read (gap ++ cs) = shape.read cs := bind_congr_at _ (peekSome_gap blank cs)

/-- A record is read from an object whatever the order of its entries, what unknown entries are among
them and where blanks stand, if it leaves out no key that is required. -/
theorem parse_object {document : String} {means : String → List Char → Prop}
    {pick : List String → σ} (picks : shape.Picks means pick)
    (tidy : ∀ m ∈ shape.members, Tidy m.value) (object : IsObject document entries)
    (gives : shape.Gives means entries) :
    parse shape.read document =
      match shape.missing? (entries.map Prod.fst) with
      | some key => .error (.mismatch (.missingKey key))
      | none => .ok (pick (entries.map Prod.fst)) := by
  obtain ⟨lead, text, trail, written, blank, blank', lists⟩ := object
  have spells := spells_of_lists picks tidy lists gives.values (nodup_known.2 gives.once)
    (fun _ _ => List.not_mem_nil)
  rw [picks.initial] at spells
  have same : ∀ key ∈ shape.keys,
      key ∈ (shape.known entries).reverse ++ [] ↔ key ∈ entries.map Prod.fst := by
    intro key mem
    rw [List.append_nil, List.mem_reverse, mem_known mem]
  rw [parse, written, read_gap blank, read_of_spells spells, picks.same same, missing?_congr same]
  cases shape.missing? (entries.map Prod.fst) with
  | some key => rfl
  | none =>
    have all : trail.all isBlank := List.all_eq_true.2 blank'
    show (if trail.all isBlank then _ else _) = _
    rw [if_pos all]

/-! ## Documents that are refused -/

/-- Entries that are accepted give no known key twice, and their known keys are noted. -/
theorem known_of_entries (tidy : ∀ m ∈ shape.members, Tidy m.value)
    (lists : Lists first cs entries) {fuel : Nat} {rest' : List Char}
    (read : shape.entries fuel first seen record (cs ++ rest) = .ok ((record', seen'), rest')) :
    (shape.known entries).Nodup ∧ (∀ key ∈ shape.known entries, key ∉ seen) ∧
      seen' = (shape.known entries).reverse ++ seen := by
  induction lists generalizing fuel seen record with
  | close blank =>
    obtain _ | fuel := fuel
    · cases read
    rw [List.append_assoc, List.singleton_append, Shape.entries,
      bind_of_ok (nextKey_of_gap blank rest)] at read
    cases read
    exact ⟨List.nodup_nil, fun _ mem => absurd mem List.not_mem_nil, rfl⟩
  | @entry first opening quoted gap gap' value cs key entries opens quotation blank blank' wellFormed
      later ih =>
    obtain _ | fuel := fuel
    · cases read
    simp only [List.append_assoc, List.cons_append] at read
    rw [Shape.entries, bind_of_ok (nextKey_of_opening opens (quotes_of_quotation quotation) _)] at read
    dsimp only at read
    cases found : shape.members.find? fun m => m.key == key with
    | none =>
      have strange := find?_eq_none.1 found
      have skipped := takes_skip blank' wellFormed _ (later.ends rest)
      rw [List.append_assoc] at skipped
      rw [found] at read
      dsimp only at read
      rw [bind_of_ok (colon_of_gap blank _), bind_of_ok skipped] at read
      rw [known_cons_of_not_mem strange]
      exact ih read
    | some m =>
      have mem : key ∈ shape.keys := by
        by_contra strange
        rw [find?_eq_none.2 strange] at found
        cases found
      have tidied := tidy m (List.mem_of_find?_eq_some found)
      rw [found] at read
      dsimp only at read
      split at read
      · cases read
      · next new =>
        rw [bind_of_ok (colon_of_gap blank _)] at read
        -- Whatever value was taken, the reader stands where the next entry begins.
        obtain ⟨change, left, took, read⟩ := exists_of_bind read
        rw [tidied.gap blank'] at took
        rw [tidied.whole wellFormed (later.ends rest) took] at read
        obtain ⟨once, apart, noted⟩ := ih read
        rw [known_cons_of_mem mem]
        refine ⟨List.nodup_cons.2 ⟨?_, once⟩, ?_, ?_⟩
        · intro again
          exact apart key again List.mem_cons_self
        · intro other among old
          rcases List.mem_cons.1 among with rfl | among
          · exact new (List.contains_iff_mem.2 old)
          · exact apart other among (List.mem_cons_of_mem _ old)
        · rw [noted, List.reverse_cons, List.append_assoc, List.singleton_append]

/-- An object from which a record is read gives no known key twice and each that is required. -/
theorem given_of_parse {document : String} (tidy : ∀ m ∈ shape.members, Tidy m.value)
    (object : IsObject document entries) (read : parse shape.read document = .ok record) :
    (∀ key ∈ shape.keys, (entries.map Prod.fst).count key ≤ 1) ∧
      ∀ m ∈ shape.members, m.required → m.key ∈ entries.map Prod.fst := by
  obtain ⟨lead, text, trail, written, blank, blank', lists⟩ := object
  rw [parse, written, read_gap blank] at read
  cases taken : shape.read ('\x7b' :: (text ++ trail)) with
  | error fault =>
    rw [taken] at read
    cases read
  | ok p =>
    rw [Shape.read, bind_of_ok (peekSome_of_dark rfl _), if_pos rfl, bind_of_ok (advance_cons _ _),
      bind_of_ok (get_eq (text ++ trail))] at taken
    obtain ⟨⟨record', seen⟩, left, walked, taken⟩ := exists_of_bind taken
    obtain ⟨once, -, noted⟩ := known_of_entries tidy lists walked
    rw [List.append_nil] at noted
    dsimp only at taken
    have complete : shape.missing? seen = none := by
      cases missing : shape.missing? seen with
      | none => rfl
      | some key =>
        rw [missing] at taken
        cases taken
    constructor
    · exact nodup_known.1 once
    · intro m mem required
      have among := missing?_eq_none.1 complete m mem required
      rw [noted, List.mem_reverse] at among
      exact (mem_known (List.mem_map_of_mem mem)).1 among

end Shape

end PluginBridge.Json
