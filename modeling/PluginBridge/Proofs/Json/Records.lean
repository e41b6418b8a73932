import PluginBridge.Json.Record
import PluginBridge.Proofs.Json.Texts

/-!
# Records and sequences that are read back

A map is a text of entries, in any order and with any blanks between their parts. `Shape.Spells`
says what such a text makes of a record, entry by entry: a known key that is new has its member's
reader take the value, and an unknown key has its value skipped (`Shape.Effect`). Whatever is
spelled in this way is read (`Shape.takes_read`). A written map is spelled with known keys and
without blanks, and so is read back (`Shape.takes_writeMap`), as is a written sequence
(`takes_writeSequence`).
-/

namespace PluginBridge.Json

variable {α σ : Type} {rest gap : List Char}

theorem get_eq (cs : List Char) : (get : Reader (List Char)) cs = .ok (cs, cs) := rfl

/-! ## Keys -/

/-- What stands between an entry and the one before it, or the bracket. -/
inductive Opening : Bool → List Char → Prop where
  | first {gap : List Char} (blank : Gap gap) : Opening true gap
  | later {gap gap' : List Char} (blank : Gap gap) (blank' : Gap gap') :
      Opening false (gap ++ ',' :: gap')

/-- A value ends where the opening of another one stands. -/
theorem ends_of_opening {opening : List Char} (opens : Opening false opening) (rest : List Char) :
    Ends (opening ++ rest) := by
  cases opens with
  | later blank =>
    rw [List.append_assoc]
    exact (ends_cons (.inl rfl) _).after_gap blank

/-- A key between its quotes. -/
structure Quotes (cs : List Char) (key : String) : Prop where
  quote : cs.head? = some '"'
  read : ∀ rest, quotedText (cs ++ rest) = .ok (key, rest)

theorem quotes_writeText (s : String) : Quotes (writeText s) s := ⟨rfl, quotedText_writeText s⟩

theorem Quotes.peekSome_of_gap {cs : List Char} {key : String} (quotes : Quotes cs key)
    (blank : Gap gap) (rest : List Char) :
    peekSome (gap ++ (cs ++ rest)) = .ok ('"', cs ++ rest) := by
  obtain ⟨tail, rfl⟩ := List.head?_eq_some_iff.1 quotes.quote
  exact Json.peekSome_of_gap blank rfl (tail ++ rest)

theorem Quotes.peekSome {cs : List Char} {key : String} (quotes : Quotes cs key)
    (rest : List Char) : Json.peekSome (cs ++ rest) = .ok ('"', cs ++ rest) :=
  quotes.peekSome_of_gap gap_nil rest

theorem nextKey_of_opening {first : Bool} {opening cs : List Char} {key : String}
    (opens : Opening first opening) (quotes : Quotes cs key) (rest : List Char) :
    nextKey first (opening ++ (cs ++ rest)) = .ok (some key, rest) := by
  have read : (do pure (some (← quotedText)) : Reader (Option String)) (cs ++ rest) =
      .ok (some key, rest) := bind_of_ok (quotes.read rest)
  cases opens with
  | first blank =>
    rw [nextKey, bind_of_ok (quotes.peekSome_of_gap blank rest), if_neg (by decide),
      if_neg (by decide)]
    dsimp only
    rw [bind_of_ok (quotes.peekSome rest), if_pos rfl]
    exact read
  | later blank blank' =>
    rw [List.append_assoc, List.cons_append, nextKey, bind_of_ok (peekSome_of_gap blank rfl _),
      if_neg (by decide), if_pos (by decide), if_pos rfl, bind_of_ok (advance_cons ',' _)]
    dsimp only
    rw [bind_of_ok (quotes.peekSome_of_gap blank' rest), if_pos rfl]
    exact read

theorem nextKey_of_gap {first : Bool} (blank : Gap gap) (rest : List Char) :
    nextKey first (gap ++ '\x7d' :: rest) = .ok (none, '\x7d' :: rest) := by
  rw [nextKey, bind_of_ok (peekSome_of_gap blank rfl rest), if_pos rfl]
  rfl

/-! ## Commas -/

theorem commaSeparated_cons (x : List Char) (xs : List (List Char)) :
    commaSeparated (x :: xs) = x ++ xs.flatMap fun y => ',' :: y := by
  induction xs generalizing x with
  | nil => simp [commaSeparated]
  | cons y ys ih => rw [commaSeparated, ih y, List.flatMap_cons, List.cons_append]

/-- There are no more items than characters. -/
theorem length_le_commaSeparated {xs : List (List Char)} (filled : ∀ x ∈ xs, x ≠ []) :
    xs.length ≤ (commaSeparated xs).length := by
  have commas (ys : List (List Char)) : ys.length ≤ (ys.flatMap fun y => ',' :: y).length := by
    induction ys with
    | nil => exact Nat.le_refl 0
    | cons y ys ih =>
      simp only [List.flatMap_cons, List.length_append, List.length_cons]
      omega
  cases xs with
  | nil => exact Nat.le_refl 0
  | cons x xs =>
    have pos := List.length_pos_iff.2 (filled x List.mem_cons_self)
    have later := commas xs
    rw [commaSeparated_cons, List.length_append, List.length_cons]
    omega

/-! ## The entries of a map -/

namespace Shape

variable {shape : Shape σ} {first : Bool} {seen seen' : List String} {record record' : σ}
  {cs value : List Char} {key : String}

/-- What the value of a key changes in a record, and which known keys have been given then. -/
inductive Effect (shape : Shape σ) (seen : List String) (key : String) (value : List Char) :
    (σ → σ) → List String → Prop where
  | known {m : Member σ} {change : σ → σ}
      (found : shape.members.find? (fun m => m.key == key) = some m) (new : key ∉ seen)
      (takes : Takes m.value value change) : Effect shape seen key value change (key :: seen)
  | unknown (strange : shape.members.find? (fun m => m.key == key) = none)
      (takes : Takes skip value ()) : Effect shape seen key value id seen

/-- What the entries of a map, up to and with its closing bracket, make of a record and of the known
keys that were given. -/
inductive Spells (shape : Shape σ) :
    Bool → List String → σ → List Char → σ → List String → Prop where
  | close {first : Bool} {seen : List String} {record : σ} {gap : List Char} (blank : Gap gap) :
      Spells shape first seen record (gap ++ ['\x7d']) record seen
  | entry {first : Bool} {seen seen' seen'' : List String} {record record' : σ}
      {opening quoted gap value cs : List Char} {key : String} {change : σ → σ}
      (opens : Opening first opening) (quotes : Quotes quoted key) (blank : Gap gap)
      (effect : shape.Effect seen key value change seen')
      (later : Spells shape false seen' (change record) cs record' seen'') :
      Spells shape first seen record (opening ++ (quoted ++ (gap ++ ':' :: (value ++ cs))))
        record' seen''

/-- A value ends where the next entry or the closing bracket begins. -/
theorem Spells.ends (spells : shape.Spells false seen record cs record' seen') (rest : List Char) :
    Ends (cs ++ rest) := by
  cases spells with
  | close blank =>
    rw [List.append_assoc]
    exact (ends_cons (.inr (.inr rfl)) rest).after_gap blank
  | entry opens =>
    rw [List.append_assoc]
    exact ends_of_opening opens _

/-- Entries are read as they are spelled, and the closing bracket is left. -/
theorem Spells.entries (spells : shape.Spells first seen record cs record' seen') {fuel : Nat}
    (enough : cs.length ≤ fuel) (rest : List Char) :
    shape.entries fuel first seen record (cs ++ rest) =
      .ok ((record', seen'), '\x7d' :: rest) := by
  induction spells generalizing fuel with
  | close blank =>
    obtain _ | fuel := fuel
    · simp at enough
    rw [List.append_assoc, List.singleton_append, Shape.entries,
      bind_of_ok (nextKey_of_gap blank rest)]
    rfl
  | entry opens quotes blank effect later ih =>
    obtain _ | fuel := fuel
    · simp at enough
    simp only [List.length_append, List.length_cons] at enough
    have next := @ih fuel (by omega)
    have ends := later.ends rest
    simp only [List.append_assoc, List.cons_append]
    rw [Shape.entries, bind_of_ok (nextKey_of_opening opens quotes _)]
    dsimp only
    cases effect with
    | known found new takes =>
      rw [found]
      dsimp only
      rw [if_neg (by simpa using new), bind_of_ok (colon_of_gap blank _),
        bind_of_ok (takes _ ends)]
      exact next
    | unknown strange takes =>
      rw [strange]
      dsimp only
      rw [bind_of_ok (colon_of_gap blank _), bind_of_ok (takes _ ends)]
      exact next

/-- The record of an object whose entries are spelled, or the first required key that it leaves
out. -/
theorem read_of_spells (spells : shape.Spells true [] shape.initial cs record seen)
    (rest : List Char) :
    shape.read ('\x7b' :: (cs ++ rest)) =
      match shape.missing? seen with
      | some key => .error (.mismatch (.missingKey key))
      | none => .ok (record, rest) := by
  have enough : cs.length ≤ (cs ++ rest).length + 1 := by
    rw [List.length_append]
    omega
  rw [Shape.read, bind_of_ok (peekSome_of_dark rfl _), if_pos rfl,
    bind_of_ok (advance_cons _ _), bind_of_ok (get_eq (cs ++ rest)),
    bind_of_ok (spells.entries enough rest)]
  dsimp only
  cases shape.missing? seen with
  | some key => rfl
  | none => exact bind_of_ok (advance_cons _ rest)

/-- A map is read as it is spelled, if every required key is given. -/
theorem takes_read (spells : shape.Spells true [] shape.initial cs record seen)
    (complete : shape.missing? seen = none) : Takes shape.read ('\x7b' :: cs) record := by
  intro rest _
  rw [List.cons_append, read_of_spells spells, complete]

theorem missing?_eq_none :
    shape.missing? seen = none ↔ ∀ m ∈ shape.members, m.required → m.key ∈ seen := by
  simp [missing?, List.find?_eq_none]

/-! ## Maps that are written -/

/-- An entry makes a change to a record. -/
def Sets (shape : Shape σ) (entry : String × List Char) (change : σ → σ) : Prop :=
  ∃ m, shape.members.find? (fun m => m.key == entry.1) = some m ∧ Takes m.value entry.2 change

theorem Sets.spells {entry : String × List Char} {change : σ → σ} {opening : List Char}
    (sets : shape.Sets entry change) (opens : Opening first opening) (new : entry.1 ∉ seen)
    (later : shape.Spells false (entry.1 :: seen) (change record) cs record' seen') :
    shape.Spells first seen record (opening ++ (writeEntry entry ++ cs)) record' seen' := by
  obtain ⟨m, found, takes⟩ := sets
  have spelled := Spells.entry opens (quotes_writeText entry.1) gap_nil (.known found new takes)
    later
  simpa [writeEntry] using spelled

/-- Entries with different keys, each after a comma. -/
theorem spells_later (es : List ((String × List Char) × (σ → σ))) (record : σ)
    (sets : ∀ e ∈ es, shape.Sets e.1 e.2) (distinct : (es.map fun e => e.1.1).Nodup)
    (new : ∀ e ∈ es, e.1.1 ∉ seen) :
    shape.Spells false seen record ((es.flatMap fun e => ',' :: writeEntry e.1) ++ ['\x7d'])
      (es.foldl (fun record e => e.2 record) record)
      ((es.map fun e => e.1.1).reverse ++ seen) := by
  induction es generalizing seen record with
  | nil => exact .close gap_nil
  | cons e es ih =>
    obtain ⟨once, distinct⟩ := List.nodup_cons.1 distinct
    have new' (f) (mem : f ∈ es) : f.1.1 ∉ e.1.1 :: seen := by
      intro old
      rcases List.mem_cons.1 old with same | old
      · exact once (List.mem_map.2 ⟨f, mem, same⟩)
      · exact new f (List.mem_cons_of_mem e mem) old
    have later := ih (e.2 record) (fun f mem => sets f (List.mem_cons_of_mem e mem)) distinct new'
    have spelled := (sets e List.mem_cons_self).spells (.later gap_nil gap_nil)
      (new e List.mem_cons_self) later
    simpa using spelled

/-- A map that is written with known keys, all different and all that are required, is read back. -/
theorem takes_writeMap (es : List ((String × List Char) × (σ → σ)))
    (sets : ∀ e ∈ es, shape.Sets e.1 e.2) (distinct : (es.map fun e => e.1.1).Nodup)
    (complete : ∀ m ∈ shape.members, m.required → m.key ∈ es.map fun e => e.1.1) :
    Takes shape.read (writeMap (es.map Prod.fst))
      (es.foldl (fun record e => e.2 record) shape.initial) := by
  have given : shape.missing? (es.map fun e => e.1.1).reverse = none :=
    missing?_eq_none.2 fun m mem required => List.mem_reverse.2 (complete m mem required)
  cases es with
  | nil => exact takes_read (.close gap_nil) given
  | cons e es =>
    obtain ⟨once, distinct⟩ := List.nodup_cons.1 distinct
    have later := spells_later es (e.2 shape.initial)
      (fun f mem => sets f (List.mem_cons_of_mem e mem)) distinct
      (fun f mem old => once (List.mem_map.2 ⟨f, mem, List.mem_singleton.1 old⟩))
    have spelled := (sets e List.mem_cons_self).spells (.first gap_nil) List.not_mem_nil later
    rw [List.map_cons, writeMap, List.map_cons, commaSeparated_cons]
    refine takes_read ?_ given
    simpa [List.flatMap_map] using spelled

end Shape

/-! ## Sequences that are written -/

/-- A text that can stand at the beginning of an element. -/
def Begins (cs : List Char) : Prop :=
  ∃ c tail, cs = c :: tail ∧ isBlank c = false ∧ c ≠ ',' ∧ c ≠ ']'

theorem nextElement_first {cs : List Char} (begins : Begins cs) (rest : List Char) :
    nextElement true (cs ++ rest) = .ok (true, cs ++ rest) := by
  obtain ⟨c, tail, rfl, dark, comma, bracket⟩ := begins
  rw [List.cons_append, nextElement, bind_of_ok (peekSome_of_dark dark _)]
  split
  · exact absurd rfl bracket
  · exact absurd rfl comma
  · rfl

theorem nextElement_later {cs : List Char} (begins : Begins cs) (rest : List Char) :
    nextElement false (',' :: (cs ++ rest)) = .ok (true, cs ++ rest) := by
  obtain ⟨c, tail, rfl, dark, -, bracket⟩ := begins
  have goes_on : (do
      advance
      if (← peekSome) = ']' then refuse .malformed
      pure true : Reader Bool) (',' :: c :: (tail ++ rest)) = .ok (true, c :: (tail ++ rest)) := by
    rw [bind_of_ok (advance_cons ',' _), bind_of_ok (peekSome_of_dark dark _), if_neg bracket]
    rfl
  rw [List.cons_append, nextElement, bind_of_ok (peekSome_of_dark rfl _)]
  exact goes_on

theorem nextElement_close (first : Bool) (rest : List Char) :
    nextElement first (']' :: rest) = .ok (false, ']' :: rest) := by
  rw [nextElement, bind_of_ok (peekSome_of_dark rfl _)]
  rfl

/-- An element ends where the next one or the closing bracket follows. -/
theorem ends_later (xs : List (List Char × α)) (rest : List Char) :
    Ends ((xs.flatMap fun x => ',' :: x.1) ++ ']' :: rest) := by
  intro c head
  cases xs with
  | nil =>
    cases head
    exact .inr (.inr (.inl rfl))
  | cons x xs =>
    cases head
    exact .inr (.inl rfl)

/-- The elements of a written sequence after its first one. -/
theorem elements_later {item : Reader α} (xs : List (List Char × α))
    (reads : ∀ x ∈ xs, Takes item x.1 x.2 ∧ Begins x.1) {fuel : Nat} (enough : xs.length < fuel)
    (rest : List Char) :
    elements item fuel false ((xs.flatMap fun x => ',' :: x.1) ++ ']' :: rest) =
      .ok (xs.map Prod.snd, ']' :: rest) := by
  induction xs generalizing fuel with
  | nil =>
    obtain _ | fuel := fuel
    · cases enough
    rw [List.flatMap_nil, List.nil_append, elements, bind_of_ok (nextElement_close false rest)]
    rfl
  | cons x xs ih =>
    obtain _ | fuel := fuel
    · cases enough
    obtain ⟨takes, begins⟩ := reads x List.mem_cons_self
    have ends := ends_later xs rest
    have read := ih (fun y mem => reads y (List.mem_cons_of_mem x mem))
      (Nat.lt_of_succ_lt_succ enough)
    rw [List.flatMap_cons, List.append_assoc, List.cons_append, elements,
      bind_of_ok (nextElement_later begins _), if_pos rfl, bind_of_ok (takes _ ends),
      bind_of_ok read]
    rfl

/-- A written sequence is read back, if its elements are. -/
theorem takes_writeSequence {item : Reader α} (xs : List (List Char × α))
    (reads : ∀ x ∈ xs, Takes item x.1 x.2 ∧ Begins x.1) :
    Takes (list item) (writeSequence (xs.map Prod.fst)) (xs.map Prod.snd) := by
  intro rest _
  have read {fuel : Nat} (enough : xs.length < fuel) :
      elements item fuel true (commaSeparated (xs.map Prod.fst) ++ ']' :: rest) =
        .ok (xs.map Prod.snd, ']' :: rest) := by
    obtain _ | fuel := fuel
    · cases enough
    cases xs with
    | nil =>
      rw [List.map_nil, commaSeparated, List.nil_append, elements,
        bind_of_ok (nextElement_close true rest)]
      rfl
    | cons x xs =>
      obtain ⟨takes, begins⟩ := reads x List.mem_cons_self
      have later := elements_later xs (fun y mem => reads y (List.mem_cons_of_mem x mem))
        (Nat.lt_of_succ_lt_succ enough) rest
      rw [List.map_cons, commaSeparated_cons, List.flatMap_map, List.append_assoc, elements,
        bind_of_ok (nextElement_first begins _), if_pos rfl,
        bind_of_ok (takes _ (ends_later xs rest)), bind_of_ok later]
      rfl
  have written : writeSequence (xs.map Prod.fst) ++ rest =
      '[' :: (commaSeparated (xs.map Prod.fst) ++ ']' :: rest) := by
    simp [writeSequence]
  have enough : xs.length < (commaSeparated (xs.map Prod.fst) ++ ']' :: rest).length + 1 := by
    have filled : ∀ y ∈ xs.map Prod.fst, y ≠ [] := by
      intro y among
      obtain ⟨x, mem, rfl⟩ := List.mem_map.1 among
      obtain ⟨c, tail, eq, -⟩ := (reads x mem).2
      exact eq ▸ List.cons_ne_nil c tail
    have least := length_le_commaSeparated filled
    rw [List.length_map] at least
    rw [List.length_append]
    omega
  rw [written, list, bind_of_ok (peekSome_of_dark rfl _), if_pos rfl, bind_of_ok (advance_cons _ _),
    bind_of_ok (get_eq _), bind_of_ok (read enough)]
  have closed : endSequence (']' :: rest) = .ok ((), rest) := by
    rw [endSequence, bind_of_ok (peekSome_of_dark rfl _), if_pos rfl, advance_cons]
  exact bind_of_ok closed

theorem parse_of_takes {value : Reader α} {cs : List Char} {a : α} (takes : Takes value cs a) :
    parse value (String.ofList cs) = .ok a := by
  have whole := takes [] fun c head => by cases head
  rw [List.append_nil] at whole
  rw [parse, String.toList_ofList, whole]
  rfl

end PluginBridge.Json
