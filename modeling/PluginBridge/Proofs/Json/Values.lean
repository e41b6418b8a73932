import PluginBridge.Proofs.Json.Numerals
import PluginBridge.Proofs.Json.Quotations

/-!
# Values of any kind

`WellFormed` is the grammar of a value, nested as deep as it may be, with blanks wherever they are
allowed. Such a value is skipped whole (`WellFormed.skipPart`). A reader that wants a value of one kind
passes over the blanks in front and, if it accepts a value, ends where the value ends (`Tidy`).
-/

namespace PluginBridge.Json

variable {α β : Type} {cs rest gap opening : List Char} {first : Bool}

/-! ## The grammar -/

/-- What the grammar speaks of: a value, or what follows an opening bracket or an element up to the
closing bracket. -/
inductive Part where
  | value
  | elements (first : Bool)
  | entries (first : Bool)

/-- The grammar of values. -/
inductive WellFormed : Part → List Char → Prop where
  | wordNull : WellFormed .value ['n', 'u', 'l', 'l']
  | wordTrue : WellFormed .value ['t', 'r', 'u', 'e']
  | wordFalse : WellFormed .value ['f', 'a', 'l', 's', 'e']
  | number {cs : List Char} {parts : Spelling} (numeral : Numeral cs parts) : WellFormed .value cs
  | text {cs : List Char} (closes : Closes cs) : WellFormed .value ('"' :: cs)
  | sequence {cs : List Char} (elements : WellFormed (.elements true) cs) :
      WellFormed .value ('[' :: cs)
  | map {cs : List Char} (entries : WellFormed (.entries true) cs) :
      WellFormed .value ('\x7b' :: cs)
  | endSequence {first : Bool} {gap : List Char} (blank : Gap gap) :
      WellFormed (.elements first) (gap ++ [']'])
  | element {first : Bool} {opening value cs : List Char} (opens : Opening first opening)
      (inner : WellFormed .value value) (later : WellFormed (.elements false) cs) :
      WellFormed (.elements first) (opening ++ (value ++ cs))
  | endMap {first : Bool} {gap : List Char} (blank : Gap gap) :
      WellFormed (.entries first) (gap ++ ['\x7d'])
  | entry {first : Bool} {opening key gap gap' value cs : List Char} (opens : Opening first opening)
      (closes : Closes key) (blank : Gap gap) (blank' : Gap gap')
      (inner : WellFormed .value value) (later : WellFormed (.entries false) cs) :
      WellFormed (.entries first)
        (opening ++ ('"' :: (key ++ (gap ++ ':' :: (gap' ++ (value ++ cs))))))

theorem wellFormed_writeBool (b : Bool) : WellFormed .value (writeBool b) := by
  cases b with
  | true => exact .wordTrue
  | false => exact .wordFalse

theorem wellFormed_writeNatural (n : Nat) : WellFormed .value (writeNatural n) :=
  .number (numeral_writeNatural n)

theorem wellFormed_writeText (s : String) : WellFormed .value (writeText s) :=
  .text (stands_escaped s.toList).closes

theorem WellFormed.ends_elements (later : WellFormed (.elements false) cs) (rest : List Char) :
    Ends (cs ++ rest) := by
  cases later with
  | endSequence blank =>
    rw [List.append_assoc]
    exact (ends_cons (.inr (.inl rfl)) rest).after_gap blank
  | element opens =>
    rw [List.append_assoc]
    exact ends_of_opening opens _

theorem WellFormed.ends_entries (later : WellFormed (.entries false) cs) (rest : List Char) :
    Ends (cs ++ rest) := by
  cases later with
  | endMap blank =>
    rw [List.append_assoc]
    exact (ends_cons (.inr (.inr rfl)) rest).after_gap blank
  | entry opens =>
    rw [List.append_assoc]
    exact ends_of_opening opens _

/-- A value does not begin with a blank, a comma or a closing bracket. -/
theorem WellFormed.begins (value : WellFormed .value cs) : Begins cs := by
  cases value with
  | wordNull => exact ⟨'n', _, rfl, rfl, by decide, by decide⟩
  | wordTrue => exact ⟨'t', _, rfl, rfl, by decide, by decide⟩
  | wordFalse => exact ⟨'f', _, rfl, rfl, by decide, by decide⟩
  | number numeral =>
    obtain ⟨c, tail, split, starts⟩ := numeral.begins
    exact ⟨c, tail, split, dark_of_startsNumber starts, ne_of_startsNumber starts rfl,
      ne_of_startsNumber starts rfl⟩
  | text => exact ⟨'"', _, rfl, rfl, by decide, by decide⟩
  | sequence => exact ⟨'[', _, rfl, rfl, by decide, by decide⟩
  | map => exact ⟨'\x7b', _, rfl, rfl, by decide, by decide⟩

theorem WellFormed.length_pos {part : Part} (wellFormed : WellFormed part cs) : 0 < cs.length := by
  have value {cs : List Char} (inner : WellFormed .value cs) : 0 < cs.length := by
    obtain ⟨c, tail, rfl, -⟩ := inner.begins
    exact Nat.succ_pos _
  cases wellFormed with
  | number numeral => exact value (.number numeral)
  | wordNull | wordTrue | wordFalse | text | sequence | map => exact Nat.succ_pos _
  | endSequence | endMap =>
    rw [List.length_append]
    exact Nat.succ_pos _
  | element opens inner =>
    have filled := value inner
    rw [List.length_append, List.length_append]
    omega
  | entry =>
    rw [List.length_append, List.length_cons]
    omega

/-! ## Values that are skipped -/

theorem skipValue_gap (fuel : Nat) (blank : Gap gap) (cs : List Char) :
    skipValue fuel (gap ++ cs) = skipValue fuel cs := by
  cases fuel with
  | zero => rfl
  | succ fuel =>
    rw [skipValue]
    exact bind_congr_at _ (peekSome_gap blank cs)

theorem skipElements_of_opening {value : List Char} (opens : Opening first opening)
    (begins : Begins value) (fuel : Nat) (rest : List Char) :
    skipElements (fuel + 1) first (opening ++ (value ++ rest)) =
      (do skipValue fuel; skipElements fuel false : Reader Unit) (value ++ rest) := by
  obtain ⟨c, tail, rfl, dark, comma, bracket⟩ := begins
  cases opens with
  | first blank =>
    rw [List.cons_append, skipElements, bind_of_ok (peekSome_of_gap blank dark _), if_neg bracket]
    rfl
  | later blank blank' =>
    rw [List.append_assoc, List.cons_append, skipElements,
      bind_of_ok (peekSome_of_gap blank rfl _), if_neg (by decide)]
    dsimp only
    rw [if_pos (by decide), if_pos rfl, bind_of_ok (advance_cons ',' _)]
    exact bind_congr_at _ (skipValue_gap fuel blank' _)

theorem skipEntries_of_opening (opens : Opening first opening) (fuel : Nat) (rest : List Char) :
    skipEntries (fuel + 1) first (opening ++ '"' :: rest) =
      (do skipText; colon; skipValue fuel; skipEntries fuel false : Reader Unit) ('"' :: rest) := by
  cases opens with
  | first blank =>
    rw [skipEntries, bind_of_ok (peekSome_of_gap blank rfl _), if_neg (by decide)]
    dsimp only
    rw [if_neg (by decide), bind_of_ok (peekSome_of_dark rfl _), if_pos rfl]
  | later blank blank' =>
    rw [List.append_assoc, List.cons_append, skipEntries, bind_of_ok (peekSome_of_gap blank rfl _),
      if_neg (by decide)]
    dsimp only
    rw [if_pos (by decide), if_pos rfl, bind_of_ok (advance_cons ',' _)]
    rw [bind_of_ok (peekSome_of_gap blank' rfl _), if_pos rfl]

theorem skipText_append (closes : Closes cs) (rest : List Char) :
    skipText ('"' :: (cs ++ rest)) = .ok ((), rest) := by
  have enough : cs.length ≤ (cs ++ rest).length + 1 := by
    rw [List.length_append]
    omega
  have skipped := closes.skip rest enough
  rw [skipText, List.drop_one, List.tail_cons, skipped]
  rfl

/-! The first character of a value says how it is stepped over. -/

theorem skipValue_null (fuel : Nat) (rest : List Char) :
    skipValue (fuel + 1) (['n', 'u', 'l', 'l'] ++ rest) = .ok ((), rest) := by
  rw [skipValue, List.cons_append, bind_of_ok (peekSome_of_dark rfl _), if_pos rfl]
  exact word_append ['n', 'u', 'l', 'l'] rest

theorem skipValue_true (fuel : Nat) (rest : List Char) :
    skipValue (fuel + 1) (['t', 'r', 'u', 'e'] ++ rest) = .ok ((), rest) := by
  rw [skipValue, List.cons_append, bind_of_ok (peekSome_of_dark rfl _)]
  exact word_append ['t', 'r', 'u', 'e'] rest

theorem skipValue_false (fuel : Nat) (rest : List Char) :
    skipValue (fuel + 1) (['f', 'a', 'l', 's', 'e'] ++ rest) = .ok ((), rest) := by
  rw [skipValue, List.cons_append, bind_of_ok (peekSome_of_dark rfl _)]
  exact word_append ['f', 'a', 'l', 's', 'e'] rest

theorem skipValue_number {c : Char} (starts : startsNumber c) (fuel : Nat) (cs : List Char) :
    skipValue (fuel + 1) (c :: cs) = skipNumber (c :: cs) := by
  rw [skipValue, bind_of_ok (peekSome_of_dark (dark_of_startsNumber starts) _),
    if_neg (ne_of_startsNumber starts rfl), if_neg (ne_of_startsNumber starts rfl),
    if_neg (ne_of_startsNumber starts rfl), if_pos starts]

theorem skipValue_text (fuel : Nat) (cs : List Char) :
    skipValue (fuel + 1) ('"' :: cs) = skipText ('"' :: cs) := by
  rw [skipValue, bind_of_ok (peekSome_of_dark rfl _)]
  rfl

theorem skipValue_sequence (fuel : Nat) (cs : List Char) :
    skipValue (fuel + 1) ('[' :: cs) = skipElements fuel true cs := by
  rw [skipValue, bind_of_ok (peekSome_of_dark rfl _)]
  exact bind_of_ok (advance_cons '[' cs)

theorem skipValue_map (fuel : Nat) (cs : List Char) :
    skipValue (fuel + 1) ('\x7b' :: cs) = skipEntries fuel true cs := by
  rw [skipValue, bind_of_ok (peekSome_of_dark rfl _)]
  exact bind_of_ok (advance_cons '\x7b' cs)

/-- The reader that steps over a part. -/
def skipPart : Part → Nat → Reader Unit
  | .value => skipValue
  | .elements first => (skipElements · first)
  | .entries first => (skipEntries · first)

/-- Every part is stepped over up to its end. A nested part is shorter than the one that holds it, so
the length is enough for the depth. -/
theorem WellFormed.skipPart {part : Part} (wellFormed : WellFormed part cs) {fuel : Nat}
    (enough : cs.length ≤ fuel + 1) (ends : Ends rest) :
    skipPart part (fuel + 1) (cs ++ rest) = .ok ((), rest) := by
  induction wellFormed generalizing fuel rest with
  | wordNull => exact skipValue_null fuel rest
  | wordTrue => exact skipValue_true fuel rest
  | wordFalse => exact skipValue_false fuel rest
  | number numeral =>
    obtain ⟨c, tail, rfl, starts⟩ := numeral.begins
    exact (skipValue_number starts fuel _).trans (skipNumber_append numeral ends)
  | text closes => exact (skipValue_text fuel _).trans (skipText_append closes rest)
  | sequence elements ih =>
    have pos := elements.length_pos
    obtain _ | fuel := fuel
    · simp only [List.length_cons] at enough
      omega
    · exact (skipValue_sequence _ _).trans (ih (Nat.le_of_succ_le_succ enough) ends)
  | map entries ih =>
    have pos := entries.length_pos
    obtain _ | fuel := fuel
    · simp only [List.length_cons] at enough
      omega
    · exact (skipValue_map _ _).trans (ih (Nat.le_of_succ_le_succ enough) ends)
  | @endSequence first gap blank =>
    show skipElements (fuel + 1) first _ = _
    rw [List.append_assoc, List.singleton_append, skipElements,
      bind_of_ok (peekSome_of_gap blank rfl rest), if_pos rfl, advance_cons]
  | @element first opening value cs opens inner later ih ih' =>
    have room := inner.length_pos
    have room' := later.length_pos
    rw [List.length_append, List.length_append] at enough
    obtain _ | fuel := fuel
    · omega
    have valueSkipped : skipValue (fuel + 1) (value ++ (cs ++ rest)) = .ok ((), cs ++ rest) :=
      ih (by omega) (later.ends_elements rest)
    show skipElements (fuel + 2) first _ = _
    rw [List.append_assoc, List.append_assoc, skipElements_of_opening opens inner.begins,
      bind_of_ok valueSkipped]
    exact ih' (by omega) ends
  | @endMap first gap blank =>
    show skipEntries (fuel + 1) first _ = _
    rw [List.append_assoc, List.singleton_append, skipEntries,
      bind_of_ok (peekSome_of_gap blank rfl rest), if_pos rfl, advance_cons]
  | @entry first opening key gap gap' value cs opens closes blank blank' inner later ih ih' =>
    simp only [List.length_append, List.length_cons] at enough
    obtain _ | fuel := fuel
    · omega
    have valueSkipped :
        skipValue (fuel + 1) (gap' ++ (value ++ (cs ++ rest))) = .ok ((), cs ++ rest) := by
      rw [skipValue_gap _ blank']
      exact ih (by omega) (later.ends_entries rest)
    show skipEntries (fuel + 2) first _ = _
    simp only [List.append_assoc, List.cons_append]
    rw [skipEntries_of_opening opens, bind_of_ok (skipText_append closes _),
      bind_of_ok (colon_of_gap blank _), bind_of_ok valueSkipped]
    exact ih' (by omega) ends

/-- A value is skipped with the blanks before it. -/
theorem takes_skip (blank : Gap gap) (value : WellFormed .value cs) :
    Takes skip (gap ++ cs) () := by
  intro rest ends
  have enough : cs.length ≤ 2 * (gap ++ cs ++ rest).length + 1 + 1 := by
    simp only [List.length_append]
    omega
  rw [skip, List.append_assoc, skipValue_gap _ blank, ← List.append_assoc]
  exact value.skipPart enough ends

/-! ## Readers of one kind of value -/

/-- A reader passes over the blanks before a value, and if it accepts a value it ends where the value
ends. -/
structure Tidy (r : Reader α) : Prop where
  gap : ∀ {gap : List Char}, Gap gap → ∀ cs, r (gap ++ cs) = r cs
  whole : ∀ {value rest rest' : List Char} {a : α}, WellFormed .value value → Ends rest →
    r (value ++ rest) = .ok (a, rest') → rest' = rest

theorem Tidy.takes {r : Reader α} {a : α} (tidy : Tidy r) (blank : Gap gap) (takes : Takes r cs a) :
    Takes r (gap ++ cs) a := by
  intro rest ends
  rw [List.append_assoc, tidy.gap blank]
  exact takes rest ends

theorem Tidy.andThen {r : Reader α} (tidy : Tidy r) (f : α → β) :
    Tidy (r >>= fun a => pure (f a)) := by
  constructor
  · intro gap blank cs
    exact bind_congr_at _ (tidy.gap blank cs)
  · intro value rest rest' b wellFormed ends read
    obtain ⟨a, cs', took, done⟩ := exists_of_bind read
    cases done
    exact tidy.whole wellFormed ends took

/-- A reader that accepts nothing. -/
def Fails (r : Reader α) : Prop := ∀ cs p, r cs ≠ .ok p

theorem Fails.after {f : α → Reader β} (fails : ∀ a, Fails (f a)) (r : Reader α) :
    Fails (r >>= f) := by
  intro cs p read
  obtain ⟨a, cs', -, done⟩ := exists_of_bind read
  exact fails a cs' p done

/-- A value of another kind is never accepted. -/
theorem fails_unexpected (c : Char) (expected : String) :
    Fails (unexpected c expected : Reader α) := by
  have last (r : Reader Found) :
      Fails (r >>= fun found => (mismatch (.wrongType found expected) : Reader α)) := by
    apply Fails.after
    intro found cs p read
    cases read
  unfold unexpected
  dsimp only
  -- Five kinds of values are read before they are refused, the other two at their bracket.
  iterate 5
    split
    · exact .after (fun _ => last _) _
  iterate 2
    split
    · exact last _
  exact last _

/-! ## The kinds -/

/-- A reader that looks at the first character of a value. -/
theorem tidy_of_first {f : Char → Reader α}
    (whole : ∀ {c tail rest rest' a}, WellFormed .value (c :: tail) → Ends rest →
      f c (c :: (tail ++ rest)) = .ok (a, rest') → rest' = rest) : Tidy (peekSome >>= f) := by
  constructor
  · intro gap blank cs
    exact bind_congr_at _ (peekSome_gap blank cs)
  · intro value rest rest' a wellFormed ends read
    obtain ⟨c, tail, rfl, dark, -⟩ := wellFormed.begins
    rw [List.cons_append, bind_of_ok (peekSome_of_dark dark _)] at read
    exact whole wellFormed ends read

theorem not_numeral {c : Char} (letter : startsNumber c = false) (tail : List Char)
    {parts : Spelling} : ¬ Numeral (c :: tail) parts := by
  intro numeral
  obtain ⟨d, tail', split, starts⟩ := numeral.begins
  cases split
  rw [letter] at starts
  cases starts

theorem word_whole {ws : List Char} {u : Unit} {rest' : List Char}
    (read : word ws (ws ++ rest) = .ok (u, rest')) : rest' = rest := by
  rw [word_append] at read
  cases read
  rfl

theorem tidy_bool : Tidy bool := by
  apply tidy_of_first
  intro c tail rest rest' a wellFormed ends read
  split at read
  · obtain ⟨_, cs', spelled, done⟩ := exists_of_bind read
    cases done
    cases wellFormed with
    | wordTrue => exact word_whole spelled
    | number numeral => exact absurd numeral (not_numeral rfl tail)
  · obtain ⟨_, cs', spelled, done⟩ := exists_of_bind read
    cases done
    cases wellFormed with
    | wordFalse => exact word_whole spelled
    | number numeral => exact absurd numeral (not_numeral rfl tail)
  · exact absurd read (fails_unexpected _ _ _ _)

theorem tidy_text (expected : String) : Tidy (text expected) := by
  apply tidy_of_first
  intro c tail rest rest' a wellFormed ends read
  split at read
  · next quote =>
    subst quote
    cases wellFormed with
    | text closes => exact quotedText_whole closes read
    | number numeral => exact absurd numeral (not_numeral rfl tail)
  · exact absurd read (fails_unexpected _ _ _ _)

theorem number_whole {parts : Spelling} (numeral : Numeral cs parts) (ends : Ends rest) {n : Number}
    {rest' : List Char} (read : number (cs ++ rest) = .ok (n, rest')) : rest' = rest := by
  rw [number, bind_of_ok (spelling_append numeral ends)] at read
  cases value : parts.number? with
  | some m =>
    rw [value] at read
    cases read
    rfl
  | none =>
    rw [value] at read
    cases read

theorem tidy_natural (expected : String) : Tidy (natural expected) := by
  apply tidy_of_first
  intro c tail rest rest' a wellFormed ends read
  split at read
  · next starts =>
    obtain ⟨n, cs', spelled, done⟩ := exists_of_bind read
    have left : cs' = rest := by
      cases wellFormed with
      | number numeral => exact number_whole numeral ends spelled
      | wordNull | wordTrue | wordFalse | text | sequence | map => cases starts
    rw [← left]
    split at done
    · cases done
      rfl
    · cases done
    · cases done
  · exact absurd read (fails_unexpected _ _ _ _)

theorem nullable_null (r : Reader α) (rest : List Char) :
    nullable r ('n' :: rest) =
      (do word ['n', 'u', 'l', 'l']; pure none : Reader (Option α)) ('n' :: rest) := rfl

theorem nullable_of_dark {r : Reader α} {c : Char} (dark : isBlank c = false) (other : c ≠ 'n')
    (rest : List Char) :
    nullable r (c :: rest) = (do pure (some (← r)) : Reader (Option α)) (c :: rest) := by
  have peeked : peek (c :: rest) = .ok (some c, c :: rest) := by
    rw [peek, List.dropWhile_cons_of_neg (by simp [dark]), List.head?_cons]
  rw [nullable, bind_of_ok peeked]
  apply congrFun
  split
  · next letter => exact absurd (Option.some.inj letter) other
  · rfl

/-- No value but `null` begins with its first letter. -/
theorem tidy_nullable {r : Reader α} (tidy : Tidy r) : Tidy (nullable r) := by
  constructor
  · intro gap blank cs
    exact bind_congr_at _ (peek_gap blank cs)
  · intro value rest rest' a wellFormed ends read
    obtain ⟨c, tail, rfl, dark, -⟩ := wellFormed.begins
    rw [List.cons_append] at read
    by_cases letter : c = 'n'
    · subst letter
      rw [nullable_null] at read
      obtain ⟨_, cs', spelled, done⟩ := exists_of_bind read
      cases done
      cases wellFormed with
      | wordNull => exact word_whole spelled
      | number numeral => exact absurd numeral (not_numeral rfl tail)
    · rw [nullable_of_dark dark letter] at read
      obtain ⟨b, cs', spelled, done⟩ := exists_of_bind read
      cases done
      exact tidy.whole wellFormed ends spelled

theorem takes_nullable_null (r : Reader α) : Takes (nullable r) ['n', 'u', 'l', 'l'] none := by
  intro rest ends
  have read : (do word ['n', 'u', 'l', 'l']; pure none : Reader (Option α))
      (['n', 'u', 'l', 'l'] ++ rest) = .ok (none, rest) := bind_of_ok (word_append _ rest)
  exact (nullable_null r _).trans read

theorem takes_nullable_natural (expected : String) {n : Nat} (fits : n < UInt64.size) :
    Takes (nullable (natural expected)) (writeNatural n) (some n) := by
  intro rest ends
  have read := takes_natural expected fits rest ends
  obtain ⟨c, tail, split, starts⟩ := (numeral_writeNatural n).begins
  rw [split, List.cons_append] at read ⊢
  rw [nullable_of_dark (dark_of_startsNumber starts) (ne_of_startsNumber starts rfl)]
  exact bind_of_ok read

end PluginBridge.Json
