import PluginBridge.Json.Writer
import PluginBridge.Json.Reader

/-!
# Values that are read off the front of a text

A reader takes a value off the front of a text and leaves what follows (`Takes`). What follows must
not go on with the value: a number would not know where to end. Texts, truth values and single
characters end by themselves.

A written text is read back whatever its characters are. Each of them is read in one step of the
reader, be it written as it is, with a letter or with its number (`textStep_escapeChar`).
-/

namespace PluginBridge.Json

variable {α β : Type} {cs cs' rest gap : List Char} {c : Char} {a : α}

/-! ## Readers one after the other -/

theorem bind_of_ok {r : Reader α} {f : α → Reader β} (took : r cs = .ok (a, cs')) :
    (r >>= f) cs = f a cs' := by
  show (r cs >>= fun p => f p.1 p.2) = f a cs'
  rw [took]
  rfl

theorem exists_of_bind {r : Reader α} {f : α → Reader β} {b : β × List Char}
    (read : (r >>= f) cs = .ok b) : ∃ a cs', r cs = .ok (a, cs') ∧ f a cs' = .ok b := by
  cases took : r cs with
  | ok p => exact ⟨p.1, p.2, rfl, by rwa [bind_of_ok took] at read⟩
  | error fault =>
    have failed : (r >>= f) cs = .error fault := by
      show (r cs >>= fun p => f p.1 p.2) = _
      rw [took]
      rfl
    rw [failed] at read
    cases read

theorem bind_congr_at {r : Reader α} (f : α → Reader β) (same : r cs = r cs') :
    (r >>= f) cs = (r >>= f) cs' := by
  show (r cs >>= fun p => f p.1 p.2) = _
  rw [same]
  rfl

/-- What may follow a value: nothing, a blank, a comma or a closing bracket. -/
def Ends (rest : List Char) : Prop :=
  ∀ c, rest.head? = some c → isBlank c ∨ c = ',' ∨ c = ']' ∨ c = '\x7d'

/-- A reader takes a text for a value, and leaves what follows. -/
def Takes (r : Reader α) (cs : List Char) (a : α) : Prop :=
  ∀ rest, Ends rest → r (cs ++ rest) = .ok (a, rest)

/-- What is done with a value after it was taken does not change what is taken. -/
theorem Takes.andThen {r : Reader α} (takes : Takes r cs a) (f : α → β) :
    Takes (r >>= fun a => pure (f a)) cs (f a) := fun rest ends => bind_of_ok (takes rest ends)

/-- A text of blanks. -/
def Gap (gap : List Char) : Prop := ∀ c ∈ gap, isBlank c

theorem gap_nil : Gap [] := fun _ mem => absurd mem List.not_mem_nil

theorem ends_cons (closing : c = ',' ∨ c = ']' ∨ c = '\x7d') (rest : List Char) :
    Ends (c :: rest) := by
  intro d head
  cases head
  exact .inr closing

/-- Blanks may stand between a value and what ends it. -/
theorem Ends.after_gap (blank : Gap gap) (ends : Ends rest) : Ends (gap ++ rest) := by
  cases gap with
  | nil => exact ends
  | cons b gap =>
    intro d head
    cases head
    exact .inl (blank b List.mem_cons_self)

/-- Blanks in front are passed over. -/
theorem peek_gap (blank : Gap gap) (cs : List Char) : peek (gap ++ cs) = peek cs := by
  rw [peek, List.dropWhile_append_of_pos blank]
  rfl

theorem peekSome_gap (blank : Gap gap) (cs : List Char) : peekSome (gap ++ cs) = peekSome cs :=
  bind_congr_at _ (peek_gap blank cs)

theorem peekSome_of_gap (blank : Gap gap) (dark : isBlank c = false) (rest : List Char) :
    peekSome (gap ++ c :: rest) = .ok (c, c :: rest) := by
  have dropped : (gap ++ c :: rest).dropWhile isBlank = c :: rest := by
    rw [List.dropWhile_append_of_pos blank, List.dropWhile_cons_of_neg (by simp [dark])]
  have peeked : peek (gap ++ c :: rest) = .ok (some c, c :: rest) := by
    rw [peek, dropped, List.head?_cons]
  rw [peekSome, bind_of_ok peeked]
  rfl

theorem peekSome_of_dark (dark : isBlank c = false) (rest : List Char) :
    peekSome (c :: rest) = .ok (c, c :: rest) :=
  peekSome_of_gap gap_nil dark rest

theorem advance_cons (c : Char) (rest : List Char) : advance (c :: rest) = .ok ((), rest) := rfl

/-- A word is read off letter by letter. -/
theorem word_append (ws rest : List Char) : word ws (ws ++ rest) = .ok ((), rest) := by
  induction ws with
  | nil => rfl
  | cons w ws ih =>
    rw [List.cons_append, word]
    dsimp only
    rw [if_pos rfl]
    exact ih

theorem colon_of_gap (blank : Gap gap) (rest : List Char) :
    colon (gap ++ ':' :: rest) = .ok ((), rest) := by
  rw [colon, bind_of_ok (peekSome_of_gap blank rfl rest), if_pos rfl, advance_cons]

/-! ## Texts -/

theorem hexDigit?_hexDigit {n : Nat} (small : n < 16) :
    hexDigit? (Text.hexDigit n) = some n := by
  have all : ∀ n < 16, hexDigit? (Text.hexDigit n) = some n := by decide
  exact all n small

theorem hexUnit?_control (control : c.toNat < 0x20) :
    hexUnit? '0' '0' (Text.hexDigit (c.toNat / 16)) (Text.hexDigit (c.toNat % 16)) =
      some c.toNat := by
  have high := hexDigit?_hexDigit (show c.toNat / 16 < 16 by omega)
  have low := hexDigit?_hexDigit (show c.toNat % 16 < 16 by omega)
  have value : c.toNat / 16 * 16 + c.toNat % 16 = c.toNat := by omega
  have zero : hexDigit? '0' = some 0 := rfl
  simp [hexUnit?, high, low, zero, value]

theorem textStep_controlEscape (control : c.toNat < 0x20) (rest : List Char) :
    textStep (controlEscape c ++ rest) = .char c rest := by
  have step : textStep (controlEscape c ++ rest) = escapeStep ('u' :: '0' :: '0' ::
      Text.hexDigit (c.toNat / 16) :: Text.hexDigit (c.toNat % 16) :: rest) := rfl
  rw [step, escapeStep, hexUnit?_control control]
  dsimp only
  rw [if_neg (by omega), if_neg (by omega), Char.ofNat_toNat]

/-- A written character is read in one step. -/
theorem textStep_escapeChar (c : Char) (rest : List Char) :
    textStep (escapeChar c ++ rest) = .char c rest := by
  unfold escapeChar
  split
  -- The characters that are written with a letter.
  iterate 7 rfl
  · next plainQuote plainSlash _ _ _ _ _ =>
    split
    · next control => exact textStep_controlEscape control rest
    · next printed =>
      rw [List.singleton_append, textStep, if_neg printed]
      · exact plainQuote
      · exact plainSlash

/-- No character is written with a control. -/
theorem printed_of_mem_escapeChar {d : Char} (mem : d ∈ escapeChar c) : 0x20 ≤ d.toNat := by
  have digit : ∀ n < 16, 0x20 ≤ (Text.hexDigit n).toNat := by decide
  unfold escapeChar at mem
  split at mem
  iterate 7
    simp only [List.mem_cons, List.not_mem_nil, or_false] at mem
    rcases mem with rfl | rfl
    · decide
    · decide
  split at mem
  · next control =>
    simp only [controlEscape, List.mem_cons, List.not_mem_nil, or_false] at mem
    rcases mem with rfl | rfl | rfl | rfl | rfl | rfl
    iterate 4 decide
    · exact digit _ (by omega)
    · exact digit _ (by omega)
  · next printed =>
    rw [List.mem_singleton.1 mem]
    exact Nat.le_of_not_lt printed

theorem escapeChar_ne_nil (c : Char) : escapeChar c ≠ [] := by
  unfold escapeChar
  split
  iterate 7 exact List.cons_ne_nil _ _
  split
  · exact List.cons_ne_nil _ _
  · exact List.cons_ne_nil _ _

theorem length_le_escaped (cs : List Char) : cs.length ≤ (cs.flatMap escapeChar).length := by
  induction cs with
  | nil => exact Nat.le_refl 0
  | cons c cs ih =>
    have pos := List.length_pos_iff.2 (escapeChar_ne_nil c)
    rw [List.flatMap_cons, List.length_append, List.length_cons]
    omega

/-- A written text is read back up to its closing quote. -/
theorem textTail_of_escaped (cs rest : List Char) {fuel : Nat} (enough : cs.length < fuel) :
    textTail fuel (cs.flatMap escapeChar ++ '"' :: rest) = .ok (cs, rest) := by
  induction cs generalizing fuel with
  | nil =>
    obtain _ | fuel := fuel
    · cases enough
    · rfl
  | cons c cs ih =>
    obtain _ | fuel := fuel
    · cases enough
    · rw [List.flatMap_cons, List.append_assoc, textTail, textStep_escapeChar]
      dsimp only
      rw [ih (Nat.lt_of_succ_lt_succ enough)]
      rfl

/-- A text is written so that it is read back, whatever follows. -/
theorem quotedText_writeText (s : String) (rest : List Char) :
    quotedText (writeText s ++ rest) = .ok (s, rest) := by
  have written : (writeText s ++ rest).drop 1 = s.toList.flatMap escapeChar ++ '"' :: rest := by
    simp [writeText]
  have enough : s.toList.length < (s.toList.flatMap escapeChar ++ '"' :: rest).length + 1 := by
    have least := length_le_escaped s.toList
    rw [List.length_append]
    omega
  rw [quotedText]
  dsimp only
  rw [written, textTail_of_escaped _ _ enough]
  simp [Except.map]

/-- A written text begins with a quote. -/
theorem writeText_append (s : String) (rest : List Char) :
    writeText s ++ rest = '"' :: (writeText s ++ rest).drop 1 := by
  simp [writeText]

theorem peekSome_writeText (s : String) (rest : List Char) :
    peekSome (writeText s ++ rest) = .ok ('"', writeText s ++ rest) := by
  rw [writeText_append]
  exact peekSome_of_dark rfl _

theorem takes_text (expected s : String) : Takes (text expected) (writeText s) s := by
  intro rest _
  rw [text, bind_of_ok (peekSome_writeText s rest), if_pos rfl]
  exact quotedText_writeText s rest

theorem takes_bool (b : Bool) : Takes bool (writeBool b) b := by
  intro rest _
  cases b with
  | true =>
    have begun : peekSome (writeBool true ++ rest) = .ok ('t', writeBool true ++ rest) :=
      peekSome_of_dark rfl _
    rw [bool, bind_of_ok begun]
    exact bind_of_ok (word_append ['t', 'r', 'u', 'e'] rest)
  | false =>
    have begun : peekSome (writeBool false ++ rest) = .ok ('f', writeBool false ++ rest) :=
      peekSome_of_dark rfl _
    rw [bool, bind_of_ok begun]
    exact bind_of_ok (word_append ['f', 'a', 'l', 's', 'e'] rest)

/-! ## Documents without controls -/

/-- A text without controls. -/
def Printed (cs : List Char) : Prop := ∀ c ∈ cs, 0x20 ≤ c.toNat

theorem printed_nil : Printed [] := fun _ mem => absurd mem List.not_mem_nil

theorem Printed.append (first : Printed cs) (later : Printed cs') : Printed (cs ++ cs') :=
  fun c mem => (List.mem_append.1 mem).elim (first c) (later c)

theorem Printed.cons (printed : 0x20 ≤ c.toNat) (later : Printed cs) : Printed (c :: cs) := by
  intro d mem
  rcases List.mem_cons.1 mem with rfl | mem
  · exact printed
  · exact later d mem

theorem printed_writeText (s : String) : Printed (writeText s) := by
  refine Printed.append (Printed.cons (by decide) fun c mem => ?_)
    (.cons (by decide) printed_nil)
  obtain ⟨d, -, mem⟩ := List.mem_flatMap.1 mem
  exact printed_of_mem_escapeChar mem

theorem printed_writeBool (b : Bool) : Printed (writeBool b) := by
  have letters {cs : List Char} (high : cs.all (0x20 ≤ ·.toNat) = true) : Printed cs := by
    intro c mem
    exact of_decide_eq_true (List.all_eq_true.1 high c mem)
  cases b with
  | false => exact letters rfl
  | true => exact letters rfl

theorem printed_commaSeparated {items : List (List Char)} (printed : ∀ x ∈ items, Printed x) :
    Printed (commaSeparated items) := by
  induction items with
  | nil => exact printed_nil
  | cons x items ih =>
    have first := printed x List.mem_cons_self
    have later := ih fun y mem => printed y (List.mem_cons_of_mem x mem)
    cases items with
    | nil => exact first
    | cons y items => exact first.append (later.cons (by decide))

theorem printed_writeSequence {items : List (List Char)} (printed : ∀ x ∈ items, Printed x) :
    Printed (writeSequence items) :=
  Printed.append (.cons (by decide) (printed_commaSeparated printed))
    (.cons (by decide) printed_nil)

theorem printed_writeMap {entries : List (String × List Char)}
    (printed : ∀ e ∈ entries, Printed e.2) : Printed (writeMap entries) := by
  refine Printed.append (.cons (by decide) (printed_commaSeparated fun x among => ?_))
    (.cons (by decide) printed_nil)
  obtain ⟨e, mem, rfl⟩ := List.mem_map.1 among
  exact (printed_writeText e.1).append (.cons (by decide) (printed e mem))

end PluginBridge.Json
