import PluginBridge.Proofs.Json.Records
import PluginBridge.Proofs.Text.Utf8

/-!
# How texts are written

Between its quotes a text has characters as they are, escapes by a letter and escapes by number,
two numbers for one character where they are a surrogate pair (`Written`, `Quotation`). However it is
written, it is read (`quotes_of_quotation`).

A reader that does not want the text asks less of it and steps over any number (`Closes`). A reader
that wants it either refuses it or ends where the other one does (`quotedText_whole`).
-/

namespace PluginBridge.Json

variable {cs src rest : List Char}

/-! ## Characters and what stands for them -/

/-- What stands for a character. -/
inductive Written : List Char → Char → Prop where
  | plain {c : Char} (printed : 0x20 ≤ c.toNat) (quote : c ≠ '"') (slash : c ≠ '\\') :
      Written [c] c
  | letter {l c : Char} (known : simpleEscape? l = some c) : Written ['\\', l] c
  | unit {d₁ d₂ d₃ d₄ c : Char} (hex : hexUnit? d₁ d₂ d₃ d₄ = some c.toNat) :
      Written ['\\', 'u', d₁, d₂, d₃, d₄] c
  | pair {d₁ d₂ d₃ d₄ e₁ e₂ e₃ e₄ c : Char} {high low : Nat}
      (hex : hexUnit? d₁ d₂ d₃ d₄ = some high) (hex' : hexUnit? e₁ e₂ e₃ e₄ = some low)
      (first : 0xD800 ≤ high ∧ high ≤ 0xDBFF) (second : 0xDC00 ≤ low ∧ low ≤ 0xDFFF)
      (value : c.toNat = 0x10000 + (high - 0xD800) * 0x400 + (low - 0xDC00)) :
      Written ['\\', 'u', d₁, d₂, d₃, d₄, '\\', 'u', e₁, e₂, e₃, e₄] c

/-- What stands for the characters of a text. -/
inductive Stands : List Char → List Char → Prop where
  | nil : Stands [] []
  | cons {written src cs : List Char} {c : Char} (first : Written written c)
      (later : Stands src cs) : Stands (written ++ src) (c :: cs)

/-- A text between its quotes. -/
inductive Quotation : List Char → String → Prop where
  | quoted {src : List Char} {s : String} (stands : Stands src s.toList) :
      Quotation ('"' :: (src ++ ['"'])) s

theorem textStep_plain {c : Char} (printed : 0x20 ≤ c.toNat) (quote : c ≠ '"') (slash : c ≠ '\\')
    (rest : List Char) : textStep (c :: rest) = .char c rest := by
  rw [textStep, if_neg (by omega)]
  · exact quote
  · exact slash

theorem escapeStep_letter {l : Char} (other : l ≠ 'u') (rest : List Char) :
    escapeStep (l :: rest) =
      match simpleEscape? l with
      | some e => .char e rest
      | none => .fault .malformed := by
  unfold escapeStep
  split
  · next none => cases none
  · next same =>
    cases same
    exact absurd rfl other
  · next same =>
    cases same
    exact absurd rfl other
  · next same =>
    cases same
    rfl

theorem ne_u_of_simpleEscape {l c : Char} (known : simpleEscape? l = some c) : l ≠ 'u' := by
  rintro rfl
  cases known

/-- Whatever stands for a character is read in one step. -/
theorem Written.step {written : List Char} {c : Char} (stands : Written written c)
    (rest : List Char) : textStep (written ++ rest) = .char c rest := by
  cases stands with
  | plain printed quote slash => exact textStep_plain printed quote slash rest
  | letter known =>
    rw [List.cons_append, List.singleton_append, textStep, escapeStep_letter (ne_u_of_simpleEscape known), known]
  | unit hex =>
    have valid := Text.Utf8.toNat_valid c
    simp only [List.cons_append, List.nil_append]
    rw [textStep, escapeStep, hex]
    dsimp only
    rw [if_neg (by omega), if_neg (by omega), Char.ofNat_toNat]
  | pair hex hex' first second value =>
    simp only [List.cons_append, List.nil_append]
    rw [textStep, escapeStep, hex]
    dsimp only
    rw [if_pos first, pairEnd, hex']
    dsimp only
    rw [if_pos second]
    dsimp only
    rw [joinSurrogates, ← value, Char.ofNat_toNat]

theorem Written.length_pos {written : List Char} {c : Char} (stands : Written written c) :
    0 < written.length := by
  cases stands <;> exact Nat.succ_pos _

/-- What stands for the characters of a text is read up to the closing quote. -/
theorem Stands.read (stands : Stands src cs) (rest : List Char) {fuel : Nat}
    (enough : src.length < fuel) : textTail fuel (src ++ '"' :: rest) = .ok (cs, rest) := by
  induction stands generalizing fuel with
  | nil =>
    obtain _ | fuel := fuel
    · cases enough
    · rfl
  | cons first later ih =>
    obtain _ | fuel := fuel
    · cases enough
    · have pos := first.length_pos
      rw [List.length_append] at enough
      rw [List.append_assoc, textTail, first.step]
      dsimp only
      rw [ih (by omega)]
      rfl

/-- A text is read however it is written. -/
theorem quotes_of_quotation {quoted : List Char} {s : String} (quotation : Quotation quoted s) :
    Quotes quoted s := by
  obtain ⟨stands⟩ := quotation
  refine ⟨rfl, ?_⟩
  intro rest
  rw [List.cons_append, List.append_assoc, List.singleton_append, quotedText]
  dsimp only
  rw [List.drop_one, List.tail_cons, stands.read rest (by rw [List.length_append]; omega)]
  show Except.ok (String.ofList s.toList, rest) = _
  rw [String.ofList_toList]

theorem takes_quotation {quoted : List Char} {s : String} (quotation : Quotation quoted s)
    (expected : String) : Takes (text expected) quoted s := by
  have quotes := quotes_of_quotation quotation
  intro rest ends
  rw [text, bind_of_ok (quotes.peekSome rest), if_pos rfl]
  exact quotes.read rest

/-! ## Texts as they are written -/

theorem written_escapeChar (c : Char) : Written (escapeChar c) c := by
  unfold escapeChar
  split
  -- The characters that are written with a letter.
  iterate 7 exact .letter rfl
  · next quote slash _ _ _ _ _ =>
    split
    · next control => exact .unit (hexUnit?_control control)
    · next printed => exact .plain (Nat.le_of_not_lt printed) quote slash

theorem stands_escaped (cs : List Char) : Stands (cs.flatMap escapeChar) cs := by
  induction cs with
  | nil => exact .nil
  | cons c cs ih => exact .cons (written_escapeChar c) ih

theorem quotation_writeText (s : String) : Quotation (writeText s) s :=
  .quoted (stands_escaped s.toList)

/-! ## Texts that nobody asked for -/

/-- The rest of a text up to its closing quote. Its escapes may stand for anything. -/
inductive Closes : List Char → Prop where
  | close : Closes ['"']
  | plain {c : Char} {cs : List Char} (printed : 0x20 ≤ c.toNat) (quote : c ≠ '"')
      (slash : c ≠ '\\') (later : Closes cs) : Closes (c :: cs)
  | letter {l c : Char} {cs : List Char} (known : simpleEscape? l = some c) (later : Closes cs) :
      Closes ('\\' :: l :: cs)
  | unit {d₁ d₂ d₃ d₄ : Char} {n : Nat} {cs : List Char} (hex : hexUnit? d₁ d₂ d₃ d₄ = some n)
      (later : Closes cs) : Closes ('\\' :: 'u' :: d₁ :: d₂ :: d₃ :: d₄ :: cs)

theorem Written.closes {written : List Char} {c : Char} (stands : Written written c)
    (later : Closes cs) : Closes (written ++ cs) := by
  cases stands with
  | plain printed quote slash => exact .plain printed quote slash later
  | letter known => exact .letter known later
  | unit hex => exact .unit hex later
  | pair hex hex' => exact .unit hex (.unit hex' later)

theorem Stands.closes (stands : Stands src cs) : Closes (src ++ ['"']) := by
  induction stands with
  | nil => exact .close
  | cons first later ih =>
    rw [List.append_assoc]
    exact first.closes ih

theorem skipEscape_letter {l c : Char} (known : simpleEscape? l = some c) (rest : List Char) :
    skipEscape (l :: rest) = .ok rest := by
  have other := ne_u_of_simpleEscape known
  unfold skipEscape
  split
  · next none => cases none
  · next same =>
    cases same
    exact absurd rfl other
  · next same =>
    cases same
    exact absurd rfl other
  · next same =>
    cases same
    rw [known]
    rfl

/-- A text is stepped over up to its closing quote. -/
theorem Closes.skip (closes : Closes cs) (rest : List Char) {fuel : Nat}
    (enough : cs.length ≤ fuel) : skipTextTail fuel (cs ++ rest) = .ok rest := by
  induction closes generalizing fuel with
  | close =>
    obtain _ | fuel := fuel
    · cases enough
    · rfl
  | plain printed quote slash later ih =>
    obtain _ | fuel := fuel
    · cases enough
    · rw [List.cons_append, skipTextTail, if_neg (by omega)]
      · exact ih (Nat.le_of_succ_le_succ enough)
      · exact quote
      · exact slash
  | letter known later ih =>
    obtain _ | fuel := fuel
    · cases enough
    · rw [List.cons_append, List.cons_append, skipTextTail, skipEscape_letter known]
      dsimp only
      simp only [List.length_cons] at enough
      exact ih (by omega)
  | unit hex later ih =>
    obtain _ | fuel := fuel
    · cases enough
    · simp only [List.cons_append, List.length_cons] at enough ⊢
      rw [skipTextTail, skipEscape, hex]
      dsimp only
      exact ih (by omega)

/-- A step that stays inside a text, or leaves it at its closing quote. -/
inductive Inside (rest : List Char) : TextStep → Prop where
  | close : Inside rest (.close rest)
  | char (c : Char) {cs : List Char} (later : Closes cs) : Inside rest (.char c (cs ++ rest))
  | fault (f : Fault) : Inside rest (.fault f)

theorem Closes.pairEnd (closes : Closes cs) (rest : List Char) :
    (∃ f, pairEnd (cs ++ rest) = .fault f) ∨
      ∃ low cs', pairEnd (cs ++ rest) = .low low (cs' ++ rest) ∧ Closes cs' := by
  cases closes with
  | close => exact .inl ⟨_, rfl⟩
  | plain printed quote slash later =>
    refine .inl ⟨.malformed, ?_⟩
    -- Only a backslash begins the second half.
    rw [List.cons_append, Json.pairEnd] <;> simp [slash]
  | letter known later =>
    refine .inl ⟨.malformed, ?_⟩
    have other := ne_u_of_simpleEscape known
    rw [List.cons_append, List.cons_append, Json.pairEnd] <;> simp [other]
  | @unit _ _ _ _ low cs hex later =>
    simp only [List.cons_append]
    rw [Json.pairEnd, hex]
    dsimp only
    split
    · exact .inr ⟨low, cs, rfl, later⟩
    · exact .inl ⟨_, rfl⟩

theorem Closes.step (closes : Closes cs) (rest : List Char) :
    Inside rest (textStep (cs ++ rest)) := by
  cases closes with
  | close => exact .close
  | plain printed quote slash later =>
    rw [List.cons_append, textStep_plain printed quote slash]
    exact .char _ later
  | letter known later =>
    rw [List.cons_append, List.cons_append, textStep,
      escapeStep_letter (ne_u_of_simpleEscape known), known]
    exact .char _ later
  | unit hex later =>
    simp only [List.cons_append]
    rw [textStep, escapeStep, hex]
    dsimp only
    split
    · obtain ⟨f, refused⟩ | ⟨low, cs', read, later'⟩ := later.pairEnd rest
      · rw [refused]
        exact .fault f
      · rw [read]
        exact .char _ later'
    · split
      · exact .fault _
      · exact .char _ later

/-- A reader of the text ends at its closing quote, if it does not refuse the text. -/
theorem textTail_whole (closes : Closes cs) {fuel : Nat} {ts rest' : List Char}
    (read : textTail fuel (cs ++ rest) = .ok (ts, rest')) : rest' = rest := by
  induction fuel generalizing cs ts with
  | zero => cases read
  | succ fuel ih =>
    rw [textTail] at read
    have inside := closes.step rest
    generalize textStep (cs ++ rest) = step at inside read
    cases inside with
    | close =>
      cases read
      rfl
    | char c later =>
      dsimp only at read
      cases tail : textTail fuel (_ ++ rest) with
      | error f =>
        rw [tail] at read
        cases read
      | ok p =>
        rw [tail] at read
        cases read
        exact ih later tail
    | fault f => cases read

theorem quotedText_whole (closes : Closes cs) {s : String} {rest' : List Char}
    (read : quotedText ('"' :: (cs ++ rest)) = .ok (s, rest')) : rest' = rest := by
  rw [quotedText] at read
  dsimp only at read
  rw [List.drop_one, List.tail_cons] at read
  cases tail : textTail ((cs ++ rest).length + 1) (cs ++ rest) with
  | error f =>
    rw [tail] at read
    cases read
  | ok p =>
    rw [tail] at read
    cases read
    exact textTail_whole closes tail

end PluginBridge.Json
