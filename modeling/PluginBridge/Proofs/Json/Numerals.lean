import PluginBridge.Json.Writer
import PluginBridge.Proofs.Json.Texts
import PluginBridge.Proofs.Text.Settings

/-!
# How numbers are written

A numeral is a sign, digits without a leading zero, and perhaps a fraction and an exponent
(`Numeral`). It is read up to its end, whether its value is wanted or not (`spelling_append`,
`skipNumber_append`), as long as nothing follows that would go on with it. A whole number that fits a
machine word is written as one, and read back (`takes_natural`).
-/

namespace PluginBridge.Json

variable {α : Type} {cs ds rest : List Char}

/-! ## The grammar -/

/-- One or more digits. -/
structure Digits (ds : List Char) : Prop where
  filled : ds ≠ []
  digit : ∀ d ∈ ds, d.isDigit

/-- The values of digits. -/
def digitValues (ds : List Char) : List Nat := ds.map fun d => d.toNat - '0'.toNat

/-- A point and digits, or nothing. -/
inductive Fraction : List Char → Option (List Nat) → Prop where
  | absent : Fraction [] none
  | present {ds : List Char} (digits : Digits ds) : Fraction ('.' :: ds) (some (digitValues ds))

/-- The sign of an exponent; `true` is a minus. -/
inductive ExponentSign : List Char → Bool → Prop where
  | bare : ExponentSign [] false
  | plus : ExponentSign ['+'] false
  | minus : ExponentSign ['-'] true

/-- A mark, a sign and digits, or nothing. -/
inductive Exponent : List Char → Option (Bool × List Nat) → Prop where
  | absent : Exponent [] none
  | present {mark : Char} {sign ds : List Char} {minus : Bool} (marked : mark = 'e' ∨ mark = 'E')
      (signed : ExponentSign sign minus) (digits : Digits ds) :
      Exponent (mark :: (sign ++ ds)) (some (minus, digitValues ds))

/-- A number and its parts. A leading zero stands alone. -/
inductive Numeral : List Char → Spelling → Prop where
  | parts (negative : Bool) {whole fraction exponent : List Char} {places : Option (List Nat)}
      {scale : Option (Bool × List Nat)} (digits : Digits whole)
      (leading : whole.head? = some '0' → whole = ['0']) (point : Fraction fraction places)
      (power : Exponent exponent scale) :
      Numeral ((if negative then ['-'] else []) ++ (whole ++ (fraction ++ exponent)))
        ⟨negative, digitValues whole, places, scale⟩

/-! ## Reading the parts -/

/-- What follows does not begin with a character of the given kind. -/
def Without (kind : Char → Bool) (rest : List Char) : Prop :=
  ∀ c, rest.head? = some c → kind c = false

theorem without_cons {kind : Char → Bool} {c : Char} (other : kind c = false) (rest : List Char) :
    Without kind (c :: rest) := by
  intro d head
  cases head
  exact other

theorem digits_append (all : ∀ d ∈ ds, d.isDigit) (stop : Without Char.isDigit rest) :
    digits (ds ++ rest) = .ok (digitValues ds, rest) := by
  have taken : rest.takeWhile Char.isDigit = [] ∧ rest.dropWhile Char.isDigit = rest := by
    cases rest with
    | nil => exact ⟨rfl, rfl⟩
    | cons c rest => simp [stop c rfl]
  rw [digits, List.takeWhile_append_of_pos all, List.dropWhile_append_of_pos all, taken.1, taken.2,
    List.append_nil]
  rfl

theorem digitValues_eq_cons (given : Digits ds) : ∃ v vs, digitValues ds = v :: vs := by
  obtain ⟨d, ds, rfl⟩ := List.exists_cons_of_ne_nil given.filled
  exact ⟨_, _, rfl⟩

theorem someDigits_append (given : Digits ds) (stop : Without Char.isDigit rest) :
    someDigits (ds ++ rest) = .ok (digitValues ds, rest) := by
  obtain ⟨v, vs, values⟩ := digitValues_eq_cons given
  rw [someDigits, bind_of_ok (digits_append given.digit stop), values]
  rfl

theorem skipDigits_append (given : Digits ds) (stop : Without Char.isDigit rest) :
    skipDigits (ds ++ rest) = .ok (digitValues ds, rest) := by
  obtain ⟨v, vs, values⟩ := digitValues_eq_cons given
  rw [skipDigits, bind_of_ok (digits_append given.digit stop), values]
  rfl

theorem optionalChar_cons {allowed : List Char} {c : Char} (mem : allowed.contains c)
    (rest : List Char) : optionalChar allowed (c :: rest) = .ok (some c, rest) := by
  rw [optionalChar, if_pos mem]

theorem optionalChar_none {allowed : List Char} (other : Without allowed.contains rest) :
    optionalChar allowed rest = .ok (none, rest) := by
  cases rest with
  | nil => rfl
  | cons c rest =>
    have absent := other c rfl
    rw [optionalChar, if_neg (by rw [absent]; exact Bool.false_ne_true)]

/-! ## Where the parts end -/

theorem Ends.without {kind : Char → Bool} (ends : Ends rest)
    (other : [' ', '\n', '\t', '\r', ',', ']', '\x7d'].any kind = false) :
    Without kind rest := by
  intro c head
  rw [← Bool.not_eq_true]
  apply List.any_eq_false.1 other
  have follows := ends c head
  unfold isBlank at follows
  simp only [Bool.or_eq_true, beq_iff_eq, or_assoc] at follows
  simpa using follows

theorem Exponent.without {kind : Char → Bool} {scale : Option (Bool × List Nat)}
    (power : Exponent cs scale) (other : kind 'e' = false ∧ kind 'E' = false)
    (stop : Without kind rest) : Without kind (cs ++ rest) := by
  cases power with
  | absent => exact stop
  | present marked =>
    apply without_cons
    rcases marked with rfl | rfl
    · exact other.1
    · exact other.2

theorem Fraction.without {kind : Char → Bool} {places : Option (List Nat)}
    (point : Fraction cs places) (other : kind '.' = false) (stop : Without kind rest) :
    Without kind (cs ++ rest) := by
  cases point with
  | absent => exact stop
  | present => exact without_cons other _

theorem ExponentSign.read {sign : List Char} {minus : Bool} (signed : ExponentSign sign minus)
    (digits : Digits ds) (rest : List Char) :
    ∃ mark, optionalChar ['+', '-'] (sign ++ (ds ++ rest)) = .ok (mark, ds ++ rest) ∧
      (mark == some '-') = minus := by
  cases signed with
  | bare =>
    obtain ⟨d, ds, rfl⟩ := List.exists_cons_of_ne_nil digits.filled
    refine ⟨none, optionalChar_none (without_cons ?_ _), rfl⟩
    have digit := digits.digit d List.mem_cons_self
    rw [← Bool.not_eq_true]
    intro mem
    simp only [List.contains_cons, List.contains_nil, Bool.or_false, Bool.or_eq_true,
      beq_iff_eq] at mem
    rcases mem with rfl | rfl
    · cases digit
    · cases digit
  | plus => exact ⟨some '+', optionalChar_cons rfl _, rfl⟩
  | minus => exact ⟨some '-', optionalChar_cons rfl _, rfl⟩

theorem Numeral.sign {negative : Bool} (digits : Digits ds) (rest : List Char) :
    optionalChar ['-'] ((if negative then ['-'] else []) ++ (ds ++ rest)) =
      .ok (if negative then some '-' else none, ds ++ rest) := by
  cases negative with
  | true => exact optionalChar_cons rfl _
  | false =>
    obtain ⟨d, ds, rfl⟩ := List.exists_cons_of_ne_nil digits.filled
    apply optionalChar_none
    apply without_cons
    have digit := digits.digit d List.mem_cons_self
    rw [← Bool.not_eq_true]
    intro mem
    obtain rfl := List.mem_singleton.1 (List.contains_iff_mem.1 mem)
    cases digit

/-- A number that begins with a zero goes on after it. -/
theorem Digits.not_leading (digits : Digits ds) (leading : ds.head? = some '0' → ds = ['0']) :
    ¬ ((digitValues ds).head? = some 0 ∧ 1 < (digitValues ds).length) := by
  rintro ⟨zero, more⟩
  obtain ⟨d, ds, rfl⟩ := List.exists_cons_of_ne_nil digits.filled
  have digit := digits.digit d List.mem_cons_self
  have value : d.toNat - '0'.toNat = 0 := Option.some.inj zero
  have first : d = '0' := by
    have least : '0'.toNat ≤ d.toNat := by
      unfold Char.isDigit at digit
      exact (by simpa [Char.le_def] using digit : '0' ≤ d ∧ d ≤ '9').1
    apply Char.toNat_inj.1
    omega
  rw [first] at leading
  rw [first, leading rfl] at more
  exact absurd more (by decide)

/-- No part of a number goes on into what follows it. -/
theorem boundaries {fraction exponent : List Char} {places : Option (List Nat)}
    {scale : Option (Bool × List Nat)} (point : Fraction fraction places)
    (power : Exponent exponent scale) (ends : Ends rest) :
    Without Char.isDigit (fraction ++ (exponent ++ rest)) ∧
      Without Char.isDigit (exponent ++ rest) ∧ Without ['.'].contains (exponent ++ rest) := by
  have afterPoint : Without Char.isDigit (exponent ++ rest) :=
    power.without ⟨rfl, rfl⟩ (ends.without rfl)
  exact ⟨point.without rfl afterPoint, afterPoint,
    power.without ⟨rfl, rfl⟩ (ends.without rfl)⟩

/-! ## Reading a number -/

theorem Exponent.read {scale : Option (Bool × List Nat)} (power : Exponent cs scale)
    (ends : Ends rest) (f : Option (Bool × List Nat) → Reader α) :
    (do
      match ← optionalChar ['e', 'E'] with
      | some _ => do
        let sign ← optionalChar ['+', '-']
        let scale ← pure (some (sign == some '-', ← someDigits))
        f scale
      | none => do
        let scale ← pure none
        f scale : Reader α) (cs ++ rest) = f scale rest := by
  cases power with
  | absent =>
    rw [List.nil_append, bind_of_ok (optionalChar_none (ends.without rfl))]
    rfl
  | @present mark sign ds minus marked signed digits =>
    have marks : ['e', 'E'].contains mark := by
      rcases marked with rfl | rfl <;> rfl
    obtain ⟨found, read, value⟩ := signed.read digits rest
    rw [List.cons_append, List.append_assoc, bind_of_ok (optionalChar_cons marks _)]
    dsimp only
    rw [bind_of_ok read, bind_of_ok (someDigits_append digits (ends.without rfl)), value]
    rfl

theorem Exponent.skip {scale : Option (Bool × List Nat)} (power : Exponent cs scale)
    (ends : Ends rest) :
    (do
      if (← optionalChar ['e', 'E']).isSome then
        let _ ← optionalChar ['+', '-']
        let _ ← skipDigits : Reader Unit) (cs ++ rest) = .ok ((), rest) := by
  cases power with
  | absent =>
    rw [List.nil_append, bind_of_ok (optionalChar_none (ends.without rfl))]
    rfl
  | @present mark sign ds minus marked signed digits =>
    have marks : ['e', 'E'].contains mark := by
      rcases marked with rfl | rfl <;> rfl
    obtain ⟨found, read, -⟩ := signed.read digits rest
    rw [List.cons_append, List.append_assoc, bind_of_ok (optionalChar_cons marks _),
      if_pos Option.isSome_some, bind_of_ok read,
      bind_of_ok (skipDigits_append digits (ends.without rfl))]
    rfl

/-- A numeral is read up to its end, into its parts. -/
theorem spelling_append {parts : Spelling} (numeral : Numeral cs parts) (ends : Ends rest) :
    spelling (cs ++ rest) = .ok (parts, rest) := by
  cases numeral with
  | @parts negative whole fraction exponent places scale digits leading point power =>
    obtain ⟨afterWhole, afterPoint, noSecondPoint⟩ := boundaries point power ends
    simp only [List.append_assoc]
    rw [spelling, bind_of_ok (Numeral.sign digits _)]
    dsimp only
    rw [bind_of_ok (someDigits_append digits afterWhole), if_neg (digits.not_leading leading)]
    -- The exponent is read in the same way, be there a fraction or not.
    cases point with
    | absent =>
      rw [List.nil_append, bind_of_ok (optionalChar_none noSecondPoint)]
      refine (power.read ends _).trans ?_
      cases negative <;> rfl
    | present places =>
      rw [List.cons_append, bind_of_ok (optionalChar_cons rfl _)]
      dsimp only
      rw [bind_of_ok (someDigits_append places afterPoint)]
      refine (power.read ends _).trans ?_
      cases negative <;> rfl

/-- A numeral is stepped over up to its end. -/
theorem skipNumber_append {parts : Spelling} (numeral : Numeral cs parts) (ends : Ends rest) :
    skipNumber (cs ++ rest) = .ok ((), rest) := by
  cases numeral with
  | @parts negative whole fraction exponent places scale digits leading point power =>
    obtain ⟨afterWhole, afterPoint, noSecondPoint⟩ := boundaries point power ends
    simp only [List.append_assoc]
    rw [skipNumber, bind_of_ok (Numeral.sign digits _),
      bind_of_ok (skipDigits_append digits afterWhole), if_neg (digits.not_leading leading)]
    dsimp only
    cases point with
    | absent =>
      rw [List.nil_append, bind_of_ok (optionalChar_none noSecondPoint)]
      exact power.skip ends
    | present places =>
      rw [List.cons_append, bind_of_ok (optionalChar_cons rfl _), if_pos Option.isSome_some,
        bind_of_ok (skipDigits_append places afterPoint)]
      exact power.skip ends

/-! ## Whole numbers -/

theorem accumulate_eq {limit : Nat} (cs : List Char) (value taken : Nat)
    (small : Nat.ofDigitChars 10 cs value < limit) :
    accumulate limit value taken (digitValues cs) =
      (Nat.ofDigitChars 10 cs value, taken + cs.length, []) := by
  induction cs generalizing value taken with
  | nil => rfl
  | cons c cs ih =>
    rw [Nat.ofDigitChars_cons, Nat.mul_comm] at small
    have least := Text.le_ofDigitChars cs (value * 10 + (c.toNat - '0'.toNat))
    show accumulate limit value taken ((c.toNat - '0'.toNat) :: digitValues cs) = _
    rw [accumulate, if_pos (by omega), ih _ _ small, Nat.ofDigitChars_cons, Nat.mul_comm 10 value,
      List.length_cons, Nat.add_assoc, Nat.add_comm 1]

theorem eq_zero_of_head_toDigits {n : Nat} (zero : (Nat.toDigits 10 n).head? = some '0') :
    n = 0 := by
  induction n using Nat.strongRecOn with
  | ind n ih =>
    rcases Nat.lt_or_ge n 10 with small | large
    · have all : ∀ n < 10, n.digitChar = '0' → n = 0 := by decide
      rw [Nat.toDigits_of_lt_base small] at zero
      exact all n small (Option.some.inj zero)
    · -- The first digit is that of a tenth.
      obtain ⟨d, ds, digits⟩ := List.exists_cons_of_ne_nil
        (Nat.toDigits_ne_nil : Nat.toDigits 10 (n / 10) ≠ [])
      rw [Nat.toDigits_of_base_le (by decide) large, digits] at zero
      have tenth := ih (n / 10) (by omega) (digits ▸ zero)
      omega

theorem writeNatural_eq (n : Nat) : writeNatural n = Nat.toDigits 10 n := by
  rw [writeNatural, Nat.toString_eq_ofList_toDigits, String.toList_ofList]

/-- A whole number is written as a numeral. -/
theorem numeral_writeNatural (n : Nat) :
    Numeral (writeNatural n) ⟨false, digitValues (writeNatural n), none, none⟩ := by
  have digits : Digits (writeNatural n) := by
    rw [writeNatural_eq]
    exact ⟨Nat.toDigits_ne_nil, fun d mem => Nat.isDigit_of_mem_toDigits (by decide) (by decide) mem⟩
  have leading : (writeNatural n).head? = some '0' → writeNatural n = ['0'] := by
    rw [writeNatural_eq]
    intro zero
    rw [eq_zero_of_head_toDigits zero]
    rfl
  have numeral := Numeral.parts false digits leading .absent .absent
  rwa [List.append_nil, List.append_nil] at numeral

/-- A numeral begins with a character that begins a number. -/
theorem Numeral.begins {parts : Spelling} (numeral : Numeral cs parts) :
    ∃ c tail, cs = c :: tail ∧ startsNumber c := by
  cases numeral with
  | parts negative digits =>
    cases negative with
    | true => exact ⟨'-', _, rfl, rfl⟩
    | false =>
      obtain ⟨d, ds, rfl⟩ := List.exists_cons_of_ne_nil digits.filled
      exact ⟨d, _, rfl, by simp [startsNumber, digits.digit d List.mem_cons_self]⟩

theorem ne_of_startsNumber {c d : Char} (starts : startsNumber c) (other : startsNumber d = false) :
    c ≠ d := by
  rintro rfl
  rw [other] at starts
  cases starts

theorem dark_of_startsNumber {c : Char} (starts : startsNumber c) : isBlank c = false := by
  have space := ne_of_startsNumber starts (d := ' ') rfl
  have feed := ne_of_startsNumber starts (d := '\n') rfl
  have tab := ne_of_startsNumber starts (d := '\t') rfl
  have back := ne_of_startsNumber starts (d := '\r') rfl
  simp [isBlank, space, feed, tab, back]

theorem number_append {parts : Spelling} {n : Number} (numeral : Numeral cs parts)
    (value : parts.number? = some n) (ends : Ends rest) : number (cs ++ rest) = .ok (n, rest) := by
  rw [number, bind_of_ok (spelling_append numeral ends), value]
  rfl

/-- A whole number that fits a machine word is read back. -/
theorem takes_natural (expected : String) {n : Nat} (fits : n < UInt64.size) :
    Takes (natural expected) (writeNatural n) n := by
  intro rest ends
  have numeral := numeral_writeNatural n
  have total : Nat.ofDigitChars 10 (writeNatural n) 0 = n := by
    rw [writeNatural_eq]
    exact Nat.ofDigitChars_toDigits (by decide) (by decide)
  have value : Spelling.number? ⟨false, digitValues (writeNatural n), none, none⟩ =
      some (.natural n) := by
    rw [Spelling.number?, accumulate_eq _ 0 0 (by rwa [total]), total]
    rfl
  obtain ⟨c, tail, split, starts⟩ := numeral.begins
  have begun : peekSome (writeNatural n ++ rest) = .ok (c, writeNatural n ++ rest) := by
    rw [split]
    exact peekSome_of_dark (dark_of_startsNumber starts) _
  rw [natural, bind_of_ok begun, if_pos starts, bind_of_ok (number_append numeral value ends)]
  rfl

end PluginBridge.Json
