import PluginBridge.Text.Blank
import PluginBridge.Text.Count
import Mathlib.Data.List.TakeWhile

/-!
# What the text of a setting says

A text says what stands between the white space at its ends (`Trimmed`, `trim_eq_iff`). As a count
it is an optional plus sign and digits, any number of leading zeros among them, whose value fits a
machine word (`readCount_eq_ok_iff`); the reader judges digit by digit, and a value that has grown
out of range never comes back into it.
-/

namespace PluginBridge.Text

/-! ## White space at the ends -/

/-- A text is a core with white space on both sides, and the core has none at its ends. -/
structure Trimmed (s : String) (core : List Char) : Prop where
  surrounded : ∃ before after, s.toList = before ++ (core ++ after) ∧
    (∀ c ∈ before, isBlank c) ∧ ∀ c ∈ after, isBlank c
  first : ∀ c, core.head? = some c → isBlank c = false
  last : ∀ c, core.getLast? = some c → isBlank c = false

theorem dropWhile_append_of_dark {p : Char → Bool} {gap core : List Char}
    (blank : ∀ c ∈ gap, p c) (dark : ∀ c, core.head? = some c → p c = false) :
    (gap ++ core).dropWhile p = core := by
  rw [List.dropWhile_append_of_pos blank]
  cases core with
  | nil => rfl
  | cons c core => rw [List.dropWhile_cons_of_neg (by simp [dark c rfl])]

theorem head?_dropWhile_dark {p : Char → Bool} (cs : List Char) {c : Char}
    (head : (cs.dropWhile p).head? = some c) : p c = false := by
  have dark := List.head?_dropWhile_not p cs
  rw [head] at dark
  simpa using dark

/-- What trimming leaves is the core. -/
theorem trim_eq_iff {s : String} {core : List Char} : (trim s).toList = core ↔ Trimmed s core := by
  unfold trim trimLeft trimRight
  rw [String.toList_ofList]
  constructor
  · rintro rfl
    let middle := s.toList.dropWhile isBlank
    have left : s.toList = s.toList.takeWhile isBlank ++ middle :=
      (List.takeWhile_append_dropWhile).symm
    have right : middle = (middle.reverse.dropWhile isBlank).reverse ++
        (middle.reverse.takeWhile isBlank).reverse := by
      rw [← List.reverse_append, List.takeWhile_append_dropWhile, List.reverse_reverse]
    constructor
    · refine ⟨_, _, left.trans (congrArg (s.toList.takeWhile isBlank ++ ·) right), ?_, ?_⟩
      · intro c mem
        exact List.mem_takeWhile_imp mem
      · intro c mem
        exact List.mem_takeWhile_imp (List.mem_reverse.1 mem)
    · -- What is dropped at the end does not change the first character.
      intro c head
      apply head?_dropWhile_dark s.toList
      show middle.head? = some c
      rw [right, List.head?_append, head]
      rfl
    · intro c last
      rw [List.getLast?_reverse] at last
      exact head?_dropWhile_dark _ last
  · rintro ⟨⟨before, after, split, blank, blank'⟩, first, last⟩
    cases core with
    | nil =>
      have all : ∀ c ∈ before ++ after, isBlank c := by
        intro c mem
        exact (List.mem_append.1 mem).elim (blank c) (blank' c)
      rw [split, List.nil_append, List.dropWhile_eq_nil_iff.2 all]
      rfl
    | cons c core =>
      have dark : ∀ d, (c :: core ++ after).head? = some d → isBlank d = false := by
        intro d head
        exact first d head
      rw [split, dropWhile_append_of_dark blank dark, List.reverse_append,
        dropWhile_append_of_dark (by simpa using blank') ?_, List.reverse_reverse]
      intro d head
      apply last d
      rwa [← List.head?_reverse]

/-! ## Counts -/

/-- An optional plus sign and one or more digits. -/
structure Counts (core : List Char) (n : Nat) : Prop where
  spelled : ∃ sign digits, core = sign ++ digits ∧ (sign = [] ∨ sign = ['+']) ∧ digits ≠ [] ∧
    (∀ d ∈ digits, d.isDigit) ∧ Nat.ofDigitChars 10 digits 0 = n

theorem digit?_eq (c : Char) : digit? c = if c.isDigit then some (c.toNat - '0'.toNat) else none := by
  have same : ('0' ≤ c ∧ c ≤ '9') ↔ c.isDigit := by
    unfold Char.isDigit
    simp [Char.le_def]
  unfold digit?
  by_cases digit : c.isDigit
  · rw [if_pos (same.2 digit), if_pos digit]
  · rw [if_neg (fun h => digit (same.1 h)), if_neg digit]

/-- More digits make no smaller number. -/
theorem le_ofDigitChars (cs : List Char) (value : Nat) : value ≤ Nat.ofDigitChars 10 cs value := by
  induction cs generalizing value with
  | nil => exact Nat.le_of_eq Nat.ofDigitChars_nil.symm
  | cons c cs ih =>
    rw [Nat.ofDigitChars_cons]
    have later := ih (10 * value + (c.toNat - '0'.toNat))
    omega

/-- Digits are read if they are digits and their value fits. -/
theorem readDigits_eq_ok_iff {cs : List Char} {value n : Nat} (fits : value < UInt64.size) :
    readDigits value cs = .ok n ↔
      (∀ d ∈ cs, d.isDigit) ∧ Nat.ofDigitChars 10 cs value = n ∧ n < UInt64.size := by
  induction cs generalizing value with
  | nil =>
    rw [readDigits, Nat.ofDigitChars_nil]
    constructor
    · rintro ⟨⟩
      exact ⟨by simp, rfl, fits⟩
    · rintro ⟨-, rfl, -⟩
      rfl
  | cons c cs ih =>
    rw [readDigits, digit?_eq, Nat.ofDigitChars_cons, Nat.mul_comm 10 value, List.forall_mem_cons]
    by_cases digit : c.isDigit
    · rw [if_pos digit]
      dsimp only
      by_cases small : value * 10 + (c.toNat - '0'.toNat) < UInt64.size
      · rw [if_pos small, ih small]
        simp [digit]
      · rw [if_neg small]
        constructor
        · intro read
          cases read
        · -- The value is out of range already, and grows with each digit.
          rintro ⟨-, rfl, bound⟩
          have grows := le_ofDigitChars cs (value * 10 + (c.toNat - '0'.toNat))
          omega
    · rw [if_neg digit]
      constructor
      · intro read
        cases read
      · rintro ⟨⟨bad, -⟩, -⟩
        exact absurd bad digit

/-- A text is read as a count if and only if it is one that fits a machine word. -/
theorem readCount_eq_ok_iff {s : String} {n : Nat} :
    readCount s = .ok n ↔ Counts s.toList n ∧ n < UInt64.size := by
  have zero : 0 < UInt64.size := by decide
  have plus : ('+' : Char).isDigit = false := rfl
  unfold readCount
  split
  · next empty =>
    constructor
    · intro read
      cases read
    · rintro ⟨⟨sign, digits, split, -, some, -⟩, -⟩
      rw [empty] at split
      exact absurd (List.append_eq_nil_iff.1 split.symm).2 some
  · next lone =>
    constructor
    · intro read
      cases read
    · rintro ⟨⟨sign, digits, split, rfl | rfl, some, all, -⟩, -⟩
      · rw [lone, List.nil_append] at split
        have bad := all '+' (by simp [← split])
        rw [plus] at bad
        cases bad
      · rw [lone] at split
        exact absurd (List.cons.inj split).2.symm some
  · next cs more signed =>
    have some : cs ≠ [] := by
      intro none
      exact more none
    rw [readDigits_eq_ok_iff zero, signed]
    constructor
    · rintro ⟨all, value, bound⟩
      exact ⟨⟨['+'], cs, rfl, .inr rfl, some, all, value⟩, bound⟩
    · rintro ⟨⟨sign, digits, split, rfl | rfl, -, all, value⟩, bound⟩
      · rw [List.nil_append] at split
        have bad := all '+' (by simp [← split])
        rw [plus] at bad
        cases bad
      · obtain rfl := (List.cons.inj split).2
        exact ⟨all, value, bound⟩
  · next some _ unsigned =>
    rw [readDigits_eq_ok_iff zero]
    constructor
    · rintro ⟨all, value, bound⟩
      exact ⟨⟨[], s.toList, rfl, .inl rfl, some, all, value⟩, bound⟩
    · rintro ⟨⟨sign, digits, split, rfl | rfl, -, all, value⟩, bound⟩
      · rw [List.nil_append] at split
        rw [split]
        exact ⟨all, value, bound⟩
      · exact absurd split (unsigned digits)

end PluginBridge.Text
