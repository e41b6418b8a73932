import PluginBridge.Config.Environment
import PluginBridge.Proofs.Text.Settings
import PluginBridge.Proofs.Text.Utf8
import Mathlib.Algebra.Group.Nat.Defs
import Mathlib.Data.List.Forall2

/-!
# Which variables change the configuration

A variable is unset, or it holds bytes; only bytes that are UTF-8 say something. One variable
switches the engine off by one of three words in any mixture of capitals, the other sets the
concurrency by a count, and nothing else that they hold has an effect (`environment_grammar`).
-/

namespace PluginBridge.Config

open Text

/-- The text of a variable; an unset one and one that is not UTF-8 have none. -/
def variableText (value : Option (List UInt8)) : Option String :=
  value.bind fun bytes => (Utf8.decode bytes).toOption

theorem toOption_eq_some_iff {ε α : Type} {x : Except ε α} {a : α} :
    x.toOption = some a ↔ x = .ok a := by
  cases x <;> simp [Except.toOption]

theorem variableText_eq_some_iff {value : Option (List UInt8)} {s : String} :
    variableText value = some s ↔ value = some (Utf8.encode s) := by
  cases value with
  | none => simp [variableText]
  | some bytes =>
    show (Utf8.decode bytes).toOption = some s ↔ _
    rw [toOption_eq_some_iff, Utf8.decode_eq_ok, Option.some_inj, eq_comm]

/-! ## Words in capitals and small letters -/

/-- The character is the other one, or its capital if that is a small ASCII letter. -/
def CaseOf (c d : Char) : Prop := c = d ∨ d.isLower ∧ c.toNat + 32 = d.toNat

/-- The characters are those of the word, some of its small letters as capitals. -/
def Spelled (core : List Char) (word : String) : Prop := List.Forall₂ CaseOf core word.toList

theorem toNat_toLower (c : Char) :
    c.toLower.toNat = if c.isUpper then c.toNat + 32 else c.toNat := by
  unfold Char.toLower Char.isUpper
  simp only [decide_eq_true_eq]
  split
  · next capital =>
    have upper : c.toNat ≤ 90 := capital.2
    have sum : (c.val + 32).toNat = (c.toNat + 32) % 2 ^ 32 := UInt32.toNat_add c.val 32
    rw [Nat.mod_eq_of_lt (by omega)] at sum
    exact sum
  · rfl

theorem toLower_eq_iff {c d : Char} (small : d.isUpper = false) : c.toLower = d ↔ CaseOf c d := by
  have upper (e : Char) : e.isUpper ↔ 65 ≤ e.toNat ∧ e.toNat ≤ 90 := by
    unfold Char.isUpper
    rw [decide_eq_true_eq]
    rfl
  have lower : d.isLower ↔ 97 ≤ d.toNat ∧ d.toNat ≤ 122 := by
    unfold Char.isLower
    rw [Bool.and_eq_true, decide_eq_true_eq, decide_eq_true_eq]
    rfl
  have capital : ¬ (65 ≤ d.toNat ∧ d.toNat ≤ 90) := by
    rw [← upper, small]
    decide
  unfold CaseOf
  rw [← Char.toNat_inj, ← Char.toNat_inj, toNat_toLower, lower]
  split
  · next h =>
    have range := (upper c).1 h
    omega
  · next h =>
    have range : ¬ (65 ≤ c.toNat ∧ c.toNat ≤ 90) := fun r => h ((upper c).2 r)
    omega

/-- Lowering gives a word without capitals if and only if the word is spelled. -/
theorem map_toLower_eq_iff {core word : List Char} (small : ∀ d ∈ word, d.isUpper = false) :
    core.map Char.toLower = word ↔ List.Forall₂ CaseOf core word := by
  induction word generalizing core with
  | nil => simp
  | cons d word ih =>
    cases core with
    | nil => simp
    | cons c core =>
      rw [List.map_cons, List.cons.injEq, List.forall₂_cons, toLower_eq_iff (small d (by simp)),
        ih fun d mem => small d (by simp [mem])]

/-- A value switches the engine off by one of three words between white space. -/
theorem switchesOff_iff {s : String} :
    switchesOff s ↔ ∃ core, Trimmed s core ∧ ∃ word ∈ ["0", "false", "off"], Spelled core word := by
  have small : ∀ word ∈ ["0", "false", "off"], ∀ d ∈ word.toList, d.isUpper = false := by
    have none : ["0", "false", "off"].any (·.toList.any Char.isUpper) = false := by
      decide
    intro word mem d among
    have absent := List.any_eq_false.1 none word mem
    rw [Bool.not_eq_true] at absent
    exact Bool.eq_false_iff.2 (List.any_eq_false.1 absent d among)
  have spelled : ∀ word ∈ ["0", "false", "off"],
      asciiLower (trim s) = word ↔ Spelled (trim s).toList word := by
    intro word mem
    unfold asciiLower Spelled
    rw [← map_toLower_eq_iff (small word mem), ← String.toList_inj, String.toList_ofList]
  unfold switchesOff
  rw [List.contains_iff_mem]
  constructor
  · intro mem
    refine ⟨(trim s).toList, trim_eq_iff.1 rfl, asciiLower (trim s), mem, ?_⟩
    exact (spelled _ mem).1 rfl
  · rintro ⟨core, trimmed, word, mem, spelt⟩
    obtain rfl := trim_eq_iff.2 trimmed
    rwa [(spelled word mem).2 spelt]

/-- A value sets the concurrency to a count that fits a machine word. -/
theorem concurrencyOf_eq_ok_iff {s : String} {n : UInt64} :
    concurrencyOf s = .ok n ↔ ∃ core, Trimmed s core ∧ Counts core n.toNat := by
  have read : concurrencyOf s = .ok n ↔ readCount (trim s) = .ok n.toNat := by
    unfold concurrencyOf
    cases count : readCount (trim s) with
    | error f => simp [Except.map]
    | ok m =>
      have bound := (readCount_eq_ok_iff.1 count).2
      show Except.ok (UInt64.ofNat m) = Except.ok n ↔ Except.ok m = Except.ok n.toNat
      rw [Except.ok.injEq, Except.ok.injEq, ← UInt64.toNat_inj, UInt64.toNat_ofNat',
        Nat.mod_eq_of_lt bound]
  rw [read, readCount_eq_ok_iff]
  constructor
  · rintro ⟨counts, -⟩
    exact ⟨_, trim_eq_iff.1 rfl, counts⟩
  · rintro ⟨core, trimmed, counts⟩
    obtain rfl := trim_eq_iff.2 trimmed
    exact ⟨counts, n.toNat_lt⟩

/-! ## The two variables -/

/-- The configuration that the two variables give. -/
def ofVariables (switch concurrency : Option (List UInt8)) : Config :=
  ofEnvironment (variableText switch) (variableText concurrency)

theorem enabled_ofVariables (switch concurrency : Option (List UInt8)) :
    (ofVariables switch concurrency).enabled = false ↔
      ∃ s core, switch = some (Utf8.encode s) ∧ Trimmed s core ∧
        ∃ word ∈ ["0", "false", "off"], Spelled core word := by
  show (!(variableText switch).any switchesOff) = false ↔ _
  rw [Bool.not_eq_false', Option.any_eq_true]
  constructor
  · rintro ⟨s, text, off⟩
    obtain ⟨core, trimmed, spelled⟩ := switchesOff_iff.1 off
    exact ⟨s, core, variableText_eq_some_iff.1 text, trimmed, spelled⟩
  · rintro ⟨s, core, bytes, trimmed, spelled⟩
    exact ⟨s, variableText_eq_some_iff.2 bytes, switchesOff_iff.2 ⟨core, trimmed, spelled⟩⟩

theorem concurrency_ofVariables (switch concurrency : Option (List UInt8)) (n : UInt64) :
    (ofVariables switch concurrency).concurrency = some n ↔
      ∃ s core, concurrency = some (Utf8.encode s) ∧ Trimmed s core ∧ Counts core n.toNat := by
  show ((variableText concurrency).bind fun v => (concurrencyOf v).toOption) = some n ↔ _
  simp only [Option.bind_eq_some_iff, variableText_eq_some_iff, toOption_eq_some_iff,
    concurrencyOf_eq_ok_iff, exists_and_left]

/-- The engine is switched off by one of three words, in any mixture of capitals and small letters
and between any white space, and by nothing else. The concurrency is set by a count between white
space if that fits a machine word, and by nothing else; whatever stands there, the rest is as
without it. No variable changes the other three settings. -/
theorem environment_grammar (switch concurrency : Option (List UInt8)) :
    ((ofVariables switch concurrency).enabled = false ↔
      ∃ s core, switch = some (Utf8.encode s) ∧ Trimmed s core ∧
        ∃ word ∈ ["0", "false", "off"], Spelled core word) ∧
    (∀ n, (ofVariables switch concurrency).concurrency.map UInt64.toNat = some n ↔
      n < 2 ^ 64 ∧ ∃ s core, concurrency = some (Utf8.encode s) ∧ Trimmed s core ∧
        Counts core n) ∧
    { ofVariables switch concurrency with concurrency := none } = ofVariables switch none ∧
    { ofVariables switch concurrency with enabled := true, concurrency := none } =
      ({} : Config) := by
  refine ⟨enabled_ofVariables switch concurrency, ?_, rfl, rfl⟩
  intro n
  rw [Option.map_eq_some_iff]
  constructor
  · rintro ⟨m, set, rfl⟩
    exact ⟨m.toNat_lt, (concurrency_ofVariables switch concurrency m).1 set⟩
  · rintro ⟨bound, count⟩
    have word : (UInt64.ofNat n).toNat = n := by
      rw [UInt64.toNat_ofNat', Nat.mod_eq_of_lt bound]
    rw [← word] at count
    exact ⟨UInt64.ofNat n, (concurrency_ofVariables switch concurrency _).2 count, word⟩

end PluginBridge.Config
