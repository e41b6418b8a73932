import PluginBridge.Event.Stream
import PluginBridge.Proofs.Text.Utf8

/-!
# An event reads like its payload

The view of an event can read once and seek; an exact read, a read to the end and a read of text are
loops over single reads. The cursor underneath does each of them in one go. Both ways answer alike
for as long as the steps succeed, and what a step brings is the part of the payload that it asks for
(`streams_alike`).
-/

namespace PluginBridge

namespace Cursor

theorem length_rest (c : Cursor) : c.rest.length = c.data.length - c.pos := List.length_drop

/-- Two reads in a row are one read of both lengths. -/
theorem read_read (c : Cursor) (n k : Nat) :
    ((c.read n).1 ++ ((c.read n).2.read k).1, ((c.read n).2.read k).2) = c.read (n + k) := by
  have bytes : (c.read n).1 ++ ((c.read n).2.read k).1 = (c.read (n + k)).1 := by
    show c.rest.take n ++ (c.read n).2.rest.take k = c.rest.take (n + k)
    rw [rest_read, List.take_add]
  have place : (c.read n).2.pos + ((c.read n).2.read k).1.length =
      c.pos + (c.read (n + k)).1.length := by
    rw [← bytes, List.length_append]
    exact Nat.add_assoc ..
  exact Prod.ext bytes (congrArg (Cursor.mk c.data) place)

/-- A read of all that is left, or of more. -/
theorem read_of_le {c : Cursor} {n : Nat} (all : c.rest.length ≤ n) : c.read n = c.readToEnd := by
  unfold readToEnd read
  rw [List.take_of_length_le all, List.take_length]

/-- A read that brings nothing moves nothing. -/
theorem read_eq_nil {c : Cursor} {n : Nat} (none : (c.read n).1 = []) : c.read n = ([], c) := by
  refine Prod.ext none ?_
  show Cursor.mk c.data (c.pos + (c.read n).1.length) = c
  rw [none]
  rfl

/-- The bytes from the position to `n` further on, or to the end. -/
def ahead (c : Cursor) (n : Nat) : List UInt8 :=
  (c.data.take (min (c.pos + n) c.data.length)).drop c.pos

theorem read_fst (c : Cursor) (n : Nat) : (c.read n).1 = c.ahead n := by
  show (c.data.drop c.pos).take n = _
  rw [ahead, ← List.take_eq_take_min, List.drop_take, Nat.add_sub_cancel_left]

end Cursor

namespace EventView

/-! ## The loops -/

/-- The view with the payload's cursor moved, and what came of the move. -/
theorem read_eq (v : EventView) (n : Nat) :
    v.read n = ((v.payload.read n).1, { v with payload := (v.payload.read n).2 }) := rfl

theorem read_read (v : EventView) (n k : Nat) :
    ((v.read n).1 ++ ((v.read n).2.read k).1, ((v.read n).2.read k).2) = v.read (n + k) := by
  rw [read_eq v (n + k), ← Cursor.read_read]
  rfl

theorem read_eq_nil {v : EventView} {n : Nat} (none : (v.read n).1 = []) : v.read n = ([], v) := by
  rw [read_eq, Cursor.read_eq_nil none]

theorem read_of_le {v : EventView} {n : Nat} (all : v.payload.rest.length ≤ n) :
    v.read n = v.read v.payload.rest.length := by
  rw [read_eq, Cursor.read_of_le all]
  rfl

/-- Single reads until `n` bytes have come are one read. -/
theorem fill_eq (v : EventView) (n : Nat) : v.fill n = v.read n := by
  fun_induction fill v n with
  | case1 v n got some more ih =>
    -- A read that fell short met the end, and then the next one brings nothing.
    have all : v.read (n + (n - got.1.length)) = v.read n := by
      have length : got.1.length = min n v.payload.rest.length := List.length_take
      by_cases short : n ≤ v.payload.rest.length
      · rw [length, Nat.min_eq_left short, Nat.sub_self, Nat.add_zero]
      · rw [read_of_le (by omega), read_of_le (n := n) (by omega)]
    rw [← all, ← read_read, ← ih]
  | case2 v n got none =>
    symm
    apply read_eq_nil
    have short : got.1.length ≤ n := v.payload.length_read_le n
    apply List.eq_nil_of_length_eq_zero
    show got.1.length = 0
    omega

/-- Chunks until one is empty are one read of all that is left. -/
theorem readToEnd_eq (v : EventView) : v.readToEnd = v.read v.payload.rest.length := by
  fun_induction readToEnd v with
  | case1 v got some more ih =>
    have left : got.2.payload.rest.length = v.payload.rest.length - chunk := by
      show (v.payload.read chunk).2.rest.length = _
      rw [Cursor.rest_read, List.length_drop]
    rw [← read_of_le (n := chunk + got.2.payload.rest.length) (by omega), ← read_read, ← ih]
  | case2 v got none =>
    have empty : (v.payload.rest.take chunk).length = 0 := by
      show got.1.length = 0
      omega
    rw [← read_of_le (n := chunk), read_eq_nil (List.eq_nil_of_length_eq_zero empty)]
    rw [List.length_take] at empty
    unfold chunk at empty ⊢
    omega

/-! ## One step -/

/-- Do a step on the cursor underneath. -/
def performInner (v : EventView) (step : StreamStep) : Except StreamError StreamAnswer × EventView :=
  v.onPayload (Cursor.perform · step)

/-- Two outcomes of a step: the same answer and the same view after it, or the same failure. -/
inductive Alike : Except StreamError StreamAnswer × EventView →
    Except StreamError StreamAnswer × EventView → Prop
  | success (a : StreamAnswer) (v : EventView) : Alike (.ok a, v) (.ok a, v)
  | failure (e : StreamError) (v v' : EventView) : Alike (.error e, v) (.error e, v')

theorem perform_alike (v : EventView) (step : StreamStep) :
    Alike (v.perform step) (v.performInner step) := by
  unfold performInner onPayload
  cases step with
  | read n => exact .success ..
  | readExact n =>
    have length : (v.read n).1.length = min n v.payload.rest.length := List.length_take
    simp only [perform, readExact, Cursor.perform, Cursor.readExact, fill_eq]
    by_cases enough : n ≤ v.payload.rest.length
    · rw [if_pos (by omega), if_pos enough]
      exact .success ..
    · rw [if_neg (by omega), if_neg enough]
      exact .failure ..
  | readToEnd =>
    simp only [perform, readToEnd_eq]
    exact .success ..
  | readText =>
    have bytes : (v.read v.payload.rest.length).1 = v.payload.rest := List.take_length
    simp only [perform, readText, Cursor.perform, Cursor.readText, readToEnd_eq, bytes]
    cases Text.Utf8.decode v.payload.rest with
    | ok s => exact .success ..
    | error f => exact .failure ..
  | seek s =>
    simp only [perform, seek, Cursor.perform]
    cases (v.payload.seek s).1 with
    | ok p => exact .success ..
    | error e => exact .failure ..

/-! ## Runs -/

/-- What a run answers up to its first failure: with each success the position after it. -/
def answers (perform : EventView → StreamStep → Except StreamError StreamAnswer × EventView) :
    EventView → List StreamStep → List (Except StreamError (StreamAnswer × Nat))
  | _, [] => []
  | v, step :: steps =>
    match perform v step with
    | (.ok a, v) => .ok (a, v.pos) :: answers perform v steps
    | (.error e, _) => [.error e]

/-- Alike from step to step, both ways answer alike as long as they succeed. -/
theorem answers_alike (v : EventView) (steps : List StreamStep) :
    v.answers perform steps = v.answers performInner steps := by
  induction steps generalizing v with
  | nil => rfl
  | cons step steps ih =>
    unfold answers
    have alike := perform_alike v step
    generalize v.perform step = outcome, v.performInner step = outcome' at alike
    cases alike with
    | success a v' => exact congrArg (_ :: ·) (ih v')
    | failure e v' v'' => rfl

end EventView

/-! ## What a step brings -/

/-- How many bytes a reading step asks for, if `size` is enough for all. -/
def StreamStep.asks (size : Nat) : StreamStep → Option Nat
  | .read n | .readExact n => some n
  | .readToEnd | .readText => some size
  | .seek _ => none

/-- What a step that succeeds does over bytes that do not change: a reading step brings the bytes
ahead and moves past them, and a seek answers the position that it moves to. -/
def StreamStep.Does (step : StreamStep) (c : Cursor) (a : StreamAnswer) (c' : Cursor) : Prop :=
  c'.data = c.data ∧
    match step.asks c.data.length with
    | some n => a.bytes? = some (c.ahead n) ∧ c'.pos = c.pos + (c.ahead n).length
    | none => a = .position c'.pos

namespace Cursor

theorem does_of_read {c : Cursor} {step : StreamStep} {a : StreamAnswer} {n : Nat}
    (asks : step.asks c.data.length = some n) (bytes : a.bytes? = some (c.read n).1) :
    step.Does c a (c.read n).2 := by
  refine ⟨rfl, ?_⟩
  rw [asks]
  dsimp only
  rw [← read_fst]
  exact ⟨bytes, rfl⟩

/-- A step that succeeds does its work. -/
theorem does_of_perform {c c' : Cursor} {step : StreamStep} {a : StreamAnswer}
    (done : c.perform step = (.ok a, c')) : step.Does c a c' := by
  have whole : c.readToEnd = c.read c.data.length := by
    symm
    apply read_of_le
    rw [length_rest]
    omega
  cases step with
  | read n =>
    cases done
    exact does_of_read rfl rfl
  | readExact n =>
    simp only [perform, readExact] at done
    split at done
    · cases done
      exact does_of_read rfl rfl
    · cases done
  | readToEnd =>
    simp only [perform, whole] at done
    cases done
    exact does_of_read rfl rfl
  | readText =>
    simp only [perform, readText, whole] at done
    cases text : Text.Utf8.decode c.rest with
    | ok s =>
      rw [text] at done
      cases done
      have bytes : (c.read c.data.length).1 = c.rest := by
        rw [← whole]
        exact List.take_length
      apply does_of_read rfl
      rw [bytes, ← Text.Utf8.decode_eq_ok.1 text]
      rfl
    | error f =>
      rw [text] at done
      cases done
  | seek s =>
    simp only [perform, seek] at done
    split at done
    · cases done
      exact ⟨rfl, rfl⟩
    · cases done

theorem stays_of_seek {c c' : Cursor} {s : Seek} {e : StreamError}
    (failed : c.perform (.seek s) = (.error e, c')) : c' = c := by
  simp only [perform, seek] at failed
  split at failed
  · cases failed
  · cases failed
    rfl

end Cursor

namespace EventView

/-- A way to do steps on a view: a step that succeeds does its work on the payload, and a seek that
fails leaves the view alone. -/
structure Faithful
    (perform : EventView → StreamStep → Except StreamError StreamAnswer × EventView) : Prop where
  does : ∀ {v step a v'}, perform v step = (.ok a, v') → step.Does v.payload a v'.payload
  stays : ∀ {v s e v'}, perform v (.seek s) = (.error e, v') → v' = v

theorem faithful_performInner : Faithful performInner := by
  constructor
  · intro v step a v' done
    cases h : v.payload.perform step with
    | mk r payload =>
      rw [performInner, onPayload, h] at done
      cases done
      exact Cursor.does_of_perform h
  · intro v s e v' failed
    cases h : v.payload.perform (.seek s) with
    | mk r payload =>
      rw [performInner, onPayload, h] at failed
      cases failed
      rw [Cursor.stays_of_seek h]

theorem faithful_perform : Faithful perform := by
  constructor
  · intro v step a v' done
    have alike := perform_alike v step
    rw [done] at alike
    generalize inner : v.performInner step = outcome at alike
    cases alike
    exact faithful_performInner.does inner
  · intro v s e v' failed
    exact faithful_performInner.stays (show v.performInner (.seek s) = _ from failed)

/-- Any steps on a view, by its own reads and seeks or on the cursor underneath, from any position:
up to the first failure both answer the same and stand at the same positions. Either way a step that
succeeds brings just the bytes ahead that it asks for, and a seek that fails moves nothing. -/
theorem streams_alike :
    (∀ v steps, answers perform v steps = answers performInner v steps) ∧
    Faithful perform ∧ Faithful performInner :=
  ⟨answers_alike, faithful_perform, faithful_performInner⟩

end EventView

end PluginBridge
