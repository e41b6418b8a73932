import PluginBridge.Field.Extraction

/-!
# What an extraction does to its world

An extraction touches its world only through the calls of its extractor. So what each call keeps, a
whole extraction keeps, and it escapes only as one of the calls does (`extractFields_keeps`). And if
the calls of two extractors come to the same in worlds that go together, so do two extractions
(`extractFields_alike`).
-/

namespace PluginBridge

variable {W : Type} {extract : Extractor W}

/-- What a call leaves of its world: one thing if it comes back, and another if it escapes. -/
def Ending.Leaves (I : W → Prop) (P : Escape → W → Prop) : Ending → W → Prop
  | .escaped x => P x
  | _ => I

theorem Ending.leaves_iff {I : W → Prop} {P : Escape → Prop} {ending : Ending} {w : W} :
    ending.Leaves I (fun x w => I w ∧ P x) w ↔ I w ∧ ∀ x, ending = .escaped x → P x := by
  cases ending with
  | done | failed => simp [Leaves]
  | escaped y => simp [Leaves]

section

variable {I : W → Prop} {P : Escape → W → Prop}
  (step : ∀ spec view w, I w → (extract spec view w).ending.Leaves I P (extract spec view w).world)

include step

theorem Extraction.run_leaves (event : Event) (ds : List Descriptor) (place : Nat) {w : W} (h : I w)
    (bs : Buffers) : (run extract event place ds w bs).ending.Leaves I P
      (run extract event place ds w bs).world := by
  induction ds generalizing place w bs with
  | nil => exact h
  | cons d ds ih =>
    rw [run]
    cases d.spec? with
    | error f => exact h
    | ok spec =>
      have left := step spec event.view w h
      simp only
      cases he : (extract spec event.view w).ending with
      | failed e | escaped y =>
        rw [he] at left
        exact left
      | done =>
        rw [he] at left
        cases (extract spec event.view w).request.value with
        | none => exact ih (place + 1) left bs
        | some v =>
          simp only
          match Buffers.store bs place spec.name v with
          | (bs, .error e) => exact left
          | (bs, .ok (result, length)) => exact ih (place + 1) left bs

/-- An extraction leaves of its world what the calls of its extractor leave, one after the other. -/
theorem extractFields_leaves (event : Option Event) (count : Nat) (fields : Option (List Descriptor))
    {w : W} (h : I w) (bs : Buffers) :
    (extractFields extract event count fields w bs).ending.Leaves I P
      (extractFields extract event count fields w bs).world := by
  unfold extractFields
  cases event with
  | none => exact h
  | some event =>
    simp only
    split
    · exact h
    · cases fields with
      | none => exact h
      | some ds => exact Extraction.run_leaves step event _ 0 h bs

end

section

variable {I : W → Prop} {P : Escape → Prop}
  (step : ∀ spec view w, I w → I (extract spec view w).world ∧
    ∀ x, (extract spec view w).ending = .escaped x → P x)

include step

theorem Extraction.run_keeps (event : Event) (ds : List Descriptor) (place : Nat) {w : W} (h : I w)
    (bs : Buffers) : I (run extract event place ds w bs).world ∧
      ∀ x, (run extract event place ds w bs).ending = .escaped x → P x :=
  Ending.leaves_iff.1 (run_leaves (fun spec view w h => Ending.leaves_iff.2 (step spec view w h))
    event ds place h bs)

/-- An extraction keeps what the calls of its extractor keep, and escapes only as they do. -/
theorem extractFields_keeps (event : Option Event) (count : Nat) (fields : Option (List Descriptor))
    {w : W} (h : I w) (bs : Buffers) :
    I (extractFields extract event count fields w bs).world ∧
      ∀ x, (extractFields extract event count fields w bs).ending = .escaped x → P x :=
  Ending.leaves_iff.1 (extractFields_leaves
    (fun spec view w h => Ending.leaves_iff.2 (step spec view w h)) event count fields h bs)

end

/-- What the calls of an extractor do to their world, step by step, an extraction does to it. -/
theorem extractFields_world {R : W → W → Prop} (refl : ∀ w, R w w)
    (trans : ∀ {a b c}, R a b → R b c → R a c)
    (step : ∀ spec view w, R w (extract spec view w).world) (event : Option Event) (count : Nat)
    (fields : Option (List Descriptor)) (w : W) (bs : Buffers) :
    R w (extractFields extract event count fields w bs).world :=
  (extractFields_keeps (I := R w) (P := fun _ => True)
    (fun spec view v h => ⟨trans h (step spec view v), fun _ _ => trivial⟩)
    event count fields (refl w) bs).1

/-- An extraction escapes only as a call of its extractor does. -/
theorem extractFields_escaped {P : Escape → Prop}
    (step : ∀ spec view w x, (extract spec view w).ending = .escaped x → P x) {event : Option Event}
    {count : Nat} {fields : Option (List Descriptor)} {w : W} {bs : Buffers} {x : Escape}
    (escaped : (extractFields extract event count fields w bs).ending = .escaped x) : P x :=
  (extractFields_keeps (I := fun _ => True) (fun spec view v _ => ⟨trivial, step spec view v⟩)
    event count fields trivial bs).2 x escaped

/-! ## Two extractions -/

section

variable {V : Type} {extract' : Extractor V} {R : W → V → Prop}

/-- Two calls that come to the same, in worlds that go together. -/
structure Extracted.Alike (R : W → V → Prop) (x : Extracted W) (y : Extracted V) : Prop where
  world : R x.world y.world
  value : y.request.value = x.request.value
  ending : y.ending = x.ending

/-- Two extractions that come to the same, in worlds that go together. -/
structure Extraction.Alike (R : W → V → Prop) (x : Extraction W) (y : Extraction V) : Prop where
  world : R x.world y.world
  buffers : y.buffers = x.buffers
  fields : y.fields = x.fields
  ending : y.ending = x.ending

namespace Extraction

theorem Alike.prepend {x : Extraction W} {y : Extraction V} (h : x.Alike R y) (d : Descriptor) :
    (x.prepend d).Alike R (y.prepend d) :=
  ⟨h.world, h.buffers, congrArg (d :: ·) h.fields, h.ending⟩

variable (step : ∀ spec view w v, R w v → (extract spec view w).Alike R (extract' spec view v))

include step

theorem run_alike (event : Event) (ds : List Descriptor) (place : Nat) {w : W} {v : V} (h : R w v)
    (bs : Buffers) :
    (run extract event place ds w bs).Alike R (run extract' event place ds v bs) := by
  induction ds generalizing place w v bs with
  | nil => exact ⟨h, rfl, rfl, rfl⟩
  | cons d ds ih =>
    rw [run, run]
    cases d.spec? with
    | error f => exact ⟨h, rfl, rfl, rfl⟩
    | ok spec =>
      obtain ⟨world, value, ending⟩ := step spec event.view w v h
      simp only [value, ending]
      cases (extract spec event.view w).ending with
      | failed | escaped => exact ⟨world, rfl, rfl, rfl⟩
      | done =>
        cases (extract spec event.view w).request.value with
        | none => exact (ih (place + 1) world bs).prepend d
        | some value =>
          simp only
          match Buffers.store bs place spec.name value with
          | (bs, .error e) => exact ⟨world, rfl, rfl, rfl⟩
          | (bs, .ok (result, length)) =>
            exact (ih (place + 1) world bs).prepend { d with result, length }

end Extraction

/-- If the calls of two extractors come to the same, so do two extractions. -/
theorem extractFields_alike
    (step : ∀ spec view w v, R w v → (extract spec view w).Alike R (extract' spec view v))
    (event : Option Event) (count : Nat) (fields : Option (List Descriptor)) {w : W} {v : V}
    (h : R w v) (bs : Buffers) :
    (extractFields extract event count fields w bs).Alike R
      (extractFields extract' event count fields v bs) := by
  unfold extractFields
  cases event with
  | none => exact ⟨h, rfl, rfl, rfl⟩
  | some event =>
    simp only
    split
    · exact ⟨h, rfl, rfl, rfl⟩
    · cases fields with
      | none => exact ⟨h, rfl, rfl, rfl⟩
      | some ds =>
        obtain ⟨world, buffers, fields, ending⟩ :=
          Extraction.run_alike step event ((ds.take count).map Descriptor.clear) 0 h bs
        exact ⟨world, buffers, congrArg (· ++ ds.drop count) fields, ending⟩

end

end PluginBridge
