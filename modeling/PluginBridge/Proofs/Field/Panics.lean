import PluginBridge.Field.Extraction

/-!
# Extractions that end in a panic

An extraction that panics at a field has come to an end for the fields before it, and leaves the
descriptors from this field on as it met them (`PanicsAt.run`). If the extractor returned an error
instead of panicking, everything but the ending would be the same (`extractFields_softened`).
-/

namespace PluginBridge

variable {W : Type} {extract : Extractor W} {event : Event} {place : Nat}
  {before ds : List Descriptor} {d : Descriptor} {w : W} {bs : Buffers}
  {k : Nat} {message : String} {e : ExtractError}

namespace Extraction

/-- An extraction that comes to an end for some descriptors goes on with the next ones. -/
theorem run_append (after : List Descriptor)
    (done : (run extract event place before w bs).ending = .done) :
    let x := run extract event place before w bs
    run extract event place (before ++ after) w bs =
      { run extract event (place + before.length) after x.world x.buffers with
        fields := x.fields ++
          (run extract event (place + before.length) after x.world x.buffers).fields } := by
  induction before generalizing place w bs with
  | nil => rfl
  | cons d ds ih =>
    rw [List.cons_append]
    simp only [run] at done ⊢
    cases hs : d.spec? with
    | error f =>
      rw [hs] at done
      cases done
    | ok spec =>
      simp only [hs] at done ⊢
      cases he : (extract spec event.view w).ending with
      | failed | escaped =>
        simp only [he] at done
        cases done
      | done =>
        have next : place + (d :: ds).length = place + 1 + ds.length := by
          rw [List.length_cons]
          omega
        simp only [he, next] at done ⊢
        cases hv : (extract spec event.view w).request.value with
        | none =>
          simp only [hv] at done ⊢
          rw [ih done]
          rfl
        | some v =>
          simp only [hv] at done ⊢
          match stored : Buffers.store bs place spec.name v with
          | (bs, .error e) =>
            rw [stored] at done
            cases done
          | (bs, .ok (result, length)) =>
            simp only [stored] at done ⊢
            rw [ih done]
            rfl

end Extraction

/-- The extraction of some descriptors panics at the one at place `k`: it comes to an end for those
before, and then the extractor panics. -/
structure PanicsAt (extract : Extractor W) (event : Event) (ds : List Descriptor) (w : W)
    (bs : Buffers) (k : Nat) (spec : FieldSpec) (message : String) : Prop where
  before : (Extraction.run extract event 0 (ds.take k) w bs).ending = .done
  field : ∃ d, ds[k]? = some d ∧ d.spec? = .ok spec
  panic : (extract spec event.view (Extraction.run extract event 0 (ds.take k) w bs).world).ending =
    .escaped (.panic message)

/-- What an extraction leaves behind that panics. -/
theorem PanicsAt.run {spec : FieldSpec} (panics : PanicsAt extract event ds w bs k spec message) :
    let x := Extraction.run extract event 0 (ds.take k) w bs
    Extraction.run extract event 0 ds w bs =
      ⟨(extract spec event.view x.world).world, x.buffers, x.fields ++ ds.drop k,
        .escaped (.panic message)⟩ := by
  obtain ⟨d, here, spec_eq⟩ := panics.field
  obtain ⟨bound, found⟩ := List.getElem?_eq_some_iff.1 here
  have split : ds.drop k = d :: ds.drop (k + 1) := by rw [List.drop_eq_getElem_cons bound, found]
  have run := Extraction.run_append (ds.drop k) panics.before
  rw [List.take_append_drop, split] at run
  rw [run, split]
  simp only [Extraction.run, spec_eq, panics.panic]

/-! ## Errors instead of panics -/

/-- An ending, with an error in the place of a panic. -/
def Ending.softened (e : ExtractError) : Ending → Ending
  | .escaped (.panic _) => .failed e
  | ending => ending

/-- Extraction logic that returns an error where it would panic. -/
def softened (e : ExtractError) (extract : Extractor W) : Extractor W := fun spec view w =>
  { extract spec view w with ending := (extract spec view w).ending.softened e }

theorem Extraction.run_softened (e : ExtractError) (extract : Extractor W) (event : Event)
    (ds : List Descriptor) (place : Nat) (w : W) (bs : Buffers) :
    run (PluginBridge.softened e extract) event place ds w bs =
      { run extract event place ds w bs with
        ending := (run extract event place ds w bs).ending.softened e } := by
  induction ds generalizing place w bs with
  | nil => rfl
  | cons d ds ih =>
    rw [run, run]
    cases d.spec? with
    | error f => rfl
    | ok spec =>
      simp only [PluginBridge.softened]
      cases (extract spec event.view w).ending with
      | failed x => rfl
      | escaped x => cases x <;> rfl
      | done =>
        simp only [Ending.softened]
        cases (extract spec event.view w).request.value with
        | none =>
          simp only
          rw [ih]
          rfl
        | some v =>
          simp only
          match Buffers.store bs place spec.name v with
          | (bs, .error x) => rfl
          | (bs, .ok (result, length)) =>
            simp only
            rw [ih]
            rfl

/-- If the extractor returns an error instead of panicking, only the ending is another. -/
theorem extractFields_softened (e : ExtractError) (extract : Extractor W) (event : Option Event)
    (count : Nat) (fields : Option (List Descriptor)) (w : W) (bs : Buffers) :
    extractFields (softened e extract) event count fields w bs =
      { extractFields extract event count fields w bs with
        ending := (extractFields extract event count fields w bs).ending.softened e } := by
  unfold extractFields
  cases event with
  | none => rfl
  | some event =>
    simp only
    split
    · rfl
    · cases fields with
      | none => rfl
      | some ds =>
        simp only
        rw [Extraction.run_softened]

end PluginBridge
