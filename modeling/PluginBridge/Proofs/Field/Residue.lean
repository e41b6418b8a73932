import PluginBridge.Proofs.Field.Prefix

/-!
# What earlier extractions leave in the buffers

Nothing of it is seen again. Two extractions that start from any two buffers come to the same, and
what they leave behind reads the same (`buffers_carry_nothing`). Within one extraction, a result
reads the same from the time it is stored.
-/

namespace PluginBridge

variable {W : Type} {extract : Extractor W} {event : Event} {ds : List Descriptor} {count : Nat}
  {w : W} {values : List (Option FieldValue)} {ending : Ending} {x x' : Extraction W}

namespace Outcome

/-- A descriptor that a call looks at reads as the value of its field. -/
theorem output (left : Outcome extract event ds count w values ending x) {i : Nat} {d : Descriptor}
    (asked : i < count) (here : x.fields[i]? = some d) :
    d.output x.buffers = shownOf values[i]?.join := by
  rw [left.asked i asked] at here
  obtain ⟨d, -, rfl⟩ := Option.map_eq_some_iff.1 here
  exact (left.answers i d).output

/-- What is stored at other places is not seen through a descriptor that a call looked at. -/
theorem output_store (left : Outcome extract event ds count w values ending x) {i place : Nat}
    {d : Descriptor} (asked : i < count) (here : x.fields[i]? = some d) (other : i ≠ place)
    (field : String) (v : FieldValue) :
    d.output (Buffers.store x.buffers place field v).1 = d.output x.buffers := by
  rw [left.asked i asked] at here
  obtain ⟨d, -, rfl⟩ := Option.map_eq_some_iff.1 here
  exact Descriptor.output_showing_congr rfl (Buffers.buffer_store_of_ne _ field v other) _

theorem fields_eq (left : Outcome extract event ds count w values ending x)
    (left' : Outcome extract event ds count w values ending x') : x'.fields = x.fields := by
  refine List.ext_getElem? fun i => ?_
  by_cases asked : i < count
  · rw [left.asked i asked, left'.asked i asked]
  · rw [left.others i (Nat.not_lt.1 asked), left'.others i (Nat.not_lt.1 asked)]

/-- Two calls of one course leave the same to be read, and nothing that is stored later changes it.
The descriptors that they do not look at stay as they are. -/
theorem reads (left : Outcome extract event ds count w values ending x)
    (left' : Outcome extract event ds count w values ending x') {i : Nat} {d : Descriptor}
    (here : x.fields[i]? = some d) :
    if i < count then
      d.output x'.buffers = d.output x.buffers ∧
        ∀ place, i < place → ∀ field v,
          d.output (Buffers.store x.buffers place field v).1 = d.output x.buffers
    else ds[i]? = some d := by
  by_cases asked : i < count
  · rw [if_pos asked]
    have here' := (congrArg (·[i]?) (left.fields_eq left')).trans here
    exact ⟨(left'.output asked here').trans (left.output asked here).symm,
      fun place later => left.output_store asked here (Nat.ne_of_lt later)⟩
  · rw [if_neg asked]
    exact (left.others i (Nat.not_lt.1 asked)).symm.trans here

/-- A call for the first `m` fields leaves for them what a call for more fields does. -/
theorem begins {m : Nat} {first : Ending} {y : Extraction W}
    (left : Outcome extract event ds count w values ending x)
    (begun : Outcome extract event ds m w (values.take m) first y) (fewer : m ≤ count) {i : Nat}
    (before : i < m) :
    y.fields[i]? = x.fields[i]? ∧
      ∀ d, x.fields[i]? = some d → d.output y.buffers = d.output x.buffers := by
  have asked : i < count := Nat.lt_of_lt_of_le before fewer
  have value : (values.take m)[i]? = values[i]? := List.getElem?_take_of_lt before
  have same : y.fields[i]? = x.fields[i]? := by
    rw [begun.asked i before, left.asked i asked, value]
  refine ⟨same, fun d here => ?_⟩
  rw [begun.output before (same.trans here), left.output asked here, value]

end Outcome

/-- The course of a call begins as the course of a call for fewer fields. -/
theorem Course.take_count (course : Course extract event (ds.take count) w values ending) {m : Nat}
    (fewer : m ≤ count) :
    ∃ ending', Course extract event (ds.take m) w (values.take m) ending' := by
  have first := course.take m
  rw [List.take_take, Nat.min_eq_left fewer] at first
  exact first

/-- Without an array there is nothing to extract. -/
theorem extractFields_of_null (extract : Extractor W) (event : Event) (count : Nat) (w : W)
    (bs : Buffers) : extractFields extract (some event) count none w bs =
      ⟨w, bs, [], if count = 0 then .done else .failed (.invalidField .noFields)⟩ := by
  rw [extractFields]
  split <;> rfl

/-- What an extraction finds in the buffers has no influence on how it ends, on the calls it makes
and on what it leaves to be read; descriptors that it does not look at stay as they are. A result
reads at the end as it did when only the fields up to it had been extracted, and is not changed by
what is stored at a later place. -/
theorem buffers_carry_nothing (extract : Extractor W) (event : Option Event) (count : Nat)
    (fields : Option (List Descriptor)) (w : W) (bs bs' : Buffers) :
    let x := extractFields extract event count fields w bs
    let x' := extractFields extract event count fields w bs'
    let calls bs := (extractFields (traced extract) event count fields (w, []) bs).world.2
    x'.ending = x.ending ∧ x'.world = x.world ∧ x'.fields = x.fields ∧ calls bs' = calls bs ∧
    (∀ i d, x.fields[i]? = some d →
      if event.isSome ∧ i < count then
        d.output x'.buffers = d.output x.buffers ∧
          ∀ place, i < place → ∀ field v,
            d.output (Buffers.store x.buffers place field v).1 = d.output x.buffers
      else (fields.getD [])[i]? = some d) ∧
    ∀ m ≤ count, ∀ i < m,
      let y := extractFields extract event m fields w bs
      y.fields[i]? = x.fields[i]? ∧
        ∀ d, x.fields[i]? = some d → d.output y.buffers = d.output x.buffers := by
  cases event with
  | none =>
    exact ⟨rfl, rfl, rfl, rfl, fun i d here => here, fun m _ i _ => ⟨rfl, fun _ _ => rfl⟩⟩
  | some event =>
    cases fields with
    | none =>
      simp only [extractFields_of_null]
      exact ⟨trivial, trivial, trivial, trivial, fun i d here => (by cases here),
        fun m _ i _ => ⟨trivial, fun d here => (by cases here)⟩⟩
    | some ds =>
      obtain ⟨values, ending, course⟩ := exists_course extract event (ds.take count) w
      have left := course.outcome bs
      have left' := course.outcome bs'
      have noted (bs : Buffers) := ((course.traced []).outcome bs).world
      refine ⟨left'.ending.trans left.ending.symm, left'.world.trans left.world.symm,
        left.fields_eq left', congrArg Prod.snd ((noted bs').trans (noted bs).symm),
        fun i d here => ?_, fun m fewer i before => ?_⟩
      · simpa only [Option.isSome_some, true_and, Option.getD_some] using left.reads left' here
      · obtain ⟨_, first⟩ := course.take_count fewer
        exact left.begins (first.outcome bs) fewer before

end PluginBridge
