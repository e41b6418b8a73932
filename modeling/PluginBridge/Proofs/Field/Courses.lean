import PluginBridge.Field.Extraction
import PluginBridge.Proofs.Field.Specs
import PluginBridge.Proofs.Field.Storage

/-!
# The course of an extraction

What becomes of a field depends on its descriptor and on the world that the calls for the fields
before it left, and not on the buffers. `Verdict` says what becomes of one field, by the order of its
checks, and `Course` what becomes of the fields of a call: a value for each up to the first that
fails. Every extraction takes a course (`exists_course`), it takes only one (`Course.unique`), and
`Course.run` says what it leaves behind.
-/

namespace PluginBridge

variable {W : Type} {extract : Extractor W} {event : Event} {d : Descriptor} {ds : List Descriptor}
  {w : W} {place : Nat} {bs : Buffers}

/-- What becomes of a field: the value left in its request, or what ends the extraction. -/
inductive Verdict (extract : Extractor W) (event : Event) (d : Descriptor) (w : W) :
    Except Ending (Option FieldValue) → Prop where
  | faulty {f : DescriptorFault} (faulty : Faulty d f) :
      Verdict extract event d w (.error (.failed (.invalidField f)))
  /-- The extractor fails, or does not come back. -/
  | failed {spec : FieldSpec} {ending : Ending} (asks : Asks d spec)
      (failed : (extract spec event.view w).ending = ending) (bad : ending ≠ .done) :
      Verdict extract event d w (.error ending)
  /-- A text of the value cannot be handed over. -/
  | nul {spec : FieldSpec} {v : FieldValue} (asks : Asks d spec)
      (done : (extract spec event.view w).ending = .done)
      (left : (extract spec event.view w).request.value = some v) (nul : ¬ v.Clean) :
      Verdict extract event d w (.error (.failed (.interiorNul spec.name)))
  | passed {spec : FieldSpec} (asks : Asks d spec)
      (done : (extract spec event.view w).ending = .done)
      (clean : ∀ v, (extract spec event.view w).request.value = some v → v.Clean) :
      Verdict extract event d w (.ok (extract spec event.view w).request.value)

/-- The world after a field: its extractor is called if its descriptor asks for something. -/
def after (extract : Extractor W) (event : Event) (w : W) (d : Descriptor) : W :=
  match d.spec? with
  | .ok spec => (extract spec event.view w).world
  | .error _ => w

/-- The world that the field at place `i` meets, after the fields before it. -/
def met (extract : Extractor W) (event : Event) (ds : List Descriptor) (w : W) (i : Nat) : W :=
  (ds.take i).foldl (after extract event) w

/-- What becomes of the fields of a call: the values of those before the first that fails, and how
the extraction ends. -/
inductive Course (extract : Extractor W) (event : Event) :
    List Descriptor → W → List (Option FieldValue) → Ending → Prop where
  | nil {w : W} : Course extract event [] w [] .done
  | pass {d : Descriptor} {ds : List Descriptor} {w : W} {v : Option FieldValue}
      {values : List (Option FieldValue)} {ending : Ending}
      (verdict : Verdict extract event d w (.ok v))
      (rest : Course extract event ds (after extract event w d) values ending) :
      Course extract event (d :: ds) w (v :: values) ending
  | stop {d : Descriptor} {ds : List Descriptor} {w : W} {ending : Ending}
      (verdict : Verdict extract event d w (.error ending)) :
      Course extract event (d :: ds) w [] ending

theorem after_of_asks {spec : FieldSpec} (asks : Asks d spec) :
    after extract event w d = (extract spec event.view w).world := by
  rw [after, Descriptor.spec?_of_asks asks]

theorem after_of_faulty {f : DescriptorFault} (faulty : Faulty d f) :
    after extract event w d = w := by
  rw [after, Descriptor.spec?_of_faulty faulty]

theorem met_cons (i : Nat) :
    met extract event (d :: ds) w (i + 1) = met extract event ds (after extract event w d) i := rfl

/-! ## One field -/

theorem exists_verdict (extract : Extractor W) (event : Event) (d : Descriptor) (w : W) :
    ∃ outcome, Verdict extract event d w outcome := by
  rcases d.asks_or_faulty with ⟨spec, asks⟩ | ⟨f, faulty⟩
  · by_cases done : (extract spec event.view w).ending = .done
    · by_cases clean : ∀ v, (extract spec event.view w).request.value = some v → v.Clean
      · exact ⟨_, .passed asks done clean⟩
      · obtain ⟨v, nul⟩ := Classical.not_forall.1 clean
        obtain ⟨left, nul⟩ := Classical.not_imp.1 nul
        exact ⟨_, .nul asks done left nul⟩
    · exact ⟨_, .failed asks rfl done⟩
  · exact ⟨_, .faulty faulty⟩

theorem Verdict.unique {r r' : Except Ending (Option FieldValue)}
    (verdict : Verdict extract event d w r) (verdict' : Verdict extract event d w r') : r = r' := by
  have same {spec spec' : FieldSpec} (asks : Asks d spec) (asks' : Asks d spec') : spec = spec' :=
    Except.ok.inj ((Descriptor.spec?_of_asks asks).symm.trans (Descriptor.spec?_of_asks asks'))
  have never {spec : FieldSpec} {f : DescriptorFault} (asks : Asks d spec) (faulty : Faulty d f) :
      False := by
    cases (Descriptor.spec?_of_asks asks).symm.trans (Descriptor.spec?_of_faulty faulty)
  cases verdict with
  | faulty faulty =>
    cases verdict' with
    | faulty faulty' =>
      cases (Descriptor.spec?_of_faulty faulty).symm.trans (Descriptor.spec?_of_faulty faulty')
      rfl
    | failed asks | nul asks | passed asks => exact (never asks faulty).elim
  | failed asks failed bad =>
    cases verdict' with
    | faulty faulty => exact (never asks faulty).elim
    | failed asks' failed' => cases same asks asks'; rw [← failed, ← failed']
    | nul asks' done | passed asks' done =>
      cases same asks asks'
      exact absurd (failed.symm.trans done) bad
  | nul asks done left nul =>
    cases verdict' with
    | faulty faulty => exact (never asks faulty).elim
    | failed asks' failed bad =>
      cases same asks asks'
      exact absurd (failed.symm.trans done) bad
    | nul asks' => cases same asks asks'; rfl
    | passed asks' _ clean =>
      cases same asks asks'
      exact absurd (clean _ left) nul
  | passed asks done clean =>
    cases verdict' with
    | faulty faulty => exact (never asks faulty).elim
    | failed asks' failed bad =>
      cases same asks asks'
      exact absurd (failed.symm.trans done) bad
    | nul asks' _ left nul =>
      cases same asks asks'
      exact absurd (clean _ left) nul
    | passed asks' => cases same asks asks'; rfl

/-- A field that passes has been asked for, and the value is what the extractor left. -/
theorem Verdict.passes {v : Option FieldValue} (verdict : Verdict extract event d w (.ok v)) :
    ∃ spec, Asks d spec ∧ (extract spec event.view w).request.value = v ∧
      ∀ u, v = some u → u.Clean := by
  cases verdict with
  | passed asks done clean => exact ⟨_, asks, rfl, clean⟩

namespace Extraction

/-- An extraction goes on after a field that passes. What is stored for it stands at its place. -/
theorem run_of_passed {v : Option FieldValue} (verdict : Verdict extract event d w (.ok v))
    (place : Nat) (bs : Buffers) (ds : List Descriptor) :
    ∃ bs', (∀ u, v = some u → (Buffers.buffer bs' place).Holds u) ∧
      (∀ p, p ≠ place → Buffers.buffer bs' p = Buffers.buffer bs p) ∧
      run extract event place (d.clear :: ds) w bs =
        (run extract event (place + 1) ds (after extract event w d) bs').prepend
          (d.clear.showing place v) := by
  cases verdict with
  | @passed spec asks done clean =>
    simp only [run, Descriptor.spec?_clear, Descriptor.spec?_of_asks asks, done, after_of_asks asks]
    cases left : (extract spec event.view w).request.value with
    | none => exact ⟨bs, fun u h => (by cases h), fun _ _ => rfl, rfl⟩
    | some u =>
      obtain ⟨bs', stored, held, others⟩ := Buffers.store_of_clean bs place spec.name (clean u left)
      simp only [stored]
      refine ⟨bs', fun v h => ?_, others, rfl⟩
      cases h
      exact held

/-- An extraction ends with a field that does not pass. -/
theorem run_of_stopped {ending : Ending} (verdict : Verdict extract event d w (.error ending))
    (place : Nat) (bs : Buffers) (ds : List Descriptor) :
    ∃ bs', (∀ p, p ≠ place → Buffers.buffer bs' p = Buffers.buffer bs p) ∧
      run extract event place (d.clear :: ds) w bs =
        ⟨after extract event w d, bs', d.clear :: ds, ending⟩ := by
  cases verdict with
  | faulty faulty =>
    simp only [run, Descriptor.spec?_clear, Descriptor.spec?_of_faulty faulty, after_of_faulty faulty]
    exact ⟨bs, fun _ _ => rfl, rfl⟩
  | failed asks failed bad =>
    simp only [run, Descriptor.spec?_clear, Descriptor.spec?_of_asks asks, after_of_asks asks, failed]
    cases ending with
    | done => exact absurd rfl bad
    | failed | escaped => exact ⟨bs, fun _ _ => rfl, rfl⟩
  | @nul spec v asks done left nul =>
    obtain ⟨bs', stored, others⟩ := Buffers.store_of_nul bs place spec.name nul
    simp only [run, Descriptor.spec?_clear, Descriptor.spec?_of_asks asks, after_of_asks asks, done,
      left, stored]
    exact ⟨bs', others, rfl⟩

end Extraction

/-! ## All fields -/

theorem exists_course (extract : Extractor W) (event : Event) (ds : List Descriptor) (w : W) :
    ∃ values ending, Course extract event ds w values ending := by
  induction ds generalizing w with
  | nil => exact ⟨_, _, .nil⟩
  | cons d ds ih =>
    obtain ⟨outcome, verdict⟩ := exists_verdict extract event d w
    cases outcome with
    | error ending => exact ⟨_, _, .stop verdict⟩
    | ok v =>
      obtain ⟨values, ending, rest⟩ := ih (after extract event w d)
      exact ⟨_, _, .pass verdict rest⟩

namespace Course

variable {values values' : List (Option FieldValue)} {ending ending' : Ending}

/-- The fields with values are those that pass. -/
theorem passes (course : Course extract event ds w values ending) {i : Nat} {v : Option FieldValue}
    (here : values[i]? = some v) :
    ∃ d, ds[i]? = some d ∧ Verdict extract event d (met extract event ds w i) (.ok v) := by
  induction course generalizing i with
  | nil => cases here
  | stop => cases here
  | @pass d ds w u values ending verdict rest ih =>
    cases i with
    | zero =>
      cases here
      exact ⟨d, rfl, verdict⟩
    | succ i => exact ih here

/-- The field after those with values is the one that fails, if there is one. -/
theorem ends (course : Course extract event ds w values ending) :
    values.length = ds.length ∧ ending = .done ∨
      ∃ d, ds[values.length]? = some d ∧
        Verdict extract event d (met extract event ds w values.length) (.error ending) := by
  induction course with
  | nil => exact .inl ⟨rfl, rfl⟩
  | stop verdict => exact .inr ⟨_, rfl, verdict⟩
  | pass verdict rest ih =>
    rcases ih with ⟨all, done⟩ | failed
    · exact .inl ⟨congrArg (· + 1) all, done⟩
    · exact .inr failed

/-- The course of the first fields does not depend on those after them. -/
theorem take (course : Course extract event ds w values ending) (m : Nat) :
    ∃ ending', Course extract event (ds.take m) w (values.take m) ending' := by
  induction course generalizing m with
  | nil => exact ⟨_, by rw [List.take_nil, List.take_nil]; exact .nil⟩
  | stop verdict =>
    cases m with
    | zero => exact ⟨_, .nil⟩
    | succ m => exact ⟨_, .stop verdict⟩
  | pass verdict rest ih =>
    cases m with
    | zero => exact ⟨_, .nil⟩
    | succ m =>
      obtain ⟨ending', first⟩ := ih m
      exact ⟨ending', .pass verdict first⟩

/-- What an extraction leaves behind: the values are held at their places, and the descriptors show
them. -/
theorem run (course : Course extract event ds w values ending) (place : Nat) (bs : Buffers) :
    ∃ bs', (∀ p, p < place → Buffers.buffer bs' p = Buffers.buffer bs p) ∧
      (∀ (i : Nat) v, values[i]? = some (some v) → (Buffers.buffer bs' (place + i)).Holds v) ∧
      Extraction.run extract event place (ds.map Descriptor.clear) w bs =
        ⟨met extract event ds w (values.length + 1), bs',
          ds.mapIdx fun i d => d.clear.showing (place + i) values[i]?.join, ending⟩ := by
  induction course generalizing place bs with
  | nil => exact ⟨bs, fun _ _ => rfl, fun i v here => (by cases here), rfl⟩
  | @stop d ds w ending verdict =>
    obtain ⟨bs', others, run⟩ :=
      Extraction.run_of_stopped verdict place bs (ds.map Descriptor.clear)
    have untouched : (d :: ds).mapIdx (fun i d => d.clear.showing (place + i) none) =
        (d :: ds).map Descriptor.clear := by
      refine List.ext_getElem (by rw [List.length_mapIdx, List.length_map]) fun i _ _ => ?_
      rw [List.getElem_mapIdx, List.getElem_map]
      rfl
    refine ⟨bs', fun p before => others p (Nat.ne_of_lt before), fun i v here => (by cases here), ?_⟩
    simp only [List.getElem?_nil, Option.join_none, untouched]
    exact run
  | @pass d ds w u values ending verdict rest ih =>
    obtain ⟨bs', held, others, run⟩ :=
      Extraction.run_of_passed verdict place bs (ds.map Descriptor.clear)
    -- The rest is stored at later places, so the value of this field is still held in the end.
    obtain ⟨bs'', kept, holds, run'⟩ := ih (place + 1) bs'
    have next (i : Nat) : place + 1 + i = place + (i + 1) := by omega
    refine ⟨bs'', fun p before => ?_, fun i v here => ?_, ?_⟩
    · rw [kept p (Nat.lt_succ_of_lt before), others p (Nat.ne_of_lt before)]
    · cases i with
      | zero =>
        rw [Nat.add_zero, kept place (Nat.lt_succ_self place)]
        exact held v (Option.some.inj here)
      | succ i =>
        rw [← next]
        exact holds i v here
    · rw [List.map_cons, run, run', Extraction.prepend, List.mapIdx_cons]
      simp only [next]
      rfl

end Course

/-! ## Whole calls -/

/-- The first `n` elements are changed, each by its place, and the others stay. -/
theorem getElem?_mapIdx_take_append_drop {α : Type} (f : Nat → α → α) (l : List α) (n i : Nat) :
    ((l.take n).mapIdx f ++ l.drop n)[i]? = if i < n then l[i]?.map (f i) else l[i]? := by
  rw [List.getElem?_append, List.length_mapIdx, List.length_take, List.getElem?_mapIdx,
    List.getElem?_take, List.getElem?_drop]
  by_cases before : i < n
  · by_cases inside : i < l.length
    · rw [if_pos (by omega), if_pos before, if_pos before]
    · rw [if_neg (by omega), if_pos before, List.getElem?_eq_none (by omega),
        List.getElem?_eq_none (Nat.not_lt.1 inside), Option.map_none]
  · rw [if_neg (by omega), if_neg before]
    by_cases short : l.length ≤ n
    · rw [List.getElem?_eq_none (by omega), List.getElem?_eq_none (by omega)]
    · rw [Nat.min_eq_left (by omega), Nat.add_sub_cancel' (Nat.not_lt.1 before)]

/-- What a call of a course leaves behind: the first `count` descriptors answer for the values, and
the others stay. -/
structure Outcome (extract : Extractor W) (event : Event) (ds : List Descriptor) (count : Nat)
    (w : W) (values : List (Option FieldValue)) (ending : Ending) (x : Extraction W) : Prop where
  world : x.world = met extract event (ds.take count) w (values.length + 1)
  ending : x.ending = ending
  asked : ∀ i < count,
    x.fields[i]? = ds[i]?.map fun d => d.clear.showing i values[i]?.join
  others : ∀ i, count ≤ i → x.fields[i]? = ds[i]?
  answers : ∀ (i : Nat) (d : Descriptor),
    Answers x.buffers d values[i]?.join (d.clear.showing i values[i]?.join)

/-- A call that has an event and an array takes the course of the descriptors it is to look at. -/
theorem Course.outcome {count : Nat} {values : List (Option FieldValue)} {ending : Ending}
    (course : Course extract event (ds.take count) w values ending) (bs : Buffers) :
    Outcome extract event ds count w values ending
      (extractFields extract (some event) count (some ds) w bs) := by
  obtain ⟨bs', -, holds, run⟩ := course.run 0 bs
  simp only [Nat.zero_add] at holds run
  by_cases none : count = 0
  · subst none
    cases course
    exact ⟨rfl, rfl, fun i before => absurd before (Nat.not_lt_zero i), fun i _ => rfl,
      fun i d => answers_showing d fun u value => (by cases value)⟩
  · simp only [extractFields, if_neg none, run]
    refine ⟨rfl, rfl, fun i asked => ?_, fun i other => ?_,
      fun i d => answers_showing d fun u value => holds i u (Option.join_eq_some_iff.1 value)⟩
    · rw [getElem?_mapIdx_take_append_drop, if_pos asked]
    · rw [getElem?_mapIdx_take_append_drop, if_neg (Nat.not_lt.2 other)]

/-- Behind a descriptor with a result is what the extractor left in the request. -/
theorem Course.answered {count i : Nat} {values : List (Option FieldValue)} {ending : Ending}
    {x : Extraction W} {d' : Descriptor}
    (course : Course extract event (ds.take count) w values ending)
    (left : Outcome extract event ds count w values ending x) (asked : i < count)
    (here : x.fields[i]? = some d') (filled : 0 < d'.length) :
    ∃ d spec v, ds[i]? = some d ∧ Asks d spec ∧ v.Clean ∧
      (extract spec event.view (met extract event (ds.take count) w i)).request.value = some v ∧
      Answers x.buffers d (some v) d' := by
  rw [left.asked i asked] at here
  obtain ⟨d, there, rfl⟩ := Option.map_eq_some_iff.1 here
  have answers := left.answers i d
  cases value : values[i]?.join with
  | none =>
    rw [value] at filled
    cases filled
  | some v =>
    rw [value] at answers
    obtain ⟨d₁, there₁, passed⟩ := course.passes (Option.join_eq_some_iff.1 value)
    rw [List.getElem?_take_of_lt asked, there] at there₁
    cases there₁
    obtain ⟨spec, asks, found, clean⟩ := passed.passes
    exact ⟨d, spec, v, there, asks, clean v rfl, found, answers⟩

end PluginBridge
