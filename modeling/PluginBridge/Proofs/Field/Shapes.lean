import PluginBridge.Host.Extraction
import PluginBridge.Proofs.Field.Courses

/-!
# Values of the right shape

A request takes a value or refuses it by its own shape, and an extractor that keeps to the request
that it got can only give the host what was asked for. But a request can be made by anyone, and the
value is taken from the one that the extractor leaves: `Conduct` is what an extractor does in one
call, `Conduct.run_left` what this comes to, and `host_gets_asked_shape` says what is behind each
result: numbers or texts as the host asked for, if the request that was left has the same type, and
numbers for texts or texts for numbers if it has the other one.
-/

namespace PluginBridge

variable {W : Type} {spec : FieldSpec}

namespace FieldRequest

/-- The last of some values that has the shape that is asked for. -/
def lastAccepted (spec : FieldSpec) (vs : List FieldValue) : Option FieldValue :=
  (vs.filter fun v => v.shape = spec.shape).getLast?

/-- How the setting of a value is answered. -/
def verdict (spec : FieldSpec) (v : FieldValue) : Except ExtractError Unit :=
  if v.shape = spec.shape then .ok () else .error (mismatch spec v)

/-- A value is taken if it has the right shape, and refused by name otherwise. -/
theorem setValue_cases (r : FieldRequest spec) (v : FieldValue) :
    (v.shape = spec.shape ∧ ∃ r', r.setValue v = .ok r' ∧ r.attempt v = r' ∧ r'.value = some v) ∨
    (v.shape ≠ spec.shape ∧ r.attempt v = r ∧
      r.setValue v = .error (.typeMismatch spec.name spec.shape.name v.shape.name)) := by
  by_cases fits : v.shape = spec.shape
  · have set : r.setValue v = .ok ⟨some v, by rintro _ ⟨⟩; exact fits⟩ := by
      rw [setValue, dif_pos fits]
    exact .inl ⟨fits, _, set, by rw [attempt, set], rfl⟩
  · have set : r.setValue v = .error (mismatch spec v) := by rw [setValue, dif_neg fits]
    exact .inr ⟨fits, by rw [attempt, set], set⟩

/-- The answer does not depend on what was set before. -/
theorem map_setValue (r : FieldRequest spec) (v : FieldValue) :
    (r.setValue v).map (fun _ => ()) = verdict spec v := by
  rw [verdict]
  rcases r.setValue_cases v with ⟨fits, r', set, -, -⟩ | ⟨wrong, -, refused⟩
  · rw [set, if_pos fits]
    rfl
  · rw [refused, if_neg wrong]
    rfl

theorem value_attempt (r : FieldRequest spec) (v : FieldValue) :
    (r.attempt v).value = if v.shape = spec.shape then some v else r.value := by
  rcases r.setValue_cases v with ⟨fits, r', -, set, value⟩ | ⟨wrong, same, -⟩
  · rw [set, value, if_pos fits]
  · rw [same, if_neg wrong]

theorem lastAccepted_cons (v : FieldValue) (vs : List FieldValue) :
    lastAccepted spec (v :: vs) =
      (lastAccepted spec vs).or (if v.shape = spec.shape then some v else none) := by
  by_cases fits : v.shape = spec.shape
  · simp only [lastAccepted, List.filter_cons, fits, decide_true, ite_true, List.getLast?_cons]
    cases (vs.filter fun v => v.shape = spec.shape).getLast? <;> rfl
  · simp [lastAccepted, fits]

/-- After any attempts, the value is the last one that was accepted, or the one before them. -/
theorem value_attempts (vs : List FieldValue) (r : FieldRequest spec) :
    (vs.foldl attempt r).value = (lastAccepted spec vs).or r.value := by
  induction vs generalizing r with
  | nil => rfl
  | cons v vs ih =>
    rw [List.foldl_cons, ih, value_attempt, lastAccepted_cons, Option.or_assoc]
    by_cases fits : v.shape = spec.shape
    · rw [if_pos fits, if_pos fits, Option.some_or]
    · rw [if_neg fits, if_neg fits, Option.none_or]

theorem value_attempts_unset (spec : FieldSpec) (vs : List FieldValue) :
    (vs.foldl attempt (.unset spec)).value = lastAccepted spec vs :=
  (value_attempts vs _).trans Option.or_none

end FieldRequest

/-! ## Calls of an extractor -/

/-- What an extractor does in one call: it sets a value and goes on as this was answered, it puts a
request of its own in the place of the one at hand, or it ends. -/
inductive Conduct (W : Type) where
  | leave (world : W) (ending : Ending)
  | set (v : FieldValue) (next : Except ExtractError Unit → Conduct W)
  | replace (spec : FieldSpec) (next : Conduct W)

namespace Conduct

/-- What a call leaves behind. -/
def run : Conduct W → (spec : FieldSpec) → FieldRequest spec → Extracted W
  | .leave world ending, spec, r => ⟨world, spec, r, ending⟩
  | .set v next, spec, r => (next ((r.setValue v).map fun _ => ())).run spec (r.attempt v)
  | .replace spec next, _, _ => next.run spec (.unset spec)

/-- What the request asks for that a call leaves, and the values that the call tried to set in it.
`vs` are those that it tried before. -/
def left : Conduct W → FieldSpec → List FieldValue → FieldSpec × List FieldValue
  | .leave _ _, spec, vs => (spec, vs)
  | .set v next, spec, vs => (next (FieldRequest.verdict spec v)).left spec (vs ++ [v])
  | .replace spec next, _, _ => next.left spec []

/-- Whether a call keeps to the request that it got. -/
def Keeps : Conduct W → Prop
  | .leave _ _ => True
  | .set _ next => ∀ answer, (next answer).Keeps
  | .replace _ _ => False

theorem run_set (v : FieldValue) (next : Except ExtractError Unit → Conduct W)
    (r : FieldRequest spec) :
    (set v next).run spec r = (next (FieldRequest.verdict spec v)).run spec (r.attempt v) := by
  rw [run, FieldRequest.map_setValue]

/-- A call leaves a request in which the last value is set that was tried there and accepted. -/
theorem run_left (c : Conduct W) (spec : FieldSpec) (vs : List FieldValue) :
    let got := c.run spec (vs.foldl FieldRequest.attempt (.unset spec))
    got.asked = (c.left spec vs).1 ∧
      got.request.value = FieldRequest.lastAccepted got.asked (c.left spec vs).2 := by
  induction c generalizing spec vs with
  | leave world ending => exact ⟨rfl, FieldRequest.value_attempts_unset spec vs⟩
  | set v next ih =>
    have rest := ih (FieldRequest.verdict spec v) spec (vs ++ [v])
    rw [List.foldl_append] at rest
    rw [run_set]
    exact rest
  | replace spec' next ih => exact ih spec' []

/-- A call that keeps to its request leaves that one. -/
theorem Keeps.asked {c : Conduct W} (keeps : c.Keeps) (r : FieldRequest spec) :
    (c.run spec r).asked = spec := by
  induction c generalizing r with
  | leave world ending => rfl
  | set v next ih => exact ih _ (keeps _) _
  | replace => exact keeps.elim

end Conduct

/-- The extractor with some conduct. -/
def conducted (conduct : FieldSpec → EventView → W → Conduct W) : Extractor W :=
  fun spec view w => (conduct spec view w).run spec (.unset spec)

/-! ## What the host gets -/

theorem FieldValue.size_of_single {v : FieldValue} (single : v.shape.isList = false) :
    v.size = 1 := by
  cases v with
  | number | text => rfl
  | numbers | texts => cases single

/-- What the host finds tells the type of a value, unless it is empty. -/
theorem FieldValue.shown_of_number {v : FieldValue} (type : v.shape.type = .number)
    (filled : v.size ≠ 0) : v.shown = .numbers v.allNumbers := by
  rw [shown, if_neg filled, type]

theorem FieldValue.shown_of_text {v : FieldValue} (type : v.shape.type = .text)
    (filled : v.size ≠ 0) : v.shown = .texts v.allTexts := by
  rw [shown, if_neg filled, type]

/-- What the host finds behind a descriptor is a value as the descriptor asks for: numbers, or texts
that it reads up to their terminators. -/
structure Delivers (bs : Buffers) (v : FieldValue) (d : Descriptor) : Prop where
  length : d.length = v.size
  type : d.type = 8 ∨ d.type = 9
  numbers : ∀ ns, d.output bs = .numbers ns ↔ d.type = 8 ∧ ns = v.allNumbers
  texts : ∀ ss, d.output bs = .texts ss ↔ d.type = 9 ∧ ss = v.allTexts
  single : d.isList = false → d.length = 1
  terminated : ∀ s ∈ v.allTexts, ∀ beyond,
    terminated (Text.Utf8.encode s ++ 0 :: beyond) = Text.Utf8.encode s

theorem Answers.asked {bs : Buffers} {d d' : Descriptor} {v : Option FieldValue}
    (answers : Answers bs d v d') (asks : Asks d spec) :
    d'.type = spec.shape.type.code ∧ d'.isList = spec.shape.isList := by
  have same : d'.clear.type = d.clear.type ∧ d'.clear.isList = d.clear.isList := by
    rw [answers.same]
    exact ⟨rfl, rfl⟩
  exact ⟨same.1.trans asks.type.symm, same.2.trans asks.isList.symm⟩

theorem Answers.delivers {bs : Buffers} {d d' : Descriptor} {v : FieldValue}
    (answers : Answers bs d (some v) d') (asks : Asks d spec)
    (same : v.shape.type = spec.shape.type) (single : spec.shape.isList = false → v.size = 1)
    (clean : v.Clean) (filled : v.size ≠ 0) : Delivers bs v d' := by
  obtain ⟨type, isList⟩ := answers.asked asks
  rw [← same] at type
  have single (h : d'.isList = false) : d'.length = 1 :=
    answers.length.trans (single (isList.symm.trans h))
  have output : d'.output bs = v.shown := answers.output
  cases kind : v.shape.type with
  | number =>
    rw [kind] at type
    rw [FieldValue.shown_of_number kind filled] at output
    refine ⟨answers.length, .inl type, fun ns => ?_, fun ss => ?_, single,
      fun s mem => terminated_encode (clean s mem)⟩
    · rw [output, FieldOutput.numbers.injEq]
      exact ⟨fun h => ⟨type, h.symm⟩, fun h => h.2.symm⟩
    · rw [output]
      refine ⟨fun h => (by cases h), fun ⟨nine, _⟩ => ?_⟩
      cases type.symm.trans nine
  | text =>
    rw [kind] at type
    rw [FieldValue.shown_of_text kind filled] at output
    refine ⟨answers.length, .inr type, fun ns => ?_, fun ss => ?_, single,
      fun s mem => terminated_encode (clean s mem)⟩
    · rw [output]
      refine ⟨fun h => (by cases h), fun ⟨eight, _⟩ => ?_⟩
      cases type.symm.trans eight
    · rw [output, FieldOutput.texts.injEq]
      exact ⟨fun h => ⟨type, h.symm⟩, fun h => h.2.symm⟩

/-- A value of the other type is not what the descriptor asks for. -/
theorem Delivers.same {bs : Buffers} {d d' : Descriptor} {v : FieldValue}
    (delivers : Delivers bs v d') (answers : Answers bs d (some v) d') (asks : Asks d spec)
    (filled : v.size ≠ 0) :
    v.shape.type = spec.shape.type ∧ (spec.shape.isList = false → v.size = 1) := by
  obtain ⟨type, isList⟩ := answers.asked asks
  have output : d'.output bs = v.shown := answers.output
  refine ⟨?_, fun h => answers.length.symm.trans (delivers.single (isList.trans h))⟩
  cases kind : v.shape.type with
  | number =>
    rw [FieldValue.shown_of_number kind filled, delivers.numbers] at output
    cases asked : spec.shape.type with
    | number => rfl
    | text =>
      rw [asked] at type
      cases type.symm.trans output.1
  | text =>
    rw [FieldValue.shown_of_text kind filled, delivers.texts] at output
    cases asked : spec.shape.type with
    | text => rfl
    | number =>
      rw [asked] at type
      cases type.symm.trans output.1

/-- The value of a request is the last one that was accepted, and has the shape that the request asks
for. An extractor leaves the request that it got, or one that it put in its place. What the host
finds behind a descriptor of a call is the value of the request that was left; it is as the
descriptor asks for exactly if that request asked for the same type, and for as many values as the
descriptor has room for. -/
theorem host_gets_asked_shape :
    (∀ (spec : FieldSpec) (vs : List FieldValue),
      let r := vs.foldl FieldRequest.attempt (.unset spec)
      r.value = FieldRequest.lastAccepted spec vs ∧
      (∀ v, r.value = some v → v.shape = spec.shape) ∧
      ∀ v, if v.shape = spec.shape then ∃ r', r.setValue v = .ok r' ∧ r'.value = some v
        else r.setValue v = .error (.typeMismatch spec.name spec.shape.name v.shape.name) ∧
          (r.attempt v).value = r.value) ∧
    (∀ (conduct : FieldSpec → EventView → W → Conduct W) spec view w,
      let got := conducted conduct spec view w
      let left := (conduct spec view w).left spec []
      got.asked = left.1 ∧ got.request.value = FieldRequest.lastAccepted left.1 left.2 ∧
      ((conduct spec view w).Keeps → got.asked = spec)) ∧
    ∀ (extract : Extractor W) event count ds w bs,
      let x := extractFields extract (some event) count (some ds) w bs
      ∀ i < count, ∀ d', x.fields[i]? = some d' → 0 < d'.length →
        ∃ d spec v, ds[i]? = some d ∧ Asks d spec ∧ d'.clear = d.clear ∧
          let got := extract spec event.view (met extract event (ds.take count) w i)
          got.request.value = some v ∧ v.shape = got.asked.shape ∧
          d'.length = v.size ∧ d'.output x.buffers = v.shown ∧
          (Delivers x.buffers v d' ↔ got.asked.shape.type = spec.shape.type ∧
            (spec.shape.isList = false → v.size = 1)) ∧
          (got.asked = spec → Delivers x.buffers v d') := by
  refine ⟨fun spec vs => ?_, fun conduct spec view w => ?_, fun extract event count ds w bs => ?_⟩
  · intro r
    refine ⟨FieldRequest.value_attempts_unset spec vs, r.shape_value, fun v => ?_⟩
    rcases r.setValue_cases v with ⟨fits, r', set, -, value⟩ | ⟨wrong, same, refused⟩
    · rw [if_pos fits]
      exact ⟨r', set, value⟩
    · rw [if_neg wrong]
      exact ⟨refused, congrArg FieldRequest.value same⟩
  · intro got left
    obtain ⟨asked, value⟩ := (conduct spec view w).run_left spec []
    refine ⟨asked, ?_, fun keeps => keeps.asked _⟩
    rw [← asked]
    exact value
  · intro x i asked d' here filled
    obtain ⟨values, ending, course⟩ := exists_course extract event (ds.take count) w
    obtain ⟨d, spec, v, there, asks, clean, found, answers⟩ :=
      course.answered (course.outcome bs) asked here filled
    refine ⟨d, spec, v, there, asks, answers.same, ?_⟩
    intro got
    have shape : v.shape = got.asked.shape := got.request.shape_value v found
    have some : v.size ≠ 0 := Nat.ne_of_gt (Nat.lt_of_lt_of_eq filled answers.length)
    refine ⟨found, shape, answers.length, answers.output, ?_, fun same => ?_⟩
    · rw [← shape]
      exact ⟨fun delivers => delivers.same answers asks some,
        fun ⟨type, single⟩ => answers.delivers asks type single clean some⟩
    · rw [same] at shape
      refine answers.delivers asks (congrArg FieldShape.type shape) (fun single => ?_) clean some
      rw [← shape] at single
      exact FieldValue.size_of_single single

/-- An extractor that answers every request with another one, which asks for a number. -/
def replacing : Extractor Unit := fun spec _ w =>
  let asked : FieldSpec := { spec with shape := ⟨.number, false⟩ }
  ⟨w, asked, (FieldRequest.unset asked).attempt (.number 7), .done⟩

/-- Extractors that answer a request for a number, and close their own instance before. -/
def departing (h : Handle) : Behaviour Unit Unit := fun thread _ spec _ host =>
  ⟨(host.closeInstance thread h).1, spec, (FieldRequest.unset spec).attempt (.number 5), .done⟩

/-- A host that asks for a text finds a number behind the descriptor if the request was replaced. And
if an instance closes itself while it extracts in place, the descriptor refers to its buffers
although the instance is gone. -/
theorem answer_of_other_shape :
    let text : Descriptor := ⟨0, some [102], none, 9, false, .foreign, 0⟩
    let x := extractFields replacing (some ⟨0, 0, none, 0⟩) 1 (some [text]) () []
    let h : Handle := ⟨1, by decide, by decide⟩
    let number : Descriptor := { text with type := 8 }
    let host := ((Host.new {} 1 ()).openInstance .main ()).1
    let r := Host.extract (departing h) .main h ⟨some ⟨0, 0, none, 0⟩, 1, some [number]⟩ host
    x.ending = .done ∧ x.fields = [{ text with result := .numbers 0, length := 1 }] ∧
      x.fields.map (Descriptor.output x.buffers) = [.numbers [7]] ∧
      r.result = .ok (.ok .success) ∧
      r.fields = some [{ number with result := .numbers 0, length := 1 }] ∧
      r.host.isEmpty ∧ r.host.buffersOf? h = none := by
  decide +kernel

end PluginBridge
