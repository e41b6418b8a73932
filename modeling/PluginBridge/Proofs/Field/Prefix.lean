import Mathlib.Logic.ExistsUnique
import PluginBridge.Proofs.Field.Courses

/-!
# How far an extraction gets

An extraction answers the descriptors before the first one that fails, and leaves that one and those
after it without a result. `StopsAt` says this for the descriptors of a call, the calls of the
extractor included; `extracts_until_first_failure` says that it holds at exactly one place, for every
extractor. The calls are those that the same extraction makes if its extractor notes them down
(`traced`).
-/

namespace PluginBridge

variable {W : Type} {extract : Extractor W} {event : Event} {d : Descriptor} {ds : List Descriptor}
  {w : W} {values : List (Option FieldValue)} {ending : Ending}

/-- A call of an extractor: what is asked for, and the view of the event. -/
abbrev FieldCall := FieldSpec × EventView

/-- An extractor that notes down its calls. -/
def traced (extract : Extractor W) : Extractor (W × List FieldCall) := fun spec view w =>
  let got := extract spec view w.1
  ⟨(got.world, w.2 ++ [(spec, view)]), got.asked, got.request, got.ending⟩

/-- The call that is made for a descriptor, unless it has a fault. -/
def callFor (event : Event) (d : Descriptor) : Option FieldCall :=
  d.spec?.toOption.map (·, event.view)

/-- What an extraction of `ds` leaves behind, and which calls it makes, if the field at place `k` is
the first that fails. No field fails if `k` is the number of descriptors. -/
structure StopsAt (extract : Extractor W) (event : Event) (ds : List Descriptor) (w : W)
    (x : Extraction W) (calls : List FieldCall) (k : Nat) : Prop where
  passed : ∀ i < k, ∃ d v d', ds[i]? = some d ∧ x.fields[i]? = some d' ∧
    Verdict extract event d (met extract event ds w i) (.ok v) ∧ Answers x.buffers d v d'
  stopped : k = ds.length ∧ x.ending = .done ∨
    ∃ d, ds[k]? = some d ∧ Verdict extract event d (met extract event ds w k) (.error x.ending)
  absent : ∀ i, k ≤ i → i < ds.length → x.fields[i]? = ds[i]?.map Descriptor.clear
  world : x.world = met extract event ds w (k + 1)
  /-- Each call sees the whole payload, from its start. -/
  called : ∀ i spec view, calls[i]? = some (spec, view) ↔
    i ≤ k ∧ view = ⟨event.num, event.time, ⟨(event.data.getD []).take event.length, 0⟩⟩ ∧
      ∃ d, ds[i]? = some d ∧ Asks d spec

/-! ## Noting down the calls -/

theorem callFor_eq_some {call : FieldCall} :
    callFor event d = some call ↔ Asks d call.1 ∧ call.2 = event.view := by
  obtain ⟨spec, view⟩ := call
  rw [← Descriptor.spec?_eq_ok, callFor]
  cases d.spec? with
  | error f => simp [Except.toOption]
  | ok spec' => simp [Except.toOption, eq_comm]

theorem after_traced (calls : List FieldCall) :
    after (traced extract) event (w, calls) d =
      (after extract event w d, calls ++ (callFor event d).toList) := by
  rcases d.asks_or_faulty with ⟨spec, asks⟩ | ⟨f, faulty⟩
  · rw [after_of_asks asks, after_of_asks asks, callFor, Descriptor.spec?_of_asks asks]
    rfl
  · rw [after_of_faulty faulty, after_of_faulty faulty, callFor, Descriptor.spec?_of_faulty faulty]
    exact congrArg (Prod.mk w) (List.append_nil calls).symm

theorem met_traced (calls : List FieldCall) (i : Nat) :
    met (traced extract) event ds (w, calls) i =
      (met extract event ds w i, calls ++ (ds.take i).filterMap (callFor event)) := by
  induction ds generalizing w calls i with
  | nil => simp [met]
  | cons d ds ih =>
    cases i with
    | zero => exact congrArg (Prod.mk w) (List.append_nil calls).symm
    | succ i =>
      rw [met_cons, met_cons, after_traced, ih, List.take_succ_cons, List.append_assoc]
      cases h : callFor event d <;> simp [h]

theorem Verdict.traced {r : Except Ending (Option FieldValue)}
    (verdict : Verdict extract event d w r) (calls : List FieldCall) :
    Verdict (traced extract) event d (w, calls) r := by
  cases verdict with
  | faulty faulty => exact .faulty faulty
  | failed asks failed bad => exact .failed asks failed bad
  | nul asks done left nul => exact .nul asks done left nul
  | passed asks done clean =>
    exact @Verdict.passed _ (PluginBridge.traced extract) _ _ (w, calls) _ asks done clean

namespace Course

theorem traced (course : Course extract event ds w values ending) (calls : List FieldCall) :
    Course (traced extract) event ds (w, calls) values ending := by
  induction course generalizing calls with
  | nil => exact .nil
  | stop verdict => exact .stop (verdict.traced calls)
  | pass verdict rest ih =>
    refine .pass (verdict.traced calls) ?_
    rw [after_traced]
    exact ih _

/-- The calls are those for the descriptors up to the one that fails, place by place: only the last
of these may have a fault. -/
theorem getElem?_calls (course : Course extract event ds w values ending) (i : Nat) :
    ((ds.take (values.length + 1)).filterMap (callFor event))[i]? =
      (ds.take (values.length + 1))[i]?.bind (callFor event) := by
  induction course generalizing i with
  | nil => rfl
  | @stop d ds w ending verdict =>
    rw [List.length_nil, List.take_succ_cons, List.take_zero]
    cases h : callFor event d <;> cases i <;> simp [h]
  | @pass d ds w v values ending verdict rest ih =>
    obtain ⟨call, here⟩ : ∃ call, callFor event d = some call := by
      obtain ⟨spec, asks, -⟩ := verdict.passes
      exact ⟨(spec, event.view), callFor_eq_some.2 ⟨asks, rfl⟩⟩
    rw [List.length_cons, List.take_succ_cons, List.filterMap_cons_some here]
    cases i with
    | zero => exact here.symm
    | succ i => exact ih i

/-- The calls are those for the descriptors up to the one that fails that ask for something. -/
theorem called (course : Course extract event ds w values ending) (i : Nat) (call : FieldCall) :
    ((ds.take (values.length + 1)).filterMap (callFor event))[i]? = some call ↔
      i ≤ values.length ∧ call.2 = event.view ∧ ∃ d, ds[i]? = some d ∧ Asks d call.1 := by
  rw [course.getElem?_calls, Option.bind_eq_some_iff]
  constructor
  · rintro ⟨d, here, made⟩
    have within : i < values.length + 1 :=
      Nat.lt_of_lt_of_le (List.getElem?_eq_some_iff.1 here).1 (List.length_take_le ..)
    rw [List.getElem?_take_of_lt within] at here
    obtain ⟨asks, view⟩ := callFor_eq_some.1 made
    exact ⟨Nat.le_of_lt_succ within, view, d, here, asks⟩
  · rintro ⟨within, view, d, here, asks⟩
    refine ⟨d, ?_, callFor_eq_some.2 ⟨asks, view⟩⟩
    rw [List.getElem?_take_of_lt (Nat.lt_succ_of_le within), here]

end Course

/-! ## What is left behind -/

/-- An extraction stops after the fields with values. -/
theorem Course.stopsAt {count : Nat} (course : Course extract event (ds.take count) w values ending)
    (bs : Buffers) :
    StopsAt extract event (ds.take count) w
      (extractFields extract (some event) count (some ds) w bs)
      (extractFields (PluginBridge.traced extract) (some event) count (some ds) (w, []) bs).world.2
      values.length := by
  have left := course.outcome bs
  refine ⟨fun i before => ?_, ?_, fun i past inside => ?_, left.world, fun i spec view => ?_⟩
  · obtain ⟨v, value⟩ : ∃ v, values[i]? = some v := ⟨_, List.getElem?_eq_getElem before⟩
    obtain ⟨d, here, passed⟩ := course.passes value
    have asked : i < count :=
      Nat.lt_of_lt_of_le (List.getElem?_eq_some_iff.1 here).1 (List.length_take_le ..)
    have there : ds[i]? = some d := (List.getElem?_take_of_lt asked).symm.trans here
    have answers := left.answers i d
    simp only [value, Option.join_some] at answers
    refine ⟨d, v, d.clear.showing i v, here, ?_, passed, answers⟩
    simp only [left.asked i asked, there, value, Option.map_some, Option.join_some]
  · rw [left.ending]
    exact course.ends
  · have asked : i < count := Nat.lt_of_lt_of_le inside (List.length_take_le ..)
    rw [left.asked i asked, List.getElem?_take_of_lt asked, List.getElem?_eq_none past]
    rfl
  · rw [((course.traced []).outcome bs).world, met_traced, List.nil_append]
    exact course.called i (spec, view)

/-- An extraction stops at one place only. -/
theorem StopsAt.unique {x : Extraction W} {calls : List FieldCall} {k k' : Nat}
    (stops : StopsAt extract event ds w x calls k) (stops' : StopsAt extract event ds w x calls k') :
    k = k' := by
  have never {k k' : Nat} (stops : StopsAt extract event ds w x calls k)
      (stops' : StopsAt extract event ds w x calls k') : ¬ k < k' := by
    intro before
    obtain ⟨d, v, d', here, -, passed, -⟩ := stops'.passed k before
    rcases stops.stopped with ⟨all, -⟩ | ⟨d'', here', failed⟩
    · rw [List.getElem?_eq_none (Nat.le_of_eq all.symm)] at here
      cases here
    · cases here.symm.trans here'
      cases passed.unique failed
  exact Nat.le_antisymm (Nat.not_lt.1 (never stops' stops)) (Nat.not_lt.1 (never stops stops'))

/-- An extraction does what is asked for up to the first field that fails, and no more. Without an
event, without descriptors or without an array it changes nothing. -/
theorem extracts_until_first_failure (extract : Extractor W) (w : W) (bs : Buffers) :
    (∀ count fields, extractFields extract none count fields w bs =
      ⟨w, bs, fields.getD [], .failed (.invalidField .noEvent)⟩) ∧
    (∀ event fields, extractFields extract (some event) 0 fields w bs =
      ⟨w, bs, fields.getD [], .done⟩) ∧
    (∀ event count, extractFields extract (some event) (count + 1) none w bs =
      ⟨w, bs, [], .failed (.invalidField .noFields)⟩) ∧
    ∀ event count ds,
      let x := extractFields extract (some event) count (some ds) w bs
      let noted := extractFields (traced extract) (some event) count (some ds) (w, []) bs
      x.fields.drop count = ds.drop count ∧
        ∃! k, StopsAt extract event (ds.take count) w x noted.world.2 k := by
  refine ⟨fun _ _ => rfl, fun _ _ => rfl, fun _ _ => rfl, fun event count ds => ?_⟩
  obtain ⟨values, ending, course⟩ := exists_course extract event (ds.take count) w
  refine ⟨List.ext_getElem? fun i => ?_, values.length, course.stopsAt bs,
    fun k stops => stops.unique (course.stopsAt bs)⟩
  rw [List.getElem?_drop, List.getElem?_drop, (course.outcome bs).others _ (Nat.le_add_right _ _)]

end PluginBridge
