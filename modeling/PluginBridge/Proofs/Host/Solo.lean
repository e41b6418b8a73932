import PluginBridge.Proofs.Host.Calls

/-!
# Extractors that work on their own

A solo extractor works on the state of its instance and on what all extractors share. It knows
neither its host nor its thread, and it comes back with a result or an error. Two hosts are alike if
they differ in nothing that such an extractor or the caller of an extraction can tell: their engines,
their journals, and who uses which client. Then an extraction in one of them comes to the same as in
the other, whichever threads do it (`extractInPlace_alike`).
-/

namespace PluginBridge

/-- What a solo extractor leaves behind. -/
structure Yield (S G : Type) where
  state : S
  shared : G
  /-- What the request asks for that the extractor leaves. -/
  asked : FieldSpec
  request : FieldRequest asked
  /-- Why the field could not be extracted, if it could not. -/
  fault : Option ExtractError := none

/-- What the instances of a host do when they extract, each on its own. -/
abbrev SoloExtractor (S G : Type) :=
  InstanceId → FieldSpec → EventView → S → G → Yield S G

/-- A call that an extractor was given. -/
structure Visit where
  id : InstanceId
  spec : FieldSpec
  event : EventView
  deriving DecidableEq, Repr

/-- What extractors share, and the calls that they were given, newest first. -/
structure Ledger (G : Type) where
  shared : G
  visits : List Visit := []

variable {S G : Type}

/-- The end of a call that comes back. -/
def endingOf : Option ExtractError → Ending
  | none => .done
  | some e => .failed e

/-- Solo extractors in a host, which keeps a record of their calls. -/
def SoloExtractor.behaviour (solo : SoloExtractor S G) : Behaviour S (Ledger G) :=
  fun _ id spec event host =>
    match host.instances[id]? with
    | none => ⟨host, spec, .unset spec, .done⟩
    | some i =>
      let y := solo id spec event i.state host.shared.shared
      ⟨{ host.modify id fun i => { i with state := y.state } with
          shared := ⟨y.shared, ⟨id, spec, event⟩ :: host.shared.visits⟩ },
        y.asked, y.request, endingOf y.fault⟩

theorem endingOf_ne_escaped (fault : Option ExtractError) (x : Escape) :
    endingOf fault ≠ .escaped x := by
  cases fault <;> simp [endingOf]

/-- A solo extractor does not call back, and comes back. -/
theorem SoloExtractor.tame (solo : SoloExtractor S G) : Tame solo.behaviour where
  keeps thread id spec event host := by
    unfold behaviour
    split
    · exact Host.Beside.refl host
    · next i found =>
      let y := solo id spec event i.state host.shared.shared
      have kept := Host.Beside.modify (f := fun i => { i with state := y.state }) (fun _ => rfl) host id
      exact ⟨kept.engine, kept.table, kept.ties⟩
  memory thread id spec event host := by
    unfold behaviour
    split <;> rfl
  comes thread id spec event host escape := by
    unfold behaviour
    split
    · simp
    · exact endingOf_ne_escaped _ _

theorem SoloExtractor.quiet (solo : SoloExtractor S G) : Quiet solo.behaviour := solo.tame.quiet

/-! ## Hosts that are alike -/

section

variable {α β γ : Type} {l m : List α}

/-- Lists that look alike still do when a member of each is changed in a way that looks alike. -/
theorem map_modify_congr {p : α → β} (same : m.map p = l.map p) (k : Nat) {f g : α → α}
    (change : ∀ x y, p x = p y → p (f x) = p (g y)) :
    (m.modify k g).map p = (l.modify k f).map p := by
  apply List.ext_getElem?
  intro j
  have here := congrArg (·[j]?) same
  simp only [List.getElem?_map, List.getElem?_modify] at here ⊢
  cases hm : m[j]? with
  | none =>
    rw [hm, Option.map_none, eq_comm, Option.map_eq_none_iff] at here
    rw [here]
    rfl
  | some y =>
    rw [hm, Option.map_some, eq_comm, Option.map_eq_some_iff] at here
    obtain ⟨x, hl, here⟩ := here
    simp only [hl, Option.map_eq_map, Option.map_some, Option.some.injEq]
    by_cases hj : k = j
    · rw [if_pos hj, if_pos hj]
      exact (change x y here).symm
    · rw [if_neg hj, if_neg hj]
      exact here.symm

/-- What shows through the looks of a member is the same in lists that look alike. -/
theorem map_getElem?_congr {p : α → α} (same : m.map p = l.map p) (k : Nat) {f : α → γ}
    (through : ∀ x, f (p x) = f x) : m[k]?.map f = l[k]?.map f := by
  have looks (l : List α) : l[k]?.map f = (l.map p)[k]?.map f := by
    rw [List.getElem?_map, Option.map_map]
    exact congrArg (Option.map · _) (funext fun x => (through x).symm)
  rw [looks m, looks l, same]

end

/-- An instance without what binds it to the engine. -/
def Instance.apart (i : Instance S) : Instance S := { i with client := none, clientHeld := false }

namespace Host

/-- Two hosts that differ in their engines, their memories and their journals at most. -/
structure Alike (a b : Host S G) : Prop where
  table : b.table = a.table
  shared : b.shared = a.shared
  instances : b.instances.map Instance.apart = a.instances.map Instance.apart

variable {a b c host : Host S G} {id : InstanceId}

namespace Alike

theorem refl (host : Host S G) : host.Alike host := ⟨rfl, rfl, rfl⟩

theorem symm (h : a.Alike b) : b.Alike a :=
  ⟨h.table.symm, h.shared.symm, h.instances.symm⟩

theorem trans (h : a.Alike b) (h' : b.Alike c) : a.Alike c :=
  ⟨h'.table.trans h.table, h'.shared.trans h.shared, h'.instances.trans h.instances⟩

theorem tell (host : Host S G) (thread : Thread) (notice : Notice) :
    host.Alike (host.tell thread notice) :=
  ⟨rfl, rfl, rfl⟩

theorem tellAll (host : Host S G) (thread : Thread) (notices : List Notice) :
    host.Alike (host.tellAll thread notices) := by
  induction notices generalizing host with
  | nil => exact refl host
  | cons notice rest ih => exact (tell host thread notice).trans (ih _)

/-- Hosts that are alike have made equally many instances. -/
theorem length (h : a.Alike b) : b.instances.length = a.instances.length := by
  simpa using congrArg List.length h.instances

/-- What depends on nothing but the instance without its client is the same. -/
theorem congr {α : Type} (h : a.Alike b) (id : InstanceId) {f : Instance S → α}
    (apart : ∀ i, f i.apart = f i) : b.instances[id]?.map f = a.instances[id]?.map f :=
  map_getElem?_congr h.instances id apart

theorem any (h : a.Alike b) (id : InstanceId) {p : Instance S → Bool}
    (apart : ∀ i, p i.apart = p i) : b.instances[id]?.any p = a.instances[id]?.any p := by
  have map (o : Option (Instance S)) : o.any p = (o.map p).getD false := by
    cases o <;> rfl
  rw [map, map, h.congr id apart]

theorem buffers (h : a.Alike b) (id : InstanceId) :
    b.instances[id]?.elim [] Instance.buffers = a.instances[id]?.elim [] Instance.buffers := by
  have map (o : Option (Instance S)) :
      o.elim [] Instance.buffers = (o.map Instance.buffers).getD [] := by
    cases o <;> rfl
  rw [map, map, h.congr id (f := Instance.buffers) fun _ => rfl]

theorem modify (h : a.Alike b) (id : InstanceId) {f g : Instance S → Instance S}
    (same : ∀ i j : Instance S, i.apart = j.apart → (f i).apart = (g j).apart) :
    (a.modify id f).Alike (b.modify id g) :=
  ⟨h.table, h.shared, map_modify_congr h.instances id same⟩

/-- A change of the client of an instance, or of its use, is not seen. -/
theorem modify_apart (host : Host S G) (id : InstanceId) {f : Instance S → Instance S}
    (same : ∀ i, (f i).apart = i.apart) : host.Alike (host.modify id f) := by
  have none : host.modify id (fun i => i) = host := by
    have kept : host.instances.modify id (fun i => i) = host.instances := List.modify_id ..
    rw [Host.modify, kept]
  have changed := (refl host).modify id (f := fun i => i) (g := f)
    fun i j alike => alike.trans (same j).symm
  rwa [none] at changed

end Alike

/-! ## Extractions of hosts that are alike -/

theorem Alike.holdBuffers (h : a.Alike b) (s t : Thread) (id : InstanceId) :
    (a.holdBuffers s id).Alike (b.holdBuffers t id) := by
  have told (host : Host S G) (thread : Thread) (p : Bool) :
      host.Alike (if p then host.tell thread .buffersRecovered else host) := by
    split
    · exact tell ..
    · exact refl _
  rw [Host.holdBuffers, Host.holdBuffers]
  refine ((told a s _).symm.trans (h.trans (told b t _))).modify id fun i j same => ?_
  simp only [Instance.apart, Instance.mk.injEq] at same ⊢
  simp [same]

theorem Alike.putBuffers (h : a.Alike b) (id : InstanceId) (buffers : Buffers) (ending : Ending) :
    (a.putBuffers id buffers ending).Alike (b.putBuffers id buffers ending) := by
  refine h.modify id fun i j same => ?_
  simp only [Instance.apart, Instance.mk.injEq] at same ⊢
  simp [same]

theorem Alike.keepError (h : a.Alike b) (id : InstanceId) (e : ExtractError) :
    (a.keepError id e).Alike (b.keepError id e) := by
  refine h.modify id fun i j same => ?_
  simp only [Instance.apart, Instance.mk.injEq] at same ⊢
  simp [same]

/-- A call of a solo extractor comes to the same in hosts that are alike. -/
theorem Alike.behaviour {a b : Host S (Ledger G)} (h : a.Alike b) (solo : SoloExtractor S G)
    (s t : Thread) (id : InstanceId) (spec : FieldSpec) (event : EventView) :
    (solo.behaviour s id spec event a).Alike Alike (solo.behaviour t id spec event b) := by
  have state := h.congr id (f := Instance.state) fun _ => rfl
  unfold SoloExtractor.behaviour
  cases ha : a.instances[id]? with
  | none =>
    rw [ha] at state
    cases hb : b.instances[id]? with
    | none => exact ⟨h, rfl, rfl⟩
    | some j => rw [hb] at state; cases state
  | some i =>
    rw [ha] at state
    cases hb : b.instances[id]? with
    | none => rw [hb] at state; cases state
    | some j =>
      rw [hb] at state
      simp only [Option.map_some, Option.some.injEq] at state
      have changed := h.modify id
        (f := fun i => { i with state := (solo id spec event j.state b.shared.shared).state })
        (g := fun i => { i with state := (solo id spec event j.state b.shared.shared).state })
        fun i j same => by
          simp only [Instance.apart, Instance.mk.injEq] at same ⊢
          simp [same]
      dsimp only
      rw [← state, ← h.shared]
      exact ⟨⟨changed.table, rfl, changed.instances⟩, rfl, rfl⟩

section

variable {a b host : Host S (Ledger G)} (solo : SoloExtractor S G)

/-- An extraction with a solo extractor comes to the same in hosts that are alike, on whichever
threads it is done. -/
theorem extractInPlace_alike (h : a.Alike b) (s t : Thread) (id : InstanceId) (call : Call) :
    (extractInPlace solo.behaviour s id call a).1.Alike
        (extractInPlace solo.behaviour t id call b).1 ∧
      (extractInPlace solo.behaviour t id call b).2 =
        (extractInPlace solo.behaviour s id call a).2 := by
  have held : b.instances[id]?.any Instance.buffersHeld = a.instances[id]?.any Instance.buffersHeld :=
    h.any id fun _ => rfl
  simp only [extractInPlace, held]
  by_cases busy : a.instances[id]?.any Instance.buffersHeld
  · simp only [if_pos busy]
    exact ⟨h, trivial⟩
  simp only [if_neg busy]
  have holding := h.holdBuffers s t id
  rw [holding.buffers id]
  have alike := extractFields_alike
    (fun spec event w v (alike : Host.Alike w v) => alike.behaviour solo s t id spec event)
    call.event call.count call.fields holding
    ((a.holdBuffers s id).instances[id]?.elim [] Instance.buffers)
  generalize extractFields (solo.behaviour s id) _ _ _ _ _ = x at alike ⊢
  generalize extractFields (solo.behaviour t id) _ _ _ _ _ = y at alike ⊢
  obtain ⟨world, buffers, fields, ending⟩ := alike
  rw [buffers, fields, ending]
  have back := world.putBuffers id x.buffers x.ending
  generalize x.ending = ending at back ⊢
  cases ending with
  | done => exact ⟨back, rfl⟩
  | failed e =>
    exact ⟨((Alike.tell ..).symm.trans (back.trans (Alike.tell ..))).keepError id e, rfl⟩
  | escaped e => exact ⟨back, rfl⟩

end

end Host

end PluginBridge
