import PluginBridge.Host.Extraction
import PluginBridge.Proofs.Field.Worlds

/-!
# Extractors that do not call back

An extractor may change the states of instances, what extractors share and what was told. If it does
not call back into its host, it leaves alone what the host keeps of its instances: the engine, the
handles, and what is bound to each instance. An extraction with such an extractor leaves them alone
as well, whether it succeeds, fails or panics (`extractInPlace_quiet`, `serveJob_quiet`). If the
extractor does not panic either, an extraction comes back with a code (`extractInPlace_tame`).
-/

namespace PluginBridge

/-- What a host has bound to an instance: its client, and whether that and the buffers are in use. -/
structure Ties where
  client : Option Client
  clientHeld : Bool
  buffersHeld : Bool
  deriving DecidableEq

variable {S G : Type}

/-- What is bound to an instance. -/
def Instance.ties (i : Instance S) : Ties := ⟨i.client, i.clientHeld, i.buffersHeld⟩

namespace Host

/-- What is bound to an instance by its identity. -/
def ties? (host : Host S G) (id : InstanceId) : Option Ties := host.instances[id]?.map Instance.ties

/-- A host that is like another one in everything that a host keeps of its instances. -/
structure Beside (a b : Host S G) : Prop where
  engine : b.engine = a.engine
  table : b.table = a.table
  ties : ∀ id, b.ties? id = a.ties? id

variable {host a b c : Host S G} {id : InstanceId} {t : Ties}

namespace Beside

theorem refl (host : Host S G) : host.Beside host := ⟨rfl, rfl, fun _ => rfl⟩

theorem trans (h : a.Beside b) (h' : b.Beside c) : a.Beside c :=
  ⟨h'.engine.trans h.engine, h'.table.trans h.table, fun id => (h'.ties id).trans (h.ties id)⟩

theorem tell (host : Host S G) (thread : Thread) (notice : Notice) :
    host.Beside (host.tell thread notice) :=
  ⟨rfl, rfl, fun _ => rfl⟩

/-- No instance is made. -/
theorem length (h : a.Beside b) : b.instances.length = a.instances.length := by
  have ties : b.instances.map Instance.ties = a.instances.map Instance.ties := by
    apply List.ext_getElem?
    intro id
    rw [List.getElem?_map, List.getElem?_map]
    exact h.ties id
  simpa using congrArg List.length ties

end Beside

/-- What a change of one instance does to what is bound to each. -/
theorem ties?_modify {f : Instance S → Instance S} {g : Ties → Ties}
    (h : ∀ i, (f i).ties = g i.ties) (host : Host S G) (id j : InstanceId) :
    (host.modify id f).ties? j = if j = id then (host.ties? j).map g else host.ties? j := by
  simp only [ties?, modify, List.getElem?_modify]
  by_cases hj : j = id
  · subst hj
    cases host.instances[j]? <;> simp [h]
  · simp [hj, Ne.symm hj]

theorem Beside.modify {f : Instance S → Instance S} (h : ∀ i, (f i).ties = i.ties)
    (host : Host S G) (id : InstanceId) : host.Beside (host.modify id f) := by
  refine ⟨rfl, rfl, fun j => ?_⟩
  rw [ties?_modify (g := fun t => t) h]
  split <;> simp

theorem Beside.keepError (host : Host S G) (id : InstanceId) (e : ExtractError) :
    host.Beside (host.keepError id e) :=
  Beside.modify (f := fun i => { i with lastError := some (withoutNul e.message) })
    (fun _ => rfl) host id

theorem Beside.writeFields (host : Host S G) (address : Nat) (fields : Option (List Descriptor)) :
    host.Beside (host.writeFields address fields) := by
  rw [Host.writeFields]
  split <;> exact ⟨rfl, rfl, fun _ => rfl⟩

/-- Holding the buffers of an instance shows in nothing else. -/
theorem ties?_holdBuffers (host : Host S G) (thread : Thread) (id j : InstanceId) :
    (host.holdBuffers thread id).ties? j =
      if j = id then (host.ties? j).map fun t => { t with buffersHeld := true }
      else host.ties? j := by
  rw [holdBuffers]
  split <;> exact ties?_modify (fun _ => rfl) _ id j

theorem engine_holdBuffers (host : Host S G) (thread : Thread) (id : InstanceId) :
    (host.holdBuffers thread id).engine = host.engine := by
  rw [holdBuffers]
  split <;> rfl

theorem table_holdBuffers (host : Host S G) (thread : Thread) (id : InstanceId) :
    (host.holdBuffers thread id).table = host.table := by
  rw [holdBuffers]
  split <;> rfl

/-- Buffers that are held for a while and given back are as before. -/
theorem Beside.putBuffers {thread : Thread} (held : (host.holdBuffers thread id).Beside b)
    (bound : host.ties? id = some t) (free : t.buffersHeld = false) (buffers : Buffers)
    (ending : Ending) : host.Beside (b.putBuffers id buffers ending) := by
  refine ⟨held.engine.trans (engine_holdBuffers ..), held.table.trans (table_holdBuffers ..),
    fun j => ?_⟩
  refine (ties?_modify (g := fun t => { t with buffersHeld := false }) (fun _ => rfl) b id j).trans ?_
  rw [held.ties, ties?_holdBuffers]
  by_cases hj : j = id
  · subst hj
    simp only [if_true, bound, Option.map_some]
    rw [← free]
  · simp [hj]

end Host

/-- Extractors that do not call back, and so never wait for a call that cannot be answered. -/
structure Quiet (behaviour : Behaviour S G) : Prop where
  keeps : ∀ thread id spec view (host : Host S G), host.Beside (behaviour thread id spec view host).world
  returns : ∀ thread id spec view host cause,
    (behaviour thread id spec view host).ending ≠ .escaped (.standstill cause)

/-- Extractors that do not call back and do not panic: each comes back with a result or an error,
and has no hand in the memory of the calls under way. -/
structure Tame (behaviour : Behaviour S G) : Prop where
  keeps : ∀ thread id spec view (host : Host S G), host.Beside (behaviour thread id spec view host).world
  memory : ∀ thread id spec view (host : Host S G),
    (behaviour thread id spec view host).world.memory = host.memory
  comes : ∀ thread id spec view host escape,
    (behaviour thread id spec view host).ending ≠ .escaped escape

theorem Tame.quiet {behaviour : Behaviour S G} (tame : Tame behaviour) : Quiet behaviour :=
  ⟨tame.keeps, fun thread id spec view host _ => tame.comes thread id spec view host _⟩

namespace Host

variable {behaviour : Behaviour S G} {host : Host S G} {id : InstanceId} {t : Ties}

/-- A call that came back with a code, or with a panic of its extractor. -/
def Returned (reply : Except Escape ResultCode) : Prop :=
  (∃ code, reply = .ok code) ∨ ∃ message, reply = .error (.panic message)

theorem unheld_of_ties? (bound : host.ties? id = some t) (free : t.buffersHeld = false) :
    ¬ host.instances[id]?.any Instance.buffersHeld := by
  obtain ⟨i, hi, rfl⟩ := Option.map_eq_some_iff.1 bound
  have free : i.buffersHeld = false := free
  simp [hi, free]

/-- An extraction with a quiet extractor leaves the host alone and returns. -/
theorem extractInPlace_quiet (quiet : Quiet behaviour) (bound : host.ties? id = some t)
    (free : t.buffersHeld = false) (thread : Thread) (call : Call) :
    host.Beside (extractInPlace behaviour thread id call host).1 ∧
      Returned (extractInPlace behaviour thread id call host).2.2 := by
  simp only [extractInPlace, if_neg (unheld_of_ties? bound free)]
  generalize hx : extractFields (behaviour thread id) call.event call.count call.fields
    (host.holdBuffers thread id) ((host.holdBuffers thread id).instances[id]?.elim []
      Instance.buffers) = x
  have world : (host.holdBuffers thread id).Beside x.world :=
    hx ▸ extractFields_world Beside.refl Beside.trans (quiet.keeps thread id) ..
  have escaped (e : Escape) (he : x.ending = .escaped e) : ∃ message, e = .panic message := by
    subst hx
    refine extractFields_escaped (P := fun e => ∃ message, e = .panic message)
      (fun spec view w y hy => ?_) he
    cases y with
    | panic message => exact ⟨message, rfl⟩
    | standstill cause => exact absurd hy (quiet.returns thread id spec view w cause)
  have back := world.putBuffers bound free x.buffers x.ending
  generalize x.ending = ending at back escaped
  cases ending with
  | done => exact ⟨back, .inl ⟨_, rfl⟩⟩
  | failed e =>
    have told := back.trans (Beside.tell _ thread (.extractionFailed e))
    exact ⟨told.trans (Beside.keepError _ id e), .inl ⟨_, rfl⟩⟩
  | escaped e =>
    obtain ⟨message, rfl⟩ := escaped e rfl
    exact ⟨back, .inr ⟨message, rfl⟩⟩

/-- An extraction leaves the memory of the calls under way alone if its extractor does. -/
theorem memory_extractInPlace (thread : Thread) (id : InstanceId)
    (kept : ∀ spec view host, (behaviour thread id spec view host).world.memory = host.memory)
    (call : Call) (host : Host S G) :
    (extractInPlace behaviour thread id call host).1.memory = host.memory := by
  have hold : (host.holdBuffers thread id).memory = host.memory := by
    rw [holdBuffers]
    split <;> rfl
  simp only [extractInPlace]
  split
  · rfl
  · have kept := extractFields_world (R := fun a b : Host S G => b.memory = a.memory)
      (fun _ => rfl) (fun h h' => h'.trans h) kept call.event call.count call.fields
      (host.holdBuffers thread id)
      ((host.holdBuffers thread id).instances[id]?.elim [] Instance.buffers)
    split <;> exact kept.trans hold

/-- An extraction with a tame extractor comes back with a code. -/
theorem extractInPlace_tame (tame : Tame behaviour) (bound : host.ties? id = some t)
    (free : t.buffersHeld = false) (thread : Thread) (call : Call) :
    ∃ code, (extractInPlace behaviour thread id call host).2.2 = .ok code := by
  simp only [extractInPlace, if_neg (unheld_of_ties? bound free)]
  split
  · exact ⟨_, rfl⟩
  · exact ⟨_, rfl⟩
  · next escape escaped =>
    exact (extractFields_escaped (P := fun _ => False)
      (fun spec view w x => tame.comes thread id spec view w x) escaped).elim

/-- A worker that serves a job of an open instance with a quiet extractor leaves the host alone and
returns as well. -/
theorem serveJob_quiet (quiet : Quiet behaviour) {job : Job}
    (used : host.table.get? job.handle = some id) (bound : host.ties? id = some t)
    (free : t.buffersHeld = false) (slot worker : Nat) :
    host.Beside (serveJob behaviour slot worker job host).1 ∧
      Returned (serveJob behaviour slot worker job host).2 := by
  have lookup : host.table.lookup job.handle = .ok id := by rw [HandleTable.lookup, used]
  obtain ⟨beside, returned⟩ :=
    extractInPlace_quiet quiet bound free (.worker worker) (host.resolve job)
  simp only [serveJob, lookup]
  have written := beside.trans (Beside.writeFields _ job.fields
    (extractInPlace behaviour (.worker worker) id (host.resolve job) host).2.1)
  rcases returned with ⟨code, ok⟩ | ⟨message, panic⟩
  · rw [ok]
    exact ⟨written, .inl ⟨code, rfl⟩⟩
  · rw [panic]
    exact ⟨written.trans (Beside.tell ..), .inr ⟨message, rfl⟩⟩

end Host

end PluginBridge
