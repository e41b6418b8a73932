import PluginBridge.Proofs.Engine.Likeness
import PluginBridge.Proofs.Host.Paths

/-!
# Hosts that differ in what they say about failures

A host keeps the message of each instance's last failure, remembers which buffers a panic struck,
and tells what happens. None of this has a part in what it does. Hosts that differ in nothing else
(`Host.Twin`) answer every call alike but the one for a message, as long as no extractor asks for
one (`Blind`), and are twins again afterwards (`Twin.perform`).
-/

namespace PluginBridge

variable {S G R : Type}

/-- An instance without the message of its last failure and without the mark of a panic. -/
def Instance.untold (i : Instance S) : Instance S :=
  { i with lastError := none, buffersPoisoned := false }

namespace Host

/-- Two hosts that differ in messages and marks of failures, in what they told, and in results that
are left in slots. -/
structure Twin (a b : Host S G) : Prop where
  engine : a.engine.Matches b.engine
  table : b.table = a.table
  instances : b.instances.map Instance.untold = a.instances.map Instance.untold
  memory : b.memory = a.memory
  shared : b.shared = a.shared

/-- An operation came to the same in two hosts, and left twins. -/
structure Agree (x y : Host S G × R) : Prop where
  host : x.1.Twin y.1
  answer : x.2 = y.2

variable {a b c : Host S G} {id : InstanceId} {h : Handle} {thread : Thread}

theorem Agree.split {x y : Host S G × R} (agree : Agree x y) :
    ∃ a b r, x = (a, r) ∧ y = (b, r) ∧ a.Twin b :=
  ⟨x.1, y.1, x.2, rfl, by rw [agree.answer], agree.host⟩

namespace Twin

theorem refl (host : Host S G) : host.Twin host := ⟨.refl _, rfl, rfl, rfl, rfl⟩

theorem length (same : a.Twin b) : b.instances.length = a.instances.length := by
  simpa using congrArg List.length same.instances

/-- What depends on nothing but the instance without its failures is the same. -/
theorem congr {α : Type} (same : a.Twin b) (id : InstanceId) {f : Instance S → α}
    (untold : ∀ i, f i.untold = f i) : b.instances[id]?.map f = a.instances[id]?.map f :=
  map_getElem?_congr same.instances id untold

theorem any (same : a.Twin b) (id : InstanceId) {p : Instance S → Bool}
    (untold : ∀ i, p i.untold = p i) : b.instances[id]?.any p = a.instances[id]?.any p := by
  have through (o : Option (Instance S)) : o.any p = (o.map p).getD false := by cases o <;> rfl
  rw [through, through, same.congr id untold]

/-- Changes of an instance that come to the same when its failures are left out. -/
theorem modify (same : a.Twin b) (id : InstanceId) {f g : Instance S → Instance S}
    (change : Instance S → Instance S) (left : ∀ i, (f i).untold = change i.untold)
    (right : ∀ i, (g i).untold = change i.untold) : (a.modify id f).Twin (b.modify id g) := by
  refine ⟨same.engine, same.table, map_modify_congr same.instances id fun i j alike => ?_,
    same.memory, same.shared⟩
  rw [left, right, alike]

theorem withEngine {e e' : Engine} (same : a.Twin b) (engine : e.Matches e') :
    Twin { a with engine := e } { b with engine := e' } :=
  ⟨engine, same.table, same.instances, same.memory, same.shared⟩

theorem withTable (same : a.Twin b) (table : HandleTable InstanceId) :
    Twin { a with table } { b with table } :=
  ⟨same.engine, rfl, same.instances, same.memory, same.shared⟩

theorem withMemory (same : a.Twin b) {memory memory' : List Frame} (eq : memory' = memory) :
    Twin { a with memory } { b with memory := memory' } :=
  ⟨same.engine, same.table, same.instances, eq, same.shared⟩

/-- What is told is not seen. -/
theorem tellAll (same : a.Twin b) (s t : Thread) (ns ms : List Notice) :
    (a.tellAll s ns).Twin (b.tellAll t ms) := by
  have told (host : Host S G) (thread : Thread) (ns : List Notice) :
      ∃ journal, host.tellAll thread ns = { host with journal } := by
    induction ns generalizing host with
    | nil => exact ⟨host.journal, rfl⟩
    | cons n ns ih => exact ih (host.tell thread n)
  obtain ⟨journal, eq⟩ := told a s ns
  obtain ⟨journal', eq'⟩ := told b t ms
  rw [eq, eq']
  exact ⟨same.engine, same.table, same.instances, same.memory, same.shared⟩

theorem tell (same : a.Twin b) (s t : Thread) (n m : Notice) : (a.tell s n).Twin (b.tell t m) :=
  same.tellAll s t [n] [m]

/-! ## Opening and closing -/

theorem start (same : a.Twin b) (thread : Thread) (h : Handle) :
    Agree (a.start thread h) (b.start thread h) := by
  obtain ⟨e, e', r, first, second, engine⟩ := (same.engine.start h).split
  rw [Host.start, Host.start, first, second]
  exact ⟨(same.withEngine engine).tellAll .., rfl⟩

theorem stop (same : a.Twin b) (thread : Thread) (h : Handle) :
    Agree (a.stop thread h) (b.stop thread h) := by
  obtain ⟨e, e', r, first, second, engine⟩ := (same.engine.stop h).split
  rw [Host.stop, Host.stop, first, second]
  exact ⟨(same.withEngine engine).tellAll .., rfl⟩

theorem setEnabled (same : a.Twin b) (enabled : Bool) :
    (a.setEnabled enabled).Twin (b.setEnabled enabled) :=
  same.withEngine (same.engine.perform (.setEnabled enabled)).2

theorem openInstance (same : a.Twin b) (thread : Thread) (state : S) :
    Agree (a.openInstance thread state) (b.openInstance thread state) := by
  rw [Host.openInstance, Host.openInstance]
  simp only [same.table, same.length]
  cases a.table.register a.instances.length with
  | error v => exact ⟨same, rfl⟩
  | ok registered =>
    obtain ⟨h, table⟩ := registered
    have seated : Twin { a with table, instances := a.instances ++ [Instance.fresh state] }
        { b with table, instances := b.instances ++ [Instance.fresh state] } := by
      refine ⟨same.engine, rfl, ?_, same.memory, same.shared⟩
      rw [List.map_append, List.map_append, same.instances]
    obtain ⟨u, v, r, first, second, started⟩ := (seated.start thread h).split
    simp only [first, second]
    cases r with
    | error violation =>
      simp only [started.table]
      cases u.table.revoke h with
      | error v => exact ⟨started, rfl⟩
      | ok revoked => exact ⟨started.withTable revoked.2, rfl⟩
    | ok client =>
      have bound : (u.modify a.instances.length fun i => { i with client }).Twin
          (v.modify a.instances.length fun i => { i with client }) :=
        started.modify _ (fun i => { i with client }) (fun _ => rfl) fun _ => rfl
      exact ⟨bound.tell .., rfl⟩

theorem closeInstance (same : a.Twin b) (thread : Thread) (h : Handle) :
    Agree (a.closeInstance thread h) (b.closeInstance thread h) := by
  rw [Host.closeInstance, Host.closeInstance, same.table]
  cases a.table.lookup h with
  | error v => exact ⟨same, rfl⟩
  | ok id =>
    obtain ⟨u, v, r, first, second, stopped⟩ := (same.stop thread h).split
    simp only [first, second]
    cases r with
    | error v => exact ⟨stopped, rfl⟩
    | ok _ =>
      simp only [stopped.any id (p := Instance.clientHeld) fun _ => rfl]
      split
      · exact ⟨stopped, rfl⟩
      · have away : (u.modify id fun i => { i with client := none }).Twin
            (v.modify id fun i => { i with client := none }) :=
          stopped.modify id (fun i => { i with client := none }) (fun _ => rfl) fun _ => rfl
        simp only [away.table]
        cases (u.modify id fun i => { i with client := none }).table.revoke h with
        | error v => exact ⟨away, rfl⟩
        | ok revoked => exact ⟨(away.withTable revoked.2).tell .., rfl⟩

end Twin

end Host

/-- Extractors that do not ask for messages of failures: in hosts that are twins they come to the
same. -/
def Blind (behaviour : Behaviour S G) : Prop :=
  ∀ thread id spec view (a b : Host S G), a.Twin b →
    (behaviour thread id spec view a).Alike Host.Twin (behaviour thread id spec view b)

namespace Host

variable {a b c : Host S G} {id : InstanceId} {h : Handle} {thread : Thread}
  {behaviour : Behaviour S G}

namespace Twin

/-! ## Extracting -/

theorem holdBuffers (same : a.Twin b) (s t : Thread) (id : InstanceId) :
    (a.holdBuffers s id).Twin (b.holdBuffers t id) := by
  have told (host : Host S G) (thread : Thread) (p : Bool) :
      ∃ ns, (if p then host.tell thread .buffersRecovered else host) = host.tellAll thread ns := by
    split
    · exact ⟨[.buffersRecovered], rfl⟩
    · exact ⟨[], rfl⟩
  rw [Host.holdBuffers, Host.holdBuffers]
  obtain ⟨ns, eq⟩ := told a s (a.instances[id]?.any Instance.buffersPoisoned)
  obtain ⟨ms, eq'⟩ := told b t (b.instances[id]?.any Instance.buffersPoisoned)
  simp only [eq, eq']
  exact (same.tellAll ..).modify id (fun i => { i with buffersHeld := true }) (fun _ => rfl)
    fun _ => rfl

/-- Buffers are given back alike, however the extraction ended. -/
theorem putBuffers (same : a.Twin b) (id : InstanceId) (buffers : Buffers) (x y : Ending) :
    (a.putBuffers id buffers x).Twin (b.putBuffers id buffers y) :=
  same.modify id (fun i => { i with buffers, buffersHeld := false }) (fun _ => rfl) fun _ => rfl

/-- The message of a failure is not seen. -/
theorem keepError (same : a.Twin b) (id : InstanceId) (e : ExtractError) :
    a.Twin (b.keepError id e) := by
  have kept : a.modify id (fun i => i) = a := by
    have kept : a.instances.modify id (fun i => i) = a.instances := List.modify_id ..
    rw [Host.modify, kept]
  have told := same.modify id (f := fun i => i)
    (g := fun i => { i with lastError := some (withoutNul e.message) }) (fun i => i) (fun _ => rfl)
    fun _ => rfl
  rwa [kept] at told

theorem extractInPlace (same : a.Twin b) (blind : Blind behaviour) (thread : Thread)
    (id : InstanceId) (call : Call) :
    Agree (Host.extractInPlace behaviour thread id call a)
      (Host.extractInPlace behaviour thread id call b) := by
  have elim (o : Option (Instance S)) :
      o.elim [] Instance.buffers = (o.map Instance.buffers).getD [] := by cases o <;> rfl
  simp only [Host.extractInPlace, same.any id (p := Instance.buffersHeld) fun _ => rfl]
  by_cases busy : a.instances[id]?.any Instance.buffersHeld
  · simp only [if_pos busy]
    exact ⟨same, rfl⟩
  simp only [if_neg busy]
  have holding := same.holdBuffers thread thread id
  rw [elim, elim, holding.congr id (f := Instance.buffers) fun _ => rfl]
  obtain ⟨world, buffers, fields, ending⟩ := extractFields_alike (blind thread id) call.event
    call.count call.fields holding
    (((a.holdBuffers thread id).instances[id]?.map Instance.buffers).getD [])
  generalize extractFields (behaviour thread id) _ _ _ (a.holdBuffers thread id) _ = x at *
  generalize extractFields (behaviour thread id) _ _ _ (b.holdBuffers thread id) _ = y at *
  rw [buffers, fields, ending]
  have back := world.putBuffers id x.buffers x.ending x.ending
  generalize x.ending = ending at back ⊢
  cases ending with
  | done => exact ⟨back, rfl⟩
  | escaped e => exact ⟨back, rfl⟩
  | failed e =>
    have kept := (back.tell thread thread (.extractionFailed e) (.extractionFailed e)).modify id
      (f := fun i => { i with lastError := some (withoutNul e.message) })
      (g := fun i => { i with lastError := some (withoutNul e.message) }) (fun i => i)
      (fun _ => rfl) fun _ => rfl
    exact ⟨kept, rfl⟩

/-! ## Through a slot -/

theorem resolve (same : a.Twin b) (job : Job) : b.resolve job = a.resolve job := by
  rw [Host.resolve, Host.resolve, same.memory]

theorem writeFields (same : a.Twin b) (address : Nat) (fields : Option (List Descriptor)) :
    (a.writeFields address fields).Twin (b.writeFields address fields) := by
  rw [Host.writeFields, Host.writeFields]
  split
  · exact same
  · exact same.withMemory (by rw [same.memory])

theorem serveJob (same : a.Twin b) (blind : Blind behaviour) (slot worker : Nat) (job : Job) :
    Agree (Host.serveJob behaviour slot worker job a)
      (Host.serveJob behaviour slot worker job b) := by
  rw [Host.serveJob, Host.serveJob, same.table, same.resolve]
  cases a.table.lookup job.handle with
  | error v => exact ⟨same.tell .., rfl⟩
  | ok id =>
    obtain ⟨u, v, r, first, second, left⟩ :=
      (same.extractInPlace blind (.worker worker) id (a.resolve job)).split
    simp only [first, second]
    have written := left.writeFields job.fields r.1
    split
    · exact ⟨written.tell .., rfl⟩
    · exact ⟨written, rfl⟩

theorem request (same : a.Twin b)
    {handler : Nat → Job → Host S G → Host S G × Except Escape ResultCode}
    (alike : ∀ worker job {u v : Host S G}, u.Twin v →
      Agree (handler worker job u) (handler worker job v))
    (c : Client) (job : Job) :
    Agree (engineIn.request handler c job a) (engineIn.request handler c job b) := by
  obtain ⟨e, e', r, first, second, engine⟩ := (same.engine.post c job).split
  have posted := same.withEngine engine
  have now := congrArg (fun x => x.1.retired.length) first
  rw [Engine.retired_post] at now
  simp only [EngineIn.request, engineIn, first, second, ← same.engine.server c]
  cases r with
  | error v => exact ⟨posted, rfl⟩
  | ok _ =>
    simp only
    cases served : a.engine.server c with
    | error s => exact ⟨posted, rfl⟩
    | ok worker =>
      have current : c.activation = e.retired.length := (Engine.current_of_server served).trans now
      simp only [← engine.job? current]
      cases e.job? c with
      | none => exact ⟨posted, rfl⟩
      | some found =>
        obtain ⟨u, v, reply, first, second, left⟩ := (alike worker found posted).split
        simp only [first, second]
        have finished (code : ResultCode) := left.withEngine (left.engine.finish c code code)
        have collected (code : ResultCode) :
            (v.engine.finish c code).collect c = (u.engine.finish c code).collect c := by
          rw [Engine.collect_answered, Engine.collect_answered, (finished code).engine.state? c]
        simp only [collected]
        cases reply with
        | ok code =>
          dsimp only
          cases (u.engine.finish c code).collect c <;> exact ⟨finished code, rfl⟩
        | error escape =>
          cases escape with
          | panic message =>
            dsimp only
            cases (u.engine.finish c .failure).collect c <;> exact ⟨finished .failure, rfl⟩
          | standstill cause => exact ⟨left, rfl⟩

/-- The client of an instance is lent and given back alike. -/
theorem lend (same : a.Twin b) (id : InstanceId) (held : Bool) :
    (a.modify id fun i => { i with clientHeld := held }).Twin
      (b.modify id fun i => { i with clientHeld := held }) :=
  same.modify id (fun i => { i with clientHeld := held }) (fun _ => rfl) fun _ => rfl

theorem lent (same : a.Twin b) (id : InstanceId) (call : Call) :
    (a.lent id call).Twin (b.lent id call) :=
  (same.lend id true).withMemory (by rw [(same.lend id true).memory])

theorem takenBack (same : a.Twin b) (id : InstanceId) {memory memory' : List Frame}
    (eq : memory' = memory) : (a.takenBack id memory).Twin (b.takenBack id memory') :=
  (same.withMemory eq).lend id false

end Twin

/-- Two calls that came back alike, and left twins. -/
structure SameResult (x y : CallResult S G) : Prop where
  host : x.host.Twin y.host
  fields : x.fields = y.fields
  result : x.result = y.result

namespace Twin

theorem extractThroughSlot (same : a.Twin b) (blind : Blind behaviour) (thread : Thread)
    (id : InstanceId) (c : Client) (h : Handle) (call : Call) :
    SameResult (Host.extractThroughSlot behaviour thread id c h call a)
      (Host.extractThroughSlot behaviour thread id c h call b) := by
  have address : b.nextAddress = a.nextAddress := by rw [nextAddress, nextAddress, same.memory]
  obtain ⟨u, v, r, first, second, left⟩ := ((same.lent id call).request
    (fun worker job u v twins => twins.serveJob blind c.slot worker job) c
    (jobOf h call a.nextAddress)).split
  simp only [Host.lent] at first second
  have before : v.memory.take (a.nextAddress - 1) = u.memory.take (a.nextAddress - 1) := by
    rw [left.memory]
  have back := left.takenBack id before
  simp only [Host.extractThroughSlot, address, first, second, left.memory]
  rw [left.memory] at back
  rcases r with escape | v | code
  · exact ⟨back, rfl, rfl⟩
  · exact ⟨back, rfl, rfl⟩
  · by_cases success : code.isSuccess
    · simp only [if_pos success]
      exact ⟨back, rfl, rfl⟩
    · simp only [if_neg success]
      exact ⟨back.tell .., rfl, rfl⟩

theorem extract (same : a.Twin b) (blind : Blind behaviour) (thread : Thread) (h : Handle)
    (call : Call) :
    SameResult (Host.extract behaviour thread h call a)
      (Host.extract behaviour thread h call b) := by
  rw [Host.extract, Host.extract, same.table]
  cases a.table.lookup h with
  | error v => exact ⟨same, rfl, rfl⟩
  | ok id =>
    have client : b.freeClient? id = a.freeClient? id := by
      have through (o : Option (Instance S)) :
          (o.bind fun i => if i.clientHeld then none else i.client) =
            (o.map fun i => if i.clientHeld then none else i.client).join := by cases o <;> rfl
      rw [freeClient?, freeClient?, through, through, same.congr id fun _ => rfl]
    simp only [client]
    cases a.freeClient? id with
    | some c => exact same.extractThroughSlot blind thread id c h call
    | none =>
      obtain ⟨u, v, r, first, second, left⟩ :=
        (same.extractInPlace blind thread id call).split
      simp only [first, second]
      exact ⟨left, rfl, rfl⟩

/-! ## Calls from outside -/

theorem buffersOf? (same : a.Twin b) : b.buffersOf? = a.buffersOf? := by
  funext k
  rw [Host.buffersOf?, Host.buffersOf?, same.table]
  exact congrArg (Option.bind _) (funext fun id => same.congr id fun _ => rfl)

/-- A call is answered alike by twins, unless it asks for a message, and leaves twins. -/
theorem perform (same : a.Twin b) (blind : Blind behaviour) (thread : Thread) (call : HostCall S) :
    (a.perform behaviour thread call).Twin (b.perform behaviour thread call) ∧
      ((∀ h, call ≠ .lastError h) →
        a.reply behaviour thread call = b.reply behaviour thread call) := by
  cases call with
  | openInstance state =>
    have agree := same.openInstance thread state
    exact ⟨agree.host, fun _ => congrArg HostReply.opened agree.answer⟩
  | closeInstance h =>
    have agree := same.closeInstance thread h
    exact ⟨agree.host, fun _ => congrArg HostReply.closed agree.answer⟩
  | extract h call =>
    obtain ⟨host, fields, result⟩ := same.extract blind thread h call
    refine ⟨host, fun _ => ?_⟩
    simp only [reply, fields, result, host.buffersOf?]
  | lastError h => exact ⟨same, fun other => absurd rfl (other h)⟩
  | setEnabled enabled => exact ⟨same.setEnabled enabled, fun _ => rfl⟩

theorem performAll (same : a.Twin b) (blind : Blind behaviour)
    (calls : List (Thread × HostCall S)) :
    (a.performAll behaviour calls).Twin (b.performAll behaviour calls) := by
  induction calls generalizing a b with
  | nil => exact same
  | cons call calls ih => exact ih (same.perform blind call.1 call.2).1

end Twin

end Host

/-! ## Extractors that are blind -/

/-- A solo extractor does not ask for anything. -/
theorem SoloExtractor.blind (solo : SoloExtractor S G) : Blind solo.behaviour := by
  intro thread id spec view a b same
  have state := same.congr id (f := Instance.state) fun _ => rfl
  unfold SoloExtractor.behaviour
  cases ha : a.instances[id]? with
  | none =>
    rw [ha, Option.map_none, Option.map_eq_none_iff] at state
    rw [state]
    exact ⟨same, rfl, rfl⟩
  | some i =>
    rw [ha, Option.map_some, Option.map_eq_some_iff] at state
    obtain ⟨j, hb, state⟩ := state
    rw [hb]
    dsimp only
    rw [state, same.shared]
    generalize solo id spec view i.state a.shared.shared = y
    have changed : (a.modify id fun i' => { i' with state := y.state }).Twin
        (b.modify id fun i' => { i' with state := y.state }) :=
      same.modify id (fun i' => { i' with state := y.state }) (fun _ => rfl) fun _ => rfl
    exact ⟨⟨changed.engine, changed.table, changed.instances, changed.memory, rfl⟩, rfl, rfl⟩

/-- Extractors that first make a call, and go on by its answer. -/
def consulting (inner : Behaviour S G) (call : HostCall S) (next : HostReply → Behaviour S G) :
    Behaviour S G := fun thread id spec view host =>
  next (host.reply inner thread call) thread id spec view (host.perform inner thread call)

/-- An extractor may call back, as long as it asks for no message. -/
theorem Blind.consulting {inner : Behaviour S G} {call : HostCall S}
    {next : HostReply → Behaviour S G} (blind : Blind inner) (other : ∀ k, call ≠ .lastError k)
    (goes : ∀ reply, Blind (next reply)) : Blind (consulting inner call next) := by
  intro thread id spec view a b same
  obtain ⟨left, answer⟩ := same.perform blind thread call
  simp only [PluginBridge.consulting, answer other]
  exact goes _ thread id spec view _ _ left

end PluginBridge
