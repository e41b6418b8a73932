import PluginBridge.Proofs.Host.Containment
import PluginBridge.Proofs.Host.Paths

/-!
# The messages of failed calls

An extraction that fails leaves its message with its instance, whichever thread did it. One that
succeeds leaves the message that was there, and so does one that ends in a panic, although its caller
may get a failure for it (`panic_leaves_no_message`). No call touches the message of another instance
(`Orderly.lastError_perform`).
-/

namespace PluginBridge

variable {S G : Type}

namespace Host

/-- The message of an instance's last failure. -/
def message (host : Host S G) (id : InstanceId) : Option String :=
  host.instances[id]?.bind Instance.lastError

end Host

/-- Extractors that do not call back, and have no hand in what a host keeps of its calls: the memory
of those under way and the messages of those that failed. They may panic. -/
structure Secluded (behaviour : Behaviour S G) : Prop extends Quiet behaviour where
  memory : ∀ thread id spec view (host : Host S G),
    (behaviour thread id spec view host).world.memory = host.memory
  message : ∀ thread id spec view (host : Host S G),
    (behaviour thread id spec view host).world.message = host.message

namespace Host

variable {behaviour : Behaviour S G} {host a b : Host S G} {h k : Handle} {id j : InstanceId}
  {t : Ties} {d : Dispatch slotCount} {short : Prop}

/-- The code or the escape that an extraction comes back with. -/
def replyOf : Ending → Except Escape ResultCode
  | .done => .ok .success
  | .failed e => .ok e.code
  | .escaped x => .error x

/-- The message of an instance after an extraction, if it was `before`. -/
def recorded (before : Option String) : Ending → Option String
  | .failed e => some (withoutNul e.message)
  | .done | .escaped _ => before

/-! ## Messages under changes of a host -/

theorem lastError_of_some (used : host.table.get? h = some id) :
    host.lastError h = .ok (host.message id) := by
  rw [lastError, HandleTable.lookup_of_some used]
  rfl

theorem lastError_congr (table : b.table.get? k = a.table.get? k)
    (same : ∀ j, a.table.get? k = some j → b.message j = a.message j) :
    b.lastError k = a.lastError k := by
  cases used : a.table.get? k with
  | none =>
    have unused : b.table.get? k = none := table.trans used
    rw [lastError, lastError, HandleTable.lookup_of_none used, HandleTable.lookup_of_none unused]
    rfl
  | some j =>
    rw [lastError_of_some used, lastError_of_some (table.trans used), same j used]

theorem message_modify {f : Instance S → Instance S} (same : ∀ i, (f i).lastError = i.lastError)
    (host : Host S G) (id : InstanceId) : (host.modify id f).message = host.message := by
  funext j
  rw [message, message, modify, List.getElem?_modify]
  by_cases hj : id = j
  · cases host.instances[j]? <;> simp [hj, same]
  · simp [hj]

theorem message_holdBuffers (host : Host S G) (thread : Thread) (id : InstanceId) :
    (host.holdBuffers thread id).message = host.message := by
  rw [holdBuffers]
  split <;> exact message_modify (f := fun i => { i with buffersHeld := true }) (fun _ => rfl) _ id

theorem message_putBuffers (host : Host S G) (id : InstanceId) (bs : Buffers) (ending : Ending) :
    (host.putBuffers id bs ending).message = host.message :=
  message_modify (f := fun i => { i with
    buffers := bs, buffersHeld := false, buffersPoisoned := i.buffersPoisoned || _ }) (fun _ => rfl)
    host id

theorem message_takenBack (host : Host S G) (id : InstanceId) (memory : List Frame) :
    (host.takenBack id memory).message = host.message :=
  message_modify (f := fun i => { i with clientHeld := false }) (fun _ => rfl)
    { host with memory } id

theorem message_lent (host : Host S G) (id : InstanceId) (call : Call) :
    (host.lent id call).message = host.message :=
  message_modify (f := fun i => { i with clientHeld := true }) (fun _ => rfl) host id

/-- The message of a failure is kept for the instance that failed. -/
theorem message_keepError (there : (host.ties? id).isSome) (e : ExtractError) (j : InstanceId) :
    (host.keepError id e).message j =
      if j = id then some (withoutNul e.message) else host.message j := by
  rw [message, message, keepError, modify, List.getElem?_modify]
  by_cases hj : j = id
  · subst hj
    rw [ties?, Option.isSome_map, Option.isSome_iff_exists] at there
    obtain ⟨i, found⟩ := there
    simp [found]
  · simp [hj, Ne.symm hj]

/-! ## Extracting -/

/-- The extraction that a call in place is. -/
def extraction (behaviour : Behaviour S G) (place : Thread) (id : InstanceId) (call : Call)
    (host : Host S G) : Extraction (Host S G) :=
  extractFields (behaviour place id) call.event call.count call.fields (host.holdBuffers place id)
    ((host.holdBuffers place id).buffers id)

/-- A call in place comes back as its extraction ends, and leaves a message if that has failed. -/
theorem extractInPlace_message (secluded : Secluded behaviour) (bound : host.ties? id = some t)
    (free : t.buffersHeld = false) (place : Thread) (call : Call) :
    let ending := (extraction behaviour place id call host).ending
    let y := extractInPlace behaviour place id call host
    y.2.2 = replyOf ending ∧
      ∀ j, y.1.message j = if j = id then recorded (host.message id) ending else host.message j := by
  simp only [extractInPlace, if_neg (unheld_of_ties? bound free)]
  generalize hx : extraction behaviour place id call host = x
  have run : extractFields (behaviour place id) call.event call.count call.fields
      (host.holdBuffers place id) ((host.holdBuffers place id).instances[id]?.elim []
        Instance.buffers) = x := hx
  have beside : (host.holdBuffers place id).Beside x.world :=
    run ▸ extractFields_world Beside.refl Beside.trans (secluded.keeps place id) ..
  have same : x.world.message = (host.holdBuffers place id).message :=
    run ▸ extractFields_world (R := fun a b : Host S G => b.message = a.message) (fun _ => rfl)
      (fun h h' => h'.trans h) (secluded.message place id) ..
  have back : (x.world.putBuffers id x.buffers x.ending).message = host.message :=
    (message_putBuffers ..).trans (same.trans (message_holdBuffers ..))
  have there : ((x.world.putBuffers id x.buffers x.ending).ties? id).isSome := by
    rw [(beside.putBuffers bound free x.buffers x.ending).ties, bound]
    rfl
  have unchanged (j : InstanceId) : host.message j =
      if j = id then host.message id else host.message j := by
    split
    · next hj => rw [hj]
    · rfl
  rw [run]
  generalize x.ending = ending at back there
  cases ending with
  | done | escaped => exact ⟨rfl, fun j => (congrFun back j).trans (unchanged j)⟩
  | failed e =>
    refine ⟨rfl, fun j => ?_⟩
    simp only [recorded, ← back]
    exact message_keepError there e j

/-- A call for an open instance comes back as the extraction does that it runs, wherever that is.
Through a slot a panic is a failure. -/
theorem Orderly.extract_message (o : host.Orderly short) (secluded : Secluded behaviour)
    (used : host.table.get? h = some id) (thread : Thread) (call : Call) :
    let r := Host.extract behaviour thread h call host
    ∃ place w, Scene host thread id h call place w ∧
      let ending := (extraction behaviour place id call w).ending
      Returned (replyOf ending) ∧
      r.result = (if host.freeClient? id = none then (replyOf ending).map .ok
        else .ok (.ok (codeOf (replyOf ending)))) ∧
      r.host.table = host.table ∧
      ∀ j, r.host.message j =
        if j = id then recorded (host.message id) ending else host.message j := by
  intro r
  rcases o.path used with ⟨d, hd, bound, mine⟩ | ⟨bound, direct⟩
  · have waiting := o.waiting used hd bound
    have held := held_handedOver bound d call
    obtain ⟨beside, came⟩ :=
      extractInPlace_quiet secluded.toQuiet held rfl (.worker (d.owner h.slot)) call
    obtain ⟨reply, messages⟩ :=
      extractInPlace_message secluded held rfl (.worker (d.owner h.slot)) call
    have scene : Scene host thread id h call (.worker (d.owner h.slot))
        (host.handedOver d id h call) := by
      rw [Dispatch.owner, o.consistent.workers d hd, ← posted_eq hd waiting]
      refine .onWorker mine ?_
      rw [Engine.state?_of_current rfl, hd, Option.map_some, waiting]
    obtain ⟨journal, result⟩ := o.extractThroughSlot_eq secluded.toQuiet
      (fun thread => secluded.memory thread id) used hd bound thread call
    have through : r = Host.extractThroughSlot behaviour thread id
        ⟨host.engine.retired.length, h.slot⟩ h call host := by
      simp only [r, Host.extract, HandleTable.lookup_of_some used, mine]
    rw [through, result, reply]
    refine ⟨_, _, scene, reply ▸ came, ?_, beside.table, fun j => ?_⟩
    · rw [if_neg (by simp [mine])]
    · refine (congrFun (message_takenBack _ id host.memory) j).trans ((messages j).trans ?_)
      rw [← message_lent host id call]
      rfl
  · obtain ⟨beside, came⟩ := extractInPlace_quiet secluded.toQuiet bound rfl thread call
    obtain ⟨reply, messages⟩ := extractInPlace_message secluded bound rfl thread call
    have result : r = ⟨(extractInPlace behaviour thread id call host).1,
        (extractInPlace behaviour thread id call host).2.1,
        (extractInPlace behaviour thread id call host).2.2.map .ok⟩ := by
      simp only [r, Host.extract, HandleTable.lookup_of_some used, direct]
    rw [result, reply]
    refine ⟨thread, host, .inPlace direct, reply ▸ came, ?_, beside.table, messages⟩
    rw [if_pos direct]

/-! ## Messages of other instances -/

/-- The messages of instances that are there stay as they are when another one is opened. -/
theorem Orderly.lastError_openInstance (o : host.Orderly short) (used : host.table.get? k = some id)
    (thread : Thread) (state : S) :
    (host.openInstance thread state).1.lastError k = host.lastError k := by
  cases free : host.table.free? with
  | none => rw [openInstance_of_full free]
  | some h =>
    have new := (HandleTable.free?_spec free).1
    have given (refused : (none : Option String) ≠ none) : short := absurd rfl refused
    obtain ⟨-, -, opened⟩ := o.openInstance given free thread state
    rw [(seated_alike_openInstance opened).lastError]
    refine lastError_congr ?_ fun j used => ?_
    · refine HandleTable.get?_put_of_ne _ _ ?_
      rintro rfl
      cases new.symm.trans used
    · obtain ⟨_, bound⟩ := o.rests used
      rw [message, message, seated, List.getElem?_append_left (ties?_lt bound)]

/-- A close that does not work changes no more than the engine and who has a client. -/
theorem alike_closeInstance_of_ne {thread : Thread}
    (stays : (host.closeInstance thread h).2 ≠ .ok (.ok ())) :
    host.Alike (host.closeInstance thread h).1 := by
  cases used : host.table.get? h with
  | none =>
    rw [closeInstance_of_closed used]
    exact Alike.refl host
  | some id =>
    have stopped : host.Alike (host.stop thread h).1 :=
      Alike.trans (b := { host with engine := (host.engine.stop h).1 }) ⟨rfl, rfl, rfl⟩
        (Alike.tellAll ..)
    rw [closeInstance, HandleTable.lookup_of_some used] at stays ⊢
    cases hs : host.stop thread h with
    | mk after result =>
    rw [hs] at stopped
    simp only [hs] at stays ⊢
    cases result with
    | error v => exact stopped
    | ok _ =>
      dsimp only at stays ⊢
      by_cases held : after.instances[id]?.any Instance.clientHeld
      · rw [if_pos held]
        exact stopped
      · have away := stopped.trans (Alike.modify_apart after id
          (f := fun i => { i with client := none }) fun _ => rfl)
        rw [if_neg held] at stays ⊢
        split at stays
        · exact away
        · exact absurd rfl stays

theorem lastError_closeInstance (other : h ≠ k) (host : Host S G) (thread : Thread) :
    (host.closeInstance thread h).1.lastError k = host.lastError k := by
  by_cases closed : (host.closeInstance thread h).2 = .ok (.ok ())
  · cases used : host.table.get? h with
    | none => rw [closeInstance_of_closed used]
    | some id =>
      rw [(revoked_alike_closeInstance used closed).lastError]
      exact lastError_congr (HandleTable.get?_put_of_ne _ _ (Ne.symm other)) fun _ _ => rfl
  · rw [(alike_closeInstance_of_ne closed).lastError]

theorem Orderly.lastError_extract (o : host.Orderly short) (secluded : Secluded behaviour) (other : h ≠ k)
    (thread : Thread) (call : Call) :
    (Host.extract behaviour thread h call host).host.lastError k = host.lastError k := by
  cases used : host.table.get? h with
  | none => rw [extract_of_closed behaviour used]
  | some id =>
    obtain ⟨place, w, -, -, -, table, messages⟩ := o.extract_message secluded used thread call
    refine lastError_congr (congrArg (·.get? k) table) fun j usedToo => ?_
    rw [messages, if_neg (o.ne_of_ne (Ne.symm other) used usedToo)]

end Host

/-- The handle that a call from outside is about, if it changes anything there. -/
def HostCall.changes? : HostCall S → Option Handle
  | .closeInstance h | .extract h _ => some h
  | .openInstance _ | .lastError _ | .setEnabled _ => none

namespace Host

variable {behaviour : Behaviour S G} {host : Host S G} {h k : Handle} {id : InstanceId}
  {short : Prop}

/-- No call touches the message of another open instance. -/
theorem Orderly.lastError_perform (o : host.Orderly short) (secluded : Secluded behaviour)
    (used : host.table.get? k = some id) (thread : Thread) {call : HostCall S}
    (other : call.changes? ≠ some k) :
    (host.perform behaviour thread call).lastError k = host.lastError k := by
  cases call with
  | openInstance state => exact o.lastError_openInstance used thread state
  | closeInstance h => exact lastError_closeInstance (fun same => other (congrArg _ same)) host thread
  | extract h call =>
    exact o.lastError_extract secluded (fun same => other (congrArg _ same)) thread call
  | lastError h => rfl
  | setEnabled enabled => rfl

/-! ## After any calls -/

/-- How a call for an open instance comes back, and which message there is afterwards, by the ending
of its extraction. `direct` says that this was done in place. -/
inductive Reported (host : Host S G) (h : Handle) (direct : Prop) (r : CallResult S G) :
    Ending → Prop where
  | succeeded (result : r.result = .ok (.ok .success))
      (message : r.host.lastError h = host.lastError h) : Reported host h direct r .done
  | failed {e : ExtractError} (result : r.result = .ok (.ok e.code))
      (message : r.host.lastError h = .ok (some (withoutNul e.message))) :
      Reported host h direct r (.failed e)
  | panicked {text : String} (inPlace : direct → r.result = .error (.panic text))
      (onWorker : ¬ direct → r.result = .ok (.ok .failure))
      (message : r.host.lastError h = host.lastError h) :
      Reported host h direct r (.escaped (.panic text))

/-- A call for an open instance leaves the message of its own failure, and otherwise the message
that was there. -/
theorem Orderly.reported (o : host.Orderly short) (secluded : Secluded behaviour)
    (used : host.table.get? h = some id) (thread : Thread) (call : Call) :
    ∃ place w, Scene host thread id h call place w ∧
      Reported host h (host.freeClient? id = none) (Host.extract behaviour thread h call host)
        (extraction behaviour place id call w).ending := by
  obtain ⟨place, w, scene, returned, result, table, messages⟩ :=
    o.extract_message secluded used thread call
  refine ⟨place, w, scene, ?_⟩
  have message := lastError_of_some ((congrArg (·.get? h) table).trans used)
  rw [messages id, if_pos rfl] at message
  have before := lastError_of_some used
  generalize (extraction behaviour place id call w).ending = ending at *
  cases ending with
  | done =>
    refine .succeeded ?_ (message.trans before.symm)
    rw [result]
    split <;> rfl
  | failed e =>
    refine .failed ?_ message
    rw [result]
    split <;> rfl
  | escaped x =>
    obtain ⟨text, rfl⟩ : ∃ text, x = .panic text := by
      rcases returned with ⟨code, ok⟩ | ⟨text, panic⟩
      · cases ok
      · exact ⟨text, Except.error.inj panic⟩
    refine .panicked (fun direct => ?_) (fun slot => ?_) (message.trans before.symm)
    · rw [result, if_pos direct]
      rfl
    · rw [result, if_neg slot]
      rfl

/-- **A failed call leaves its message.** Whatever was called before, with extractors that do not
call back but may panic: if the extraction of a call fails, the call comes back with the code of the
error, and its instance has the wording of this error for its message, with blanks for null
characters. If the extraction succeeds, the call succeeds and the message stays. If the extractor
panics, the message stays as well, and the call meets the panic or, through a slot, fails. No call
touches the message of another instance. -/
theorem failure_leaves_message (secluded : Secluded behaviour) (config : Config) (machine : Nat)
    (shared : G) (calls : List (Thread × HostCall S)) :
    let host := (new config machine shared : Host S G).performAll behaviour calls
    (∀ h id thread call, host.table.get? h = some id →
      ∃ place w, Scene host thread id h call place w ∧
        Reported host h (host.freeClient? id = none) (extract behaviour thread h call host)
          (extraction behaviour place id call w).ending) ∧
    ∀ k id thread call, host.table.get? k = some id → call.changes? ≠ some k →
      (host.perform behaviour thread call).lastError k = host.lastError k := by
  intro host
  have o : host.Orderly False :=
    orderly_performAll (orderly_new False config machine shared)
      (Engine.consistent_new config machine).prompted_eq secluded.toQuiet calls
  exact ⟨fun h id thread call used => o.reported secluded used thread call,
    fun k id thread call used other => o.lastError_perform secluded used thread other⟩

/-- Extractors that fail at one field, with a null character in their words, and panic at the
others. -/
def wavering : Behaviour Nat Unit := fun _ _ spec _ host =>
  ⟨host, spec, .unset spec,
    if spec.name = "f" then .failed (.plugin "no\x00more") else .escaped (.panic "out of reach")⟩

theorem secluded_wavering : Secluded wavering where
  keeps _ _ _ _ host := Beside.refl host
  returns _ _ spec _ _ _ := by
    simp only [wavering]
    split <;> simp
  memory _ _ _ _ _ := rfl
  message _ _ _ _ _ := rfl

/-- Two instances are opened. -/
def openings : List (Thread × HostCall Nat) := [(.main, .openInstance 0), (.main, .openInstance 0)]

/-- The first of two instances fails, and has its message. The second has none. -/
theorem failure_leaves_message_wavering :
    let second : Handle := ⟨2, by decide, by decide⟩
    let r := extract wavering .main .first question ((new {} 4 ()).performAll wavering openings)
    r.result = .ok (.ok .failure) ∧ r.host.lastError .first = .ok (some "no more") ∧
      r.host.lastError second = .ok none := by
  intro second r
  obtain ⟨reports, others⟩ := failure_leaves_message secluded_wavering {} 4 () openings
  have used : ((new {} 4 ()).performAll wavering openings).table.get? .first = some 0 ∧
      ((new {} 4 ()).performAll wavering openings).table.get? second = some 1 ∧
      ((new {} 4 ()).performAll wavering openings).lastError second = .ok none := by decide +kernel
  obtain ⟨place, w, -, reported⟩ := reports .first 0 .main question used.1
  have read : Descriptor.spec? ⟨0, some [102], none, 8, false, .null, 0⟩ =
      .ok ⟨0, ⟨.number, false⟩, "f", none⟩ := by decide +kernel
  have failed : (extraction wavering place 0 question w).ending =
      .failed (.plugin "no\x00more") := by
    simp [extraction, extractFields, question, Extraction.run, Descriptor.clear, read, wavering]
  rw [failed] at reported
  cases reported with
  | failed result message =>
    exact ⟨result, message, (others second 1 .main (.extract .first question) used.2.1
      (by decide)).trans used.2.2⟩

/-- The call that asks for the other field. -/
def plea : Call :=
  ⟨some ⟨0, 0, none, 0⟩, 1, some [⟨1, some [103], none, 8, false, .foreign, 0⟩]⟩

/-- A panic on a worker is a failure without a message of its own: there is none afterwards, or that
of an earlier call. -/
theorem panic_leaves_no_message :
    let host := (new {} 4 ()).performAll wavering openings
    let panicked := extract wavering .main .first plea host
    let failed := extract wavering .main .first question host
    let stale := extract wavering .main .first plea failed.host
    Secluded wavering ∧
      (panicked.result = .ok (.ok .failure) ∧ panicked.host.lastError .first = .ok none) ∧
      stale.result = .ok (.ok .failure) ∧ stale.host.lastError .first = failed.host.lastError .first ∧
      failed.host.lastError .first = .ok (some "no more") := by
  refine ⟨secluded_wavering, ?_⟩
  decide +kernel

end Host

end PluginBridge
