import PluginBridge.Proofs.Engine.Books
import PluginBridge.Proofs.Field.Panics
import PluginBridge.Proofs.Host.Nesting
import PluginBridge.Proofs.Host.Twins

/-!
# Panics that stay in their call

An extractor that panics ends its extraction where an error would end it, and whoever runs the
extraction gives back what it was lent: the buffers, the slot, the client. So the call that it was
run for fails, or meets the panic, and everything else is as if the extractor had returned an error
(`panic_is_contained`). What the extractor did before by calling back into its host is not undone
(`panic_keeps_calls`).
-/

namespace PluginBridge

variable {S G : Type}

/-- Extractors that return an error where they would panic. -/
def Behaviour.softened (e : ExtractError) (behaviour : Behaviour S G) : Behaviour S G :=
  fun thread id => PluginBridge.softened e (behaviour thread id)

namespace Engine

/-- The statistics do not look into the cells of the slots. -/
theorem stats_putBatch (e : Engine) (c : Client) (b : Batch slotCount) :
    (e.putBatch c b).stats = e.stats := by
  rw [putBatch]
  split
  · cases hd : e.dispatch <;> simp [stats, hd]
  · rfl

theorem stats_post (e : Engine) (c : Client) (job : Job) : (e.post c job).1.stats = e.stats := by
  rw [post]
  split
  · exact stats_putBatch e c _
  · rfl

theorem stats_finish (e : Engine) (c : Client) (code : ResultCode) :
    (e.finish c code).stats = e.stats := by
  rw [finish]
  split
  · exact stats_putBatch e c _
  · rfl

/-- The worker of a slot that is waiting lives. -/
theorem Consistent.live {e : Engine} {c : Client} (consistent : e.Consistent)
    (waiting : e.state? c = some .waiting) :
    ∃ d, e.dispatch = some d ∧ e.pool.isLive (d.owner c.slot) := by
  obtain ⟨-, d, hd, state⟩ := consistent.current waiting (by simp)
  exact ⟨d, hd, (consistent.staffed d hd).manned _ (Batch.inUse_iff.2 (by simp [state]))⟩

end Engine

namespace Host

/-- The buffers of an instance. -/
def buffers (host : Host S G) (id : InstanceId) : Buffers :=
  host.instances[id]?.elim [] Instance.buffers

/-- Where the extractor of a call is run: on which thread, and in which host. -/
inductive Scene (host : Host S G) (thread : Thread) (id : InstanceId) (h : Handle) (call : Call) :
    Thread → Host S G → Prop where
  /-- The instance has no client that is free, and the caller extracts in place. -/
  | inPlace (none : host.freeClient? id = none) : Scene host thread id h call thread host
  /-- The worker of the slot extracts. -/
  | onWorker {c : Client} (client : host.freeClient? id = some c)
      (waiting : host.engine.state? c = some .waiting) :
      Scene host thread id h call (.worker (c.slot.val % host.engine.maxWorkers))
        (host.posted id c h call)

/-- The client of an instance, whether it is in use or not. -/
def client? (host : Host S G) (id : InstanceId) : Option Client :=
  host.instances[id]?.bind Instance.client

/-- What becomes of a call that is stopped by a panic and comes back with `r`. `first` is what the
extraction left behind for the fields before, `rest` are the other descriptors as they were met, and
`left` is the host as the extractor left it when it panicked. -/
structure Contained (behaviour : Behaviour S G) (host : Host S G) (thread : Thread)
    (id : InstanceId) (h : Handle) (call : Call) (message : String) (first : Extraction (Host S G))
    (rest : List Descriptor) (left : Host S G) (r : CallResult S G) : Prop where
  /-- In place the panic reaches the caller. -/
  inPlace : host.freeClient? id = none → r.result = .error (.panic message)
  /-- Through a slot the call fails. The slot is waiting again, and its worker lives. -/
  onWorker : ∀ c, host.freeClient? id = some c → r.result = .ok (.ok .failure) ∧
    r.host.engine.state? c = some .waiting ∧
    ∃ d, r.host.engine.dispatch = some d ∧ r.host.engine.pool.isLive (d.owner c.slot)
  /-- The descriptors before the field hold their results, and no others do. -/
  fields : r.fields = some (first.fields ++ rest)
  buffers : r.host.buffers id = first.buffers
  /-- Handles, statistics and clients are as the extractor left them. -/
  table : r.host.table = left.table
  stats : r.host.engine.stats = left.engine.stats
  clients : r.host.client? = left.client?
  /-- If the extractor does not call back, they are as they were before the call. -/
  untouched : Quiet behaviour → left.table = host.table ∧ left.engine.stats = host.engine.stats ∧
    left.client? = host.client?
  /-- If the extractor had returned an error instead, later calls would be answered alike, unless
  they ask for a message. -/
  later : ∀ e : ExtractError,
    let soft := extract (behaviour.softened e) thread h call host
    soft.result = .ok (.ok e.code) ∧ soft.fields = r.fields ∧
      ∀ (behaviour : Behaviour S G), Blind behaviour → ∀ calls thread call,
        (∀ k, call ≠ .lastError k) →
        (r.host.performAll behaviour calls).reply behaviour thread call =
            (soft.host.performAll behaviour calls).reply behaviour thread call ∧
          (r.host.performAll behaviour calls).engine.stats =
            (soft.host.performAll behaviour calls).engine.stats

variable {behaviour : Behaviour S G} {host w left : Host S G} {thread place : Thread}
  {id : InstanceId} {h : Handle} {call : Call} {event : Event} {count k : Nat}
  {ds rest : List Descriptor} {spec : FieldSpec} {message : String} {first : Extraction (Host S G)}

/-! ## Until the panic -/

/-- What every call of an extractor keeps holds when it panics. -/
theorem keeps_until {I : Host S G → Prop} (extract : Extractor (Host S G))
    (step : ∀ spec view w, I w → I (extract spec view w).world) (event : Event)
    (ds : List Descriptor) (bs : Buffers) (spec : FieldSpec) (held : I w) :
    I (extract spec event.view (Extraction.run extract event 0 ds w bs).world).world :=
  step _ _ _ (Extraction.run_keeps (P := fun _ => True)
    (fun spec view v h => ⟨step spec view v h, fun _ _ => trivial⟩) event ds 0 held bs).1

/-- While nothing is under way, the worker of a slot that is waiting serves the slot, and meets a
host with this request alone under way. -/
theorem Reached.posted {c : Client} (reached : Reached [] host)
    (waiting : host.engine.state? c = some .waiting) (id : InstanceId) (h : Handle) (call : Call) :
    host.engine.server c = .ok (c.slot.val % host.engine.maxWorkers) ∧
      Reached [.request c] (host.posted id c h call) := by
  have served : host.engine.server c = .ok (c.slot.val % host.engine.maxWorkers) := by
    refine (reached.chained.consistent.server_of_waiting waiting).2 ?_
    rintro ⟨k, posted, -⟩
    cases (reached.chained.posted k).1 posted
  obtain ⟨accepted, -⟩ := Engine.post_of_waiting waiting (jobOf h call host.nextAddress)
  have lent : Reached [] (host.lent id call) :=
    (reached.lend id true).beside ⟨rfl, rfl, fun _ => rfl⟩
  exact ⟨served, lent.post served (Prod.ext rfl accepted)⟩

theorem client?_of_ties (same : ∀ j, w.ties? j = host.ties? j) : w.client? = host.client? := by
  have through (host : Host S G) (j : InstanceId) :
      host.client? j = (host.ties? j).bind Ties.client := by
    rw [client?, ties?]
    cases host.instances[j]? <;> rfl
  funext j
  rw [through, through, same]

theorem client?_modify {f : Instance S → Instance S} (same : ∀ i, (f i).client = i.client)
    (host : Host S G) (id : InstanceId) : (host.modify id f).client? = host.client? := by
  funext j
  rw [client?, client?, modify, List.getElem?_modify]
  by_cases hj : id = j
  · cases host.instances[j]? <;> simp [hj, same]
  · simp [hj]

theorem client?_holdBuffers (host : Host S G) (thread : Thread) (id : InstanceId) :
    (host.holdBuffers thread id).client? = host.client? := by
  rw [holdBuffers]
  split <;> exact client?_modify (f := fun i => { i with buffersHeld := true }) (fun _ => rfl) _ id

theorem client?_putBuffers (host : Host S G) (id : InstanceId) (bs : Buffers) (ending : Ending) :
    (host.putBuffers id bs ending).client? = host.client? :=
  client?_modify (f := fun i => { i with
    buffers := bs, buffersHeld := false, buffersPoisoned := i.buffersPoisoned || _ }) (fun _ => rfl)
    host id

theorem client?_takenBack (host : Host S G) (id : InstanceId) (memory : List Frame) :
    (host.takenBack id memory).client? = host.client? :=
  client?_modify (f := fun i => { i with clientHeld := false }) (fun _ => rfl)
    { host with memory } id

theorem buffers_takenBack (host : Host S G) (id : InstanceId) (memory : List Frame) :
    (host.takenBack id memory).buffers id = host.buffers id := by
  simp only [buffers, takenBack, modify, List.getElem?_modify]
  cases host.instances[id]? <;> simp

/-- The buffers that are given back are those of the instance. -/
theorem buffers_putBuffers (there : host.inUse id = true) (bs : Buffers) (ending : Ending) :
    (host.putBuffers id bs ending).buffers id = bs := by
  rw [inUse] at there
  cases found : host.instances[id]? with
  | none =>
    rw [found] at there
    cases there
  | some i => simp [buffers, putBuffers, modify, found]

/-- What an extraction in place comes to that panics, and what it would come to with an error in the
place of the panic. -/
structure Struck (behaviour : Behaviour S G) (w : Host S G) (place : Thread) (id : InstanceId)
    (call : Call) (message : String) (first : Extraction (Host S G)) (rest : List Descriptor)
    (left : Host S G) : Prop where
  panicked : extractInPlace behaviour place id call w =
    (left.putBuffers id first.buffers (.escaped (.panic message)), some (first.fields ++ rest),
      .error (.panic message))
  soft : ∀ e, extractInPlace (behaviour.softened e) place id call w =
    (((left.putBuffers id first.buffers (.failed e)).tell place (.extractionFailed e)).keepError
      id e, some (first.fields ++ rest), .ok e.code)

theorem struck_of_panics (free : w.inUse id = false)
    (panics : PanicsAt (behaviour place id) event ((ds.take count).map Descriptor.clear)
      (w.holdBuffers place id) ((w.holdBuffers place id).buffers id) k spec message) :
    let asked := (ds.take count).map Descriptor.clear
    let first := Extraction.run (behaviour place id) event 0 (asked.take k) (w.holdBuffers place id)
      ((w.holdBuffers place id).buffers id)
    Struck behaviour w place id ⟨some event, count, some ds⟩ message first
      (asked.drop k ++ ds.drop count) (behaviour place id spec event.view first.world).world := by
  intro asked first
  have unheld : ¬ w.instances[id]?.any Instance.buffersHeld := Bool.eq_false_iff.1 free
  have several : count ≠ 0 := by
    rintro rfl
    obtain ⟨d, here, -⟩ := panics.field
    simp at here
  have ran : extractFields (behaviour place id) (some event) count (some ds)
      (w.holdBuffers place id) ((w.holdBuffers place id).buffers id) =
      ⟨(behaviour place id spec event.view first.world).world, first.buffers,
        first.fields ++ (asked.drop k ++ ds.drop count), .escaped (.panic message)⟩ := by
    simp only [extractFields, if_neg several, panics.run]
    rw [List.append_assoc]
  refine ⟨?_, fun e => ?_⟩
  · rw [Host.buffers] at ran
    simp only [extractInPlace, if_neg unheld]
    rw [ran]
    rfl
  · have soft := extractFields_softened e (behaviour place id) (some event) count (some ds)
      (w.holdBuffers place id) ((w.holdBuffers place id).buffers id)
    rw [ran, Host.buffers] at soft
    simp only [extractInPlace, if_neg unheld, Behaviour.softened]
    rw [soft]
    rfl

/-! ## After the panic -/

/-- A panic leaves the host as an error would, but for what is said about it. -/
theorem twin_of_panic (left : Host S G) (place : Thread) (id : InstanceId) (bs : Buffers)
    (message : String) (e : ExtractError) :
    (left.putBuffers id bs (.escaped (.panic message))).Twin
      (((left.putBuffers id bs (.failed e)).tell place (.extractionFailed e)).keepError id e) := by
  have back := (Twin.refl left).putBuffers id bs (.escaped (.panic message)) (.failed e)
  exact (back.tellAll place place [] [.extractionFailed e]).keepError id e

/-- Twins answer later calls alike. -/
theorem Twin.later {a b : Host S G} (twin : a.Twin b) {behaviour : Behaviour S G}
    (blind : Blind behaviour) (calls : List (Thread × HostCall S)) (thread : Thread)
    {call : HostCall S} (other : ∀ k, call ≠ .lastError k) :
    (a.performAll behaviour calls).reply behaviour thread call =
        (b.performAll behaviour calls).reply behaviour thread call ∧
      (a.performAll behaviour calls).engine.stats =
        (b.performAll behaviour calls).engine.stats := by
  have after := twin.performAll blind calls
  exact ⟨(after.perform blind thread call).2 other, after.engine.stats⟩

/-- A panic in place is met by the caller, and is contained otherwise. -/
theorem Struck.inPlace (struck : Struck behaviour host thread id call message first rest left)
    (used : host.table.get? h = some id) (none : host.freeClient? id = none)
    (busy : left.inUse id = true)
    (untouched : Quiet behaviour → left.table = host.table ∧
      left.engine.stats = host.engine.stats ∧ left.client? = host.client?) :
    Contained behaviour host thread id h call message first rest left
      (extract behaviour thread h call host) := by
  have result : extract behaviour thread h call host =
      ⟨left.putBuffers id first.buffers (.escaped (.panic message)), some (first.fields ++ rest),
        .error (.panic message)⟩ := by
    simp only [Host.extract, HandleTable.lookup_of_some used, none, struck.panicked]
    rfl
  rw [result]
  refine ⟨fun _ => rfl, fun c client => ?_, rfl, buffers_putBuffers busy _ _, rfl, rfl,
    client?_putBuffers .., untouched, fun e => ?_⟩
  · rw [none] at client
    cases client
  · have soft : extract (behaviour.softened e) thread h call host =
        ⟨((left.putBuffers id first.buffers (.failed e)).tell thread
            (.extractionFailed e)).keepError id e,
          some (first.fields ++ rest), .ok (.ok e.code)⟩ := by
      simp only [Host.extract, HandleTable.lookup_of_some used, none, struck.soft e]
      rfl
    rw [soft]
    refine ⟨rfl, rfl, fun behaviour blind calls s call other => ?_⟩
    exact (twin_of_panic left thread id first.buffers message e).later blind calls s other

/-- A panic on a worker is a failure for the caller, and is contained otherwise. -/
theorem Struck.onWorker {c : Client} {worker : Nat}
    (struck : Struck behaviour (host.posted id c h call) (.worker worker) id call message first rest
      left)
    (used : host.table.get? h = some id) (client : host.freeClient? id = some c)
    (waiting : host.engine.state? c = some .waiting) (served : host.engine.server c = .ok worker)
    (reached : Reached [.extraction id, .request c] left)
    (kept : left.memory = host.memory ++ [⟨call.event, call.fields⟩])
    (untouched : Quiet behaviour → left.table = host.table ∧
      left.engine.stats = host.engine.stats ∧ left.client? = host.client?) :
    Contained behaviour host thread id h call message first rest left
      (extract behaviour thread h call host) := by
  have busy : left.inUse id = true := (reached.chained.held id).2 List.mem_cons_self
  have posted : left.engine.state? c = some .posted := (reached.chained.posted c).2 (by simp)
  obtain ⟨journal, panicked⟩ := extractThroughSlot_of_served used waiting served struck.panicked
    kept posted (.inr ⟨message, rfl⟩) thread
  have through (behaviour : Behaviour S G) : extract behaviour thread h call host =
      extractThroughSlot behaviour thread id c h call host := by
    simp only [Host.extract, HandleTable.lookup_of_some used, client]
  rw [through, panicked]
  have again := Engine.state_finish posted .failure
  refine ⟨fun none => ?_, fun c' client' => ?_, rfl, ?_, rfl, Engine.stats_finish .., ?_, untouched,
    fun e => ?_⟩
  · rw [client] at none
    cases none
  · cases client.symm.trans client'
    exact ⟨rfl, again, (reached.chained.consistent.finish c .failure).live again⟩
  · exact (buffers_takenBack _ id host.memory).trans (buffers_putBuffers busy _ _)
  · exact (client?_takenBack _ id host.memory).trans (client?_putBuffers ..)
  · obtain ⟨journal', soft⟩ := extractThroughSlot_of_served used waiting served (struck.soft e)
      kept posted (.inl ⟨e.code, rfl⟩) thread
    rw [through, soft]
    refine ⟨rfl, rfl, fun behaviour blind calls s call other => ?_⟩
    have back := (twin_of_panic left (.worker worker) id first.buffers message e).takenBack id
      (Eq.refl host.memory)
    refine Twin.later ?_ blind calls s other
    exact ⟨(Engine.Matches.refl left.engine).finish c .failure e.code, back.table, back.instances,
      back.memory, back.shared⟩

/-- **A panic stays in its call.** Take any host between two calls, whatever was called before, and
a call for an open instance whose extractor panics at the field at place `k`, wherever it is run. The
extractor may call back before, as long as it comes back from that and leaves the memory of the calls
under way alone. A call in place meets the panic; one through a slot fails, with the slot waiting
again and its worker alive. The descriptors before `k` hold their results and the others of the call
are cleared. Handles, statistics and clients are as the extractor left them: as before the call, if
it does not call back. And had the extractor returned any error instead, every later call would be
answered alike, whatever comes between, unless it or an extractor that it runs asks for a message. -/
theorem panic_is_contained (reached : Reached [] host) (used : host.table.get? h = some id)
    (direct : ComesBack behaviour id []) (slot : ∀ c, ComesBack behaviour id [.request c])
    (memory : ∀ thread spec view w, (behaviour thread id spec view w).world.memory = w.memory)
    (thread : Thread) (scene : Scene host thread id h ⟨some event, count, some ds⟩ place w)
    (panics : PanicsAt (behaviour place id) event ((ds.take count).map Descriptor.clear)
      (w.holdBuffers place id) ((w.holdBuffers place id).buffers id) k spec message) :
    let asked := (ds.take count).map Descriptor.clear
    let first := Extraction.run (behaviour place id) event 0 (asked.take k) (w.holdBuffers place id)
      ((w.holdBuffers place id).buffers id)
    let left := (behaviour place id spec event.view first.world).world
    Contained behaviour host thread id h ⟨some event, count, some ds⟩ message first
      (asked.drop k ++ ds.drop count) left
      (extract behaviour thread h ⟨some event, count, some ds⟩ host) := by
  intro asked first left
  have chained := reached.chained
  have there := chained.known h id used
  have idle : host.inUse id = false := by
    refine Bool.eq_false_iff.2 fun busy => ?_
    cases (chained.held id).1 busy
  have keeps {I : Host S G → Prop}
      (step : ∀ spec view w, I w → I (behaviour place id spec view w).world)
      (held : I (w.holdBuffers place id)) : I left :=
    keeps_until (behaviour place id) step event (asked.take k) _ spec held
  have kept : left.memory = w.memory := by
    refine keeps (I := fun v => v.memory = w.memory)
      (fun spec view v h => (memory place spec view v).trans h) ?_
    rw [holdBuffers]
    split <;> rfl
  have beside (quiet : Quiet behaviour) : (w.holdBuffers place id).Beside left :=
    keeps (fun spec view v h => h.trans (quiet.keeps place id spec view v)) (Beside.refl _)
  have untouched (quiet : Quiet behaviour) : left.table = w.table ∧
      left.engine.stats = w.engine.stats ∧ left.client? = w.client? := by
    refine ⟨(beside quiet).table.trans (table_holdBuffers ..), ?_,
      (client?_of_ties (beside quiet).ties).trans (client?_holdBuffers ..)⟩
    rw [(beside quiet).engine, engine_holdBuffers]
  cases scene with
  | inPlace none =>
    have panicked : Reached [.extraction id] left :=
      keeps (fun spec view w reached => (direct place spec view w reached).1)
        (reached.hold there idle place)
    exact (struck_of_panics idle panics).inPlace used none
      ((panicked.chained.held id).2 List.mem_cons_self) untouched
  | @onWorker c client waiting =>
    let call : Call := ⟨some event, count, some ds⟩
    obtain ⟨served, posted⟩ := reached.posted waiting id h call
    have free : (host.posted id c h call).inUse id = false :=
      (inUse_modify (f := fun i => { i with clientHeld := true }) (fun _ => rfl) host id id).trans
        idle
    have panicked : Reached [.extraction id, .request c] left :=
      keeps (fun spec view w reached => (slot c _ spec view w reached).1)
        (posted.hold (posted.chained.known h id used) free _)
    refine (struck_of_panics free panics).onWorker used client waiting served panicked kept
      fun quiet => ?_
    obtain ⟨table, stats, clients⟩ := untouched quiet
    refine ⟨table, stats.trans (Engine.stats_post ..), clients.trans ?_⟩
    exact client?_modify (f := fun i => { i with clientHeld := true }) (fun _ => rfl) host id

/-- Extractors that count their calls, and panic at one field. -/
def faltering : Behaviour Nat Unit := fun _ id spec _ host =>
  ⟨host.modify id fun i => { i with state := i.state + 1 }, spec, .unset spec,
    if spec.name = "g" then .escaped (.panic "out of reach") else .done⟩

theorem quiet_faltering : Quiet faltering where
  keeps _ id _ _ host :=
    Beside.modify (f := fun i => { i with state := i.state + 1 }) (fun _ => rfl) host id
  returns _ _ spec _ _ _ := by
    simp only [faltering]
    split <;> simp

/-- The descriptors of two fields, at the second of which the extractor panics. -/
def wishes : List Descriptor :=
  [⟨0, some [102], none, 8, false, .foreign, 0⟩, ⟨1, some [103], none, 8, false, .foreign, 0⟩]

theorem panicsAt_wishes (place : Thread) (id : InstanceId) (w : Host Nat Unit) (bs : Buffers) :
    PanicsAt (faltering place id) ⟨0, 0, none, 0⟩ ((wishes.take 2).map Descriptor.clear) w bs 1
      ⟨1, ⟨.number, false⟩, "g", none⟩ "out of reach" := by
  have f : Descriptor.spec? ⟨0, some [102], none, 8, false, .null, 0⟩ =
      .ok ⟨0, ⟨.number, false⟩, "f", none⟩ := by decide +kernel
  have g : Descriptor.spec? ⟨1, some [103], none, 8, false, .null, 0⟩ =
      .ok ⟨1, ⟨.number, false⟩, "g", none⟩ := by decide +kernel
  refine ⟨?_, ⟨_, rfl, g⟩, ?_⟩
  · simp [wishes, Extraction.run, Descriptor.clear, f, faltering, Extraction.prepend]
  · simp [faltering]

/-- With four processors the worker panics, and with one the caller. -/
theorem panic_is_contained_faltering :
    let call : Call := ⟨some ⟨0, 0, none, 0⟩, 2, some wishes⟩
    (extract faltering .main .first call (couple 4 ())).result = .ok (.ok .failure) ∧
      (extract faltering .main .first call (couple 1 ())).result =
        .error (.panic "out of reach") := by
  have back (chain : List Pending) : ComesBack faltering 0 chain :=
    comesBack_of_quiet quiet_faltering 0 chain
  have opened (machine : Nat) : Reached [] (couple machine () : Host Nat Unit) :=
    ((Reached.new {} machine ()).openInstance .main 0).openInstance .main 0
  have slot : (couple 4 () : Host Nat Unit).freeClient? 0 = some ⟨0, Handle.first.slot⟩ ∧
      (couple 4 () : Host Nat Unit).engine.state? ⟨0, Handle.first.slot⟩ = some .waiting := by
    decide +kernel
  have direct : (couple 1 () : Host Nat Unit).freeClient? 0 = none := by decide +kernel
  have used : (couple 4 () : Host Nat Unit).table.get? .first = some 0 ∧
      (couple 1 () : Host Nat Unit).table.get? .first = some 0 := by decide +kernel
  constructor
  · have contained := panic_is_contained (opened 4) used.1 (back _) (fun _ => back _)
      (fun _ _ _ _ => rfl) .main (.onWorker slot.1 slot.2) (panicsAt_wishes ..)
    exact (contained.onWorker _ slot.1).1
  · have contained := panic_is_contained (opened 1) used.2 (back _) (fun _ => back _)
      (fun _ _ _ _ => rfl) .main (.inPlace direct) (panicsAt_wishes ..)
    exact contained.inPlace direct

/-- Extractors that open an instance, and panic then. -/
def budding : Behaviour Nat Unit := fun thread _ spec _ host =>
  ⟨(host.openInstance thread 0).1, spec, .unset spec, .escaped (.panic "overgrown")⟩

/-- Extractors that fail while there is a message for the first instance. -/
def prying : Behaviour Nat Unit := fun _ _ spec _ host =>
  ⟨host, spec, .unset spec,
    match host.lastError .first with
    | .ok (some message) => .failed (.plugin message)
    | _ => .done⟩

/-- What an extractor opened before it panicked stays open, and an extractor that asks for messages
later can tell a panic from an error. -/
theorem panic_keeps_calls :
    let second : Handle := ⟨2, by decide, by decide⟩
    let call : Call := ⟨some ⟨0, 0, none, 0⟩, 2, some wishes⟩
    let host : Host Nat Unit := couple 1 ()
    let opened := extract budding .main .first question host
    let panicked := extract faltering .main .first call host
    let failed := extract (faltering.softened (.plugin "no")) .main .first call host
    (opened.result = .error (.panic "overgrown") ∧ host.size = 2 ∧ opened.host.size = 3 ∧
        host.engine.stats.active = 2 ∧ opened.host.engine.stats.active = 3) ∧
      (extract prying .main second question panicked.host).result = .ok (.ok .success) ∧
      (extract prying .main second question failed.host).result = .ok (.ok .failure) := by
  decide +kernel

end Host

end PluginBridge
