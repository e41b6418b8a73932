import PluginBridge.Proofs.Engine.Waits
import PluginBridge.Proofs.Host.Calls

/-!
# Chains of calls

An extractor that runs may call back into its host, and what it calls may call back again. `Pending`
lists what such a chain of calls has under way: callers that wait for the worker of a slot, and
instances whose buffers are in use. `Reached` says which hosts a chain can meet while nobody else is
at work, and `Chained` what holds of them: the posted slots and the buffers in use are those of the
chain.
-/

namespace PluginBridge

/-- Something that a chain of calls has under way. -/
inductive Pending where
  /-- A caller waits for the worker of a slot. -/
  | request (c : Client)
  /-- The buffers of an instance are in use. -/
  | extraction (id : InstanceId)
  deriving DecidableEq, Repr

namespace Host

variable {S G : Type} {host a b : Host S G} {chain : List Pending} {c : Client} {h : Handle}
  {id : InstanceId} {thread : Thread} {e : Engine} {v : Violation}

/-- Whether the buffers of an instance are in use. -/
def inUse (host : Host S G) (id : InstanceId) : Bool := host.instances[id]?.any Instance.buffersHeld

/-- The hosts that a chain of calls can meet, with what it has under way, innermost first. -/
inductive Reached : List Pending → Host S G → Prop where
  | new (config : Config) (machine : Nat) (shared : G) : Reached [] (Host.new config machine shared)
  /-- An extractor changes its own state, or what extractors share. -/
  | beside {chain : List Pending} {a b : Host S G} (reached : Reached chain a) (beside : a.Beside b) :
      Reached chain b
  | openInstance {chain : List Pending} {host : Host S G} (reached : Reached chain host)
      (thread : Thread) (state : S) : Reached chain (host.openInstance thread state).1
  | closeInstance {chain : List Pending} {host : Host S G} (reached : Reached chain host)
      (thread : Thread) (h : Handle) : Reached chain (host.closeInstance thread h).1
  | start {chain : List Pending} {host : Host S G} (reached : Reached chain host) (thread : Thread)
      (h : Handle) : Reached chain (host.start thread h).1
  | stop {chain : List Pending} {host : Host S G} (reached : Reached chain host) (thread : Thread)
      (h : Handle) : Reached chain (host.stop thread h).1
  | setEnabled {chain : List Pending} {host : Host S G} (reached : Reached chain host)
      (enabled : Bool) : Reached chain (host.setEnabled enabled)
  /-- The client of an instance is taken into use, or given back. -/
  | lend {chain : List Pending} {host : Host S G} (reached : Reached chain host) (id : InstanceId)
      (held : Bool) : Reached chain (host.modify id fun i => { i with clientHeld := held })
  | rejected {chain : List Pending} {host : Host S G} (reached : Reached chain host) {c : Client}
      {job : Job} {e : Engine} {v : Violation} (rejected : host.engine.post c job = (e, .error v)) :
      Reached chain { host with engine := e }
  | post {chain : List Pending} {host : Host S G} (reached : Reached chain host) {c : Client}
      {job : Job} {e : Engine} {worker : Nat} (served : host.engine.server c = .ok worker)
      (posted : host.engine.post c job = (e, .ok ())) :
      Reached (.request c :: chain) { host with engine := e }
  | answer {chain : List Pending} {host : Host S G} {c : Client}
      (reached : Reached (.request c :: chain) host) (code : ResultCode) :
      Reached chain { host with engine := host.engine.finish c code }
  | hold {chain : List Pending} {host : Host S G} (reached : Reached chain host) {id : InstanceId}
      (there : (host.ties? id).isSome) (free : host.inUse id = false) (thread : Thread) :
      Reached (.extraction id :: chain) (host.holdBuffers thread id)
  | putBuffers {chain : List Pending} {host : Host S G} {id : InstanceId}
      (reached : Reached (.extraction id :: chain) host) (buffers : Buffers) (ending : Ending) :
      Reached chain (host.putBuffers id buffers ending)

/-- What holds of a host that a chain of calls meets. -/
structure Chained (chain : List Pending) (host : Host S G) : Prop where
  consistent : host.engine.Consistent
  posted : ∀ c, host.engine.state? c = some .posted ↔ .request c ∈ chain
  held : ∀ id, host.inUse id ↔ .extraction id ∈ chain
  known : ∀ h id, host.table.get? h = some id → (host.ties? id).isSome
  nodup : chain.Nodup

/-! ## What operations do to the buffers in use -/

theorem inUse_eq (host : Host S G) (id : InstanceId) :
    host.inUse id = (host.ties? id).any Ties.buffersHeld := by
  rw [inUse, ties?, Option.any_map]
  rfl

theorem inUse_congr (same : ∀ id, b.ties? id = a.ties? id) (id : InstanceId) :
    b.inUse id = a.inUse id := by
  rw [inUse_eq, inUse_eq, same]

/-- A change of an instance that leaves its buffers alone. -/
theorem inUse_modify {f : Instance S → Instance S} (same : ∀ i, (f i).buffersHeld = i.buffersHeld)
    (host : Host S G) (id j : InstanceId) : (host.modify id f).inUse j = host.inUse j := by
  simp only [inUse, modify, List.getElem?_modify]
  by_cases hj : id = j
  · cases host.instances[j]? <;> simp [hj, same]
  · simp [hj]

theorem isSome_ties?_modify (host : Host S G) (id j : InstanceId) (f : Instance S → Instance S) :
    ((host.modify id f).ties? j).isSome = (host.ties? j).isSome := by
  simp [ties?, modify, List.getElem?_modify]

theorem inUse_holdBuffers (there : (host.ties? id).isSome) (thread : Thread) (j : InstanceId) :
    (host.holdBuffers thread id).inUse j = (decide (j = id) || host.inUse j) := by
  rw [inUse_eq, inUse_eq, ties?_holdBuffers]
  by_cases hj : j = id
  · obtain ⟨t, ht⟩ := Option.isSome_iff_exists.1 there
    simp [hj, ht]
  · simp [hj]

theorem inUse_putBuffers (host : Host S G) (id j : InstanceId) (buffers : Buffers) (ending : Ending) :
    (host.putBuffers id buffers ending).inUse j = (!decide (j = id) && host.inUse j) := by
  simp only [inUse, putBuffers, modify, List.getElem?_modify]
  by_cases hj : id = j
  · cases host.instances[j]? <;> simp [hj]
  · simp [hj, Ne.symm hj]

/-! ## What holds on the way -/

namespace Chained

/-- A host with the same registers meets the same chain. -/
theorem congr (k : Chained chain a) (consistent : b.engine.Consistent)
    (posted : ∀ c, b.engine.state? c = some .posted ↔ a.engine.state? c = some .posted)
    (held : ∀ id, b.inUse id = a.inUse id)
    (known : ∀ h id, b.table.get? h = some id → (b.ties? id).isSome) : Chained chain b where
  consistent := consistent
  posted c := (posted c).trans (k.posted c)
  held id := by rw [held]; exact k.held id
  known := known
  nodup := k.nodup

theorem beside (k : Chained chain a) (beside : a.Beside b) : Chained chain b := by
  refine k.congr (beside.engine ▸ k.consistent) (fun c => by rw [beside.engine])
    (inUse_congr beside.ties) fun h id found => ?_
  rw [beside.ties]
  exact k.known h id (beside.table ▸ found)

/-- Only posts and answers change the chain. -/
theorem administer (k : Chained chain host) (call : EngineCall) (post : ∀ c job, call ≠ .post c job)
    (finish : ∀ c code, call ≠ .finish c code) :
    Chained chain { host with engine := host.engine.perform call } :=
  k.congr (k.consistent.perform call)
    (fun c => (k.consistent.perform_change call c).posted_iff (post c) (finish c)) (fun _ => rfl)
    k.known

theorem start (k : Chained chain host) (thread : Thread) (h : Handle) :
    Chained chain (host.start thread h).1 :=
  (k.administer (.start h) (by simp) (by simp)).beside (Beside.tellAll ..)

theorem stop (k : Chained chain host) (thread : Thread) (h : Handle) :
    Chained chain (host.stop thread h).1 :=
  (k.administer (.stop h) (by simp) (by simp)).beside (Beside.tellAll ..)

theorem modify (k : Chained chain host) (id : InstanceId) {f : Instance S → Instance S}
    (same : ∀ i, (f i).buffersHeld = i.buffersHeld) : Chained chain (host.modify id f) := by
  refine k.congr k.consistent (fun _ => Iff.rfl) (inUse_modify same host id) fun h j found => ?_
  rw [isSome_ties?_modify]
  exact k.known h j found

/-- A table with no more entries. -/
theorem revoked (k : Chained chain host) {table : HandleTable InstanceId}
    (less : ∀ h id, table.get? h = some id → host.table.get? h = some id) :
    Chained chain { host with table } :=
  k.congr k.consistent (fun _ => Iff.rfl) (fun _ => rfl) fun h id found => k.known h id (less h id found)

/-- An instance that is made is not in use. -/
theorem seated (k : Chained chain host) (h : Handle) (state : S) :
    Chained chain (host.seated h state) := by
  refine k.congr k.consistent (fun _ => Iff.rfl) (fun j => ?_) fun l j found => ?_
  · rw [inUse_eq, inUse_eq, ties?_seated]
    split
    · next last =>
      have unseen : host.ties? j = none :=
        Option.eq_none_iff_forall_ne_some.2 fun t bound => Nat.lt_irrefl _ (last ▸ ties?_lt bound)
      simp [unseen]
    · rfl
  · rw [ties?_seated]
    split
    · rfl
    · next other =>
      have found : (if l = h then some host.instances.length else host.table.get? l) = some j := by
        rw [← HandleTable.get?_put]
        exact found
      split at found
      · exact absurd (Option.some.inj found).symm other
      · exact k.known l j found

theorem openInstance (k : Chained chain host) (thread : Thread) (state : S) :
    Chained chain (host.openInstance thread state).1 := by
  cases free : host.table.free? with
  | none =>
    rw [openInstance_of_full free]
    exact k
  | some h =>
    have started := (k.seated h state).start thread h
    match hs : (host.seated h state).start thread h with
    | (after, .error v) =>
      rw [hs] at started
      rw [Host.seated] at hs
      simp only [Host.openInstance, HandleTable.register_of_free free, hs]
      split
      · exact started
      · next done => exact started.revoked fun l j => HandleTable.get?_of_revoked done
    | (after, .ok client) =>
      rw [hs] at started
      rw [openInstance_of_started free hs]
      exact (started.modify host.instances.length (f := fun i => { i with client })
        fun _ => rfl).beside (Beside.tell ..)

theorem closeInstance (k : Chained chain host) (thread : Thread) (h : Handle) :
    Chained chain (host.closeInstance thread h).1 := by
  cases used : host.table.get? h with
  | none =>
    rw [closeInstance_of_closed used]
    exact k
  | some id =>
    have stopped := k.stop thread h
    match hs : host.stop thread h with
    | (after, .error v) =>
      rw [hs] at stopped
      simp only [Host.closeInstance, HandleTable.lookup_of_some used, hs]
      exact stopped
    | (after, .ok ()) =>
      rw [hs] at stopped
      simp only [Host.closeInstance, HandleTable.lookup_of_some used, hs]
      split
      · exact stopped
      · have away := stopped.modify id (f := fun i => { i with client := none }) fun _ => rfl
        split
        · exact away
        · next done =>
          exact (away.revoked fun l j => HandleTable.get?_of_revoked done).beside (Beside.tell ..)

theorem rejected (k : Chained chain host) {job : Job}
    (rejected : host.engine.post c job = (e, .error v)) :
    Chained chain { host with engine := e } := by
  have consistent := k.consistent.post c job
  rw [rejected] at consistent
  exact k.congr consistent (fun l => by rw [Engine.state_rejected rejected]) (fun _ => rfl) k.known

/-- An accepted post is under way from then on. -/
theorem post (k : Chained chain host) {job : Job} (posted : host.engine.post c job = (e, .ok ())) :
    Chained (.request c :: chain) { host with engine := e } := by
  have consistent := k.consistent.post c job
  obtain ⟨waiting, now⟩ := Engine.state_post posted
  have others (l : Client) (other : l ≠ c) : e.state? l = some .posted ↔ .request l ∈ chain := by
    have change := host.engine.post_change c l job
    rw [posted] at change
    refine (change.posted_iff (fun job' same => other ?_) (by simp)).trans (k.posted l)
    cases same
    rfl
  rw [posted] at consistent
  refine ⟨consistent, fun l => ?_, fun id => ?_, k.known, List.nodup_cons.2 ⟨fun mem => ?_, k.nodup⟩⟩
  · by_cases same : l = c
    · simp [same, now]
    · rw [others l same]
      simp [same]
  · rw [List.mem_cons, ← k.held id]
    simp [inUse]
  · rw [← k.posted, waiting] at mem
    cases mem

theorem answer (k : Chained (.request c :: chain) host) (code : ResultCode) :
    Chained chain { host with engine := host.engine.finish c code } := by
  obtain ⟨new, nodup⟩ := List.nodup_cons.1 k.nodup
  have posted := (k.posted c).2 List.mem_cons_self
  refine ⟨k.consistent.finish c code, fun l => ?_, fun id => ?_, k.known, nodup⟩
  · by_cases same : l = c
    · rw [same, Engine.state_finish posted code]
      simp [new]
    · have change := host.engine.finish_change c l code
      refine (change.posted_iff (by simp) fun code' given => same ?_).trans ((k.posted l).trans ?_)
      · cases given
        rfl
      · simp [same]
  · refine (k.held id).trans ?_
    simp

theorem hold (k : Chained chain host) (there : (host.ties? id).isSome)
    (free : host.inUse id = false) (thread : Thread) :
    Chained (.extraction id :: chain) (host.holdBuffers thread id) where
  consistent := by
    rw [engine_holdBuffers]
    exact k.consistent
  posted l := by
    rw [engine_holdBuffers, k.posted]
    simp
  held j := by
    rw [inUse_holdBuffers there, Bool.or_eq_true, k.held]
    simp
  known h j found := by
    rw [table_holdBuffers] at found
    have known := k.known h j found
    rw [ties?_holdBuffers]
    split
    · rw [Option.isSome_map]
      exact known
    · exact known
  nodup := by
    refine List.nodup_cons.2 ⟨fun mem => ?_, k.nodup⟩
    rw [← k.held, free] at mem
    cases mem

theorem putBuffers (k : Chained (.extraction id :: chain) host) (buffers : Buffers)
    (ending : Ending) : Chained chain (host.putBuffers id buffers ending) := by
  obtain ⟨new, nodup⟩ := List.nodup_cons.1 k.nodup
  refine ⟨k.consistent, fun l => ?_, fun j => ?_, fun h j found => ?_, nodup⟩
  · refine (k.posted l).trans ?_
    simp
  · rw [inUse_putBuffers, Bool.and_eq_true, k.held]
    by_cases same : j = id
    · simp [same, new]
    · simp [same]
  · exact (isSome_ties?_modify host id j _).trans (k.known h j found)

end Chained

/-- A host that a chain of calls can meet has posted slots and buffers in use for this chain only. -/
theorem Reached.chained (reached : Reached chain host) : Chained chain host := by
  induction reached with
  | new config machine shared =>
    refine ⟨Engine.consistent_new config machine, fun c => ?_, fun id => ?_, fun h id found => ?_,
      List.nodup_nil⟩
    · have none : (Engine.new config machine).state? c = none := by
        by_cases current : c.activation = 0
        · rw [Engine.state?_of_current (by exact current)]
          rfl
        · rw [Engine.state?_of_earlier (by exact current)]
          rfl
      simp [Host.new, none]
    · simp [inUse, Host.new]
    · simp [Host.new] at found
  | beside _ beside ih => exact ih.beside beside
  | openInstance _ thread state ih => exact ih.openInstance thread state
  | closeInstance _ thread h ih => exact ih.closeInstance thread h
  | start _ thread h ih => exact ih.start thread h
  | stop _ thread h ih => exact ih.stop thread h
  | setEnabled _ enabled ih => exact ih.administer (.setEnabled enabled) (by simp) (by simp)
  | lend _ id held ih => exact ih.modify id fun _ => rfl
  | rejected _ rejected ih => exact ih.rejected rejected
  | post _ _ posted ih => exact ih.post posted
  | answer _ code ih => exact ih.answer code
  | hold _ there free thread ih => exact ih.hold there free thread
  | putBuffers _ buffers ending ih => exact ih.putBuffers buffers ending

/-! ## Extractors that call back -/

/-- An extractor of an instance that comes back whenever it is called on top of a chain, with nothing
more under way than before. -/
def ComesBack (behaviour : Behaviour S G) (id : InstanceId) (chain : List Pending) : Prop :=
  ∀ thread spec event (host : Host S G), Reached (.extraction id :: chain) host →
    Reached (.extraction id :: chain) (behaviour thread id spec event host).world ∧
      ∀ cause, (behaviour thread id spec event host).ending ≠ .escaped (.standstill cause)

variable {behaviour : Behaviour S G}

theorem extractInPlace_of_inUse (behaviour : Behaviour S G) (used : host.inUse id = true)
    (thread : Thread) (call : Call) :
    extractInPlace behaviour thread id call host =
      (host, call.fields, .error (.standstill (.ownBuffers id))) := by
  have held : host.instances[id]?.any Instance.buffersHeld = true := used
  rw [extractInPlace, if_pos held]

/-- An extraction through a slot comes back as its request does, and then gives the client back. -/
theorem extractThroughSlot_request (thread : Thread) {call : Call} {after : Host S G}
    {result : Except Escape RequestResult}
    (ran : engineIn.request (Host.serveJob behaviour c.slot) c (jobOf h call host.nextAddress)
      (host.lent id call) = (after, result)) :
    (extractThroughSlot behaviour thread id c h call host).result = result ∧
      Beside (after.modify id fun i => { i with clientHeld := false })
        (extractThroughSlot behaviour thread id c h call host).host := by
  have taken (memory : List Frame) :
      Beside (after.modify id fun i => { i with clientHeld := false }) (after.takenBack id memory) :=
    ⟨rfl, rfl, fun _ => rfl⟩
  rw [lent] at ran
  simp only [extractThroughSlot] at ran ⊢
  rw [ran]
  simp only
  split
  · refine ⟨rfl, ?_⟩
    dsimp only
    split
    · exact taken _
    · exact (taken _).trans (Beside.tell ..)
  · exact ⟨rfl, taken _⟩

/-- An extractor that does not call back comes back. -/
theorem comesBack_of_quiet (quiet : Quiet behaviour) (id : InstanceId) (chain : List Pending) :
    ComesBack behaviour id chain := fun thread spec event host reached =>
  ⟨reached.beside (quiet.keeps thread id spec event host), quiet.returns thread id spec event host⟩

/-- A host with two instances. -/
def couple {G : Type} (machine : Nat) (shared : G) : Host Nat G :=
  (((new {} machine shared).openInstance .main 0).1.openInstance .main 0).1

end Host

end PluginBridge
