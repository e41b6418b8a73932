import PluginBridge.Proofs.Host.Orderly

/-!
# Calls from outside

A host that is called from outside, one call after the other, is orderly between the calls
(`orderly_performAll`). An extraction, in place or through a slot, borrows the buffers and the
client of its instance and gives them back (`Orderly.extract`). So calls on open instances are never
rejected, and `host_between_calls` says what the three registers look like.
-/

namespace PluginBridge

namespace Host

variable {S G : Type} {behaviour : Behaviour S G} {host : Host S G} {h : Handle} {id : InstanceId}
  {d : Dispatch slotCount} {short : Prop}

/-! ## Extracting -/

theorem freeClient?_of_ties? {t : Ties} (bound : host.ties? id = some t)
    (free : t.clientHeld = false) : host.freeClient? id = t.client := by
  obtain ⟨i, hi, rfl⟩ := Option.map_eq_some_iff.1 bound
  have free : i.clientHeld = false := free
  simp [freeClient?, hi, free, Instance.ties]

/-- The host with the client of an instance in use for a call, whose memory is there. -/
def lent (host : Host S G) (id : InstanceId) (call : Call) : Host S G :=
  let host := host.modify id fun i => { i with clientHeld := true }
  { host with memory := host.memory ++ [⟨call.event, call.fields⟩] }

/-- The host with the job of a call posted. -/
def handedOver (host : Host S G) (d : Dispatch slotCount) (id : InstanceId) (h : Handle)
    (call : Call) : Host S G :=
  { host.lent id call with
    engine := host.engine.withBatch d
      (d.batch.posting h.slot (jobOf h call host.nextAddress)) }

/-- The host after a call through the client of an instance. -/
def takenBack (host : Host S G) (id : InstanceId) (memory : List Frame) : Host S G :=
  { host with memory }.modify id fun i => { i with clientHeld := false }

theorem extractThroughSlot_of_answered {thread : Thread} {client : Client} {call : Call}
    {w : Host S G} {code : ResultCode}
    (answered : engineIn.request (serveJob behaviour client.slot) client
      (jobOf h call host.nextAddress) (host.lent id call) = (w, .ok (.ok code))) :
    extractThroughSlot behaviour thread id client h call host =
      let taken := w.takenBack id (w.memory.take (host.nextAddress - 1))
      ⟨if code.isSuccess then taken else taken.tell thread (.requestFailed h client.slot code),
        w.memory[host.nextAddress - 1]?.bind Frame.fields, .ok (.ok code)⟩ := by
  rw [lent] at answered
  simp only [extractThroughSlot] at answered ⊢
  rw [answered]
  rfl

theorem ties?_handedOver (host : Host S G) (d : Dispatch slotCount) (id : InstanceId) (h : Handle)
    (call : Call) (j : InstanceId) :
    (host.handedOver d id h call).ties? j =
      if j = id then (host.ties? j).map fun t => { t with clientHeld := true }
      else host.ties? j :=
  ties?_modify (f := fun i => { i with clientHeld := true }) (fun _ => rfl) host id j

/-- The client of an instance is in use while its call is handed over, and its buffers are not. -/
theorem held_handedOver
    (bound : host.ties? id = some ⟨host.engine.clientFor h, false, false⟩)
    (d : Dispatch slotCount) (call : Call) :
    (host.handedOver d id h call).ties? id = some ⟨host.engine.clientFor h, true, false⟩ := by
  rw [ties?_handedOver, if_pos rfl, bound]
  rfl

/-- A host that takes a call back from a worker is orderly again. -/
theorem Orderly.takenBack {call : Call} {b : Host S G} (o : host.Orderly short)
    (used : host.table.get? h = some id) (hd : host.engine.dispatch = some d)
    (bound : host.ties? id = some ⟨host.engine.clientFor h, false, false⟩)
    (beside : (host.handedOver d id h call).Beside b) (code : ResultCode) (memory : List Frame) :
    (Host.takenBack { b with
        engine := host.engine.withBatch d
          ((d.batch.posting h.slot (jobOf h call host.nextAddress)).finish h.slot code) }
      id memory).Orderly short := by
  have waiting := o.waiting used hd bound
  have same := Batch.state_finish_posting waiting (jobOf h call host.nextAddress) code
  have consistent : (host.engine.withBatch d _).prompted.Consistent :=
    Engine.Consistent.withBatch (e := host.engine.prompted) hd same o.consistent
  refine o.congr consistent rfl ?_ (Engine.clientFor_withBatch hd)
    beside.table fun j => ?_
  · exact o.serves.withBatch hd same
  · rw [Host.takenBack, ties?_modify (g := fun t => { t with clientHeld := false }) fun _ => rfl]
    change (if j = id then (b.ties? j).map _ else b.ties? j) = _
    rw [beside.ties, ties?_handedOver]
    by_cases hj : j = id
    · rw [if_pos hj, if_pos hj, hj, bound]
      rfl
    · rw [if_neg hj, if_neg hj]

/-- An extraction through a slot gives the client back and comes back with a code. -/
theorem Orderly.extractThroughSlot (o : host.Orderly short) (quiet : Quiet behaviour)
    (used : host.table.get? h = some id) (hd : host.engine.dispatch = some d)
    (bound : host.ties? id = some ⟨host.engine.clientFor h, false, false⟩) (thread : Thread)
    (call : Call) :
    let r := extractThroughSlot behaviour thread id ⟨host.engine.retired.length, h.slot⟩ h call host
    r.host.Orderly short ∧ r.host.table = host.table ∧
      (∃ batch, r.host.engine = host.engine.withBatch d batch) ∧
      ∃ code, r.result = .ok (.ok code) := by
  intro r
  have waiting := o.waiting used hd bound
  have held := held_handedOver bound d call
  have worker := Engine.served_of_waiting (c := ⟨host.engine.retired.length, h.slot⟩) o.consistent hd
    rfl waiting (o.serves.not_posted hd)
  generalize hs : serveJob behaviour h.slot (d.owner h.slot) (jobOf h call host.nextAddress)
    (host.handedOver d id h call) = served
  obtain ⟨beside, returned⟩ : (host.handedOver d id h call).Beside served.1 ∧ Returned served.2 :=
    hs ▸ serveJob_quiet quiet used held rfl h.slot (d.owner h.slot)
  obtain ⟨code, answers⟩ : ∃ code, served.2 = .ok code ∨
      code = .failure ∧ ∃ message, served.2 = .error (.panic message) := by
    rcases returned with ⟨code, ok⟩ | panic
    · exact ⟨code, .inl ok⟩
    · exact ⟨.failure, .inr ⟨rfl, panic⟩⟩
  have answered : engineIn.request (serveJob behaviour h.slot) ⟨host.engine.retired.length, h.slot⟩
      (jobOf h call host.nextAddress) (host.lent id call) = (_, .ok (.ok code)) :=
    EngineIn.request_of_waiting rfl hd rfl waiting worker hs beside.engine answers
  have back := o.takenBack used hd bound beside code (served.1.memory.take (host.nextAddress - 1))
  have result : r = _ := extractThroughSlot_of_answered answered
  rw [result]
  refine ⟨?_, ?_, ⟨(d.batch.posting h.slot (jobOf h call host.nextAddress)).finish h.slot code, ?_⟩,
    code, rfl⟩
  · dsimp only
    split
    · exact back
    · exact back.beside (Beside.tell ..)
  · dsimp only
    split <;> exact beside.table
  · dsimp only
    split <;> rfl

/-- What a call does to an engine that is neither started nor stopped by it. -/
def Recelled (e e' : Engine) : Prop :=
  e' = e ∨ ∃ d batch, e.dispatch = some d ∧ e' = e.withBatch d batch

/-- An open instance has the client of its slot, or none. -/
theorem Orderly.path (o : host.Orderly short) (used : host.table.get? h = some id) :
    (∃ d, host.engine.dispatch = some d ∧
        host.ties? id = some ⟨host.engine.clientFor h, false, false⟩ ∧
        host.freeClient? id = some ⟨host.engine.retired.length, h.slot⟩) ∨
      host.ties? id = some ⟨none, false, false⟩ ∧ host.freeClient? id = none := by
  rcases o.bound h id used with bound | ⟨-, bound⟩
  · have client := freeClient?_of_ties? bound rfl
    cases hd : host.engine.dispatch with
    | some d =>
      rw [Engine.clientFor, hd] at client
      exact .inl ⟨d, rfl, bound, client⟩
    | none =>
      rw [Engine.clientFor, hd] at bound client
      exact .inr ⟨bound, client⟩
  · exact .inr ⟨bound, freeClient?_of_ties? bound rfl⟩

/-- An extraction for an open instance is never rejected: it comes back with a code, or with a panic
of the extractor. -/
theorem Orderly.extract (o : host.Orderly short) (quiet : Quiet behaviour)
    (used : host.table.get? h = some id) (thread : Thread) (call : Call) :
    let r := extract behaviour thread h call host
    r.host.Orderly short ∧ r.host.table = host.table ∧ Recelled host.engine r.host.engine ∧
      ((∃ code, r.result = .ok (.ok code)) ∨ ∃ message, r.result = .error (.panic message)) := by
  rcases o.path used with ⟨d, hd, bound, client⟩ | ⟨bound, client⟩
  · obtain ⟨orderly, table, ⟨batch, engine⟩, result⟩ :=
      o.extractThroughSlot quiet used hd bound thread call
    simp only [Host.extract, HandleTable.lookup_of_some used, client]
    exact ⟨orderly, table, .inr ⟨d, batch, hd, engine⟩, .inl result⟩
  · obtain ⟨beside, returned⟩ := extractInPlace_quiet quiet bound rfl thread call
    simp only [Host.extract, HandleTable.lookup_of_some used, client]
    refine ⟨o.beside beside, beside.table, .inl beside.engine, ?_⟩
    rcases returned with ⟨code, ok⟩ | ⟨message, panic⟩
    · exact .inl ⟨code, by rw [ok]; rfl⟩
    · exact .inr ⟨message, by rw [panic]; rfl⟩

/-! ## Rejected calls -/

theorem extract_of_closed (behaviour : Behaviour S G) (unused : host.table.get? h = none)
    (thread : Thread) (call : Call) :
    extract behaviour thread h call host =
      ⟨host, call.fields, .ok (.error (.invalidHandle "lookup" h.raw))⟩ := by
  rw [extract, HandleTable.lookup_of_none unused]

theorem closeInstance_of_closed (unused : host.table.get? h = none) (thread : Thread) :
    host.closeInstance thread h = (host, .ok (.error (.invalidHandle "lookup" h.raw))) := by
  rw [closeInstance, HandleTable.lookup_of_none unused]

theorem openInstance_of_full (full : host.table.free? = none) (thread : Thread) (state : S)
    (refusal : Option String) :
    host.openInstance thread state refusal =
      (host, .error (.capacityExhausted registerRounds)) := by
  rw [openInstance, HandleTable.register_of_full full]

/-! ## The engine under a call -/

theorem engine_start (host : Host S G) (thread : Thread) (h : Handle) (refusal : Option String) :
    (host.start thread h refusal).1.engine = (host.engine.start h refusal).1 :=
  (Beside.tellAll ..).engine

theorem engine_stop (host : Host S G) (thread : Thread) (h : Handle) :
    (host.stop thread h).1.engine = (host.engine.stop h).1 :=
  (Beside.tellAll ..).engine

/-- Opening an instance starts the engine for its handle, if there is one. -/
theorem engine_openInstance (host : Host S G) (thread : Thread) (state : S)
    (refusal : Option String) :
    (host.openInstance thread state refusal).1.engine = host.engine ∨
      ∃ h, (host.openInstance thread state refusal).1.engine =
        (host.engine.start h refusal).1 := by
  cases free : host.table.free? with
  | none =>
    rw [openInstance_of_full free]
    exact .inl rfl
  | some h =>
    have started : ((host.seated h state).start thread h refusal).1.engine =
        (host.engine.start h refusal).1 := engine_start ..
    refine .inr ⟨h, ?_⟩
    match hs : (host.seated h state).start thread h refusal with
    | (after, .error v) =>
      rw [hs] at started
      rw [seated] at hs
      simp only [openInstance, HandleTable.register_of_free free, hs]
      split <;> exact started
    | (after, .ok client) =>
      rw [hs] at started
      rw [openInstance_of_started free hs]
      exact started

/-- Closing an open instance stops the engine for its handle. -/
theorem engine_closeInstance (used : host.table.get? h = some id) (thread : Thread) :
    (host.closeInstance thread h).1.engine = (host.engine.stop h).1 := by
  have stopped := engine_stop host thread h
  match hs : host.stop thread h with
  | (after, .error v) =>
    rw [hs] at stopped
    simp only [closeInstance, HandleTable.lookup_of_some used, hs]
    exact stopped
  | (after, .ok ()) =>
    rw [hs] at stopped
    simp only [closeInstance, HandleTable.lookup_of_some used, hs]
    split
    · exact stopped
    · split <;> exact stopped

end Host

/-! ## Calls -/

/-- A call of a host from outside. -/
inductive HostCall (S : Type) where
  | openInstance (state : S)
  | closeInstance (h : Handle)
  | extract (h : Handle) (call : Call)
  | lastError (h : Handle)
  | setEnabled (enabled : Bool)

/-- Something that happens to a host from outside: a call on some thread, with the reason if the
machine starts no threads, or what the thread of a worker does on its own account. -/
inductive HostMove (S : Type) : Type 1 where
  | call (thread : Thread) (call : HostCall S) (refusal : Option String := none)
  | thread (move : ThreadMove)

/-- Whether a move switches dispatching on or off. -/
def HostMove.Switches {S : Type} : HostMove S → Prop
  | .call _ (.setEnabled _) _ => True
  | _ => False

/-- The call of a move, on a machine that starts threads. -/
def HostMove.plain? {S : Type} : HostMove S → Option (HostMove S)
  | .call t c _ => some (.call t c)
  | .thread _ => none

/-- Whether a move is the opening of an instance while the machine starts no threads. -/
def HostMove.Refused {S : Type} : HostMove S → Prop
  | .call _ (.openInstance _) refusal => refusal ≠ none
  | _ => False

/-- The call of a move is switching if the move is, and it is not refused a thread. -/
theorem HostMove.of_plain {S : Type} {m m' : HostMove S} (plain : m'.plain? = some m) :
    ¬ m.Refused ∧ (m.Switches → m'.Switches) := by
  cases m' with
  | thread move => cases plain
  | call t c refusal =>
    cases plain
    cases c <;> simp [Refused, Switches]

namespace Host

variable {S G : Type} {behaviour : Behaviour S G} {host : Host S G} {h : Handle} {id : InstanceId}
  {d : Dispatch slotCount} {thread : Thread} {short : Prop}

/-- The host after a call, whether it succeeds or not. `refusal` says why the machine starts no
threads, if it does not. -/
def perform (behaviour : Behaviour S G) (host : Host S G) (thread : Thread) (call : HostCall S)
    (refusal : Option String := none) : Host S G :=
  match call with
  | .openInstance state => (host.openInstance thread state refusal).1
  | .closeInstance h => (host.closeInstance thread h).1
  | .extract h call => (extract behaviour thread h call host).host
  | .lastError _ => host
  | .setEnabled enabled => host.setEnabled enabled

/-- The host after several calls, each on some thread. -/
def performAll (behaviour : Behaviour S G) (host : Host S G) (calls : List (Thread × HostCall S)) :
    Host S G :=
  calls.foldl (fun host ⟨thread, call⟩ => host.perform behaviour thread call) host

/-- Whether a close was answered with the request to exit that its worker left standing. -/
def isStalled : Except Escape (Except Violation Unit) → Bool
  | .ok (.error (.transitionStalled _ .exitSeen .exitAsked)) => true
  | _ => false

/-- Whether a call finds the worker that it stops in time. -/
def inTime (host : Host S G) (thread : Thread) : HostCall S → Bool
  | .closeInstance h => !isStalled (host.closeInstance thread h).2
  | _ => true

/-- A close that is in time does not ask a worker that sleeps. -/
theorem Orderly.not_late (o : host.Orderly short) (used : host.table.get? h = some id)
    (inTime : host.inTime thread (.closeInstance h)) (d : Dispatch slotCount) :
    ¬ host.engine.Late h d := by
  intro late
  rw [Host.inTime, (o.closeInstance_of_late used late thread).2] at inTime
  cases inTime

theorem Orderly.perform (o : host.Orderly short) (quiet : Quiet behaviour) (thread : Thread)
    (call : HostCall S) {refusal : Option String}
    (given : HostMove.Refused (.call thread call refusal) → short) (inTime : host.inTime thread call) :
    (host.perform behaviour thread call refusal).Orderly short := by
  cases call with
  | openInstance state =>
    cases free : host.table.free? with
    | none =>
      rw [Host.perform, openInstance_of_full free]
      exact o
    | some h => exact (o.openInstance given free thread state).1
  | closeInstance h =>
    cases used : host.table.get? h with
    | none =>
      rw [Host.perform, closeInstance_of_closed used]
      exact o
    | some id => exact (o.closeInstance used (o.not_late used inTime) thread).1
  | extract h call =>
    cases used : host.table.get? h with
    | none =>
      rw [Host.perform, extract_of_closed behaviour used]
      exact o
    | some id => exact (o.extract quiet used thread call).1
  | lastError h => exact o
  | setEnabled enabled => exact o.setEnabled enabled

/-- A host whose workers are awake performs every call in time, and leaves them awake. -/
theorem Orderly.perform_awake (o : host.Orderly short) (awake : host.engine.Awake)
    (quiet : Quiet behaviour) (thread : Thread) (call : HostCall S) :
    host.inTime thread call ∧ (host.perform behaviour thread call).engine.Awake := by
  cases call with
  | openInstance state =>
    refine ⟨rfl, ?_⟩
    rcases engine_openInstance host thread state none with same | ⟨h, started⟩
    · rw [Host.perform, same]
      exact awake
    · rw [Host.perform, started]
      exact awake.start o.fresh h none
  | closeInstance h =>
    cases used : host.table.get? h with
    | none =>
      rw [Host.inTime, Host.perform, closeInstance_of_closed used]
      exact ⟨rfl, awake⟩
    | some id =>
      obtain ⟨-, -, closed⟩ := o.closeInstance used (fun d => awake.not_late) thread
      rw [Host.inTime, Host.perform, closed, engine_closeInstance used]
      exact ⟨rfl, awake.stop h⟩
  | extract h call =>
    refine ⟨rfl, ?_⟩
    cases used : host.table.get? h with
    | none =>
      rw [Host.perform, extract_of_closed behaviour used]
      exact awake
    | some id =>
      obtain ⟨-, -, same | ⟨d, batch, -, same⟩, -⟩ := o.extract quiet used thread call
      · rw [Host.perform, same]
        exact awake
      · rw [Host.perform, same]
        exact awake.withBatch d batch
  | lastError h => exact ⟨rfl, awake⟩
  | setEnabled enabled => exact ⟨rfl, awake.setEnabled enabled⟩

/-- Calls between which no thread does anything on its own account leave a host orderly. -/
theorem orderly_performAll (o : host.Orderly short) (awake : host.engine.Awake)
    (quiet : Quiet behaviour) (calls : List (Thread × HostCall S)) :
    (host.performAll behaviour calls).Orderly short := by
  induction calls generalizing host with
  | nil => exact o
  | cons call calls ih =>
    obtain ⟨inTime, left⟩ := o.perform_awake awake quiet call.1 call.2
    have given (refused : HostMove.Refused (.call call.1 call.2 none)) : short := by
      cases hc : call.2 <;> simp [HostMove.Refused, hc] at refused
    exact ih (o.perform quiet call.1 call.2 given inTime) left

/-! ## Runs -/

/-- The host after what the thread of a worker does on its own account. -/
def moveThread (host : Host S G) (move : ThreadMove) : Host S G :=
  { host with engine := host.engine.move (.thread move) }

/-- The host after a move. -/
def move (behaviour : Behaviour S G) (host : Host S G) : HostMove S → Host S G
  | .call thread call refusal => host.perform behaviour thread call refusal
  | .thread move => host.moveThread move

/-- The host after several moves. -/
def moveAll (behaviour : Behaviour S G) (host : Host S G) (moves : List (HostMove S)) : Host S G :=
  moves.foldl (move behaviour) host

/-- Whether all closes among some moves find the workers that they stop in time. -/
def timely (behaviour : Behaviour S G) : Host S G → List (HostMove S) → Bool
  | _, [] => true
  | host, .call thread call refusal :: moves =>
    host.inTime thread call && timely behaviour (host.move behaviour (.call thread call refusal)) moves
  | host, .thread move :: moves => timely behaviour (host.move behaviour (.thread move)) moves

/-- What a thread does on its own account between two calls wakes it up, or puts it to sleep, or
finds nothing to do. -/
theorem Orderly.prompted_moveThread (o : host.Orderly short) (move : ThreadMove) :
    (host.engine.move (.thread move)).prompted = host.engine.prompted := by
  have calm (d : Dispatch slotCount) (hd : host.engine.dispatch = some d) (i : Fin slotCount) :
      d.batch.state i ≠ .posted ∧ d.batch.state i ≠ .exitAsked := by
    refine ⟨o.serves.not_posted hd i, fun asked => ?_⟩
    have ordinary := (o.consistent.staffed d hd).ordinary i
    simp [asked, SlotState.Ordinary] at ordinary
  exact Engine.prompted_move_thread calm move

theorem Orderly.moveThread (o : host.Orderly short) (move : ThreadMove) :
    (host.moveThread move).Orderly short := by
  have same := o.prompted_moveThread move
  have dispatch : (host.engine.move (.thread move)).dispatch = host.engine.dispatch :=
    (congrArg Engine.dispatch same :)
  refine o.congr ?_ (congrArg Engine.active same :) ?_ ?_ rfl fun _ => rfl
  · exact same ▸ o.consistent
  · intro d hd
    exact o.serves d (dispatch ▸ hd)
  · have retired : (host.engine.move (.thread move)).retired = host.engine.retired :=
      (congrArg Engine.retired same :)
    funext k
    change (host.engine.move (.thread move)).clientFor k = host.engine.clientFor k
    rw [Engine.clientFor, Engine.clientFor, dispatch, retired]

theorem orderly_moveAll (o : host.Orderly short) (quiet : Quiet behaviour)
    (moves : List (HostMove S)) (given : (∃ m ∈ moves, m.Refused) → short)
    (timely : host.timely behaviour moves) : (host.moveAll behaviour moves).Orderly short := by
  induction moves generalizing host with
  | nil => exact o
  | cons m moves ih =>
    have rest (some : ∃ m ∈ moves, m.Refused) : short := by
      obtain ⟨m, mem, refused⟩ := some
      exact given ⟨m, List.mem_cons_of_mem _ mem, refused⟩
    cases m with
    | thread move => exact ih (o.moveThread move) rest timely
    | call thread call refusal =>
      rw [Host.timely, Bool.and_eq_true] at timely
      have kept := o.perform quiet thread call (fun refused => given ⟨_, List.mem_cons_self, refused⟩)
        timely.1
      exact ih kept rest timely.2

/-- Where no thread falls asleep, all closes find their workers in time. -/
theorem timely_plain (o : host.Orderly short) (awake : host.engine.Awake) (quiet : Quiet behaviour)
    (moves : List (HostMove S)) : host.timely behaviour (moves.filterMap HostMove.plain?) := by
  induction moves generalizing host with
  | nil => rfl
  | cons m moves ih =>
    cases m with
    | thread move =>
      rw [List.filterMap_cons_none rfl]
      exact ih o awake
    | call thread call refusal =>
      obtain ⟨inTime, left⟩ := o.perform_awake awake quiet thread call
      have given (refused : HostMove.Refused (.call thread call none)) : short := by
        cases call <;> simp [HostMove.Refused] at refused
      have head : HostMove.plain? (.call thread call refusal) = some (.call thread call) := rfl
      rw [List.filterMap_cons_some head, Host.timely, Bool.and_eq_true]
      exact ⟨inTime, ih (o.perform quiet thread call given inTime) left⟩

/-! ## Between two calls -/

theorem client_of_ties? {t : Ties} (bound : host.ties? id = some t) :
    host.instances[id]?.bind Instance.client = t.client := by
  obtain ⟨i, hi, ties⟩ := Option.map_eq_some_iff.1 bound
  rw [hi]
  exact congrArg Ties.client ties

/-- With a batch, the slot of an open instance is waiting and the instance has its client, unless it
was opened while the thread of its worker could not be started. -/
theorem Orderly.slot (o : host.Orderly short) (hd : host.engine.dispatch = some d)
    (used : host.table.get? h = some id) :
    (d.batch.state h.slot = .waiting ∧
        host.instances[id]?.bind Instance.client = some ⟨host.engine.retired.length, h.slot⟩) ∨
      short ∧ d.batch.state h.slot = .unused ∧ host.instances[id]?.bind Instance.client = none := by
  rcases o.bound h id used with bound | ⟨given, bound⟩
  · refine .inl ⟨o.waiting used hd bound, (client_of_ties? bound).trans ?_⟩
    rw [Engine.clientFor, hd]
    rfl
  · exact .inr ⟨given, o.unused used hd bound, client_of_ties? bound⟩

/-- A host without open instances has no batch and no workers. -/
theorem Orderly.idle (o : host.Orderly short) (empty : host.size = 0) :
    host.engine.dispatch = none ∧ host.engine.pool.liveCount = 0 := by
  have none := o.fresh (o.active.trans empty)
  have gone := Pool.liveCount_eq_zero.2 (o.consistent.idle none)
  exact ⟨none, host.engine.pool.liveCount_prompted.symm.trans gone⟩

/-- Extractors that count their calls and find nothing. -/
def counting : Behaviour Nat Unit := fun _ id spec _ host =>
  ⟨host.modify id fun i => { i with state := i.state + 1 }, spec, .unset spec, .done⟩

theorem tame_counting : Tame counting where
  keeps _ id _ _ host :=
    Beside.modify (f := fun i => { i with state := i.state + 1 }) (fun _ => rfl) host id
  memory _ _ _ _ _ := rfl
  comes _ _ _ _ _ _ := by simp [counting]

/-- A call that asks for one field. -/
def question : Call :=
  ⟨some ⟨0, 0, none, 0⟩, 1, some [⟨0, some [102], none, 8, false, .foreign, 0⟩]⟩

/-- Settings with which workers sleep longer than the engine waits for them. -/
def drowsy : Config :=
  { concurrency := some 4, starvationThreshold := 0, idleSleep := 500000, transitionTimeout := 1 }

/-- Two instances are opened, and one of them extracts, while the first worker falls asleep. -/
def visits (h : Handle) : List (HostMove Nat) :=
  [.call .main (.openInstance 0), .call .main (.openInstance 0), .thread (.slow 0),
    .call .main (.extract h question)]

end Host

end PluginBridge
