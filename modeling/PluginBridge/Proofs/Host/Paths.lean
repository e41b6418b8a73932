import PluginBridge.Proofs.Host.Served
import PluginBridge.Proofs.Host.Solo

/-!
# The two paths of an extraction

An extraction goes through a slot if its instance has a client, and is done in place otherwise. For
an orderly host and solo extractors the two come to the same (`extractThroughSlot_alike`): the worker
finds in the slot the call that was handed over, works in a host that is like the one that the call
met, and what it writes reaches the caller. So two hosts that are called in the same way give the
same answers, whatever their engines are told to do (`paths_agree`).
-/

namespace PluginBridge

namespace Host

section

variable {S G : Type} {host : Host S G} {h : Handle} {id : InstanceId} {d : Dispatch slotCount}

theorem Alike.handedOver (host : Host S G) (d : Dispatch slotCount) (id : InstanceId) (h : Handle)
    (call : Call) : host.Alike (host.handedOver d id h call) := by
  have lent := Alike.modify_apart host id (f := fun i => { i with clientHeld := true }) fun _ => rfl
  exact ⟨lent.table, lent.shared, lent.instances⟩

theorem Alike.takenBack (host : Host S G) (id : InstanceId) (memory : List Frame) :
    host.Alike (host.takenBack id memory) := by
  have back := Alike.modify_apart host id (f := fun i => { i with clientHeld := false }) fun _ => rfl
  exact ⟨back.table, back.shared, back.instances⟩

variable {behaviour : Behaviour S G}

/-- An extraction through a slot comes to the same as the extraction of its worker. -/
theorem Orderly.extractThroughSlot_served (o : host.Orderly short) (tame : Tame behaviour)
    (used : host.table.get? h = some id) (hd : host.engine.dispatch = some d)
    (bound : host.ties? id = some ⟨host.engine.clientFor h, false, false⟩) (thread : Thread)
    (call : Call) :
    let r := Host.extractThroughSlot behaviour thread id ⟨host.engine.retired.length, h.slot⟩ h call
      host
    let w := host.handedOver d id h call
    let y := extractInPlace behaviour (.worker (d.owner h.slot)) id call w
    w.Beside y.1 ∧ y.1.Alike r.host ∧ r.fields = y.2.1 ∧
      ∃ code, y.2.2 = .ok code ∧ r.result = .ok (.ok code) := by
  intro r w y
  have held := held_handedOver bound d call
  obtain ⟨code, came⟩ : ∃ code, y.2.2 = .ok code := extractInPlace_tame tame held rfl _ call
  have beside : (host.handedOver d id h call).Beside y.1 :=
    (extractInPlace_quiet tame.quiet held rfl _ call).1
  obtain ⟨journal, result⟩ := o.extractThroughSlot_eq tame.quiet
    (fun thread => tame.memory thread id) used hd bound thread call
  have eq : r =
      ⟨{ y.1.takenBack id host.memory with
          engine := y.1.engine.finish ⟨host.engine.retired.length, h.slot⟩ (codeOf y.2.2), journal },
        y.2.1, .ok (.ok (codeOf y.2.2))⟩ := result
  rw [eq, came]
  refine ⟨beside, ?_, rfl, code, rfl, rfl⟩
  have back := Alike.takenBack y.1 id host.memory
  exact ⟨back.table, back.shared, back.instances⟩

/-- An extraction for an open instance comes to the same as one in place, on some thread and in some
host that is like this one. -/
theorem Orderly.extract_served (o : host.Orderly short) (tame : Tame behaviour)
    (used : host.table.get? h = some id) (thread : Thread) (call : Call) :
    let r := Host.extract behaviour thread h call host
    ∃ place w, host.Alike w ∧
      let y := extractInPlace behaviour place id call w
      w.Beside y.1 ∧ y.1.Alike r.host ∧ r.fields = y.2.1 ∧
        ∃ code, y.2.2 = .ok code ∧ r.result = .ok (.ok code) := by
  rcases o.path used with ⟨d, hd, bound, client⟩ | ⟨bound, client⟩
  · have served := o.extractThroughSlot_served tame used hd bound thread call
    simp only [Host.extract, HandleTable.lookup_of_some used, client]
    exact ⟨_, _, Alike.handedOver host d id h call, served⟩
  · obtain ⟨code, came⟩ := extractInPlace_tame tame bound rfl thread call
    have beside := (extractInPlace_quiet tame.quiet bound rfl thread call).1
    simp only [Host.extract, HandleTable.lookup_of_some used, client]
    exact ⟨thread, host, Alike.refl _, beside, Alike.refl _, rfl, code, came, by rw [came]; rfl⟩

end

variable {S G : Type} {a b host : Host S (Ledger G)} {h : Handle} {id : InstanceId}
  {d : Dispatch slotCount} {short short' : Prop} (solo : SoloExtractor S G)

/-- An extraction for an open instance comes to the same as one in place, whichever path it takes. -/
theorem Orderly.extract_in_place (o : host.Orderly short) (used : host.table.get? h = some id)
    (thread : Thread) (call : Call) :
    let r := Host.extract solo.behaviour thread h call host
    let x := extractInPlace solo.behaviour thread id call host
    x.1.Alike r.host ∧ r.fields = x.2.1 ∧ r.result = x.2.2.map .ok := by
  intro r x
  obtain ⟨place, w, alike, -, after, fields, code, came, result⟩ :=
    o.extract_served solo.tame used thread call
  obtain ⟨moved, same⟩ := extractInPlace_alike solo alike thread place id call
  have came : x.2.2 = .ok code := (congrArg Prod.snd same).symm.trans came
  refine ⟨moved.trans after, fields.trans (congrArg Prod.fst same), ?_⟩
  rw [came]
  exact result

/-- An extraction comes to the same in orderly hosts that are alike, whichever path it takes. -/
theorem Orderly.extract_alike (oa : a.Orderly short) (ob : b.Orderly short') (alike : a.Alike b)
    (thread : Thread) (h : Handle) (call : Call) :
    let ra := Host.extract solo.behaviour thread h call a
    let rb := Host.extract solo.behaviour thread h call b
    ra.host.Alike rb.host ∧ rb.fields = ra.fields ∧ rb.result = ra.result := by
  cases used : a.table.get? h with
  | none =>
    have unused : b.table.get? h = none := by rw [alike.table, used]
    rw [extract_of_closed _ used, extract_of_closed _ unused]
    exact ⟨alike, rfl, rfl⟩
  | some id =>
    have usedToo : b.table.get? h = some id := by rw [alike.table, used]
    obtain ⟨wa, fa, ra⟩ := oa.extract_in_place solo used thread call
    obtain ⟨wb, fb, rb⟩ := ob.extract_in_place solo usedToo thread call
    obtain ⟨place, same⟩ := extractInPlace_alike solo alike thread thread id call
    refine ⟨wa.symm.trans (place.trans wb), ?_, ?_⟩
    · rw [fa, fb, same]
    · rw [ra, rb, same]

/-! ## Opening and closing -/

section

variable {S G : Type} {a b host : Host S G} {h : Handle} {id : InstanceId} {thread : Thread}

/-- A host with a new instance, whatever the engine has done for it. -/
theorem seated_alike_openInstance {state : S} {refusal : Option String}
    (opened : (host.openInstance thread state refusal).2 = .ok h) :
    (host.seated h state).Alike (host.openInstance thread state refusal).1 := by
  cases free : host.table.free? with
  | none =>
    rw [openInstance_of_full free] at opened
    cases opened
  | some k =>
    have started : (host.seated k state).Alike ((host.seated k state).start thread k refusal).1 :=
      Alike.trans (b := { host.seated k state with engine := (host.engine.start k refusal).1 })
        ⟨rfl, rfl, rfl⟩ (Alike.tellAll ..)
    match hs : (host.seated k state).start thread k refusal with
    | (after, .error v) =>
      rw [seated] at hs
      simp only [openInstance, HandleTable.register_of_free free, hs] at opened
      split at opened <;> cases opened
    | (after, .ok client) =>
      rw [openInstance_of_started free hs] at opened ⊢
      cases opened
      rw [hs] at started
      have bound := Alike.modify_apart after host.instances.length (f := fun i => { i with client })
        fun _ => rfl
      exact (started.trans bound).trans (Alike.tell ..)

/-- A host without an instance, whatever the engine has done for that. -/
theorem revoked_alike_closeInstance (used : host.table.get? h = some id)
    (closed : (host.closeInstance thread h).2 = .ok (.ok ())) :
    Alike { host with table := host.table.put h none } (host.closeInstance thread h).1 := by
  have stopped : host.Alike (host.stop thread h).1 :=
    Alike.trans (b := { host with engine := (host.engine.stop h).1 }) ⟨rfl, rfl, rfl⟩
      (Alike.tellAll ..)
  match hs : host.stop thread h with
  | (after, .error v) =>
    simp only [closeInstance, HandleTable.lookup_of_some used, hs] at closed
    cases closed
  | (after, .ok ()) =>
    rw [hs] at stopped
    simp only [closeInstance, HandleTable.lookup_of_some used, hs] at closed ⊢
    split at closed
    · cases closed
    · next free =>
      have away := stopped.trans (Alike.modify_apart after id (f := fun i => { i with client := none })
        fun _ => rfl)
      have revoked := HandleTable.revoke_of_some used
      rw [← away.table] at revoked
      rw [if_neg free, revoked]
      exact ⟨congrArg (·.put h none) away.table, away.shared, away.instances⟩

end

/-! ## What a caller sees -/

end Host

/-- The answer of a call from outside. -/
inductive HostReply where
  | opened (result : Except Violation Handle)
  | closed (result : Except Escape (Except Violation Unit))
  /-- The descriptors come back with what their results lead to. -/
  | extracted (result : Except Escape (Except Violation ResultCode))
      (fields : Option (List Descriptor)) (outputs : Option (List FieldOutput))
  | lastError (result : Except Violation (Option String))
  | switched

/-- What there is to see of a host between two calls: for each handle the message of the last
failure and the results, and for the extractors what they share and which calls they were given. -/
structure Outlook (G : Type) where
  lastError : Handle → Except Violation (Option String)
  buffers : Handle → Option Buffers
  ledger : Ledger G

namespace Host

section

variable {S G : Type} {a b : Host S G}

/-- The answer of a call. -/
def reply (behaviour : Behaviour S G) (host : Host S G) (thread : Thread) (call : HostCall S)
    (refusal : Option String := none) : HostReply :=
  match call with
  | .openInstance state => .opened (host.openInstance thread state refusal).2
  | .closeInstance h => .closed (host.closeInstance thread h).2
  | .extract h call =>
    let r := extract behaviour thread h call host
    let buffers := (r.host.buffersOf? h).getD []
    .extracted r.result r.fields (r.fields.map fun ds => ds.map (Descriptor.output buffers))
  | .lastError h => .lastError (host.lastError h)
  | .setEnabled _ => .switched

theorem Alike.lastError (h : a.Alike b) : b.lastError = a.lastError := by
  have bind (o : Option (Instance S)) : o.bind Instance.lastError = (o.map Instance.lastError).join := by
    cases o <;> rfl
  funext k
  rw [Host.lastError, Host.lastError, h.table]
  refine congrArg (Except.map · _) (funext fun id => ?_)
  rw [bind, bind, h.congr id (f := Instance.lastError) fun _ => rfl]

theorem Alike.buffersOf? (h : a.Alike b) : b.buffersOf? = a.buffersOf? := by
  funext k
  rw [Host.buffersOf?, Host.buffersOf?, h.table]
  refine congrArg (Option.bind _) (funext fun id => ?_)
  exact h.congr id fun _ => rfl

end

variable {S G : Type} {a b : Host S (Ledger G)}

/-- What there is to see of a host. -/
def outlook (host : Host S (Ledger G)) : Outlook G := ⟨host.lastError, host.buffersOf?, host.shared⟩

/-- What there is to see of a run: the answer of each call, and what the host looks like after
it. -/
def watch (behaviour : Behaviour S (Ledger G)) :
    Host S (Ledger G) → List (HostMove S) → List (HostReply × Outlook G)
  | _, [] => []
  | host, .call thread call refusal :: moves =>
    let after := host.perform behaviour thread call refusal
    (host.reply behaviour thread call refusal, after.outlook) :: watch behaviour after moves
  | host, .thread move :: moves => watch behaviour (host.move behaviour (.thread move)) moves

theorem Alike.outlook (h : a.Alike b) : b.outlook = a.outlook := by
  rw [Host.outlook, Host.outlook, h.lastError, h.buffersOf?, h.shared]

/-- A call comes to the same in orderly hosts that are alike, if both find the worker that they stop
in time. -/
theorem Orderly.perform_alike (oa : a.Orderly short) (ob : b.Orderly short') (alike : a.Alike b)
    (solo : SoloExtractor S G) (thread : Thread) (call : HostCall S) (refusal refusal' : Option String)
    (inTime : a.inTime thread call) (inTime' : b.inTime thread call) :
    b.reply solo.behaviour thread call refusal' = a.reply solo.behaviour thread call refusal ∧
      (a.perform solo.behaviour thread call refusal).Alike
        (b.perform solo.behaviour thread call refusal') := by
  cases call with
  | openInstance state =>
    simp only [reply, Host.perform]
    cases free : a.table.free? with
    | none =>
      have full : b.table.free? = none := by rw [alike.table, free]
      rw [openInstance_of_full free, openInstance_of_full full]
      exact ⟨rfl, alike⟩
    | some h =>
      have weak : a.Orderly True := oa.mono fun _ => trivial
      have weak' : b.Orderly True := ob.mono fun _ => trivial
      have opened := (weak.openInstance (fun _ : refusal ≠ none => trivial) free thread state).2.2
      have opened' := (weak'.openInstance (fun _ : refusal' ≠ none => trivial)
        (by rw [alike.table, free]) thread state).2.2
      have count := alike.length
      have seated : (a.seated h state).Alike (b.seated h state) := by
        refine ⟨?_, alike.shared, ?_⟩
        · simp only [Host.seated, alike.table, count]
        · simp only [Host.seated, List.map_append, alike.instances]
      exact ⟨by rw [opened, opened'], ((seated_alike_openInstance opened).symm.trans seated).trans
        (seated_alike_openInstance opened')⟩
  | closeInstance h =>
    simp only [reply, Host.perform]
    cases used : a.table.get? h with
    | none =>
      have unused : b.table.get? h = none := by rw [alike.table, used]
      rw [closeInstance_of_closed used, closeInstance_of_closed unused]
      exact ⟨rfl, alike⟩
    | some id =>
      have used' : b.table.get? h = some id := by rw [alike.table, used]
      have closed := (oa.closeInstance used (oa.not_late used inTime) thread).2.2
      have closed' := (ob.closeInstance used' (ob.not_late used' inTime') thread).2.2
      have revoked : Alike { a with table := a.table.put h none }
          { b with table := b.table.put h none } :=
        ⟨congrArg (·.put h none) alike.table, alike.shared, alike.instances⟩
      exact ⟨by rw [closed, closed'], ((revoked_alike_closeInstance used closed).symm.trans
        revoked).trans (revoked_alike_closeInstance used' closed')⟩
  | extract h call =>
    obtain ⟨after, fields, result⟩ := oa.extract_alike solo ob alike thread h call
    simp only [reply, Host.perform]
    exact ⟨by rw [fields, result, after.buffersOf?], after⟩
  | lastError h =>
    simp only [reply, Host.perform]
    exact ⟨by rw [alike.lastError], alike⟩
  | setEnabled enabled => exact ⟨rfl, alike.table, alike.shared, alike.instances⟩

/-- A run whose closes find their workers in time comes to the same as one with the same calls in
which nothing else happens. -/
theorem Orderly.watch_alike (oa : a.Orderly True) (ob : b.Orderly True) (awake : b.engine.Awake)
    (alike : a.Alike b) (solo : SoloExtractor S G) (moves : List (HostMove S))
    (timely : a.timely solo.behaviour moves) :
    b.watch solo.behaviour (moves.filterMap HostMove.plain?) = a.watch solo.behaviour moves := by
  induction moves generalizing a b with
  | nil => rfl
  | cons m moves ih =>
    cases m with
    | thread move =>
      rw [List.filterMap_cons_none rfl, watch]
      exact ih (oa.moveThread move) ob awake ⟨alike.table, alike.shared, alike.instances⟩ timely
    | call thread call refusal =>
      rw [Host.timely, Bool.and_eq_true] at timely
      obtain ⟨inTime, left⟩ := ob.perform_awake awake solo.quiet thread call
      obtain ⟨same, after⟩ := oa.perform_alike ob alike solo thread call refusal none
        timely.1 inTime
      have later := ih (oa.perform solo.quiet thread call (fun _ => trivial) timely.1)
        (ob.perform solo.quiet thread call (fun _ => trivial) inTime) left after timely.2
      have head : HostMove.plain? (.call thread call refusal) = some (.call thread call) := rfl
      rw [List.filterMap_cons_some head, watch, watch, same, after.outlook, later]

end Host

/-! ## Which path is taken -/

namespace Engine

variable {e : Engine} {on : Bool} {count : Nat}

/-- An engine that nobody switches: while it is active, it has a batch if and only if it is enabled
and has more than one processor to count with. -/
structure Steady (on : Bool) (count : Nat) (e : Engine) : Prop where
  enabled : e.enabled = on
  processors : e.processors = count
  batch : 0 < e.active → (e.dispatch.isSome ↔ on ∧ 1 < count)

theorem maxWorkers_pos {n : Nat} : 0 < PluginBridge.maxWorkers n ↔ 1 < n := by
  rw [PluginBridge.maxWorkers]
  split <;> omega

theorem teardown_keeps (e : Engine) : e.teardown.1.enabled = e.enabled ∧
    e.teardown.1.processors = e.processors ∧ e.teardown.1.active = e.active := by
  have retire (e : Engine) : e.retire.enabled = e.enabled ∧ e.retire.processors = e.processors ∧
      e.retire.active = e.active := by
    rw [Engine.retire]
    split <;> exact ⟨rfl, rfl, rfl⟩
  simp only [teardown]
  split
  · exact ⟨rfl, rfl, rfl⟩
  · split
    · exact ⟨rfl, rfl, rfl⟩
    · split
      · exact retire _
      · exact ⟨rfl, rfl, rfl⟩

theorem Steady.counted {b : Engine} (s : e.Steady on count) (counted : e.Counted b) :
    b.Steady on count := by
  cases counted with
  | further active => exact ⟨s.enabled, s.processors, fun _ => s.batch active⟩
  | @first e' none down =>
    obtain ⟨enabled, processors, -⟩ := e.teardown_keeps
    rw [down] at enabled processors
    have here : e'.enabled = on ∧ e'.processors = count :=
      ⟨enabled.trans s.enabled, processors.trans s.processors⟩
    refine ⟨here.1, here.2, fun _ => ?_⟩
    simp only [begin, activate, here.1, here.2, maxWorkers_pos]
    split <;> simp_all

theorem Steady.start (s : e.Steady on count) (c : e.Consistent) (h : Handle)
    (refusal : Option String) : (e.start h refusal).1.Steady on count := by
  rcases c.start_refused h refusal with given | ⟨-, b, counted, -, eq⟩
  case inr =>
    rw [eq]
    exact s.counted counted
  rw [given]
  have outcome := e.start_outcome h
  generalize e.start h = started at outcome ⊢
  cases outcome with
  | refused none down =>
    obtain ⟨enabled, processors, inactive⟩ := e.teardown_keeps
    rw [down] at enabled processors inactive
    exact ⟨enabled.trans s.enabled, processors.trans s.processors,
      fun active => absurd (inactive.trans none) (Nat.ne_of_gt active)⟩
  | direct counted => exact s.counted counted
  | claimed counted hd =>
    have steady := s.counted counted
    refine ⟨steady.enabled, steady.processors, fun active => ?_⟩
    rw [← steady.batch active, hd]
    rfl
  | inUse => exact s

theorem Steady.settle (s : e.Steady on count) : e.settle.1.Steady on count := by
  rw [Engine.settle]
  split
  · next inactive =>
    rw [deactivate]
    split
    · exact s
    · rw [retire]
      split
      · exact ⟨s.enabled, s.processors, fun active => absurd inactive (Nat.ne_of_gt active)⟩
      · exact s
  · exact s

theorem Steady.releaseSlot {d : Dispatch slotCount} (s : e.Steady on count)
    (hd : e.dispatch = some d) (i : Fin slotCount) : (e.releaseSlot d i).1.Steady on count := by
  have some (active : 0 < e.active) : on ∧ 1 < count := (s.batch active).1 (by rw [hd]; rfl)
  rw [releaseSlot_eq]
  split
  · split
    · exact ⟨s.enabled, s.processors, fun active => iff_of_true rfl (some active)⟩
    · exact ⟨s.enabled, s.processors, fun active => iff_of_true rfl (some active)⟩
  · exact s

theorem Steady.stop (s : e.Steady on count) (h : Handle) : (e.stop h).1.Steady on count := by
  have down : e.countDown.Steady on count :=
    ⟨s.enabled, s.processors, fun active => s.batch (Nat.lt_of_lt_of_le active (Nat.sub_le ..))⟩
  have course := e.stop_course h
  generalize e.stop h = stopped at course ⊢
  cases course with
  | unbalanced => exact s
  | free => exact down.settle
  | refused hd refused =>
    have left := down.releaseSlot hd h.slot
    rwa [refused] at left
  | released hd released =>
    have left := down.releaseSlot hd h.slot
    rw [released] at left
    exact left.settle

/-- Whether an engine is steady does not depend on whether its workers sleep. -/
theorem steady_prompted : e.prompted.Steady on count ↔ e.Steady on count :=
  ⟨fun s => ⟨s.enabled, s.processors, s.batch⟩, fun s => ⟨s.enabled, s.processors, s.batch⟩⟩

end Engine

namespace Host

variable {S G : Type} {behaviour : Behaviour S G} {host : Host S G} {on : Bool} {count : Nat}
  {short : Prop}

/-- A call that does not switch the engine leaves it steady. -/
theorem Orderly.steady_perform (o : host.Orderly short) (s : host.engine.Steady on count)
    (quiet : Quiet behaviour) (thread : Thread) (call : HostCall S) (refusal : Option String)
    (unswitched : ∀ enabled, call ≠ .setEnabled enabled) :
    (host.perform behaviour thread call refusal).engine.Steady on count := by
  cases call with
  | openInstance state =>
    rcases engine_openInstance host thread state refusal with same | ⟨h, started⟩
    · rw [Host.perform, same]
      exact s
    · have awake := (Engine.steady_prompted.2 s).start o.consistent h refusal
      rw [Engine.start_prompted o.fresh] at awake
      rw [Host.perform, started]
      exact Engine.steady_prompted.1 awake
  | closeInstance h =>
    cases used : host.table.get? h with
    | none =>
      rw [Host.perform, closeInstance_of_closed used]
      exact s
    | some id =>
      rw [Host.perform, engine_closeInstance used]
      exact s.stop h
  | extract h call =>
    cases used : host.table.get? h with
    | none =>
      rw [Host.perform, extract_of_closed behaviour used]
      exact s
    | some id =>
      obtain ⟨-, -, same | ⟨d, batch, hd, same⟩, -⟩ := o.extract quiet used thread call
      · rw [Host.perform, same]
        exact s
      · rw [Host.perform, same]
        refine ⟨s.enabled, s.processors, fun active => ?_⟩
        rw [← s.batch active, hd]
        rfl
  | lastError h => exact s
  | setEnabled enabled => exact absurd rfl (unswitched enabled)

/-- So do moves that do not switch it. -/
theorem Orderly.steady_moveAll (o : host.Orderly True) (s : host.engine.Steady on count)
    (quiet : Quiet behaviour) {moves : List (HostMove S)} (timely : host.timely behaviour moves)
    (unswitched : ∀ m ∈ moves, ¬ m.Switches) :
    (host.moveAll behaviour moves).engine.Steady on count := by
  induction moves generalizing host with
  | nil => exact s
  | cons m moves ih =>
    have rest (m : HostMove S) (mem : m ∈ moves) := unswitched m (List.mem_cons_of_mem _ mem)
    cases m with
    | thread move =>
      refine ih (o.moveThread move) (Engine.steady_prompted.1 ?_) timely rest
      exact o.prompted_moveThread move ▸ Engine.steady_prompted.2 s
    | call thread call refusal =>
      rw [Host.timely, Bool.and_eq_true] at timely
      have kept : (host.perform behaviour thread call refusal).Orderly True :=
        o.perform quiet thread call (fun _ => trivial) timely.1
      refine ih kept (o.steady_perform s quiet thread call refusal fun enabled switch => ?_) timely.2 rest
      exact unswitched _ List.mem_cons_self (by rw [switch]; trivial)

/-- In a host that nobody switches, an open instance has a client if and only if the host is enabled
and has more than one processor to count with, as long as the machine starts threads. -/
theorem freeClient?_moveAll (quiet : Quiet behaviour) (config : Config) (machine : Nat) (shared : G)
    {moves : List (HostMove S)}
    (timely : (new config machine shared : Host S G).timely behaviour moves)
    (unswitched : ∀ m ∈ moves, ¬ m.Switches) (granted : ∀ m ∈ moves, ¬ m.Refused) :
    let host := (new config machine shared : Host S G).moveAll behaviour moves
    ∀ h id, host.table.get? h = some id →
      ((host.freeClient? id).isSome ↔
        config.enabled ∧ 1 < config.concurrency.elim machine UInt64.toNat) := by
  intro host h id used
  have o : host.Orderly False := orderly_moveAll (orderly_new _ config machine shared) quiet moves
    (fun ⟨m, mem, refused⟩ => granted m mem refused) timely
  have steady : host.engine.Steady config.enabled (config.concurrency.elim machine UInt64.toNat) :=
    (orderly_new True config machine shared).steady_moveAll
      ⟨rfl, rfl, fun active => absurd active (Nat.lt_irrefl 0)⟩ quiet timely unswitched
  have bound := (o.bound h id used).resolve_right And.left
  rw [← steady.batch (o.active_pos used), freeClient?_of_ties? bound rfl, Engine.clientFor,
    Option.isSome_map]

variable {S G : Type}

/-- **The two paths of an extraction agree.** Take extractors that neither call back nor panic, and
any run of a host: calls from outside (opening, closing, extracting, asking for messages, switching),
of which the closes find the workers that they stop in time, while the threads of the workers sleep
and wake up as they like and some can perhaps not be started. Another host that is given the same
calls, whatever its settings, gives the same answer to each of them, with the same descriptors and
the same values behind them; and after each call both show the same messages and results under every
handle, and their extractors have been given the same calls in the same order. While nobody switches
the engines and the machine starts threads, the host with dispatching enabled and more than one
processor sends every extraction of an open instance through a slot, and one without does every
extraction in place. -/
theorem paths_agree (solo : SoloExtractor S G) (slots direct : Config) (m n : Nat) (shared : G)
    {moves : List (HostMove S)}
    (timely : (new slots m { shared } : Host S (Ledger G)).timely solo.behaviour moves) :
    let a : Host S (Ledger G) := new slots m { shared }
    let b : Host S (Ledger G) := new direct n { shared }
    let calls := moves.filterMap HostMove.plain?
    b.watch solo.behaviour calls = a.watch solo.behaviour moves ∧
    ((∀ m ∈ moves, ¬ m.Switches) →
      (slots.enabled ∧ 1 < slots.concurrency.elim m UInt64.toNat → (∀ m ∈ moves, ¬ m.Refused) →
        ∀ h id, (a.moveAll solo.behaviour moves).table.get? h = some id →
          ((a.moveAll solo.behaviour moves).freeClient? id).isSome) ∧
      (direct.enabled = false →
        ∀ h id, (b.moveAll solo.behaviour calls).table.get? h = some id →
          (b.moveAll solo.behaviour calls).freeClient? id = none)) := by
  intro a b calls
  have fresh : b.engine.Awake := (Engine.consistent_new direct n).prompted_eq
  refine ⟨(orderly_new True slots m _).watch_alike (orderly_new True direct n _) fresh ⟨rfl, rfl, rfl⟩
      solo moves timely, fun unswitched => ⟨fun dispatching granted h id used => ?_,
      fun disabled h id used => ?_⟩⟩
  · exact (freeClient?_moveAll solo.quiet slots m _ timely unswitched granted h id used).2 dispatching
  · have prompt := timely_plain (orderly_new True direct n _) fresh solo.quiet moves
    have plain (k : HostMove S) (mem : k ∈ calls) : ¬ k.Switches ∧ ¬ k.Refused := by
      obtain ⟨m, there, plain⟩ := List.mem_filterMap.1 mem
      obtain ⟨granted, switches⟩ := HostMove.of_plain plain
      exact ⟨fun switch => unswitched m there (switches switch), granted⟩
    have path := freeClient?_moveAll solo.quiet direct n _ prompt (fun k mem => (plain k mem).1)
      (fun k mem => (plain k mem).2) h id used
    rw [Option.eq_none_iff_forall_ne_some]
    intro c found
    have enabled := (path.1 (by rw [found]; rfl)).1
    rw [disabled] at enabled
    cases enabled

/-- Extractors that count their calls and find nothing, and know nothing of their host. -/
def tallying : SoloExtractor Nat Unit := fun _ spec _ state shared =>
  { state := state + 1, shared, asked := spec, request := .unset spec }

/-- An extraction beside a worker that sleeps is not to be told from one in place. -/
theorem paths_agree_drowsy :
    let a : Host Nat (Ledger Unit) := new drowsy 4 { shared := () }
    let b : Host Nat (Ledger Unit) := new { enabled := false } 4 { shared := () }
    let moves := visits ⟨2, by decide, by decide⟩
    a.timely tallying.behaviour moves ∧
      b.watch tallying.behaviour (moves.filterMap HostMove.plain?) =
        a.watch tallying.behaviour moves ∧
      ∀ h id, (a.moveAll tallying.behaviour moves).table.get? h = some id →
        ((a.moveAll tallying.behaviour moves).freeClient? id).isSome := by
  intro a b moves
  have timely : a.timely tallying.behaviour moves := by decide +kernel
  obtain ⟨agree, path⟩ := paths_agree tallying drowsy { enabled := false } 4 4 () timely
  have unswitched : ∀ m ∈ moves, ¬ m.Switches ∧ ¬ m.Refused := by
    simp [moves, visits, HostMove.Switches, HostMove.Refused]
  exact ⟨timely, agree, (path fun m mem => (unswitched m mem).1).1 (by decide)
    fun m mem => (unswitched m mem).2⟩

/-- An instance whose worker sleeps is closed on one host and stays open on the other. -/
theorem late_close_parts_paths :
    let moves : List (HostMove Nat) := [.call .main (.openInstance 0), .thread (.slow 0)]
    let a := (new drowsy 4 { shared := () }).moveAll tallying.behaviour moves
    let b := (new { enabled := false } 4 { shared := () }).moveAll tallying.behaviour moves
    (a.closeInstance .main ⟨1, by decide, by decide⟩).2 =
        .ok (.error (.transitionStalled 0 .exitSeen .exitAsked)) ∧
      (b.closeInstance .main ⟨1, by decide, by decide⟩).2 = .ok (.ok ()) := by
  decide +kernel

end Host

end PluginBridge
