import PluginBridge.Boundary
import PluginBridge.Proofs.Host.Extractions

/-!
# What ends the process

A process that uses the entry points one after the other can keep a record (`Desk`) of what it was
answered: which numbers it was given and has not destroyed since, how many of them there are, and
why an instance could not be made last. The record tells which calls are misuse (`Desk.Misuse`), and
what the others come to (`Foretold`). The threads of the workers have their own pace between the
calls, and a number may be destroyed too soon for its worker (`Host.Oversleeps`).

`Settled` ties the record to the host behind the boundary. Each entry point either ends the process,
and then the call was misuse or too soon, or comes to what was foretold and leaves record and host
tied (`EntryCourse`). So a process ends by these two and by nothing else (`ends_exactly_on_misuse`).
-/

namespace PluginBridge

variable {S G : Type}

/-- The text that the plugin is given for a configuration. -/
def configText (config : Option (List UInt8)) : String :=
  config.elim "" fun bytes => Text.Utf8.decodeLossy (terminated bytes)

/-- A call of an entry point. Instances are given by number. -/
inductive EntryCall where
  | init (config : Option (List UInt8))
  | extractFields (n : Nat) (call : Call)
  | lastError (n : Nat)
  | destroy (n : Nat)
  | setAsync (enabled : Bool)
  | isAsync

/-- What an entry point answers. -/
inductive EntryAnswer where
  | made (n : Nat) (code : ResultCode)
  | extracted (fields : Option (List Descriptor)) (code : ResultCode)
  | message (text : Option String)
  | done
  | flag (enabled : Bool)
  deriving DecidableEq

namespace Boundary

/-- Call an entry point. `refusal` says why the machine starts no threads, if it does not. -/
def enter (behaviour : Behaviour S G) (b : Boundary S G) (call : EntryCall)
    (refusal : Option String := none) : AtBoundary S G EntryAnswer :=
  match call with
  | .init config => andThen (b.init config refusal) fun b (n, code) => (b, .ok (.made n code))
  | .extractFields n call =>
    andThen (b.extractFields behaviour n call) fun b (fields, code) =>
      (b, .ok (.extracted fields code))
  | .lastError n => andThen (b.lastError .main n) fun b text => (b, .ok (.message text))
  | .destroy n => andThen (b.destroy n) fun b () => (b, .ok .done)
  | .setAsync enabled => andThen (b.setAsync enabled) fun b () => (b, .ok .done)
  | .isAsync => andThen b.isAsync fun b enabled => (b, .ok (.flag enabled))

/-- The process after what the thread of a worker does on its own account. -/
def moveThread (b : Boundary S G) (move : ThreadMove) : Boundary S G :=
  { b with host := b.host.map fun host => host.moveThread move }

end Boundary

/-- Something that happens in a process: a call of an entry point, with the reason if the machine
starts no threads, or what the thread of a worker does on its own account. -/
inductive EntryMove : Type 1 where
  | call (call : EntryCall) (refusal : Option String := none)
  | thread (move : ThreadMove)

/-- Whether a call destroys an instance too soon: its slot is the last one of a worker that sleeps
longer than the engine waits. -/
def Host.Oversleeps (host : Host S G) : EntryCall → Prop
  | .destroy n => ∃ (h : Handle) (d : _), h.raw = n ∧ host.engine.Late h d
  | _ => False

/-! ## The record -/

/-- What a process knows from the answers that it was given. -/
structure Desk where
  /-- The instances behind the numbers that are open, each by how many were made before it. -/
  instances : Nat → Option InstanceId := fun _ => none
  /-- How many instances were made. -/
  made : Nat := 0
  /-- How many instances are open. -/
  live : Nat := 0
  /-- The message of the last failure to make an instance. -/
  failure : Option String := none

namespace Desk

/-- Note the answer of a call. -/
def note (desk : Desk) (plugin : Plugin S) : EntryCall → EntryAnswer → Desk
  | .init config, .made n _ =>
    match plugin.init (configText config) with
    | .made _ =>
      { desk with
        instances := fun m => if m = n then some desk.made else desk.instances m
        made := desk.made + 1
        live := desk.live + 1 }
    | .failed e => { desk with failure := some (withoutNul e.message) }
    | .panicked _ => desk
  | .destroy n, _ =>
    { desk with
      instances := fun m => if m = n then none else desk.instances m
      live := desk.live - 1 }
  | _, _ => desk

/-- Calls that a process must not make: destroying or extracting by a number that is not open,
asking for the message of such a number other than zero, and making an instance that there is no
number for. -/
def Misuse (desk : Desk) (plugin : Plugin S) : EntryCall → Prop
  | .destroy n => desk.instances n = none
  | .extractFields n _ => desk.instances n = none
  | .lastError n => n ≠ 0 ∧ desk.instances n = none
  | .init config => (∃ state, plugin.init (configText config) = .made state) ∧ desk.live = maxHandle
  | .setAsync _ => False
  | .isAsync => False

end Desk

/-- Call entry points one after the other, as long as they return, and note the answers. -/
def Boundary.enterAll (behaviour : Behaviour S G) :
    Boundary S G → Desk → List EntryMove → AtBoundary S G Desk
  | b, desk, [] => (b, .ok desk)
  | b, desk, .call call refusal :: moves =>
    andThen (b.enter behaviour call refusal) fun after answer =>
      after.enterAll behaviour (desk.note b.plugin call answer) moves
  | b, desk, .thread move :: moves => (b.moveThread move).enterAll behaviour desk moves

/-- What a call that does not end the process comes to: its answer, and what becomes of the host. -/
inductive Foretold (behaviour : Behaviour S G) (plugin : Plugin S) (desk : Desk) (host : Host S G) :
    EntryCall → EntryAnswer → Host S G → Prop where
  /-- The plugin refuses to make an instance. -/
  | refused {config : Option (List UInt8)} {e : InitError}
      (failed : plugin.init (configText config) = .failed e) :
      Foretold behaviour plugin desk host (.init config) (.made 0 .failure) host
  /-- A new instance is behind a number that was not open. -/
  | made {config : Option (List UInt8)} {state : S} {n : Nat} {after : Host S G}
      (made : plugin.init (configText config) = .made state) (proper : n ≠ 0)
      (new : desk.instances n = none) (shared : after.shared = host.shared)
      (instances : after.instances.map Instance.apart =
        host.instances.map Instance.apart ++ [Instance.fresh state])
      (place : desk.made = host.instances.length) :
      Foretold behaviour plugin desk host (.init config) (.made n .success) after
  /-- The extractor of the instance behind the number runs over the descriptors of the call. -/
  | extracted {n : Nat} {call : Call} {id : InstanceId} {after : Host S G}
      {fields : Option (List Descriptor)} {code : ResultCode} (used : desk.instances n = some id)
      (ran : host.Ran behaviour id call after fields code) :
      Foretold behaviour plugin desk host (.extractFields n call) (.extracted fields code) after
  | initMessage : Foretold behaviour plugin desk host (.lastError 0) (.message desk.failure) host
  | message {n : Nat} {id : InstanceId} (proper : n ≠ 0) (used : desk.instances n = some id) :
      Foretold behaviour plugin desk host (.lastError n)
        (.message (host.instances[id]?.bind Instance.lastError)) host
  | destroyed {n : Nat} {id : InstanceId} {after : Host S G} (used : desk.instances n = some id)
      (shared : after.shared = host.shared)
      (instances : after.instances.map Instance.apart = host.instances.map Instance.apart) :
      Foretold behaviour plugin desk host (.destroy n) .done after
  | switched {enabled : Bool} {after : Host S G} (alike : host.Alike after)
      (now : after.engine.enabled = enabled) :
      Foretold behaviour plugin desk host (.setAsync enabled) .done after
  | asked : Foretold behaviour plugin desk host .isAsync (.flag host.engine.enabled) host

/-! ## The record and the host -/

/-- How a record fits the process that it is about. -/
structure Settled (plugin : Plugin S) (desk : Desk) (b : Boundary S G) (host : Host S G) :
    Prop where
  present : b.host = some host
  plugin : b.plugin = plugin
  orderly : host.Orderly True
  instances : ∀ n, desk.instances n = (Handle.ofRaw? n).bind host.table.get?
  made : desk.made = host.instances.length
  live : desk.live = host.table.size
  failure : b.initError = desk.failure

theorem Handle.ofRaw?_eq_some {n : Nat} {h : Handle} : Handle.ofRaw? n = some h ↔ h.raw = n := by
  unfold Handle.ofRaw?
  constructor
  · intro found
    split at found
    · cases found
      rfl
    · cases found
  · rintro rfl
    simp [h.pos, h.le]

/-- What is behind the numbers when something is put behind one of them. -/
theorem HandleTable.bind_put {α : Type} (t : HandleTable α) (h : Handle) (v : Option α) (n : Nat) :
    (Handle.ofRaw? n).bind (t.put h v).get? =
      if n = h.raw then v else (Handle.ofRaw? n).bind t.get? := by
  by_cases same : n = h.raw
  · rw [if_pos same, Handle.ofRaw?_eq_some.2 same.symm, Option.bind_some, get?_put, if_pos rfl]
  · rw [if_neg same]
    cases found : Handle.ofRaw? n with
    | none => rfl
    | some k =>
      have other : k ≠ h := by
        rintro rfl
        exact same (Handle.ofRaw?_eq_some.1 found).symm
      rw [Option.bind_some, Option.bind_some, get?_put, if_neg other]

namespace Boundary

theorem andThen_error {α β : Type} {r : AtBoundary S G α} {abort : Abort}
    (ended : r.2 = .error abort) (f : Boundary S G → α → AtBoundary S G β) :
    (andThen r f).2 = .error abort := by
  obtain ⟨b, reply⟩ := r
  cases ended
  rfl

/-- A log entry shows in the records only. -/
theorem log_eq (b : Boundary S G) (e : Entry) : ∃ records, b.log e = { b with records } := by
  unfold log
  split
  · exact ⟨_, rfl⟩
  · exact ⟨b.records, rfl⟩

/-- A host that is put back has nothing more to tell. -/
theorem putHost_eq (b : Boundary S G) (host : Host S G) :
    ∃ records, b.putHost host = { b with host := some { host with journal := [] }, records } := by
  unfold putHost
  generalize host.journal = journal
  induction journal with
  | nil => exact ⟨b.records, rfl⟩
  | cons e rest ih =>
    obtain ⟨records, eq⟩ := ih
    rw [List.foldr_cons, eq]
    exact log_eq _ e

end Boundary

/-- The course of a call. -/
inductive EntryCourse (behaviour : Behaviour S G) (plugin : Plugin S) (desk : Desk)
    (b : Boundary S G) (host : Host S G) (call : EntryCall) (refusal : Option String) : Prop where
  /-- The call is misuse or too soon, and the process ends for a violation. -/
  | ends (v : Violation) (cause : desk.Misuse plugin call ∨ host.Oversleeps call)
      (aborted : (b.enter behaviour call refusal).2 = .error (.violation v))
  /-- The call is neither, and is answered. -/
  | answers (answer : EntryAnswer) (b' : Boundary S G) (after : Host S G)
      (proper : ¬ desk.Misuse plugin call) (timely : ¬ host.Oversleeps call)
      (answered : b.enter behaviour call refusal = (b', .ok answer))
      (foretold : Foretold behaviour plugin desk host call answer after)
      (settled : Settled plugin (desk.note plugin call answer) b' after)

namespace Settled

variable {behaviour : Behaviour S G} {plugin : Plugin S} {desk desk' : Desk} {b : Boundary S G}
  {host w : Host S G} {refusal : Option String}

/-- A process whose host was just made. -/
theorem initHost {b : Boundary S G} {config : Config} (unfailed : b.initError = none)
    (ready : (b.initHost config).2 = .ok true) :
    Settled b.plugin {} (b.initHost config).1 (Host.new config b.machine b.shared) := by
  have empty : (HandleTable.empty : HandleTable InstanceId).size = 0 :=
    HandleTable.size_eq_zero.2 HandleTable.get?_empty
  unfold Boundary.initHost at ready ⊢
  split at ready
  · cases ready
  · next fresh =>
    rw [if_neg fresh]
    unfold Boundary.makeHost Boundary.setUpLogging at ready ⊢
    cases filter : LogFilter.ofVariables? b.environment.log "" with
    | none =>
      rw [filter] at ready
      cases ready
    | some f =>
      simp only [Boundary.andThen]
      obtain ⟨records, eq⟩ := Boundary.log_eq { b with filter := b.filter.or (some f) }
        ⟨.main, .hostCreated config ""⟩
      rw [eq]
      refine ⟨rfl, rfl, Host.orderly_new True config b.machine b.shared, fun n => ?_, rfl, empty.symm,
        unfailed⟩
      cases Handle.ofRaw? n <;> simp [Host.new]

/-- A process whose host is put back after a call. -/
theorem putHost (s : Settled plugin desk b host) (orderly : w.Orderly True)
    (instances : ∀ n, desk'.instances n = (Handle.ofRaw? n).bind w.table.get?)
    (made : desk'.made = w.instances.length) (live : desk'.live = w.table.size)
    (failure : desk'.failure = desk.failure) :
    Settled plugin desk' (b.putHost w) { w with journal := [] } := by
  obtain ⟨records, eq⟩ := b.putHost_eq w
  rw [eq]
  exact ⟨rfl, s.plugin, orderly.beside ⟨rfl, rfl, fun _ => rfl⟩, instances, made, live,
    s.failure.trans failure.symm⟩

/-- What a thread does between two calls leaves a process settled. -/
theorem moveThread (s : Settled plugin desk b host) (move : ThreadMove) :
    Settled plugin desk (b.moveThread move) (host.moveThread move) where
  present := by rw [Boundary.moveThread, s.present, Option.map_some]
  plugin := s.plugin
  orderly := s.orderly.moveThread move
  instances := s.instances
  made := s.made
  live := s.live
  failure := s.failure

/-- The host behind a settled process is there. -/
theorem theHost (s : Settled plugin desk b host) (thread : Thread) (name : String) :
    b.theHost thread name = (b, .ok host) := by
  rw [Boundary.theHost, s.present]

/-! ## The entry points -/

/-- A call by the number of a handle is one for that handle. -/
theorem withHandle_raw {α : Type} (s : Settled plugin desk b host) (h : Handle)
    (f : Boundary S G → Host S G → Handle → AtBoundary S G α) :
    b.withHandle .main h.raw f = f b host h := by
  simp only [Boundary.withHandle, s.theHost, Boundary.andThen, Handle.decode_raw]

/-- A call by a number that is not open ends the process, if the host rejects closed handles. -/
theorem withHandle_closed {α : Type} (s : Settled plugin desk b host) {n : Nat}
    (closed : desk.instances n = none) (f : Boundary S G → Host S G → Handle → AtBoundary S G α)
    (rejects : ∀ h, host.table.get? h = none → ∃ v, (f b host h).2 = .error (.violation v)) :
    ∃ v, (b.withHandle .main n f).2 = .error (.violation v) := by
  rw [s.instances] at closed
  cases found : Handle.ofRaw? n with
  | none =>
    have bad : Handle.decode n = .error (.invalidHandle "decode" n) := by rw [Handle.decode, found]
    simp only [Boundary.withHandle, s.theHost, Boundary.andThen, bad]
    exact ⟨_, rfl⟩
  | some h =>
    rw [found] at closed
    rw [← Handle.ofRaw?_eq_some.1 found, s.withHandle_raw]
    exact rejects h closed

/-- A number that is open is that of an open handle. -/
theorem opened (s : Settled plugin desk b host) {n : Nat} {id : InstanceId}
    (open_ : desk.instances n = some id) :
    ∃ h : Handle, h.raw = n ∧ host.table.get? h = some id := by
  rw [s.instances, Option.bind_eq_some_iff] at open_
  obtain ⟨h, found, used⟩ := open_
  exact ⟨h, Handle.ofRaw?_eq_some.1 found, used⟩

theorem enter_destroy (s : Settled plugin desk b host) (n : Nat) :
    EntryCourse behaviour plugin desk b host (.destroy n) refusal := by
  cases open_ : desk.instances n with
  | none =>
    obtain ⟨v, ended⟩ : ∃ v, (b.destroy n).2 = .error (.violation v) := by
      apply s.withHandle_closed open_
      intro h unused
      rw [Host.closeInstance_of_closed unused]
      exact ⟨_, rfl⟩
    exact .ends v (.inl open_) (Boundary.andThen_error ended _)
  | some id =>
    obtain ⟨h, rfl, used⟩ := s.opened open_
    by_cases soon : ∃ d, host.engine.Late h d
    · obtain ⟨d, late⟩ := soon
      obtain ⟨-, stalled⟩ := s.orderly.closeInstance_of_late used late .main
      refine .ends (.transitionStalled (d.owner h.slot) .exitSeen .exitAsked)
        (.inr ⟨h, d, rfl, late⟩) (Boundary.andThen_error ?_ _)
      match hw : host.closeInstance .main h with
      | (w, reply) =>
      rw [hw] at stalled
      cases stalled
      simp only [Boundary.destroy, s.withHandle_raw, hw]
      rfl
    obtain ⟨orderly, table, closed⟩ := s.orderly.closeInstance used (not_exists.1 soon) .main
    have alike := Host.revoked_alike_closeInstance used closed
    match hw : host.closeInstance .main h with
    | (w, reply) =>
    rw [hw] at orderly table closed alike
    cases closed
    have timely : ¬ host.Oversleeps (.destroy h.raw) := by
      rintro ⟨k, d, same, late⟩
      have same : k = h :=
        Option.some.inj ((Handle.ofRaw?_eq_some.2 same).symm.trans (Handle.ofRaw?_eq_some.2 rfl))
      exact soon ⟨d, same ▸ late⟩
    refine .answers .done (b.putHost w) { w with journal := [] }
      (by simp [Desk.Misuse, open_]) timely ?_
      (.destroyed open_ alike.shared alike.instances) ?_
    · simp only [Boundary.enter, Boundary.destroy, s.withHandle_raw, hw, Boundary.andThen]
    · apply s.putHost orderly
      · intro m
        rw [table, HandleTable.bind_put, ← s.instances]
        rfl
      · exact s.made.trans alike.length.symm
      · have size := HandleTable.size_put_none used
        have live := s.live
        rw [table]
        simp only [Desk.note]
        omega
      · rfl

theorem enter_extractFields (s : Settled plugin desk b host) (tame : Tame behaviour) (n : Nat)
    (call : Call) : EntryCourse behaviour plugin desk b host (.extractFields n call) refusal := by
  cases open_ : desk.instances n with
  | none =>
    obtain ⟨v, ended⟩ : ∃ v, (b.extractFields behaviour n call).2 = .error (.violation v) := by
      apply s.withHandle_closed open_
      intro h unused
      rw [Host.extract_of_closed behaviour unused]
      exact ⟨_, rfl⟩
    exact .ends v (.inl open_) (Boundary.andThen_error ended _)
  | some id =>
    obtain ⟨h, rfl, used⟩ := s.opened open_
    obtain ⟨orderly, table, -⟩ := s.orderly.extract tame.quiet used .main call
    obtain ⟨length, code, came, ran⟩ := s.orderly.extract_ran tame used .main call
    generalize hr : Host.extract behaviour .main h call host = r at *
    refine .answers (.extracted r.fields code) (b.putHost r.host) { r.host with journal := [] }
      (by simp [Desk.Misuse, open_]) not_false ?_ ?_ ?_
    · simp only [Boundary.enter, Boundary.extractFields, s.withHandle_raw, hr, came,
        Boundary.andThen]
    · exact .extracted open_ (ran.alike ⟨rfl, rfl, rfl⟩)
    · apply s.putHost orderly
      · rw [table]
        exact s.instances
      · exact s.made.trans length.symm
      · rw [table]
        exact s.live
      · rfl

theorem enter_lastError (s : Settled plugin desk b host) (n : Nat) :
    EntryCourse behaviour plugin desk b host (.lastError n) refusal := by
  by_cases zero : n = 0
  · subst zero
    refine .answers (.message desk.failure) b host (by simp [Desk.Misuse]) not_false ?_ .initMessage s
    simp only [Boundary.enter, Boundary.lastError, if_pos, Boundary.andThen, s.failure]
  · cases open_ : desk.instances n with
    | none =>
      obtain ⟨v, ended⟩ : ∃ v, (b.lastError .main n).2 = .error (.violation v) := by
        rw [Boundary.lastError, if_neg zero]
        apply s.withHandle_closed open_
        intro h unused
        simp only [Host.lastError, HandleTable.lookup_of_none unused]
        exact ⟨_, rfl⟩
      exact .ends v (.inl ⟨zero, open_⟩) (Boundary.andThen_error ended _)
    | some id =>
      obtain ⟨h, rfl, used⟩ := s.opened open_
      refine .answers (.message (host.instances[id]?.bind Instance.lastError)) b host
        (by simp [Desk.Misuse, open_]) not_false ?_ (.message zero open_) s
      simp only [Boundary.enter, Boundary.lastError, if_neg zero, s.withHandle_raw,
        Host.lastError, HandleTable.lookup_of_some used]
      rfl

theorem enter_init (s : Settled plugin desk b host)
    (calm : ∀ text message, plugin.init text ≠ .panicked message) (config : Option (List UInt8)) :
    EntryCourse behaviour plugin desk b host (.init config) refusal := by
  have asked : b.plugin.init (config.elim "" fun bytes => Text.Utf8.decodeLossy (terminated bytes)) =
      plugin.init (configText config) := by
    rw [s.plugin]
    rfl
  cases outcome : plugin.init (configText config) with
  | panicked message => exact absurd outcome (calm _ _)
  | failed e =>
    obtain ⟨records, logged⟩ := b.log_eq ⟨.main, .initFailed e⟩
    refine .answers (.made 0 .failure)
      { b with records, initError := some (withoutNul e.message) } host
      (by simp [Desk.Misuse, outcome]) not_false ?_ (.refused outcome) ?_
    · simp only [Boundary.enter, Boundary.init, asked, outcome, logged, Boundary.andThen]
    · simp only [Desk.note, outcome]
      exact ⟨s.present, s.plugin, s.orderly, s.instances, s.made, s.live, rfl⟩
  | made state =>
    cases free : host.table.free? with
    | none =>
      have full : desk.live = maxHandle := s.live.trans (HandleTable.free?_eq_none.1 free)
      refine .ends (.capacityExhausted registerRounds) (.inl ⟨⟨state, outcome⟩, full⟩) ?_
      simp only [Boundary.enter, Boundary.init, asked, outcome, s.theHost, Boundary.andThen,
        Host.openInstance_of_full free]
      rfl
    | some h =>
      have room : desk.live ≠ maxHandle := by
        rw [s.live]
        intro full
        rw [HandleTable.free?_eq_none.2 full] at free
        cases free
      obtain ⟨orderly, table, opened⟩ :=
        s.orderly.openInstance (fun _ : refusal ≠ none => trivial) free .main state
      have alike := Host.seated_alike_openInstance opened
      obtain ⟨unused, -⟩ := HandleTable.free?_spec free
      match hw : host.openInstance .main state refusal with
      | (w, reply) =>
      rw [hw] at orderly table opened alike
      cases opened
      refine .answers (.made h.raw .success) (b.putHost w) { w with journal := [] }
        (by simp [Desk.Misuse, room]) not_false ?_ ?_ ?_
      · simp only [Boundary.enter, Boundary.init, asked, outcome, s.theHost, Boundary.andThen, hw]
      · have fresh : desk.instances h.raw = none := by
          rw [s.instances, Handle.ofRaw?_eq_some.2 rfl, Option.bind_some, unused]
        refine .made outcome (Nat.ne_of_gt h.pos) fresh alike.shared ?_ s.made
        rw [alike.instances]
        exact List.map_append
      · simp only [Desk.note, outcome]
        apply s.putHost orderly
        · intro m
          rw [table, HandleTable.bind_put, ← s.instances, ← s.made]
        · have length : w.instances.length = host.instances.length + 1 := by
            rw [alike.length, Host.seated, List.length_append, List.length_singleton]
          rw [length, ← s.made]
        · rw [table, HandleTable.size_put_some unused, ← s.live]
        · rfl

theorem enter_setAsync (s : Settled plugin desk b host) (enabled : Bool) :
    EntryCourse behaviour plugin desk b host (.setAsync enabled) refusal := by
  refine .answers .done (b.putHost (host.setEnabled enabled))
    { host.setEnabled enabled with journal := [] } (by simp [Desk.Misuse]) not_false ?_
    (.switched ⟨rfl, rfl, rfl⟩ rfl)
    (s.putHost (s.orderly.setEnabled enabled) s.instances s.made s.live rfl)
  simp only [Boundary.enter, Boundary.setAsync, s.theHost, Boundary.andThen]

theorem enter_isAsync (s : Settled plugin desk b host) :
    EntryCourse behaviour plugin desk b host .isAsync refusal := by
  refine .answers (.flag host.engine.enabled) b host (by simp [Desk.Misuse]) not_false ?_ .asked s
  simp only [Boundary.enter, Boundary.isAsync, s.theHost, Boundary.andThen]

theorem enter (s : Settled plugin desk b host) (tame : Tame behaviour)
    (calm : ∀ text message, plugin.init text ≠ .panicked message) (call : EntryCall)
    (refusal : Option String) : EntryCourse behaviour plugin desk b host call refusal := by
  cases call with
  | init config => exact s.enter_init calm config
  | extractFields n call => exact s.enter_extractFields tame n call
  | lastError n => exact s.enter_lastError n
  | destroy n => exact s.enter_destroy n
  | setAsync enabled => exact s.enter_setAsync enabled
  | isAsync => exact s.enter_isAsync

/-- A run that returns leaves the record and the process tied. -/
theorem enterAll {b' : Boundary S G} (s : Settled plugin desk b host) (tame : Tame behaviour)
    (calm : ∀ text message, plugin.init text ≠ .panicked message) (moves : List EntryMove)
    (returned : b.enterAll behaviour desk moves = (b', .ok desk')) :
    ∃ after, Settled plugin desk' b' after := by
  induction moves generalizing b desk host with
  | nil =>
    cases returned
    exact ⟨host, s⟩
  | cons move moves ih =>
    cases move with
    | thread move => exact ih (s.moveThread move) returned
    | call call refusal =>
      rw [Boundary.enterAll] at returned
      cases s.enter tame calm call refusal with
      | ends v cause aborted =>
        match entered : b.enter behaviour call refusal with
        | (w, reply) =>
          rw [entered] at aborted returned
          cases aborted
          cases returned
      | answers answer w after proper timely answered foretold settled =>
        rw [answered, s.plugin] at returned
        exact ih settled returned

end Settled

namespace Boundary

/-- **Misuse ends the process, and so does destroying too soon.** Take a process that has made its
host from some configuration, a plugin that does not panic when it makes an instance, and extractors
that neither panic nor call back. Let it call entry points one after the other, and note the answers,
while the threads of the workers sleep and wake up as they like and the machine may refuse to start
more of them. The next call ends the process if and only if it is misuse or too soon. Misuse is
destroying or extracting by a number that is not open, asking for the message of such a number other
than zero, and making an instance that there is no number for. It is too soon to destroy an instance
whose slot is the last one of a worker that sleeps longer than the engine waits. Any other call
returns what was foretold. An instance that the plugin refuses to make is answered with zero and a
failure, and the message of the last such failure is the one for zero. An instance that is made gets
a number other than zero that was not open, and from then on extractions by this number run its
extractor over the descriptors of the call. -/
theorem ends_exactly_on_misuse {behaviour : Behaviour S G} (tame : Tame behaviour)
    {b b' : Boundary S G} (unfailed : b.initError = none)
    (calm : ∀ text message, b.plugin.init text ≠ .panicked message) {config : Config}
    (ready : (b.initHost config).2 = .ok true) {moves : List EntryMove} {desk : Desk}
    (returned : (b.initHost config).1.enterAll behaviour {} moves = (b', .ok desk))
    (call : EntryCall) (refusal : Option String) :
    let r := b'.enter behaviour call refusal
    ∃ host, b'.host = some host ∧
      ((∃ abort, r.2 = .error abort ∧ abort.endsProcess) ↔
        desk.Misuse b.plugin call ∨ host.Oversleeps call) ∧
      (¬ desk.Misuse b.plugin call → ¬ host.Oversleeps call → ∃ after answer,
        r.1.host = some after ∧ r.2 = .ok answer ∧
          Foretold behaviour b.plugin desk host call answer after) := by
  intro r
  obtain ⟨host, settled⟩ := (Settled.initHost unfailed ready).enterAll tame calm moves returned
  refine ⟨host, settled.present, ?_⟩
  cases settled.enter tame calm call refusal with
  | ends v cause aborted =>
    refine ⟨⟨fun _ => cause, fun _ => ⟨.violation v, aborted, rfl⟩⟩, fun proper timely => ?_⟩
    exact absurd cause (not_or.2 ⟨proper, timely⟩)
  | answers answer w after proper timely answered foretold kept =>
    have eq : r = (w, .ok answer) := answered
    rw [eq]
    refine ⟨⟨?_, fun cause => absurd cause (not_or.2 ⟨proper, timely⟩)⟩,
      fun _ _ => ⟨after, answer, kept.present, rfl, foretold⟩⟩
    rintro ⟨abort, ended, -⟩
    cases ended

/-- A plugin that makes instances from empty texts only. -/
def picky : Plugin Nat where
  info := { name := "picky", version := "1" }
  fields := []
  init text := if text.isEmpty then .made 0 else .failed (.plugin "too\x00much")

/-- A process on a machine with four processors. -/
def lone : Boundary Nat Unit where
  environment := {}
  machine := 4
  plugin := picky
  pluginName := "picky"
  shared := ()

/-- Two instances are made, and the second one extracts; another one is refused, and the first
worker falls asleep. -/
def errands : List EntryMove :=
  [.call (.init none), .call (.init none), .call (.extractFields 2 Host.question),
    .call (.init (some [120])), .thread (.slow 0)]

/-- After that, the message of the refusal is there, and the second instance can be destroyed. The
number that was answered with the refusal cannot, and for the first instance it is too soon. -/
theorem ends_exactly_on_misuse_errands :
    ∃ b desk, (lone.initHost Host.drowsy).1.enterAll Host.counting {} errands = (b, .ok desk) ∧
      (b.enter Host.counting (.lastError 0)).2 = .ok (.message (some "too much")) ∧
      (b.enter Host.counting (.destroy 2)).2 = .ok .done ∧
      (∃ abort, (b.enter Host.counting (.destroy 0)).2 = .error abort ∧ abort.endsProcess) ∧
      ∃ abort, (b.enter Host.counting (.destroy 1)).2 = .error abort ∧ abort.endsProcess := by
  have known : (((lone.initHost Host.drowsy).1.enterAll Host.counting {} errands).2.map fun desk =>
      (desk.failure, desk.instances 0, desk.instances 2)) =
        .ok (some "too much", none, some 1) := by decide +kernel
  have asleep : ((lone.initHost Host.drowsy).1.enterAll Host.counting {} errands).1.host.any
      fun host => (∃ d, host.engine.Late ⟨1, by decide, by decide⟩ d) ∧
        ¬ ∃ d, host.engine.Late ⟨2, by decide, by decide⟩ d := by decide +kernel
  match returned : (lone.initHost Host.drowsy).1.enterAll Host.counting {} errands with
  | (b, .error abort) =>
    rw [returned] at known
    cases known
  | (b, .ok desk) =>
    rw [returned] at known asleep
    obtain ⟨failure, zero, two⟩ : desk.failure = some "too much" ∧ desk.instances 0 = none ∧
        desk.instances 2 = some 1 := by simpa [Except.map] using known
    obtain ⟨host, present, late⟩ := Option.any_eq_true _ _ |>.1 asleep
    obtain ⟨⟨d, late⟩, awake⟩ := of_decide_eq_true late
    have calm (text message : String) : picky.init text ≠ .panicked message := by
      simp only [picky]
      split <;> simp
    have next (call : EntryCall) := ends_exactly_on_misuse Host.tame_counting (b := lone) rfl calm
      (by decide +kernel) returned call none
    have timely : ¬ host.Oversleeps (.destroy 2) := by
      rintro ⟨⟨n, pos, le⟩, d, same, late⟩
      cases same
      exact awake ⟨d, late⟩
    refine ⟨b, desk, rfl, ?_, ?_, ?_, ?_⟩
    · obtain ⟨w, -, -, other⟩ := next (.lastError 0)
      obtain ⟨after, answer, -, answered, foretold⟩ := other (by simp [Desk.Misuse]) not_false
      cases foretold with
      | initMessage => rw [answered, failure]
      | message proper => exact absurd rfl proper
    · obtain ⟨w, same, -, other⟩ := next (.destroy 2)
      cases present.symm.trans same
      obtain ⟨after, answer, -, answered, foretold⟩ := other (by simp [Desk.Misuse, two]) timely
      cases foretold
      exact answered
    · obtain ⟨w, -, ends, -⟩ := next (.destroy 0)
      exact ends.2 (.inl zero)
    · obtain ⟨w, same, ends, -⟩ := next (.destroy 1)
      cases present.symm.trans same
      exact ends.2 (.inr ⟨_, d, rfl, late⟩)

/-- A process ends because it destroys an open instance whose worker sleeps. -/
theorem late_destroy_ends_process :
    ∃ b desk, (lone.initHost Host.drowsy).1.enterAll Host.counting {}
        [.call (.init none), .thread (.slow 0)] = (b, .ok desk) ∧
      ¬ desk.Misuse picky (.destroy 1) ∧
      ∃ abort, (b.enter Host.counting (.destroy 1)).2 = .error abort ∧ abort.endsProcess := by
  have opened : ((lone.initHost Host.drowsy).1.enterAll Host.counting {}
      [.call (.init none), .thread (.slow 0)]).2.map (fun desk => desk.instances 1) =
        .ok (some 0) := by decide +kernel
  have ends : (((lone.initHost Host.drowsy).1.enterAll Host.counting {}
      [.call (.init none), .thread (.slow 0)]).1.enter Host.counting (.destroy 1)).2 =
        .error (.violation (.transitionStalled 0 .exitSeen .exitAsked)) := by decide +kernel
  match returned : (lone.initHost Host.drowsy).1.enterAll Host.counting {}
    [.call (.init none), .thread (.slow 0)] with
  | (b, .error abort) =>
    rw [returned] at opened
    cases opened
  | (b, .ok desk) =>
    rw [returned] at opened ends
    have opened : desk.instances 1 = some 0 := by simpa [Except.map] using opened
    exact ⟨b, desk, rfl, by simp [Desk.Misuse, opened], _, ends, rfl⟩

end Boundary

end PluginBridge
