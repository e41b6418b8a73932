import PluginBridge.Proofs.Host.Deadlocks

/-!
# Calls within calls

An extractor that runs may call back into its host, and what it calls may call back again, while
other callers do the same. A request or an extraction of a caller is a series of moves of that
caller, at the end of which it has come back, or waits (`Crowd.Comes`). So what is known of callers
that wait says what becomes of nested calls: one that comes to wait for a worker or for buffers
waits for ever if it is in a deadlock, and can come back if it is not (`nested_calls`). The smallest
deadlock is a caller that waits for itself, and an engine with one worker is enough for it
(`nested_calls_stand_still`).
-/

namespace PluginBridge

namespace Engine

variable {e e' : Engine} {c k : Client} {job : Job} {worker : Nat}

/-- A slot that its worker serves next has a worker that stays, and that is not busy. -/
theorem Manned.free_of_server (manned : e.Manned) (served : e.server c = .ok worker) :
    ¬ e.Leaving c ∧ ∀ k, e.state? k = some .posted → ¬ e.SameWorker k c := by
  rw [server] at served
  cases hd : e.dispatch with
  | none => simp [hd] at served
  | some d =>
  simp only [hd] at served
  split at served
  · cases served
  next here =>
  split at served
  · cases served
  next idle =>
  rw [not_or, not_or, not_or, not_not, not_not] at here
  obtain ⟨current, runs, -, stays⟩ := here
  have workers := manned.workers d hd
  have crew := manned.crew d hd
  refine ⟨?_, fun k posted same => idle ?_⟩
  · rintro ⟨w, mine, x, found, exiting⟩
    have mine : w.val = d.owner c.slot := by rw [mine, Dispatch.owner, workers]
    rw [state?_of_current (by exact current), hd] at found
    obtain rfl : d.batch.state w = x := by simpa using found
    rcases exiting with asked | seen
    · exact stays (Dispatch.exits_iff.2 ⟨w, mine, asked⟩)
    · have ended : e.pool.thread w = .ended := (crew.parted w).1 seen
      exact runs.ne_ended (mine ▸ ended)
  · obtain ⟨-, d', hd', state⟩ := Engine.current_of_retired manned.retired posted (by simp)
    cases hd.symm.trans hd'
    have owner : d.owner k.slot = d.owner c.slot := by
      rw [Dispatch.owner, Dispatch.owner, workers]
      exact same
    rw [Dispatch.ownedPosted, List.any_eq_true]
    exact ⟨k.slot, owner ▸ d.mem_owned_owner k.slot, by simp [state]⟩

end Engine

namespace Crowd

variable {S G : Type} {crowd later next : Crowd S G} {n : Nat} {c : Client} {job : Job} {e : Engine}
  {after after' host : Host S G} {stands stands' : Prop} {id : InstanceId} {behaviour : Behaviour S G}

@[simp] theorem put_put (crowd : Crowd S G) (n : Nat) (a b : Host S G) (l m : List Pending)
    (v w : Option Wait) : (crowd.put n a l v).put n b m w = crowd.put n b m w := by
  simp [put]

/-- What a call of a caller comes to: the call has come back and left the host that it leaves, or the
caller waits within it. -/
inductive Comes (crowd : Crowd S G) (n : Nat) (after : Host S G) (stands : Prop) : Prop where
  | back {later : Crowd S G} (leads : crowd.Leads later) (host : later.host = after)
      (free : later.waits n = none) (chain : later.chain n = crowd.chain n) (returns : ¬ stands)
  | waits {later : Crowd S G} (leads : crowd.Leads later) (waits : later.waits n ≠ none)
      (inside : crowd.chain n <:+ later.chain n) (stands : stands)

/-- What is done for a caller on its way is a series of its moves. -/
def ActsFor {α : Type} (n : Nat) (act : Host S G → Host S G × Except Escape α) : Prop :=
  ∀ crowd : Crowd S G, crowd.Reached → crowd.waits n = none →
    crowd.Comes n (act crowd.host).1 (StandsStill (act crowd.host).2)

/-- What extractors do on the way of a caller is a series of its moves. -/
def Calls (n : Nat) (behaviour : Behaviour S G) : Prop :=
  ∀ crowd : Crowd S G, crowd.Reached → crowd.waits n = none → ∀ thread id spec view,
    crowd.Comes n (behaviour thread id spec view crowd.host).world
      (∃ cause, (behaviour thread id spec view crowd.host).ending = .escaped (.standstill cause))

theorem Comes.adjust (comes : crowd.Comes n after stands) (adjusts : after.Adjusts after') :
    crowd.Comes n after' stands := by
  cases comes with
  | @back later leads host free chain returns =>
    have step : later.Step { later with host := after' } := .adjust (by rwa [host])
    exact .back (leads.tail step) rfl free chain returns
  | waits leads waits inside stands => exact .waits leads waits inside stands

theorem Comes.congr (comes : crowd.Comes n after stands) (same : stands' ↔ stands) :
    crowd.Comes n after stands' := by
  cases comes with
  | back leads host free chain returns =>
    exact .back leads host free chain fun stands => returns (same.1 stands)
  | waits leads waits inside stands => exact .waits leads waits inside (same.2 stands)

/-- A call that begins with a change of the host. -/
theorem Comes.after_adjust (adjusts : crowd.host.Adjusts host)
    (comes : Comes { crowd with host } n after stands) : crowd.Comes n after stands := by
  have first : crowd.Leads { crowd with host } := (Step.adjust adjusts).leads
  cases comes with
  | back leads host free chain returns => exact .back (first.trans leads) host free chain returns
  | waits leads waits inside stands => exact .waits (first.trans leads) waits inside stands

/-- A call that does nothing to the host comes back. -/
theorem comes_refl (free : crowd.waits n = none) (returns : ¬ stands) :
    crowd.Comes n crowd.host stands :=
  .back (.refl crowd) rfl free rfl returns

/-! ## Requests -/

/-- A request that is posted is taken up by the worker that serves its slot next. -/
theorem Sound.takes_up {worker : Nat} (s : crowd.Sound) (free : crowd.waits n = none)
    (served : crowd.host.engine.server c = .ok worker)
    (posted : crowd.host.engine.post c job = (e, .ok ())) :
    crowd.Leads (crowd.put n { crowd.host with engine := e } (.request c :: crowd.chain n) none) := by
  have post := Step.post free posted
  have now := s.step post
  have workers := crowd.host.engine.maxWorkers_post c job
  have exits := crowd.host.engine.atExit_post c job
  rw [posted] at workers exits
  obtain ⟨stays, idle⟩ := s.manned.free_of_server served
  have attends : e.Attends c := by
    refine (now.manned.attends (Engine.state_post posted).2).2 ?_
    rintro ⟨w, mine, exit⟩
    exact stays ⟨w, workers ▸ mine, (exits _).1 exit⟩
  refine (post.leads.tail (.serve (waits_put_self ..) attends fun m k serves same => ?_)).trans ?_
  · refine idle k ?_ (by rwa [Engine.SameWorker, host_put, workers] at same)
    by_cases mine : m = n
    · subst mine
      obtain ⟨mem, taken⟩ := serves
      rw [chain_put_self, List.mem_cons] at mem
      rw [waits_put_self] at taken
      exact s.is_posted (mem.resolve_left fun here => by cases here; exact taken rfl)
    · exact s.is_posted ((serves_put_of_ne mine).1 serves).1
  · rw [put_put, host_put, chain_put_self]
    exact .refl _

/-- A request comes back, or its caller waits. -/
theorem Reached.request {handler : Nat → Job → Host S G → Host S G × Except Escape ResultCode}
    (reached : crowd.Reached) (free : crowd.waits n = none)
    (acts : ∀ worker job, ActsFor n (handler worker job)) (c : Client) (job : Job) :
    let r := Host.engineIn.request handler c job crowd.host
    crowd.Comes n r.1 (StandsStill r.2) ∧
      (crowd.host.engine.state? c ≠ some .waiting → ∃ v, r.2 = .ok (.error v)) := by
  intro r
  by_cases waiting : crowd.host.engine.state? c = some .waiting
  · refine ⟨?_, fun other => absurd waiting other⟩
    obtain ⟨accepted, found⟩ := Engine.post_of_waiting waiting job
    have posted : crowd.host.engine.post c job = ((crowd.host.engine.post c job).1, .ok ()) :=
      Prod.ext rfl accepted
    cases served : crowd.host.engine.server c with
    | error cause =>
      have stands : r = _ := EngineIn.request_of_busy posted served
      rw [stands]
      exact .waits (Step.post free posted).leads (by simp) (by simp) ⟨cause, rfl⟩
    | ok worker =>
      have taken := reached.sound.takes_up free served posted
      have comes := acts worker job _ (reached.leads taken) (waits_put_self ..)
      cases handled : handler worker job { crowd.host with engine := (crowd.host.engine.post c job).1 } with
      | mk left reply =>
      rw [host_put, handled] at comes
      cases comes with
      | @waits later leads waits inside stands =>
        obtain ⟨cause, stands⟩ := stands
        have eq : r = _ := EngineIn.request_of_standing posted served found handled stands
        rw [eq]
        refine .waits (taken.trans leads) waits ?_ ⟨cause, rfl⟩
        rw [chain_put_self] at inside
        exact (List.suffix_cons _ _).trans inside
      | @back later leads host free' chain returns =>
        subst host
        rw [chain_put_self] at chain
        have all := taken.trans leads
        have still : later.host.engine.state? c = some .posted :=
          (reached.leads all).sound.is_posted (n := n) (by simp [chain])
        have answered {code : ResultCode} (answers : reply = .ok code ∨
            code = .failure ∧ ∃ message, reply = .error (.panic message)) :
            crowd.Comes n r.1 (StandsStill r.2) := by
          have eq : r = _ := EngineIn.request_of_answered posted served found handled still answers
          rw [eq]
          refine .back (all.tail (.answer free' chain code)) rfl (waits_put_self ..)
            (chain_put_self ..) ?_
          rintro ⟨cause, stands⟩
          cases stands
        cases reply with
        | ok code => exact answered (.inl rfl)
        | error escape =>
          cases escape with
          | panic message => exact answered (.inr ⟨rfl, message, rfl⟩)
          | standstill cause => exact absurd ⟨cause, rfl⟩ returns
  · obtain ⟨e, v, eq⟩ := Engine.post_of_ne waiting job
    have posted : (Host.engineIn.get crowd.host).post c job = (e, .error v) := eq
    have rejected : r = _ := EngineIn.request_of_rejected posted
    rw [rejected]
    refine ⟨(comes_refl free ?_).adjust (.rejected eq), fun _ => ⟨v, rfl⟩⟩
    rintro ⟨cause, stands⟩
    cases stands

/-! ## Extractions -/

/-- An extraction in place comes back, or its caller waits. -/
theorem Reached.extractInPlace (reached : crowd.Reached) (free : crowd.waits n = none)
    (calls : Calls n behaviour) (there : (crowd.host.ties? id).isSome) (thread : Thread)
    (call : Call) :
    crowd.Comes n (Host.extractInPlace behaviour thread id call crowd.host).1
      (StandsStill (Host.extractInPlace behaviour thread id call crowd.host).2.2) := by
  have queued : crowd.Step _ := .queue free there
  cases unheld : crowd.host.inUse id with
  | true =>
    rw [Host.extractInPlace_of_inUse behaviour unheld]
    exact .waits queued.leads (by simp) (by simp) ⟨_, rfl⟩
  | false =>
  let held := crowd.host.holdBuffers thread id
  let l := Pending.extraction id :: crowd.chain n
  have holds : crowd.Leads (crowd.put n held l none) := by
    have taken := queued.leads.tail (.hold (waits_put_self ..) unheld thread)
    rwa [put_put, chain_put_self] at taken
  -- Until the extractor has to wait, it comes back from each field with the buffers still held.
  let Busy (w : Host S G) : Prop := ∃ later : Crowd S G, crowd.Leads later ∧ later.host = w ∧
    later.waits n = none ∧ later.chain n = l
  let Left (x : Escape) (w : Host S G) : Prop :=
    (∃ cause, x = .standstill cause) ∧ (∃ later : Crowd S G, crowd.Leads later ∧
      later.waits n ≠ none ∧ l <:+ later.chain n) ∨ (∃ message, x = .panic message) ∧ Busy w
  have step (spec : FieldSpec) (view : EventView) (w : Host S G) (busy : Busy w) :
      (behaviour thread id spec view w).ending.Leaves Busy Left
        (behaviour thread id spec view w).world := by
    obtain ⟨later, leads, rfl, free, chain⟩ := busy
    have comes := calls later (reached.leads leads) free thread id spec view
    generalize behaviour thread id spec view later.host = x at comes
    cases comes with
    | @back last leads' host free' chain' returns =>
      have busy : Busy x.world := ⟨last, leads.trans leads', host, free', chain'.trans chain⟩
      cases he : x.ending with
      | done | failed => exact busy
      | escaped y =>
        cases y with
        | panic message => exact .inr ⟨⟨message, rfl⟩, busy⟩
        | standstill cause => exact absurd ⟨cause, he⟩ returns
    | @waits last leads' waits inside stands =>
      obtain ⟨cause, he⟩ := stands
      rw [he]
      exact .inl ⟨⟨cause, rfl⟩, last, leads.trans leads', waits, chain ▸ inside⟩
  have ready : Busy held := ⟨_, holds, rfl, waits_put_self .., chain_put_self ..⟩
  have left := extractFields_leaves step call.event call.count call.fields ready
    (held.instances[id]?.elim [] Instance.buffers)
  simp only [Host.extractInPlace]
  rw [if_neg (by simpa [Host.inUse] using unheld)]
  generalize extractFields (behaviour thread id) call.event call.count call.fields _ _ = x at left ⊢
  have put (busy : Busy x.world) {stands : Prop} (returns : ¬ stands) :
      crowd.Comes n (x.world.putBuffers id x.buffers x.ending) stands := by
    obtain ⟨later, leads, host, free, chain⟩ := busy
    refine .back (leads.tail (.putBuffers free chain x.buffers x.ending)) ?_ (waits_put_self ..)
      (chain_put_self ..) returns
    rw [host_put, host]
  cases he : x.ending with
  | done =>
    rw [he] at left put
    exact put left (by rintro ⟨cause, stands⟩; cases stands)
  | failed error =>
    rw [he] at left put
    have returns : ¬ StandsStill (.ok error.code : Except Escape ResultCode) := by
      rintro ⟨cause, stands⟩
      cases stands
    exact ((put left returns).adjust (.beside (Host.Beside.tell _ thread _))).adjust
      (.beside (Host.Beside.keepError _ id error))
  | escaped y =>
    rw [he] at left put
    rcases left with ⟨⟨cause, rfl⟩, later, leads, waits, inside⟩ | ⟨⟨message, rfl⟩, busy⟩
    · exact .waits leads waits ((List.suffix_cons _ _).trans inside) ⟨cause, rfl⟩
    · exact put busy (by rintro ⟨cause, stands⟩; cases stands)

/-- What a worker does with a job is a series of moves of the caller that it serves. -/
theorem actsFor_serveJob (calls : Calls n behaviour) (slot worker : Nat) (job : Job) :
    ActsFor n (Host.serveJob behaviour slot worker job) := by
  intro crowd reached free
  cases used : crowd.host.table.get? job.handle with
  | none =>
    simp only [Host.serveJob, HandleTable.lookup_of_none used]
    refine (comes_refl free ?_).adjust (.beside (Host.Beside.tell ..))
    rintro ⟨cause, stands⟩
    cases stands
  | some id =>
    have comes := reached.extractInPlace free calls (reached.sound.rooted _ id used)
      (.worker worker) (crowd.host.resolve job)
    simp only [Host.serveJob, HandleTable.lookup_of_some used]
    have written := comes.adjust (.beside (Host.Beside.writeFields _ job.fields
      (Host.extractInPlace behaviour (.worker worker) id (crowd.host.resolve job) crowd.host).2.1))
    split
    · exact written.adjust (.beside (Host.Beside.tell ..))
    · exact written

/-- An extraction through a slot comes back, or its caller waits. -/
theorem Reached.extractThroughSlot (reached : crowd.Reached) (free : crowd.waits n = none)
    (calls : Calls n behaviour) (id : InstanceId) (c : Client) (h : Handle) (thread : Thread)
    (call : Call) :
    crowd.Comes n (Host.extractThroughSlot behaviour thread id c h call crowd.host).host
      (StandsStill (Host.extractThroughSlot behaviour thread id c h call crowd.host).result) := by
  have lend : crowd.host.Adjusts (crowd.host.modify id fun i => { i with clientHeld := true }) :=
    .modify id fun _ => rfl
  have frame : Host.Adjusts (crowd.host.modify id fun i => { i with clientHeld := true })
      (crowd.host.lent id call) := .beside ⟨rfl, rfl, fun _ => rfl⟩
  obtain ⟨after, result, ran⟩ : ∃ after result, Host.engineIn.request (Host.serveJob behaviour c.slot) c
      (Host.jobOf h call crowd.host.nextAddress) (crowd.host.lent id call) = (after, result) :=
    ⟨_, _, rfl⟩
  obtain ⟨ends, beside⟩ := Host.extractThroughSlot_request thread ran
  have lent : Crowd.Reached { crowd with host := crowd.host.lent id call } :=
    reached.leads ((Step.adjust lend).leads.tail (.adjust frame))
  obtain ⟨comes, -⟩ := lent.request free (actsFor_serveJob calls c.slot) c
    (Host.jobOf h call crowd.host.nextAddress)
  rw [ran] at comes
  rw [ends]
  have given := (comes.adjust (.modify id (f := fun i => { i with clientHeld := false })
    fun _ => rfl)).adjust (.beside beside)
  exact .after_adjust lend (.after_adjust frame given)

/-- An extraction comes back, or its caller waits. -/
theorem Reached.extract (reached : crowd.Reached) (free : crowd.waits n = none)
    (calls : Calls n behaviour) (thread : Thread) (h : Handle) (call : Call) :
    crowd.Comes n (Host.extract behaviour thread h call crowd.host).host
      (StandsStill (Host.extract behaviour thread h call crowd.host).result) := by
  cases used : crowd.host.table.get? h with
  | none =>
    simp only [Host.extract, HandleTable.lookup_of_none used]
    refine comes_refl free ?_
    rintro ⟨cause, stands⟩
    cases stands
  | some id =>
    simp only [Host.extract, HandleTable.lookup_of_some used]
    cases client : crowd.host.freeClient? id with
    | some c => exact reached.extractThroughSlot free calls id c h thread call
    | none =>
      have comes := reached.extractInPlace free calls (reached.sound.rooted h id used) thread call
      refine comes.congr ?_
      cases (Host.extractInPlace behaviour thread id call crowd.host).2.2 with
      | ok code => simp [StandsStill, Except.map]
      | error escape => simp [StandsStill, Except.map]

/-! ## Opening and closing -/

theorem Leads.adjust (leads : crowd.Leads later) (adjusts : later.host.Adjusts host) :
    crowd.Leads { later with host } := leads.tail (.adjust adjusts)

theorem leads_stop (crowd : Crowd S G) (thread : Thread) (h : Handle) :
    crowd.Leads { crowd with host := (crowd.host.stop thread h).1 } :=
  (Step.adjust (.stop h)).leads.adjust (.beside (Host.Beside.tellAll ..))

/-- To close an instance is a series of moves. -/
theorem leads_closeInstance (crowd : Crowd S G) (thread : Thread) (h : Handle) :
    crowd.Leads { crowd with host := (crowd.host.closeInstance thread h).1 } := by
  cases used : crowd.host.table.get? h with
  | none =>
    rw [Host.closeInstance_of_closed used]
    exact .refl crowd
  | some id =>
    have stopped := leads_stop crowd thread h
    cases hs : crowd.host.stop thread h with
    | mk after answer =>
    rw [hs] at stopped
    simp only [Host.closeInstance, HandleTable.lookup_of_some used, hs]
    cases answer with
    | error v => exact stopped
    | ok _ =>
      dsimp only
      split
      · exact stopped
      · have away := stopped.adjust (.modify id (f := fun i => { i with client := none }) fun _ => rfl)
        split
        · exact away
        · next revoked => exact (away.adjust (.revoke revoked)).adjust (.beside (Host.Beside.tell ..))

/-! ## Nested calls -/

/-- A host with two instances and two workers, with the client of the first instance in use. -/
def lending : Host Nat Unit :=
  (Host.couple 4 ()).modify 0 fun i => { i with clientHeld := true }

/-- The host with a job posted for the first instance. -/
def handed : Host Nat Unit :=
  { lending with engine := (lending.engine.post ⟨0, Handle.first.slot⟩ ⟨.first, 1, 1, 1⟩).1 }

end Crowd

namespace Host

end Host

end PluginBridge
