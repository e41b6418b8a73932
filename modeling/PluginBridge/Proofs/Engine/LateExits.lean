import PluginBridge.Proofs.Dispatch.Crews
import PluginBridge.Proofs.Engine.Waits

/-!
# What a late exit leaves of the engine

Every call of the engine is a series of calls to its threads and slots, as long as there is a worker
that cannot be stopped (`perform_works`). So an engine whose stop was refused because a worker did
not answer in time keeps that worker for ever, and its batch with it: no later start, stop or
takedown gets rid of them (`crew_moveAll`). The first start of what would be the next activation is
refused each time; and while the engine is active, the slots of the worker are given out to clients
whose requests nobody serves.
-/

namespace PluginBridge

namespace Crew

variable {n : Nat} {c c' c'' : Crew n} {w : Fin n}

/-- One crew comes out of another one by calls that are not passes. -/
def Works (c c' : Crew n) : Prop :=
  ∃ calls : List (CrewCall n), (∀ call ∈ calls, ∀ v, ¬ call.Passes v) ∧ c.performAll calls = c'

theorem Works.refl (c : Crew n) : c.Works c := ⟨[], by simp, rfl⟩

theorem Works.trans (first : c.Works c') (then_ : c'.Works c'') : c.Works c'' := by
  obtain ⟨as, quiet, rfl⟩ := first
  obtain ⟨bs, quiet', rfl⟩ := then_
  refine ⟨as ++ bs, fun call mem => ?_, performAll_append c as bs⟩
  exact (List.mem_append.1 mem).elim (quiet call) (quiet' call)

theorem works_perform (c : Crew n) (call : CrewCall n) (quiet : ∀ v, ¬ call.Passes v) :
    c.Works (c.perform call).1 :=
  ⟨[call], by simpa using quiet, rfl⟩

theorem Works.standing (works : c.Works c') (standing : c.Standing w) : c'.Standing w := by
  obtain ⟨calls, -, rfl⟩ := works
  exact standing.performAll calls

end Crew

/-- Something that is done to the engine, or that a thread does on its own account. -/
inductive EngineMove : Type 1 where
  | call (call : EngineCall)
  | thread (move : ThreadMove)

/-- Whether a move is a pass of a worker. -/
def EngineMove.Passes (w : Nat) : EngineMove → Prop
  | .call _ => False
  | .thread move => move.Passes w

namespace Engine

variable {e : Engine} {c : Crew slotCount} {d : Dispatch slotCount} {w i : Fin slotCount}
  {h : Handle}

/-- The threads and slots of the current activation. -/
def crew? (e : Engine) : Option (Crew slotCount) := e.dispatch.map fun d => ⟨e.pool, d⟩

/-- The engine with other threads and slots. -/
def withCrew (e : Engine) (c : Crew slotCount) : Engine :=
  { e with pool := c.pool, dispatch := some c.dispatch }

/-- The engine after a move. -/
def move (e : Engine) : EngineMove → Engine
  | .call call => e.perform call
  | .thread move => e.crew?.elim e fun c => e.withCrew (c.move move)

/-- The engine after several moves. -/
def moveAll (e : Engine) (moves : List EngineMove) : Engine := moves.foldl move e

theorem crew?_of_dispatch (hd : e.dispatch = some d) : e.crew? = some ⟨e.pool, d⟩ := by
  rw [crew?, hd, Option.map_some]

theorem dispatch_of_crew? (hc : e.crew? = some c) : ∃ d, e.dispatch = some d ∧ c = ⟨e.pool, d⟩ := by
  obtain ⟨d, hd, rfl⟩ := Option.map_eq_some_iff.1 hc
  exact ⟨d, hd, rfl⟩

/-! ## Calls of the engine as calls to its crew -/

theorem works_releaseSlots (l : List (Fin slotCount)) (p : Pool) (d : Dispatch slotCount) :
    Crew.Works ⟨p, d⟩ ⟨p, { d with batch := (releaseSlots l d.batch).1 }⟩ := by
  induction l generalizing d with
  | nil => exact .refl _
  | cons i rest ih =>
    rw [releaseSlots]
    by_cases used : d.batch.inUse i
    · rw [if_pos used]
      have freed := Crew.works_perform ⟨p, d⟩ (.free i) (by simp [CrewCall.Passes])
      cases hr : d.batch.release i with
      | ok b =>
        simp only [Crew.perform, Crew.exchange, hr] at freed
        exact freed.trans (ih { d with batch := b })
      | error v => exact .refl _
    · rw [if_neg used]
      exact ih d

/-- A takedown is refused while a worker cannot be stopped, at its slot or before. -/
theorem teardown_of_standing (hd : e.dispatch = some d) (standing : Crew.Standing ⟨e.pool, d⟩ w) :
    ∃ b, ∃ j : Fin slotCount, j ≤ w ∧ d.batch.state j ≠ .unused ∧ d.batch.state j ≠ .waiting ∧
      e.teardown =
        ({ e with dispatch := some { d with batch := b } },
          .error (.transitionStalled j .waiting (d.batch.state j))) ∧
      Crew.Works ⟨e.pool, d⟩ ⟨e.pool, { d with batch := b }⟩ := by
  have works := works_releaseSlots (List.finRange slotCount) e.pool d
  have standing' := works.standing standing
  rcases releaseSlots_cases (List.finRange slotCount) d.batch with ⟨b, ⟨v, refused⟩ | done⟩
  · rw [refused] at works standing'
    obtain ⟨j, -, used, free, rfl, -, below⟩ :=
      releaseSlots_error (List.pairwise_lt_finRange _) refused
    refine ⟨b, j, ?_, Batch.inUse_iff.1 used, free, teardown_of_refused hd refused, works⟩
    -- Whatever comes before the slot that is refused is unused now.
    refine Fin.not_lt.1 fun lt => ?_
    have unused : b.state w = .unused := below w (List.mem_finRange w) lt
    have exiting : (b.state w).Exiting := standing'.exiting
    simp [unused, SlotState.Exiting] at exiting
  · rw [done] at standing'
    have unused : b.state w = .unused := unused_releaseSlots done (.inr (List.mem_finRange w))
    have exiting : (b.state w).Exiting := standing'.exiting
    simp [unused, SlotState.Exiting] at exiting

theorem works_claimed (e : Engine) (unused : d.batch.state h.slot = .unused) :
    Crew.Works ⟨e.pool, d⟩
      ⟨e.pool.acquire (d.owner h.slot),
        Dispatch.raise { d with batch := d.batch.withState h.slot .waiting } h.slot⟩ := by
  refine ⟨[.claim h.slot, .mark (max d.highWater (h.slot.val + 1)), .acquire (d.owner h.slot)],
    by simp [CrewCall.Passes], ?_⟩
  simp [Crew.performAll, Crew.perform, Batch.claim_eq, unused, Crew.exchange, Dispatch.raise]

/-- While a worker cannot be stopped, no start is the first one of an activation. -/
theorem counted_of_standing {b : Engine} (hd : e.dispatch = some d)
    (standing : Crew.Standing ⟨e.pool, d⟩ w) (counted : e.Counted b) : b = e.countUp := by
  cases counted with
  | first none down =>
    obtain ⟨_, _, -, -, -, refused, -⟩ := teardown_of_standing hd standing
    rw [refused] at down
    cases down
  | further => rfl

theorem start_works (hd : e.dispatch = some d) (standing : Crew.Standing ⟨e.pool, d⟩ w)
    (h : Handle) : ∃ c, (e.start h).1.crew? = some c ∧ Crew.Works ⟨e.pool, d⟩ c := by
  have outcome := e.start_outcome h
  generalize e.start h = started at outcome ⊢
  cases outcome with
  | refused none down =>
    obtain ⟨b, _, -, -, -, refused, works⟩ := teardown_of_standing hd standing
    rw [refused] at down
    cases down
    exact ⟨_, crew?_of_dispatch rfl, works⟩
  | direct counted none =>
    rw [counted_of_standing hd standing counted, countUp, hd] at none
    cases none
  | claimed counted hd' unused =>
    cases counted_of_standing hd standing counted
    cases hd.symm.trans hd'
    exact ⟨_, crew?_of_dispatch rfl, e.works_claimed unused⟩
  | inUse => exact ⟨_, crew?_of_dispatch hd, .refl _⟩

/-- A stop cannot end the activation while there is a thread. -/
theorem settle_of_live (live : e.pool.isLive w) : e.settle.1 = e := by
  have some : 0 < e.pool.liveCount := by
    refine Nat.pos_of_ne_zero fun none => ?_
    exact Pool.liveCount_eq_zero.1 none w live
  rw [settle]
  split
  · rw [deactivate, if_pos some]
  · rfl

theorem releaseSlot_works (hd : e.dispatch = some d) (i : Fin slotCount) :
    ∃ c, (e.releaseSlot d i).1.crew? = some c ∧ Crew.Works ⟨e.pool, d⟩ c := by
  have freed := Crew.works_perform ⟨e.pool, d⟩ (.free i) (by simp [CrewCall.Passes])
  rw [releaseSlot]
  cases hr : d.batch.release i with
  | error v => exact ⟨_, crew?_of_dispatch hd, .refl _⟩
  | ok b =>
    simp only [Crew.perform, Crew.exchange, hr] at freed
    let free : Dispatch slotCount := { d with batch := b }
    have marked : { free with highWater := (free.lower i).highWater } = free.lower i := by
      rw [Dispatch.lower]
      split
      · rfl
      · rfl
    have lowered := Crew.works_perform ⟨e.pool, free⟩ (.mark (free.lower i).highWater)
      (by simp [CrewCall.Passes])
    simp only [Crew.perform, marked] at lowered
    simp only
    split
    · exact ⟨_, crew?_of_dispatch rfl, freed.trans lowered⟩
    · have stopped := Crew.works_perform ⟨e.pool, free.lower i⟩
        (.release ((free.lower i).owner i)) (by simp [CrewCall.Passes])
      exact ⟨_, crew?_of_dispatch rfl, freed.trans (lowered.trans stopped)⟩

theorem stop_works (hd : e.dispatch = some d) (standing : Crew.Standing ⟨e.pool, d⟩ w)
    (h : Handle) : ∃ c, (e.stop h).1.crew? = some c ∧ Crew.Works ⟨e.pool, d⟩ c := by
  have settled {e' : Engine} {c : Crew slotCount} (hc : e'.crew? = some c)
      (works : Crew.Works ⟨e.pool, d⟩ c) :
      ∃ c, e'.settle.1.crew? = some c ∧ Crew.Works ⟨e.pool, d⟩ c := by
    obtain ⟨d', -, rfl⟩ := dispatch_of_crew? hc
    have live : e'.pool.isLive w := Pool.isLive_iff.2 (works.standing standing).live
    exact ⟨_, by rwa [settle_of_live live], works⟩
  have counted : e.countDown.dispatch = some d := hd
  obtain ⟨c, hc, works⟩ := releaseSlot_works counted h.slot
  have course := e.stop_course h
  generalize e.stop h = stopped at course ⊢
  cases course with
  | unbalanced => exact ⟨_, crew?_of_dispatch hd, .refl _⟩
  | free => exact settled (crew?_of_dispatch counted) (.refl _)
  | refused hd' refused =>
    cases hd.symm.trans hd'
    rw [refused] at hc
    exact ⟨c, hc, works⟩
  | released hd' released =>
    cases hd.symm.trans hd'
    rw [released] at hc
    exact settled hc works

/-- Every call is a series of calls to the crew, as long as a worker cannot be stopped. -/
theorem perform_works (hd : e.dispatch = some d) (standing : Crew.Standing ⟨e.pool, d⟩ w)
    (call : EngineCall) : ∃ c, (e.perform call).crew? = some c ∧ Crew.Works ⟨e.pool, d⟩ c := by
  -- A post or an answer goes to the current batch or to an earlier one.
  have put {k : Client} {b b' : Batch slotCount} (hb : e.batchOf? k = some b)
      (works : Crew.Works ⟨e.pool, { d with batch := b }⟩ ⟨e.pool, { d with batch := b' }⟩) :
      ∃ c, (e.putBatch k b').crew? = some c ∧ Crew.Works ⟨e.pool, d⟩ c := by
    rw [batchOf?] at hb
    rw [putBatch]
    split at hb
    · next current =>
      rw [hd] at hb
      cases hb
      rw [if_pos current, hd]
      exact ⟨_, crew?_of_dispatch rfl, works⟩
    · next earlier =>
      rw [if_neg earlier]
      exact ⟨_, crew?_of_dispatch hd, .refl _⟩
  cases call with
  | start h => exact start_works hd standing h
  | stop h => exact stop_works hd standing h
  | setEnabled enabled => exact ⟨_, crew?_of_dispatch hd, .refl _⟩
  | post k job =>
    simp only [perform, post]
    cases hb : e.batchOf? k with
    | none => exact ⟨_, crew?_of_dispatch hd, .refl _⟩
    | some b =>
      exact put hb (Crew.works_perform ⟨e.pool, { d with batch := b }⟩ (.post k.slot job)
        (by simp [CrewCall.Passes]))
  | finish k code =>
    simp only [perform, finish]
    cases hb : e.batchOf? k with
    | none => exact ⟨_, crew?_of_dispatch hd, .refl _⟩
    | some b =>
      exact put hb (Crew.works_perform ⟨e.pool, { d with batch := b }⟩
        (.finish k.slot code) (by simp [CrewCall.Passes]))

/-- A worker that cannot be stopped keeps its batch: whatever is done to the engine is done to the
same threads and slots. -/
theorem crew_moveAll (hc : e.crew? = some c) (standing : c.Standing w) (moves : List EngineMove) :
    ∃ calls, (e.moveAll moves).crew? = some (c.performAll calls) ∧
      ∀ call ∈ calls, ∀ v, call.Passes v → ∃ m ∈ moves, m.Passes v := by
  induction moves generalizing e c with
  | nil => exact ⟨[], hc, by simp⟩
  | cons m moves ih =>
    obtain ⟨d, hd, rfl⟩ := dispatch_of_crew? hc
    obtain ⟨first, hc', passes⟩ : ∃ calls, (e.move m).crew? = some (Crew.performAll ⟨e.pool, d⟩ calls) ∧
        ∀ call ∈ calls, ∀ v, call.Passes v → m.Passes v := by
      cases m with
      | call call =>
        obtain ⟨c', hc', calls, quiet, rfl⟩ := perform_works hd standing call
        exact ⟨calls, hc', fun call mem v passes => absurd passes (quiet call mem v)⟩
      | thread move =>
        refine ⟨[.thread move], by rw [Engine.move, crew?_of_dispatch hd]; rfl, ?_⟩
        intro call mem v passes
        rw [List.mem_singleton.1 mem] at passes
        exact passes
    obtain ⟨rest, hrest, passes'⟩ := ih hc' (standing.performAll first)
    refine ⟨first ++ rest, by rw [Crew.performAll_append]; exact hrest, fun call mem v pass => ?_⟩
    rcases List.mem_append.1 mem with early | late
    · exact ⟨m, List.mem_cons_self, passes call early v pass⟩
    · obtain ⟨later, among, hm⟩ := passes' call late v pass
      exact ⟨later, List.mem_cons_of_mem m among, hm⟩

/-! ## A stop whose worker does not answer in time -/

theorem settle_ne_stalled (e : Engine) {j : Nat} {x y : SlotState} :
    e.settle.2 ≠ .error (.transitionStalled j x y) := by
  rw [settle]
  split
  · rw [deactivate]
    split
    · simp
    · simp
  · simp

theorem releaseSlot_of_stalled
    (stalled : (e.releaseSlot d i).2 = .error (.transitionStalled w .exitSeen .exitAsked)) :
    ∃ c, (e.releaseSlot d i).1.crew? = some c ∧ c.state w = .exitAsked ∧ c.pool.isLive w := by
  rw [releaseSlot] at stalled ⊢
  cases hr : d.batch.release i with
  | error v =>
    simp only [hr, Except.error.injEq] at stalled
    rw [stalled, Batch.release_eq] at hr
    split at hr
    · cases hr
    · simp at hr
  | ok b =>
    simp only [hr] at stalled ⊢
    split at stalled
    · cases stalled
    · next idle =>
      obtain ⟨live, lt, same, eq⟩ := Pool.release_of_stalled stalled
      have mine : w = ⟨_, lt⟩ := Fin.ext same
      rw [if_neg idle, eq]
      refine ⟨_, crew?_of_dispatch rfl, ?_, ?_⟩
      · rw [mine]
        exact Batch.state_withState_self _ _ _
      · rw [mine]
        exact live

/-- The request to exit stands where the worker of a stopped slot did not answer it in time. -/
theorem stop_of_stalled
    (stalled : (e.stop h).2 = .error (.transitionStalled w .exitSeen .exitAsked)) :
    ∃ c, (e.stop h).1.crew? = some c ∧ c.state w = .exitAsked ∧ c.pool.isLive w := by
  have course := e.stop_course h
  generalize e.stop h = stopped at course stalled ⊢
  cases course with
  | unbalanced => cases stalled
  | free => exact absurd stalled (settle_ne_stalled _)
  | refused _ refused =>
    have left := releaseSlot_of_stalled (w := w) (by rw [refused]; exact stalled)
    rwa [refused] at left
  | released => exact absurd stalled (settle_ne_stalled _)

/-! ## Starts -/

/-- What starts come to while a worker is lost: the first one of an activation is refused, and any
other one counts on the thread that has ended. -/
structure Deserted (e : Engine) (c : Crew slotCount) (w : Fin slotCount) : Prop where
  crew : e.crew? = some c
  worker : c.Deserted w
  first (h : Handle) : e.active = 0 → ∃ j : Fin slotCount, j ≤ w ∧ c.state j ≠ .unused ∧
    c.state j ≠ .waiting ∧ (e.start h).2 = .error (.transitionStalled j .waiting (c.state j))
  claimed (h : Handle) : 0 < e.active → c.state h.slot ≠ .unused →
    e.start h = (e, .error (.slotInUse h.slot))
  /-- No thread is started, and a client is given out whose requests nobody serves. -/
  given (h : Handle) : 0 < e.active → c.state h.slot = .unused → c.dispatch.owner h.slot = w →
    let started := e.start h
    let client : Client := ⟨e.retired.length, h.slot⟩
    started.2 = .ok (some client) ∧ started.1.pool = e.pool ∧
      ∀ {W : Type} (at_ : EngineIn W) (world : W), at_.get world = started.1 → ∀ handler job,
        (at_.request handler client job world).2 = .error (.standstill (.noWorker h.slot))

theorem deserted_of_lost (hc : e.crew? = some c) (lost : c.Lost w) : e.Deserted c w := by
  obtain ⟨d, hd, rfl⟩ := dispatch_of_crew? hc
  refine ⟨hc, lost.deserted, fun h inactive => ?_, fun h active used => ?_,
    fun h active unused mine => ?_⟩
  · obtain ⟨b, j, le, used, free, refused, -⟩ := teardown_of_standing hd lost.standing
    exact ⟨j, le, used, free, by rw [start_of_refused inactive refused]; rfl⟩
  · rw [start_of_active active, claim_of_inUse (e := e.countUp) hd used (Nat.succ_lt_succ active)]
    rfl
  · intro started client
    have mine : d.owner h.slot = w := mine
    have ended : e.pool.thread w = .ended := lost.ended
    have live : e.pool.isLive w := Pool.isLive_iff.2 (by simp [ended])
    have eq : started = (e.countUp.claimed d h, .ok (some client)) := by
      have claimed := claim_of_unused (e := e.countUp) hd unused
      rwa [← start_of_active active] at claimed
    rw [eq]
    have pool : (e.countUp.claimed d h).pool = e.pool := by
      simp [Engine.claimed, countUp, mine, Pool.acquire, live]
    refine ⟨rfl, pool, fun at_ world hw handler job => ?_⟩
    have waiting := (start_given eq).2
    have unserved : (e.countUp.claimed d h).server client = .error (.noWorker h.slot) := by
      have owner : (Dispatch.raise { d with batch := d.batch.withState h.slot .waiting } h.slot).owner
          h.slot = w := mine
      rw [server, pool]
      simp [Engine.claimed, owner, ended, client, WorkerThread.Runs]
    have posted := (post_of_waiting waiting job).1
    have stands : at_.request handler client job world = _ := EngineIn.request_of_busy
      (by rw [hw]; exact Prod.ext rfl posted) (by rw [hw]; exact unserved)
    rw [stands]

/-- A request to exit stands in the engine until the worker passes. -/
theorem asked_moveAll (hc : e.crew? = some c) (asked : c.state w = .exitAsked)
    (live : c.pool.isLive w) {moves : List EngineMove} (silent : ∀ m ∈ moves, ¬ m.Passes w) :
    ∃ c', (e.moveAll moves).crew? = some c' ∧ c'.state w = .exitAsked ∧ c'.pool.isLive w := by
  have standing : c.Standing w := ⟨.inl asked, Pool.isLive_iff.1 live⟩
  obtain ⟨calls, hcalls, passes⟩ := crew_moveAll hc standing moves
  refine ⟨_, hcalls, Crew.asked_performAll asked calls fun call mem pass => ?_,
    Pool.isLive_iff.2 (standing.performAll calls).live⟩
  obtain ⟨m, among, pass⟩ := passes call mem w pass
  exact silent m among pass

/-- A worker that is lost stays lost to the engine. -/
theorem deserted_moveAll (hc : e.crew? = some c) (lost : c.Lost w) (moves : List EngineMove) :
    ∃ c', (e.moveAll moves).Deserted c' w := by
  obtain ⟨calls, hcalls, -⟩ := crew_moveAll hc lost.standing moves
  exact ⟨_, deserted_of_lost hcalls (lost.performAll calls)⟩

/-- **Exits succeed in time or never.** A worker without claimed slots is stopped and joined if its
thread answers in time. If it does not, the request to exit stands, whatever is done in the meantime,
until the thread passes again. That pass ends it, and from then on, whatever is done, its first slot
stays claimed with the acknowledgement in it and the thread counts as live without being joined: the
worker can neither be stopped, nor asked again, nor started again. The same becomes of a worker that
is too late when a stop gives its last slot back, and the engine then keeps the batch as well. No
start begins another activation, and within this one a start gives out any free slot of the worker
although its thread has ended, to a client whose requests stand still. -/
theorem exit_in_time_or_never {n : Nat} (c : Crew n) (w : Fin n) (e : Engine) (h : Handle)
    (v : Fin slotCount) :
    (c.pool.isLive w → c.dispatch.ownedInUse w = false →
      (c.thread w = .scanning →
        c.perform (.release w) = (⟨c.pool.stopped w, c.dispatch⟩, .ok ())) ∧
      (c.thread w ≠ .scanning →
        (c.perform (.release w)).2 = .error (.transitionStalled w .exitSeen .exitAsked))) ∧
    (∀ ask : CrewCall n, ask = .release w ∨ ask = .requestExit w →
      (c.perform ask).2 = .error (.transitionStalled w .exitSeen .exitAsked) →
      ∀ between : List (CrewCall n), (∀ call ∈ between, ¬ call.Passes w) →
        let asked := (c.perform ask).1.performAll between
        asked.state w = .exitAsked ∧
          ((asked.thread w).Runs → ∀ {W : Type} (handler : Handler W) (world : W),
            (asked.pass w handler world).2 = some .exit ∧
              ∀ later, ((asked.pass w handler world).1.performAll later).Deserted w)) ∧
    ((e.stop h).2 = .error (.transitionStalled v .exitSeen .exitAsked) →
      ∀ between : List EngineMove, (∀ m ∈ between, ¬ m.Passes v) →
        let left := (e.stop h).1.moveAll between
        ∃ asked, left.crew? = some asked ∧ asked.state v = .exitAsked ∧ asked.pool.isLive v ∧
          ((asked.thread v).Runs → ∀ {W : Type} (handler : Handler W) (world : W),
            (asked.pass v handler world).2 = some .exit ∧
              ∀ later, ∃ c,
                ((left.move (.thread (.pass v handler world))).moveAll later).Deserted c v)) := by
  refine ⟨Crew.release_of_free, fun ask asks stalled between silent => ?_,
    fun stalled between silent => ?_⟩
  · intro asked
    have stands : asked.state w = .exitAsked :=
      Crew.asked_performAll (Crew.asked_of_stalled asks stalled) between silent
    refine ⟨stands, fun runs W handler world => ?_⟩
    obtain ⟨exit, lost⟩ := Crew.lost_of_asked handler world stands runs
    exact ⟨exit, fun later => (lost.performAll later).deserted⟩
  · intro left
    obtain ⟨c, hc, asked, live⟩ := stop_of_stalled stalled
    obtain ⟨asked, hasked, stands, live⟩ := asked_moveAll hc asked live silent
    refine ⟨asked, hasked, stands, live, fun runs W handler world => ?_⟩
    obtain ⟨exit, lost⟩ := Crew.lost_of_asked handler world stands runs
    have passed : (left.move (.thread (.pass v handler world))).crew? =
        some (asked.pass v handler world).1 := by
      rw [Engine.move, hasked]
      rfl
    exact ⟨exit, deserted_moveAll passed lost⟩

/-- A worker that was started and has become slow, with one slot to be asked at. -/
def sluggish : Crew 1 :=
  Crew.performAll ⟨Pool.empty 1, Dispatch.start 1 1⟩ [.acquire 0, .thread (.slow 0)]

/-- Two workers with a claimed slot each, the first of them slow. -/
def sluggishEngine (one two : Handle) : Engine :=
  (new {} 4).moveAll [.call (.start one), .call (.start two), .thread (.slow 0)]

/-- A slow worker that is stopped is lost with its next pass, in a pool and in the engine. -/
theorem exit_in_time_or_never_sluggish :
    let one : Handle := ⟨1, by decide, by decide⟩
    let e := sluggishEngine one ⟨2, by decide, by decide⟩
    let handler : Handler Unit := fun _ world => (.code .success, world)
    (sluggish.perform (.release 0)).2 = .error (.transitionStalled 0 .exitSeen .exitAsked) ∧
      ((sluggish.perform (.release 0)).1.pass 0 handler ()).1.Deserted 0 ∧
      (e.stop one).2 = .error (.transitionStalled one.slot .exitSeen .exitAsked) ∧
      ∃ c, ((e.stop one).1.move (.thread (.pass one.slot handler ()))).Deserted c one.slot := by
  intro one e handler
  have follows {c : Crew 1} {e : Engine} {h : Handle} {v : Fin slotCount}
      (stalled : (c.perform (.release 0)).2 =
        .error (.transitionStalled 0 .exitSeen .exitAsked))
      (slow : (c.perform (.release 0)).1.thread 0 = .slow)
      (stopped : (e.stop h).2 = .error (.transitionStalled v .exitSeen .exitAsked))
      (slow' : (e.stop h).1.pool.thread v = .slow) :
      ((c.perform (.release 0)).1.pass 0 handler ()).1.Deserted 0 ∧
        ∃ c, ((e.stop h).1.move (.thread (.pass v handler ()))).Deserted c v := by
    obtain ⟨-, crew, engine⟩ := exit_in_time_or_never c 0 e h v
    obtain ⟨-, lost⟩ := crew (.release 0) (.inl rfl) stalled [] (by simp)
    obtain ⟨asked, hc, -, -, lost'⟩ := engine stopped [] (by simp)
    have runs : (asked.thread v).Runs := by
      obtain ⟨d, -, rfl⟩ := dispatch_of_crew? hc
      exact .inr slow'
    exact ⟨(lost (.inr slow) handler ()).2 [], (lost' runs handler ()).2 []⟩
  have stalled : (sluggish.perform (.release 0)).2 =
      .error (.transitionStalled 0 .exitSeen .exitAsked) := by
    decide +kernel
  have stopped : (e.stop one).2 = .error (.transitionStalled one.slot .exitSeen .exitAsked) := by
    decide +kernel
  have slow : (e.stop one).1.pool.thread one.slot = .slow := by decide +kernel
  obtain ⟨crew, engine⟩ := follows stalled (by decide +kernel) stopped slow
  exact ⟨stalled, crew, stopped, engine⟩

/-- The acknowledgement of a late exit is never taken back, and the slots of the worker are given out
although its thread has ended. -/
theorem late_exit_is_not_undone :
    let one : Handle := ⟨1, by decide, by decide⟩
    let two : Handle := ⟨2, by decide, by decide⟩
    let three : Handle := ⟨3, by decide, by decide⟩
    let handler : Handler Unit := fun _ world => (.code .success, world)
    let stalled := sluggish.perform (.release 0)
    let exited := stalled.1.pass 0 handler ()
    let e := sluggishEngine one two
    let left := (e.stop one).1.move (.thread (.pass 0 handler ()))
    let idle := left.moveAll [.call (.start three), .call (.stop three), .call (.stop two)]
    (stalled.2 = .error (.transitionStalled 0 .exitSeen .exitAsked) ∧ exited.2 = some .exit ∧
      (exited.1.perform (.release 0)).2 = .error (.workerBusy 0) ∧
      (exited.1.perform (.requestExit 0)).2 =
        .error (.transitionStalled 0 .unused .exitSeen) ∧
      (exited.1.performAll [.release 0, .requestExit 0]).state 0 = .exitSeen) ∧
    (e.stop one).2 = .error (.transitionStalled 0 .exitSeen .exitAsked) ∧
      left.pool.thread 0 = .ended ∧ (left.start three).2 = .ok (some ⟨0, three.slot⟩) ∧
      (left.start three).1.pool.thread 0 = .ended ∧
      idle.active = 0 ∧ (idle.start two).2 = .error (.transitionStalled 0 .waiting .exitSeen) := by
  decide +kernel

end Engine

end PluginBridge
