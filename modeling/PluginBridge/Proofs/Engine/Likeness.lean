import PluginBridge.Proofs.Dispatch.Likeness
import PluginBridge.Proofs.Engine.Books
import PluginBridge.Proofs.Engine.LateExits

/-!
# Engines that differ in their results

An engine never looks at the results that are left in the slots, and of the batches that were put
away it looks at no more than the states. Engines that differ in nothing else (`Engine.Matches`)
answer every call alike, are seen alike in every snapshot, give the same jobs to the same workers,
and match again afterwards (`Matches.perform`, `Matches.move`).
-/

namespace PluginBridge

namespace Engine

variable {e e' : Engine} {d d' : Dispatch slotCount} {b b' : Batch slotCount} {c : Client}
  {R : Type}

/-- Two engines that differ in nothing but the results in the slots of the current batch, and what
earlier batches hold beside their states. -/
inductive Matches : Engine → Engine → Prop where
  | mk {config : Config} {machine : Nat} {enabled available : Bool} {active maxWorkers : Nat}
      {current current' : Option (Dispatch slotCount)} {pool : Pool}
      {earlier earlier' : List (Batch slotCount)}
      (dispatch : Option.Rel Dispatch.Matches current current')
      (retired : earlier.map Batch.state = earlier'.map Batch.state) :
      Matches
        ⟨config, machine, enabled, available, active, maxWorkers, current, pool, earlier⟩
        ⟨config, machine, enabled, available, active, maxWorkers, current', pool, earlier'⟩

theorem Matches.refl (e : Engine) : e.Matches e := by
  obtain ⟨_, _, _, _, _, _, current, _, _⟩ := e
  cases current with
  | none => exact .mk .none rfl
  | some d => exact .mk (.some (.refl d)) rfl

theorem Matches.trans {e'' : Engine} (same : e.Matches e') (same' : e'.Matches e'') :
    e.Matches e'' := by
  cases same with
  | mk dispatch retired =>
  cases same' with
  | mk dispatch' retired' =>
  refine .mk ?_ (retired.trans retired')
  cases dispatch with
  | none => exact dispatch'
  | some batches =>
    cases dispatch' with
    | some batches' => exact .some (batches.trans batches')

theorem Matches.length_retired (same : e.Matches e') : e.retired.length = e'.retired.length := by
  cases same with
  | mk dispatch retired => simpa using congrArg List.length retired

/-- An operation came to the same on two engines, and left engines that match. -/
structure Agree (x y : Engine × R) : Prop where
  engine : x.1.Matches y.1
  answer : x.2 = y.2

theorem Agree.split {x y : Engine × R} (agree : Agree x y) :
    ∃ a b r, x = (a, r) ∧ y = (b, r) ∧ a.Matches b :=
  ⟨x.1, y.1, x.2, rfl, by rw [agree.answer], agree.engine⟩

/-! ## Batches that are put away -/

theorem Matches.retire (same : e.Matches e') : e.retire.Matches e'.retire := by
  cases same with
  | mk dispatch retired =>
  cases dispatch with
  | none => exact .mk .none retired
  | some batches =>
    refine .mk .none ?_
    rw [List.map_append, List.map_append, retired, List.map_singleton, List.map_singleton,
      batches.batch.state]

theorem Matches.deactivate (same : e.Matches e') : Agree e.deactivate e'.deactivate := by
  have put := same.retire
  rw [Engine.deactivate, Engine.deactivate]
  cases same with
  | mk dispatch retired =>
  dsimp only
  split
  · exact ⟨.mk dispatch retired, rfl⟩
  · exact ⟨put, rfl⟩

theorem Matches.settle (same : e.Matches e') : Agree e.settle e'.settle := by
  have ended := same.deactivate
  rw [Engine.settle, Engine.settle]
  cases same with
  | mk dispatch retired =>
  dsimp only
  split
  · exact ended
  · exact ⟨.mk dispatch retired, rfl⟩

/-! ## Takedowns -/

theorem matches_releaseSlots (l : List (Fin slotCount)) (same : b.Matches b') :
    (releaseSlots l b).1.Matches (releaseSlots l b').1 ∧
      (releaseSlots l b).2 = (releaseSlots l b').2 := by
  induction l generalizing b b' with
  | nil => exact ⟨same, rfl⟩
  | cons i rest ih =>
    rw [releaseSlots, releaseSlots, ← Batch.inUse_congr same.state, Batch.release_eq,
      Batch.release_eq, ← same.state]
    split
    · by_cases waiting : b.state i = .waiting
      · rw [if_pos waiting, if_pos waiting]
        exact ih (same.withState i .unused)
      · rw [if_neg waiting, if_neg waiting]
        exact ⟨same, rfl⟩
    · exact ih same

theorem Matches.teardown (same : e.Matches e') : Agree e.teardown e'.teardown := by
  rw [Engine.teardown, Engine.teardown]
  cases same with
  | @mk _ _ _ _ _ _ _ _ pool _ _ dispatch retired =>
  cases dispatch with
  | none => exact ⟨.mk .none retired, rfl⟩
  | @some d d' batches =>
  dsimp only
  obtain ⟨left, answer⟩ := matches_releaseSlots (List.finRange slotCount) batches.batch
  generalize releaseSlots (List.finRange slotCount) d.batch = x at left answer ⊢
  generalize releaseSlots (List.finRange slotCount) d'.batch = y at left answer ⊢
  obtain ⟨b, r⟩ := x
  obtain ⟨b', r'⟩ := y
  cases answer
  cases r with
  | error v => exact ⟨.mk (.some (batches.withBatch left)) retired, rfl⟩
  | ok _ =>
    have free : Dispatch.Matches { d with batch := b, highWater := 0 }
        { d' with batch := b', highWater := 0 } := ⟨left, rfl, batches.workers⟩
    obtain ⟨q, c, c', r, first, second, stopped⟩ :=
      (Pool.agree_releaseEach (List.range pool.threads.length) pool free).split
    simp only [Pool.releaseAll, first, second]
    cases r with
    | ok _ => exact ⟨Matches.retire (.mk (.some stopped) retired), rfl⟩
    | error v => exact ⟨.mk (.some stopped) retired, rfl⟩

/-! ## Starting -/

theorem Matches.claim (same : e.Matches e') (h : Handle) : Agree (e.claim h) (e'.claim h) := by
  have length := same.length_retired
  rw [Engine.claim, Engine.claim]
  cases same with
  | mk dispatch retired =>
  cases dispatch with
  | none => exact ⟨.mk .none retired, rfl⟩
  | @some d d' batches =>
  simp only [Batch.claim_eq, ← batches.batch.state]
  by_cases unused : d.batch.state h.slot = .unused
  · rw [if_pos unused, if_pos unused]
    have claimed := (batches.withBatch (batches.batch.withState h.slot .waiting)).raise h.slot
    simp only [← claimed.owner, ← length]
    exact ⟨.mk (.some claimed) retired, rfl⟩
  · rw [if_neg unused, if_neg unused]
    dsimp only
    split
    · obtain ⟨a, b, r, first, second, ended⟩ :=
        (Matches.deactivate (.mk (.some batches) retired)).split
      rw [first, second]
      cases r with
      | ok _ => exact ⟨ended, rfl⟩
      | error v => exact ⟨ended, rfl⟩
    · exact ⟨.mk (.some batches) retired, rfl⟩

theorem Matches.begin (same : e.Matches e') : e.begin.Matches e'.begin := by
  rw [Engine.begin, Engine.begin, activate, activate]
  cases same with
  | mk dispatch retired =>
  refine .mk ?_ retired
  split
  · exact .some (.refl _)
  · exact .none

theorem Matches.start (same : e.Matches e') (h : Handle) : Agree (e.start h) (e'.start h) := by
  obtain ⟨a, b, r, first, second, gone⟩ := same.teardown.split
  rw [Engine.start, Engine.start, first, second]
  cases same with
  | mk dispatch retired =>
  dsimp only
  split
  · cases r with
    | error v => exact ⟨gone, rfl⟩
    | ok _ => exact gone.begin.claim h
  · exact Matches.claim (.mk dispatch retired) h

/-! ## Stopping -/

theorem Matches.releaseSlot (same : e.Matches e') (batches : d.Matches d')
    (i : Fin slotCount) : Agree (e.releaseSlot d i) (e'.releaseSlot d' i) := by
  rw [Engine.releaseSlot, Engine.releaseSlot, Batch.release_eq, Batch.release_eq,
    ← batches.batch.state]
  by_cases waiting : d.batch.state i = .waiting
  · rw [if_pos waiting, if_pos waiting]
    have free := (batches.withBatch (batches.batch.withState i .unused)).lower i
    cases same with
    | @mk _ _ _ _ _ _ _ _ pool _ _ dispatch retired =>
    simp only [← free.owner, ← free.ownedInUse]
    split
    · exact ⟨.mk (.some free) retired, rfl⟩
    · obtain ⟨q, c, c', r, first, second, stopped⟩ := (Pool.agree_release pool free
        ((Dispatch.lower { d with batch := d.batch.withState i .unused } i).owner i)).split
      rw [first, second]
      exact ⟨.mk (.some stopped) retired, rfl⟩
  · rw [if_neg waiting, if_neg waiting]
    exact ⟨same, rfl⟩

theorem Matches.stop (same : e.Matches e') (h : Handle) : Agree (e.stop h) (e'.stop h) := by
  rw [Engine.stop, Engine.stop]
  cases same with
  | mk dispatch retired =>
  dsimp only
  split
  · exact ⟨.mk dispatch retired, rfl⟩
  · cases dispatch with
    | none => exact Matches.settle (.mk .none retired)
    | @some d d' batches =>
      dsimp only
      rw [← Batch.inUse_congr batches.batch.state]
      split
      · obtain ⟨a, b, r, first, second, released⟩ :=
          (Matches.releaseSlot (.mk (.some batches) retired) batches h.slot).split
        rw [first, second]
        cases r with
        | ok _ => exact released.settle
        | error v => exact ⟨released, rfl⟩
      · exact Matches.settle (.mk (.some batches) retired)

/-! ## Requests -/

/-- The batches of a client are in the same states, and match if the client belongs to the current
activation. -/
theorem Matches.batchOf? (same : e.Matches e') (c : Client) :
    (e.batchOf? c = none ∧ e'.batchOf? c = none) ∨
      ∃ b b', e.batchOf? c = some b ∧ e'.batchOf? c = some b' ∧ b.state = b'.state ∧
        (c.activation = e.retired.length → b.Matches b') := by
  have length := same.length_retired
  rw [Engine.batchOf?, Engine.batchOf?, ← length]
  cases same with
  | @mk _ _ _ _ _ _ _ _ _ earlier earlier' dispatch retired =>
  by_cases current : c.activation = earlier.length
  · simp only [if_pos current]
    cases dispatch with
    | none => exact .inl ⟨rfl, rfl⟩
    | some batches =>
      exact .inr ⟨_, _, rfl, rfl, batches.batch.state, fun _ => batches.batch⟩
  · simp only [if_neg current]
    have states := congrArg (·[c.activation]?) retired
    simp only [List.getElem?_map] at states
    cases first : earlier[c.activation]? with
    | none =>
      rw [first, Option.map_none, eq_comm, Option.map_eq_none_iff] at states
      exact .inl ⟨rfl, states⟩
    | some b =>
      rw [first, Option.map_some, eq_comm, Option.map_eq_some_iff] at states
      obtain ⟨b', second, states⟩ := states
      exact .inr ⟨b, b', rfl, second, states.symm, fun mine => absurd mine current⟩

theorem Matches.putBatch (same : e.Matches e') (c : Client) (states : b.state = b'.state)
    (batches : c.activation = e.retired.length → b.Matches b') :
    (e.putBatch c b).Matches (e'.putBatch c b') := by
  have length := same.length_retired
  rw [Engine.putBatch, Engine.putBatch, ← length]
  cases same with
  | @mk _ _ _ _ _ _ _ _ _ earlier earlier' dispatch retired =>
  by_cases current : c.activation = earlier.length
  · simp only [if_pos current]
    cases dispatch with
    | none => exact .mk .none retired
    | some same => exact .mk (.some (same.withBatch (batches current))) retired
  · simp only [if_neg current]
    refine .mk dispatch ?_
    rw [List.map_set, List.map_set, retired, states]

theorem Matches.post (same : e.Matches e') (c : Client) (job : Job) :
    Agree (e.post c job) (e'.post c job) := by
  rw [Engine.post, Engine.post]
  rcases same.batchOf? c with ⟨none, none'⟩ | ⟨b, b', hb, hb', states, batches⟩
  · rw [none, none']
    exact ⟨same, rfl⟩
  · rw [hb, hb']
    obtain ⟨answer, left⟩ := Batch.post_congr states c.slot job
    exact ⟨same.putBatch c left fun current => (batches current).post c.slot job, answer⟩

/-- Requests that are answered with different results leave engines that match. -/
theorem Matches.finish (same : e.Matches e') (c : Client) (code code' : ResultCode) :
    (e.finish c code).Matches (e'.finish c code') := by
  rw [Engine.finish, Engine.finish]
  rcases same.batchOf? c with ⟨none, none'⟩ | ⟨b, b', hb, hb', states, batches⟩
  · rw [none, none']
    exact same
  · rw [hb, hb']
    exact same.putBatch c (Batch.state_finish_congr states c.slot code code')
      fun current => (batches current).finish c.slot code code'

theorem Matches.state? (same : e.Matches e') (c : Client) : e.state? c = e'.state? c := by
  rw [Engine.state?, Engine.state?]
  rcases same.batchOf? c with ⟨none, none'⟩ | ⟨b, b', hb, hb', states, -⟩
  · rw [none, none']
  · rw [hb, hb', Option.map_some, Option.map_some, states]

/-- What is collected after an answer is the answer, if the slot is waiting then. -/
theorem collect_answered (e : Engine) (c : Client) (code : ResultCode) :
    (e.finish c code).collect c =
      if (e.finish c code).state? c = some .waiting then some code else none := by
  rw [Engine.collect, Engine.state?, Engine.finish]
  cases hb : e.batchOf? c with
  | none => simp [hb]
  | some b =>
    dsimp only
    rw [batchOf?_putBatch hb, Option.bind_some, Option.map_some, Batch.collect, Batch.code_finish]
    simp only [Option.some.injEq]

/-- A call that is answered alike by engines that match, and leaves engines that match. -/
theorem Matches.perform (same : e.Matches e') (call : EngineCall) :
    e.answer call = e'.answer call ∧ (e.perform call).Matches (e'.perform call) := by
  cases call with
  | start h =>
    have agree := same.start h
    exact ⟨congrArg EngineAnswer.started agree.answer, agree.engine⟩
  | stop h =>
    have agree := same.stop h
    exact ⟨congrArg EngineAnswer.stopped agree.answer, agree.engine⟩
  | setEnabled enabled =>
    cases same with
    | mk dispatch retired => exact ⟨rfl, .mk dispatch retired⟩
  | post c job =>
    have agree := same.post c job
    exact ⟨congrArg EngineAnswer.posted agree.answer, agree.engine⟩
  | finish c code =>
    have left := same.finish c code code
    refine ⟨?_, left⟩
    simp only [Engine.answer, collect_answered, left.state? c]

/-! ## What is seen -/

theorem Matches.stats (same : e.Matches e') : e.stats = e'.stats := by
  cases same with
  | mk dispatch retired =>
  cases dispatch with
  | none => rfl
  | some batches => simp only [Engine.stats, Option.elim_some, batches.highWater, Option.isSome_some]

theorem Matches.job? (same : e.Matches e') (current : c.activation = e.retired.length) :
    e.job? c = e'.job? c := by
  rw [Engine.job?, Engine.job?]
  rcases same.batchOf? c with ⟨none, none'⟩ | ⟨b, b', hb, hb', -, batches⟩
  · rw [none, none']
  · rw [hb, hb', Option.bind_some, Option.bind_some, (batches current).job?]

theorem retired_putBatch (e : Engine) (c : Client) (b : Batch slotCount) :
    (e.putBatch c b).retired.length = e.retired.length := by
  rw [putBatch]
  split
  · rfl
  · exact List.length_set

theorem retired_post (e : Engine) (c : Client) (job : Job) :
    (e.post c job).1.retired.length = e.retired.length := by
  rw [Engine.post]
  split
  · exact retired_putBatch e c _
  · rfl

/-- A client that will be served belongs to the current activation. -/
theorem current_of_server {w : Nat} (served : e.server c = .ok w) :
    c.activation = e.retired.length := by
  rw [Engine.server] at served
  refine Decidable.byContradiction fun other => ?_
  cases hd : e.dispatch with
  | none =>
    rw [hd] at served
    cases served
  | some d =>
    rw [hd] at served
    simp only [ne_eq, other, not_false_eq_true, true_or, if_true] at served
    cases served

theorem Matches.server (same : e.Matches e') (c : Client) : e.server c = e'.server c := by
  have length := same.length_retired
  rw [Engine.server, Engine.server, ← length]
  cases same with
  | mk dispatch retired =>
  cases dispatch with
  | none => rfl
  | some batches => simp only [batches.owner, batches.scans, batches.exits, batches.ownedPosted]

/-! ## Threads -/

/-- What a pass of a worker is seen to do, if there is a batch. -/
def passed {W : Type} (e : Engine) (w : Nat) (handler : Handler W) (world : W) :
    Option ScanResult × W :=
  e.crew?.elim (none, world) fun c => c.passed w handler world

theorem Matches.passed {W : Type} (same : e.Matches e') (w : Nat) (handler : Handler W)
    (world : W) : e.passed w handler world = e'.passed w handler world := by
  cases same with
  | @mk _ _ _ _ _ _ _ _ pool _ _ dispatch retired =>
  cases dispatch with
  | none => rfl
  | @some d d' batches =>
    have crews : Crew.Matches ⟨pool, d⟩ ⟨pool, d'⟩ := ⟨rfl, batches⟩
    exact (crews.pass w handler world).1

/-- Threads make the same of engines that match. -/
theorem Matches.move (same : e.Matches e') (move : EngineMove) :
    (e.move move).Matches (e'.move move) := by
  cases move with
  | call call => exact (same.perform call).2
  | thread move =>
    cases same with
    | @mk _ _ _ _ _ _ _ _ pool _ _ dispatch retired =>
    cases dispatch with
    | none => exact .mk .none retired
    | @some d d' batches =>
      have crews : Crew.Matches ⟨pool, d⟩ ⟨pool, d'⟩ := ⟨rfl, batches⟩
      obtain ⟨threads, dispatch⟩ := crews.move move
      simp only [Engine.move, crew?, Option.map_some, Option.elim_some, withCrew, ← threads]
      exact .mk (.some dispatch) retired

end Engine

end PluginBridge
