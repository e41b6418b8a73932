import PluginBridge.Proofs.Engine.Clients
import PluginBridge.Proofs.Engine.Likeness
import PluginBridge.Proofs.Engine.Manning

/-!
# Activations are isolated

Clients outlive their activation, and a later activation claims the same slots again. A client of an
activation whose batch has been put away meets that batch and no other one. Its slots are unused for
good, so its requests are rejected (`Manned.state_of_dropped`), and what they write there is never
looked at again (`Manned.matches_post`). So they can be taken out of a run, and nothing else in it
is seen to change (`observe_select`).
-/

namespace PluginBridge

/-! ## What is seen of a run -/

/-- What a move of an engine answers. -/
inductive MoveAnswer : Type 1 where
  | called (answer : EngineAnswer)
  /-- A worker has passed over its slots, and its handler has left a world. -/
  | passed {W : Type} (result : Option ScanResult) (world : W)
  | paced

/-- What is seen of a move: its answer, a snapshot after it, and the jobs that the workers find then
in the slots of the current batch. -/
structure Sight : Type 1 where
  answer : MoveAnswer
  stats : EngineStats
  jobs : Fin slotCount → Option Job

/-- The places of a list that are marked to be kept. Beyond the marks everything is kept. -/
def select {α : Type 1} : List Bool → List α → List α
  | true :: marks, a :: l => a :: select marks l
  | false :: marks, _ :: l => select marks l
  | [], l => l
  | _, [] => []

namespace Engine

variable {e e' : Engine} {d : Dispatch slotCount} {c : Client} {h : Handle}

/-- What the engine answers to a move. -/
def moveAnswer (e : Engine) : EngineMove → MoveAnswer
  | .call call => .called (e.answer call)
  | .thread (.pass w handler world) =>
    .passed (e.passed w handler world).1 (e.passed w handler world).2
  | .thread (.slow _) | .thread (.prompt _) => .paced

/-- The jobs in the slots of the current batch. -/
def jobs (e : Engine) (i : Fin slotCount) : Option Job := e.job? ⟨e.retired.length, i⟩

/-- What is seen of a move. -/
def sight (e : Engine) (move : EngineMove) : Sight :=
  ⟨e.moveAnswer move, (e.move move).stats, (e.move move).jobs⟩

/-- What is seen of a run. -/
def observe (e : Engine) : List EngineMove → List Sight
  | [] => []
  | move :: moves => e.sight move :: (e.move move).observe moves

theorem Matches.sight (same : e.Matches e') (move : EngineMove) : e.sight move = e'.sight move := by
  have answer : e.moveAnswer move = e'.moveAnswer move := by
    cases move with
    | call call => exact congrArg MoveAnswer.called (same.perform call).1
    | thread move =>
      cases move with
      | pass w handler world => simp only [moveAnswer, same.passed w handler world]
      | slow w | prompt w => rfl
  have left := same.move move
  have jobs : (e.move move).jobs = (e'.move move).jobs := by
    funext i
    rw [Engine.jobs, Engine.jobs, ← left.length_retired]
    exact left.job? rfl
  rw [Engine.sight, Engine.sight, answer, left.stats, jobs]

/-! ## Batches that are put away -/

/-- The batch of a client's activation has been put away. -/
def Dropped (e : Engine) (c : Client) : Prop := c.activation < e.retired.length

instance (e : Engine) (c : Client) : Decidable (e.Dropped c) := Nat.decLt _ _

theorem retired_retire {l : List (Batch slotCount)} (same : e.retired = l) :
    l.length ≤ e.retire.retired.length := by
  rw [retire, ← same]
  split
  · simp
  · exact Nat.le_refl _

theorem retired_settle (e : Engine) :
    e.settle.1.retired = e.retired ∨
      e.settle.1.active = 0 ∧ e.retired.length ≤ e.settle.1.retired.length := by
  rw [settle]
  split
  · next none =>
    rw [deactivate]
    split
    · exact .inl rfl
    · refine .inr ⟨?_, retired_retire rfl⟩
      rw [retire]
      split
      · exact none
      · exact none
  · exact .inl rfl

theorem retired_teardown (e : Engine) : e.retired.length ≤ e.teardown.1.retired.length := by
  rw [teardown]
  cases e.dispatch with
  | none => exact Nat.le_refl _
  | some d =>
    dsimp only
    split
    · exact Nat.le_refl _
    · split
      · exact retired_retire rfl
      · exact Nat.le_refl _

theorem retired_releaseSlot (e : Engine) (d : Dispatch slotCount) (i : Fin slotCount) :
    (e.releaseSlot d i).1.retired = e.retired := by
  rw [releaseSlot]
  split
  · rfl
  · dsimp only
    split
    · rfl
    · rfl

/-- Batches are put away by a first start, if at all. -/
theorem retired_start (e : Engine) (h : Handle) :
    (e.start h).1.retired.length = e.retired.length ∨
      e.active = 0 ∧ e.retired.length ≤ (e.start h).1.retired.length := by
  have counted {b : Engine} (counted : e.Counted b) : b.retired.length = e.retired.length ∨
      e.active = 0 ∧ e.retired.length ≤ b.retired.length := by
    cases counted with
    | @first e' none down =>
      have gone := e.retired_teardown
      rw [down] at gone
      exact .inr ⟨none, gone⟩
    | further => exact .inl rfl
  have outcome := e.start_outcome h
  generalize e.start h = started at outcome ⊢
  cases outcome with
  | refused none down =>
    have gone := e.retired_teardown
    rw [down] at gone
    exact .inr ⟨none, gone⟩
  | direct begun => exact counted begun
  | claimed begun =>
    have kept := counted begun
    exact kept
  | inUse => exact .inl rfl

/-- Batches are put away by a last stop, if at all. -/
theorem retired_stop (e : Engine) (h : Handle) :
    (e.stop h).1.retired.length = e.retired.length ∨
      (e.stop h).1.active = 0 ∧ e.retired.length ≤ (e.stop h).1.retired.length := by
  have settled {b : Engine} (same : b.retired = e.retired) :
      b.settle.1.retired.length = e.retired.length ∨
        b.settle.1.active = 0 ∧ e.retired.length ≤ b.settle.1.retired.length := by
    rw [← same]
    exact b.retired_settle.imp_left (congrArg List.length)
  have course := e.stop_course h
  generalize e.stop h = stopped at course ⊢
  cases course with
  | unbalanced => exact .inl rfl
  | free => exact settled rfl
  | @refused d e' v hd refused =>
    have left := e.countDown.retired_releaseSlot d h.slot
    rw [refused] at left
    exact .inl (congrArg List.length left)
  | @released d e' hd released =>
    have left := e.countDown.retired_releaseSlot d h.slot
    rw [released] at left
    exact settled left

/-- The moves that put batches away: the last stop of an activation, and the first start of the
next one. -/
def Ends (e : Engine) (move : EngineMove) : Prop :=
  (∃ h, move = .call (.stop h) ∧ (e.move move).active = 0) ∨
    ∃ h, move = .call (.start h) ∧ e.active = 0

theorem retired_move (e : Engine) (move : EngineMove) :
    (e.move move).retired.length = e.retired.length ∨
      e.Ends move ∧ e.retired.length ≤ (e.move move).retired.length := by
  cases move with
  | call call =>
    cases call with
    | start h => exact (e.retired_start h).imp_right fun ⟨first, le⟩ => ⟨.inr ⟨h, rfl, first⟩, le⟩
    | stop h => exact (e.retired_stop h).imp_right fun ⟨last, le⟩ => ⟨.inl ⟨h, rfl, last⟩, le⟩
    | setEnabled enabled => exact .inl rfl
    | post c job =>
      refine .inl ?_
      simp only [Engine.move, perform, post]
      cases e.batchOf? c with
      | none => rfl
      | some b => exact e.retired_putBatch c _
    | finish c code =>
      refine .inl ?_
      simp only [Engine.move, perform, finish]
      cases e.batchOf? c with
      | none => rfl
      | some b => exact e.retired_putBatch c _
  | thread move =>
    refine .inl ?_
    rw [Engine.move, crew?]
    cases e.dispatch with
    | none => rfl
    | some d => rfl

/-- What has been put away stays there. -/
theorem Dropped.move (dropped : e.Dropped c) (move : EngineMove) : (e.move move).Dropped c := by
  rcases e.retired_move move with same | ⟨-, le⟩
  · rwa [Dropped, same]
  · exact Nat.lt_of_lt_of_le dropped le

theorem Dropped.moveAll (dropped : e.Dropped c) (moves : List EngineMove) :
    (e.moveAll moves).Dropped c := by
  induction moves generalizing e with
  | nil => exact dropped
  | cons move moves ih => exact ih (dropped.move move)

/-- The slots of a batch that has been put away are unused. -/
theorem Manned.state_of_dropped (manned : e.Manned) (dropped : e.Dropped c) :
    e.state? c = some .unused := by
  rw [state?_of_earlier (Nat.ne_of_lt dropped), List.getElem?_eq_getElem dropped, Option.map_some,
    manned.retired _ (List.getElem_mem dropped)]

/-- What a rejected request writes into a batch that has been put away is not looked at. -/
theorem Manned.matches_post (manned : e.Manned) (dropped : e.Dropped c) (job : Job) :
    e.Matches (e.post c job).1 := by
  have lt : c.activation < e.retired.length := dropped
  have earlier := Nat.ne_of_lt lt
  have hb : e.batchOf? c = some e.retired[c.activation] := by
    rw [batchOf?, if_neg earlier, List.getElem?_eq_getElem lt]
  have unused : (e.retired[c.activation]).state c.slot = .unused :=
    manned.retired _ (List.getElem_mem lt) c.slot
  have spec := (e.retired[c.activation]).post_spec c.slot job
  simp only [unused] at spec
  have same := (Matches.refl e).putBatch c (b := e.retired[c.activation]) spec.2.symm
    fun current => absurd current earlier
  have kept : e.putBatch c e.retired[c.activation] = e := by
    rw [Engine.putBatch, if_neg earlier, List.set_getElem_self]
  rw [kept] at same
  rw [Engine.post, hb]
  exact same

/-! ## Runs -/

/-- Requests of clients whose batch has been put away may be taken out of a run. -/
theorem Manned.observe_select (manned : e.Manned) (same : e'.Matches e) (marks : List Bool)
    (moves : List EngineMove)
    (spent : ∀ before move after, moves = before ++ move :: after →
      marks[before.length]? = some false →
        ∃ c job, move = .call (.post c job) ∧ (e.moveAll before).Dropped c) :
    e'.observe (select marks moves) = select marks (e.observe moves) := by
  have all (moves : List EngineMove) {e e' : Engine} (same : e'.Matches e) :
      e'.observe moves = e.observe moves := by
    induction moves generalizing e e' with
    | nil => rfl
    | cons move moves ih => rw [observe, observe, same.sight, ih (same.move move)]
  induction moves generalizing e e' marks with
  | nil =>
    cases marks with
    | nil => rfl
    | cons mark marks => cases mark <;> rfl
  | cons move moves ih =>
    cases marks with
    | nil => exact all _ same
    | cons mark marks =>
      have later (before : List EngineMove) (next : EngineMove) (after : List EngineMove)
          (split : moves = before ++ next :: after) (removed : marks[before.length]? = some false) :=
        spent (move :: before) next after (by rw [split]; rfl) removed
      cases mark with
      | true =>
        rw [select, observe, observe, select, same.sight]
        exact congrArg _ (ih (manned.move move) (same.move move) marks later)
      | false =>
        obtain ⟨c, job, rfl, dropped⟩ := spent [] move moves rfl rfl
        have left : e'.Matches (e.move (.call (.post c job))) :=
          same.trans (manned.matches_post dropped job)
        exact ih (manned.move _) left marks later

/-- **Activations are isolated.** Batches are put away by the last stop of an activation or by the
first start of the next one. Once the batch of an activation has been put away, every request
through a client of it is rejected in all later states, whatever its handler is. Such requests can
be taken out of a run at any places: every other call is answered as before, every snapshot is the
same, and so are the jobs in the slots and what the handlers of the workers make of them. -/
theorem activations_are_isolated (config : Config) (machine : Nat) (moves : List EngineMove) :
    let e := (new config machine).moveAll moves
    (∀ move c, ¬ e.Dropped c → (e.move move).Dropped c → e.Ends move) ∧
    (∀ c, e.Dropped c → ∀ later {W : Type} (at_ : EngineIn W) (w : W),
      at_.get w = e.moveAll later → ∀ handler job, at_.request handler c job w =
        (at_.put ((e.moveAll later).post c job).1 w, .ok (.error (.slotReleased c.slot)))) ∧
    ∀ marks later,
      (∀ before move after, later = before ++ move :: after → marks[before.length]? = some false →
        ∃ c job, move = .call (.post c job) ∧ (e.moveAll before).Dropped c) →
      e.observe (select marks later) = select marks (e.observe later) := by
  intro e
  have manned : e.Manned := (manned_new config machine).moveAll moves
  refine ⟨fun move c kept dropped => ?_, fun c dropped later W at_ w hw handler job => ?_,
    fun marks later spent => manned.observe_select (.refl e) marks later spent⟩
  · rcases e.retired_move move with same | ⟨ends, -⟩
    · rw [Dropped, same] at dropped
      exact absurd dropped kept
    · exact ends
  · have unused := (manned.moveAll later).state_of_dropped (dropped.moveAll later)
    rw [EngineIn.request_of_unused (by rw [hw, unused]) handler job, hw]

/-- A slot that is claimed again in a second activation, and a request through its first client
before one through its second. -/
theorem activations_are_isolated_restarted :
    let h : Handle := ⟨1, by decide, by decide⟩
    let old : Client := ⟨0, h.slot⟩
    let new_ : Client := ⟨1, h.slot⟩
    let job : Job := ⟨h, 5, 0, 0⟩
    let first := (new {} 4).moveAll [.call (.start h)]
    let e := (new {} 4).moveAll [.call (.start h), .call (.stop h), .call (.start h)]
    let later : List EngineMove := [.call (.post new_ job), .call (.finish new_ .success)]
    (¬ first.Dropped old ∧ (first.move (.call (.stop h))).Dropped old ∧
      first.Ends (.call (.stop h))) ∧
    (e.Dropped old ∧ (e.start h).2 = .error (.slotInUse h.slot) ∧
      (EngineIn.request ⟨id, fun e _ => e⟩ (fun _ _ e => (e, .ok .success)) old job e).2 =
        .ok (.error (.slotReleased h.slot))) ∧
    e.observe later = (e.observe (.call (.post old job) :: later)).tail ∧
      (e.observe later).map Sight.answer =
        [.called (.posted (.ok ())), .called (.answered (some .success))] := by
  intro h old new_ job first e later
  have dropped : e.Dropped old := by decide +kernel
  have before : ¬ first.Dropped old := by decide +kernel
  have after : (first.move (.call (.stop h))).Dropped old := by decide +kernel
  have still : e.moveAll [] = e := List.foldl_nil
  obtain ⟨ends, -, -⟩ := activations_are_isolated {} 4 [.call (.start h)]
  obtain ⟨-, rejected, thinned⟩ := activations_are_isolated {} 4
    [.call (.start h), .call (.stop h), .call (.start h)]
  refine ⟨⟨before, after, ends _ old before after⟩, ⟨dropped, by decide +kernel, ?_⟩, ?_, ?_⟩
  · rw [rejected old dropped [] ⟨id, fun e _ => e⟩ e still.symm]
  · refine thinned [false] (.call (.post old job) :: later) fun before move after split removed => ?_
    cases before with
    | nil =>
      cases split
      refine ⟨old, job, rfl, ?_⟩
      rw [still]
      exact dropped
    | cons m before => simp at removed
  · have posted : e.answer (.post new_ job) = .posted (.ok ()) := by decide +kernel
    have answered : (e.perform (.post new_ job)).answer (.finish new_ .success) =
        .answered (some .success) := by decide +kernel
    simp only [later, observe, List.map_cons, List.map_nil, sight, moveAnswer, posted]
    rw [Engine.move, answered]

end Engine

end PluginBridge
