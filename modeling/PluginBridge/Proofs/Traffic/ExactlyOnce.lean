import PluginBridge.Proofs.Traffic.Patience

/-!
# Exactly once

However the moves of clients, workers and the engine fall together, what happens to the requests of
a client is a beginning of whole rounds, one after the other: each request that is accepted is
called once with its own job, and returns what this one call answered (`exactly_once`). Nor does a
request get lost: it is answered once its worker has moved often enough, and returned once its
client has moved twice more.

The second half counts. `Served` says that so many requests of a client have been handed back; a
client that stands between its requests has collected all of them.
-/

namespace PluginBridge

/-- The acceptance of a request. -/
def RoundEvent.isAccepted : RoundEvent → Bool
  | .accepted _ => true
  | _ => false

/-- The answer of a handler. -/
def RoundEvent.isAnswered : RoundEvent → Bool
  | .answered _ _ => true
  | _ => false

/-- The return of a request. -/
def RoundEvent.isReturned : RoundEvent → Bool
  | .returned _ _ => true
  | _ => false

namespace CallerPoint

/-- The steps of a caller that are left once its slot is handed back. -/
def left : CallerPoint → Nat
  | .watching _ => 2
  | _ => 1

theorem left_pos (p : CallerPoint) : 0 < p.left := by
  cases p <;> simp [left]

theorem left_le (p : CallerPoint) : p.left ≤ 2 := by
  cases p <;> simp [left]

end CallerPoint

namespace RoundStage

variable {s : Slot} {p : CallerPoint} {v : Option ServicePoint} {es : List RoundEvent}

/-- What has happened in a round so far is the beginning of a whole round. -/
theorem begins (h : RoundStage s p v es) :
    ∃ rounds : List Round, es <+: rounds.flatMap Round.events := by
  cases h with
  | idle | storing => exact ⟨[], List.nil_prefix⟩
  | @posted job | @reading job | @calling job => exact ⟨[⟨job, .panicked⟩], _, rfl⟩
  | @answered job reply | @stored job reply | @served job reply | @seen job reply =>
    exact ⟨[⟨job, reply⟩], _, rfl⟩

/-- At a slot that is not posted, what was accepted is answered. -/
theorem answered_of_free (h : RoundStage s p v es) (free : s.state ≠ .posted) :
    es.countP RoundEvent.isAnswered = es.countP RoundEvent.isAccepted := by
  cases h with
  | idle | storing | served | seen => rfl
  | posted posted | reading posted | calling posted | answered posted | stored posted =>
    exact absurd posted free

/-- While a job is posted, one request has not returned. -/
theorem accepted_of_posted (h : RoundStage s p v es) (posted : s.state = .posted) :
    es.countP RoundEvent.isAccepted = es.countP RoundEvent.isReturned + 1 := by
  cases h with
  | posted | reading | calling | answered | stored => rfl
  | idle free | storing free | served free | seen free => exact absurd posted free

/-- A caller that is not waiting for a request has none that has not returned. -/
theorem accepted_of_idle (h : RoundStage s p v es) (watching : ∀ job, p ≠ .watching job)
    (collecting : ∀ job, p ≠ .collecting job) :
    es.countP RoundEvent.isAccepted = es.countP RoundEvent.isReturned := by
  cases h with
  | idle | storing => rfl
  | posted | reading | calling | answered | stored | served => exact absurd rfl (watching _)
  | seen => exact absurd rfl (collecting _)

theorem returned_le (h : RoundStage s p v es) :
    es.countP RoundEvent.isReturned ≤ es.countP RoundEvent.isAnswered := by
  cases h <;> simp [RoundEvent.isAnswered, RoundEvent.isReturned]

end RoundStage

namespace Traffic

variable {κ : Type} [DecidableEq κ] {n : Nat}

/-- How many requests of a caller were accepted. -/
def accepted (slotOf : κ → Fin n) (k : κ) (t : Traffic κ n) : Nat :=
  (t.roundsOf slotOf k).countP RoundEvent.isAccepted

/-- How many requests of a caller were answered. -/
def answered (slotOf : κ → Fin n) (k : κ) (t : Traffic κ n) : Nat :=
  (t.roundsOf slotOf k).countP RoundEvent.isAnswered

/-- How many requests of a caller have returned. -/
def returned (slotOf : κ → Fin n) (k : κ) (t : Traffic κ n) : Nat :=
  (t.roundsOf slotOf k).countP RoundEvent.isReturned

variable {slotOf : κ → Fin n} {t u v x : Traffic κ n} {m : TrafficMove κ n}
  {ms ns ls : List (TrafficMove κ n)} {k : κ} {a : Nat}

/-! ## Counting rounds -/

/-- A kind of event that each round has once is found once for each whole round. -/
theorem countP_rounds {p : RoundEvent → Bool} (once : ∀ r : Round, r.events.countP p = 1)
    (rounds : List Round) : (rounds.flatMap Round.events).countP p = rounds.length := by
  induction rounds with
  | nil => rfl
  | cons r rest ih =>
    rw [List.flatMap_cons, List.countP_append, once, ih, List.length_cons, Nat.add_comm]

/-- The counts of a caller, from the stage that its current round is in. -/
theorem InRound.counts (h : t.InRound slotOf k) : ∃ (whole : Nat) (current : List RoundEvent),
    RoundStage (t.dispatch.batch.slot (slotOf k)) (t.callers k) (t.serviceAt (slotOf k)) current ∧
    t.accepted slotOf k = whole + current.countP RoundEvent.isAccepted ∧
    t.answered slotOf k = whole + current.countP RoundEvent.isAnswered ∧
    t.returned slotOf k = whole + current.countP RoundEvent.isReturned := by
  obtain ⟨whole, current, hist, stage⟩ := h
  refine ⟨whole.length, current, stage, ?_, ?_, ?_⟩
  · rw [accepted, hist, List.countP_append, countP_rounds fun _ => rfl]
  · rw [answered, hist, List.countP_append, countP_rounds fun _ => rfl]
  · rw [returned, hist, List.countP_append, countP_rounds fun _ => rfl]

/-- What has happened in the rounds of a caller is the beginning of whole rounds. -/
theorem InRound.begins (h : t.InRound slotOf k) :
    ∃ rounds : List Round, t.roundsOf slotOf k <+: rounds.flatMap Round.events := by
  obtain ⟨whole, current, hist, stage⟩ := h
  obtain ⟨rounds, begins⟩ := stage.begins
  refine ⟨whole ++ rounds, ?_⟩
  rw [hist, List.flatMap_append]
  exact (List.prefix_append_right_inj _).2 begins

/-- Once a slot is not posted, all that was accepted there is answered. -/
theorem InRound.answered_of_free (h : t.InRound slotOf k)
    (free : t.dispatch.batch.state (slotOf k) ≠ .posted) :
    t.answered slotOf k = t.accepted slotOf k := by
  obtain ⟨whole, current, stage, accepted, answered, -⟩ := h.counts
  rw [accepted, answered, stage.answered_of_free free]

/-- While a job is posted, one request has not returned. -/
theorem InRound.accepted_of_posted (h : t.InRound slotOf k)
    (posted : t.dispatch.batch.state (slotOf k) = .posted) :
    t.accepted slotOf k = t.returned slotOf k + 1 := by
  obtain ⟨whole, current, stage, accepted, -, returned⟩ := h.counts
  rw [accepted, returned, stage.accepted_of_posted posted, Nat.add_assoc]

/-- All requests of a caller have returned that is not waiting for one. -/
theorem InRound.accepted_of_idle (h : t.InRound slotOf k)
    (watching : ∀ job, t.callers k ≠ .watching job)
    (collecting : ∀ job, t.callers k ≠ .collecting job) :
    t.accepted slotOf k = t.returned slotOf k := by
  obtain ⟨whole, current, stage, accepted, -, returned⟩ := h.counts
  rw [accepted, returned, stage.accepted_of_idle watching collecting]

theorem InRound.returned_le (h : t.InRound slotOf k) : t.returned slotOf k ≤ t.answered slotOf k := by
  obtain ⟨whole, current, stage, -, answered, returned⟩ := h.counts
  have := stage.returned_le
  omega

theorem roundsOf_step (hs : t.step slotOf m = some u) : t.roundsOf slotOf k <+: u.roundsOf slotOf k :=
  (step_history hs).filterMap _

theorem accepted_step (hs : t.step slotOf m = some u) : t.accepted slotOf k ≤ u.accepted slotOf k :=
  (roundsOf_step hs).sublist.countP_le

theorem returned_step (hs : t.step slotOf m = some u) : t.returned slotOf k ≤ u.returned slotOf k :=
  (roundsOf_step hs).sublist.countP_le

/-! ## Served and collected -/

/-- So many requests of a caller were accepted, and the slot has been handed back after them. -/
def Served (slotOf : κ → Fin n) (k : κ) (a : Nat) (t : Traffic κ n) : Prop :=
  a ≤ t.accepted slotOf k ∧
    (t.dispatch.batch.state (slotOf k) = .posted → a < t.accepted slotOf k)

theorem Served.answered (h : t.Served slotOf k a) (at_ : t.InRound slotOf k) :
    a ≤ t.answered slotOf k := by
  by_cases posted : t.dispatch.batch.state (slotOf k) = .posted
  · have less := h.2 posted
    have open_ := at_.accepted_of_posted posted
    have := at_.returned_le
    omega
  · rw [at_.answered_of_free posted]
    exact h.1

/-- A slot that has been handed back is posted again only with the next request. -/
theorem Served.step (alone : Function.Injective slotOf) (tended : t.Tended slotOf)
    (ok : m.Considerate slotOf t) (h : t.Served slotOf k a) (hs : t.step slotOf m = some u) :
    u.Served slotOf k a := by
  have more := accepted_step (k := k) hs
  refine ⟨Nat.le_trans h.1 more, fun posted => ?_⟩
  have change := step_state hs (slotOf k)
  rw [posted] at change
  generalize old : t.dispatch.batch.state (slotOf k) = y at change
  cases change with
  | same => exact Nat.lt_of_lt_of_le (h.2 old) more
  | posted move slot point =>
    rw [alone slot] at point
    have before := (tended.sound.inRound k).accepted_of_idle (by simp [point]) (by simp [point])
    have after := ((tended.step alone ok hs).sound.inRound k).accepted_of_posted posted
    have later := returned_step (k := k) hs
    have enough := h.1
    omega
  | driven drives => exact absurd rfl (TrafficMove.drives_not_posted drives).2

/-- Once the worker of a client has moved often enough, all that the client had in flight has been
handed back. -/
theorem Tended.served (alone : Function.Injective slotOf) (h : t.Tended slotOf)
    (run : Run slotOf (fun t m => m.Considerate slotOf t) t ms u)
    (enough : WorkerPoint.patience n ≤ ms.countP (TrafficMove.byWorker (t.dispatch.owner (slotOf k)))) :
    u.Tended slotOf ∧ u.Served slotOf k (t.accepted slotOf k) := by
  refine run.reaches
    (fun v => v.Tended slotOf ∧ t.accepted slotOf k ≤ v.accepted slotOf k ∧
      v.dispatch.owner (slotOf k) = t.dispatch.owner (slotOf k))
    (fun v => v.Tended slotOf ∧ v.Served slotOf k (t.accepted slotOf k))
    (fun v => v.left (slotOf k)) (fun _ => WorkerPoint.left_pos _ _ _) ?_
    (fun ⟨tended, served⟩ ok hs => ⟨tended.step alone ok hs, served.step alone tended ok hs⟩)
    ⟨h, Nat.le_refl _, rfl⟩ (Nat.le_trans (WorkerPoint.left_le (h.sound.within _) _) enough)
  intro v x m ⟨tended, reached, owner⟩ ok hs
  have next := tended.step alone ok hs
  have more := Nat.le_trans reached (accepted_step (k := k) hs)
  by_cases after : x.dispatch.batch.state (slotOf k) = .posted
  · by_cases before : v.dispatch.batch.state (slotOf k) = .posted
    · refine .inr ⟨⟨next, more, (owner_congr (workers_step hs)).trans owner⟩, ?_⟩
      rw [← owner]
      exact tended.left_step hs before after
    · have served : v.Served slotOf k (t.accepted slotOf k) :=
        ⟨reached, fun posted => absurd posted before⟩
      exact .inl ⟨next, served.step alone tended ok hs⟩
  · exact .inl ⟨next, more, fun posted => absurd posted after⟩

/-- Once all is handed back, each step of a client brings it nearer to having collected it. -/
theorem Served.left_step (alone : Function.Injective slotOf) (tended : t.Tended slotOf)
    (ok : m.Considerate slotOf t) (h : t.Served slotOf k a) (hs : t.step slotOf m = some u) :
    a ≤ u.returned slotOf k ∨
      (u.callers k).left + (m.byCaller k).toNat ≤ (t.callers k).left := by
  have later := returned_step (k := k) hs
  have enough := h.1
  cases step_caller hs k with
  | same other point => simp [other, point]
  | began move between point =>
    simp [move, between, point, TrafficMove.byCaller, CallerPoint.start, CallerPoint.left]
  | stepped move step =>
    subst move
    have round := tended.sound.inRound k
    cases point : t.callers k with
    | between | storing =>
      have := round.accepted_of_idle (by simp [point]) (by simp [point])
      omega
    | watching job =>
      by_cases posted : t.dispatch.batch.state (slotOf k) = .posted
      · have := round.accepted_of_posted posted
        have := h.2 posted
        omega
      · have waiting : (t.dispatch.batch.slot (slotOf k)).state = .waiting :=
          (tended.claimed k).resolve_right posted
        rw [point] at step
        simp only [CallerPoint.step, Option.some.injEq, Prod.mk.injEq] at step
        rw [← step.2.1, if_pos waiting]
        simp [TrafficMove.byCaller, CallerPoint.left]
    | collecting job =>
      rw [point] at step
      simp only [CallerPoint.step, Option.some.injEq, Prod.mk.injEq] at step
      have next := (tended.step alone ok hs).sound.inRound k
      have := next.accepted_of_idle (by simp [← step.2.1]) (by simp [← step.2.1])
      have := accepted_step (k := k) hs
      omega

/-- A client that makes two more steps, once all is handed back, has collected it. -/
theorem Served.collected (alone : Function.Injective slotOf) (tended : t.Tended slotOf)
    (h : t.Served slotOf k a) (run : Run slotOf (fun t m => m.Considerate slotOf t) t ms u)
    (enough : 2 ≤ ms.countP (TrafficMove.byCaller k)) : a ≤ u.returned slotOf k := by
  refine run.reaches (fun v => v.Tended slotOf ∧ v.Served slotOf k a)
    (fun v => a ≤ v.returned slotOf k) (fun v => (v.callers k).left)
    (fun _ => CallerPoint.left_pos _) ?_ (fun done _ hs => Nat.le_trans done (returned_step hs))
    ⟨tended, h⟩ (Nat.le_trans (CallerPoint.left_le _) enough)
  intro v x m ⟨tended, served⟩ ok hs
  rcases served.left_step alone tended ok hs with done | less
  · exact .inl done
  · exact .inr ⟨⟨tended.step alone ok hs, served.step alone tended ok hs⟩, less⟩

/-- **Exactly once.** From an opening and through considerate moves in any order, what happens to
the requests of a client is a beginning of whole rounds, and none is rejected. All that were
accepted are answered once the client's worker has made `patience n` moves more, and have returned
once the client has made another two. -/
theorem exactly_once (opening : t.Opening slotOf)
    (run : Run slotOf (fun t m => m.Considerate slotOf t) t ms u) (k : κ) :
    (∃ rounds : List Round, u.roundsOf slotOf k <+: rounds.flatMap Round.events) ∧
    (∀ job found, .request k (.rejected job found) ∉ u.history) ∧
    ∀ ns v, Run slotOf (fun t m => m.Considerate slotOf t) u ns v →
      WorkerPoint.patience n ≤ ns.countP (TrafficMove.byWorker (u.dispatch.owner (slotOf k))) →
      u.accepted slotOf k ≤ v.answered slotOf k ∧
      ∀ ls x, Run slotOf (fun t m => m.Considerate slotOf t) v ls x →
        2 ≤ ls.countP (TrafficMove.byCaller k) → u.accepted slotOf k ≤ x.returned slotOf k := by
  have alone := opening.alone
  have tended := run.keeps (fun tended ok hs => tended.step alone ok hs) opening.tended
  refine ⟨(tended.sound.inRound k).begins, tended.accepted k, fun ns v run enough => ?_⟩
  obtain ⟨tended, served⟩ := tended.served alone run enough
  exact ⟨served.answered (tended.sound.inRound k),
    fun ls x run enough => served.collected alone tended run enough⟩

/-- Two clients that share one worker. -/
def pair : Traffic (Fin 2) 2 where
  dispatch := ⟨⟨#v[{ state := .waiting }, { state := .waiting }]⟩, 2, 1⟩
  callers _ := .between
  workers w := if w = 0 then .between else .gone

/-- Both clients post a job at once. -/
def pairPosts : List (TrafficMove (Fin 2) 2) :=
  let job (event : Nat) : Job := ⟨⟨7, by decide, by decide⟩, event, 0, 0⟩
  [.request 0 (job 5), .request 1 (job 6)] ++ (List.replicate 6 [.caller 1, .caller 0]).flatten

/-- The worker serves both jobs, and goes on with passes that find nothing. -/
def pairService : List (TrafficMove (Fin 2) 2) :=
  List.replicate 6 (.worker 0) ++ [.answer 0 (.code .success)] ++ List.replicate 7 (.worker 0) ++
    [.answer 0 .panicked] ++ List.replicate 34 (.worker 0)

theorem pair_opening : pair.Opening id where
  alone _ _ h := h
  callers _ := rfl
  workers w := by
    by_cases hw : w = 0
    · exact .inr ⟨by simp [pair, hw], by simp [pair, hw]⟩
    · exact .inl (by simp [pair, hw])
  states := by decide
  claimed := by decide
  below := by decide
  history := rfl

theorem pair_considerate (t : Traffic (Fin 2) 2) :
    ∀ m ∈ pairPosts ++ pairService ++ [.caller 1, .caller 1], m.Considerate id t := by
  simp [pairPosts, pairService, TrafficMove.Considerate, List.replicate]

/-- What the second client posts is answered and returned, though the first one is served before
it. -/
theorem exactly_once_pair : ∃ u v x, pair.run id pairPosts = some u ∧ u.run id pairService = some v ∧
    v.run id [.caller 1, .caller 1] = some x ∧ u.accepted id 1 = 1 ∧ u.answered id 1 = 0 ∧
    (∃ rounds : List Round, u.roundsOf id 1 <+: rounds.flatMap Round.events) ∧
    u.accepted id 1 ≤ v.answered id 1 ∧ u.accepted id 1 ≤ x.returned id 1 := by
  obtain ⟨u, v, x, hu, hv, hx, accepted, answered, owner⟩ : ∃ u v x,
      pair.run id pairPosts = some u ∧ u.run id pairService = some v ∧
      v.run id [.caller 1, .caller 1] = some x ∧ u.accepted id 1 = 1 ∧ u.answered id 1 = 0 ∧
      u.dispatch.owner 1 = 0 :=
    ⟨_, _, _, rfl, rfl, rfl, by decide, by decide, by decide⟩
  have ok := pair_considerate
  simp only [List.mem_append] at ok
  obtain ⟨begins, -, progress⟩ := exactly_once pair_opening
    (.of_run (fun t m hm => ok t m (.inl (.inl hm))) hu) 1
  obtain ⟨answers, returns⟩ := progress pairService v
    (.of_run (fun t m hm => ok t m (.inl (.inr hm))) hv) (by rw [id, owner]; decide)
  exact ⟨u, v, x, hu, hv, hx, accepted, answered, begins, answers,
    returns _ x (.of_run (fun t m hm => ok t m (.inr hm)) hx) (by decide)⟩

end Traffic

end PluginBridge
