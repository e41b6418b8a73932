import PluginBridge.Proofs.Traffic.Release
import PluginBridge.Traffic.Alone

/-!
# Who writes to a slot

Two parties write to the cells of a slot beside its state: the worker that has called its handler
writes the result, and a client that makes a request writes its job (`step_payload`). The engine
never does. A client writes before it knows whether it will be accepted, so a request that is
rejected leaves its job where the accepted one was, and the handler is called with that one
(`rejected_request_is_called`). As long as no client of the slot writes after a request was
accepted, the worker finds the job of that request (`accepted_payload`).
-/

namespace PluginBridge

/-- A step of a caller writes one cell, or none. -/
theorem CallerPoint.payload_step {s s' : Slot} {p q : CallerPoint} {events : List RequestEvent}
    (hs : p.step s = some (s', q, events)) :
    s'.payload = s.payload ∨ ∃ job cell rest, p = .storing job (cell :: rest) ∧ s' = s.store cell := by
  cases p with
  | between => cases hs
  | storing job rest =>
    cases rest with
    | cons cell rest =>
      cases hs
      exact .inr ⟨job, cell, rest, rfl, rfl⟩
    | nil =>
      left
      by_cases waiting : s.state = .waiting
      · rw [step_posting_of_waiting waiting] at hs
        cases hs
        rfl
      · rw [step_posting_of_ne waiting] at hs
        cases hs
        rfl
  | watching | collecting =>
    cases hs
    exact .inl rfl

/-- A step of a worker writes the result of the slot that it serves, or nothing. -/
theorem WorkerPoint.payload_step {n : Nat} {d e : Dispatch n} {w : Nat} {p q : WorkerPoint n}
    {o : List (ServiceEvent n)} (hs : p.step d w = some (e, q, o)) (i : Fin n) :
    (e.batch.slot i).payload = (d.batch.slot i).payload ∨
      ∃ code pass, p = .serving i (.storing code) pass ∧
        e.batch.slot i = (d.batch.slot i).store (.result code.toInt) := by
  by_cases here : ∃ point pass, p = .serving i point pass
  · obtain ⟨point, pass, rfl⟩ := here
    cases point with
    | reading =>
      cases hs
      exact .inl rfl
    | calling => cases hs
    | storing code =>
      cases hs
      exact .inr ⟨code, pass, rfl, by simp⟩
    | handing =>
      left
      simp only [step] at hs
      by_cases posted : d.batch.state i = .posted
      · rw [Batch.exchange_of_eq _ posted] at hs
        cases hs
        exact Batch.payload_withState _ _ _ i
      · rw [Batch.exchange_of_ne _ posted] at hs
        cases hs
        rfl
    | leaving =>
      left
      simp only [step, Batch.acknowledge_eq] at hs
      by_cases asked : d.batch.state i = .exitAsked
      · rw [if_pos asked] at hs
        cases hs
        exact Batch.payload_withState _ _ _ i
      · rw [if_neg asked] at hs
        cases hs
        rfl
  · left
    have away (point : ServicePoint) (pass : Pass n) : p ≠ .serving i point pass :=
      fun serving => here ⟨point, pass, serving⟩
    rw [(Traffic.step_away away hs).1]

namespace Traffic

variable {κ : Type} [DecidableEq κ] {n : Nat} {slotOf : κ → Fin n} {t u v : Traffic κ n}
  {m : TrafficMove κ n} {ms : List (TrafficMove κ n)} {i : Fin n} {k : κ} {job : Job}

/-- How a move can change what a slot holds beside its state. -/
inductive PayloadChange (slotOf : κ → Fin n) (t u : Traffic κ n) (m : TrafficMove κ n) (i : Fin n) :
    Prop where
  | same (payload : (u.dispatch.batch.slot i).payload = (t.dispatch.batch.slot i).payload)
  /-- A client writes a cell of its job. -/
  | written {k : κ} {job : Job} {cell : Store} {rest : List Store} (move : m = .caller k)
      (slot : slotOf k = i) (point : t.callers k = .storing job (cell :: rest))
      (cells : u.dispatch.batch.slot i = (t.dispatch.batch.slot i).store cell)
  /-- The worker writes the result. -/
  | answered {w : Nat} {code : ResultCode} {pass : Pass n} (move : m = .worker w)
      (point : t.workers w = .serving i (.storing code) pass)
      (cells : u.dispatch.batch.slot i = (t.dispatch.batch.slot i).store (.result code.toInt))

/-- Every move changes what a slot holds in one of these ways. -/
theorem step_payload (hs : t.step slotOf m = some u) (i : Fin n) : PayloadChange slotOf t u m i := by
  cases drives : m.drives with
  | some driven =>
    obtain ⟨j, olds, x⟩ := driven
    rw [step_drives drives] at hs
    split at hs <;> cases hs
    exact .same (Batch.payload_withState _ _ _ i)
  | none =>
  cases m with
  | request | spawn =>
    simp only [step] at hs
    split at hs <;> cases hs
    exact .same rfl
  | caller k =>
    obtain ⟨⟨s, p, events⟩, hp, rfl⟩ := Option.map_eq_some_iff.1 hs
    by_cases slot : slotOf k = i
    · subst slot
      have put : ((t.dispatch.batch.put (slotOf k) s).slot (slotOf k)) = s :=
        Batch.slot_put_self _ _ _
      rcases CallerPoint.payload_step hp with same | ⟨job, cell, rest, point, cells⟩
      · exact .same ((congrArg Slot.payload put).trans same)
      · exact .written rfl rfl point (put.trans cells)
    · refine .same (congrArg Slot.payload ?_)
      exact Batch.slot_put_of_ne _ _ (Ne.symm slot)
  | worker w =>
    obtain ⟨⟨d, p, events⟩, hp, rfl⟩ := Option.map_eq_some_iff.1 hs
    rcases WorkerPoint.payload_step hp i with same | ⟨code, pass, point, cells⟩
    · exact .same same
    · exact .answered rfl point cells
  | answer =>
    obtain ⟨_, _, rfl⟩ := Option.map_eq_some_iff.1 hs
    exact .same rfl
  | mark =>
    cases hs
    exact .same rfl
  | claim | release | askExit | finishExit => cases drives

/-! ## Slots that are served -/

/-- A worker that comes to a slot or goes on at it found the slot posted, or was there before. -/
theorem serving_step {d e : Dispatch n} {w : Nat} {p q : WorkerPoint n} {o : List (ServiceEvent n)}
    {point : ServicePoint} {pass : Pass n} (hs : p.step d w = some (e, q, o))
    (hq : q = .serving i point pass) (ne : point ≠ .leaving) :
    e.batch.state i = d.batch.state i ∧ (d.batch.state i = .posted ∨
      ∃ before, before ≠ .leaving ∧ p = .serving i before pass) := by
  subst hq
  cases p with
  | between | gone => cases hs
  | passing there =>
    obtain ⟨mark, rest⟩ := there
    cases rest with
    | nil => cases hs
    | cons j rest =>
      simp only [WorkerPoint.step] at hs
      split at hs
      · cases state : d.batch.state j with
        | posted =>
          simp only [state, WorkerPoint.look] at hs
          cases hs
          exact ⟨rfl, .inl state⟩
        | exitAsked =>
          simp only [state, WorkerPoint.look] at hs
          split at hs <;> cases hs
          exact absurd rfl ne
        | unused | waiting | exitSeen =>
          simp only [state, WorkerPoint.look] at hs
          cases hs
      · cases hs
  | serving j before there =>
    cases before with
    | reading found =>
      cases hs
      exact ⟨rfl, .inr ⟨_, by simp, rfl⟩⟩
    | calling => cases hs
    | storing code =>
      cases hs
      exact ⟨by simp [Batch.state], .inr ⟨_, by simp, rfl⟩⟩
    | handing | leaving =>
      simp only [WorkerPoint.step] at hs
      split at hs <;> cases hs

/-- Every worker keeps to its slots, and the slot that it serves is posted. -/
structure Engaged (t : Traffic κ n) : Prop where
  within : ∀ w, (t.workers w).Within t.dispatch w
  posted : ∀ w i point pass, t.workers w = .serving i point pass → point ≠ .leaving →
    t.dispatch.batch.state i = .posted

omit [DecidableEq κ] in
theorem engaged_quiet (d : Dispatch n) : (quiet d : Traffic κ n).Engaged where
  within _ := trivial
  posted _ _ _ _ serving := by cases serving

/-- Whether or not each slot has one client, only its worker takes a posted slot back. -/
theorem Engaged.step (h : t.Engaged) (hires : m.Hires t) (hs : t.step slotOf m = some u) :
    u.Engaged := by
  refine ⟨within_of_step h.within hires hs, fun w i point pass serving ne => ?_⟩
  cases step_worker hs w with
  | same other same =>
    rw [same] at serving
    have change := step_state hs i
    rw [h.posted w i point pass serving ne] at change
    generalize u.dispatch.batch.state i = y at change ⊢
    cases change with
    | same => rfl
    | @served v there move handing =>
      -- The worker that hands the slot back is its owner, and so is the one that serves it.
      have mine := owner_of_within (serving ▸ h.within w)
      have theirs := owner_of_within (handing ▸ h.within v)
      simp [move, TrafficMove.byWorker, ← mine, theirs] at other
    | driven drives old => exact absurd old (TrafficMove.drives_not_posted drives).1
  | stepped _ step =>
    obtain ⟨same, posted | ⟨before, stays, was⟩⟩ := serving_step step serving ne
    · rw [same, posted]
    · rw [same, h.posted w i before pass was stays]
  | answered _ dispatch answer =>
    rw [serving] at answer
    unfold WorkerPoint.answer at answer
    split at answer
    · next calling =>
      cases answer
      rw [dispatch]
      exact h.posted w _ _ _ calling (by simp)
    · cases answer
  | spawned _ _ between =>
    rw [between] at serving
    cases serving

/-! ## The job that a worker finds -/

end Traffic

/-- What a worker has of a job at some point is right. -/
def ServicePoint.Agrees (job : Job) : ServicePoint → Prop
  | .reading found => found.Agrees job
  | .calling called => called = job
  | .storing _ | .handing | .leaving => True

/-- A client of a slot writes a cell of its job. -/
def TrafficMove.Writes {κ : Type} {n : Nat} (slotOf : κ → Fin n) (i : Fin n) (t : Traffic κ n)
    (m : TrafficMove κ n) : Prop :=
  ∃ k job cell rest, m = .caller k ∧ slotOf k = i ∧ t.callers k = .storing job (cell :: rest)

namespace Slot.Carries

variable {s s' : Slot} {job : Job}

/-- Neither the state nor the result of a slot belongs to the job that it carries. -/
theorem congr (h : s.Carries job) (same : s'.payload = s.payload) : s'.Carries job :=
  ⟨(congrArg Slot.handle same).trans h.handle, (congrArg Slot.event same).trans h.event,
    (congrArg Slot.count same).trans h.count, (congrArg Slot.fields same).trans h.fields⟩

theorem storeResult (h : s.Carries job) (result : Int) : (s.store (.result result)).Carries job :=
  ⟨h.handle, h.event, h.count, h.fields⟩

end Slot.Carries

namespace Traffic

variable {κ : Type} [DecidableEq κ] {n : Nat} {slotOf : κ → Fin n} {t u v : Traffic κ n}
  {m : TrafficMove κ n} {ms : List (TrafficMove κ n)} {i : Fin n} {k : κ} {job : Job}

/-- A worker that finds a job in a slot goes on with that job, and calls its handler with it. -/
theorem agrees_step {d e : Dispatch n} {w : Nat} {p q : WorkerPoint n} {o : List (ServiceEvent n)}
    (hs : p.step d w = some (e, q, o)) (carries : (d.batch.slot i).Carries job)
    (agrees : ∀ point pass, p = .serving i point pass → point.Agrees job) :
    (∀ point pass, q = .serving i point pass → point.Agrees job) ∧
      ∀ found, .called i found ∈ o → found = job := by
  by_cases here : ∃ point pass, p = .serving i point pass
  · obtain ⟨point, pass, rfl⟩ := here
    have now := agrees point pass rfl
    cases point with
    | reading found =>
      cases hs
      rcases carries.read now with ⟨next, read, later⟩ | read
      · rw [read]
        refine ⟨fun point pass same => ?_, by simp [WorkerPoint.calls]⟩
        cases same
        exact later
      · rw [read]
        refine ⟨fun point pass same => ?_, by simp [WorkerPoint.calls]⟩
        cases same
        rfl
    | calling => cases hs
    | storing code =>
      cases hs
      refine ⟨fun point pass same => ?_, by simp⟩
      cases same
      trivial
    | handing | leaving =>
      simp only [WorkerPoint.step] at hs
      split at hs <;> cases hs <;> exact ⟨fun point pass same => (by cases same), by simp⟩
  · have away (point : ServicePoint) (pass : Pass n) : p ≠ .serving i point pass :=
      fun serving => here ⟨point, pass, serving⟩
    obtain ⟨-, others, service⟩ := step_away away hs
    refine ⟨fun point pass serving => ?_, fun found mem => ?_⟩
    · subst serving
      by_cases leaving : point = .leaving
      · subst leaving
        trivial
      · rw [serviceAt_serving_self leaving] at service
        rcases service with none | ⟨reading, -⟩
        · cases none
        · cases reading
          trivial
    · obtain ⟨j, called, same, ne⟩ := others _ mem
      cases same
      exact absurd rfl ne

/-- A call of a handler is a step of the worker that calls it. -/
theorem step_calls (hs : t.step slotOf m = some u) :
    ∃ events, u.history = t.history ++ events ∧ ∀ w i found,
      .service w (.called i found) ∈ events → ∃ o, .called i found ∈ o ∧
        (t.workers w).step t.dispatch w = some (u.dispatch, u.workers w, o) := by
  cases drives : m.drives with
  | some driven =>
    rw [step_drives drives] at hs
    split at hs <;> cases hs
    exact ⟨[], (List.append_nil _).symm, by simp⟩
  | none =>
  cases m with
  | request | spawn =>
    simp only [step] at hs
    split at hs <;> cases hs
    exact ⟨[], (List.append_nil _).symm, by simp⟩
  | caller j =>
    obtain ⟨⟨s, p, events⟩, hp, rfl⟩ := Option.map_eq_some_iff.1 hs
    exact ⟨events.map (.request j), rfl, by simp⟩
  | worker v =>
    obtain ⟨⟨d, p, o⟩, hp, rfl⟩ := Option.map_eq_some_iff.1 hs
    refine ⟨o.map (.service v), rfl, fun w i found mem => ?_⟩
    obtain ⟨event, called, same⟩ := List.mem_map.1 mem
    cases same
    exact ⟨o, called, by simpa [record, putWorker] using hp⟩
  | answer v reply =>
    obtain ⟨⟨p, o⟩, hp, rfl⟩ := Option.map_eq_some_iff.1 hs
    refine ⟨o.map (.service v), rfl, fun w i found mem => ?_⟩
    obtain ⟨event, called, same⟩ := List.mem_map.1 mem
    cases same
    unfold WorkerPoint.answer at hp
    split at hp <;> cases hp
    simp at called
  | mark =>
    cases hs
    exact ⟨[], (List.append_nil _).symm, by simp⟩
  | claim | release | askExit | finishExit => cases drives

/-- A slot holds a job, and whoever serves it works on that job. -/
structure Holding (i : Fin n) (job : Job) (t : Traffic κ n) : Prop where
  carries : (t.dispatch.batch.slot i).Carries job
  agrees : ∀ w point pass, t.workers w = .serving i point pass → point.Agrees job

/-- A slot holds its job until a client writes to it, and every call for the slot is with that
job. -/
theorem Holding.step (h : t.Holding i job) (silent : ¬ m.Writes slotOf i t)
    (hs : t.step slotOf m = some u) :
    u.Holding i job ∧ ∃ events, u.history = t.history ++ events ∧
      ∀ w found, .service w (.called i found) ∈ events → found = job := by
  have carries : (u.dispatch.batch.slot i).Carries job := by
    cases step_payload hs i with
    | same payload => exact h.carries.congr payload
    | written move slot point => exact absurd ⟨_, _, _, _, move, slot, point⟩ silent
    | answered _ _ cells =>
      rw [cells]
      exact h.carries.storeResult _
  obtain ⟨events, history, calls⟩ := step_calls hs
  refine ⟨⟨carries, fun w point pass serving => ?_⟩, events, history, fun w found mem => ?_⟩
  · cases step_worker hs w with
    | same _ same => exact h.agrees w point pass (same ▸ serving)
    | stepped _ step => exact (agrees_step step h.carries (h.agrees w)).1 point pass serving
    | answered _ _ answer =>
      rw [serving] at answer
      unfold WorkerPoint.answer at answer
      split at answer <;> cases answer
      trivial
    | spawned _ _ between =>
      rw [between] at serving
      cases serving
  · obtain ⟨o, called, step⟩ := calls w i found mem
    exact (agrees_step step h.carries (h.agrees w)).2 found called

/-- What holds of the slot after one move holds after a run. -/
theorem Holding.run (h : t.Holding i job)
    (run : Run slotOf (fun t m => ¬ m.Writes slotOf i t) t ms u) :
    u.Holding i job ∧ ∃ events, u.history = t.history ++ events ∧
      ∀ w found, .service w (.called i found) ∈ events → found = job := by
  induction run with
  | nil => exact ⟨h, [], (List.append_nil _).symm, by simp⟩
  | cons silent hs _ ih =>
    obtain ⟨next, events, history, calls⟩ := h.step silent hs
    obtain ⟨last, later, history', calls'⟩ := ih next
    refine ⟨last, events ++ later, by rw [history', history, List.append_assoc], ?_⟩
    intro w found mem
    rcases List.mem_append.1 mem with new | newer
    · exact calls w found new
    · exact calls' w found newer

/-- A request that finds its slot waiting with its job in it is accepted, and the slot holds the
job. -/
theorem Engaged.accept (h : t.Engaged) (point : t.callers k = .storing job [])
    (carries : (t.dispatch.batch.slot (slotOf k)).Carries job)
    (waiting : t.dispatch.batch.state (slotOf k) = .waiting)
    (hs : t.step slotOf (.caller k) = some u) :
    u.dispatch.batch.state (slotOf k) = .posted ∧ u.Holding (slotOf k) job := by
  have slot : (t.dispatch.batch.slot (slotOf k)).state = .waiting := waiting
  simp only [Traffic.step, point, CallerPoint.step_posting_of_waiting slot, Option.map_some,
    Option.some.injEq] at hs
  have here : u.dispatch.batch.slot (slotOf k) =
      (t.dispatch.batch.slot (slotOf k)).withState .posted := by
    rw [← hs]
    exact Batch.slot_put_self _ _ _
  have workers : u.workers = t.workers := by rw [← hs]; rfl
  refine ⟨congrArg Slot.state here, ?_, fun w point pass serving => ?_⟩
  · rw [here]
    exact carries.withState
  · -- Nobody serves a slot that is waiting.
    by_cases leaving : point = .leaving
    · subst leaving
      trivial
    · rw [workers] at serving
      have posted := h.posted w (slotOf k) point pass serving leaving
      rw [waiting] at posted
      cases posted

/-- **The job of an accepted request.** Any number of clients may have the same slot, and everybody
takes turns in any order.

Whatever is done, what a slot holds beside its state changes only when a client of the slot that
makes a request writes a cell of its job, or when the worker writes the result.

A request that finds its slot not waiting is rejected, and leaves the slot with its own job and a
failure in it; the state is as it was, and so are the other slots.

A request that finds its slot waiting and its job there is accepted, and until a client of the slot
writes again the slot keeps the job, and every call for the slot is with that job. -/
theorem accepted_payload (slotOf : κ → Fin n) (d : Dispatch n) {t : Traffic κ n}
    {ms : List (TrafficMove κ n)} (run : Run slotOf (fun t m => m.Hires t) (quiet d) ms t) :
    (∀ m u i, t.step slotOf m = some u → PayloadChange slotOf t u m i) ∧
    (∀ k job, t.callers k = .between → t.dispatch.batch.state (slotOf k) ≠ .waiting →
      ∃ u, t.run slotOf (.request k job ::
          (List.replicate (Slot.jobStores job).length (.caller k) ++ [.caller k])) = some u ∧
        u.history = t.history ++
          [.request k (.rejected job (t.dispatch.batch.state (slotOf k)))] ∧
        u.dispatch.batch = t.dispatch.batch.put (slotOf k)
          ((t.dispatch.batch.slot (slotOf k)).storeJob job)) ∧
    ∀ k job u, t.callers k = .storing job [] →
      (t.dispatch.batch.slot (slotOf k)).Carries job →
      t.dispatch.batch.state (slotOf k) = .waiting → t.step slotOf (.caller k) = some u →
      u.dispatch.batch.state (slotOf k) = .posted ∧
      ∀ ns v, Run slotOf (fun t m => ¬ m.Writes slotOf (slotOf k) t) u ns v →
        (v.dispatch.batch.slot (slotOf k)).Carries job ∧
        ∃ events, v.history = u.history ++ events ∧
          ∀ w found, .service w (.called (slotOf k) found) ∈ events → found = job := by
  have engaged : t.Engaged := run.keeps (fun h hires hs => h.step hires hs) (engaged_quiet d)
  refine ⟨fun m u i hs => step_payload hs i, fun k job between busy => ?_,
    fun k job u point carries waiting hs => ?_⟩
  · refine ⟨_, run_post slotOf k job t between, ?_, ?_⟩
    · rw [afterPost_of_ne slotOf t k job busy]
      rfl
    · rw [afterPost_of_ne slotOf t k job busy]
      rfl
  · obtain ⟨posted, holding⟩ := engaged.accept point carries waiting hs
    refine ⟨posted, fun ns v run => ?_⟩
    obtain ⟨later, calls⟩ := holding.run run
    exact ⟨later.carries, calls⟩

/-- One waiting slot with its worker. -/
def lone : Dispatch 1 := successive.dispatch

/-- A client posts its job undisturbed, and the handler is called with it. -/
theorem accepted_payload_lone : ∃ (t u v : Traffic (Fin 2) 1),
    (quiet lone).run (fun _ => 0)
      (.spawn 0 :: .request 0 (errand 5) :: List.replicate 5 (.caller 0)) = some t ∧
    t.step (fun _ => 0) (.caller 0) = some u ∧ u.dispatch.batch.state 0 = .posted ∧
    u.run (fun _ => 0) (service .success) = some v ∧
    .service 0 (.called 0 (errand 5)) ∈ v.history ∧
    (v.dispatch.batch.slot 0).Carries (errand 5) := by
  obtain ⟨t, u, v, written, point, waiting, accepted, served, called⟩ : ∃ (t u v : Traffic (Fin 2) 1),
      (quiet lone).run (fun _ => 0)
        (.spawn 0 :: .request 0 (errand 5) :: List.replicate 5 (.caller 0)) = some t ∧
      t.callers 0 = .storing (errand 5) [] ∧ t.dispatch.batch.slot 0 =
        { (t.dispatch.batch.slot 0).storeJob (errand 5) with state := .waiting } ∧
      t.step (fun _ => 0) (.caller 0) = some u ∧ u.run (fun _ => 0) (service .success) = some v ∧
      .service 0 (.called 0 (errand 5)) ∈ v.history :=
    ⟨_, _, _, rfl, rfl, rfl, rfl, rfl, by decide⟩
  have run : Run (fun _ => 0) (fun t m => m.Hires t) (quiet lone)
      (.spawn 0 :: .request 0 (errand 5) :: List.replicate 5 (.caller 0)) t := by
    obtain ⟨started, spawn, rest⟩ := Option.bind_eq_some_iff.1 written
    exact .cons Nat.one_pos spawn (.of_run (by simp [TrafficMove.Hires, List.replicate]) rest)
  have carries : (t.dispatch.batch.slot 0).Carries (errand 5) := by
    rw [waiting]
    exact ⟨rfl, rfl, rfl, rfl⟩
  obtain ⟨-, -, accept⟩ := accepted_payload (fun _ => 0) lone run
  obtain ⟨posted, later⟩ := accept 0 (errand 5) u point carries (by rw [Batch.state, waiting]) accepted
  have silent (t : Traffic (Fin 2) 1) : ∀ m ∈ service .success, ¬ m.Writes (fun _ => 0) 0 t := by
    simp [service, TrafficMove.Writes, List.replicate]
  exact ⟨t, u, v, written, accepted, posted, served, called, (later _ v (.of_run silent served)).1⟩

/-- Two clients have the same slot. The request of the first one is accepted and that of the second
one rejected, and the handler is called with the job that was rejected. -/
theorem rejected_request_is_called : ∃ u v,
    successive.run (fun _ => 0) (posting 0 5 ++ posting 1 6) = some u ∧
    u.history = [.request 0 (.accepted (errand 5)), .request 1 (.rejected (errand 6) .posted)] ∧
    u.dispatch.batch.state 0 = .posted ∧ u.dispatch.batch.job? 0 = some (errand 6) ∧
    u.run (fun _ => 0) (service .success) = some v ∧
    v.history = u.history ++ [.service 0 (.called 0 (errand 6)),
      .service 0 (.answered 0 (errand 6) (.code .success))] :=
  ⟨_, _, rfl, by decide, by decide, by decide, rfl, by decide⟩

end Traffic

end PluginBridge
