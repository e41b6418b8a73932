import PluginBridge.Dispatch.Pool
import PluginBridge.Proofs.Dispatch.Shares
import PluginBridge.Proofs.Slot.States

/-!
# Threads that are stopped

A thread that scans and none of whose slots is claimed answers the request to exit. What it leaves
is the batch as it was: its first slot went from unused through the request and the acknowledgement
back to unused, and the pool has put down that the thread ended and was joined
(`Pool.release_of_scanning`). A worker with a claimed slot is refused before it is asked. So stopping
all workers in order stops those that are live up to the first that is refused, and changes nothing
else (`Pool.releaseAll_eq`).
-/

namespace PluginBridge

variable {n : Nat} {d : Dispatch n} {i : Fin n} {w v : Nat}

namespace Dispatch

theorem ownedInUse_iff : d.ownedInUse w ↔ ∃ i ∈ d.owned w, d.batch.inUse i := by
  rw [ownedInUse, List.any_eq_true]

/-- The first slot of a worker is its own. -/
theorem mem_owned_first (hw : w < n) : (⟨w, hw⟩ : Fin n) ∈ d.owned w := by
  simp [mem_owned]

/-- The first slot of a worker without claimed slots is unused. -/
theorem state_first_of_free (free : d.ownedInUse w = false) (hw : w < n) :
    d.batch.state ⟨w, hw⟩ = .unused := by
  have idle := List.any_eq_false.1 free _ (mem_owned_first hw)
  simpa [Batch.inUse] using idle

theorem exits_iff : d.exits w ↔ ∃ i : Fin n, i.val = w ∧ d.batch.state i = .exitAsked := by
  rw [exits, List.any_eq_true]
  constructor
  · rintro ⟨i, -, asked⟩
    exact ⟨i, by simpa using asked⟩
  · rintro ⟨i, rfl, asked⟩
    exact ⟨i, mem_owned_first i.isLt, by simp [asked]⟩

/-- What becomes of a request to exit: it is refused at a slot that is neither unused nor waiting, it
stands there if nobody answers, and otherwise the slot is unused again. -/
theorem requestExit_eq (d : Dispatch n) (i : Fin n) (answers : Bool) :
    d.requestExit i answers =
      if d.batch.state i ∈ [.unused, .waiting] then
        if answers then (true, { d with batch := d.batch.withState i .unused }, .ok ())
        else
          (false, { d with batch := d.batch.withState i .exitAsked },
            .error (.transitionStalled i .exitSeen .exitAsked))
      else (false, d, .error (.transitionStalled i .unused (d.batch.state i))) := by
  rw [requestExit, Batch.askExit, Batch.drive_eq]
  by_cases idle : d.batch.state i ∈ [.unused, .waiting]
  · rw [if_pos idle, if_pos idle]
    cases answers with
    | true => simp [Batch.acknowledge_eq, Batch.finishExit, Batch.drive_eq]
    | false => simp [Batch.finishExit, Batch.drive_eq]
  · rw [if_neg idle, if_neg idle]

/-- An exit that is answered leaves everything as it was. -/
theorem requestExit_of_unused (unused : d.batch.state i = .unused) :
    d.requestExit i true = (true, d, .ok ()) := by
  simp [requestExit_eq, unused, Batch.withState_self unused]

end Dispatch

namespace Pool

variable {p : Pool} {s t : WorkerThread} {ws : List Nat}

theorem isLive_iff : p.isLive w ↔ p.thread w ≠ .absent := by
  simp [isLive]

theorem thread_of_lt (h : w < p.threads.length) : p.thread w = p.threads[w] := by
  simp [thread, h]

theorem lt_of_isLive (h : p.isLive w) : w < p.threads.length := by
  refine Nat.lt_of_not_le fun beyond => isLive_iff.1 h ?_
  simp [thread, beyond]

theorem not_isLive_empty (workers : Nat) (log : List ThreadEvent) (w : Nat) :
    ¬ (empty workers log).isLive w := by
  intro h
  have lt := lt_of_isLive h
  rw [isLive_iff, thread_of_lt lt] at h
  simp [empty] at h

/-- There is no thread if none is counted. -/
theorem liveCount_eq_zero : p.liveCount = 0 ↔ ∀ w, ¬ p.isLive w := by
  rw [liveCount, List.countP_eq_zero]
  constructor
  · intro none w live
    have lt := lt_of_isLive live
    rw [isLive_iff, thread_of_lt lt] at live
    have := none _ (List.getElem_mem lt)
    simp_all
  · intro none t mem
    obtain ⟨w, lt, rfl⟩ := List.getElem_of_mem mem
    have := none w
    rw [isLive_iff, thread_of_lt lt] at this
    simpa using this

/-- There is a thread if one is counted. -/
theorem exists_isLive (h : 0 < p.liveCount) : ∃ w, p.isLive w := by
  rw [liveCount, List.countP_pos_iff] at h
  obtain ⟨t, mem, live⟩ := h
  obtain ⟨w, lt, rfl⟩ := List.getElem_of_mem mem
  exact ⟨w, by simpa [isLive, thread_of_lt lt] using live⟩

@[simp] theorem length_put (p : Pool) (w : Nat) (t : WorkerThread) :
    (p.put w t).threads.length = p.threads.length :=
  List.length_set

@[simp] theorem length_join (p : Pool) (w : Nat) :
    (p.join w).threads.length = p.threads.length := by
  rw [join]
  split
  · exact p.length_put w .absent
  · rfl

@[simp] theorem length_slow (p : Pool) (w : Nat) :
    (p.slow w).threads.length = p.threads.length := by
  rw [slow]
  split
  · exact p.length_put w .slow
  · rfl

@[simp] theorem length_prompt (p : Pool) (w : Nat) :
    (p.prompt w).threads.length = p.threads.length := by
  rw [prompt]
  split
  · exact p.length_put w .scanning
  · rfl

@[simp] theorem log_put (p : Pool) (w : Nat) (t : WorkerThread) : (p.put w t).log = p.log := rfl

@[simp] theorem log_note (p : Pool) (event : ThreadEvent) :
    (p.note event).log = event :: p.log := rfl

@[simp] theorem threads_note (p : Pool) (event : ThreadEvent) :
    (p.note event).threads = p.threads := rfl

@[simp] theorem thread_note (p : Pool) (event : ThreadEvent) (v : Nat) :
    (p.note event).thread v = p.thread v := rfl

@[simp] theorem isLive_note (p : Pool) (event : ThreadEvent) (v : Nat) :
    (p.note event).isLive v = p.isLive v := rfl

@[simp] theorem put_put (p : Pool) (w : Nat) (s t : WorkerThread) :
    (p.put w s).put w t = p.put w t := by
  simp [put]

theorem thread_put_self (h : w < p.threads.length) : (p.put w t).thread w = t := by
  simp [thread, put, h]

theorem thread_put_of_ne (t : WorkerThread) (ne : v ≠ w) : (p.put w t).thread v = p.thread v := by
  simp [thread, put, List.getD_eq_getElem?_getD, List.getElem?_set_ne ne.symm]

theorem isLive_put_of_ne (t : WorkerThread) (ne : v ≠ w) : (p.put w t).isLive v = p.isLive v := by
  rw [isLive, thread_put_of_ne t ne, isLive]

/-- A worker whose thread is taken away is gone. -/
theorem isLive_put_absent : (p.put w .absent).isLive v ↔ p.isLive v ∧ v ≠ w := by
  by_cases hv : v = w
  · subst hv
    refine ⟨fun live => absurd live ?_, fun live => absurd rfl live.2⟩
    rw [isLive_iff, thread_put_self (by simpa using lt_of_isLive live)]
    simp
  · rw [isLive_put_of_ne _ hv]
    simp [hv]

theorem requestExit_eq (p : Pool) (d : Dispatch n) (i : Fin n) :
    p.requestExit d i =
      if d.batch.state i ∈ [.unused, .waiting] then
        if p.thread i = .scanning then
          (p.leave i, { d with batch := d.batch.withState i .unused }, .ok ())
        else
          (p, { d with batch := d.batch.withState i .exitAsked },
            .error (.transitionStalled i .exitSeen .exitAsked))
      else (p, d, .error (.transitionStalled i .unused (d.batch.state i))) := by
  rw [requestExit, Dispatch.requestExit_eq]
  by_cases idle : d.batch.state i ∈ [.unused, .waiting]
  · rw [if_pos idle, if_pos idle]
    by_cases scans : p.thread i = .scanning
    · simp [scans]
    · simp [scans]
  · rw [if_neg idle, if_neg idle]

theorem thread_leave_self (room : w < p.threads.length) : (p.leave w).thread w = .ended :=
  thread_put_self room

theorem thread_leave_of_ne (ne : v ≠ w) : (p.leave w).thread v = p.thread v :=
  thread_put_of_ne _ ne

theorem thread_join_of_ne (ne : v ≠ w) : (p.join w).thread v = p.thread v := by
  rw [join]
  split
  · exact thread_put_of_ne _ ne
  · rfl

/-- The pool after the thread of a worker was stopped: it has ended and was joined. -/
def stopped (p : Pool) (w : Nat) : Pool := ((p.put w .absent).note (.ended w)).note (.joined w)

@[simp] theorem log_stopped (p : Pool) (w : Nat) :
    (p.stopped w).log = .joined w :: .ended w :: p.log := rfl

@[simp] theorem length_stopped (p : Pool) (w : Nat) :
    (p.stopped w).threads.length = p.threads.length := by
  simp [stopped]

theorem thread_stopped (p : Pool) (w v : Nat) :
    (p.stopped w).thread v = if v = w then .absent else p.thread v := by
  rw [stopped, thread_note, thread_note]
  by_cases same : v = w
  · subst same
    rw [if_pos rfl]
    refine Decidable.byContradiction fun live => ?_
    exact (isLive_put_absent.1 (isLive_iff.2 live)).2 rfl
  · rw [if_neg same, thread_put_of_ne _ same]

/-- A worker that was stopped is gone. -/
theorem isLive_stopped : (p.stopped w).isLive v ↔ p.isLive v ∧ v ≠ w := by
  rw [stopped, isLive_note, isLive_note]
  exact isLive_put_absent

/-- A thread that has ended can be joined. -/
theorem join_leave (room : w < p.threads.length) : (p.leave w).join w = p.stopped w := by
  rw [join, if_pos (thread_leave_self room)]
  simp [leave, stopped, put, note]

/-- A worker without a thread need not be stopped. -/
theorem release_of_absent (d : Dispatch n) (absent : p.isLive w = false) :
    p.release d w = (p, d, .ok ()) := by
  simp [release, absent]

/-- A thread that scans and has nothing to do is stopped. -/
theorem release_of_scanning (scanning : p.thread w = .scanning) (free : d.ownedInUse w = false)
    (hw : w < n) : p.release d w = (p.stopped w, d, .ok ()) := by
  have live : p.isLive w = true := isLive_iff.2 (by simp [scanning])
  have unused := Dispatch.state_first_of_free free hw
  simp [release, live, free, hw, requestExit, scanning, Dispatch.requestExit_of_unused unused,
    join_leave (lt_of_isLive live)]

/-- A thread that does not answer in time leaves the request to exit in its first slot. -/
theorem release_of_late (live : p.isLive w) (late : p.thread w ≠ .scanning)
    (free : d.ownedInUse w = false) (hw : w < n) :
    p.release d w = (p, { d with batch := d.batch.withState ⟨w, hw⟩ .exitAsked },
      .error (.transitionStalled w .exitSeen .exitAsked)) := by
  have unused := Dispatch.state_first_of_free free hw
  simp [release, live, free, hw, requestExit_eq, unused, late]

/-- Stopping a worker changes nothing, or it stops a thread that has nothing to do, or asks it in
vain. -/
theorem release_cases (p : Pool) (d : Dispatch n) (w : Nat) :
    (∃ answer, p.release d w = (p, d, answer)) ∨
      p.isLive w ∧ d.ownedInUse w = false ∧ ∃ hw : w < n,
        (p.thread w = .scanning ∧ p.release d w = (p.stopped w, d, .ok ()) ∨
          p.release d w = (p, { d with batch := d.batch.withState ⟨w, hw⟩ .exitAsked },
            .error (.transitionStalled w .exitSeen .exitAsked))) := by
  by_cases live : p.isLive w
  · by_cases busy : d.ownedInUse w
    · exact .inl ⟨_, by rw [release, if_neg (by simpa using live), if_pos busy]⟩
    by_cases hw : w < n
    · have free : d.ownedInUse w = false := Bool.eq_false_iff.2 busy
      refine .inr ⟨live, free, hw, ?_⟩
      by_cases scans : p.thread w = .scanning
      · exact .inl ⟨scans, release_of_scanning scans free hw⟩
      · exact .inr (release_of_late live scans free hw)
    · exact .inl ⟨_, by rw [release, if_neg (by simpa using live), if_neg busy, dif_neg hw]⟩
  · exact .inl ⟨_, by rw [release, if_pos live]⟩

@[simp] theorem workers_release (p : Pool) (d : Dispatch n) (w : Nat) :
    (p.release d w).2.1.workers = d.workers := by
  rcases p.release_cases d w with ⟨_, eq⟩ | ⟨-, -, _, ⟨-, eq⟩ | eq⟩ <;> rw [eq]

@[simp] theorem workers_releaseEach (ws : List Nat) (p : Pool) (d : Dispatch n) :
    (releaseEach ws p d).2.1.workers = d.workers := by
  induction ws generalizing p d with
  | nil => rfl
  | cons w ws ih =>
    have first := p.workers_release d w
    rw [releaseEach]
    cases hr : p.release d w with
    | mk q rest =>
    obtain ⟨c, answer⟩ := rest
    rw [hr] at first
    cases answer with
    | ok _ => exact (ih q c).trans first
    | error v => exact first

/-- Every thread scans, and has a slot to be asked at. -/
def Scanning (n : Nat) (p : Pool) : Prop := ∀ w, p.isLive w → p.thread w = .scanning ∧ w < n

theorem Scanning.stopped (h : p.Scanning n) (w : Nat) : (p.stopped w).Scanning n := by
  intro v live
  obtain ⟨live, ne⟩ := isLive_stopped.1 live
  rw [thread_stopped, if_neg ne]
  exact h v live

/-- The pool after a worker was stopped, if it had a thread. -/
def dismiss (p : Pool) (w : Nat) : Pool := if p.isLive w then p.stopped w else p

theorem thread_dismiss (p : Pool) (w v : Nat) :
    (p.dismiss w).thread v = if v = w then .absent else p.thread v := by
  rw [dismiss]
  split
  · exact p.thread_stopped w v
  · next gone =>
    split
    · next same =>
      subst same
      simpa [isLive] using gone
    · rfl

theorem isLive_dismiss : (p.dismiss w).isLive v ↔ p.isLive v ∧ v ≠ w := by
  rw [isLive_iff, isLive_iff, thread_dismiss]
  by_cases same : v = w
  · simp [same]
  · simp [same]

@[simp] theorem length_dismiss (p : Pool) (w : Nat) :
    (p.dismiss w).threads.length = p.threads.length := by
  rw [dismiss]
  split
  · exact p.length_stopped w
  · rfl

theorem Scanning.dismiss (h : p.Scanning n) (w : Nat) : (p.dismiss w).Scanning n := by
  rw [Pool.dismiss]
  split
  · exact h.stopped w
  · exact h

/-! ## Several workers -/

/-- Whether a worker that is to be stopped is refused: it is live and has a claimed slot. -/
def isHeld (p : Pool) (d : Dispatch n) (w : Nat) : Bool := p.isLive w && d.ownedInUse w

/-- The first worker that is refused when all are stopped in order; the number of workers if none
is. -/
def firstHeld (p : Pool) (d : Dispatch n) : Nat :=
  (List.range p.threads.length).findIdx (p.isHeld d)

/-- The pool after some workers were stopped, those of them that had a thread. -/
def dismissAll (p : Pool) (ws : List Nat) : Pool := ws.foldl dismiss p

theorem thread_dismissAll (p : Pool) (ws : List Nat) (v : Nat) :
    (p.dismissAll ws).thread v = if v ∈ ws then .absent else p.thread v := by
  induction ws generalizing p with
  | nil => simp [dismissAll]
  | cons w ws ih =>
    change ((p.dismiss w).dismissAll ws).thread v = _
    rw [ih, thread_dismiss]
    by_cases later : v ∈ ws
    · simp [later]
    · simp [later]

@[simp] theorem length_dismissAll (p : Pool) (ws : List Nat) :
    (p.dismissAll ws).threads.length = p.threads.length := by
  induction ws generalizing p with
  | nil => rfl
  | cons w ws ih => exact (ih (p.dismiss w)).trans (p.length_dismiss w)

theorem Scanning.dismissAll (h : p.Scanning n) (ws : List Nat) : (p.dismissAll ws).Scanning n := by
  induction ws generalizing p with
  | nil => exact h
  | cons w ws ih => exact ih (h.dismiss w)

/-- What is put down when some workers are stopped in their order: each that has a thread ends and
is joined. -/
def dismissals (p : Pool) (ws : List Nat) : List ThreadEvent :=
  (ws.filter p.isLive).flatMap fun w => [.ended w, .joined w]

theorem log_dismissAll (p : Pool) {ws : List Nat} (nodup : ws.Nodup) :
    (p.dismissAll ws).log = (p.dismissals ws).reverse ++ p.log := by
  induction ws generalizing p with
  | nil => rfl
  | cons w ws ih =>
    obtain ⟨once, nodup⟩ := List.nodup_cons.1 nodup
    have later : (p.dismiss w).dismissals ws = p.dismissals ws := by
      have same : ws.filter (p.dismiss w).isLive = ws.filter p.isLive := by
        refine List.filter_congr fun v mem => Bool.eq_iff_iff.2 ?_
        rw [isLive_dismiss]
        exact and_iff_left fun here => once (here ▸ mem)
      rw [dismissals, same, dismissals]
    change ((p.dismiss w).dismissAll ws).log = _
    rw [ih (p.dismiss w) nodup, later]
    by_cases live : p.isLive w
    · simp [dismiss, dismissals, live]
    · simp [dismiss, dismissals, live]

theorem release_of_held (held : p.isHeld d w) : p.release d w = (p, d, .error (.workerBusy w)) := by
  obtain ⟨live, used⟩ := Bool.and_eq_true_iff.1 held
  simp [release, live, used]

/-- A worker that is not refused has no thread afterwards, and all else is as it was. -/
theorem release_of_free (scanning : p.Scanning n) (free : ¬ p.isHeld d w) :
    p.release d w = (p.dismiss w, d, .ok ()) := by
  by_cases live : p.isLive w
  · have idle : d.ownedInUse w = false := by simpa [isHeld, live] using free
    obtain ⟨scans, room⟩ := scanning w live
    rw [dismiss, if_pos live]
    exact release_of_scanning scans idle room
  · rw [dismiss, if_neg live, release, if_pos live]

theorem not_isHeld_dismiss (free : ¬ p.isHeld d v) (w : Nat) : ¬ (p.dismiss w).isHeld d v := by
  intro held
  obtain ⟨live, used⟩ := Bool.and_eq_true_iff.1 held
  exact free (Bool.and_eq_true_iff.2 ⟨(isLive_dismiss.1 live).1, used⟩)

/-- Stopping several workers goes past all that are not refused. -/
theorem releaseEach_of_free (scanning : p.Scanning n) (free : ∀ w ∈ ws, ¬ p.isHeld d w)
    (rest : List Nat) : releaseEach (ws ++ rest) p d = releaseEach rest (p.dismissAll ws) d := by
  induction ws generalizing p with
  | nil => rfl
  | cons w ws ih =>
    rw [List.cons_append, releaseEach, release_of_free scanning (free w List.mem_cons_self)]
    exact ih (scanning.dismiss w) fun v mem =>
      not_isHeld_dismiss (free v (List.mem_cons_of_mem w mem)) w

theorem not_isHeld_of_lt (lt : w < p.firstHeld d) : ¬ p.isHeld d w := by
  have none := List.not_of_lt_findIdx lt
  simpa using none

theorem isHeld_firstHeld (lt : p.firstHeld d < p.threads.length) : p.isHeld d (p.firstHeld d) := by
  have found : (List.range p.threads.length).findIdx (p.isHeld d) <
      (List.range p.threads.length).length := by
    rwa [List.length_range]
  have held := List.findIdx_getElem (w := found)
  rwa [List.getElem_range] at held

theorem firstHeld_le (p : Pool) (d : Dispatch n) : p.firstHeld d ≤ p.threads.length := by
  have le : (List.range p.threads.length).findIdx (p.isHeld d) ≤
      (List.range p.threads.length).length := List.findIdx_le_length
  rwa [List.length_range] at le

/-- Stopping all workers stops those before the first that is refused. -/
theorem releaseAll_eq (scanning : p.Scanning n) :
    p.releaseAll d = (p.dismissAll (List.range (p.firstHeld d)), d,
      if p.firstHeld d < p.threads.length then .error (.workerBusy (p.firstHeld d))
      else .ok ()) := by
  have free (w : Nat) (mem : w ∈ List.range (p.firstHeld d)) : ¬ p.isHeld d w :=
    not_isHeld_of_lt (List.mem_range.1 mem)
  have split : List.range p.threads.length =
      List.range (p.firstHeld d) ++ (List.range p.threads.length).drop (p.firstHeld d) := by
    have whole := List.take_append_drop (p.firstHeld d) (List.range p.threads.length)
    rw [List.take_range, Nat.min_eq_left (p.firstHeld_le d)] at whole
    exact whole.symm
  rw [releaseAll, split, releaseEach_of_free scanning free]
  by_cases lt : p.firstHeld d < p.threads.length
  · have held : (p.dismissAll (List.range (p.firstHeld d))).isHeld d (p.firstHeld d) := by
      rw [isHeld, isLive, thread_dismissAll, if_neg List.not_mem_range_self]
      exact isHeld_firstHeld lt
    rw [List.drop_eq_getElem_cons (by rwa [List.length_range]), List.getElem_range, releaseEach,
      release_of_held held, if_pos lt]
  · rw [List.drop_eq_nil_of_le (by rw [List.length_range]; exact Nat.le_of_not_lt lt), releaseEach,
      if_neg lt]

/-- If no slot is claimed, nobody is refused. -/
theorem releaseAll_of_unused (unused : ∀ i, d.batch.state i = .unused) (scanning : p.Scanning n) :
    p.releaseAll d = (p.dismissAll (List.range p.threads.length), d, .ok ()) := by
  have none : p.firstHeld d = p.threads.length := by
    refine Nat.le_antisymm (p.firstHeld_le d) (Nat.le_of_not_lt fun lt => ?_)
    obtain ⟨-, used⟩ := Bool.and_eq_true_iff.1 (isHeld_firstHeld lt)
    obtain ⟨i, -, used⟩ := Dispatch.ownedInUse_iff.1 used
    exact Batch.inUse_iff.1 used (unused i)
  rw [releaseAll_eq scanning, none, if_neg (Nat.lt_irrefl _)]

/-- Nobody is left when all workers were stopped. -/
theorem not_isLive_dismissAll (p : Pool) (v : Nat) :
    ¬ (p.dismissAll (List.range p.threads.length)).isLive v := by
  intro live
  rw [isLive_iff, thread_dismissAll] at live
  by_cases room : v < p.threads.length
  · exact live (if_pos (List.mem_range.2 room))
  · rw [if_neg (by simpa using room)] at live
    exact room (lt_of_isLive (isLive_iff.2 live))

end Pool

end PluginBridge
