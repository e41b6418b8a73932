import PluginBridge.Proofs.Engine.Waits

/-!
# The jobs in the slots

Starts and stops drive slots from state to state and touch none of their other cells, however many
slots they give back on the way (`Keeps`). So a job that was posted is still there when its worker
comes for it, and a posted slot always holds one (`laden_performAll`).
-/

namespace PluginBridge

namespace Batch

variable {n : Nat}

/-- A job that is posted is in its slot, and one that is rejected as well. -/
theorem job?_post (b : Batch n) (i : Fin n) (job : Job) : (b.post i job).1.job? i = some job := by
  by_cases waiting : b.state i = .waiting
  · rw [post_of_waiting job waiting, job?, slot_put_self]
    exact Slot.job?_storeJob (b.slot i) job
  · obtain ⟨v, eq⟩ := post_of_ne job waiting
    rw [eq, job?, slot_put_self, Slot.job?_storeJob]

end Batch

namespace Engine

variable {e e' e'' : Engine} {d d' : Dispatch slotCount} {c k : Client} {h : Handle}

/-! ## What starts and stops leave in the slots -/

/-- What the slot of a client holds beside its state. -/
def payload? (e : Engine) (c : Client) : Option Slot :=
  (e.batchOf? c).map fun b => (b.slot c.slot).payload

/-- The job of a client is in its payload. -/
theorem job?_eq (e : Engine) (c : Client) : e.job? c = (e.payload? c).bind Slot.job? := by
  rw [job?, payload?, Option.bind_map]
  rfl

/-- Whatever was in the slots is still there. -/
def Keeps (e e' : Engine) : Prop := ∀ c s, e.payload? c = some s → e'.payload? c = some s

theorem Keeps.refl (e : Engine) : e.Keeps e := fun _ _ found => found

theorem Keeps.trans (first : e.Keeps e') (then_ : e'.Keeps e'') : e.Keeps e'' :=
  fun c s found => then_ c s (first c s found)

theorem keeps_of_batchOf? (same : ∀ c, e'.batchOf? c = e.batchOf? c) : e.Keeps e' := by
  intro c s found
  rw [payload?, same]
  exact found

/-- Another dispatch keeps what is in the slots if its batch does. -/
theorem keeps_of_dispatch (hd : e.dispatch = some d) (hd' : e'.dispatch = some d')
    (retired : e'.retired = e.retired)
    (same : ∀ i, (d'.batch.slot i).payload = (d.batch.slot i).payload) : e.Keeps e' := by
  intro c s found
  rw [payload?, batchOf?] at found ⊢
  rw [retired]
  by_cases current : c.activation = e.retired.length
  · rw [if_pos current, hd] at found
    rw [if_pos current, hd', ← found]
    exact congrArg some (same c.slot)
  · rw [if_neg current] at found ⊢
    exact found

theorem payload_releaseSlots (l : List (Fin slotCount)) (b : Batch slotCount) (i : Fin slotCount) :
    ((releaseSlots l b).1.slot i).payload = (b.slot i).payload := by
  induction l generalizing b with
  | nil => rfl
  | cons j rest ih =>
    simp only [releaseSlots, Batch.release_eq]
    split
    · by_cases waiting : b.state j = .waiting
      · simp only [if_pos waiting]
        rw [ih, Batch.payload_withState]
      · simp only [if_neg waiting]
    · exact ih b

theorem Consistent.keeps_teardown (consistent : e.Consistent) : e.Keeps e.teardown.1 := by
  cases hd : e.dispatch with
  | none =>
    rw [teardown_of_none hd]
    exact .refl e
  | some d =>
    have given := payload_releaseSlots (List.finRange slotCount) d.batch
    rcases releaseSlots_cases (List.finRange slotCount) d.batch with ⟨b, ⟨v, refused⟩ | done⟩
    · rw [refused] at given
      rw [teardown_of_refused hd refused]
      exact keeps_of_dispatch hd rfl rfl given
    · rw [done] at given
      obtain ⟨eq, -⟩ := teardown_of_done hd done (consistent.staffed d hd).scanning
      rw [eq]
      let free : Engine := { e with
        dispatch := some { d with batch := b, highWater := 0 }
        pool := e.dismissed }
      have kept : e.Keeps free := keeps_of_dispatch hd rfl rfl given
      exact kept.trans (keeps_of_batchOf? (batchOf?_retire free))

theorem keeps_begin (none : e.dispatch = none) : e.Keeps e.begin := by
  intro c s found
  rw [payload?, batchOf?] at found ⊢
  by_cases current : c.activation = e.retired.length
  · rw [if_pos current, none] at found
    cases found
  · rw [if_neg current] at found
    exact (congrArg _ (if_neg current)).trans found

theorem Consistent.keeps_counted (consistent : e.Consistent) (counted : e.Counted e') :
    e.Keeps e' := by
  cases counted with
  | first none down =>
    have kept := consistent.keeps_teardown
    rw [down] at kept
    exact kept.trans (keeps_begin (dispatch_teardown down))
  | further => exact keeps_of_batchOf? fun _ => rfl

theorem Consistent.keeps_start (consistent : e.Consistent) (h : Handle) :
    e.Keeps (e.start h).1 := by
  have outcome := e.start_outcome h
  generalize e.start h = started at outcome ⊢
  cases outcome with
  | refused none down =>
    have kept := consistent.keeps_teardown
    rwa [down] at kept
  | direct counted => exact consistent.keeps_counted counted
  | claimed counted hd =>
    refine (consistent.keeps_counted counted).trans (keeps_of_dispatch hd rfl rfl fun i => ?_)
    exact Batch.payload_withState _ _ _ i
  | inUse => exact .refl e

theorem keeps_settle (e : Engine) : e.Keeps e.settle.1 := by
  rw [settle]
  split
  · rw [deactivate]
    split
    · exact .refl e
    · exact keeps_of_batchOf? e.batchOf?_retire
  · exact .refl e

theorem Consistent.keeps_stop (consistent : e.Consistent) (h : Handle) : e.Keeps (e.stop h).1 := by
  have counted : e.Keeps e.countDown := keeps_of_batchOf? fun _ => rfl
  have outcome := consistent.stop_outcome h
  generalize e.stop h = stopped at outcome ⊢
  cases outcome with
  | unbalanced => exact .refl e
  | free => exact counted.trans (keeps_settle _)
  | stalled => exact counted
  | @released d q _ hd =>
    have kept : e.Keeps { e.countDown with dispatch := some (d.without h.slot), pool := q } := by
      refine keeps_of_dispatch hd rfl rfl fun i => ?_
      rw [Dispatch.batch_without, Batch.payload_withState]
    exact kept.trans (keeps_settle _)

/-! ## Posted slots -/

/-- A post or an answer through one client leaves the slots of the others alone. -/
theorem job?_putBatch_of_ne {b b' : Batch slotCount} (hb : e.batchOf? k = some b)
    (same : ∀ i, i ≠ k.slot → b'.slot i = b.slot i) (ne : c ≠ k) :
    (e.putBatch k b').job? c = e.job? c := by
  rw [job?, job?, batchOf?_putBatch_eq hb]
  by_cases mine : c.activation = k.activation
  · have other : c.slot ≠ k.slot := fun slot => ne (by cases c; cases k; simp_all)
    rw [if_pos mine, batchOf?, mine, ← batchOf?, hb, Option.bind_some, Option.bind_some, Batch.job?,
      Batch.job?, same _ other]
  · rw [if_neg mine]

/-- Every posted slot holds a job. -/
def Laden (e : Engine) : Prop := ∀ c, e.state? c = some .posted → (e.job? c).isSome

theorem Laden.of_keeps (laden : e.Laden) (keeps : e.Keeps e')
    (before : ∀ c, e'.state? c = some .posted → e.state? c = some .posted) : e'.Laden := by
  intro c posted
  have held := laden c (before c posted)
  rw [job?_eq] at held ⊢
  cases found : e.payload? c with
  | none =>
    rw [found] at held
    cases held
  | some s =>
    rw [found] at held
    rw [keeps c s found]
    exact held

theorem Laden.post (laden : e.Laden) (k : Client) (job : Job) : (e.post k job).1.Laden := by
  intro c posted
  cases hb : e.batchOf? k with
  | none =>
    simp only [Engine.post, hb] at posted ⊢
    exact laden c posted
  | some b =>
    by_cases mine : c = k
    · subst mine
      simp only [Engine.post, hb]
      rw [job?, batchOf?_putBatch hb, Option.bind_some, Batch.job?_post]
      rfl
    · have change := e.post_change k c job
      have before := (change.posted_iff (fun job' same => by cases same; exact mine rfl)
        (fun _ same => by cases same)).1 posted
      simp only [Engine.post, hb]
      rw [job?_putBatch_of_ne hb (fun i other => b.slot_post_of_ne job other) mine]
      exact laden c before

theorem Laden.finish (laden : e.Laden) (k : Client) (code : ResultCode) :
    (e.finish k code).Laden := by
  intro c posted
  have change := e.finish_change k c code
  cases hb : e.batchOf? k with
  | none =>
    simp only [Engine.finish, hb] at posted ⊢
    exact laden c posted
  | some b =>
    by_cases mine : c = k
    · subst mine
      -- An answered slot is not posted.
      rw [posted] at change
      generalize hold : e.state? c = old at change
      cases change with
      | same =>
        rw [state_finish hold code] at posted
        cases posted
      | posted post => cases post
    · have before := (change.posted_iff (fun _ same => by cases same)
        (fun _ same => by cases same; exact mine rfl)).1 posted
      simp only [Engine.finish, hb]
      rw [job?_putBatch_of_ne hb (fun i other => b.slot_finish_of_ne code other) mine]
      exact laden c before

theorem Laden.perform (laden : e.Laden) (consistent : e.Consistent) (call : EngineCall) :
    (e.perform call).Laden := by
  have before (post : ∀ c job, call ≠ .post c job) (finish : ∀ c code, call ≠ .finish c code)
      (c : Client) (posted : (e.perform call).state? c = some .posted) :
      e.state? c = some .posted :=
    ((consistent.perform_change call c).posted_iff (post c) (finish c)).1 posted
  cases call with
  | start h => exact laden.of_keeps (consistent.keeps_start h) (before (by simp) (by simp))
  | stop h => exact laden.of_keeps (consistent.keeps_stop h) (before (by simp) (by simp))
  | setEnabled enabled => exact laden
  | post c job => exact laden.post c job
  | finish c code => exact laden.finish c code

theorem laden_new (config : Config) (machine : Nat) : (new config machine).Laden := by
  intro c posted
  rw [state?] at posted
  cases hb : (new config machine).batchOf? c with
  | none =>
    rw [hb] at posted
    cases posted
  | some b =>
    rw [batchOf?] at hb
    split at hb <;> cases hb

/-- Every posted slot holds a job, whatever was called. -/
theorem laden_performAll (consistent : e.Consistent) (laden : e.Laden) (calls : List EngineCall) :
    (e.performAll calls).Laden := by
  induction calls generalizing e with
  | nil => exact laden
  | cons call calls ih => exact ih (consistent.perform call) (laden.perform consistent call)

end Engine

end PluginBridge
