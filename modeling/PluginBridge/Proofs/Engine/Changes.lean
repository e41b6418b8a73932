import PluginBridge.Proofs.Engine.Calls

/-!
# What a call does to the slot of a client

A client means one slot of one activation, and it goes on meaning that slot when the batch has been
put away. `Engine.state?` is what the client finds there. `SlotChange` lists everything that a call
can do to it, and `Consistent.perform_change` says that there is nothing else: only a start claims a
slot, only a post posts it, and only an answer takes it back from there.
-/

namespace PluginBridge

namespace Engine

variable {e e' : Engine} {d : Dispatch slotCount} {c : Client} {h : Handle}

/-- The state of a client's slot, if the activation of the client has a batch. -/
def state? (e : Engine) (c : Client) : Option SlotState :=
  (e.batchOf? c).map fun b => b.state c.slot

theorem state?_of_current (current : c.activation = e.retired.length) :
    e.state? c = e.dispatch.map fun d => d.batch.state c.slot := by
  rw [state?, batchOf?, if_pos current, Option.map_map]
  rfl

theorem state?_of_earlier (earlier : c.activation ≠ e.retired.length) :
    e.state? c = e.retired[c.activation]?.map fun b => b.state c.slot := by
  rw [state?, batchOf?, if_neg earlier]

/-- A client finds its batch as it was when it is put away. -/
theorem batchOf?_retire (e : Engine) (c : Client) : e.retire.batchOf? c = e.batchOf? c := by
  cases hd : e.dispatch with
  | none => rw [retire, hd]
  | some d =>
    have put : e.retire = { e with dispatch := none, retired := e.retired ++ [d.batch] } := by
      rw [retire, hd]
    rw [put]
    rcases Nat.lt_trichotomy c.activation e.retired.length with earlier | current | later
    · have still : c.activation ≠ (e.retired ++ [d.batch]).length := by
        simp only [List.length_append, List.length_singleton]
        omega
      rw [batchOf?, batchOf?, if_neg still, if_neg (Nat.ne_of_lt earlier)]
      exact List.getElem?_append_left earlier
    · have now : c.activation ≠ (e.retired ++ [d.batch]).length := by simp [current]
      rw [batchOf?, batchOf?, if_neg now, if_pos current, hd]
      simp [current]
    · rw [batchOf?, batchOf?, if_neg (Nat.ne_of_gt later), List.getElem?_eq_none (Nat.le_of_lt later)]
      split
      · rfl
      · next past =>
        rw [List.length_append, List.length_singleton] at past
        apply List.getElem?_eq_none
        simp only [List.length_append, List.length_singleton]
        omega

/-- A client finds its slot as it was when the batch is put away. -/
theorem state?_retire (e : Engine) (c : Client) : e.retire.state? c = e.state? c := by
  rw [state?, batchOf?_retire, state?]

/-- If the slots of earlier activations are unused, what is found in use is in the current batch. -/
theorem current_of_retired (retired : ∀ b ∈ e.retired, ∀ i, b.state i = .unused) {x : SlotState}
    (found : e.state? c = some x) (used : x ≠ .unused) :
    c.activation = e.retired.length ∧ ∃ d, e.dispatch = some d ∧ d.batch.state c.slot = x := by
  by_cases current : c.activation = e.retired.length
  · rw [state?_of_current current] at found
    exact ⟨current, Option.map_eq_some_iff.1 found⟩
  · rw [state?_of_earlier current] at found
    obtain ⟨b, hb, state⟩ := Option.map_eq_some_iff.1 found
    exact absurd (state.symm.trans (retired b (List.mem_of_getElem? hb) c.slot)) used

/-- Only the slots of the current activation are claimed. -/
theorem Consistent.current (h : e.Consistent) {x : SlotState} (found : e.state? c = some x)
    (used : x ≠ .unused) :
    c.activation = e.retired.length ∧ ∃ d, e.dispatch = some d ∧ d.batch.state c.slot = x :=
  current_of_retired h.retired found used

end Engine

/-- How a call can change what a client finds in its slot. -/
inductive SlotChange (e : Engine) (call : EngineCall) (c : Client) :
    Option SlotState → Option SlotState → Prop where
  | same (x : Option SlotState) : SlotChange e call c x x
  /-- An activation begins. -/
  | opened {h : Handle} (start : call = .start h) : SlotChange e call c none (some .unused)
  /-- The client is given out. -/
  | claimed {h : Handle} {x : Option SlotState} (start : call = .start h)
      (given : (e.start h).2 = .ok (some c)) (free : x = none ∨ x = some .unused) :
      SlotChange e call c x (some .waiting)
  | released {h : Handle} (given : call = .start h ∨ call = .stop h) :
      SlotChange e call c (some .waiting) (some .unused)
  | posted {job : Job} (post : call = .post c job) :
      SlotChange e call c (some .waiting) (some .posted)
  | finished {code : ResultCode} (finish : call = .finish c code) :
      SlotChange e call c (some .posted) (some .waiting)

namespace Engine

variable {e e' : Engine} {d : Dispatch slotCount} {c : Client} {h : Handle}

/-! ## Starting -/

/-- What a takedown does to the slot of a client. -/
theorem Consistent.teardown_state (h : e.Consistent) (c : Client) :
    e.teardown.1.state? c = e.state? c ∨
      e.state? c = some .waiting ∧ e.teardown.1.state? c = some .unused := by
  cases hd : e.dispatch with
  | none =>
    rw [teardown_of_none hd]
    exact .inl rfl
  | some d =>
    have released (b : Batch slotCount)
        (left : (releaseSlots (List.finRange slotCount) d.batch).1 = b) {e' : Engine}
        (retired : e'.retired = e.retired) (batch : e'.dispatch.map Dispatch.batch = some b) :
        e'.state? c = e.state? c ∨ e.state? c = some .waiting ∧ e'.state? c = some .unused := by
      by_cases current : c.activation = e.retired.length
      · have after : e'.state? c = some (b.state c.slot) := by
          rw [state?, batchOf?, retired, if_pos current, batch]
          rfl
        rw [after, state?_of_current current, hd]
        rcases state_releaseSlots (List.finRange slotCount) d.batch c.slot with same | ⟨was, is⟩
        · exact .inl (by rw [← left, same]; rfl)
        · exact .inr ⟨by simp [was], by rw [← left, is]⟩
      · refine .inl ?_
        rw [state?_of_earlier current, state?_of_earlier (by rwa [retired]), retired]
    rcases releaseSlots_cases (List.finRange slotCount) d.batch with ⟨b, ⟨v, refused⟩ | done⟩
    · rw [teardown_of_refused hd refused]
      exact released b (by rw [refused]) rfl rfl
    · obtain ⟨eq, -⟩ := teardown_of_done hd done (h.staffed d hd).scanning
      rw [eq]
      dsimp only
      rw [state?_retire]
      exact released b (by rw [done]) rfl rfl

/-- A batch that is put away is no longer in use. -/
theorem dispatch_retire (e : Engine) : e.retire.dispatch = none := by
  rw [retire]
  split
  · rfl
  · next none => exact none

/-- A takedown that works leaves no batch. -/
theorem dispatch_teardown (down : e.teardown = (e', .ok ())) : e'.dispatch = none := by
  rw [teardown] at down
  split at down
  · next none =>
    cases down
    exact none
  split at down
  · cases down
  dsimp only at down
  split at down
  · cases down
    exact dispatch_retire _
  · cases down

/-- An activation that begins has no client yet. -/
theorem state?_begin (none : e.dispatch = .none) (c : Client) :
    e.begin.state? c = e.state? c ∨ e.state? c = .none ∧ e.begin.state? c = some .unused := by
  by_cases current : c.activation = e.retired.length
  · have before : e.state? c = .none := by rw [state?_of_current current, none]; rfl
    rw [state?_of_current (e := e.begin) current, before]
    cases hd : e.begin.dispatch with
    | none => exact .inl rfl
    | some d =>
      refine .inr ⟨rfl, ?_⟩
      rw [Option.map_some, state_begin hd]
  · refine .inl ?_
    rw [state?_of_earlier current, state?_of_earlier (e := e.begin) current]
    rfl

/-- A claim changes the slot that it claims. -/
theorem state?_claimed (hd : e.dispatch = some d) (h : Handle) (c : Client) :
    (e.claimed d h).state? c =
      if c = ⟨e.retired.length, h.slot⟩ then some .waiting else e.state? c := by
  by_cases current : c.activation = e.retired.length
  · rw [state?_of_current (e := e.claimed d h) current, state?_of_current current, hd]
    change some ((d.batch.withState h.slot .waiting).state c.slot) = _
    obtain ⟨a, i⟩ := c
    cases current
    by_cases slot : i = h.slot
    · subst slot
      simp
    · simp [slot, Batch.state_withState_of_ne d.batch .waiting slot]
  · have other : c ≠ ⟨e.retired.length, h.slot⟩ := by
      rintro rfl
      exact current rfl
    rw [if_neg other, state?_of_earlier current,
      state?_of_earlier (e := e.claimed d h) current]
    rfl

/-- What the beginning of an activation does to the slot of a client. A slot that is new to its
client was not there before the takedown either. -/
theorem Consistent.counted_change {b : Engine} (consistent : e.Consistent) (counted : e.Counted b)
    (h : Handle) (c : Client) :
    SlotChange e (.start h) c (e.state? c) (b.state? c) ∧
      (c.activation = b.retired.length → b.state? c = some .unused →
        e.state? c = none ∨ e.state? c = some .unused) := by
  cases counted with
  | further => exact ⟨.same _, fun _ unused => .inr unused⟩
  | @first e' none down =>
    have change := consistent.teardown_state c
    rw [down] at change
    dsimp only at change
    have gone := dispatch_teardown down
    have new (absent : e'.state? c = .none) : e.state? c = .none := by
      rcases change with same | ⟨-, is⟩
      · rw [← same, absent]
      · cases absent.symm.trans is
    refine ⟨?_, fun current _ => .inl (new ?_)⟩
    · rcases state?_begin gone c with same | ⟨absent, is⟩
      · rw [same]
        rcases change with same | ⟨was, is⟩
        · exact same ▸ .same _
        · exact was ▸ is ▸ .released (.inl rfl)
      · rw [new absent, is]
        exact .opened rfl
    · rw [state?_of_current (by rw [current]; rfl), gone]
      rfl

/-- What a start does to the slot of a client. -/
theorem Consistent.start_change (consistent : e.Consistent) (h : Handle) (c : Client) :
    SlotChange e (.start h) c (e.state? c) ((e.start h).1.state? c) := by
  have outcome := e.start_outcome h
  match hr : e.start h with
  | (e', result) =>
    rw [hr] at outcome
    cases outcome with
    | refused none down =>
      have change := consistent.teardown_state c
      rw [down] at change
      rcases change with same | ⟨was, is⟩
      · exact same ▸ .same _
      · exact was ▸ is ▸ .released (.inl rfl)
    | direct counted => exact (consistent.counted_change counted h c).1
    | @claimed b d counted hd unused =>
      obtain ⟨change, free⟩ := consistent.counted_change counted h c
      rw [state?_claimed hd]
      split
      · next mine =>
        refine .claimed rfl (by rw [hr, mine]) (free (by rw [mine]) ?_)
        rw [mine, state?_of_current rfl, hd, Option.map_some, unused]
      · exact change
    | inUse => exact .same _

/-! ## Stopping -/

theorem state?_settle (e : Engine) (c : Client) : e.settle.1.state? c = e.state? c := by
  rw [settle]
  split
  · rw [deactivate]
    split
    · rfl
    · exact state?_retire e c
  · rfl

/-- What a slot that is given back leaves of the slots. -/
theorem state?_without {q : Pool} (hd : e.dispatch = some d) (h : Handle) (c : Client) :
    state? { e.countDown with dispatch := some (d.without h.slot), pool := q } c =
      if c = ⟨e.retired.length, h.slot⟩ then some .unused else e.state? c := by
  by_cases current : c.activation = e.retired.length
  · rw [state?_of_current (e := { e.countDown with dispatch := _, pool := _ }) current,
      state?_of_current current, hd]
    simp only [Option.map_some, Dispatch.batch_without]
    obtain ⟨a, i⟩ := c
    cases current
    by_cases slot : i = h.slot
    · subst slot
      simp
    · simp [slot, Batch.state_withState_of_ne d.batch .unused slot]
  · have other : c ≠ ⟨e.retired.length, h.slot⟩ := by
      rintro rfl
      exact current rfl
    rw [if_neg other, state?_of_earlier current, state?_of_earlier]
    · rfl
    · exact current

/-- What a stop does to the slot of a client. -/
theorem Consistent.stop_change (consistent : e.Consistent) (h : Handle) (c : Client) :
    SlotChange e (.stop h) c (e.state? c) ((e.stop h).1.state? c) := by
  have outcome := consistent.stop_outcome h
  generalize e.stop h = stopped at outcome ⊢
  cases outcome with
  | unbalanced | stalled => exact .same _
  | free =>
    rw [state?_settle]
    exact .same _
  | released active hd waiting =>
    rw [state?_settle, state?_without hd]
    split
    · next mine =>
      have was : e.state? c = some .waiting := by
        rw [mine, state?_of_current rfl, hd, Option.map_some, waiting]
      rw [was]
      exact .released (.inr rfl)
    · exact .same _

/-! ## Requests -/

/-- Another batch for the activation of a client is found by its clients only. -/
theorem batchOf?_putBatch_eq {b b' : Batch slotCount} (hb : e.batchOf? c = some b) (k : Client) :
    (e.putBatch c b').batchOf? k = if k.activation = c.activation then some b' else e.batchOf? k := by
  rw [batchOf?] at hb
  rw [putBatch]
  by_cases current : c.activation = e.retired.length
  · rw [if_pos current] at hb ⊢
    obtain ⟨d, hd, -⟩ := Option.map_eq_some_iff.1 hb
    rw [batchOf?, batchOf?, current]
    by_cases same : k.activation = e.retired.length
    · rw [if_pos same, if_pos same, hd]
      rfl
    · rw [if_neg same, if_neg same, if_neg same]
  · rw [if_neg current] at hb ⊢
    rw [batchOf?, batchOf?, List.length_set]
    by_cases same : k.activation = c.activation
    · rw [if_pos same, same, if_neg current]
      simp [(List.getElem?_eq_some_iff.1 hb).1]
    · rw [if_neg same, List.getElem?_set_ne (Ne.symm same)]

theorem batchOf?_putBatch {b b' : Batch slotCount} (hb : e.batchOf? c = some b) :
    (e.putBatch c b').batchOf? c = some b' := by
  rw [batchOf?_putBatch_eq hb, if_pos rfl]

theorem state?_putBatch {b b' : Batch slotCount} (hb : e.batchOf? c = some b) (k : Client) :
    (e.putBatch c b').state? k =
      if k.activation = c.activation then some (b'.state k.slot) else e.state? k := by
  rw [state?, batchOf?_putBatch_eq hb]
  split
  · rfl
  · rfl

/-- A slot that keeps its state is found as it was. -/
theorem state?_putBatch_of_same {b b' : Batch slotCount} (hb : e.batchOf? c = some b) (k : Client)
    (same : k.activation = c.activation → b'.state k.slot = b.state k.slot) :
    (e.putBatch c b').state? k = e.state? k := by
  rw [state?_putBatch hb]
  split
  · next mine =>
    rw [same mine, state?, batchOf?, mine, ← batchOf?, hb]
    rfl
  · rfl

/-- What a post does to the slot of a client. -/
theorem post_change (e : Engine) (c k : Client) (job : Job) :
    SlotChange e (.post c job) k (e.state? k) ((e.post c job).1.state? k) := by
  rw [post]
  cases hb : e.batchOf? c with
  | none => exact .same _
  | some b =>
    have found (k : Client) (mine : k.activation = c.activation) :
        e.state? k = some (b.state k.slot) := by
      rw [state?, batchOf?, mine, ← batchOf?, hb]
      rfl
    have stored (j : Fin slotCount) :
        (b.put c.slot ((b.slot c.slot).storeJob job)).state j = b.state j := by
      by_cases hj : j = c.slot
      · subst hj
        simp [Batch.state]
      · simp [Batch.state, Batch.slot_put_of_ne b _ hj]
    by_cases waiting : b.state c.slot = .waiting
    · simp only [Batch.post_of_waiting job waiting]
      by_cases mine : k = c
      · subst mine
        rw [state?_putBatch hb, if_pos rfl, found k rfl, waiting]
        simp only [Batch.state, Batch.slot_put_self]
        exact .posted rfl
      · rw [state?_putBatch_of_same hb k fun same => ?_]
        · exact .same _
        · have other : k.slot ≠ c.slot := fun slot => mine (by cases k; cases c; simp_all)
          simp [Batch.state, Batch.slot_put_of_ne b _ other]
    · obtain ⟨v, eq⟩ := Batch.post_of_ne job waiting
      simp only [eq]
      rw [state?_putBatch_of_same hb k fun _ => stored k.slot]
      exact .same _

/-- What an answer does to the slot of a client. -/
theorem finish_change (e : Engine) (c k : Client) (code : ResultCode) :
    SlotChange e (.finish c code) k (e.state? k) ((e.finish c code).state? k) := by
  rw [finish]
  cases hb : e.batchOf? c with
  | none => exact .same _
  | some b =>
    have stored (j : Fin slotCount) :
        (b.put c.slot ((b.slot c.slot).store (.result code.toInt))).state j = b.state j := by
      by_cases hj : j = c.slot
      · subst hj
        simp [Batch.state]
      · simp [Batch.state, Batch.slot_put_of_ne b _ hj]
    simp only [Batch.finish]
    by_cases posted : b.state c.slot = .posted
    · rw [Batch.exchange_of_eq _ ((stored c.slot).trans posted)]
      dsimp only
      by_cases mine : k = c
      · subst mine
        have was : e.state? k = some .posted := by
          rw [state?, hb, Option.map_some, posted]
        rw [state?_putBatch hb, if_pos rfl, Batch.state_withState_self, was]
        exact .finished rfl
      · rw [state?_putBatch_of_same hb k fun same => ?_]
        · exact .same _
        · have other : k.slot ≠ c.slot := fun slot => mine (by cases k; cases c; simp_all)
          rw [Batch.state_withState_of_ne _ _ other, stored]
    · rw [Batch.exchange_of_ne _ (by rwa [stored])]
      dsimp only
      rw [state?_putBatch_of_same hb k fun _ => stored k.slot]
      exact .same _

/-- Every call changes what a client finds in one of these ways. -/
theorem Consistent.perform_change (consistent : e.Consistent) (call : EngineCall) (c : Client) :
    SlotChange e call c (e.state? c) ((e.perform call).state? c) := by
  cases call with
  | start h => exact consistent.start_change h c
  | stop h => exact consistent.stop_change h c
  | setEnabled enabled => exact .same _
  | post k job => exact e.post_change k c job
  | finish k code => exact e.finish_change k c code

end Engine

end PluginBridge
