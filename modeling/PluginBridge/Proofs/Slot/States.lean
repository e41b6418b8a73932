import PluginBridge.Slot.Batch

/-!
# Operations as changes of state

Whatever the engine does to a slot, and whatever a worker does to it before it exits, is a change of
its state alone, from one of a few values to another. Each operation has one equation here, which
says when it works, what it leaves and what it reports otherwise. A post and an answer write to the
cells as well; `post_spec` and `state_finish` say what they do to the states.
-/

namespace PluginBridge

/-- The slot with another state. -/
def Slot.withState (s : Slot) (x : SlotState) : Slot := { s with state := x }

namespace Slot

@[simp] theorem state_withState (s : Slot) (x : SlotState) : (s.withState x).state = x := rfl

/-- What a slot holds beside its state. -/
def payload (s : Slot) : Slot := s.withState .unused

@[simp] theorem payload_withState (s : Slot) (x : SlotState) :
    (s.withState x).payload = s.payload := rfl

@[simp] theorem job?_payload (s : Slot) : s.payload.job? = s.job? := rfl

theorem withState_store (s : Slot) (x : SlotState) (w : Store) :
    (s.withState x).store w = (s.store w).withState x := by
  cases w <;> rfl

theorem withState_stores (s : Slot) (x : SlotState) (ws : List Store) :
    ws.foldl store (s.withState x) = (ws.foldl store s).withState x := by
  induction ws generalizing s with
  | nil => rfl
  | cons w ws ih => rw [List.foldl_cons, List.foldl_cons, withState_store, ih]

end Slot

namespace Batch

variable {n : Nat} {b : Batch n} {i : Fin n} {x : SlotState}

/-- The batch with another state of one slot. -/
def withState (b : Batch n) (i : Fin n) (x : SlotState) : Batch n :=
  b.put i ((b.slot i).withState x)

@[simp] theorem slot_withState_self (b : Batch n) (i : Fin n) (x : SlotState) :
    (b.withState i x).slot i = (b.slot i).withState x := by
  simp [withState]

theorem slot_withState_of_ne (b : Batch n) {i j : Fin n} (x : SlotState) (ne : j ≠ i) :
    (b.withState i x).slot j = b.slot j :=
  slot_put_of_ne b _ ne

@[simp] theorem state_withState_self (b : Batch n) (i : Fin n) (x : SlotState) :
    (b.withState i x).state i = x := by
  simp [state]

theorem state_withState_of_ne (b : Batch n) {i j : Fin n} (x : SlotState) (ne : j ≠ i) :
    (b.withState i x).state j = b.state j := by
  simp [state, slot_withState_of_ne b x ne]

theorem inUse_iff : b.inUse i ↔ b.state i ≠ .unused := by
  simp [inUse]

@[simp] theorem inUse_withState_self (b : Batch n) (i : Fin n) (x : SlotState) :
    (b.withState i x).inUse i = (x != .unused) := by
  simp [inUse]

theorem inUse_withState_of_ne (b : Batch n) {i j : Fin n} (x : SlotState) (ne : j ≠ i) :
    (b.withState i x).inUse j = b.inUse j := by
  rw [inUse, state_withState_of_ne b x ne, inUse]

@[simp] theorem withState_withState (b : Batch n) (i : Fin n) (x y : SlotState) :
    (b.withState i x).withState i y = b.withState i y := by
  simp only [withState, slot_put_self, put_put]
  rfl

/-- A slot that is put into the state it is in stays as it was. -/
theorem withState_self (h : b.state i = x) : b.withState i x = b := by
  rw [← h, withState, Slot.withState]
  exact b.put_slot i

theorem exchange_of_eq (y : SlotState) (h : b.state i = x) :
    b.exchange i x y = .ok (b.withState i y) := by
  have hs : (b.slot i).state = x := h
  simp [exchange, Slot.exchange, hs, withState, Slot.withState]

theorem exchange_of_ne (y : SlotState) (h : b.state i ≠ x) :
    b.exchange i x y = .error (b.state i) := by
  have hs : (b.slot i).state ≠ x := h
  simp [exchange, Slot.exchange, hs]

/-- Trying several states in turn works if the slot is in one of them. -/
theorem findSome_exchange (b : Batch n) (i : Fin n) (y : SlotState) (olds : List SlotState) :
    (olds.findSome? fun x => (b.exchange i x y).toOption) =
      if b.state i ∈ olds then some (b.withState i y) else none := by
  induction olds with
  | nil => rfl
  | cons x rest ih =>
    rw [List.findSome?_cons]
    by_cases h : b.state i = x
    · rw [exchange_of_eq y h, if_pos (h ▸ List.mem_cons_self)]
      rfl
    · rw [exchange_of_ne y h]
      simp only [Except.toOption, List.mem_cons, h, false_or]
      exact ih

theorem drive_eq (b : Batch n) (i : Fin n) (x : SlotState) (others : List SlotState)
    (y : SlotState) :
    b.drive i x others y =
      if b.state i ∈ x :: others then .ok (b.withState i y)
      else .error (.transitionStalled i x (b.state i)) := by
  rw [drive, findSome_exchange]
  by_cases h : b.state i ∈ x :: others
  · rw [if_pos h, if_pos h]
  · rw [if_neg h, if_neg h]

theorem claim_eq (b : Batch n) (i : Fin n) :
    b.claim i =
      if b.state i = .unused then .ok (b.withState i .waiting) else .error (.slotInUse i) := by
  rw [claim]
  by_cases h : b.state i = .unused
  · rw [exchange_of_eq _ h, if_pos h]
  · rw [exchange_of_ne _ h, if_neg h]

theorem release_eq (b : Batch n) (i : Fin n) :
    b.release i =
      if b.state i = .waiting then .ok (b.withState i .unused)
      else .error (.transitionStalled i .waiting (b.state i)) := by
  rw [release, drive_eq]
  simp only [List.mem_singleton]

theorem acknowledge_eq (b : Batch n) (i : Fin n) :
    b.acknowledge i =
      if b.state i = .exitAsked then some (b.withState i .exitSeen) else none := by
  rw [acknowledge]
  by_cases h : b.state i = .exitAsked
  · rw [exchange_of_eq _ h, if_pos h]; rfl
  · rw [exchange_of_ne _ h, if_neg h]; rfl

/-! ## Operations that write to the cells -/

/-- Writing to the cells of a slot changes no state. -/
theorem state_put {s : Slot} (same : s.state = b.state i) : (b.put i s).state = b.state := by
  funext j
  by_cases hj : j = i
  · subst hj
    rw [state, slot_put_self, same]
  · rw [state, slot_put_of_ne b s hj, state]

/-- What a post answers, and what it leaves of the states. -/
theorem post_spec (b : Batch n) (i : Fin n) (job : Job) :
    match b.state i with
    | .waiting => (b.post i job).2 = .ok () ∧
        (b.post i job).1.state = (b.withState i .posted).state
    | .posted => (b.post i job).2 = .error (.transitionStalled i .waiting .posted) ∧
        (b.post i job).1.state = b.state
    | _ => (b.post i job).2 = .error (.slotReleased i) ∧ (b.post i job).1.state = b.state := by
  have stored : (b.put i ((b.slot i).storeJob job)).state = b.state := state_put rfl
  have here := congrFun stored i
  cases found : b.state i with
  | waiting =>
    simp only
    rw [post_of_waiting job found]
    refine ⟨rfl, ?_⟩
    funext j
    by_cases hj : j = i
    · subst hj
      simp [state]
    · rw [state_withState_of_ne b _ hj, state, slot_put_of_ne b _ hj, state]
  | unused | posted | exitAsked | exitSeen =>
    rw [found] at here
    simp only [post]
    rw [exchange_of_ne _ (by simp [here]), here]
    exact ⟨rfl, stored⟩

/-- What an answer leaves of the states. -/
theorem state_finish (b : Batch n) (i : Fin n) (code : ResultCode) :
    (b.finish i code).state =
      if b.state i = .posted then (b.withState i .waiting).state else b.state := by
  have stored : (b.put i ((b.slot i).store (.result code.toInt))).state = b.state :=
    state_put (Slot.state_store _ _)
  have here := congrFun stored i
  rw [finish]
  by_cases posted : b.state i = .posted
  · rw [exchange_of_eq _ (here.trans posted), if_pos posted]
    funext j
    by_cases hj : j = i
    · subst hj
      simp
    · rw [state_withState_of_ne _ _ hj, state_withState_of_ne _ _ hj, stored]
  · rw [exchange_of_ne _ (by rwa [here]), if_neg posted]
    exact stored

/-- A post leaves the other slots alone. -/
theorem slot_post_of_ne (b : Batch n) {j : Fin n} (job : Job) (ne : j ≠ i) :
    (b.post i job).1.slot j = b.slot j := by
  by_cases waiting : b.state i = .waiting
  · rw [post_of_waiting job waiting]
    exact slot_put_of_ne b _ ne
  · obtain ⟨v, eq⟩ := post_of_ne job waiting
    rw [eq]
    exact slot_put_of_ne b _ ne

/-- An answer leaves the other slots alone. -/
theorem slot_finish_of_ne (b : Batch n) {j : Fin n} (code : ResultCode) (ne : j ≠ i) :
    (b.finish i code).slot j = b.slot j := by
  have stored : (b.put i ((b.slot i).store (.result code.toInt))).slot j = b.slot j :=
    slot_put_of_ne b _ ne
  rw [finish]
  by_cases posted : (b.put i ((b.slot i).store (.result code.toInt))).state i = .posted
  · rw [exchange_of_eq _ posted]
    exact (slot_withState_of_ne _ _ ne).trans stored
  · rw [exchange_of_ne _ posted]
    exact stored

/-! ## What a slot holds beside its state -/

theorem payload_withState (b : Batch n) (i : Fin n) (x : SlotState) (j : Fin n) :
    ((b.withState i x).slot j).payload = (b.slot j).payload := by
  by_cases hj : j = i
  · subst hj
    simp
  · rw [slot_withState_of_ne b x hj]

end Batch

end PluginBridge
