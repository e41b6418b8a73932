import PluginBridge.HandleTable.Shared
import PluginBridge.Proofs.HandleTable.Sizes

/-!
# What a handle table stands for

A table stands for a finite map from handles to values that have several owners. `Shelf` is that
map, together with the values made so far and the shares that callers have; `Shelf.Step` says what
each call may answer and what it leaves, without a word on how a table is kept.

The callers of a table are modelled with it, as the shares that they hold (`Custody`): only a share
that somebody holds can be copied, given up or passed on. Every run of calls is a run of the map,
and in every state the owners of a value are the shares outside the table and the handles it lies
under (`stands_for_counted_map`).
-/

namespace PluginBridge

/-! ## Owners -/

namespace SharedTable

variable {α : Type} {t : SharedTable α} {id j : ValueId} {h : Handle}

/-- The handles that a value lies under, counted. -/
def shares (t : SharedTable α) (id : ValueId) : Nat :=
  Handle.all.countP fun h => t.table.get? h == some id

theorem lt_of_owned (owned : 0 < t.owners id) : id < t.values.length := by
  refine Nat.lt_of_not_le fun le => ?_
  simp [owners, List.getElem?_eq_none le] at owned

theorem owners_release (t : SharedTable α) (id j : ValueId) :
    (t.release id).owners j = t.owners j - if j = id then 1 else 0 := by
  by_cases same : j = id
  · subst same
    cases known : t.values[j]? <;> simp [release, adjust, owners, known]
  · have other : ¬ id = j := Ne.symm same
    simp [release, adjust, owners, same, other]

theorem owners_retain (owned : 0 < t.owners id) :
    (t.retain id).owners j = t.owners j + if j = id then 1 else 0 := by
  by_cases same : j = id
  · subst same
    have lt := lt_of_owned owned
    simp [retain, adjust, owners, lt]
  · have other : ¬ id = j := Ne.symm same
    simp [retain, adjust, owners, same, other]

theorem owners_create (t : SharedTable α) (v : α) (j : ValueId) :
    (t.create v).2.owners j = t.owners j + if j = t.values.length then 1 else 0 := by
  rcases Nat.lt_trichotomy j t.values.length with lt | rfl | gt
  · simp [create, owners, List.getElem?_append_left lt, Nat.ne_of_lt lt]
  · simp [create, owners]
  · have beyond : t.values[j]? = none := List.getElem?_eq_none (Nat.le_of_lt gt)
    have beyond' : (t.values ++ [⟨v, 1⟩])[j]? = none :=
      List.getElem?_eq_none (by simp only [List.length_append, List.length_singleton]; exact gt)
    simp [create, owners, beyond, beyond', Nat.ne_of_gt gt]

/-- Giving up a share leaves what every value is. -/
theorem contents_adjust (t : SharedTable α) (id : ValueId) (f : Nat → Nat) :
    (t.adjust id f).values.map SharedValue.value = t.values.map SharedValue.value := by
  apply List.ext_getElem?
  intro j
  cases known : t.values[j]? <;> by_cases same : id = j <;>
    simp [adjust, known, same]

theorem shares_put (free : t.table.get? h = none) :
    SharedTable.shares { t with table := t.table.put h (some id) } j
      = t.shares j + if j = id then 1 else 0 := by
  by_cases same : j = id
  · subst same
    rw [if_pos rfl]
    refine Handle.countP_all h (by simp [free]) (by simp) fun k ne => ?_
    simp only [HandleTable.get?_put_of_ne t.table _ ne]
  · rw [if_neg same, Nat.add_zero]
    refine List.countP_congr fun k _ => ?_
    rw [HandleTable.get?_put]
    by_cases hk : k = h
    · subst hk
      simp [free, Ne.symm same]
    · rw [if_neg hk]

theorem shares_take (used : t.table.get? h = some id) :
    t.shares j
      = SharedTable.shares { t with table := t.table.put h none } j + if j = id then 1 else 0 := by
  by_cases same : j = id
  · subst same
    rw [if_pos rfl]
    refine Handle.countP_all h (by simp) (by simp [used]) fun k ne => ?_
    simp only [HandleTable.get?_put_of_ne t.table _ ne]
  · rw [if_neg same, Nat.add_zero]
    refine List.countP_congr fun k _ => ?_
    rw [HandleTable.get?_put]
    by_cases hk : k = h
    · subst hk
      simp [used, Ne.symm same]
    · rw [if_neg hk]

theorem shares_pos (used : t.table.get? h = some id) : 0 < t.shares id :=
  List.countP_pos_iff.2 ⟨h, Handle.mem_all h, by simp [used]⟩

/-- The values of a table, each as often as there are handles to it. -/
theorem count_values (t : SharedTable α) (id : ValueId) :
    t.table.values.count id = t.shares id := by
  rw [HandleTable.values, List.count, List.countP_filterMap, shares]
  refine List.countP_congr fun h _ => ?_
  cases t.table.get? h <;> simp

theorem owners_foldl_release (ids : List ValueId) (t : SharedTable α) (j : ValueId) :
    (ids.foldl release t).owners j = t.owners j - ids.count j := by
  induction ids generalizing t with
  | nil => simp
  | cons id rest ih =>
    rw [List.foldl_cons, ih, owners_release, List.count_cons, Nat.sub_sub]
    congr 1
    by_cases same : j = id
    · simp [same, Nat.add_comm]
    · simp [same, Ne.symm same]

/-- Registering puts the share under the smallest free handle, or gives it up. -/
theorem register_cases (t : SharedTable α) (id : ValueId) :
    (∃ h, t.table.free? = some h ∧
      t.register id = (.ok h, { t with table := t.table.put h (some id) })) ∨
    (t.table.free? = none ∧
      t.register id = (.error (.capacityExhausted registerRounds), t.release id)) := by
  cases free : t.table.free? with
  | some h => exact .inl ⟨h, rfl, by rw [register, HandleTable.register_of_free free]⟩
  | none => exact .inr ⟨rfl, by rw [register, HandleTable.register_of_full free]⟩

end SharedTable

/-! ## Calls -/

/-- A call on a table, or what a caller does with a share of its own. -/
inductive TableCall (α : Type) where
  /-- Make a value, outside the table. -/
  | make (v : α)
  /-- Have one more share of a value. -/
  | copy (id : ValueId)
  | giveUp (id : ValueId)
  /-- Register a value that nobody has a share of yet. -/
  | registerNew (v : α)
  /-- Register a value, passing on a share of it. -/
  | register (id : ValueId)
  | lookup (h : Handle)
  | revoke (h : Handle)

/-- The answer of a call. -/
inductive TableReply where
  | done
  /-- The caller has no share to deal with. -/
  | unavailable
  | handle (r : Except Violation Handle)
  /-- A share of a value for the caller. -/
  | share (r : Except Violation ValueId)
  deriving DecidableEq

/-- A table and its callers: the shares that they hold, each by the value that it is of. -/
structure Custody (α : Type) where
  shared : SharedTable α
  held : List ValueId

namespace Custody

variable {α : Type}

/-- No values, and nobody who holds any. -/
def empty : Custody α := ⟨SharedTable.empty, []⟩

/-- A call with a share that has to be held by its caller. -/
def withShare (c : Custody α) (id : ValueId) (f : Custody α × TableReply) : Custody α × TableReply :=
  if id ∈ c.held then f else (c, .unavailable)

/-- The callers get the share that a call hands out. -/
def receive (c : Custody α) (a : Except Violation ValueId × SharedTable α) :
    Custody α × TableReply :=
  match a with
  | (.ok id, shared) => (⟨shared, id :: c.held⟩, .share (.ok id))
  | (.error v, shared) => (⟨shared, c.held⟩, .share (.error v))

/-- Do a call. -/
def perform (c : Custody α) : TableCall α → Custody α × TableReply
  | .make v => c.receive ((.ok (c.shared.create v).1), (c.shared.create v).2)
  | .copy id => c.withShare id (⟨c.shared.retain id, id :: c.held⟩, .done)
  | .giveUp id => c.withShare id (⟨c.shared.release id, c.held.erase id⟩, .done)
  | .registerNew v =>
    let (r, shared) := (c.shared.create v).2.register (c.shared.create v).1
    (⟨shared, c.held⟩, .handle r)
  | .register id =>
    let (r, shared) := c.shared.register id
    c.withShare id (⟨shared, c.held.erase id⟩, .handle r)
  | .lookup h => c.receive (c.shared.lookup h)
  | .revoke h => c.receive (c.shared.revoke h)

/-- Do calls one after the other, and collect what they answer. -/
def performAll (c : Custody α) : List (TableCall α) → Custody α × List TableReply
  | [] => (c, [])
  | call :: calls =>
    let (c', reply) := c.perform call
    let (c'', replies) := c'.performAll calls
    (c'', reply :: replies)

end Custody

/-! ## The map -/

/-- A finite map from handles to values, the values made so far, and the shares outside the map. -/
structure Shelf (α : Type) where
  values : List α
  entries : Handle → Option ValueId
  outside : List ValueId

namespace Shelf

variable {α : Type}

/-- The map without values. -/
def empty : Shelf α := ⟨[], fun _ => none, []⟩

/-- The map with another value, or none, under a handle. -/
def store (s : Shelf α) (h : Handle) (v : Option ValueId) : Shelf α :=
  { s with entries := fun k => if k = h then v else s.entries k }

/-- The map after a value was made that nobody has a share of. -/
def grown (s : Shelf α) (v : α) : Shelf α := { s with values := s.values ++ [v] }

/-- A free handle below which no handle is free. -/
def Least (s : Shelf α) (h : Handle) : Prop :=
  s.entries h = none ∧ ∀ k : Handle, k.raw < h.raw → s.entries k ≠ none

/-- What a call may answer, and what it leaves. -/
inductive Step (s : Shelf α) : TableCall α → TableReply → Shelf α → Prop
  | make (v : α) :
    Step s (.make v) (.share (.ok s.values.length))
      { s.grown v with outside := s.values.length :: s.outside }
  | copy {id : ValueId} (held : id ∈ s.outside) :
    Step s (.copy id) .done { s with outside := id :: s.outside }
  | copyUnheld {id : ValueId} (unheld : id ∉ s.outside) : Step s (.copy id) .unavailable s
  | giveUp {id : ValueId} (held : id ∈ s.outside) :
    Step s (.giveUp id) .done { s with outside := s.outside.erase id }
  | giveUpUnheld {id : ValueId} (unheld : id ∉ s.outside) : Step s (.giveUp id) .unavailable s
  | registerNew (v : α) {h : Handle} (least : s.Least h) :
    Step s (.registerNew v) (.handle (.ok h)) ((s.grown v).store h (some s.values.length))
  /-- Nobody has a share of the new value then. -/
  | registerNewFull (v : α) (full : ∀ h, s.entries h ≠ none) :
    Step s (.registerNew v) (.handle (.error (.capacityExhausted registerRounds))) (s.grown v)
  | register {id : ValueId} {h : Handle} (held : id ∈ s.outside) (least : s.Least h) :
    Step s (.register id) (.handle (.ok h))
      { s.store h (some id) with outside := s.outside.erase id }
  /-- Just the share that was passed in is lost. -/
  | registerFull {id : ValueId} (held : id ∈ s.outside) (full : ∀ h, s.entries h ≠ none) :
    Step s (.register id) (.handle (.error (.capacityExhausted registerRounds)))
      { s with outside := s.outside.erase id }
  | registerUnheld {id : ValueId} (unheld : id ∉ s.outside) : Step s (.register id) .unavailable s
  | lookup {h : Handle} {id : ValueId} (used : s.entries h = some id) :
    Step s (.lookup h) (.share (.ok id)) { s with outside := id :: s.outside }
  | lookupFree {h : Handle} (free : s.entries h = none) :
    Step s (.lookup h) (.share (.error (.invalidHandle "lookup" h.raw))) s
  | revoke {h : Handle} {id : ValueId} (used : s.entries h = some id) :
    Step s (.revoke h) (.share (.ok id)) { s.store h none with outside := id :: s.outside }
  | revokeFree {h : Handle} (free : s.entries h = none) :
    Step s (.revoke h) (.share (.error (.invalidHandle "revoke" h.raw))) s

/-- What a run of calls may answer, and what it leaves. -/
inductive Run : Shelf α → List (TableCall α) → List TableReply → Shelf α → Prop
  | nil (s : Shelf α) : Run s [] [] s
  | cons {s s' s'' : Shelf α} {call : TableCall α} {calls : List (TableCall α)} {reply : TableReply}
    {replies : List TableReply} (step : s.Step call reply s') (rest : Run s' calls replies s'') :
    Run s (call :: calls) (reply :: replies) s''

end Shelf

/-! ## Each call is a step of the map -/

namespace HandleTable

variable {α : Type} {t : HandleTable α}

theorem isSome_of_full (full : t.free? = none) (h : Handle) : t.get? h ≠ none := by
  have all := List.find?_eq_none.1 full h (Handle.mem_all h)
  simpa using all

/-- The handles in use, each once. -/
theorem taken_spec (t : HandleTable α) :
    let taken := Handle.all.filter fun h => (t.get? h).isSome
    taken.Nodup ∧ (∀ h, h ∈ taken ↔ t.get? h ≠ none) ∧ taken.length = t.size := by
  have distinct : Handle.all.Nodup :=
    Handle.all_pairwise.imp fun lt same => Nat.ne_of_lt lt (congrArg Handle.raw same)
  refine ⟨distinct.filter _, fun h => ?_, List.countP_eq_length_filter.symm⟩
  simp [List.mem_filter, Handle.mem_all, Option.isSome_iff_ne_none]

end HandleTable

namespace Custody

variable {α : Type} {c : Custody α} {id : ValueId} {h : Handle}

/-- The map that a table and its callers stand for. -/
def shelf (c : Custody α) : Shelf α :=
  ⟨c.shared.values.map SharedValue.value, c.shared.table.get?, c.held⟩

/-- The owners of a value are the shares outside the table and the handles that it lies under. -/
def Counted (c : Custody α) : Prop :=
  ∀ id, c.shared.owners id = c.held.count id + c.shared.shares id

theorem Counted.owned_of_held (counted : c.Counted) (held : id ∈ c.held) :
    0 < c.shared.owners id := by
  rw [counted]
  exact Nat.add_pos_left (List.count_pos_iff.2 held) _

theorem Counted.owned_of_used (counted : c.Counted) (used : c.shared.table.get? h = some id) :
    0 < c.shared.owners id := by
  rw [counted]
  exact Nat.add_pos_right _ (SharedTable.shares_pos used)

theorem counted_empty : (empty : Custody α).Counted := by
  intro id
  simp [empty, SharedTable.empty, SharedTable.owners, SharedTable.shares]

theorem count_cons_eq (held : List ValueId) (id j : ValueId) :
    (id :: held).count j = held.count j + if j = id then 1 else 0 := by
  rw [List.count_cons]
  by_cases same : j = id
  · simp [same]
  · simp [same, Ne.symm same]

theorem count_erase_add (held : id ∈ c.held) (j : ValueId) :
    (c.held.erase id).count j + (if j = id then 1 else 0) = c.held.count j := by
  rw [← count_cons_eq, (List.perm_cons_erase held).count_eq]

/-- A new value, of which the caller holds the only share. -/
theorem Counted.create (counted : c.Counted) (v : α) :
    Counted ⟨(c.shared.create v).2, c.shared.values.length :: c.held⟩ := by
  intro j
  have shares : (c.shared.create v).2.shares j = c.shared.shares j := rfl
  rw [SharedTable.owners_create, shares, counted j, count_cons_eq]
  omega

/-- One more share, of a value that has an owner. -/
theorem Counted.retain (counted : c.Counted) (owned : 0 < c.shared.owners id) :
    Counted ⟨c.shared.retain id, id :: c.held⟩ := by
  intro j
  have shares : (c.shared.retain id).shares j = c.shared.shares j := rfl
  rw [SharedTable.owners_retain owned, shares, counted j, count_cons_eq]
  omega

/-- A share that its holder gives up. -/
theorem Counted.release (counted : c.Counted) (held : id ∈ c.held) :
    Counted ⟨c.shared.release id, c.held.erase id⟩ := by
  intro j
  have left := count_erase_add held j
  have shares : (c.shared.release id).shares j = c.shared.shares j := rfl
  rw [SharedTable.owners_release, shares, counted j]
  simp only
  omega

/-- A share that its holder passes on to the table. -/
theorem Counted.put (counted : c.Counted) (held : id ∈ c.held)
    (free : c.shared.table.get? h = none) :
    Counted ⟨{ c.shared with table := c.shared.table.put h (some id) }, c.held.erase id⟩ := by
  intro j
  have was := counted j
  have left := count_erase_add held j
  rw [SharedTable.shares_put free]
  change c.shared.owners j = _
  simp only
  omega

/-- A share that the table passes on to a caller. -/
theorem Counted.take (counted : c.Counted) (used : c.shared.table.get? h = some id) :
    Counted ⟨{ c.shared with table := c.shared.table.put h none }, id :: c.held⟩ := by
  intro j
  have was := counted j
  rw [SharedTable.shares_take used] at was
  change c.shared.owners j = _
  rw [was, count_cons_eq, Nat.add_right_comm, Nat.add_assoc]

/-! ### The steps -/

theorem shelf_put (c : Custody α) (h : Handle) (v : Option ValueId) (held : List ValueId) :
    shelf ⟨{ c.shared with table := c.shared.table.put h v }, held⟩
      = { c.shelf.store h v with outside := held } := by
  simp only [shelf, Shelf.store, Shelf.mk.injEq, true_and, and_true]
  funext k
  exact HandleTable.get?_put c.shared.table h k v

theorem shelf_adjust (c : Custody α) (id : ValueId) (f : Nat → Nat) (held : List ValueId) :
    shelf ⟨c.shared.adjust id f, held⟩ = { c.shelf with outside := held } := by
  simp only [shelf, SharedTable.contents_adjust]
  rfl

theorem shelf_create (c : Custody α) (v : α) (held : List ValueId) :
    shelf ⟨(c.shared.create v).2, held⟩ = { c.shelf.grown v with outside := held } := by
  simp [shelf, SharedTable.create, Shelf.grown]

theorem least_of_free? (free : c.shared.table.free? = some h) : c.shelf.Least h := by
  obtain ⟨none, below⟩ := HandleTable.free?_spec free
  exact ⟨none, fun k lt => Option.isSome_iff_ne_none.1 (below k lt)⟩

/-- What a call does is a step of the map, and keeps the owners counted. -/
def Follows (c : Custody α) (call : TableCall α) : Prop :=
  c.shelf.Step call (c.perform call).2 (c.perform call).1.shelf ∧ (c.perform call).1.Counted

theorem Counted.follows_make (counted : c.Counted) (v : α) : c.Follows (.make v) := by
  refine ⟨?_, counted.create v⟩
  have made := Shelf.Step.make v (s := c.shelf)
  simp only [perform, receive, shelf_create]
  simpa [shelf, SharedTable.create] using made

theorem Counted.follows_copy (counted : c.Counted) (id : ValueId) : c.Follows (.copy id) := by
  by_cases held : id ∈ c.held
  · simp only [Follows, perform, withShare, if_pos held]
    refine ⟨?_, counted.retain (counted.owned_of_held held)⟩
    rw [SharedTable.retain, shelf_adjust]
    exact .copy held
  · simp only [Follows, perform, withShare, if_neg held]
    exact ⟨.copyUnheld held, counted⟩

theorem Counted.follows_giveUp (counted : c.Counted) (id : ValueId) : c.Follows (.giveUp id) := by
  by_cases held : id ∈ c.held
  · simp only [Follows, perform, withShare, if_pos held]
    refine ⟨?_, counted.release held⟩
    rw [SharedTable.release, shelf_adjust]
    exact .giveUp held
  · simp only [Follows, perform, withShare, if_neg held]
    exact ⟨.giveUpUnheld held, counted⟩

theorem Counted.follows_register (counted : c.Counted) (id : ValueId) :
    c.Follows (.register id) := by
  by_cases held : id ∈ c.held
  · simp only [Follows, perform, withShare, if_pos held]
    rcases c.shared.register_cases id with ⟨h, free, eq⟩ | ⟨full, eq⟩
    · rw [eq]
      refine ⟨?_, counted.put held (HandleTable.free?_spec free).1⟩
      simp only [shelf_put]
      exact .register held (least_of_free? free)
    · rw [eq]
      refine ⟨?_, counted.release held⟩
      simp only [SharedTable.release, shelf_adjust]
      exact .registerFull held (HandleTable.isSome_of_full full)
  · simp only [Follows, perform, withShare, if_neg held]
    exact ⟨.registerUnheld held, counted⟩

/-- A value that is registered at once is made, held for a moment, and passed on. -/
theorem Counted.follows_registerNew (counted : c.Counted) (v : α) :
    c.Follows (.registerNew v) := by
  have made := counted.create v
  have held : c.shared.values.length ∈ c.shared.values.length :: c.held := List.mem_cons_self ..
  have fresh : c.shelf.values.length = c.shared.values.length := List.length_map _
  simp only [Follows, perform]
  rcases (c.shared.create v).2.register_cases (c.shared.create v).1 with ⟨h, free, eq⟩ | ⟨full, eq⟩
  · rw [eq]
    have kept := made.put held (HandleTable.free?_spec free).1
    rw [List.erase_cons_head] at kept
    refine ⟨?_, kept⟩
    have step := Shelf.Step.registerNew v (least_of_free? (c := c) free)
    have left := shelf_put ⟨(c.shared.create v).2, c.held⟩ h (some c.shared.values.length) c.held
    rw [shelf_create] at left
    rw [fresh] at step
    exact (congrArg (c.shelf.Step _ _) left).mpr step
  · rw [eq]
    have kept := made.release held
    rw [List.erase_cons_head] at kept
    refine ⟨?_, kept⟩
    have taken : ∀ k, c.shelf.entries k ≠ none := HandleTable.isSome_of_full full
    have left := shelf_adjust ⟨(c.shared.create v).2, c.held⟩ c.shared.values.length (· - 1) c.held
    rw [shelf_create] at left
    exact (congrArg (c.shelf.Step _ _) left).mpr (.registerNewFull v taken)

theorem Counted.follows_lookup (counted : c.Counted) (h : Handle) : c.Follows (.lookup h) := by
  cases used : c.shared.table.get? h with
  | some id =>
    simp only [Follows, perform, receive, SharedTable.lookup, HandleTable.lookup_of_some used]
    refine ⟨?_, counted.retain (counted.owned_of_used used)⟩
    rw [SharedTable.retain, shelf_adjust]
    exact .lookup used
  | none =>
    simp only [Follows, perform, receive, SharedTable.lookup, HandleTable.lookup_of_none used]
    exact ⟨.lookupFree used, counted⟩

theorem Counted.follows_revoke (counted : c.Counted) (h : Handle) : c.Follows (.revoke h) := by
  cases used : c.shared.table.get? h with
  | some id =>
    simp only [Follows, perform, receive, SharedTable.revoke, HandleTable.revoke_of_some used]
    refine ⟨?_, counted.take used⟩
    rw [shelf_put]
    exact .revoke used
  | none =>
    simp only [Follows, perform, receive, SharedTable.revoke, HandleTable.revoke_of_none used]
    exact ⟨.revokeFree used, counted⟩

/-- Every call is a step of the map. -/
theorem Counted.follows (counted : c.Counted) (call : TableCall α) : c.Follows call := by
  cases call with
  | make v => exact counted.follows_make v
  | copy id => exact counted.follows_copy id
  | giveUp id => exact counted.follows_giveUp id
  | registerNew v => exact counted.follows_registerNew v
  | register id => exact counted.follows_register id
  | lookup h => exact counted.follows_lookup h
  | revoke h => exact counted.follows_revoke h

/-! ## Runs -/

/-- Every run of calls is a run of the map, and keeps the owners counted. -/
theorem Counted.performAll (counted : c.Counted) (calls : List (TableCall α)) :
    Shelf.Run c.shelf calls (c.performAll calls).2 (c.performAll calls).1.shelf ∧
      (c.performAll calls).1.Counted := by
  induction calls generalizing c with
  | nil => exact ⟨.nil _, counted⟩
  | cons call calls ih =>
    obtain ⟨step, kept⟩ := counted.follows call
    obtain ⟨rest, last⟩ := ih kept
    exact ⟨.cons step rest, last⟩

/-- A table that goes away gives up each of its shares while it still counts as an owner, and
leaves the shares outside the table. -/
theorem Counted.dropTable (counted : c.Counted) :
    (∀ released id rest, c.shared.table.values = released ++ id :: rest →
      0 < (released.foldl SharedTable.release c.shared).owners id) ∧
    ∀ id, c.shared.dropTable.owners id = c.held.count id := by
  constructor
  · intro released id rest split
    have shares := c.shared.count_values id
    rw [split, List.count_append, List.count_cons_self] at shares
    rw [SharedTable.owners_foldl_release, counted id]
    omega
  · intro id
    have gone : c.shared.dropTable.owners id
        = (c.shared.table.values.foldl SharedTable.release c.shared).owners id := rfl
    rw [gone, SharedTable.owners_foldl_release, counted id, SharedTable.count_values]
    exact Nat.add_sub_cancel ..

/-- **A handle table stands for a finite map with counted owners.** Every run of calls answers what
the map may answer, and leaves what the map leaves. In every state that a run leads to, the size of
the table is the number of handles in use, each handle in use leads to a value, and the owners of a
value are the shares outside the table together with the handles that the value lies under. When
the table goes away there, it gives up each of its shares once, while that share is still counted,
so that the owners left are the shares outside. -/
theorem stands_for_counted_map (calls : List (TableCall α)) :
    let (c, replies) := (empty : Custody α).performAll calls
    Shelf.Run Shelf.empty calls replies c.shelf ∧
    (∃ taken : List Handle, taken.Nodup ∧ (∀ h, h ∈ taken ↔ c.shelf.entries h ≠ none) ∧
      taken.length = c.shared.table.size) ∧
    (∀ h id, c.shelf.entries h = some id → ∃ v, c.shelf.values[id]? = some v) ∧
    (∀ id, c.shared.owners id = c.held.count id + c.shared.shares id) ∧
    (∀ released id rest, c.shared.table.values = released ++ id :: rest →
      0 < (released.foldl SharedTable.release c.shared).owners id) ∧
    (∀ id, c.shared.dropTable.owners id = c.held.count id) ∧
    ∀ h, c.shared.dropTable.table.get? h = none := by
  obtain ⟨run, counted⟩ := (counted_empty (α := α)).performAll calls
  have start : (empty : Custody α).shelf = Shelf.empty := by
    simp only [shelf, empty, SharedTable.empty, Shelf.empty, List.map_nil, Shelf.mk.injEq, true_and,
      and_true]
    exact funext HandleTable.get?_empty
  refine ⟨start ▸ run, ⟨_, HandleTable.taken_spec _⟩, fun h id used => ?_, counted,
    counted.dropTable.1, counted.dropTable.2, HandleTable.get?_empty⟩
  have known := SharedTable.lt_of_owned (counted.owned_of_used used)
  exact ⟨_, List.getElem?_eq_getElem (by simpa [shelf] using known)⟩

end Custody

end PluginBridge
