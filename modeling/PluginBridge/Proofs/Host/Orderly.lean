import PluginBridge.Proofs.Engine.Lateness
import PluginBridge.Proofs.HandleTable.Sizes
import PluginBridge.Proofs.Host.Quiet

/-!
# A host between two calls

A host keeps three registers: the handles of its instances, the slots and workers of the engine, and
the clients that are bound to the instances. `Host.Orderly` says how they belong together. Opening
and closing change all of them in separate steps and end with an orderly host; an extraction gives
the host back as it found it.
-/

namespace PluginBridge

namespace Engine

variable {e : Engine} {d : Dispatch slotCount} {R : Handle → Prop}

section

variable {b : Batch slotCount} (hd : e.dispatch = some d) (same : ∀ i, b.state i = d.batch.state i)

include hd same

theorem Consistent.withBatch (c : e.Consistent) : (e.withBatch d b).Consistent := by
  have alike : d.batch.Alike b :=
    ⟨fun i => by rw [Batch.inUse, same, Batch.inUse], fun i ordinary => by rwa [same]⟩
  have put : (e.putBatch ⟨e.retired.length, ⟨0, by decide⟩⟩ b).Consistent :=
    c.putBatch (b := d.batch) (by simp [batchOf?, hd]) alike
  rwa [← withBatch_self hd, putBatch_withBatch rfl] at put

theorem Serves.withBatch (serves : e.Serves R) : (e.withBatch d b).Serves R := by
  intro d' hd'
  cases hd'
  have use (i : Fin slotCount) : b.inUse i = d.batch.inUse i := by
    rw [Batch.inUse, same, Batch.inUse]
  simp only [same, use]
  exact serves d hd

omit same in
theorem clientFor_withBatch : (e.withBatch d b).clientFor = e.clientFor := by
  funext h
  rw [clientFor, clientFor, hd]
  rfl

end

end Engine

namespace Host

variable {S G : Type} {host a b : Host S G} {h k : Handle} {id : InstanceId} {thread : Thread}
  {short : Prop} {refusal : Option String} {client : Option Client}

/-- Whether there is an open instance with a client behind a handle. -/
def HasClient (host : Host S G) (h : Handle) : Prop :=
  ∃ id, host.table.get? h = some id ∧ ((host.ties? id).bind Ties.client).isSome

/-- What holds of a host between two calls. Its workers may sleep. `short` says whether instances
may be without a client because a thread could not be started. -/
structure Orderly (short : Prop) (host : Host S G) : Prop where
  consistent : host.engine.prompted.Consistent
  active : host.engine.active = host.table.size
  serves : host.engine.Serves host.HasClient
  /-- An open instance is at rest, with the client that belongs to its handle. -/
  bound : ∀ h id, host.table.get? h = some id →
    host.ties? id = some ⟨host.engine.clientFor h, false, false⟩ ∨
      short ∧ host.ties? id = some ⟨none, false, false⟩
  distinct : ∀ h k id, host.table.get? h = some id → host.table.get? k = some id → h = k
  /-- Only open instances have clients. -/
  unbound : ∀ id t c, host.ties? id = some t → t.client = some c →
    ∃ h, host.table.get? h = some id

theorem orderly_new (short : Prop) (config : Config) (machine : Nat) (shared : G) :
    (Host.new config machine shared : Host S G).Orderly short where
  consistent := by
    have fresh := Engine.consistent_new config machine
    rwa [← fresh.prompted_eq] at fresh
  active := (HandleTable.size_eq_zero.2 HandleTable.get?_empty).symm
  serves := Engine.serves_of_none rfl
  bound h id used := by simp [Host.new] at used
  distinct h k id used := by simp [Host.new] at used
  unbound id t c bound := by simp [ties?, Host.new] at bound

theorem hasClient_congr (table : b.table = a.table) (ties : ∀ id, b.ties? id = a.ties? id) :
    b.HasClient = a.HasClient := by
  funext h
  simp only [HasClient, table, ties]

namespace Orderly

/-- What another host has to share with an orderly one to be orderly. -/
theorem congr (o : a.Orderly short) (consistent : b.engine.prompted.Consistent)
    (active : b.engine.active = a.engine.active) (serves : b.engine.Serves a.HasClient)
    (clients : b.engine.clientFor = a.engine.clientFor) (table : b.table = a.table)
    (ties : ∀ id, b.ties? id = a.ties? id) : b.Orderly short where
  consistent := consistent
  active := by rw [active, table, o.active]
  serves := by rw [hasClient_congr table ties]; exact serves
  bound h id used := by
    rw [ties, clients]
    exact o.bound h id (table ▸ used)
  distinct h k id := by rw [table]; exact o.distinct h k id
  unbound id t c := by rw [ties, table]; exact o.unbound id t c

theorem beside (o : a.Orderly short) (h : a.Beside b) : b.Orderly short :=
  o.congr (by rw [h.engine]; exact o.consistent) (by rw [h.engine])
    (by rw [h.engine]; exact o.serves) (by rw [h.engine]) h.table h.ties

theorem setEnabled (o : host.Orderly short) (enabled : Bool) :
    (host.setEnabled enabled).Orderly short :=
  o.congr (o.consistent.setEnabled enabled) rfl o.serves rfl rfl fun _ => rfl

theorem mono {short' : Prop} (o : host.Orderly short) (weaker : short → short') :
    host.Orderly short' :=
  { o with bound := fun h id used => (o.bound h id used).imp_right (And.imp_left weaker) }

/-- A host whose engine is not started has no batch. -/
theorem fresh (o : host.Orderly short) (inactive : host.engine.active = 0) :
    host.engine.dispatch = none := by
  refine o.consistent.dispatch_eq_none o.serves inactive fun h ⟨id, used, _⟩ => ?_
  simp [HandleTable.size_eq_zero.1 (o.active.symm.trans inactive) h] at used

/-- An instance has its handle only. -/
theorem ne_of_ne (o : host.Orderly short) {j : InstanceId} (ne : k ≠ h)
    (used : host.table.get? h = some id) (other : host.table.get? k = some j) : j ≠ id := by
  rintro rfl
  exact ne (o.distinct k h j other used)

/-- An open instance is at rest. -/
theorem rests (o : host.Orderly short) (used : host.table.get? h = some id) :
    ∃ client, host.ties? id = some ⟨client, false, false⟩ := by
  rcases o.bound h id used with bound | ⟨-, bound⟩
  · exact ⟨_, bound⟩
  · exact ⟨_, bound⟩

/-- The slot of an instance with a client is waiting. -/
theorem waiting {d : Dispatch slotCount} (o : host.Orderly short)
    (used : host.table.get? h = some id) (hd : host.engine.dispatch = some d)
    (bound : host.ties? id = some ⟨host.engine.clientFor h, false, false⟩) :
    d.batch.state h.slot = .waiting := by
  refine (o.serves d hd).1 h ⟨id, used, ?_⟩
  rw [bound, Engine.clientFor, hd]
  rfl

/-- The slot of an instance without a client is not claimed. -/
theorem unused {d : Dispatch slotCount} (o : host.Orderly short)
    (used : host.table.get? h = some id) (hd : host.engine.dispatch = some d)
    (bound : host.ties? id = some ⟨none, false, false⟩) : d.batch.state h.slot = .unused := by
  refine o.serves.unused hd fun ⟨j, found, client⟩ => ?_
  cases used.symm.trans found
  rw [bound] at client
  cases client

end Orderly

/-! ## Opening -/

theorem Beside.tellAll (host : Host S G) (thread : Thread) (notices : List Notice) :
    host.Beside (host.tellAll thread notices) := by
  induction notices generalizing host with
  | nil => exact Beside.refl host
  | cons notice rest ih => exact (Beside.tell host thread notice).trans (ih _)

theorem ties?_lt {t : Ties} (bound : host.ties? id = some t) : id < host.instances.length := by
  obtain ⟨i, hi, -⟩ := Option.map_eq_some_iff.1 bound
  exact (List.getElem?_eq_some_iff.1 hi).1

/-- The host with a new instance under a handle, before the engine is started for it. -/
def seated (host : Host S G) (h : Handle) (state : S) : Host S G :=
  { host with
    table := host.table.put h (some host.instances.length)
    instances := host.instances ++ [Instance.fresh state] }

/-- An instance that is made has nothing bound to it. -/
theorem ties?_seated (host : Host S G) (h : Handle) (state : S) (j : InstanceId) :
    (host.seated h state).ties? j =
      if j = host.instances.length then some ⟨none, false, false⟩ else host.ties? j := by
  rw [ties?, ties?, seated, List.getElem?_append]
  split
  · next lt => rw [if_neg (Nat.ne_of_lt lt)]
  · next beyond =>
    by_cases last : j = host.instances.length
    · rw [if_pos last, last, Nat.sub_self]
      rfl
    · have out : 0 < j - host.instances.length :=
        Nat.sub_pos_of_lt (Nat.lt_of_le_of_ne (Nat.not_lt.1 beyond) (Ne.symm last))
      rw [if_neg last, List.getElem?_eq_none out,
        List.getElem?_eq_none (Nat.not_lt.1 beyond)]

theorem openInstance_of_started {state : S} {host' : Host S G} (free : host.table.free? = some h)
    (started : (host.seated h state).start thread h refusal = (host', .ok client)) :
    host.openInstance thread state refusal =
      ((host'.modify host.instances.length fun i => { i with client }).tell thread
        (.instanceOpened h), .ok h) := by
  rw [seated] at started
  simp only [openInstance, HandleTable.register_of_free free, started]

/-- A host with one more instance is orderly if the engine was started for its handle. -/
theorem Orderly.opened (o : a.Orderly short) (given : refusal ≠ none → short)
    (new : a.table.get? h = none) (consistent : b.engine.prompted.Consistent)
    (started : a.engine.Started b.engine a.HasClient h refusal client)
    (table : b.table = a.table.put h (some id)) (unseen : a.ties? id = none)
    (ties : ∀ j, b.ties? j = if j = id then some ⟨client, false, false⟩ else a.ties? j) :
    b.Orderly short := by
  have get (k : Handle) : b.table.get? k = if k = h then some id else a.table.get? k := by
    rw [table, HandleTable.get?_put]
  have fresh {k : Handle} {j : InstanceId} (used : a.table.get? k = some j) : j ≠ id := by
    rintro rfl
    obtain ⟨_, bound⟩ := o.rests used
    cases unseen.symm.trans bound
  have behind {k : Handle} {j : InstanceId} (used : b.table.get? k = some j) :
      k = h ∧ j = id ∨ k ≠ h ∧ a.table.get? k = some j ∧ b.ties? j = a.ties? j := by
    rw [get] at used
    by_cases hk : k = h
    · rw [if_pos hk] at used
      exact .inl ⟨hk, (Option.some.inj used).symm⟩
    · rw [if_neg hk] at used
      exact .inr ⟨hk, used, by rw [ties, if_neg (fresh used)]⟩
  have mine : b.ties? id = some ⟨client, false, false⟩ := by rw [ties, if_pos rfl]
  have attended (k : Handle) : b.HasClient k ↔ k = h ∧ client.isSome ∨ a.HasClient k := by
    constructor
    · rintro ⟨j, used, client⟩
      rcases behind used with ⟨rfl, rfl⟩ | ⟨-, before, same⟩
      · exact .inl ⟨rfl, by rwa [mine] at client⟩
      · exact .inr ⟨j, before, by rwa [← same]⟩
    · rintro (⟨rfl, client⟩ | ⟨j, before, client⟩)
      · exact ⟨id, by rw [get, if_pos rfl], by rwa [mine]⟩
      · have ne : k ≠ h := by
          rintro rfl
          cases new.symm.trans before
        exact ⟨j, by rw [get, if_neg ne, before], by rwa [ties, if_neg (fresh before)]⟩
  refine ⟨consistent, ?_, ?_, fun k j used => ?_, fun k l j used other => ?_,
    fun j t c bound client => ?_⟩
  · rw [started.active, table, HandleTable.size_put_some new, o.active]
  · intro d hd
    rcases started.serves with ⟨eq, serves⟩ | ⟨-, rfl, serves⟩
    · have given : client.isSome := by
        rw [eq, Engine.clientFor, hd]
        rfl
      exact serves.congr (fun k => by rw [attended, and_iff_left given]) d hd
    · exact serves.congr (fun k => by simp [attended]) d hd
  · rcases behind used with ⟨rfl, rfl⟩ | ⟨-, used, same⟩
    · rw [mine]
      rcases started.serves with ⟨eq, -⟩ | ⟨refused, eq, -⟩
      · exact .inl (by rw [eq])
      · exact .inr ⟨given refused, by rw [eq]⟩
    · have busy : 0 < a.engine.active := by
        rw [o.active]
        exact HandleTable.size_pos k used
      rw [same, started.clients busy]
      exact o.bound k j used
  · rcases behind used with ⟨rfl, rfl⟩ | ⟨-, used, -⟩ <;> rcases behind other with ⟨rfl, same⟩ | ⟨-, other, -⟩
    · rfl
    · exact absurd rfl (fresh other)
    · exact absurd same (fresh used)
    · exact o.distinct k l j used other
  · rw [ties] at bound
    by_cases hj : j = id
    · exact ⟨h, by rw [get, if_pos rfl, hj]⟩
    · rw [if_neg hj] at bound
      obtain ⟨k, used⟩ := o.unbound j t c bound client
      refine ⟨k, ?_⟩
      rw [get, if_neg, used]
      rintro rfl
      simp [new] at used

/-- Opening an instance works as long as there is a handle for it. -/
theorem Orderly.openInstance (o : host.Orderly short) (given : refusal ≠ none → short)
    (free : host.table.free? = some h) (thread : Thread) (state : S) :
    (host.openInstance thread state refusal).1.Orderly short ∧
      (host.openInstance thread state refusal).1.table =
        host.table.put h (some host.instances.length) ∧
      (host.openInstance thread state refusal).2 = .ok h := by
  have new := (HandleTable.free?_spec free).1
  have nobody (inactive : host.engine.active = 0) (k : Handle) : ¬ host.HasClient k := by
    rintro ⟨j, used, -⟩
    simp [HandleTable.size_eq_zero.1 (o.active.symm.trans inactive) k] at used
  have unserved : ¬ host.HasClient h := by
    rintro ⟨j, used, -⟩
    cases new.symm.trans used
  obtain ⟨e', client, eq, consistent, began⟩ :=
    Engine.start_serves o.consistent o.serves nobody unserved refusal
  let made : Host S G := { host.seated h state with engine := e' }
  have told := Beside.tellAll made thread (host.engine.startNotices e' h refusal (.ok client))
  have started : (host.seated h state).start thread h refusal =
      (made.tellAll thread (host.engine.startNotices e' h refusal (.ok client)), .ok client) := by
    have eq : (host.seated h state).engine.start h refusal = _ := eq
    rw [Host.start, eq]
    rfl
  rw [openInstance_of_started free started]
  generalize made.tellAll thread _ = after at told
  have engine : after.engine = e' := told.engine
  have began : host.engine.Started after.engine host.HasClient h refusal client := engine ▸ began
  refine ⟨Orderly.beside (a := after.modify host.instances.length fun i =>
    { i with client }) ?_ (Beside.tell ..), told.table, rfl⟩
  refine o.opened given new (engine ▸ consistent) began told.table
    (Option.eq_none_iff_forall_ne_some.2 fun t bound => Nat.lt_irrefl _ (ties?_lt bound)) fun j => ?_
  rw [ties?_modify (g := fun t => { t with client }) fun _ => rfl, told.ties]
  change (if _ then ((host.seated h state).ties? j).map _ else (host.seated h state).ties? j) = _
  rw [ties?_seated]
  by_cases hj : j = host.instances.length
  · simp only [if_pos hj, Option.map_some]
  · simp only [if_neg hj]

/-! ## Closing -/

theorem clientHeld_of_ties? {t : Ties} (bound : host.ties? id = some t)
    (free : t.clientHeld = false) : ¬ host.instances[id]?.any Instance.clientHeld := by
  obtain ⟨i, hi, rfl⟩ := Option.map_eq_some_iff.1 bound
  have free : i.clientHeld = false := free
  simp [hi, free]

theorem closeInstance_of_stopped {host' : Host S G} {t : Ties} (used : host.table.get? h = some id)
    (stopped : host.stop thread h = (host', .ok ())) (table : host'.table = host.table)
    (bound : host'.ties? id = some t) (free : t.clientHeld = false) :
    host.closeInstance thread h =
      (({ host'.modify id fun i => { i with client := none } with
          table := host.table.put h none }).tell thread (.instanceClosed h), .ok (.ok ())) := by
  have revoked : (host'.modify id fun i => { i with client := none }).table.revoke h =
      .ok (id, host.table.put h none) := by
    change host'.table.revoke h = _
    rw [table, HandleTable.revoke_of_some used]
  rw [closeInstance, HandleTable.lookup_of_some used]
  simp only [stopped, if_neg (clientHeld_of_ties? bound free), revoked]

/-- A host with one instance less is orderly if the engine was stopped for its handle. -/
theorem Orderly.closed (o : a.Orderly short) (used : a.table.get? h = some id)
    (consistent : b.engine.prompted.Consistent)
    (stopped : a.engine.Stopped b.engine a.HasClient h) (table : b.table = a.table.put h none)
    (ties : ∀ j, b.ties? j = if j = id then some ⟨none, false, false⟩ else a.ties? j) :
    b.Orderly short := by
  have get (k : Handle) : b.table.get? k = if k = h then none else a.table.get? k := by
    rw [table, HandleTable.get?_put]
  have still {k : Handle} {j : InstanceId} (found : b.table.get? k = some j) :
      k ≠ h ∧ a.table.get? k = some j ∧ b.ties? j = a.ties? j := by
    rw [get] at found
    by_cases hk : k = h
    · simp [hk] at found
    · rw [if_neg hk] at found
      exact ⟨hk, found, by rw [ties, if_neg (o.ne_of_ne hk used found)]⟩
  have attended (k : Handle) : b.HasClient k ↔ k ≠ h ∧ a.HasClient k := by
    constructor
    · rintro ⟨j, found, client⟩
      obtain ⟨ne, before, same⟩ := still found
      exact ⟨ne, j, before, by rwa [← same]⟩
    · rintro ⟨ne, j, before, client⟩
      exact ⟨j, by rw [get, if_neg ne, before], by rwa [ties, if_neg (o.ne_of_ne ne used before)]⟩
  have size : b.table.size + 1 = a.table.size := by
    rw [table, HandleTable.size_put_none used]
  refine ⟨consistent, ?_, stopped.serves.congr fun k => (attended k).symm, fun k j found => ?_,
    fun k l j found other => ?_, fun j t c bound client => ?_⟩
  · have count := o.active
    have less := stopped.active
    omega
  · obtain ⟨ne, before, same⟩ := still found
    have more : 1 < a.engine.active := by
      have rest := HandleTable.size_pos k found
      have count := o.active
      omega
    rw [same, stopped.clients more]
    exact o.bound k j before
  · exact o.distinct k l j (still found).2.1 (still other).2.1
  · rw [ties] at bound
    by_cases hj : j = id
    · rw [if_pos hj] at bound
      cases bound
      cases client
    · rw [if_neg hj] at bound
      obtain ⟨k, before⟩ := o.unbound j t c bound client
      refine ⟨k, ?_⟩
      rw [get, if_neg, before]
      rintro rfl
      exact hj (Option.some.inj (before.symm.trans used))

theorem Orderly.active_pos (o : host.Orderly short) (used : host.table.get? h = some id) :
    0 < host.engine.active := by
  rw [o.active]
  exact HandleTable.size_pos h used

/-- Closing an open instance works, unless that asks a worker that sleeps. -/
theorem Orderly.closeInstance (o : host.Orderly short) (used : host.table.get? h = some id)
    (awake : ∀ d, ¬ host.engine.Late h d) (thread : Thread) :
    (host.closeInstance thread h).1.Orderly short ∧
      (host.closeInstance thread h).1.table = host.table.put h none ∧
      (host.closeInstance thread h).2 = .ok (.ok ()) := by
  have last (one : host.engine.active = 1) (k : Handle) (attended : host.HasClient k) : k = h := by
    refine Decidable.byContradiction fun ne => ?_
    obtain ⟨j, other, -⟩ := attended
    have rest := HandleTable.size_pos (t := host.table.put h none) k
      (by rw [HandleTable.get?_put_of_ne _ _ ne, other])
    have size := HandleTable.size_put_none used
    have count := o.active
    omega
  obtain ⟨e', eq, consistent, less⟩ :=
    Engine.stop_serves o.consistent o.serves (o.active_pos used) last awake
  let ended : Host S G := { host with engine := e' }
  have told := Beside.tellAll ended thread (host.engine.stopNotices e' h)
  have stopped : host.stop thread h =
      (ended.tellAll thread (host.engine.stopNotices e' h), .ok ()) := by
    rw [Host.stop, eq]
  generalize ended.tellAll thread _ = after at told stopped
  have engine : after.engine = e' := told.engine
  have ties (j : InstanceId) : after.ties? j = host.ties? j := told.ties j
  obtain ⟨client, bound⟩ := o.rests used
  rw [closeInstance_of_stopped used stopped told.table ((ties id).trans bound) rfl]
  refine ⟨Orderly.beside (a := { after.modify id fun i => { i with client := none } with
    table := host.table.put h none }) ?_ (Beside.tell ..), rfl, rfl⟩
  refine o.closed used (engine ▸ consistent) (engine ▸ less) rfl fun j => ?_
  change (after.modify id fun i => { i with client := none }).ties? j = _
  rw [ties?_modify (g := fun t => { t with client := none }) fun _ => rfl, ties]
  by_cases hj : j = id
  · rw [if_pos hj, if_pos hj, hj, bound]
    rfl
  · rw [if_neg hj, if_neg hj]

/-- Closing an instance whose worker sleeps is answered with the request that it leaves behind, if
no other slot of that worker is claimed. The instance stays open. -/
theorem Orderly.closeInstance_of_late {d : Dispatch slotCount} (o : host.Orderly short)
    (used : host.table.get? h = some id) (late : host.engine.Late h d) (thread : Thread) :
    (host.closeInstance thread h).1.table = host.table ∧
      (host.closeInstance thread h).2 =
        .ok (.error (.transitionStalled (d.owner h.slot) .exitSeen .exitAsked)) := by
  have answer := Engine.stop_of_late (o.active_pos used) late
  have told := Beside.tellAll { host with engine := (host.engine.stop h).1 } thread
    (host.engine.stopNotices (host.engine.stop h).1 h)
  have stopped : host.stop thread h =
      (Host.tellAll { host with engine := (host.engine.stop h).1 } thread
        (host.engine.stopNotices (host.engine.stop h).1 h),
        .error (.transitionStalled (d.owner h.slot) .exitSeen .exitAsked)) := by
    rw [Host.stop, ← answer]
  rw [Host.closeInstance, HandleTable.lookup_of_some used]
  simp only [stopped, and_true]
  exact told.table

end Host

end PluginBridge
