import Mathlib.Logic.Function.Basic
import Mathlib.Logic.Relation
import PluginBridge.Proofs.Engine.Attention
import PluginBridge.Proofs.Host.Nesting

/-!
# Several callers of a host

A `Crowd` is a host with everything that its callers have under way. Each caller goes its own way: it
opens and closes instances, posts requests, has them served on a worker's thread and collects the
answers, takes buffers and puts them back; in between it may have to wait. `Crowd.Step` is one move
of one of them, or of a thread of the engine, which may be as late as it likes. So `Crowd.Leads`
covers all orders in which the callers of a host can do what they do, at any depth of nesting.

A slot is posted, and buffers are in use, for one caller each (`Crowd.Sound`), and a worker serves
one caller at a time.
-/

namespace PluginBridge

/-- What a caller waits for. -/
inductive Wait where
  /-- The worker of a slot is to take up a request that was posted there. -/
  | worker (c : Client)
  /-- The buffers of an instance are to be put back. -/
  | buffers (id : InstanceId)
  deriving DecidableEq, Repr

/-- What a caller waits for once it has put something under way. -/
def Pending.wait : Pending → Option Wait
  | .request c => some (.worker c)
  | .extraction _ => none

/-- How a call came back if it did not: it stands still. -/
def StandsStill {α : Type} (reply : Except Escape α) : Prop :=
  ∃ cause, reply = .error (.standstill cause)

namespace Host

variable {S G : Type} {a b host : Host S G} {c : Client} {id : InstanceId} {thread : Thread}

/-- Whether something is under way at a host. -/
def Has (host : Host S G) : Pending → Prop
  | .request c => host.engine.state? c = some .posted
  | .extraction id => host.inUse id

/-- Every instance that can be found is there. -/
def Rooted (host : Host S G) : Prop := ∀ h id, host.table.get? h = some id → (host.ties? id).isSome

/-- Something is done to a host that puts nothing under way and ends nothing. -/
inductive Adjusts (a : Host S G) : Host S G → Prop where
  /-- An extractor changes its own state, or what extractors share. -/
  | beside {b : Host S G} (beside : a.Beside b) : Adjusts a b
  /-- An instance is made and gets a handle. -/
  | seat {h : Handle} (free : a.table.free? = some h) (state : S) : Adjusts a (a.seated h state)
  /-- A handle is taken back. -/
  | revoke {h : Handle} {id : InstanceId} {table : HandleTable InstanceId}
      (revoked : a.table.revoke h = .ok (id, table)) : Adjusts a { a with table }
  /-- A client is bound to an instance or unbound, taken into use or given back. -/
  | modify (id : InstanceId) {f : Instance S → Instance S}
      (same : ∀ i, (f i).buffersHeld = i.buffersHeld) : Adjusts a (a.modify id f)
  | start (h : Handle) (refusal : Option String) :
      Adjusts a { a with engine := (a.engine.start h refusal).1 }
  | stop (h : Handle) : Adjusts a { a with engine := (a.engine.stop h).1 }
  | setEnabled (enabled : Bool) : Adjusts a (a.setEnabled enabled)
  | rejected {c : Client} {job : Job} {e : Engine} {v : Violation}
      (rejected : a.engine.post c job = (e, .error v)) : Adjusts a { a with engine := e }
  /-- A thread changes its pace, or sees that it is to exit. -/
  | thread {move : ThreadMove} (nothing : a.engine.ServesNothing move) :
      Adjusts a (a.moveThread move)

/-! ## What stays under way -/

/-- A host goes on with the same under way. -/
structure Keeps (a b : Host S G) : Prop where
  manned : b.engine.Manned
  evolves : a.engine.Evolves b.engine
  inUse : ∀ id, b.inUse id = a.inUse id
  there : ∀ id, (a.ties? id).isSome → (b.ties? id).isSome
  rooted : b.Rooted

/-- A host of which only the engine has changed. -/
theorem Keeps.of_engine {e : Engine} (rooted : a.Rooted) (manned : e.Manned)
    (evolves : a.engine.Evolves e) : a.Keeps { a with engine := e } :=
  ⟨manned, evolves, fun _ => rfl, fun _ => id, rooted⟩

/-- A host of which the engine has not changed. -/
theorem Keeps.of_same (manned : a.engine.Manned) (engine : b.engine = a.engine)
    (inUse : ∀ id, b.inUse id = a.inUse id)
    (there : ∀ id, (a.ties? id).isSome → (b.ties? id).isSome) (rooted : b.Rooted) : a.Keeps b :=
  ⟨engine ▸ manned, .of_state (fun _ => by rw [engine]) (by rw [engine]), inUse, there, rooted⟩

/-- An instance that is made is not in use. -/
theorem keeps_seated (manned : a.engine.Manned) (rooted : a.Rooted) (h : Handle) (state : S) :
    a.Keeps (a.seated h state) := by
  have there (id : InstanceId) (found : (a.ties? id).isSome) :
      ((a.seated h state).ties? id).isSome := by
    rw [ties?_seated]
    split
    · rfl
    · exact found
  refine .of_same manned rfl (fun j => ?_) there fun l j found => ?_
  · rw [inUse_eq, inUse_eq, ties?_seated]
    split
    · next last =>
      have unseen : a.ties? j = none :=
        Option.eq_none_iff_forall_ne_some.2 fun t bound => Nat.lt_irrefl _ (last ▸ ties?_lt bound)
      simp [unseen]
    · rfl
  · have found : (if l = h then some a.instances.length else a.table.get? l) = some j := by
      rw [← HandleTable.get?_put]
      exact found
    split at found
    · rw [← Option.some.inj found, ties?_seated, if_pos rfl]
      rfl
    · exact there j (rooted l j found)

theorem Adjusts.keeps (adjusts : a.Adjusts b) (manned : a.engine.Manned) (rooted : a.Rooted) :
    a.Keeps b := by
  cases adjusts with
  | beside beside =>
    have there (id : InstanceId) (found : (a.ties? id).isSome) : (b.ties? id).isSome := by
      rwa [beside.ties]
    refine .of_same manned beside.engine (inUse_congr beside.ties) there fun h id found => ?_
    exact there id (rooted h id (beside.table ▸ found))
  | seat free state => exact keeps_seated manned rooted _ state
  | revoke revoked =>
    refine .of_same manned rfl (fun _ => rfl) (fun _ => id) fun h id found => ?_
    exact rooted h id (HandleTable.get?_of_revoked revoked found)
  | modify id same =>
    refine .of_same manned rfl (inUse_modify same a id) (fun j found => ?_) fun h j found => ?_
    · rwa [isSome_ties?_modify]
    · rw [isSome_ties?_modify]
      exact rooted h j found
  | start h refusal =>
    exact .of_engine rooted (manned.start h refusal) (manned.evolves_start h refusal)
  | stop h => exact .of_engine rooted (manned.stop h) (a.engine.evolves_stop h)
  | setEnabled enabled =>
    exact .of_engine rooted (manned.perform (.setEnabled enabled)) (.of_state (fun _ => rfl) rfl)
  | @rejected c job e v rejected =>
    have left := manned.perform (.post c job)
    have workers := a.engine.maxWorkers_post c job
    rw [Engine.perform, rejected] at left
    rw [rejected] at workers
    exact .of_engine rooted left (.of_state (Engine.state_rejected rejected) workers)
  | @thread move nothing =>
    exact .of_engine rooted (manned.move (.thread move)) (Engine.evolves_thread nothing)

/-! ## What is put under way and ended -/

/-- An accepted post is under way from then on. -/
theorem has_post {job : Job} {e : Engine} (posted : host.engine.post c job = (e, .ok ())) :
    ¬ host.Has (.request c) ∧
      ∀ x, Has { host with engine := e } x ↔ x = .request c ∨ host.Has x := by
  obtain ⟨waiting, now⟩ := Engine.state_post posted
  have before : ¬ host.Has (.request c) := by
    rw [Has, waiting]
    simp
  refine ⟨before, fun x => ?_⟩
  cases x with
  | extraction id => simp [Has, inUse]
  | request l =>
    by_cases same : l = c
    · rw [same]
      exact iff_of_true now (.inl rfl)
    · have change := host.engine.post_change c l job
      rw [posted] at change
      have kept := change.posted_iff (fun job' given => by cases given; exact same rfl) (by simp)
      exact kept.trans (by simp [Has, same])

/-- A request that is answered is over. -/
theorem has_finish (posted : host.Has (.request c)) (code : ResultCode) (x : Pending) :
    Has { host with engine := host.engine.finish c code } x ↔ x ≠ .request c ∧ host.Has x := by
  cases x with
  | extraction id => simp [Has, inUse]
  | request l =>
    by_cases same : l = c
    · have waiting := Engine.state_finish posted code
      simp [Has, same, waiting]
    · have change := host.engine.finish_change c l code
      have kept := change.posted_iff (by simp) fun code' given => by cases given; exact same rfl
      exact kept.trans (by simp [Has, same])

theorem has_holdBuffers (there : (host.ties? id).isSome) (thread : Thread) (x : Pending) :
    (host.holdBuffers thread id).Has x ↔ x = .extraction id ∨ host.Has x := by
  cases x with
  | request l => simp [Has, engine_holdBuffers]
  | extraction j =>
    simp only [Has, inUse_holdBuffers there, Bool.or_eq_true, decide_eq_true_eq,
      Pending.extraction.injEq]

theorem has_putBuffers (host : Host S G) (id : InstanceId) (buffers : Buffers) (ending : Ending)
    (x : Pending) :
    (host.putBuffers id buffers ending).Has x ↔ x ≠ .extraction id ∧ host.Has x := by
  cases x with
  | request l =>
    refine Iff.trans (b := host.Has (.request l)) Iff.rfl ?_
    simp
  | extraction j => simp [Has, inUse_putBuffers]

end Host

/-- A host with what its callers have under way. Callers are known by numbers. -/
structure Crowd (S G : Type) where
  host : Host S G
  /-- What a caller has under way, innermost first. -/
  chain : Nat → List Pending
  /-- What a caller waits for, if it waits. -/
  waits : Nat → Option Wait

namespace Crowd

variable {S G : Type}

/-- A host that was just made has no callers yet. -/
def new (config : Config) (machine : Nat) (shared : G) : Crowd S G :=
  ⟨Host.new config machine shared, fun _ => [], fun _ => none⟩

/-- The crowd after a move of a caller. -/
def put (crowd : Crowd S G) (n : Nat) (host : Host S G) (chain : List Pending) (wait : Option Wait) :
    Crowd S G :=
  ⟨host, Function.update crowd.chain n chain, Function.update crowd.waits n wait⟩

/-- A worker is at work on a request of a caller. -/
def Serves (crowd : Crowd S G) (n : Nat) (c : Client) : Prop :=
  .request c ∈ crowd.chain n ∧ crowd.waits n ≠ some (.worker c)

/-- One move. -/
inductive Step (crowd : Crowd S G) : Crowd S G → Prop where
  | adjust {host : Host S G} (adjusts : crowd.host.Adjusts host) : Step crowd { crowd with host }
  /-- A caller posts a request. -/
  | post {n : Nat} {c : Client} {job : Job} {e : Engine} (free : crowd.waits n = none)
      (posted : crowd.host.engine.post c job = (e, .ok ())) :
      Step crowd (crowd.put n { crowd.host with engine := e } (.request c :: crowd.chain n)
        (some (.worker c)))
  /-- The worker of the slot takes it up, and the caller's way goes on there. -/
  | serve {n : Nat} {c : Client} (waits : crowd.waits n = some (.worker c))
      (attends : crowd.host.engine.Attends c)
      (idle : ∀ m k, crowd.Serves m k → ¬ crowd.host.engine.SameWorker k c) :
      Step crowd (crowd.put n crowd.host (crowd.chain n) none)
  /-- The worker hands the slot back. -/
  | answer {n : Nat} {c : Client} {rest : List Pending} (free : crowd.waits n = none)
      (head : crowd.chain n = .request c :: rest) (code : ResultCode) :
      Step crowd (crowd.put n { crowd.host with engine := crowd.host.engine.finish c code } rest none)
  /-- A caller comes to the buffers of an instance. -/
  | queue {n : Nat} {id : InstanceId} (free : crowd.waits n = none)
      (there : (crowd.host.ties? id).isSome) :
      Step crowd (crowd.put n crowd.host (crowd.chain n) (some (.buffers id)))
  | hold {n : Nat} {id : InstanceId} (waits : crowd.waits n = some (.buffers id))
      (unheld : crowd.host.inUse id = false) (thread : Thread) :
      Step crowd (crowd.put n (crowd.host.holdBuffers thread id) (.extraction id :: crowd.chain n) none)
  | putBuffers {n : Nat} {id : InstanceId} {rest : List Pending} (free : crowd.waits n = none)
      (head : crowd.chain n = .extraction id :: rest) (buffers : Buffers) (ending : Ending) :
      Step crowd (crowd.put n (crowd.host.putBuffers id buffers ending) rest none)

/-- One crowd comes out of another by moves, in any order. -/
def Leads : Crowd S G → Crowd S G → Prop := Relation.ReflTransGen Step

/-- A crowd that the callers of a host can come to. -/
def Reached (crowd : Crowd S G) : Prop :=
  ∃ config machine shared, (new config machine shared).Leads crowd

variable {crowd crowd' later : Crowd S G} {host : Host S G} {n m : Nat} {l : List Pending}
  {w : Option Wait} {c k : Client} {id : InstanceId} {x : Pending}

theorem Leads.refl (crowd : Crowd S G) : crowd.Leads crowd := Relation.ReflTransGen.refl

theorem Leads.trans (first : crowd.Leads crowd') (then_ : crowd'.Leads later) : crowd.Leads later :=
  Relation.ReflTransGen.trans first then_

theorem Leads.tail (first : crowd.Leads crowd') (step : crowd'.Step later) : crowd.Leads later :=
  Relation.ReflTransGen.tail first step

theorem Step.leads (step : crowd.Step later) : crowd.Leads later := Relation.ReflTransGen.single step

theorem Reached.leads (reached : crowd.Reached) (leads : crowd.Leads later) : later.Reached := by
  obtain ⟨config, machine, shared, first⟩ := reached
  exact ⟨config, machine, shared, first.trans leads⟩

@[simp] theorem host_put (crowd : Crowd S G) (n : Nat) (host : Host S G) (l : List Pending)
    (w : Option Wait) : (crowd.put n host l w).host = host := rfl

@[simp] theorem chain_put_self (crowd : Crowd S G) (n : Nat) (host : Host S G) (l : List Pending)
    (w : Option Wait) : (crowd.put n host l w).chain n = l :=
  Function.update_self ..

@[simp] theorem waits_put_self (crowd : Crowd S G) (n : Nat) (host : Host S G) (l : List Pending)
    (w : Option Wait) : (crowd.put n host l w).waits n = w :=
  Function.update_self ..

theorem chain_put_of_ne (ne : m ≠ n) : (crowd.put n host l w).chain m = crowd.chain m :=
  Function.update_of_ne ne ..

theorem waits_put_of_ne (ne : m ≠ n) : (crowd.put n host l w).waits m = crowd.waits m :=
  Function.update_of_ne ne ..

theorem serves_put_of_ne (ne : m ≠ n) : (crowd.put n host l w).Serves m k ↔ crowd.Serves m k := by
  rw [Serves, chain_put_of_ne ne, waits_put_of_ne ne, Serves]

/-! ## What holds of every crowd -/

/-- What the callers have under way is what the host has, each of it for one of them. A caller waits
for the worker of the slot that it posted last, and a worker is at work on one request at a time. -/
structure Sound (crowd : Crowd S G) : Prop where
  manned : crowd.host.engine.Manned
  rooted : crowd.host.Rooted
  has : ∀ x, crowd.host.Has x ↔ ∃ n, x ∈ crowd.chain n
  own : ∀ x n m, x ∈ crowd.chain n → x ∈ crowd.chain m → n = m
  nodup : ∀ n, (crowd.chain n).Nodup
  posted : ∀ n c, crowd.waits n = some (.worker c) → ∃ rest, crowd.chain n = .request c :: rest
  there : ∀ n id, crowd.waits n = some (.buffers id) → (crowd.host.ties? id).isSome
  one : ∀ n m c k, crowd.Serves n c → crowd.Serves m k → crowd.host.engine.SameWorker c k →
    n = m ∧ c = k

namespace Sound

theorem is_posted (s : crowd.Sound) (mem : .request c ∈ crowd.chain n) :
    crowd.host.engine.state? c = some .posted :=
  (s.has (.request c)).2 ⟨n, mem⟩

/-- A host that goes on with the same under way. -/
theorem keeps (s : crowd.Sound) (keeps : crowd.host.Keeps host) : Sound { crowd with host } where
  manned := keeps.manned
  rooted := keeps.rooted
  has x := by
    rw [← s.has]
    cases x with
    | request c => exact keeps.evolves.posted c
    | extraction id => exact Bool.eq_iff_iff.1 (keeps.inUse id)
  own := s.own
  nodup := s.nodup
  posted := s.posted
  there n id waits := keeps.there id (s.there n id waits)
  one n m c k serves serves' same := by
    refine s.one n m c k serves serves' ?_
    rwa [Engine.SameWorker, keeps.evolves.workers c (s.is_posted serves.1)] at same

/-- Nobody else has what a caller has under way. -/
theorem alone (s : crowd.Sound) (mem : x ∈ crowd.chain n) (ne : m ≠ n) : x ∉ crowd.chain m :=
  fun mem' => ne (s.own x m n mem' mem)

/-- A caller moves. It puts under way what is not, or ends something, and no worker takes up anything
new. -/
theorem put (s : crowd.Sound) (manned : host.engine.Manned) (rooted : host.Rooted)
    (there : ∀ id, (crowd.host.ties? id).isSome → (host.ties? id).isSome)
    (workers : host.engine.maxWorkers = crowd.host.engine.maxWorkers)
    (has : ∀ x, host.Has x ↔ x ∈ l ∨ x ∉ crowd.chain n ∧ crowd.host.Has x)
    (old : ∀ x ∈ l, x ∈ crowd.chain n ∨ ¬ crowd.host.Has x) (nodup : l.Nodup)
    (posted : ∀ c, w = some (.worker c) → ∃ rest, l = .request c :: rest)
    (queued : ∀ id, w = some (.buffers id) → (host.ties? id).isSome)
    (taken : ∀ c, .request c ∈ l → w ≠ some (.worker c) → crowd.Serves n c) :
    (crowd.put n host l w).Sound := by
  have outside {y : Pending} (mem : y ∈ l) {p : Nat} (ne : p ≠ n) : y ∉ crowd.chain p := by
    rcases old y mem with mine | new
    · exact s.alone mine ne
    · exact fun mem => new ((s.has y).2 ⟨p, mem⟩)
  have serves {p : Nat} {c : Client} (serves : (crowd.put n host l w).Serves p c) :
      crowd.Serves p c := by
    by_cases same : p = n
    · subst same
      rw [Serves, chain_put_self, waits_put_self] at serves
      exact taken c serves.1 serves.2
    · exact (serves_put_of_ne same).1 serves
  refine ⟨manned, rooted, fun y => ?_, fun y p q mem mem' => ?_, fun p => ?_, fun p c waiting => ?_,
    fun p id waiting => ?_, fun p q c k first second same => ?_⟩
  · rw [host_put, has, s.has]
    constructor
    · rintro (mem | ⟨other, p, mem⟩)
      · exact ⟨n, by rwa [chain_put_self]⟩
      · have ne : p ≠ n := fun same => other (same ▸ mem)
        exact ⟨p, by rwa [chain_put_of_ne ne]⟩
    · rintro ⟨p, mem⟩
      by_cases same : p = n
      · rw [same, chain_put_self] at mem
        exact .inl mem
      · rw [chain_put_of_ne same] at mem
        exact .inr ⟨s.alone mem (Ne.symm same), p, mem⟩
  · by_cases hp : p = n <;> by_cases hq : q = n
    · rw [hp, hq]
    · rw [hp, chain_put_self] at mem
      rw [chain_put_of_ne hq] at mem'
      exact absurd mem' (outside mem hq)
    · rw [hq, chain_put_self] at mem'
      rw [chain_put_of_ne hp] at mem
      exact absurd mem (outside mem' hp)
    · rw [chain_put_of_ne hp] at mem
      rw [chain_put_of_ne hq] at mem'
      exact s.own y p q mem mem'
  · by_cases same : p = n
    · rwa [same, chain_put_self]
    · rw [chain_put_of_ne same]
      exact s.nodup p
  · by_cases same : p = n
    · rw [same, waits_put_self] at waiting
      rw [same, chain_put_self]
      exact posted c waiting
    · rw [waits_put_of_ne same] at waiting
      rw [chain_put_of_ne same]
      exact s.posted p c waiting
  · by_cases same : p = n
    · rw [same, waits_put_self] at waiting
      exact queued id waiting
    · rw [waits_put_of_ne same] at waiting
      exact there id (s.there p id waiting)
  · rw [Engine.SameWorker, host_put, workers] at same
    exact s.one p q c k (serves first) (serves second) same

/-- A caller that does not wait is served wherever it has a request under way. -/
theorem serves_of_free (free : ∀ c, crowd.waits n ≠ some (.worker c)) (mem : .request c ∈ crowd.chain n) :
    crowd.Serves n c := ⟨mem, free c⟩

/-- A caller puts something under way, and waits for the worker if it is a request. -/
theorem push (s : crowd.Sound) (free : ∀ c, crowd.waits n ≠ some (.worker c))
    (manned : host.engine.Manned) (rooted : host.Rooted)
    (there : ∀ id, (crowd.host.ties? id).isSome → (host.ties? id).isSome)
    (workers : host.engine.maxWorkers = crowd.host.engine.maxWorkers) (new : ¬ crowd.host.Has x)
    (has : ∀ y, host.Has y ↔ y = x ∨ crowd.host.Has y) :
    (crowd.put n host (x :: crowd.chain n) x.wait).Sound := by
  refine s.put manned rooted there workers (fun y => ?_) (fun y mem => ?_) ?_ (fun c waits => ?_)
    (fun id waits => ?_) fun c mem waits => ?_
  · have mine (mem : y ∈ crowd.chain n) : crowd.host.Has y := (s.has y).2 ⟨n, mem⟩
    rw [has, List.mem_cons]
    tauto
  · rcases List.mem_cons.1 mem with rfl | mem
    · exact .inr new
    · exact .inl mem
  · exact List.nodup_cons.2 ⟨fun mem => new ((s.has x).2 ⟨n, mem⟩), s.nodup n⟩
  · cases x with
    | request k =>
      cases waits
      exact ⟨_, rfl⟩
    | extraction id => cases waits
  · cases x with
    | request k => cases waits
    | extraction id => cases waits
  · rcases List.mem_cons.1 mem with rfl | mem
    · exact absurd rfl waits
    · exact serves_of_free free mem

/-- A caller ends what it put under way last. -/
theorem pop {rest : List Pending} (s : crowd.Sound) (free : crowd.waits n = none)
    (head : crowd.chain n = x :: rest) (manned : host.engine.Manned) (rooted : host.Rooted)
    (there : ∀ id, (crowd.host.ties? id).isSome → (host.ties? id).isSome)
    (workers : host.engine.maxWorkers = crowd.host.engine.maxWorkers)
    (has : ∀ y, host.Has y ↔ y ≠ x ∧ crowd.host.Has y) : (crowd.put n host rest none).Sound := by
  have nodup := s.nodup n
  rw [head] at nodup
  obtain ⟨once, nodup⟩ := List.nodup_cons.1 nodup
  have mine {y : Pending} (mem : y ∈ rest) : y ∈ crowd.chain n := by
    rw [head]
    exact List.mem_cons_of_mem x mem
  refine s.put manned rooted there workers (fun y => ?_) (fun y mem => .inl (mine mem)) nodup
    (fun c waits => by cases waits) (fun id waits => by cases waits) fun c mem _ => ?_
  · rw [has, head, List.mem_cons]
    constructor
    · rintro ⟨other, there⟩
      by_cases mem : y ∈ rest
      · exact .inl mem
      · exact .inr ⟨by tauto, there⟩
    · rintro (mem | ⟨other, there⟩)
      · exact ⟨fun same => once (same ▸ mem), (s.has y).2 ⟨n, mine mem⟩⟩
      · exact ⟨fun same => other (.inl same), there⟩
  · exact serves_of_free (by simp [free]) (mine mem)

/-- A caller begins to wait for buffers. -/
theorem queue (s : crowd.Sound) (free : crowd.waits n = none)
    (there : (crowd.host.ties? id).isSome) :
    (crowd.put n crowd.host (crowd.chain n) (some (.buffers id))).Sound := by
  refine s.put s.manned s.rooted (fun _ found => found) rfl (fun y => ?_) (fun y mem => .inl mem)
    (s.nodup n)
    (fun c waits => by cases waits) (fun j waits => ?_) fun c mem _ => ?_
  · have mine (mem : y ∈ crowd.chain n) : crowd.host.Has y := (s.has y).2 ⟨n, mem⟩
    tauto
  · cases waits
    exact there
  · exact serves_of_free (by simp [free]) mem

/-- An idle worker takes up a request. -/
theorem serve (s : crowd.Sound) (waits : crowd.waits n = some (.worker c))
    (idle : ∀ m k, crowd.Serves m k → ¬ crowd.host.engine.SameWorker k c) :
    (crowd.put n crowd.host (crowd.chain n) none).Sound := by
  have chain (m : Nat) : (crowd.put n crowd.host (crowd.chain n) none).chain m = crowd.chain m := by
    by_cases same : m = n
    · rw [same, chain_put_self]
    · exact chain_put_of_ne same
  have before {m : Nat} {v : Wait}
      (waiting : (crowd.put n crowd.host (crowd.chain n) none).waits m = some v) :
      crowd.waits m = some v := by
    by_cases same : m = n
    · rw [same, waits_put_self] at waiting
      cases waiting
    · rwa [waits_put_of_ne same] at waiting
  -- The caller is served at the slot that it waited for, and all that were served before still are.
  have serves {m : Nat} {k : Client}
      (serves : (crowd.put n crowd.host (crowd.chain n) none).Serves m k) :
      m = n ∧ k = c ∨ crowd.Serves m k := by
    rw [Serves, chain] at serves
    by_cases same : m = n
    · by_cases here : k = c
      · exact .inl ⟨same, here⟩
      · refine .inr ⟨serves.1, ?_⟩
        rw [same, waits]
        simp [Ne.symm here]
    · rw [waits_put_of_ne same] at serves
      exact .inr serves
  refine ⟨s.manned, s.rooted, fun x => ?_, fun x p q => ?_, fun m => ?_, fun m k waiting => ?_,
    fun m id waiting => s.there m id (before waiting), fun p q k l first second same => ?_⟩
  · simp only [chain]
    exact s.has x
  · simp only [chain]
    exact s.own x p q
  · rw [chain]
    exact s.nodup m
  · rw [chain]
    exact s.posted m k (before waiting)
  · rcases serves first with ⟨hp, hk⟩ | old
    · rcases serves second with ⟨hq, hl⟩ | old'
      · exact ⟨hp.trans hq.symm, hk.trans hl.symm⟩
      · exact absurd (hk ▸ Engine.SameWorker.symm same) (idle q l old')
    · rcases serves second with ⟨-, hl⟩ | old'
      · exact absurd (hl ▸ same) (idle p k old)
      · exact s.one p q k l old old' same

theorem new (config : Config) (machine : Nat) (shared : G) :
    (Crowd.new (S := S) config machine shared).Sound := by
  refine ⟨Engine.manned_new config machine, fun h id found => ?_, fun x => ?_, fun x n m mem => ?_,
    fun n => List.nodup_nil, fun n c waits => ?_, fun n id waits => ?_, fun n m c k serves => ?_⟩
  · simp [Crowd.new, Host.new] at found
  · cases x with
    | extraction id => simp [Crowd.new, Host.Has, Host.inUse, Host.new]
    | request c =>
      have unposted := (Engine.manned_new config machine).unposted rfl c
      simpa [Crowd.new, Host.Has, Host.new] using unposted.1
  · cases mem
  · cases waits
  · cases waits
  · cases serves.1

theorem step (s : crowd.Sound) (step : crowd.Step later) : later.Sound := by
  cases step with
  | adjust adjusts => exact s.keeps (adjusts.keeps s.manned s.rooted)
  | @post n c job e free posted =>
    obtain ⟨new, has⟩ := Host.has_post posted
    have manned := s.manned.perform (.post c job)
    have workers := crowd.host.engine.maxWorkers_post c job
    rw [Engine.perform, posted] at manned
    rw [posted] at workers
    exact s.push (by simp [free]) manned s.rooted (fun _ => id) workers new has
  | serve waits _ idle => exact s.serve waits idle
  | @answer n c rest free head code =>
    have posted := s.is_posted (n := n) (c := c) (by simp [head])
    exact s.pop free head (s.manned.perform (.finish c code)) s.rooted (fun _ => id)
      (Engine.maxWorkers_finish ..) (Host.has_finish posted code)
  | queue free there => exact s.queue free there
  | @hold n id waits unheld thread =>
    have there := s.there n id waits
    have stays (j : InstanceId) (found : (crowd.host.ties? j).isSome) :
        ((crowd.host.holdBuffers thread id).ties? j).isSome := by
      rw [Host.ties?_holdBuffers]
      split
      · rwa [Option.isSome_map]
      · exact found
    refine s.push (by simp [waits]) ?_ (fun h j found => ?_) stays ?_ (by simp [Host.Has, unheld])
      (Host.has_holdBuffers there thread)
    · rw [Host.engine_holdBuffers]
      exact s.manned
    · rw [Host.table_holdBuffers] at found
      exact stays j (s.rooted h j found)
    · rw [Host.engine_holdBuffers]
  | @putBuffers n id rest free head buffers ending =>
    have stays (j : InstanceId) (found : (crowd.host.ties? j).isSome) :
        ((crowd.host.putBuffers id buffers ending).ties? j).isSome :=
      (Host.isSome_ties?_modify crowd.host id j _).trans found
    exact s.pop free head s.manned (fun h j found => stays j (s.rooted h j found)) stays rfl
      (Host.has_putBuffers crowd.host id buffers ending)

theorem leads (s : crowd.Sound) (leads : crowd.Leads later) : later.Sound := by
  induction leads with
  | refl => exact s
  | tail _ step ih => exact ih.step step

end Sound

theorem Reached.sound (reached : crowd.Reached) : crowd.Sound := by
  obtain ⟨config, machine, shared, leads⟩ := reached
  exact (Sound.new config machine shared).leads leads

end Crowd

end PluginBridge
