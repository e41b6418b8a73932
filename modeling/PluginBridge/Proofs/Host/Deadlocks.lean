import PluginBridge.Proofs.Host.Callers

/-!
# Callers that wait for ever

A caller waits for nothing but another one, or for a worker that was too late for its exit. It waits
for a caller that its worker serves, or that holds the buffers it needs (`Crowd.Blocks`); and that
caller may wait in its turn, or be the same one. A `Deadlock` is a set of callers each of whom waits
for one of them, or for a worker that is on its way through an exit. Nobody gets out of a deadlock,
whatever else is done (`Deadlock.leads`). A caller that is in none can go on: whoever it waits for can
finish first (`comes_back`).
-/

namespace PluginBridge

namespace Crowd

variable {S G : Type} {crowd later : Crowd S G} {n m : Nat} {c k : Client} {x : Pending}
  {rest : List Pending} {X Y : Nat → Prop}

/-- A caller has what another one waits for. -/
inductive Blocks (crowd : Crowd S G) (m n : Nat) : Prop where
  | worker {c k : Client} (waits : crowd.waits n = some (.worker c)) (serves : crowd.Serves m k)
      (same : crowd.host.engine.SameWorker k c)
  | buffers {id : InstanceId} (waits : crowd.waits n = some (.buffers id))
      (holds : .extraction id ∈ crowd.chain m)

/-- A caller waits for a worker that is on its way through an exit. -/
def Abandoned (crowd : Crowd S G) (n : Nat) : Prop :=
  ∃ c, crowd.waits n = some (.worker c) ∧ crowd.host.engine.Leaving c

/-- Callers that wait for one another, or for workers that are on their way through an exit. -/
def Deadlock (crowd : Crowd S G) (X : Nat → Prop) : Prop :=
  ∀ n, X n → (∃ m, X m ∧ crowd.Blocks m n) ∨ crowd.Abandoned n

/-- A move leaves requests their workers, and exits as they are. -/
theorem Sound.evolves (s : crowd.Sound) (step : crowd.Step later) :
    (∀ c, crowd.host.engine.state? c = some .posted →
      later.host.engine.maxWorkers = crowd.host.engine.maxWorkers) ∧
    ∀ c, crowd.host.engine.AtExit c → later.host.engine.AtExit c := by
  cases step with
  | adjust adjusts =>
    have evolves := (adjusts.keeps s.manned s.rooted).evolves
    exact ⟨evolves.workers, evolves.exiting⟩
  | @post n c job e free posted =>
    have workers := crowd.host.engine.maxWorkers_post c job
    have exits := crowd.host.engine.atExit_post c job
    rw [posted] at workers exits
    exact ⟨fun _ _ => workers, fun k => (exits k).2⟩
  | answer _ _ code =>
    exact ⟨fun _ _ => Engine.maxWorkers_finish .., fun k => (Engine.atExit_finish _ _ code k).2⟩
  | hold => simp [Host.engine_holdBuffers]
  | serve | queue | putBuffers => exact ⟨fun _ _ => rfl, fun _ => id⟩

/-- A worker that is on its way through an exit is so after a move, too. -/
theorem Sound.leaving (s : crowd.Sound) (step : crowd.Step later)
    (posted : crowd.host.engine.state? c = some .posted) (leaving : crowd.host.engine.Leaving c) :
    later.host.engine.Leaving c := by
  obtain ⟨workers, exits⟩ := s.evolves step
  obtain ⟨w, mine, exiting⟩ := leaving
  exact ⟨w, by rwa [workers c posted], exits _ exiting⟩

theorem Sound.posted_of_waits (s : crowd.Sound) (waits : crowd.waits n = some (.worker c)) :
    crowd.host.engine.state? c = some .posted := by
  obtain ⟨rest, head⟩ := s.posted n c waits
  exact s.is_posted (n := n) (by simp [head])

/-- Who is in a deadlock waits. -/
theorem Deadlock.waits (deadlock : crowd.Deadlock X) (mem : X n) : crowd.waits n ≠ none := by
  intro free
  rcases deadlock n mem with ⟨m, -, blocks⟩ | ⟨c, waits, -⟩
  · cases blocks with
    | worker waits => cases free.symm.trans waits
    | buffers waits => cases free.symm.trans waits
  · cases free.symm.trans waits

/-- A move of a caller is not one of somebody in a deadlock. -/
theorem Deadlock.stands (deadlock : crowd.Deadlock X) (s : crowd.Sound) (step : crowd.Step later)
    (mem : X n) : later.chain n = crowd.chain n ∧ later.waits n = crowd.waits n := by
  have waits := deadlock.waits mem
  have others {p : Nat} {host : Host S G} {l : List Pending} {w : Option Wait} (ne : n ≠ p) :
      (crowd.put p host l w).chain n = crowd.chain n ∧
        (crowd.put p host l w).waits n = crowd.waits n :=
    ⟨chain_put_of_ne ne, waits_put_of_ne ne⟩
  cases step with
  | adjust => exact ⟨rfl, rfl⟩
  | @post p _ _ _ free | @answer p _ _ free | @queue p _ free | @putBuffers p _ _ free =>
    exact others fun same => waits (same ▸ free)
  | @serve p c waiting attends idle =>
    refine others fun same => ?_
    subst same
    rcases deadlock n mem with ⟨m, -, blocks⟩ | ⟨k, waits, leaving⟩
    · cases blocks with
      | worker waits serves same =>
        cases waits.symm.trans waiting
        exact idle m _ serves same
      | buffers waits => cases waits.symm.trans waiting
    · cases waits.symm.trans waiting
      exact (s.manned.attends (s.posted_of_waits waiting)).1 attends leaving
  | @hold p id waiting unheld =>
    refine others fun same => ?_
    subst same
    rcases deadlock n mem with ⟨m, -, blocks⟩ | ⟨k, waits, -⟩
    · cases blocks with
      | worker waits => cases waits.symm.trans waiting
      | buffers waits holds =>
        cases waits.symm.trans waiting
        have held := (s.has (.extraction id)).2 ⟨m, holds⟩
        cases unheld.symm.trans held
    · cases waits.symm.trans waiting

theorem Deadlock.step (deadlock : crowd.Deadlock X) (s : crowd.Sound) (step : crowd.Step later) :
    later.Deadlock X := by
  intro n mem
  obtain ⟨-, still⟩ := deadlock.stands s step mem
  rcases deadlock n mem with ⟨m, other, blocks⟩ | ⟨c, waits, leaving⟩
  · obtain ⟨chain, wait⟩ := deadlock.stands s step other
    refine .inl ⟨m, other, ?_⟩
    cases blocks with
    | @worker c k waits serves same =>
      have workers := (s.evolves step).1 c (s.posted_of_waits waits)
      refine .worker (still.trans waits) (k := k) ?_ ?_
      · rwa [Serves, chain, wait]
      · rwa [Engine.SameWorker, workers]
    | buffers waits holds => exact .buffers (still.trans waits) (chain ▸ holds)
  · exact .inr ⟨c, still.trans waits, s.leaving step (s.posted_of_waits waits) leaving⟩

/-- Who is in a deadlock waits for ever, for the same. -/
theorem Deadlock.leads (deadlock : crowd.Deadlock X) (s : crowd.Sound) (leads : crowd.Leads later) :
    later.Deadlock X ∧ ∀ n, X n → later.waits n = crowd.waits n := by
  induction leads with
  | refl => exact ⟨deadlock, fun _ _ => rfl⟩
  | tail before step ih =>
    have sound := s.leads before
    exact ⟨ih.1.step sound step, fun n mem => (ih.1.stands sound step mem).2.trans (ih.2 n mem)⟩

/-! ## Whoever is in no deadlock can go on -/

/-- What a caller had under way before the call that it waits in. -/
def behind (crowd : Crowd S G) (n : Nat) : List Pending :=
  match crowd.waits n with
  | some (.worker _) => (crowd.chain n).tail
  | _ => crowd.chain n

/-- A caller goes on, and nobody else does, until it does not wait and has some calls under way. -/
structure Goes (crowd : Crowd S G) (n : Nat) (l : List Pending) (later : Crowd S G) : Prop where
  leads : crowd.Leads later
  workers : later.host.engine.maxWorkers = crowd.host.engine.maxWorkers
  exits : ∀ c, later.host.engine.AtExit c → crowd.host.engine.AtExit c
  others : ∀ m, m ≠ n → later.chain m = crowd.chain m ∧ later.waits m = crowd.waits m
  chain : later.chain n = l
  free : later.waits n = none

theorem Goes.trans {last : Crowd S G} {l l' : List Pending} (first : crowd.Goes n l later)
    (then_ : later.Goes n l' last) : crowd.Goes n l' last where
  leads := first.leads.trans then_.leads
  workers := then_.workers.trans first.workers
  exits c exit := first.exits c (then_.exits c exit)
  others m ne := by
    obtain ⟨chain, waits⟩ := first.others m ne
    obtain ⟨chain', waits'⟩ := then_.others m ne
    exact ⟨chain'.trans chain, waits'.trans waits⟩
  chain := then_.chain
  free := then_.free

/-- One move of a caller after which it does not wait. -/
theorem goes_put {host : Host S G} {l : List Pending}
    (step : crowd.Step (crowd.put n host l none))
    (workers : host.engine.maxWorkers = crowd.host.engine.maxWorkers)
    (exits : ∀ c, host.engine.AtExit c → crowd.host.engine.AtExit c) :
    crowd.Goes n l (crowd.put n host l none) :=
  ⟨step.leads, workers, exits, fun _ ne => ⟨chain_put_of_ne ne, waits_put_of_ne ne⟩,
    chain_put_self .., waits_put_self ..⟩

/-- A caller that waits goes on when nobody has what it waits for. -/
theorem Sound.goes_on (s : crowd.Sound) (waits : crowd.waits n ≠ none)
    (attended : ¬ crowd.Abandoned n) (unblocked : ∀ m, ¬ crowd.Blocks m n) :
    ∃ x later, crowd.Goes n (x :: crowd.behind n) later := by
  obtain ⟨v, waits⟩ := Option.ne_none_iff_exists'.1 waits
  cases v with
  | worker c =>
    obtain ⟨rest, head⟩ := s.posted n c waits
    have attends : crowd.host.engine.Attends c :=
      (s.manned.attends (s.posted_of_waits waits)).2 fun leaving => attended ⟨c, waits, leaving⟩
    have step : crowd.Step (crowd.put n crowd.host (crowd.chain n) none) :=
      .serve waits attends fun m k serves same => unblocked m (.worker waits serves same)
    have behind : crowd.chain n = .request c :: crowd.behind n := by
      rw [Crowd.behind, waits, head]
      rfl
    rw [behind] at step
    exact ⟨_, _, goes_put step rfl fun _ exit => exit⟩
  | buffers id =>
    have unheld : crowd.host.inUse id = false := by
      refine Bool.eq_false_iff.2 fun held => ?_
      obtain ⟨m, holds⟩ := (s.has (.extraction id)).1 held
      exact unblocked m (.buffers waits holds)
    have behind : crowd.behind n = crowd.chain n := by rw [Crowd.behind, waits]
    have step := Step.hold waits unheld .main
    rw [← behind] at step
    refine ⟨_, _, goes_put step ?_ fun c exit => ?_⟩
    · rw [Host.engine_holdBuffers]
    · rwa [Host.engine_holdBuffers] at exit

/-- Some callers finish all that they have under way, and nothing else happens. -/
structure Clears (crowd : Crowd S G) (Y : Nat → Prop) (later : Crowd S G) : Prop where
  leads : crowd.Leads later
  workers : later.host.engine.maxWorkers = crowd.host.engine.maxWorkers
  exits : ∀ c, later.host.engine.AtExit c → crowd.host.engine.AtExit c
  callers : ∀ m, later.chain m = crowd.chain m ∧ later.waits m = crowd.waits m ∨
    Y m ∧ later.chain m = [] ∧ later.waits m = none

theorem Clears.refl (crowd : Crowd S G) (Y : Nat → Prop) : crowd.Clears Y crowd :=
  ⟨.refl crowd, rfl, fun _ => id, fun _ => .inl ⟨rfl, rfl⟩⟩

/-- One more caller finishes. -/
theorem Clears.goes {last : Crowd S G} (clears : crowd.Clears Y later) (goes : later.Goes n [] last)
    {Z : Nat → Prop} (more : ∀ m, Y m → Z m) (mine : Z n) : crowd.Clears Z last where
  leads := clears.leads.trans goes.leads
  workers := goes.workers.trans clears.workers
  exits c exit := clears.exits c (goes.exits c exit)
  callers m := by
    by_cases same : m = n
    · subst same
      exact .inr ⟨mine, goes.chain, goes.free⟩
    · rw [(goes.others m same).1, (goes.others m same).2]
      exact (clears.callers m).imp_right fun done => ⟨more m done.1, done.2⟩

/-- When the one that a caller waits for has finished, nobody else has what it waits for. -/
theorem Sound.unblocked (s : crowd.Sound) (clears : crowd.Clears Y later) (blocks : crowd.Blocks m n)
    (gone : later.chain m = []) (waits : later.waits n = crowd.waits n) (p : Nat) :
    ¬ later.Blocks p n := by
  intro blocks'
  have still {x : Pending} (mem : x ∈ later.chain p) :
      p ≠ m ∧ x ∈ crowd.chain p ∧ later.waits p = crowd.waits p := by
    refine ⟨fun same => ?_, ?_⟩
    · rw [same, gone] at mem
      cases mem
    · rcases clears.callers p with ⟨chain, wait⟩ | ⟨-, none, -⟩
      · exact ⟨chain ▸ mem, wait⟩
      · rw [none] at mem
        cases mem
  cases blocks' with
  | @worker c k' waits' serves' same' =>
    obtain ⟨ne, mem, wait⟩ := still serves'.1
    rw [waits] at waits'
    cases blocks with
    | buffers other => cases other.symm.trans waits'
    | @worker _ k other serves same =>
      cases other.symm.trans waits'
      rw [Engine.SameWorker, clears.workers] at same'
      exact ne (s.one p m k' k ⟨mem, wait ▸ serves'.2⟩ serves (same'.trans same.symm)).1
  | buffers waits' holds' =>
    obtain ⟨ne, mem, -⟩ := still holds'
    rw [waits] at waits'
    cases blocks with
    | worker other => cases other.symm.trans waits'
    | buffers other holds =>
      cases other.symm.trans waits'
      exact ne (s.own _ p m mem holds)

/-- A worker that was not on its way through an exit is not so when others have finished. -/
theorem Clears.attended (clears : crowd.Clears Y later) (waits : later.waits n = crowd.waits n)
    (attended : ¬ crowd.Abandoned n) : ¬ later.Abandoned n := by
  rintro ⟨c, waiting, w, mine, exit⟩
  rw [clears.workers] at mine
  exact attended ⟨c, waits ▸ waiting, w, mine, clears.exits _ exit⟩

end Crowd

end PluginBridge
