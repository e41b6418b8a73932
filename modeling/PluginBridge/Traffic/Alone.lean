import PluginBridge.Traffic

/-! # Parties that nobody disturbs

The operations of `Batch` and `Dispatch` are what the steps of one party amount to while all others
stand still. `run_post` and `run_collect` say so of a caller that makes a request,
`reachesAlone_scan` of a worker that passes over its slots. -/

namespace PluginBridge

/-- Whether a given worker, or the handler that it waits for, makes a move. -/
def TrafficMove.isOf {κ : Type} {n : Nat} (w : Nat) : TrafficMove κ n → Prop
  | .worker v => v = w
  | .answer v _ => v = w
  | _ => False

namespace Traffic

variable {κ W : Type} {n : Nat} [DecidableEq κ]

/-! ## A caller -/

/-- A caller that nobody disturbs makes the writes that are left. -/
theorem run_stores (slotOf : κ → Fin n) (k : κ) (job : Job) (rest : List Store) (t : Traffic κ n)
    (h : t.callers k = .storing job rest) :
    t.run slotOf (List.replicate rest.length (.caller k)) =
      some ((t.putBatch (t.dispatch.batch.put (slotOf k)
        (rest.foldl Slot.store (t.dispatch.batch.slot (slotOf k))))).putCaller k
          (.storing job [])) := by
  induction rest generalizing t with
  | nil =>
    have hk : (t.putBatch t.dispatch.batch).putCaller k (.storing job []) = t := by
      rw [← h]
      exact putCaller_self t k
    simp [hk]
  | cons cell rest ih =>
    simp only [List.length_cons, List.replicate_succ, run_cons, step, h, CallerPoint.step,
      Option.map_some, List.map_nil, record_nil, Option.bind_some]
    rw [ih _ (callers_putCaller_self _ _ _)]
    simp only [putBatch_putCaller, putCaller_putCaller]
    simp [putBatch, putCaller]

/-- What a caller that nobody disturbs has done once its job is posted or rejected. -/
def afterPost (slotOf : κ → Fin n) (t : Traffic κ n) (k : κ) (job : Job) : Traffic κ n :=
  match t.dispatch.batch.post (slotOf k) job with
  | (b, .ok ()) => ((t.putBatch b).putCaller k (.watching job)).record [.request k (.accepted job)]
  | (b, .error _) =>
    ((t.putBatch b).putCaller k .between).record
      [.request k (.rejected job (b.state (slotOf k)))]

theorem afterPost_of_waiting (slotOf : κ → Fin n) (t : Traffic κ n) (k : κ) (job : Job)
    (h : t.dispatch.batch.state (slotOf k) = .waiting) :
    t.afterPost slotOf k job = ((t.putBatch (t.dispatch.batch.put (slotOf k)
      { (t.dispatch.batch.slot (slotOf k)).storeJob job with state := .posted })).putCaller k
        (.watching job)).record [.request k (.accepted job)] := by
  rw [afterPost, Batch.post_of_waiting job h]

theorem afterPost_of_ne (slotOf : κ → Fin n) (t : Traffic κ n) (k : κ) (job : Job)
    (h : t.dispatch.batch.state (slotOf k) ≠ .waiting) :
    t.afterPost slotOf k job = ((t.putBatch (t.dispatch.batch.put (slotOf k)
      ((t.dispatch.batch.slot (slotOf k)).storeJob job))).putCaller k .between).record
        [.request k (.rejected job (t.dispatch.batch.state (slotOf k)))] := by
  obtain ⟨v, hv⟩ := Batch.post_of_ne job h
  rw [afterPost, hv]
  simp [Batch.state]

/-- A caller that nobody disturbs posts its job as `Batch.post` does. -/
theorem run_post (slotOf : κ → Fin n) (k : κ) (job : Job) (t : Traffic κ n)
    (h : t.callers k = .between) :
    t.run slotOf (.request k job ::
      (List.replicate (Slot.jobStores job).length (.caller k) ++ [.caller k])) =
      some (t.afterPost slotOf k job) := by
  have hs := run_stores slotOf k job (Slot.jobStores job)
    (t.putCaller k (.storing job (Slot.jobStores job))) (callers_putCaller_self _ _ _)
  rw [run_cons]
  simp only [step, h, if_true, CallerPoint.start, Option.bind_some]
  rw [run_append, hs]
  rw [show (Slot.jobStores job).foldl Slot.store
    ((t.putCaller k (.storing job (Slot.jobStores job))).dispatch.batch.slot (slotOf k)) =
      (t.dispatch.batch.slot (slotOf k)).storeJob job from rfl]
  rw [show (t.putCaller k (.storing job (Slot.jobStores job))).dispatch = t.dispatch from rfl]
  simp only [Option.bind_some, run_cons, run_nil, step, callers_putCaller_self,
    putBatch_putCaller, putCaller_putCaller, dispatch_putBatch_putCaller, Batch.slot_put_self]
  by_cases hw : t.dispatch.batch.state (slotOf k) = .waiting
  · have hs : ((t.dispatch.batch.slot (slotOf k)).storeJob job).state = .waiting := hw
    rw [afterPost_of_waiting _ _ _ _ hw, CallerPoint.step_posting_of_waiting hs]
    simp
  · have hs : ((t.dispatch.batch.slot (slotOf k)).storeJob job).state ≠ .waiting := hw
    rw [afterPost_of_ne _ _ _ _ hw, CallerPoint.step_posting_of_ne hs]
    simp [Batch.state]

/-- A caller that nobody disturbs collects its result as `Batch.collect` does. -/
theorem run_collect (slotOf : κ → Fin n) (k : κ) (job : Job) (code : ResultCode) (t : Traffic κ n)
    (h : t.callers k = .watching job) (hc : t.dispatch.batch.collect (slotOf k) = some code) :
    t.run slotOf [.caller k, .caller k] =
      some ((t.putCaller k .between).record [.request k (.returned job code)]) := by
  unfold Batch.collect at hc
  split at hc
  · next hs =>
    have hs : (t.dispatch.batch.slot (slotOf k)).state = .waiting := hs
    have hd : ∀ p, (t.putCaller k p).dispatch = t.dispatch := fun _ => rfl
    have hb : t.putBatch t.dispatch.batch = t := rfl
    cases hc
    simp [step, h, CallerPoint.step, hs, hb, hd, putBatch_putCaller]
  · cases hc

/-! ## A worker -/

/-- A worker can come to a point by itself, and leave the dispatch in some state. -/
def ReachesAlone (slotOf : κ → Fin n) (w : Nat) (t : Traffic κ n) (d : Dispatch n)
    (p : WorkerPoint n) : Prop :=
  ∃ ms u, (∀ m ∈ ms, TrafficMove.isOf w m) ∧ t.run slotOf ms = some u ∧
    u.dispatch = d ∧ u.workers w = p

namespace ReachesAlone

variable {slotOf : κ → Fin n} {w : Nat} {t : Traffic κ n} {d : Dispatch n} {p : WorkerPoint n}

theorem refl (hd : t.dispatch = d) (hp : t.workers w = p) : ReachesAlone slotOf w t d p :=
  ⟨[], t, by simp, rfl, hd, hp⟩

theorem step {e : Dispatch n} {q : WorkerPoint n} {o : List (ServiceEvent n)}
    (hs : (t.workers w).step t.dispatch w = some (e, q, o))
    (hr : ∀ u : Traffic κ n, u.dispatch = e → u.workers w = q → ReachesAlone slotOf w u d p) :
    ReachesAlone slotOf w t d p := by
  obtain ⟨ms, u, hm, hu, hd, hp⟩ :=
    hr (({ t with dispatch := e }.putWorker w q).record (o.map (.service w))) rfl
      (by simp [record])
  refine ⟨.worker w :: ms, u, ?_, ?_, hd, hp⟩
  · intro m hmem
    rcases List.mem_cons.mp hmem with rfl | hmem
    · rfl
    · exact hm m hmem
  · simp [Traffic.step, hs, hu]

theorem answer {q : WorkerPoint n} {o : List (ServiceEvent n)} (reply : Reply)
    (hs : (t.workers w).answer reply = some (q, o))
    (hr : ∀ u : Traffic κ n, u.dispatch = t.dispatch → u.workers w = q →
      ReachesAlone slotOf w u d p) :
    ReachesAlone slotOf w t d p := by
  obtain ⟨ms, u, hm, hu, hd, hp⟩ :=
    hr ((t.putWorker w q).record (o.map (.service w))) rfl (by simp [record])
  refine ⟨.answer w reply :: ms, u, ?_, ?_, hd, hp⟩
  · intro m hmem
    rcases List.mem_cons.mp hmem with rfl | hmem
    · rfl
    · exact hm m hmem
  · simp [Traffic.step, hs, hu]

/-- A worker that writes a result hands the slot back as `Batch.finish` does. -/
theorem storing {i : Fin n} {code : ResultCode} {pass : Pass n}
    (hw : t.workers w = .serving i (.storing code) pass)
    (hr : ∀ u : Traffic κ n,
      u.dispatch = { t.dispatch with batch := t.dispatch.batch.finish i code } →
        u.workers w = .passing pass → ReachesAlone slotOf w u d p) :
    ReachesAlone slotOf w t d p := by
  refine step (by rw [hw]; rfl) fun u hu hp => ?_
  refine step (e := { t.dispatch with batch := t.dispatch.batch.finish i code })
    (q := .passing pass) (o := []) ?_ hr
  rw [hp, hu]
  simp only [WorkerPoint.step, Batch.finish]
  cases (t.dispatch.batch.put i ((t.dispatch.batch.slot i).store (.result code.toInt))).exchange i
    .posted .waiting <;> rfl

/-- A worker that meets a posted job serves it as `Dispatch.serve` does. -/
theorem serve {i : Fin n} {pass : Pass n} (handler : Handler W) (world : W)
    (hw : t.workers w = .serving i (.reading .nothing) pass)
    (hr : ∀ u : Traffic κ n, u.dispatch = (t.dispatch.serve handler i world).1 →
      u.workers w = .passing pass → ReachesAlone slotOf w u d p) :
    ReachesAlone slotOf w t d p := by
  have hslot : t.dispatch.batch.job? i =
      (Handle.ofRaw? (t.dispatch.batch.slot i).handle).map fun h =>
        ⟨h, (t.dispatch.batch.slot i).event, (t.dispatch.batch.slot i).count,
          (t.dispatch.batch.slot i).fields⟩ := rfl
  cases hh : Handle.ofRaw? (t.dispatch.batch.slot i).handle with
  | none =>
    refine step (e := t.dispatch) (q := .serving i (.storing .failure) pass) (o := [])
      (by rw [hw]; simp [WorkerPoint.step, WorkerPoint.read, WorkerPoint.calls, hh]) ?_
    intro u hu hp
    refine storing hp fun v hv => hr v ?_
    rw [hv, hu, Dispatch.serve, hslot, hh]
    rfl
  | some h =>
    refine step (e := t.dispatch) (q := .serving i (.reading (.handle h)) pass) (o := [])
      (by rw [hw]; simp [WorkerPoint.step, WorkerPoint.read, WorkerPoint.calls, hh]) ?_
    intro u₁ hd₁ hp₁
    refine step (by rw [hp₁, hd₁]; rfl) fun u₂ hd₂ hp₂ => ?_
    refine step (by rw [hp₂, hd₂]; rfl) fun u₃ hd₃ hp₃ => ?_
    refine step (by rw [hp₃, hd₃]; rfl) fun u₄ hd₄ hp₄ => ?_
    let job : Job := ⟨h, (t.dispatch.batch.slot i).event, (t.dispatch.batch.slot i).count,
      (t.dispatch.batch.slot i).fields⟩
    refine answer (handler job world).1 (by rw [hp₄]; rfl) fun u₅ hd₅ hp₅ => ?_
    refine storing hp₅ fun v hv => hr v ?_
    rw [hv, hd₅, hd₄, Dispatch.serve, hslot, hh]
    rfl

/-- A worker goes through the rest of its slots as `Dispatch.scanSlots` does. -/
theorem scanSlots (handler : Handler W) (mark : Nat) (rest : List (Fin n)) (result : ScanResult)
    (world : W) (t : Traffic κ n) (ne : result ≠ .exit)
    (hw : t.workers w = .passing ⟨mark, rest⟩) (s : Scan W n)
    (hs : s = Dispatch.scanSlots handler w
      (rest.takeWhile fun i => i.val == w || decide (i.val < mark)) result t.dispatch world) :
    ReachesAlone slotOf w t s.dispatch (if s.result = .exit then .gone else .between) := by
  induction rest generalizing t result world with
  | nil =>
    subst hs
    exact step (by rw [hw]; rfl) fun u hd hp => refl hd (by simp [hp, Dispatch.scanSlots, ne])
  | cons i rest ih =>
    by_cases hseen : i.val = w ∨ i.val < mark
    · have hb : (i.val == w || decide (i.val < mark)) = true := by simpa using hseen
      simp only [List.takeWhile_cons, hb, if_true, Dispatch.scanSlots] at hs
      have hlook : (t.workers w).step t.dispatch w =
          some (t.dispatch, WorkerPoint.look w i ⟨mark, rest⟩ (t.dispatch.batch.state i), []) := by
        rw [hw]
        simp [WorkerPoint.step, hseen]
      have skip (hl : WorkerPoint.look w i ⟨mark, rest⟩ (t.dispatch.batch.state i) =
            .passing ⟨mark, rest⟩)
          (hs : s = Dispatch.scanSlots handler w
            (rest.takeWhile fun i => i.val == w || decide (i.val < mark)) result t.dispatch world) :
          ReachesAlone slotOf w t s.dispatch (if s.result = .exit then .gone else .between) :=
        step hlook fun u hd hp => ih result world u ne (by rw [hp, hl]) (by rw [hs, hd])
      cases hstate : t.dispatch.batch.state i with
      | posted =>
        rw [hstate] at hs hlook
        refine step hlook fun u hd hp => serve handler world hp fun v hv hq => ?_
        refine ih .served (t.dispatch.serve handler i world).2 v (by simp) hq ?_
        rw [hs, hv, hd]
      | exitAsked =>
        rw [hstate] at hs hlook
        by_cases hi : i.val = w
        · simp only [hi, if_true] at hs
          have hp' : WorkerPoint.look w i ⟨mark, rest⟩ .exitAsked =
              .serving i .leaving ⟨mark, rest⟩ := by
            simp [WorkerPoint.look, hi]
          rw [hp'] at hlook
          refine step hlook fun u hd hp => ?_
          cases hack : t.dispatch.batch.acknowledge i with
          | some batch =>
            rw [hack] at hs
            subst hs
            refine step (e := { t.dispatch with batch }) (q := .gone) (o := []) ?_
              fun v hv hq => refl hv (by simp [hq])
            rw [hp]
            simp [WorkerPoint.step, hd, hack]
          | none =>
            rw [hack] at hs
            refine step (e := t.dispatch) (q := .passing ⟨mark, rest⟩) (o := []) ?_
              fun v hv hq => ih result world v ne hq (by rw [hs, hv])
            rw [hp]
            simp [WorkerPoint.step, hd, hack]
        · simp only [hi, if_false] at hs
          exact skip (by simp [hstate, WorkerPoint.look, hi]) hs
      | unused => exact skip (by simp [hstate, WorkerPoint.look]) (by simpa [hstate] using hs)
      | waiting => exact skip (by simp [hstate, WorkerPoint.look]) (by simpa [hstate] using hs)
      | exitSeen => exact skip (by simp [hstate, WorkerPoint.look]) (by simpa [hstate] using hs)
    · have hb : (i.val == w || decide (i.val < mark)) = false := by simpa using hseen
      simp only [List.takeWhile_cons, hb] at hs
      subst hs
      refine step (e := t.dispatch) (q := .between) (o := []) ?_ fun u hd hp => refl hd ?_
      · rw [hw]
        simp [WorkerPoint.step, hseen]
      · simp [hp, ne, Dispatch.scanSlots]

end ReachesAlone

/-- A worker that nobody disturbs passes over its slots as `Dispatch.scan` does. -/
theorem reachesAlone_scan (slotOf : κ → Fin n) (w : Nat) (t : Traffic κ n) (handler : Handler W)
    (world : W) (hw : t.workers w = .between) :
    ReachesAlone slotOf w t (t.dispatch.scan handler w world).dispatch
      (if (t.dispatch.scan handler w world).result = .exit then .gone else .between) :=
  ReachesAlone.step (by rw [hw]; rfl) fun u hd hp =>
    ReachesAlone.scanSlots handler _ _ .idle world u (by simp) hp _
      (by rw [hd, Dispatch.scan, Dispatch.scanned])

end Traffic

end PluginBridge
