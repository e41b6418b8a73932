import PluginBridge.Proofs.Traffic.Rounds

/-!
# Runs

A run is a list of moves, each of which is allowed where it is made. What every allowed move keeps,
a whole run keeps (`Run.keeps`). A goal that each move of one party brings nearer, and that no other
move takes away again, is reached once that party has made enough moves (`Run.reaches`).
-/

namespace PluginBridge.Traffic

variable {κ : Type} [DecidableEq κ] {n : Nat}

/-- Moves that are made one after the other, each of them allowed where it is made. -/
inductive Run (slotOf : κ → Fin n) (allowed : Traffic κ n → TrafficMove κ n → Prop) :
    Traffic κ n → List (TrafficMove κ n) → Traffic κ n → Prop where
  | nil (t : Traffic κ n) : Run slotOf allowed t [] t
  | cons {t u v : Traffic κ n} {m : TrafficMove κ n} {ms : List (TrafficMove κ n)}
      (ok : allowed t m) (step : t.step slotOf m = some u) (rest : Run slotOf allowed u ms v) :
      Run slotOf allowed t (m :: ms) v

variable {slotOf : κ → Fin n} {allowed : Traffic κ n → TrafficMove κ n → Prop}
  {t u v : Traffic κ n} {ms : List (TrafficMove κ n)}

namespace Run

/-- What each allowed move keeps, a run keeps. -/
theorem keeps {P : Traffic κ n → Prop}
    (step : ∀ {t u m}, P t → allowed t m → t.step slotOf m = some u → P u)
    (run : Run slotOf allowed t ms u) (h : P t) : P u := by
  induction run with
  | nil => exact h
  | cons ok hs _ ih => exact ih (step h ok hs)

/-- Moves that are all allowed wherever they are made give a run if they can be made. -/
theorem of_run (ok : ∀ t, ∀ m ∈ ms, allowed t m) (h : t.run slotOf ms = some u) :
    Run slotOf allowed t ms u := by
  induction ms generalizing t with
  | nil =>
    cases h
    exact .nil _
  | cons m ms ih =>
    obtain ⟨v, hs, hr⟩ := Option.bind_eq_some_iff.1 h
    exact .cons (ok t m List.mem_cons_self) hs
      (ih (fun t m hm => ok t m (List.mem_cons_of_mem _ hm)) hr)

/-- A goal is reached if each move of one party brings it nearer and nobody puts it off. -/
theorem reaches (P goal : Traffic κ n → Prop) (left : Traffic κ n → Nat)
    {own : TrafficMove κ n → Bool} (pos : ∀ {t}, P t → 0 < left t)
    (step : ∀ {t u m}, P t → allowed t m → t.step slotOf m = some u →
      goal u ∨ P u ∧ left u + (own m).toNat ≤ left t)
    (stays : ∀ {t u m}, goal t → allowed t m → t.step slotOf m = some u → goal u)
    (run : Run slotOf allowed t ms u) (h : P t) (enough : left t ≤ ms.countP own) : goal u := by
  induction run with
  | nil t =>
    have := pos h
    simp only [List.countP_nil] at enough
    omega
  | @cons t u v m ms ok hs rest ih =>
    rw [List.countP_cons] at enough
    rcases step h ok hs with done | ⟨next, less⟩
    · exact rest.keeps stays done
    · apply ih next
      cases hm : own m with
      | false =>
        simp only [hm, Bool.toNat_false, Bool.false_eq_true, if_false] at less enough
        omega
      | true =>
        simp only [hm, Bool.toNat_true, if_true] at less enough
        omega

end Run

end PluginBridge.Traffic
