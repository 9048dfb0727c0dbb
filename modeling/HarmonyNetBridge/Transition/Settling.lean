import HarmonyNetBridge.Transition.Runs

/-! Systems that come to rest: every run is bounded by a measure of the work that is left, and
where no step is possible any more the work is done. -/
namespace Transition
variable {σ ι : Type*} {step : σ → ι → σ → Prop} {done I : σ → Prop} {s : σ}

def AtRest (step : σ → ι → σ → Prop) (s : σ) : Prop := ∀ l t, ¬ step s l t

/-- No run from `s` has more than `bound` steps, and one that cannot be continued is done. -/
structure Settles (step : σ → ι → σ → Prop) (done : σ → Prop) (bound : ℕ) (s : σ) : Prop where
  bounded : ∀ ls t, Run step s ls t → ls.length ≤ bound
  rests : ∀ ls t, Run step s ls t → AtRest step t → done t

theorem settles_of_decreasing (work : σ → ℕ) (hstep : ∀ s l t, step s l t → I s → I t)
    (hwork : ∀ s l t, step s l t → I s → work t < work s)
    (hrest : ∀ s, I s → AtRest step s → done s) (hs : I s) : Settles step done (work s) s where
  bounded ls t hrun := by
    have hspent : ls.length + work t ≤ work s ∧ I t := by
      induction hrun with
      | nil s => simpa using hs
      | cons hfirst hrun ih =>
        have hlt := hwork _ _ _ hfirst hs
        obtain ⟨hle, ht⟩ := ih (hstep _ _ _ hfirst hs)
        exact ⟨by simp only [List.length_cons]; omega, ht⟩
    omega
  rests ls t hrun := hrest t (hrun.invariant hstep hs)

/-- Left to itself, the system gets there. -/
theorem Settles.exists_done {bound : ℕ} (h : Settles step done bound s) :
    ∃ ls t, Run step s ls t ∧ AtRest step t ∧ done t := by
  by_contra hnone
  have hlong : ∀ n, ∃ ls t, Run step s ls t ∧ ls.length = n := by
    intro n
    induction n with
    | zero => exact ⟨[], s, .nil s, rfl⟩
    | succ n ih =>
      obtain ⟨ls, t, hrun, hlen⟩ := ih
      have hmore : ¬ AtRest step t := fun hrest => hnone ⟨ls, t, hrun, hrest, h.rests ls t hrun hrest⟩
      obtain ⟨l, u, hnext⟩ : ∃ l u, step t l u := by simpa [AtRest] using hmore
      exact ⟨ls ++ [l], u, hrun.snoc hnext, by simp [hlen]⟩
  obtain ⟨ls, t, hrun, hlen⟩ := hlong (bound + 1)
  have := h.bounded ls t hrun
  omega

end Transition
