import HarmonyNetBridge.Transition.Runs

/-! Components that run side by side on one store. Each component's state holds a view of the
store; a step of one component changes every view. -/
namespace Transition
variable {ι σ κ F : Type*} [DecidableEq ι]

/-- Component `i` moves to `t`, and the others see what it left in the store. -/
def share (view : σ → F) (put : σ → F → σ) (w : ι → σ) (i : ι) (t : σ) : ι → σ :=
  fun j => if j = i then t else put (w j) (view t)

section share
variable {view : σ → F} {put : σ → F → σ} (w : ι → σ) {i j : ι} (t : σ)

@[simp] theorem share_self : share view put w i t i = t := if_pos rfl

@[simp] theorem share_of_ne (h : j ≠ i) : share view put w i t j = put (w j) (view t) := if_neg h

end share

/-- Interleaving of the components, each with its own step relation's labels. -/
inductive Interleaved (step : σ → κ → σ → Prop) (view : σ → F) (put : σ → F → σ) :
    (ι → σ) → ι × κ → (ι → σ) → Prop
  | step {w : ι → σ} {i : ι} {l : κ} {t : σ} (h : step (w i) l t) :
      Interleaved step view put w (i, l) (share view put w i t)

/-- All components have the same view. -/
def Agree (view : σ → F) (w : ι → σ) (f : F) : Prop := ∀ i, view (w i) = f

theorem Agree.share {view : σ → F} {put : σ → F → σ} (hput : ∀ s f, view (put s f) = f)
    (w : ι → σ) (i : ι) (t : σ) : Agree view (share view put w i t) (view t) := by
  intro j
  rcases eq_or_ne j i with rfl | hj
  · simp
  · simp [hj, hput]

theorem Run.interleave {step : σ → κ → σ → Prop} {view : σ → F} {put : σ → F → σ}
    (hview : ∀ s f, view (put s f) = f) (hself : ∀ s, put s (view s) = s)
    (hput : ∀ s f g, put (put s f) g = put s g) {s t : σ} {ls : List κ} (h : Run step s ls t)
    {w : ι → σ} {i : ι} (hi : w i = s) (hw : Agree view w (view s)) :
    Run (Interleaved step view put) w (ls.map (Prod.mk i)) (Transition.share view put w i t) := by
  induction h generalizing w with
  | nil s =>
    have hsame : Transition.share view put w i s = w := by
      funext j
      rcases eq_or_ne j i with rfl | hj
      · simp [hi]
      · rw [share_of_ne _ _ hj, ← hw j, hself]
    rw [hsame]
    exact .nil w
  | @cons s u t l ls hs _ ih =>
    have htwice : Transition.share view put (Transition.share view put w i u) i t =
        Transition.share view put w i t := by
      funext j
      rcases eq_or_ne j i with rfl | hj
      · simp
      · simp [hj, hput]
    have hrest := ih (w := Transition.share view put w i u) (share_self ..)
      (Agree.share hview w i u)
    rw [htwice] at hrest
    subst hi
    exact .cons (.step hs) hrest

end Transition
