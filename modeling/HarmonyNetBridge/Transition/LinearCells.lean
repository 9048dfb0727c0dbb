import Mathlib.Logic.Function.Basic
import Mathlib.Tactic.Common

/-! Linear resources kept in cells. A resource that was handed out sits in exactly
one cell until it is disposed of, and it is disposed of once. -/
namespace Transition
open Function
variable {Cell Res : Type*} [DecidableEq Cell] [DecidableEq Res]

/-- `created` are the resources handed out so far, `cell` says what each cell holds and
`disposed` counts the disposals of each resource. -/
structure Linear (created : Res → Prop) (cell : Cell → Option Res) (disposed : Res → ℕ) :
    Prop where
  live : ∀ x r, cell x = some r → created r ∧ disposed r = 0
  unique : ∀ x y r, cell x = some r → cell y = some r → x = y
  held : ∀ r, created r → disposed r = 0 → ∃ x, cell x = some r
  once : ∀ r, disposed r ≤ 1
  fresh : ∀ r, ¬ created r → disposed r = 0

namespace Linear
variable {created : Res → Prop} {cell : Cell → Option Res} {disposed : Res → ℕ}

omit [DecidableEq Cell] [DecidableEq Res] in
theorem empty (h : ∀ r, ¬ created r) : Linear created (fun _ : Cell => none) (fun _ => 0) where
  live := by simp
  unique := by simp
  held r hr := absurd hr (h r)
  once := by simp
  fresh := by simp

omit [DecidableEq Res] in
theorem create (h : Linear created cell disposed) {x : Cell} {r : Res} (hx : cell x = none)
    (hr : ¬ created r) : Linear (fun q => created q ∨ q = r) (update cell x (some r)) disposed where
  live y q hy := by
    by_cases hyx : y = x
    · subst hyx
      simp only [update_self, Option.some.injEq] at hy
      subst hy
      exact ⟨.inr rfl, h.fresh r hr⟩
    · rw [update_of_ne hyx] at hy
      exact ⟨.inl (h.live y q hy).1, (h.live y q hy).2⟩
  unique y z q hy hz := by
    by_cases hyx : y = x <;> by_cases hzx : z = x
    · rw [hyx, hzx]
    · subst hyx
      rw [update_self] at hy
      rw [update_of_ne hzx] at hz
      exact absurd (Option.some.inj hy ▸ (h.live z q hz).1) hr
    · subst hzx
      rw [update_self] at hz
      rw [update_of_ne hyx] at hy
      exact absurd (Option.some.inj hz ▸ (h.live y q hy).1) hr
    · rw [update_of_ne hyx] at hy
      rw [update_of_ne hzx] at hz
      exact h.unique y z q hy hz
  held q hq hd := by
    rcases hq with hq | rfl
    · obtain ⟨y, hy⟩ := h.held q hq hd
      have hyx : y ≠ x := by rintro rfl; simp [hx] at hy
      exact ⟨y, by rw [update_of_ne hyx]; exact hy⟩
    · exact ⟨x, update_self ..⟩
  once := h.once
  fresh q hq := h.fresh q fun hc => hq (.inl hc)

omit [DecidableEq Res] in
theorem move (h : Linear created cell disposed) {x y : Cell} (hy : cell y = none) :
    Linear created (update (update cell x none) y (cell x)) disposed := by
  let swap : Cell → Cell := fun z => if z = y then x else if z = x then y else z
  have hcell : update (update cell x none) y (cell x) =
      fun z => cell (swap z) := by
    funext z
    by_cases hzy : z = y
    · simp [swap, hzy]
    · by_cases hzx : z = x
      · have hxy : x ≠ y := hzx ▸ hzy
        simp [swap, hzx, hxy, hy]
      · simp [swap, hzy, hzx]
  have hswap : ∀ z, swap (swap z) = z := by
    intro z
    by_cases hzy : z = y <;> by_cases hzx : z = x <;> simp_all [swap]
  rw [hcell]
  exact
    { live := fun z r hz => h.live _ r hz
      unique := fun z w r hz hw => by
        have := congrArg swap (h.unique _ _ r hz hw)
        rwa [hswap, hswap] at this
      held := fun r hr hd => by
        obtain ⟨z, hz⟩ := h.held r hr hd
        exact ⟨swap z, by rw [hswap]; exact hz⟩
      once := h.once
      fresh := h.fresh }

theorem dispose (h : Linear created cell disposed) {x : Cell} {r : Res} (hx : cell x = some r) :
    Linear created (update cell x none)
      (update disposed r (disposed r + 1)) where
  live y q hy := by
    have hyx : y ≠ x := by rintro rfl; simp at hy
    rw [update_of_ne hyx] at hy
    have hqr : q ≠ r := by rintro rfl; exact hyx (h.unique y x q hy hx)
    rw [update_of_ne hqr]
    exact h.live y q hy
  unique y z q hy hz := by
    have hyx : y ≠ x := by rintro rfl; simp at hy
    have hzx : z ≠ x := by rintro rfl; simp at hz
    rw [update_of_ne hyx] at hy
    rw [update_of_ne hzx] at hz
    exact h.unique y z q hy hz
  held q hq hd := by
    have hqr : q ≠ r := by rintro rfl; simp at hd
    rw [update_of_ne hqr] at hd
    obtain ⟨y, hy⟩ := h.held q hq hd
    have hyx : y ≠ x := by
      rintro rfl
      rw [hx] at hy
      exact hqr (Option.some.inj hy).symm
    exact ⟨y, by rw [update_of_ne hyx]; exact hy⟩
  once q := by
    by_cases hqr : q = r
    · subst hqr
      have := (h.live x q hx).2
      simp [this]
    · rw [update_of_ne hqr]
      exact h.once q
  fresh q hq := by
    have hqr : q ≠ r := by rintro rfl; exact hq (h.live x q hx).1
    rw [update_of_ne hqr]
    exact h.fresh q hq

theorem disposeCell (h : Linear created cell disposed) (x : Cell) :
    Linear created (update cell x none)
      (fun r => if cell x = some r then disposed r + 1 else disposed r) := by
  cases hx : cell x with
  | none =>
    have hcell : update cell x none = cell := update_eq_self_iff.mpr hx.symm
    simpa [hcell] using h
  | some q =>
    have hcount : (fun r => if some q = some r then disposed r + 1 else disposed r) =
        update disposed q (disposed q + 1) := by
      funext r
      rcases eq_or_ne r q with rfl | hr
      · simp
      · simp [hr, hr.symm]
    rw [hcount]
    exact h.dispose hx

omit [DecidableEq Cell] [DecidableEq Res] in
/-- A resource that no cell holds any more was disposed of exactly once. -/
theorem disposed_once (h : Linear created cell disposed) {r : Res} (hr : created r)
    (hcell : ∀ x, cell x ≠ some r) : disposed r = 1 := by
  have hle := h.once r
  have hpos : disposed r ≠ 0 := by
    intro hz
    obtain ⟨x, hx⟩ := h.held r hr hz
    exact hcell x hx
  omega

end Linear
end Transition
