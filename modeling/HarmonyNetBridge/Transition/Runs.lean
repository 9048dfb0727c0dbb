import Mathlib.Data.List.Basic
import Mathlib.Data.List.Sublists
import Mathlib.Tactic.Common

/-! Finite runs of a labelled transition relation, the states they reach and the
order in which two labels occur in a schedule. -/
namespace Transition
open List
variable {σ ι : Type*} {step step' : σ → ι → σ → Prop}

/-- `Run step s ls t`: taking the labels `ls` one after another leads from `s` to `t`. -/
inductive Run (step : σ → ι → σ → Prop) : σ → List ι → σ → Prop
  | nil (s : σ) : Run step s [] s
  | cons {s t u : σ} {l : ι} {ls : List ι} :
      step s l t → Run step t ls u → Run step s (l :: ls) u

namespace Run

variable {s t u : σ} {ls : List ι} {I : σ → Prop}

theorem append {ms : List ι} (h : Run step s ls t) (k : Run step t ms u) :
    Run step s (ls ++ ms) u := by
  induction h with
  | nil => exact k
  | cons hs _ ih => exact .cons hs (ih k)

theorem single {l : ι} (h : step s l t) : Run step s [l] t := .cons h (.nil t)

theorem snoc {l : ι} (h : Run step s ls t) (hs : step t l u) :
    Run step s (ls ++ [l]) u := h.append (.single hs)

/-- Induction that adds one step at the end of the run. -/
theorem snocInduction {motive : List ι → σ → Prop} (h : Run step s ls t) (nil : motive [] s)
    (snoc : ∀ ls t l u, Run step s ls t → motive ls t → step t l u → motive (ls ++ [l]) u) :
    motive ls t := by
  suffices key : ∀ (pre : List ι) (s' : σ), Run step s pre s' → motive pre s' →
      Run step s' ls t → motive (pre ++ ls) t by
    simpa using key [] s (.nil s) nil h
  clear h
  intro pre s' hpre hm hrun
  induction hrun generalizing pre with
  | nil => simpa using hm
  | cons hs _ ih => simpa using ih _ (hpre.snoc hs) (snoc _ _ _ _ hpre hm hs)

theorem invariant (h : Run step s ls t) (hstep : ∀ s l t, step s l t → I s → I t) (hs : I s) :
    I t := by
  induction h with
  | nil => exact hs
  | cons hst _ ih => exact ih (hstep _ _ _ hst hs)

/-- From a state of `I` no run takes a label that `I` excludes. -/
theorem avoids {bad : ι → Prop} (h : Run step s ls t)
    (hstep : ∀ s l t, step s l t → I s → I t ∧ ¬ bad l) (hs : I s) : ∀ l ∈ ls, ¬ bad l := by
  induction h with
  | nil => simp
  | cons hst _ ih =>
    obtain ⟨ht, hl⟩ := hstep _ _ _ hst hs
    exact forall_mem_cons.mpr ⟨hl, ih ht⟩

theorem mono (h : Run step s ls t) (hle : ∀ s l t, step s l t → step' s l t) :
    Run step' s ls t := by
  induction h with
  | nil => exact .nil _
  | cons hs _ ih => exact .cons (hle _ _ _ hs) ih

end Run

/-- States that some run reaches from an initial state. -/
def Reachable (step : σ → ι → σ → Prop) (init : σ → Prop) (s : σ) : Prop :=
  ∃ s₀ ls, init s₀ ∧ Run step s₀ ls s

namespace Reachable
variable {init : σ → Prop}

theorem start {s : σ} (h : init s) : Reachable step init s := ⟨s, [], h, .nil s⟩

theorem run {s t : σ} {ls : List ι} (h : Reachable step init s) (k : Run step s ls t) :
    Reachable step init t := by
  obtain ⟨s₀, ms, h₀, hr⟩ := h
  exact ⟨s₀, ms ++ ls, h₀, hr.append k⟩

theorem next {s t : σ} {l : ι} (h : Reachable step init s) (k : step s l t) :
    Reachable step init t := h.run (.single k)

theorem invariant {s : σ} {I : σ → Prop} (h : Reachable step init s)
    (hinit : ∀ s, init s → I s) (hstep : ∀ s l t, step s l t → I s → I t) : I s := by
  obtain ⟨s₀, ls, h₀, hr⟩ := h
  exact hr.invariant hstep (hinit s₀ h₀)

theorem mono {s : σ} (h : Reachable step init s)
    (hle : ∀ s l t, step s l t → step' s l t) : Reachable step' init s := by
  obtain ⟨s₀, ls, h₀, hr⟩ := h
  exact ⟨s₀, ls, h₀, hr.mono hle⟩

end Reachable

/-- The steps whose source state and label meet a condition. -/
def Guarded (step : σ → ι → σ → Prop) (ok : σ → ι → Prop) : σ → ι → σ → Prop :=
  fun s l t => step s l t ∧ ok s l

variable {s t : σ} {ls : List ι} {ε : Type*} {l a b : ι}

theorem Run.guarded {ok : σ → ι → Prop} (h : Run step s ls t) (hok : ∀ l ∈ ls, ∀ s, ok s l) :
    Run (Guarded step ok) s ls t := by
  induction h with
  | nil => exact .nil _
  | cons hs _ ih =>
    exact .cons ⟨hs, hok _ (by simp) _⟩ (ih fun l hl => hok l (mem_cons_of_mem _ hl))

/-- An invariant of the guarded steps may use what is known of every reachable state. -/
theorem Reachable.guardedInvariant {init : σ → Prop} {ok : σ → ι → Prop} {I : σ → Prop}
    (h : Reachable (Guarded step ok) init s) (hinit : ∀ s, init s → I s)
    (hstep : ∀ s l t, Reachable step init s → step s l t → ok s l → I s → I t) :
    Reachable step init s ∧ I s := by
  refine h.invariant (I := fun s => Reachable step init s ∧ I s) ?_ ?_
  · intro s hs
    exact ⟨.start hs, hinit s hs⟩
  · rintro s l t ⟨hst, hok⟩ ⟨hr, hs⟩
    exact ⟨hr.next hst, hstep s l t hr hst hok hs⟩

/-- The steps together with a record of what is observed of them, oldest first. -/
def Logged {ε : Type*} (step : σ → ι → σ → Prop) (observe : σ → ι → Option ε) :
    σ × List ε → ι → σ × List ε → Prop :=
  fun x l y => step x.1 l y.1 ∧ y.2 = x.2 ++ (observe x.1 l).toList

theorem Run.record {observe : σ → ι → Option ε} {log : List ε} {x : σ × List ε} (hs : step s l t)
    (h : Run (Logged step observe) (t, log ++ (observe s l).toList) ls x) :
    Run (Logged step observe) (s, log) (l :: ls) x := .cons ⟨hs, rfl⟩ h

/-- A run of which nothing is observed leaves the record as it is. -/
theorem Run.unobserved {observe : σ → ι → Option ε} (h : Run step s ls t) (log : List ε)
    (hnone : ∀ l ∈ ls, ∀ s, observe s l = none) :
    Run (Logged step observe) (s, log) ls (t, log) := by
  induction h with
  | nil => exact .nil _
  | cons hs _ ih =>
    have hfirst := hnone _ mem_cons_self
    refine .record hs ?_
    rw [hfirst, Option.toList_none, append_nil]
    exact ih fun l hl => hnone l (mem_cons_of_mem _ hl)

/-- A recorded run is a run, and an invariant of it may use what is known of every reachable
state. -/
theorem Reachable.loggedInvariant {init : σ → Prop} {observe : σ → ι → Option ε}
    {I : σ → List ε → Prop} {log : List ε}
    (h : Reachable (Logged step observe) (fun x => init x.1 ∧ x.2 = []) (s, log))
    (hinit : ∀ s, init s → I s [])
    (hstep : ∀ s log l t, Reachable step init s → step s l t → I s log →
      I t (log ++ (observe s l).toList)) : Reachable step init s ∧ I s log := by
  refine h.invariant (I := fun x => Reachable step init x.1 ∧ I x.1 x.2) ?_ ?_
  · rintro ⟨s, log⟩ ⟨hs, rfl⟩
    exact ⟨.start hs, hinit s hs⟩
  · rintro ⟨s, log⟩ l ⟨t, log'⟩ ⟨hst, rfl⟩ ⟨hr, hs⟩
    exact ⟨hr.next hst, hstep s log l t hr hst hs⟩

/-- The steps of an event loop that runs to completion: an event is taken only when no task is left. -/
def RunToCompletion (task event : σ → ι → σ → Prop) : σ → ι → σ → Prop :=
  fun s l t => task s l t ∨ (event s l t ∧ ∀ l' t', ¬ task s l' t')

/-- In the schedule `ls` some occurrence of `a` comes before some occurrence of `b`. -/
def Before (a b : ι) (ls : List ι) : Prop := List.Sublist [a, b] ls

instance [DecidableEq ι] (a b : ι) (ls : List ι) : Decidable (Before a b ls) :=
  inferInstanceAs (Decidable (List.Sublist [a, b] ls))

theorem Before.mem (h : Before a b ls) : a ∈ ls ∧ b ∈ ls :=
  ⟨h.subset (by simp), h.subset (by simp)⟩

theorem before_snoc : Before a b (ls ++ [l]) ↔ Before a b ls ∨ (a ∈ ls ∧ b = l) := by
  unfold Before
  constructor
  · intro h
    obtain ⟨xs, ys, hxy, hx, hy⟩ := sublist_append_iff.mp h
    match xs, ys, hxy with
    | [], ys, hxy =>
      have hlen := hy.length_le
      simp only [nil_append] at hxy
      simp [← hxy] at hlen
    | [x], ys, hxy =>
      simp only [cons_append, nil_append, List.cons.injEq] at hxy
      obtain ⟨rfl, rfl⟩ := hxy
      have hb := singleton_sublist.mp hy
      exact .inr ⟨singleton_sublist.mp hx, mem_singleton.mp hb⟩
    | x :: y :: zs, ys, hxy =>
      simp only [cons_append, List.cons.injEq] at hxy
      obtain ⟨rfl, rfl, hnil⟩ := hxy
      have hz : zs = [] := (append_eq_nil_iff.mp hnil.symm).1
      exact .inl (hz ▸ hx)
  · rintro (h | ⟨ha, rfl⟩)
    · exact h.trans (sublist_append_left _ _)
    · exact (singleton_sublist.mpr ha).append (List.Sublist.refl [b])

/-- In the schedule `ls` some occurrence of `b` has no `a` before it. -/
def Unpreceded (a b : ι) (ls : List ι) : Prop := ∃ ls₁ ls₂, ls = ls₁ ++ b :: ls₂ ∧ a ∉ ls₁

theorem Unpreceded.mem (h : Unpreceded a b ls) : b ∈ ls := by
  obtain ⟨ls₁, ls₂, rfl, -⟩ := h
  simp

theorem not_unpreceded_nil : ¬ Unpreceded a b [] := fun h => by simpa using h.mem

theorem unpreceded_snoc : Unpreceded a b (ls ++ [l]) ↔ Unpreceded a b ls ∨ (b = l ∧ a ∉ ls) := by
  constructor
  · rintro ⟨ls₁, ls₂, heq, hnot⟩
    rcases eq_nil_or_concat ls₂ with rfl | ⟨ms, m, rfl⟩
    · obtain ⟨rfl, hl⟩ := append_inj' heq rfl
      exact .inr ⟨(singleton_inj.mp hl).symm, hnot⟩
    · have heq' : ls ++ [l] = (ls₁ ++ b :: ms) ++ [m] := by simpa using heq
      exact .inl ⟨ls₁, ms, (append_inj' heq' rfl).1, hnot⟩
  · rintro (⟨ls₁, ls₂, rfl, hnot⟩ | ⟨rfl, hnot⟩)
    · exact ⟨ls₁, ls₂ ++ [l], by simp, hnot⟩
    · exact ⟨ls, [], rfl, hnot⟩

/-- Some element of `ls` with `p` has no element with `q` after it. -/
def Outstanding (p q : ι → Prop) (ls : List ι) : Prop :=
  ∃ ls₁ a ls₂, ls = ls₁ ++ a :: ls₂ ∧ p a ∧ ∀ b ∈ ls₂, ¬ q b

section Outstanding
variable {p q : ι → Prop} {l : ι} {ls : List ι}

theorem not_outstanding_nil : ¬ Outstanding p q [] := by
  rintro ⟨ls₁, a, ls₂, h, -⟩
  simp at h

theorem outstanding_snoc : Outstanding p q (ls ++ [l]) ↔ p l ∨ (Outstanding p q ls ∧ ¬ q l) := by
  constructor
  · rintro ⟨ls₁, a, ls₂, heq, hp, hq⟩
    rcases eq_nil_or_concat ls₂ with rfl | ⟨ms, m, rfl⟩
    · obtain ⟨-, hl⟩ := append_inj' heq rfl
      obtain rfl := singleton_inj.mp hl
      exact .inl hp
    · have heq' : ls ++ [l] = (ls₁ ++ a :: ms) ++ [m] := by simpa using heq
      obtain ⟨rfl, hl⟩ := append_inj' heq' rfl
      obtain rfl := singleton_inj.mp hl
      exact .inr ⟨⟨ls₁, a, ms, rfl, hp, fun b hb => hq b (by simp [hb])⟩, hq l (by simp)⟩
  · rintro (hp | ⟨⟨ls₁, a, ls₂, rfl, hp, hq⟩, hl⟩)
    · exact ⟨ls, l, [], rfl, hp, by simp⟩
    · refine ⟨ls₁, a, ls₂ ++ [l], by simp, hp, ?_⟩
      simpa [or_imp, forall_and] using ⟨hq, hl⟩

/-- One pass over the list decides it. -/
theorem outstanding_iff_foldl [DecidablePred p] [DecidablePred q] (ls : List ι) :
    ls.foldl (fun b l => decide (p l) || (b && !decide (q l))) false = true ↔ Outstanding p q ls := by
  induction ls using List.reverseRecOn with
  | nil => simp [not_outstanding_nil]
  | append_singleton ls l ih => simp [outstanding_snoc, ← ih]

instance [DecidablePred p] [DecidablePred q] (ls : List ι) : Decidable (Outstanding p q ls) :=
  decidable_of_iff _ (outstanding_iff_foldl ls)

end Outstanding

end Transition
