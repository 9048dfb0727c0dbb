import Mathlib.Data.Set.Insert
import HarmonyNetBridge.Transition.Runs
import HarmonyNetBridge.Protocol.Session

/-! What the session registry is for: one slot that holds at most one control session, and
under a VPN session at most one data channel with at most one relay. Tokens are used for one
session each. Connections, tokens and relays are arbitrary types here. -/
namespace HarmonyNetBridge.SessionSpec
open Transition

variable {C T R : Type*}

/-- A data channel exists only under a VPN session, and a relay only under a data channel. -/
inductive Slot (C T R : Type*) where
  | free
  | phase1 (control : C) (token : T)
  | vpn (control : C) (token : T) (data : Option (C × Option R))

namespace Slot

def control : Slot C T R → Option C
  | .free => none
  | .phase1 c _ => some c
  | .vpn c _ _ => some c

def mode : Slot C T R → Option Mode
  | .free => none
  | .phase1 _ _ => some .phase1
  | .vpn _ _ _ => some .vpn

def token : Slot C T R → Option T
  | .free => none
  | .phase1 _ t => some t
  | .vpn _ t _ => some t

def data : Slot C T R → Option C
  | .vpn _ _ data => data.map Prod.fst
  | _ => none

def relay : Slot C T R → Option R
  | .vpn _ _ data => data.bind Prod.snd
  | _ => none

def opened (c : C) (mode : Mode) (token : T) : Slot C T R :=
  match mode with
  | .phase1 => .phase1 c token
  | .vpn => .vpn c token none

@[simp] theorem opened_control (c : C) (mode : Mode) (token : T) :
    (opened c mode token : Slot C T R).control = some c := by cases mode <;> rfl

@[simp] theorem opened_token (c : C) (mode : Mode) (token : T) :
    (opened c mode token : Slot C T R).token = some token := by cases mode <;> rfl

@[simp] theorem opened_data (c : C) (mode : Mode) (token : T) :
    (opened c mode token : Slot C T R).data = none := by cases mode <;> rfl

variable {s : Slot C T R}

theorem eq_free_of_control (h : s.control = none) : s = .free := by
  cases s with
  | free => rfl
  | phase1 c t => cases h
  | vpn c t d => cases h

theorem eq_vpn_of_mode (h : s.mode = some .vpn) : ∃ c t data, s = .vpn c t data := by
  cases s with
  | free => cases h
  | phase1 c t => cases h
  | vpn c t data => exact ⟨c, t, data, rfl⟩

theorem eq_vpn_of_data {d : C} (h : s.data = some d) : ∃ c t r, s = .vpn c t (some (d, r)) := by
  cases s with
  | free => cases h
  | phase1 c t => cases h
  | vpn c t data =>
    obtain ⟨⟨d', r⟩, hd, rfl⟩ := Option.map_eq_some_iff.mp h
    exact ⟨c, t, r, by rw [hd]⟩

theorem data_of_relay {r : R} (h : s.relay = some r) : ∃ d, s.data = some d := by
  cases s with
  | free => cases h
  | phase1 c t => cases h
  | vpn c t data =>
    obtain ⟨⟨d, r'⟩, hd, -⟩ := Option.bind_eq_some_iff.mp h
    exact ⟨d, by simp [Slot.data, hd]⟩

end Slot

/-- Changes of the slot, in the order in which they happen. -/
inductive Event (C T R : Type*) where
  | opened (c : C) (mode : Mode) (token : T)
  | bound (d : C) (token : T)
  | attached (d : C) (relay : R)
  | detached (d : C)
  | closed (c : C)
  | stopped

/-- The abstract daemon: its slot, the tokens of all sessions it ever accepted, and whether
it is stopping. The token in the slot is among the used ones, and a stopping daemon has
an empty slot. -/
structure Spec (C T R : Type*) where
  slot : Slot C T R
  used : Set T
  stopped : Bool
  current : ∀ t, slot.token = some t → t ∈ used
  idle : stopped = true → slot = .free

def Spec.start : Spec C T R where
  slot := .free
  used := ∅
  stopped := false
  current := by simp [Slot.token]
  idle := by simp

theorem Spec.exists_next (s : Spec C T R) (slot : Slot C T R) (stopped : Bool)
    (token : ∀ t, slot.token = some t → s.slot.token = some t)
    (idle : stopped = true → slot = .free) :
    ∃ t : Spec C T R, t.slot = slot ∧ t.used = s.used ∧ t.stopped = stopped :=
  ⟨⟨slot, s.used, stopped, fun t ht => s.current t (token t ht), idle⟩, rfl, rfl, rfl⟩

inductive Step : Spec C T R → Event C T R → Spec C T R → Prop
  | opened {s t : Spec C T R} {c : C} {mode : Mode} {token : T} (free : s.slot = .free)
      (up : s.stopped = false) (fresh : token ∉ s.used) (slot : t.slot = .opened c mode token)
      (used : t.used = insert token s.used) (stopped : t.stopped = false) :
      Step s (.opened c mode token) t
  | bound {s t : Spec C T R} {c d : C} {token : T} (vpn : s.slot = .vpn c token none)
      (slot : t.slot = .vpn c token (some (d, none))) (used : t.used = s.used)
      (stopped : t.stopped = s.stopped) : Step s (.bound d token) t
  | attached {s t : Spec C T R} {c d : C} {token : T} {r : R}
      (vpn : s.slot = .vpn c token (some (d, none)))
      (slot : t.slot = .vpn c token (some (d, some r))) (used : t.used = s.used)
      (stopped : t.stopped = s.stopped) : Step s (.attached d r) t
  | detached {s t : Spec C T R} {c d : C} {token : T} {r : Option R}
      (vpn : s.slot = .vpn c token (some (d, r))) (slot : t.slot = .vpn c token none)
      (used : t.used = s.used) (stopped : t.stopped = s.stopped) : Step s (.detached d) t
  | closed {s t : Spec C T R} {c : C} (held : s.slot.control = some c) (slot : t.slot = .free)
      (used : t.used = s.used) (stopped : t.stopped = s.stopped) : Step s (.closed c) t
  | stopped {s t : Spec C T R} (slot : t.slot = .free) (used : t.used = s.used)
      (stopped : t.stopped = true) : Step s .stopped t

/-- A run of the abstract daemon from its start. -/
abbrev Accepts (es : List (Event C T R)) (s : Spec C T R) : Prop := Run Step Spec.start es s

/-- Control connections that a history registered and did not release since. -/
def openControls [DecidableEq C] (es : List (Event C T R)) : List C :=
  es.foldl (fun acc e =>
    match e with
    | .opened c _ _ => c :: acc
    | .closed c => acc.erase c
    | .stopped => []
    | _ => acc) []

/-- Data connections that a history registered and did not release since. A control release
releases the data connection too. -/
def openData [DecidableEq C] (es : List (Event C T R)) : List C :=
  es.foldl (fun acc e =>
    match e with
    | .bound d _ => d :: acc
    | .detached d => acc.erase d
    | .closed _ | .stopped => []
    | _ => acc) []

/-- The last DATA_HELLO that bound a data connection, with the token it carried. -/
def lastBound (es : List (Event C T R)) : Option (C × T) :=
  es.foldl (fun acc e =>
    match e with
    | .bound d token => some (d, token)
    | _ => acc) none

/-- Relays that a history published, with their data connection, and did not withdraw since. -/
def openRelays [DecidableEq C] (es : List (Event C T R)) : List (C × R) :=
  es.foldl (fun acc e =>
    match e with
    | .attached d relay => (d, relay) :: acc
    | .detached d => acc.filter fun p => p.1 ≠ d
    | .closed _ | .stopped => []
    | _ => acc) []

variable {es : List (Event C T R)} {s : Spec C T R}

theorem accepts_openControls [DecidableEq C] (h : Accepts es s) :
    openControls es = s.slot.control.toList := by
  refine h.snocInduction (motive := fun es s => openControls es = s.slot.control.toList) rfl ?_
  intro es s e t _ ih hstep
  rw [openControls, List.foldl_append, ← openControls, ih]
  cases hstep with
  | opened free up fresh slot used stopped =>
    rw [free, slot, Slot.opened_control]
    rfl
  | bound vpn slot used stopped => simp [vpn, slot, Slot.control]
  | attached vpn slot used stopped => simp [vpn, slot, Slot.control]
  | detached vpn slot used stopped => simp [vpn, slot, Slot.control]
  | closed held slot used stopped => rw [held]; simp [slot, Slot.control]
  | stopped slot used stopped => simp [slot, Slot.control]

theorem accepts_openData [DecidableEq C] (h : Accepts es s) : openData es = s.slot.data.toList := by
  refine h.snocInduction (motive := fun es s => openData es = s.slot.data.toList) rfl ?_
  intro es s e t _ ih hstep
  rw [openData, List.foldl_append, ← openData, ih]
  cases hstep with
  | opened free up fresh slot used stopped =>
    rw [free, slot, Slot.opened_data]
    rfl
  | bound vpn slot used stopped => simp [vpn, slot, Slot.data]
  | attached vpn slot used stopped => simp [vpn, slot, Slot.data]
  | detached vpn slot used stopped => simp [vpn, slot, Slot.data]
  | closed held slot used stopped => simp [slot, Slot.data]
  | stopped slot used stopped => simp [slot, Slot.data]

/-- The relay in the slot with its data connection. -/
def Slot.published : Slot C T R → Option (C × R)
  | .vpn _ _ (some (d, some r)) => some (d, r)
  | _ => none

theorem Slot.published_relay (s : Slot C T R) : s.published.map Prod.snd = s.relay := by
  rcases s with _ | _ | ⟨_, _, _ | ⟨d, _ | r⟩⟩ <;> rfl

theorem accepts_openRelays [DecidableEq C] (h : Accepts es s) :
    openRelays es = s.slot.published.toList := by
  refine h.snocInduction (motive := fun es s => openRelays es = s.slot.published.toList) rfl ?_
  intro es s e t _ ih hstep
  rw [openRelays, List.foldl_append, ← openRelays, ih]
  cases hstep with
  | @opened _ c mode token free up fresh slot used stopped =>
    rw [free, slot]
    cases mode <;> rfl
  | bound vpn slot used stopped => simp [vpn, slot, Slot.published]
  | attached vpn slot used stopped => simp [vpn, slot, Slot.published]
  | @detached _ c d token r vpn slot used stopped =>
    cases r <;> simp [vpn, slot, Slot.published]
  | closed held slot used stopped => simp [slot, Slot.published]
  | stopped slot used stopped => simp [slot, Slot.published]

/-- The data connection in the slot was bound by a DATA_HELLO with the session's token. -/
theorem accepts_lastBound (h : Accepts es s) {c d : C} {token : T} {r : Option R}
    (hs : s.slot = .vpn c token (some (d, r))) : lastBound es = some (d, token) := by
  refine h.snocInduction (motive := fun es s => ∀ c d token r,
    s.slot = .vpn c token (some (d, r)) → lastBound es = some (d, token)) ?_ ?_ c d token r hs
  · intro c d token r hs
    simp [Spec.start] at hs
  · intro es s e t _ ih hstep c d token r hs
    rw [lastBound, List.foldl_append, ← lastBound]
    cases hstep with
    | @opened _ _ mode _ free up fresh slot used stopped =>
      rw [slot] at hs
      cases mode <;> simp [Slot.opened] at hs
    | bound vpn slot used stopped =>
      simp only [slot, Slot.vpn.injEq, Option.some.injEq, Prod.mk.injEq] at hs
      simp [hs]
    | attached vpn slot used stopped =>
      simp only [slot, Slot.vpn.injEq, Option.some.injEq, Prod.mk.injEq] at hs
      obtain ⟨rfl, rfl, rfl, -⟩ := hs
      exact ih _ _ _ _ vpn
    | detached vpn slot used stopped => simp [slot] at hs
    | closed held slot used stopped => simp [slot] at hs
    | stopped slot used stopped => simp [slot] at hs

theorem accepts_used (h : Accepts es s) (token : T) :
    token ∈ s.used ↔ ∃ c mode, Event.opened c mode token ∈ es := by
  refine h.snocInduction (motive := fun es s => token ∈ s.used ↔
    ∃ c mode, Event.opened c mode token ∈ es) (by simp [Spec.start]) ?_
  intro es s e t _ ih hstep
  cases hstep with
  | @opened _ c mode tok free up fresh slot used stopped =>
    rw [used, Set.mem_insert_iff, ih]
    constructor
    · rintro (rfl | ⟨c', mode', hm⟩)
      · exact ⟨c, mode, by simp⟩
      · exact ⟨c', mode', by simp [hm]⟩
    · rintro ⟨c', mode', hm⟩
      rcases List.mem_append.mp hm with hm | hm
      · exact .inr ⟨c', mode', hm⟩
      · simp only [List.mem_singleton, Event.opened.injEq] at hm
        exact .inl hm.2.2
  | bound vpn slot used stopped => simp [used, ih]
  | attached vpn slot used stopped => simp [used, ih]
  | detached vpn slot used stopped => simp [used, ih]
  | closed held slot used stopped => simp [used, ih]
  | stopped slot used stopped => simp [used, ih]

def Released (s : Spec C T R) (token : T) : Prop := token ∈ s.used ∧ s.slot.token ≠ some token

theorem Released.step {s t : Spec C T R} {e : Event C T R} {token : T} (h : Released s token)
    (hstep : Step s e t) : Released t token ∧ ∀ d, e ≠ .bound d token := by
  obtain ⟨hused, hslot⟩ := h
  cases hstep with
  | @opened _ c mode tok free up fresh slot used stopped =>
    have hne : tok ≠ token := by
      rintro rfl
      exact fresh hused
    exact ⟨⟨by simp [used, hused], by simp [slot, hne]⟩, by simp⟩
  | @bound _ c d tok vpn slot used stopped =>
    have hne : tok ≠ token := by simpa [vpn, Slot.token] using hslot
    exact ⟨⟨by simp [used, hused], by simp [slot, hne, Slot.token]⟩, by simp [hne]⟩
  | attached vpn slot used stopped =>
    exact ⟨⟨by simp [used, hused], by simpa [vpn, slot, Slot.token] using hslot⟩, by simp⟩
  | detached vpn slot used stopped =>
    exact ⟨⟨by simp [used, hused], by simpa [vpn, slot, Slot.token] using hslot⟩, by simp⟩
  | closed held slot used stopped =>
    exact ⟨⟨by simp [used, hused], by simp [slot, Slot.token]⟩, by simp⟩
  | stopped slot used stopped =>
    exact ⟨⟨by simp [used, hused], by simp [slot, Slot.token]⟩, by simp⟩

/-- A released token stays released, and no later event binds a data channel with it. -/
theorem Released.run {s t : Spec C T R} {es : List (Event C T R)} {token : T}
    (h : Released s token) (hrun : Run Step s es t) :
    Released t token ∧ ∀ d, Event.bound d token ∉ es := by
  induction hrun with
  | nil => exact ⟨h, by simp⟩
  | cons hstep _ ih =>
    obtain ⟨h', hne⟩ := h.step hstep
    obtain ⟨ht, hes⟩ := ih h'
    refine ⟨ht, fun d hd => ?_⟩
    rcases List.mem_cons.mp hd with hd | hd
    · exact hne d hd.symm
    · exact hes d hd

theorem accepts_stopped (h : Accepts es s) : s.stopped = true ↔ Event.stopped ∈ es := by
  refine h.snocInduction (motive := fun es s => s.stopped = true ↔ Event.stopped ∈ es)
    (by simp [Spec.start]) ?_
  intro es s e t _ ih hstep
  cases hstep with
  | opened free up fresh slot used stopped => simp [stopped, ← ih, up]
  | bound vpn slot used stopped => simp [stopped, ih]
  | attached vpn slot used stopped => simp [stopped, ih]
  | detached vpn slot used stopped => simp [stopped, ih]
  | closed held slot used stopped => simp [stopped, ih]
  | stopped slot used stopped => simp [stopped]

end HarmonyNetBridge.SessionSpec
