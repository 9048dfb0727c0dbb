import Mathlib.Logic.Function.Basic
import HarmonyNetBridge.Transition.Runs

/-! `bridgeTCPWithDrainTimeout` in time: two copy loops, and a timer that is started when the first of
them has ended. The context is not cancelled. -/
namespace HarmonyNetBridge.Relay
open Transition List

inductive Direction where
  | toHost
  | toDevice
  deriving DecidableEq, Repr

/-- Why `io.Copy` has returned; `closed` is an error after the timer has closed the connections. -/
inductive CopyEnd where
  | eof
  | readFailed
  | writeFailed
  | closed
  deriving DecidableEq, Repr

/-- One `io.Copy`: what its source has sent, what of it waits to be written and what the destination
has received. `transfers` are the times at which it received bytes. -/
structure Copy where
  sent : List UInt8 := []
  buffer : List UInt8 := []
  delivered : List UInt8 := []
  transfers : List ℕ := []
  ended : Option CopyEnd := none
  reported : Bool := false
  deriving DecidableEq, Repr

/-- The reasons for which the loop can end now. -/
def Copy.MayEnd (c : Copy) (closed : Option ℕ) : CopyEnd → Prop
  | .eof | .readFailed => c.buffer = [] ∧ closed = none
  | .writeFailed => c.buffer ≠ [] ∧ closed = none
  | .closed => closed.isSome = true

/-- Where the function stands; `start` is the time at which the timer was started. -/
inductive BridgeStage where
  | waiting
  | draining (start : ℕ)
  | aborting
  | returned
  deriving DecidableEq, Repr

/-- `completed` is the number of messages in the channel and `closed` the time at which the timer has
closed the connections. -/
structure Bridge where
  now : ℕ
  copy : Direction → Copy := fun _ => {}
  completed : ℕ := 0
  stage : BridgeStage := .waiting
  closed : Option ℕ := none

def Bridge.set (s : Bridge) (d : Direction) (c : Copy) : Bridge :=
  { s with copy := Function.update s.copy d c }

inductive BridgeEvent where
  | tick
  | read (d : Direction)
  | copy (d : Direction)
  | main
  deriving DecidableEq, Repr

def copyBufferSize : ℕ := 32 * 1024

inductive BridgeStep (drainTimeout : ℕ) (s : Bridge) : BridgeEvent → Bridge → Prop
  | tick (elapsed : ℕ) : BridgeStep drainTimeout s .tick { s with now := s.now + elapsed }
  | read {d : Direction} {chunk : List UInt8} (running : (s.copy d).ended = none)
      (opened : s.closed = none) (written : (s.copy d).buffer = [])
      (size : 0 < chunk.length ∧ chunk.length ≤ copyBufferSize) :
      BridgeStep drainTimeout s (.read d)
        (s.set d { s.copy d with sent := (s.copy d).sent ++ chunk, buffer := chunk })
  /-- The destination takes some bytes of what is being written. -/
  | write {d : Direction} {n : ℕ} (running : (s.copy d).ended = none) (opened : s.closed = none)
      (size : 0 < n ∧ n ≤ (s.copy d).buffer.length) :
      BridgeStep drainTimeout s (.copy d)
        (s.set d
          { s.copy d with
            buffer := (s.copy d).buffer.drop n
            delivered := (s.copy d).delivered ++ (s.copy d).buffer.take n
            transfers := s.now :: (s.copy d).transfers })
  | ends {d : Direction} {e : CopyEnd} (running : (s.copy d).ended = none)
      (reason : (s.copy d).MayEnd s.closed e) :
      BridgeStep drainTimeout s (.copy d) (s.set d { s.copy d with ended := some e })
  /-- The connections are closed on one side, and the message is sent. -/
  | report {d : Direction} (ended : (s.copy d).ended.isSome = true)
      (silent : (s.copy d).reported = false) :
      BridgeStep drainTimeout s (.copy d)
        { s.set d { s.copy d with reported := true } with completed := s.completed + 1 }
  | first {n : ℕ} (stage : s.stage = .waiting) (message : s.completed = n + 1) :
      BridgeStep drainTimeout s .main { s with completed := n, stage := .draining s.now }
  | second {n start : ℕ} (stage : s.stage = .draining start) (message : s.completed = n + 1) :
      BridgeStep drainTimeout s .main { s with completed := n, stage := .returned }
  | fire {start : ℕ} (stage : s.stage = .draining start) (due : start + drainTimeout ≤ s.now) :
      BridgeStep drainTimeout s .main { s with stage := .aborting, closed := some s.now }
  | last {n : ℕ} (stage : s.stage = .aborting) (message : s.completed = n + 1) :
      BridgeStep drainTimeout s .main { s with completed := n, stage := .returned }

namespace Bridge

def Fresh (s : Bridge) : Prop := ∃ now, s = { now }

def Cut (s : Bridge) (d : Direction) : Prop :=
  (s.copy d).ended = none ∨ (s.copy d).ended = some .closed

/-- If the timer has cut the direction, no byte was transferred in it during the drain timeout. -/
def IdleAtAbort (drainTimeout : ℕ) (s : Bridge) (d : Direction) : Prop :=
  ∀ abort, s.closed = some abort → s.Cut d →
    ∀ time ∈ (s.copy d).transfers, time + drainTimeout ≤ abort

/-- The timer has cut no active direction, and a direction that has come to the end of its source has
delivered everything. -/
structure Kept (drainTimeout : ℕ) (s : Bridge) : Prop where
  idle : ∀ d, s.IdleAtAbort drainTimeout d
  whole : ∀ d, (s.copy d).ended = some .eof → (s.copy d).delivered = (s.copy d).sent

/-- What holds of one loop while the connections are open, or since `closed`. -/
structure CopyKept (now : ℕ) (closed : Option ℕ) (c : Copy) : Prop where
  bytes : c.sent = c.delivered ++ c.buffer
  eof : c.ended = some .eof → c.buffer = []
  past : ∀ time ∈ c.transfers, time ≤ closed.getD now
  open_ended : closed = none → c.ended ≠ some .closed

structure Orderly (s : Bridge) : Prop where
  copies : ∀ d, CopyKept s.now s.closed (s.copy d)
  opened : s.stage = .waiting ∨ (∃ start, s.stage = .draining start) → s.closed = none
  abort : ∀ time, s.closed = some time → time ≤ s.now

/-- What holds after the timer was started at `start`. -/
def Started (drainTimeout start : ℕ) (s : Bridge) : Prop :=
  (s.stage = .draining start ∧ s.closed = none) ∨
    (s.stage = .aborting ∨ s.stage = .returned) ∧
      ∀ abort, s.closed = some abort → start + drainTimeout ≤ abort

section
variable {drainTimeout : ℕ} {s t : Bridge} {e : BridgeEvent}

@[simp] theorem set_copy_self (s : Bridge) (d : Direction) (c : Copy) : (s.set d c).copy d = c :=
  Function.update_self ..

variable {d d' : Direction} {c : Copy} {ls : List BridgeEvent}

theorem set_copy_of_ne (h : d' ≠ d) : (s.set d c).copy d' = s.copy d' := Function.update_of_ne h ..

theorem set_copy_of (p : Copy → Prop) (h : p (s.copy d')) (hc : d' = d → p c) :
    p ((s.set d c).copy d') := by
  by_cases hd : d' = d
  · rw [hd, set_copy_self]
    exact hc hd
  · rw [set_copy_of_ne hd]
    exact h

theorem Orderly.set (h : s.Orderly) (hc : CopyKept s.now s.closed c) :
    (s.set d c).Orderly :=
  ⟨fun d' => set_copy_of _ (h.copies d') fun _ => hc, h.opened, h.abort⟩

theorem Orderly.step (h : s.Orderly) (hstep : BridgeStep drainTimeout s e t) : t.Orderly := by
  cases hstep with
  | tick elapsed =>
    refine ⟨fun d => ⟨(h.copies d).bytes, (h.copies d).eof, ?_, (h.copies d).open_ended⟩, h.opened, ?_⟩
    · intro time htime
      have hpast := (h.copies d).past time htime
      cases hclosed : s.closed with
      | none => simp only [hclosed, Option.getD_none] at hpast ⊢; omega
      | some abort => simpa [hclosed] using hpast
    · intro time htime
      exact (h.abort time htime).trans (Nat.le_add_right _ _)
  | read running opened written size =>
    have hc := h.copies ‹_›
    refine h.set ⟨?_, ?_, hc.past, hc.open_ended⟩
    · rw [hc.bytes, written, append_nil]
    · intro heof
      rw [running] at heof
      cases heof
  | write running opened size =>
    have hc := h.copies ‹_›
    refine h.set ⟨?_, ?_, ?_, hc.open_ended⟩
    · rw [hc.bytes, append_assoc, take_append_drop]
    · intro heof
      rw [running] at heof
      cases heof
    · intro time htime
      rcases mem_cons.mp htime with rfl | hbefore
      · rw [opened]
        exact Nat.le_refl _
      · exact hc.past time hbefore
  | @ends d e running reason =>
    have hc := h.copies d
    refine h.set ⟨hc.bytes, ?_, hc.past, ?_⟩
    · intro heof
      cases heof
      exact reason.1
    · intro hopen hclosed
      cases hclosed
      rw [Copy.MayEnd, hopen] at reason
      cases reason
  | @report d ended silent =>
    have hc := h.copies d
    have hreported : CopyKept s.now s.closed { s.copy d with reported := true } :=
      ⟨hc.bytes, hc.eof, hc.past, hc.open_ended⟩
    exact ⟨(h.set hreported).copies, h.opened, h.abort⟩
  | first stage message =>
    exact ⟨h.copies, fun _ => h.opened (.inl stage), h.abort⟩
  | second stage message | last stage message =>
    refine ⟨h.copies, ?_, h.abort⟩
    rintro (hstage | ⟨start, hstage⟩) <;> cases hstage
  | fire stage due =>
    have hopen := h.opened (.inr ⟨_, stage⟩)
    refine ⟨fun d => ⟨(h.copies d).bytes, (h.copies d).eof, ?_, nofun⟩, ?_, ?_⟩
    · intro time htime
      have hpast := (h.copies d).past time htime
      rwa [hopen] at hpast
    · rintro (hstage | ⟨start, hstage⟩) <;> cases hstage
    · rintro time hclosed
      cases hclosed
      exact Nat.le_refl _

theorem reachable_orderly (h : Reachable (BridgeStep drainTimeout) Fresh s) : s.Orderly := by
  apply h.invariant
  · rintro s ⟨now, rfl⟩
    exact ⟨fun d => ⟨rfl, nofun, nofun, nofun⟩, fun _ => rfl, nofun⟩
  · intro s e t hstep hs
    exact hs.step hstep

theorem Orderly.whole (h : s.Orderly) (d : Direction) (heof : (s.copy d).ended = some .eof) :
    (s.copy d).delivered = (s.copy d).sent := by
  rw [(h.copies d).bytes, (h.copies d).eof heof, append_nil]

theorem Started.step {start : ℕ} (h : s.Started drainTimeout start)
    (hstep : BridgeStep drainTimeout s e t) : t.Started drainTimeout start := by
  cases hstep with
  | tick | read | write | ends | report => exact h
  | first stage message =>
    rcases h with ⟨hstage, -⟩ | ⟨hstage | hstage, -⟩ <;> rw [hstage] at stage <;> cases stage
  | second stage message | last stage message =>
    refine .inr ⟨.inr rfl, ?_⟩
    rcases h with ⟨-, hopen⟩ | ⟨-, hlate⟩
    · intro abort habort
      rw [hopen] at habort
      cases habort
    · exact hlate
  | fire stage due =>
    refine .inr ⟨.inl rfl, ?_⟩
    intro abort habort
    cases habort
    rcases h with ⟨hstage, -⟩ | ⟨hstage | hstage, -⟩
    · rw [hstage] at stage
      cases stage
      exact due
    · rw [hstage] at stage
      cases stage
    · rw [hstage] at stage
      cases stage

theorem Orderly.idleAtAbort (h : s.Orderly) (d : Direction) : s.IdleAtAbort 0 d := by
  intro abort habort hcut time htime
  have hpast := (h.copies d).past time htime
  rw [habort, Option.getD_some] at hpast
  omega

theorem Started.idleAtAbort {start : ℕ} (h : s.Started drainTimeout start)
    (hbefore : s.Cut d → ∀ time ∈ (s.copy d).transfers, time ≤ start) :
    s.IdleAtAbort drainTimeout d := by
  intro abort habort hcut time htime
  have hearly := hbefore hcut time htime
  rcases h with ⟨-, hopen⟩ | ⟨-, hlate⟩
  · rw [hopen] at habort
    cases habort
  · have hdue := hlate abort habort
    omega

theorem ended_step {reason : CopyEnd} (h : (s.copy d).ended = some reason)
    (hstep : BridgeStep drainTimeout s e t) : (t.copy d).ended = some reason := by
  cases hstep with
  | tick | first | second | fire | last => exact h
  | read running | write running | ends running =>
    refine set_copy_of (·.ended = some reason) h ?_
    rintro rfl
    rw [h] at running
    cases running
  | report =>
    refine set_copy_of (·.ended = some reason) h ?_
    rintro rfl
    exact h

theorem not_cut_of_ended (hs : s.Orderly) (hopen : s.closed = none)
    (hended : (s.copy d).ended.isSome = true) (hrun : Run (BridgeStep drainTimeout) s ls t) :
    ¬t.Cut d := by
  obtain ⟨reason, hreason⟩ := Option.isSome_iff_exists.mp hended
  have hkept : (t.copy d).ended = some reason :=
    hrun.invariant (I := fun s => (s.copy d).ended = some reason)
      (fun s e t hstep hs => ended_step hs hstep) hreason
  rintro (hnone | hclosed)
  · rw [hkept] at hnone
    cases hnone
  · rw [hkept, ← hreason] at hclosed
    exact (hs.copies d).open_ended hopen hclosed

/-- A loop that has written what it has read transfers nothing as long as its source is silent. -/
theorem transfers_of_silent (hempty : (s.copy d).buffer = [])
    (hrun : Run (Guarded (BridgeStep drainTimeout) fun _ e => e ≠ .read d) s ls t) :
    (t.copy d).transfers = (s.copy d).transfers := by
  let idle (c : Copy) : Prop := c.buffer = [] ∧ c.transfers = (s.copy d).transfers
  suffices hidle : idle (t.copy d) from hidle.2
  refine hrun.invariant (I := fun u => idle (u.copy d)) ?_ ⟨hempty, rfl⟩
  rintro u e v ⟨hstep, hsilent⟩ hu
  cases hstep with
  | tick | first | second | fire | last => exact hu
  | ends | report =>
    refine set_copy_of idle hu ?_
    rintro rfl
    exact hu
  | read =>
    refine set_copy_of idle hu ?_
    rintro rfl
    exact absurd rfl hsilent
  | write running opened size =>
    refine set_copy_of idle hu ?_
    rintro rfl
    rw [hu.1, length_nil] at size
    omega

theorem exists_filled (drainTimeout : ℕ) (s : Bridge) (hopen : s.closed = none)
    (hrunning : (s.copy d).ended = none) :
    ∃ ls t, Run (BridgeStep drainTimeout) s ls t ∧ 0 < (t.copy d).buffer.length ∧
      (t.copy d).ended = none ∧ t.closed = none ∧ t.stage = s.stage ∧ t.now = s.now := by
  by_cases hempty : (s.copy d).buffer = []
  · have hread : BridgeStep drainTimeout s (.read d)
        (s.set d { s.copy d with sent := (s.copy d).sent ++ [0], buffer := [0] }) :=
      .read hrunning hopen hempty (by decide)
    refine ⟨_, _, .single hread, ?_⟩
    rw [set_copy_self]
    exact ⟨Nat.one_pos, hrunning, hopen, rfl, rfl⟩
  · exact ⟨_, s, .nil s, length_pos_iff.mpr hempty, hrunning, hopen, rfl, rfl⟩

/-- A loop that has bytes to write can transfer one at the moment at which the timer closes its
connections, and its source need not send anything for that. -/
theorem cut_after_transfer (drainTimeout : ℕ) {start : ℕ} (hstage : s.stage = .draining start)
    (hopen : s.closed = none) (hrunning : (s.copy d).ended = none)
    (hsize : 0 < (s.copy d).buffer.length) :
    ∃ ls t abort, Run (Guarded (BridgeStep drainTimeout) fun _ e => e ≠ .read d) s ls t ∧
      t.closed = some abort ∧ t.Cut d ∧ abort ∈ (t.copy d).transfers := by
  refine ⟨_, _, s.now + (start + drainTimeout), .cons ⟨.tick (start + drainTimeout), nofun⟩ <|
    .cons ⟨.write (d := d) hrunning hopen ⟨Nat.one_pos, hsize⟩, nofun⟩ <|
    .single ⟨.fire hstage (Nat.le_add_left _ _), nofun⟩, rfl, .inl ?_, ?_⟩
  · exact (congrArg Copy.ended (set_copy_self _ d _)).trans hrunning
  · exact (congrArg Copy.transfers (set_copy_self _ d _)).symm ▸ mem_cons_self

end
end Bridge

/-- When the timer has been started, it can cut an active transfer unless both directions have ended;
it cuts none in which nothing is transferred from then on. By what the source of a direction does: one
that ends before the timer fires is not cut; and if it sends nothing from the start of the timer on,
its direction can be cut while it is active just if it has bytes to write then. -/
theorem drain_keeps_iff (drainTimeout start : ℕ) (s : Bridge)
    (h : Reachable (BridgeStep drainTimeout) Bridge.Fresh s) (hstage : s.stage = .draining start) :
    ((∀ ls t, Run (BridgeStep drainTimeout) s ls t → t.Kept drainTimeout) ↔
      drainTimeout = 0 ∨ ∀ d, (s.copy d).ended.isSome = true) ∧
    (∀ ls t, Run (BridgeStep drainTimeout) s ls t →
      (∀ d, t.Cut d → ∀ time ∈ (t.copy d).transfers, time ≤ start) → t.Kept drainTimeout) ∧
    (∀ d ls t, Run (BridgeStep drainTimeout) s ls t → t.closed = none →
      (t.copy d).ended.isSome = true → ∀ ms u, Run (BridgeStep drainTimeout) t ms u → ¬u.Cut d) ∧
    (s.now = start → ∀ d,
      ((∀ ls t, Run (Guarded (BridgeStep drainTimeout) fun _ e => e ≠ .read d) s ls t →
          t.IdleAtAbort drainTimeout d) ↔
        drainTimeout = 0 ∨ (s.copy d).ended.isSome = true ∨ (s.copy d).buffer = [])) := by
  have hs := Bridge.reachable_orderly h
  have hopen := hs.opened (.inr ⟨start, hstage⟩)
  have hzero (htimeout : drainTimeout = 0) (ls t) (hrun : Run (BridgeStep drainTimeout) s ls t)
      (d : Direction) : t.IdleAtAbort drainTimeout d :=
    htimeout ▸ (Bridge.reachable_orderly (h.run hrun)).idleAtAbort d
  have hstarted (ls t) (hrun : Run (BridgeStep drainTimeout) s ls t) :
      t.Started drainTimeout start :=
    hrun.invariant (fun _ _ _ hstep hs => hs.step hstep) (.inl ⟨hstage, hopen⟩)
  have hkept (ls t) (hrun : Run (BridgeStep drainTimeout) s ls t)
      (hidle : ∀ d, t.IdleAtAbort drainTimeout d) : t.Kept drainTimeout :=
    ⟨hidle, (Bridge.reachable_orderly (h.run hrun)).whole⟩
  refine ⟨⟨?_, ?_⟩, ?_, ?_, ?_⟩
  · intro hkept
    by_contra hnot
    push Not at hnot
    obtain ⟨hpos, d, hrunning⟩ := hnot
    obtain ⟨ls, t, hrun, hsize, hrunning, hopen, hsame, -⟩ :=
      Bridge.exists_filled drainTimeout s hopen (d := d) (by simpa using hrunning)
    obtain ⟨ls', v, abort, hrun', hclosed, hcut, htransfer⟩ :=
      Bridge.cut_after_transfer drainTimeout (hsame.trans hstage) hopen hrunning hsize
    have hwhole := hrun.append (hrun'.mono fun _ _ _ hstep => hstep.1)
    have hlate := (hkept _ v hwhole).idle d abort hclosed hcut abort htransfer
    omega
  · rintro (htimeout | hended) ls t hrun
    · exact hkept ls t hrun (hzero htimeout ls t hrun)
    · refine hkept ls t hrun fun d => (hstarted ls t hrun).idleAtAbort fun hcut => ?_
      exact absurd hcut (Bridge.not_cut_of_ended hs hopen (hended d) hrun)
  · intro ls t hrun hquiet
    exact hkept ls t hrun fun d => (hstarted ls t hrun).idleAtAbort (hquiet d)
  · intro d ls t hrun hopen hended ms u hrun'
    exact Bridge.not_cut_of_ended (Bridge.reachable_orderly (h.run hrun)) hopen hended hrun'
  · intro hnow d
    constructor
    · intro hidle
      by_contra hnot
      push Not at hnot
      obtain ⟨hpos, hrunning, hbuffer⟩ := hnot
      obtain ⟨ls, t, abort, hrun, hclosed, hcut, htransfer⟩ :=
        Bridge.cut_after_transfer (d := d) drainTimeout hstage hopen (by simpa using hrunning)
          (length_pos_iff.mpr hbuffer)
      have hlate := hidle ls t hrun abort hclosed hcut abort htransfer
      omega
    · intro hcondition ls t hrun
      have hplain : Run (BridgeStep drainTimeout) s ls t := hrun.mono fun _ _ _ hstep => hstep.1
      rcases hcondition with htimeout | hended | hempty
      · exact hzero htimeout ls t hplain d
      · refine (hstarted ls t hplain).idleAtAbort fun hcut => ?_
        exact absurd hcut (Bridge.not_cut_of_ended hs hopen hended hplain)
      · refine (hstarted ls t hplain).idleAtAbort fun _ time htime => ?_
        rw [Bridge.transfers_of_silent hempty hrun] at htime
        have hpast := (hs.copies d).past time htime
        rwa [hopen, Option.getD_none, hnow] at hpast

def defaultTCPDrainTimeout : ℕ := 5000000000

/-- Both sides close before the timer is started; or the device closes its side, and the host has sent
nothing and sends nothing from then on. -/
theorem drain_keeps_closed :
    (∃ s, Reachable (BridgeStep defaultTCPDrainTimeout) Bridge.Fresh s ∧ s.stage = .draining 0 ∧
      ∀ ls t, Run (BridgeStep defaultTCPDrainTimeout) s ls t → t.Kept defaultTCPDrainTimeout) ∧
    ∃ s, Reachable (BridgeStep defaultTCPDrainTimeout) Bridge.Fresh s ∧ s.stage = .draining 0 ∧
      (s.copy .toDevice).ended = none ∧
      ∀ ls t, Run (Guarded (BridgeStep defaultTCPDrainTimeout) fun _ e => e ≠ .read .toDevice) s ls t →
        t.IdleAtAbort defaultTCPDrainTimeout .toDevice := by
  constructor
  · have hrun : Run (BridgeStep defaultTCPDrainTimeout) { now := 0 } _ _ :=
      .cons (.ends (d := .toHost) (e := .eof) rfl ⟨rfl, rfl⟩) <|
      .cons (.ends (d := .toDevice) (e := .eof) rfl ⟨rfl, rfl⟩) <|
      .cons (.report (d := .toHost) rfl rfl) <| .single (.first rfl rfl)
    have hreachable : Reachable (BridgeStep defaultTCPDrainTimeout) Bridge.Fresh _ :=
      ⟨_, _, ⟨0, rfl⟩, hrun⟩
    refine ⟨_, hreachable, rfl, (drain_keeps_iff defaultTCPDrainTimeout 0 _ hreachable rfl).1.mpr ?_⟩
    right
    intro d
    cases d <;> rfl
  · have hrun : Run (BridgeStep defaultTCPDrainTimeout) { now := 0 } _ _ :=
      .cons (.ends (d := .toHost) (e := .eof) rfl ⟨rfl, rfl⟩) <|
      .cons (.report (d := .toHost) rfl rfl) <| .single (.first rfl rfl)
    have hreachable : Reachable (BridgeStep defaultTCPDrainTimeout) Bridge.Fresh _ :=
      ⟨_, _, ⟨0, rfl⟩, hrun⟩
    refine ⟨_, hreachable, rfl, rfl,
      ((drain_keeps_iff defaultTCPDrainTimeout 0 _ hreachable rfl).2.2.2 rfl _).mpr (.inr (.inr rfl))⟩

/-- The device closes its side of the connection. Four seconds later the host sends a byte, and one
second after that the connection is closed under it. -/
theorem drain_cuts_transfer : ∃ s, Reachable (BridgeStep defaultTCPDrainTimeout) Bridge.Fresh s ∧
      s.closed = some 5000000000 ∧ (s.copy .toDevice).ended = none ∧
      (s.copy .toDevice).transfers = [4000000000] ∧ ¬s.Kept defaultTCPDrainTimeout := by
  have hsize : 0 < [(0 : UInt8)].length ∧ [(0 : UInt8)].length ≤ copyBufferSize := by decide
  have hrun : Run (BridgeStep defaultTCPDrainTimeout) { now := 0 } _ _ :=
    .cons (.ends (d := .toHost) (e := .eof) rfl ⟨rfl, rfl⟩) <|
    .cons (.report (d := .toHost) rfl rfl) <| .cons (.first rfl rfl) <| .cons (.tick 4000000000) <|
    .cons (.read (d := .toDevice) rfl rfl rfl hsize) <|
    .cons (.write (d := .toDevice) (n := 1) rfl rfl (by decide)) <| .cons (.tick 1000000000) <|
    .single (.fire rfl (by decide))
  refine ⟨_, ⟨_, _, ⟨0, rfl⟩, hrun⟩, rfl, rfl, rfl, ?_⟩
  intro hkept
  have hidle := hkept.idle .toDevice _ rfl (.inl rfl) 4000000000 mem_cons_self
  exact absurd hidle (by decide)

end HarmonyNetBridge.Relay
