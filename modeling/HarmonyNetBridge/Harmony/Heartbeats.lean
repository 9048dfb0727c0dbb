import HarmonyNetBridge.Bytes.BigEndian
import HarmonyNetBridge.Daemon.Publish
import HarmonyNetBridge.Transition.Runs

/-! The heartbeat of the control channel in time: the daemon's PINGs, the PONGs of the
device and the two time limits. Times are nanoseconds. -/
namespace HarmonyNetBridge.Daemon

open Bytes

/-- `heartbeatTracker`; an empty `pending` is nil. -/
structure HeartbeatTracker where
  pending : List UInt8 := []
  sentAt : ℕ := 0
  deriving DecidableEq, Repr

namespace HeartbeatTracker

/-- `begin`: the payload to send, none for nil, and whether the pending PING has expired. -/
def begin (h : HeartbeatTracker) (now timeout : ℕ) :
    HeartbeatTracker × Option (List UInt8) × Bool :=
  if h.pending.length ≠ 0 then (h, none, decide (timeout ≤ now - h.sentAt))
  else
    let payload := bigEndian 8 now
    ({ pending := payload, sentAt := now }, some payload, false)

/-- `acknowledge`: the round trip of a payload that answers the pending PING. -/
def acknowledge (h : HeartbeatTracker) (payload : List UInt8) (now : ℕ) :
    HeartbeatTracker × Option ℕ :=
  if h.pending.length = 0 ∨ payload ≠ h.pending then (h, none)
  else ({}, some (now - h.sentAt))

end HeartbeatTracker

/-- `recordHeartbeat`, with the snapshot it publishes. -/
def recordHeartbeat (channel : Channel) (tracker : HeartbeatTracker) (payload : List UInt8)
    (now : ℕ) (s : Snapshot) : HeartbeatTracker × Snapshot :=
  if payload.length ≠ 8 then (tracker, s)
  else match tracker.acknowledge payload now with
    | (tracker, none) => (tracker, s)
    | (tracker, some roundTrip) =>
      (tracker, publishHeartbeat channel now ((roundTrip / 10 ^ 6 : ℕ) : ℤ) s)

/-- `HeartbeatInterval` and `HeartbeatTimeout` of the daemon's configuration. -/
structure HeartbeatConfig where
  interval : ℤ := 0
  timeout : ℤ := 0
  deriving DecidableEq, Repr

def defaultHeartbeatInterval : ℤ := 5 * 10 ^ 9
def defaultHeartbeatTimeout : ℤ := 15 * 10 ^ 9

/-- What `New` makes of the two. -/
def HeartbeatConfig.effective (c : HeartbeatConfig) : HeartbeatConfig :=
  let interval := if c.interval ≤ 0 then defaultHeartbeatInterval else c.interval
  let timeout := if c.timeout ≤ 0 then defaultHeartbeatTimeout else c.timeout
  { interval, timeout := if timeout ≤ interval then 3 * interval else timeout }

/-- The time limit is longer than the interval, whatever was configured. -/
theorem HeartbeatConfig.effective_ordered (c : HeartbeatConfig) :
    0 < c.effective.interval ∧ c.effective.interval < c.effective.timeout := by
  simp only [effective, defaultHeartbeatInterval, defaultHeartbeatTimeout]
  split_ifs <;> constructor <;> omega

end HarmonyNetBridge.Daemon

namespace HarmonyNetBridge.Harmony

open Daemon Bytes Transition

def heartbeatCheckInterval : ℕ := 5000
def heartbeatTimeout : ℕ := 20000

/-- What bounds a run of the two ends: the time a frame takes from the sender's decision to the
receiver's handler, and how late a timer fires. -/
structure Timing where
  config : HeartbeatConfig := {}
  delay : ℕ
  tickLate : ℕ
  checkLate : ℕ
  /-- The device's clock, against the daemon's. -/
  clockOffset : ℕ
  deriving DecidableEq, Repr

namespace Timing

def timeout (t : Timing) : ℕ := t.config.effective.timeout.toNat

/-- The longest time between two ticks that `runHeartbeat` handles. -/
def tickGap (t : Timing) : ℕ := t.config.effective.interval.toNat + t.tickLate

/-- The longest time between two checks of the device's monitor. -/
def checkGap (t : Timing) : ℕ := heartbeatCheckInterval * 10 ^ 6 + t.checkLate

/-- `Date.now()` on the device, in milliseconds. -/
def dateNow (t : Timing) (now : ℕ) : ℕ := (now + t.clockOffset) / 10 ^ 6

theorem timeout_pos (t : Timing) : 0 < t.timeout := by
  have h := t.config.effective_ordered
  unfold timeout
  omega

theorem tickGap_pos (t : Timing) : 0 < t.tickGap := by
  have h := t.config.effective_ordered
  unfold tickGap
  omega

theorem checkGap_pos (t : Timing) : 0 < t.checkGap := by
  simp [checkGap, heartbeatCheckInterval]

theorem lt_of_dateNow_lt {t : Timing} {a b n : ℕ} (h : t.dateNow a < t.dateNow b + n) :
    a < b + n * 10 ^ 6 := by
  simp only [dateNow] at h
  omega

theorem dateNow_lt {t : Timing} {a b n : ℕ} (h : a + 10 ^ 6 ≤ b + n * 10 ^ 6) :
    t.dateNow a < t.dateNow b + n := by
  simp only [dateNow]
  omega

end Timing

/-- A control session after its handshake. The messages in flight carry the time they were
sent. -/
structure ControlLink where
  now : ℕ
  tracker : HeartbeatTracker := {}
  lastTick : ℕ
  /-- `runHeartbeat` has not closed the connection. -/
  macOpen : Bool := true
  shown : Snapshot
  pings : List (ℕ × List UInt8) := []
  pongs : List (ℕ × List UInt8) := []
  lastMacFrameAt : ℕ
  lastCheck : ℕ
  /-- The device's monitor has not failed the session. -/
  deviceOpen : Bool := true
  /-- When the link stopped carrying frames. -/
  cutAt : Option ℕ := none
  /-- When the last PING was begun, for the statements only. -/
  begunAt : ℕ
  /-- When the device handled its last frame, for the statements only. -/
  seenAt : ℕ
  deriving DecidableEq, Repr

/-- The device has handled HELLO_ACK, which was sent before the first tick. That is still to come, or
the daemon has begun a PING in the meantime. -/
def ControlLink.Initial (t : Timing) (l : ControlLink) : Prop :=
  ∃ now lastTick isReconnect s, lastTick ≤ now ∧ now ≤ lastTick + t.tickGap ∧
    let accepted : ControlLink :=
      { now, lastTick, shown := publishAccepted .vpn isReconnect s,
        lastMacFrameAt := t.dateNow now, lastCheck := now, begunAt := now, seenAt := now }
    (l = accepted ∨ ∃ begun ≤ lastTick, now ≤ begun + t.delay ∧
      l = { accepted with
        begunAt := begun
        tracker := ⟨bigEndian 8 begun, begun⟩
        pings := [(begun, bigEndian 8 begun)]
        macOpen := decide (lastTick < begun + t.timeout) })

inductive ControlLinkEvent where
  | elapse (duration : ℕ)
  /-- A tick of `runHeartbeat`; `written` is false when `writer.Write` fails. -/
  | tick (written : Bool)
  /-- The timer of `startHeartbeatMonitor`. -/
  | check
  | ping
  | pong
  | cut
  deriving DecidableEq, Repr

namespace ControlLink

/-- The branch of `runHeartbeat` on a tick. -/
def tick (t : Timing) (written : Bool) (l : ControlLink) : ControlLink :=
  match l.tracker.begin l.now t.timeout with
  | (tracker, _, true) => { l with tracker, lastTick := l.now, macOpen := false }
  | (tracker, none, false) => { l with tracker, lastTick := l.now }
  | (tracker, some payload, false) =>
    if written then
      { l with
        tracker
        lastTick := l.now
        begunAt := l.now
        pings := l.pings ++ [(l.now, payload)] }
    else { l with tracker, lastTick := l.now, begunAt := l.now, macOpen := false }

/-- The timer function of `startHeartbeatMonitor`. -/
def check (t : Timing) (l : ControlLink) : ControlLink :=
  if heartbeatTimeout ≤ t.dateNow l.now - l.lastMacFrameAt then
    { l with lastCheck := l.now, deviceOpen := false }
  else { l with lastCheck := l.now }

/-- `handleFrame` on a PING. -/
def receivePing (t : Timing) (payload : List UInt8) (rest : List (ℕ × List UInt8))
    (l : ControlLink) : ControlLink :=
  let seen := { l with pings := rest, lastMacFrameAt := t.dateNow l.now, seenAt := l.now }
  if payload.length ≠ 8 then { seen with deviceOpen := false }
  else { seen with pongs := l.pongs ++ [(l.now, payload)] }

/-- `handleControlConnection` on a PONG. -/
def receivePong (payload : List UInt8) (rest : List (ℕ × List UInt8)) (l : ControlLink) :
    ControlLink :=
  let recorded := recordHeartbeat .control l.tracker payload l.now l.shown
  { l with pongs := rest, tracker := recorded.1, shown := recorded.2 }

/-- Time may pass until a frame of a working link or a timer is due. -/
structure MayElapse (t : Timing) (duration : ℕ) (l : ControlLink) : Prop where
  pings : l.cutAt = none → l.deviceOpen = true → ∀ m ∈ l.pings, l.now + duration ≤ m.1 + t.delay
  pongs : l.cutAt = none → l.macOpen = true → ∀ m ∈ l.pongs, l.now + duration ≤ m.1 + t.delay
  tick : l.macOpen = true → l.now + duration ≤ l.lastTick + t.tickGap
  check : l.deviceOpen = true → l.now + duration ≤ l.lastCheck + t.checkGap

end ControlLink

/-- One step of the two ends, their timers and the link between them. A write fails only once
the link is cut. -/
inductive ControlLinkStep (t : Timing) (l : ControlLink) : ControlLinkEvent → ControlLink → Prop
  | elapse {duration : ℕ} (may : l.MayElapse t duration) :
      ControlLinkStep t l (.elapse duration) { l with now := l.now + duration }
  | tick {written : Bool} (isOpen : l.macOpen = true) (fails : written = false → l.cutAt ≠ none) :
      ControlLinkStep t l (.tick written) (l.tick t written)
  | check (isOpen : l.deviceOpen = true) : ControlLinkStep t l .check (l.check t)
  | ping {sent : ℕ} {payload : List UInt8} {rest : List (ℕ × List UInt8)}
      (next : l.pings = (sent, payload) :: rest) (carried : l.cutAt = none)
      (isOpen : l.deviceOpen = true) : ControlLinkStep t l .ping (l.receivePing t payload rest)
  | pong {sent : ℕ} {payload : List UInt8} {rest : List (ℕ × List UInt8)}
      (next : l.pongs = (sent, payload) :: rest) (carried : l.cutAt = none)
      (isOpen : l.macOpen = true) : ControlLinkStep t l .pong (l.receivePong payload rest)
  | cut (carried : l.cutAt = none) : ControlLinkStep t l .cut { l with cutAt := some l.now }

namespace ControlLink

section Branches
variable {t : Timing} {l : ControlLink} {payload : List UInt8} {rest : List (ℕ × List UInt8)}
  {sent duration : ℕ}

theorem tick_cases (t : Timing) (written : Bool) (l : ControlLink) :
    (l.tracker.pending = [] ∧ l.tick t written =
      { l with
        tracker := { pending := bigEndian 8 l.now, sentAt := l.now }
        lastTick := l.now
        begunAt := l.now
        macOpen := written && l.macOpen
        pings := if written then l.pings ++ [(l.now, bigEndian 8 l.now)] else l.pings }) ∨
    (l.tracker.pending ≠ [] ∧ l.tick t written =
      { l with
        lastTick := l.now
        macOpen := decide (l.now - l.tracker.sentAt < t.timeout) && l.macOpen }) := by
  by_cases h : l.tracker.pending = []
  · left
    cases written <;> simp [tick, HeartbeatTracker.begin, h]
  · right
    by_cases hexp : t.timeout ≤ l.now - l.tracker.sentAt
    · simp [tick, HeartbeatTracker.begin, h, hexp]
    · have hlt : l.now - l.tracker.sentAt < t.timeout := by omega
      simp [tick, HeartbeatTracker.begin, h, hexp, hlt]

theorem check_of_lt (h : t.dateNow l.now - l.lastMacFrameAt < heartbeatTimeout) :
    l.check t = { l with lastCheck := l.now } := by
  rw [check, if_neg (by omega)]

theorem receivePing_of_size (size : payload.length = 8) : l.receivePing t payload rest =
      { l with
        pings := rest
        lastMacFrameAt := t.dateNow l.now
        seenAt := l.now
        pongs := l.pongs ++ [(l.now, payload)] } := by
  simp [receivePing, size]

theorem receivePong_of_pending {sentAt : ℕ} (size : payload.length = 8)
    (pending : l.tracker = ⟨payload, sentAt⟩) : l.receivePong payload rest =
      { l with
        pongs := rest
        tracker := {}
        shown := publishHeartbeat .control l.now (((l.now - sentAt) / 10 ^ 6 : ℕ) : ℤ)
          l.shown } := by
  simp [receivePong, recordHeartbeat, HeartbeatTracker.acknowledge, size, pending]

/-- Where the one heartbeat that is under way stands, on a link that carries every frame. -/
inductive Exchange (t : Timing) (l : ControlLink) : Prop
  | quiet (answered : l.tracker.pending = []) (pings : l.pings = []) (pongs : l.pongs = [])
      (begun : l.begunAt ≤ l.seenAt) (ticked : l.lastTick ≤ l.begunAt + 2 * t.delay)
      (fresh : ∀ time, l.shown.controlHeartbeatAt = some time → (l.lastTick : ℤ) ≤ time)
  | pinging {payload : List UInt8} (pending : l.tracker = ⟨payload, l.begunAt⟩)
      (size : payload.length = 8) (pings : l.pings = [(l.begunAt, payload)]) (pongs : l.pongs = [])
      (begun : l.begunAt ≤ l.now) (due : l.now ≤ l.begunAt + t.delay)
      (seen : l.begunAt ≤ l.seenAt + 2 * t.delay + t.tickGap)
      (fresh : ∀ time, l.shown.controlHeartbeatAt = some time →
        (l.begunAt : ℤ) ≤ time + t.tickGap)
  | ponging {payload : List UInt8} (pending : l.tracker = ⟨payload, l.begunAt⟩)
      (size : payload.length = 8) (pings : l.pings = []) (pongs : l.pongs = [(l.seenAt, payload)])
      (begun : l.begunAt ≤ l.seenAt) (seen : l.seenAt ≤ l.begunAt + t.delay)
      (due : l.now ≤ l.seenAt + t.delay)
      (fresh : ∀ time, l.shown.controlHeartbeatAt = some time →
        (l.begunAt : ℤ) ≤ time + t.tickGap)

/-- A session in which each end still hears the other. -/
structure Steady (t : Timing) (l : ControlLink) : Prop where
  mac : l.macOpen = true
  device : l.deviceOpen = true
  ticked : l.lastTick ≤ l.now
  seen : l.seenAt ≤ l.now
  tickDue : l.now ≤ l.lastTick + t.tickGap
  frame : l.lastMacFrameAt = t.dateNow l.seenAt
  roundTrip : 0 ≤ l.shown.controlRTTMillis ∧ l.shown.controlRTTMillis * 10 ^ 6 ≤ 2 * t.delay
  exchange : l.Exchange t

namespace Steady

/-- The device heard from the daemon within three delays and a tick. -/
theorem seen_recently (h : l.Steady t) : l.now ≤ l.seenAt + 3 * t.delay + t.tickGap := by
  have htick := h.tickDue
  cases h.exchange with
  | quiet _ _ _ begun ticked _ => omega
  | pinging _ _ _ _ _ due seen _ => omega
  | ponging _ _ _ _ _ _ due _ => omega

/-- A PING that is not answered yet is at most two delays old. -/
theorem begun_recently (h : l.Steady t) (hp : l.tracker.pending ≠ []) :
    l.now ≤ l.tracker.sentAt + 2 * t.delay := by
  cases h.exchange with
  | quiet answered => exact absurd answered hp
  | pinging pending _ _ _ _ due =>
    rw [pending]
    show l.now ≤ l.begunAt + 2 * t.delay
    omega
  | ponging pending _ _ _ _ seen due =>
    rw [pending]
    show l.now ≤ l.begunAt + 2 * t.delay
    omega

theorem initial (h : l.Initial t) (hlimit : 2 * t.delay < t.timeout) : l.Steady t := by
  obtain ⟨now, lastTick, isReconnect, s, hle, hdue, rfl | ⟨begun, hbegun, hsent, rfl⟩⟩ := h
  · refine ⟨rfl, rfl, hle, le_rfl, hdue, rfl, by simp [publishAccepted], ?_⟩
    exact .quiet rfl rfl rfl le_rfl (by show lastTick ≤ now + _; omega) (by simp [publishAccepted])
  · have hopen : lastTick < begun + t.timeout := by omega
    refine ⟨decide_eq_true hopen, rfl, hle, le_rfl, hdue, rfl, by simp [publishAccepted], ?_⟩
    exact .pinging rfl (length_bigEndian 8 begun) rfl rfl (hbegun.trans hle) hsent
      (by show begun ≤ now + _ + _; omega) (by simp [publishAccepted])

theorem elapse (h : l.Steady t) (hcut : l.cutAt = none)
    (may : l.MayElapse t duration) : Steady t { l with now := l.now + duration } where
  __ := h
  ticked := h.ticked.trans (Nat.le_add_right _ _)
  seen := h.seen.trans (Nat.le_add_right _ _)
  tickDue := may.tick h.mac
  exchange := by
    cases h.exchange with
    | quiet answered pings pongs begun ticked fresh =>
      exact .quiet answered pings pongs begun ticked fresh
    | @pinging payload pending size pings pongs begun due seen fresh =>
      have hdue := may.pings hcut h.device (l.begunAt, payload) (by simp [pings])
      exact .pinging pending size pings pongs (begun.trans (Nat.le_add_right _ _)) hdue seen fresh
    | @ponging payload pending size pings pongs begun seen due fresh =>
      have hdue := may.pongs hcut h.mac (l.seenAt, payload) (by simp [pongs])
      exact .ponging pending size pings pongs begun seen hdue fresh

theorem tick (h : l.Steady t) (hlimit : 2 * t.delay < t.timeout) : (l.tick t true).Steady t := by
  have hdue := h.tickDue
  obtain ⟨hidle, htick⟩ | ⟨hpending, htick⟩ := l.tick_cases t true
  · rw [htick]
    cases h.exchange with
    | pinging pending size => simp [pending] at hidle; simp [hidle] at size
    | ponging pending size => simp [pending] at hidle; simp [hidle] at size
    | quiet _ pings pongs begun ticked fresh =>
      refine ⟨by simpa using h.mac, h.device, le_rfl, h.seen, Nat.le_add_right _ _, h.frame,
        h.roundTrip, .pinging rfl (length_bigEndian 8 l.now) (by simp [pings]) pongs le_rfl
          (Nat.le_add_right _ _) (by show l.now ≤ l.seenAt + _ + _; omega) ?_⟩
      intro time htime
      have := fresh time htime
      show (l.now : ℤ) ≤ _
      omega
  · have hopen : l.now - l.tracker.sentAt < t.timeout := by
      have := h.begun_recently hpending
      omega
    rw [htick]
    refine ⟨by simpa [hopen] using h.mac, h.device, le_rfl, h.seen, Nat.le_add_right _ _, h.frame,
      h.roundTrip, ?_⟩
    cases h.exchange with
    | quiet answered => exact absurd answered hpending
    | pinging pending size pings pongs begun due seen fresh =>
      exact .pinging pending size pings pongs begun due seen fresh
    | ponging pending size pings pongs begun seen due fresh =>
      exact .ponging pending size pings pongs begun seen due fresh

theorem check (h : l.Steady t)
    (hlimit : 3 * t.delay + t.tickGap + 10 ^ 6 ≤ heartbeatTimeout * 10 ^ 6) :
    (l.check t).Steady t := by
  have hseen := h.seen_recently
  have hclock : t.dateNow l.now < t.dateNow l.seenAt + heartbeatTimeout :=
    Timing.dateNow_lt (by omega)
  have hframe := h.frame
  rw [check_of_lt (by omega)]
  refine { h with exchange := ?_ }
  cases h.exchange with
  | quiet answered pings pongs begun ticked fresh =>
    exact .quiet answered pings pongs begun ticked fresh
  | pinging pending size pings pongs begun due seen fresh =>
    exact .pinging pending size pings pongs begun due seen fresh
  | ponging pending size pings pongs begun seen due fresh =>
    exact .ponging pending size pings pongs begun seen due fresh

theorem receivePing (h : l.Steady t) (next : l.pings = (sent, payload) :: rest) :
    (l.receivePing t payload rest).Steady t := by
  cases h.exchange with
  | quiet _ pings => rw [pings] at next; cases next
  | ponging _ _ pings => rw [pings] at next; cases next
  | pinging pending size pings pongs begun due seen fresh =>
    rw [pings] at next
    cases next
    rw [receivePing_of_size size]
    exact ⟨h.mac, h.device, h.ticked, le_rfl, h.tickDue, rfl, h.roundTrip,
      .ponging pending size rfl (by simp [pongs]) begun due (Nat.le_add_right _ _) fresh⟩

theorem receivePong (h : l.Steady t) (next : l.pongs = (sent, payload) :: rest) :
    (l.receivePong payload rest).Steady t := by
  cases h.exchange with
  | quiet _ _ pongs => rw [pongs] at next; cases next
  | pinging _ _ _ pongs => rw [pongs] at next; cases next
  | ponging pending size pings pongs begun seen due fresh =>
    rw [pongs] at next
    cases next
    have hseen := h.seen
    have hticked := h.ticked
    rw [receivePong_of_pending size pending]
    refine ⟨h.mac, h.device, h.ticked, h.seen, h.tickDue, h.frame, ?_,
      .quiet rfl pings rfl begun ?_ ?_⟩
    · simp only [publishHeartbeat]
      omega
    · show l.lastTick ≤ l.begunAt + 2 * t.delay
      omega
    · intro time htime
      simp only [publishHeartbeat, Option.some.injEq] at htime
      show (l.lastTick : ℤ) ≤ time
      omega

end Steady

end Branches
end ControlLink

section Sessions

variable {t : Timing} {l m : ControlLink} {e : ControlLinkEvent} {payload : List UInt8}
  {rest : List (ℕ × List UInt8)}

theorem ControlLinkStep.uncut (h : ControlLinkStep t l e m) (hm : m.cutAt = none) :
    l.cutAt = none := by
  cases h with
  | elapse | ping | cut carried => assumption
  | tick =>
    rename_i written _ _
    obtain ⟨_, h⟩ | ⟨_, h⟩ := l.tick_cases t written <;> simpa [h] using hm
  | check =>
    unfold ControlLink.check at hm
    split at hm <;> exact hm
  | pong next carried => exact carried

theorem ControlLinkStep.steady (hping : 2 * t.delay < t.timeout)
    (hcheck : 3 * t.delay + t.tickGap + 10 ^ 6 ≤ heartbeatTimeout * 10 ^ 6)
    (h : ControlLinkStep t l e m) (hm : m.cutAt = none) (hl : l.Steady t) : m.Steady t := by
  have hcut := h.uncut hm
  cases h with
  | elapse may => exact hl.elapse hcut may
  | @tick written isOpen fails =>
    cases written with
    | true => exact hl.tick hping
    | false => exact absurd hcut (fails rfl)
  | check isOpen => exact hl.check hcheck
  | ping next => exact hl.receivePing next
  | pong next => exact hl.receivePong next
  | cut carried => cases hm

/-- A link whose frames arrive within `delay` is kept by both ends, and the daemon shows a round
trip of at most two delays and a heartbeat that is never older than a tick and a round trip. -/
theorem heartbeat_keeps (hping : 2 * t.delay < t.timeout)
    (hcheck : 3 * t.delay + t.tickGap + 10 ^ 6 ≤ heartbeatTimeout * 10 ^ 6)
    (hreach : Reachable (ControlLinkStep t) (ControlLink.Initial t) l) (hcut : l.cutAt = none) :
    l.macOpen = true ∧ l.deviceOpen = true ∧
      l.shown.controlRTTMillis * 10 ^ 6 ≤ 2 * t.delay ∧
      ∀ time, l.shown.controlHeartbeatAt = some time →
        (l.now : ℤ) ≤ time + t.tickGap + 2 * t.delay := by
  have h : l.Steady t := hreach.invariant (I := fun l => l.cutAt = none → l.Steady t)
    (fun _ hinit _ => .initial hinit hping)
    (fun _ _ _ hstep h hm => hstep.steady hping hcheck hm (h (hstep.uncut hm))) hcut
  refine ⟨h.mac, h.device, h.roundTrip.2, fun time htime => ?_⟩
  have htick := h.tickDue
  cases h.exchange with
  | quiet _ _ _ _ _ fresh =>
    have := fresh time htime
    omega
  | pinging _ _ _ _ _ due _ fresh =>
    have := fresh time htime
    omega
  | ponging _ _ _ _ _ seen due fresh =>
    have := fresh time htime
    omega

/-- Frames that take up to two milliseconds, and timers that are up to one late. -/
def plainTiming : Timing where
  delay := 2 * 10 ^ 6
  tickLate := 10 ^ 6
  checkLate := 10 ^ 6
  clockOffset := 0

def plainLink : ControlLink where
  now := 0
  lastTick := 0
  shown := publishAccepted .vpn false (newStarting "device" 18888)
  lastMacFrameAt := 0
  lastCheck := 0
  begunAt := 0
  seenAt := 0

theorem plainLink_initial : plainLink.Initial plainTiming :=
  ⟨0, 0, false, newStarting "device" 18888, le_rfl, Nat.zero_le _, .inl rfl⟩

theorem heartbeat_run : ∃ l, Reachable (ControlLinkStep plainTiming)
    (ControlLink.Initial plainTiming) l ∧ l.cutAt = none ∧
      l.shown.controlHeartbeatAt = some 5003000000 ∧ l.shown.controlRTTMillis = 3 := by
  refine ⟨_, ⟨plainLink, [.elapse (5 * 10 ^ 9), .check, .tick true, .elapse (10 ^ 6), .ping,
    .elapse (2 * 10 ^ 6), .pong], plainLink_initial,
    .cons (.elapse ⟨by decide, by decide, by decide, by decide⟩) <| .cons (.check rfl) <|
    .cons (.tick rfl nofun) <| .cons (.elapse ⟨by decide, by decide, by decide, by decide⟩) <|
    .cons (.ping rfl rfl rfl) <| .cons (.elapse ⟨by decide, by decide, by decide, by decide⟩) <|
    .cons (.pong rfl rfl rfl) <| .nil _⟩, rfl, by decide, by decide⟩

theorem heartbeat_keeps_first : ∃ l, Reachable (ControlLinkStep plainTiming)
    (ControlLink.Initial plainTiming) l ∧ l.macOpen = true ∧ l.deviceOpen = true ∧
      l.shown.controlHeartbeatAt = some 5003000000 := by
  obtain ⟨l, hreach, hcut, hshown, -⟩ := heartbeat_run
  obtain ⟨hmac, hdevice, -⟩ := heartbeat_keeps (by decide) (by decide) hreach hcut
  exact ⟨l, hreach, hmac, hdevice, hshown⟩

/-- How far a session is that may have been cut: the daemon waits for one PONG at most, and the
device for one frame. -/
structure ControlLink.Waiting (t : Timing) (l : ControlLink) : Prop where
  ticked : l.macOpen = true → l.lastTick ≤ l.now ∧ l.now ≤ l.lastTick + t.tickGap
  unexpired : l.macOpen = true → l.tracker.pending ≠ [] →
    l.tracker.sentAt ≤ l.lastTick ∧ l.lastTick < l.tracker.sentAt + t.timeout
  checked : l.deviceOpen = true → l.lastCheck ≤ l.now ∧ l.now ≤ l.lastCheck + t.checkGap
  seen : l.seenAt ≤ l.now
  frame : l.lastMacFrameAt = t.dateNow l.seenAt
  recent : l.deviceOpen = true → t.dateNow l.lastCheck < t.dateNow l.seenAt + heartbeatTimeout
  cut : ∀ c, l.cutAt = some c → c ≤ l.now ∧ l.seenAt ≤ c ∧
    (l.macOpen = true → l.tracker.pending = [] → l.lastTick ≤ c) ∧
    (l.macOpen = true → l.tracker.pending ≠ [] → l.tracker.sentAt ≤ c + t.tickGap)

namespace ControlLink.Waiting

theorem initial (h : l.Initial t) : l.Waiting t := by
  obtain ⟨now, lastTick, isReconnect, s, hle, hdue, h⟩ := h
  have hrecent : t.dateNow now < t.dateNow now + heartbeatTimeout := by simp [heartbeatTimeout]
  rcases h with rfl | ⟨begun, hbegun, -, rfl⟩
  · exact ⟨fun _ => ⟨hle, hdue⟩, fun _ hp => absurd rfl hp,
      fun _ => ⟨le_rfl, Nat.le_add_right _ _⟩, le_rfl, rfl, fun _ => hrecent, nofun⟩
  · exact ⟨fun _ => ⟨hle, hdue⟩, fun hopen _ => ⟨hbegun, of_decide_eq_true hopen⟩,
      fun _ => ⟨le_rfl, Nat.le_add_right _ _⟩, le_rfl, rfl, fun _ => hrecent, nofun⟩

theorem elapse {duration : ℕ} (h : l.Waiting t) (may : l.MayElapse t duration) :
    Waiting t { l with now := l.now + duration } where
  __ := h
  ticked hopen := ⟨(h.ticked hopen).1.trans (Nat.le_add_right _ _), may.tick hopen⟩
  checked hopen := ⟨(h.checked hopen).1.trans (Nat.le_add_right _ _), may.check hopen⟩
  seen := h.seen.trans (Nat.le_add_right _ _)
  cut c hc := ⟨(h.cut c hc).1.trans (Nat.le_add_right _ _), (h.cut c hc).2⟩

theorem tick {written : Bool} (h : l.Waiting t) (hopen : l.macOpen = true) :
    (l.tick t written).Waiting t := by
  obtain ⟨hle, hdue⟩ := h.ticked hopen
  have hpos := t.timeout_pos
  obtain ⟨hidle, htick⟩ | ⟨hpending, htick⟩ := l.tick_cases t written
  · rw [htick]
    refine ⟨fun _ => ⟨le_rfl, Nat.le_add_right _ _⟩, fun _ _ => ⟨le_rfl, ?_⟩, h.checked, h.seen,
      h.frame, h.recent, fun c hc => ?_⟩
    · show l.now < l.now + t.timeout
      omega
    · obtain ⟨hcut, hseen, hquiet, -⟩ := h.cut c hc
      have := hquiet hopen hidle
      refine ⟨hcut, hseen, fun _ hp => ?_, fun _ _ => ?_⟩
      · simpa using congrArg List.length hp
      · show l.now ≤ c + t.tickGap
        omega
  · obtain ⟨hsent, -⟩ := h.unexpired hopen hpending
    rw [htick]
    refine ⟨fun _ => ⟨le_rfl, Nat.le_add_right _ _⟩, fun hstill _ => ?_, h.checked, h.seen,
      h.frame, h.recent, fun c hc => ?_⟩
    · simp only [Bool.and_eq_true, decide_eq_true_eq] at hstill
      show l.tracker.sentAt ≤ l.now ∧ l.now < l.tracker.sentAt + t.timeout
      omega
    · obtain ⟨hcut, hseen, -, hwait⟩ := h.cut c hc
      exact ⟨hcut, hseen, fun _ hp => absurd hp hpending, fun _ _ => hwait hopen hpending⟩

theorem check (h : l.Waiting t) : (l.check t).Waiting t := by
  have hframe := h.frame
  unfold ControlLink.check
  split
  case isTrue hlate =>
    exact ⟨h.ticked, h.unexpired, nofun, h.seen, h.frame, nofun, h.cut⟩
  case isFalse hearly =>
    refine ⟨h.ticked, h.unexpired, fun _ => ⟨le_rfl, Nat.le_add_right _ _⟩, h.seen, h.frame,
      fun _ => ?_, h.cut⟩
    show t.dateNow l.now < t.dateNow l.seenAt + heartbeatTimeout
    omega

theorem receivePing (h : l.Waiting t) (hcut : l.cutAt = none) :
    (l.receivePing t payload rest).Waiting t := by
  have hclock (hopen : l.deviceOpen = true) :
      t.dateNow l.lastCheck < t.dateNow l.now + heartbeatTimeout := by
    have := (h.checked hopen).1
    have hmono : t.dateNow l.lastCheck ≤ t.dateNow l.now := Nat.div_le_div_right (by omega)
    simp only [heartbeatTimeout]
    omega
  have hno : ∀ c, l.cutAt ≠ some c := by simp [hcut]
  unfold ControlLink.receivePing
  split
  · exact ⟨h.ticked, h.unexpired, nofun, le_rfl, rfl, nofun, fun c hc => absurd hc (hno c)⟩
  · exact ⟨h.ticked, h.unexpired, h.checked, le_rfl, rfl, hclock, fun c hc => absurd hc (hno c)⟩

theorem receivePong (h : l.Waiting t) (hcut : l.cutAt = none) :
    (l.receivePong payload rest).Waiting t where
  __ := h
  unexpired hopen hp := by
    have hsame : (l.receivePong payload rest).tracker = l.tracker := by
      revert hp
      simp only [ControlLink.receivePong, recordHeartbeat, HeartbeatTracker.acknowledge]
      split_ifs <;> simp
    rw [hsame] at hp ⊢
    exact h.unexpired hopen hp
  cut c hc := by
    have hc : l.cutAt = some c := hc
    simp [hcut] at hc

theorem cutNow (h : l.Waiting t) : Waiting t { l with cutAt := some l.now } where
  __ := h
  cut c hc := by
    cases hc
    refine ⟨le_rfl, h.seen, fun hopen _ => (h.ticked hopen).1, fun hopen hp => ?_⟩
    have := (h.ticked hopen).1
    have := (h.unexpired hopen hp).1
    show l.tracker.sentAt ≤ l.now + t.tickGap
    omega

theorem step (h : l.Waiting t) (hstep : ControlLinkStep t l e m) : m.Waiting t := by
  cases hstep with
  | elapse may => exact h.elapse may
  | tick isOpen => exact h.tick isOpen
  | check => exact h.check
  | ping _ carried => exact h.receivePing carried
  | pong _ carried => exact h.receivePong carried
  | cut => exact h.cutNow

theorem closed {c : ℕ} (h : l.Waiting t) (hc : l.cutAt = some c) :
    (l.macOpen = true → l.now < c + t.timeout + 2 * t.tickGap) ∧
      (l.deviceOpen = true → l.now < c + heartbeatTimeout * 10 ^ 6 + t.checkGap) := by
  obtain ⟨hcut, hseen, hquiet, hwait⟩ := h.cut c hc
  constructor
  · intro hopen
    have hticked := h.ticked hopen
    have hpos := t.timeout_pos
    by_cases hp : l.tracker.pending = []
    · have := hquiet hopen hp
      omega
    · have := hwait hopen hp
      have := h.unexpired hopen hp
      omega
  · intro hopen
    have hchecked := h.checked hopen
    have hrecent := Timing.lt_of_dateNow_lt (h.recent hopen)
    omega

end ControlLink.Waiting

theorem ControlLink.advance {c : ℕ} (hc : l.cutAt = some c) :
    ∃ ls m, Run (ControlLinkStep t) l ls m ∧ m.now = l.now + 1 ∧ m.cutAt = some c := by
  have hticks : ∃ ls m, Run (ControlLinkStep t) l ls m ∧ m.now = l.now ∧ m.cutAt = some c ∧
      (m.macOpen = true → m.lastTick = l.now) := by
    by_cases hopen : l.macOpen = true
    · refine ⟨[.tick true], _, .single (.tick hopen nofun), ?_⟩
      obtain ⟨_, htick⟩ | ⟨_, htick⟩ := l.tick_cases t true <;> rw [htick] <;> simp [hc]
    · exact ⟨[], l, .nil l, rfl, hc, fun h => absurd h hopen⟩
  obtain ⟨ls, m, hrun, hnow, hcut, htick⟩ := hticks
  have hchecks : ∃ ls m, Run (ControlLinkStep t) l ls m ∧ m.now = l.now ∧ m.cutAt = some c ∧
      (m.macOpen = true → m.lastTick = l.now) ∧ (m.deviceOpen = true → m.lastCheck = l.now) := by
    by_cases hopen : m.deviceOpen = true
    · refine ⟨_, _, hrun.snoc (.check hopen), ?_⟩
      unfold ControlLink.check
      split <;> exact ⟨hnow, hcut, htick, fun _ => hnow⟩
    · exact ⟨ls, m, hrun, hnow, hcut, htick, fun h => absurd h hopen⟩
  obtain ⟨ls, m, hrun, hnow, hcut, htick, hcheck⟩ := hchecks
  have hmay : m.MayElapse t 1 := by
    have hgap := t.tickGap_pos
    have hcheckGap := t.checkGap_pos
    refine ⟨by simp [hcut], by simp [hcut], fun hopen => ?_, fun hopen => ?_⟩
    · rw [htick hopen, hnow]
      omega
    · rw [hcheck hopen, hnow]
      omega
  exact ⟨_, _, hrun.snoc (.elapse hmay), by simp [hnow], hcut⟩

theorem ControlLink.advances {c : ℕ} (hc : l.cutAt = some c) (n : ℕ) :
    ∃ ls m, Run (ControlLinkStep t) l ls m ∧ m.now = l.now + n ∧ m.cutAt = some c := by
  induction n with
  | zero => exact ⟨[], l, .nil l, rfl, hc⟩
  | succ n ih =>
    obtain ⟨ls, m, hrun, hnow, hcut⟩ := ih
    obtain ⟨ks, k, hnext, hlater, hstill⟩ := advance (t := t) hcut
    exact ⟨_, k, hrun.append hnext, by omega, hstill⟩

/-- A link that stops carrying frames is closed by both ends within their time limits and two
periods of their timers, and time never stops before that. -/
theorem heartbeat_detects {c : ℕ}
    (hreach : Reachable (ControlLinkStep t) (ControlLink.Initial t) l) (hcut : l.cutAt = some c) :
    (l.macOpen = true → l.now < c + t.timeout + 2 * t.tickGap) ∧
      (l.deviceOpen = true → l.now < c + heartbeatTimeout * 10 ^ 6 + t.checkGap) ∧
      ∃ ls m, Run (ControlLinkStep t) l ls m ∧ m.macOpen = false ∧ m.deviceOpen = false := by
  have hwaiting {k : ControlLink}
      (h : Reachable (ControlLinkStep t) (ControlLink.Initial t) k) : k.Waiting t :=
    h.invariant (fun _ => .initial) fun _ _ _ hstep h => h.step hstep
  obtain ⟨hmac, hdevice⟩ := (hwaiting hreach).closed hcut
  refine ⟨hmac, hdevice, ?_⟩
  obtain ⟨ls, m, hrun, hnow, hstill⟩ := ControlLink.advances (t := t) hcut
    (c + t.timeout + 2 * t.tickGap + heartbeatTimeout * 10 ^ 6 + t.checkGap)
  obtain ⟨hmac', hdevice'⟩ := (hwaiting (hreach.run hrun)).closed hstill
  refine ⟨ls, m, hrun, ?_, ?_⟩
  · by_contra hopen
    have := hmac' (by simpa using hopen)
    omega
  · by_contra hopen
    have := hdevice' (by simpa using hopen)
    omega

theorem heartbeat_detects_first : ∃ l, Reachable (ControlLinkStep plainTiming)
    (ControlLink.Initial plainTiming) l ∧ l.cutAt = some 0 ∧ l.macOpen = true ∧
      l.now < plainTiming.timeout + 2 * plainTiming.tickGap := by
  have hreach : Reachable (ControlLinkStep plainTiming) (ControlLink.Initial plainTiming)
      { plainLink with cutAt := some 0 } := (Reachable.start plainLink_initial).next (.cut rfl)
  have h := (heartbeat_detects hreach rfl).1 rfl
  exact ⟨_, hreach, rfl, rfl, by omega⟩

end Sessions

end HarmonyNetBridge.Harmony
