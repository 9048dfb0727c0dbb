import HarmonyNetBridge.Daemon.MappingCalls
import HarmonyNetBridge.Daemon.StopCommand

/-! The state file after `shutdown` has removed it. `shutdown` does not wait for the device handlers
and the local requests, and each `s.update` of theirs writes the file anew. -/
namespace HarmonyNetBridge.Daemon
open Transition Function

/-- A frame that a read loop gets from its connection. -/
inductive Inbound where
  | control (sequence : UInt32) (frame : ControlFrame)
  | data (sequence : UInt32) (frame : DataFrame)

/-- The frame that a round of a loop handles. -/
def DeviceEvent.frame : DeviceEvent → Option Inbound
  | controlFrame (some (sequence, frame)) => some (.control sequence frame)
  | dataFrame (some (sequence, frame)) => some (.data sequence frame)
  | _ => none

def Handler.reads : Handler → Inbound → Bool
  | serving .., .control .. | forwarding .., .data .. => true
  | _, _ => false

/-- The daemon and the frames that its loops have in hand: read and not yet handled. -/
structure Reading where
  daemon : State
  hands : Conn → Option Inbound

inductive ReadingLabel where
  | read (c : Conn) (frame : Inbound)
  | daemon (l : Label)

/-- `ReadFrame` and what a loop does with its frame are two steps, and from a connection that the
Mac has closed nothing is read. -/
inductive ReadingStep (r : Reading) : ReadingLabel → Reading → Prop
  | read {c : Conn} {frame : Inbound} (alive : r.daemon.main ≠ .exited)
      (place : (r.daemon.sessions.handlers c).reads frame = true) (free : r.hands c = none)
      (connected : c ∉ r.daemon.sessions.closed) :
      ReadingStep r (.read c frame) ⟨r.daemon, update r.hands c (some frame)⟩
  | device {c : Conn} {e : DeviceEvent} {t : State} (h : Step r.daemon (.device c e) t)
      (hand : e.frame = r.hands c) :
      ReadingStep r (.daemon (.device c e)) ⟨t, update r.hands c none⟩
  | other {l : Label} {t : State} (h : Step r.daemon l t) (other : ∀ c e, l ≠ .device c e) :
      ReadingStep r (.daemon l) ⟨t, r.hands⟩

abbrev ReachedReading (r : Reading) : Prop :=
  Reachable ReadingStep (fun r => Initial r.daemon ∧ r.hands = fun _ => none) r

/-- A reading is a stuttering step of the daemon. -/
theorem reached_of_reading {r : Reading} (h : ReachedReading r) : Reached r.daemon := by
  apply h.invariant (I := fun r => Reached r.daemon)
  · exact fun r hr => .start hr.1
  · intro r l r' hstep hr
    cases hstep with
    | read => exact hr
    | device h _ | other h _ => exact hr.next h

theorem Step.handlers {s t : State} {l : Label} (h : Step s l t) (other : ∀ c e, l ≠ .device c e) :
    t.sessions.handlers = s.sessions.handlers := by
  cases h with
  | device => exact absurd rfl (other _ _)
  | monitor _ h | request _ h => rw [h.main.2]
  | main h => exact h.sessions.1
  | surroundings e => cases e <;> rfl

def Reading.Held (r : Reading) : Prop :=
  ∀ c frame, r.hands c = some frame → (r.daemon.sessions.handlers c).reads frame = true

theorem Reading.Held.step {r r' : Reading} {l : ReadingLabel} (h : ReadingStep r l r')
    (hr : r.Held) : r'.Held := by
  intro c frame hc
  cases h with
  | @read d _ _ place _ _ =>
    rcases eq_or_ne c d with rfl | hd
    · obtain rfl : _ = frame := by simpa using hc
      exact place
    · exact hr c frame ((update_of_ne hd _ _).symm.trans hc)
  | @device d _ _ h _ =>
    rcases eq_or_ne c d with rfl | hd
    · simp at hc
    · cases h with
      | device _ h =>
        rw [h.effect.other hd]
        exact hr c frame ((update_of_ne hd _ _).symm.trans hc)
  | other h other =>
    rw [h.handlers other]
    exact hr c frame hc

theorem held_of_reading {r : Reading} (h : ReachedReading r) : r.Held := by
  refine h.invariant ?_ fun _ _ _ => Reading.Held.step
  intro r hr c frame hc
  rw [hr.2] at hc
  cases hc

def Inbound.beats (expected : UInt32) : Inbound → Bool
  | control sequence (.pong (some _)) | data sequence (.pong (some _)) => sequence == expected
  | _ => false

/-- How many steps a goroutine takes to its next update when `shutdown` has taken and closed the
sessions; zero if it makes none any more. -/
def Handler.stepsToUpdate (hand : Option Inbound) : Handler → ℕ
  | publishingAccepted .. | beating .. | reporting .. | publishingControlLoss _ | dataBeating ..
  | publishingDataLoss _ => 1
  | serving .vpn expected | forwarding _ _ expected => if hand.any (·.beats expected) then 2 else 0
  | closingRelay release => if release.stopping then 0 else 2
  | closingData release => if release.stopping then 0 else 3
  | dataClosingRelay _ release => if release.controlConnected && !release.stopping then 2 else 0
  | dataReporting _ release => if release.relay.isSome then 1
    else if release.controlConnected && !release.stopping then 3 else 0
  | dataClosing _ release => if release.relay.isSome then 2
    else if release.controlConnected && !release.stopping then 4 else 0
  | _ => 0

def Request.updates : Request → Bool
  | publishingStats | publishingStop => true
  | _ => false

def InFlight (r : Reading) : Prop :=
  (∃ c, 0 < (r.daemon.sessions.handlers c).stepsToUpdate (r.hands c)) ∨
    ∃ i, (r.daemon.requests i).updates = true

/-- What the first section of `shutdown` leaves of the registry. -/
structure Emptied (r : Registry) : Prop where
  stopping : r.stopping = true
  control : r.controlConnection = none
  data : r.dataConnection = none
  relay : r.dataRelay = none

/-- A session or a data channel was accepted, and its goroutine has not released it yet. -/
def Handler.unreleased (h : Handler) : Bool := h.controlSide.isSome || h.dataSide.isSome

/-- `shutdown` has removed the state file, and nobody is left who would write it. -/
structure Retired (r : Reading) : Prop where
  place : r.daemon.main = .finished ∨ r.daemon.main = .exited
  monitor : r.daemon.monitor = .off ∨ r.daemon.monitor = .returned
  registry : Emptied r.daemon.sessions.registry
  deaf : r.daemon.acceptingDevice = false ∧ r.daemon.acceptingControl = false
  handlers : ∀ c, (r.daemon.sessions.handlers c).stepsToUpdate (r.hands c) = 0
  closed : ∀ c, (r.daemon.sessions.handlers c).unreleased = true → c ∈ r.daemon.sessions.closed
  requests : ∀ i, (r.daemon.requests i).updates = false
  removed : r.daemon.files.stateFile = none

section
variable {c d : Conn} {s t : State} {e : DeviceEvent}

structure Idles (c : Conn) (s t : State) : Prop where
  registry : t.sessions.registry = s.sessions.registry
  handler : (t.sessions.handlers c).stepsToUpdate none = 0
  requests : t.requests = s.requests
  accepting : t.acceptingDevice = s.acceptingDevice ∧ t.acceptingControl = s.acceptingControl
  files : t.files = s.files

theorem Idles.goto {h : Handler} (hh : h.stepsToUpdate none = 0) : Idles c s (s.goto c h) where
  registry := rfl
  handler := by simpa using hh
  requests := rfl
  accepting := ⟨rfl, rfl⟩
  files := rfl

namespace Emptied
variable {r : Registry} (h : Emptied r)
include h

theorem registerControl (c : Conn) (mode : Mode) (token : String) :
    r.registerControl c mode token = none :=
  if_pos (.inr h.stopping)

theorem releaseControl (c : Conn) (previous : VPNStatus) : r.releaseControl c previous = none :=
  if_pos (by simp [h.control])

theorem bindData (c : Conn) (token : String) : r.bindData c token = none :=
  if_pos (.inl h.stopping)

theorem attachRelay (c : Conn) (relay : RelayId) : r.attachRelay c relay = none :=
  if_pos (.inr (.inr h.stopping))

theorem releaseData (c : Conn) : r.releaseData c = none :=
  if_pos (by simp [h.data])

theorem acceptReport (report : Option VPNStatusPayload) (c : Conn) (proxyActive : Bool) :
    Daemon.acceptReport report (r.statusContext c) proxyActive = none := by
  unfold Daemon.acceptReport Registry.statusContext
  cases report with
  | none => rfl
  | some report => simp [h.control]

/-- Without a session a report is refused, and only a PONG leads to an update. -/
theorem controlLoop {mode : Mode} {expected : UInt32} {frame : Option (UInt32 × ControlFrame)}
    (hs : (Handler.serving mode expected).stepsToUpdate (DeviceEvent.controlFrame frame).frame = 0)
    (c : Conn) (proxyActive : Bool) :
    (controlLoop r c proxyActive mode expected frame).stepsToUpdate none = 0 := by
  unfold Daemon.controlLoop
  repeat' split
  all_goals
    simp_all [Handler.stepsToUpdate, DeviceEvent.frame, Inbound.beats, h.acceptReport]

end Emptied

theorem dataLoop_idles {token : String} {relay : RelayId} {expected : UInt32}
    {frame : Option (UInt32 × DataFrame)}
    (hs : (Handler.forwarding token relay expected).stepsToUpdate (DeviceEvent.dataFrame frame).frame =
      0) : (dataLoop token relay expected frame).stepsToUpdate none = 0 := by
  unfold dataLoop
  dsimp only
  repeat' split
  all_goals simp_all [Handler.stepsToUpdate, DeviceEvent.frame, Inbound.beats]

theorem stepsToUpdate_dataReporting (hand : Option Inbound) (token : String) (release : DataRelease) :
    (Handler.dataReporting token release).stepsToUpdate hand = 0 ↔
      release.relay = none ∧ (release.controlConnected && !release.stopping) = false := by
  simp only [Handler.stepsToUpdate]
  cases release.relay with
  | none => cases release.controlConnected && !release.stopping <;> simp
  | some relay => simp

theorem DeviceStep.idles (h : DeviceStep c s e t) (hr : Emptied s.sessions.registry)
    (hs : (s.sessions.handlers c).stepsToUpdate e.frame = 0) : Idles c s t := by
  cases h with
  | accept pc _ | drop pc | authorize pc _ | noToken pc | busy pc _ | readPrevious pc
  | notControl pc _ | rejectData pc _ | noRelay pc | notAttached pc _ | notData pc _ =>
    exact .goto rfl
  | createToken pc _ _ _ | newRelay pc _ | discardRelay pc =>
    exact ⟨rfl, by simp [Handler.stepsToUpdate], rfl, ⟨rfl, rfl⟩, rfl⟩
  | hello pc payload =>
    refine .goto ?_
    unfold afterHello
    split <;> rfl
  | dataHello pc payload =>
    refine .goto ?_
    unfold afterDataHello
    split <;> rfl
  | register pc taken => simp [hr.registerControl] at taken
  | releaseControl pc taken => simp [hr.releaseControl] at taken
  | bindData pc taken => simp [hr.bindData] at taken
  | attachRelay pc taken => simp [hr.attachRelay] at taken
  | releaseData pc taken => simp [hr.releaseData] at taken
  | publishAccepted pc | publishHeartbeat pc | publishStatus pc | publishControlLoss pc
  | publishDataHeartbeat pc | publishDataLoss pc => simp [pc, Handler.stepsToUpdate] at hs
  | @helloAck mode ack pc written =>
    cases mode <;> cases written <;> exact .goto rfl
  | dataAck pc written => cases written <;> exact .goto rfl
  | controlFrame pc frame =>
    rw [pc] at hs
    exact .goto (hr.controlLoop hs c _)
  | dataFrame pc frame =>
    rw [pc] at hs
    exact .goto (dataLoop_idles hs)
  | @closeData release pc =>
    have hstopping : release.stopping = true := by simpa [pc, Handler.stepsToUpdate] using hs
    exact ⟨rfl, by simp [Handler.stepsToUpdate, hstopping], rfl, ⟨rfl, rfl⟩, rfl⟩
  | @closeRelay release pc =>
    have hstopping : release.stopping = true := by simpa [pc, Handler.stepsToUpdate] using hs
    exact ⟨rfl, by simp [afterControlRelease, Handler.stepsToUpdate, hstopping], rfl, ⟨rfl, rfl⟩, rfl⟩
  | @closeConnection token release pc =>
    refine ⟨rfl, ?_, rfl, ⟨rfl, rfl⟩, rfl⟩
    simp only [pc, State.withSessions_sessions, Sessions.goto_handlers, update_self,
      Handler.stepsToUpdate] at hs ⊢
    split_ifs at hs ⊢
    simp at hs ⊢
  | @publishRelayStats token release pc stats =>
    rw [pc, stepsToUpdate_dataReporting] at hs
    have hsame : publishFinalStats release.relay stats s = s := by
      simp [publishFinalStats, hs.1]
    rw [hsame]
    exact .goto (by simp [Handler.stepsToUpdate, hs.2])
  | @closeDataRelay token release pc =>
    have hquiet : (release.controlConnected && !release.stopping) = false := by
      simpa [pc, Handler.stepsToUpdate] using hs
    exact ⟨rfl, by simp [afterDataRelease, hquiet, Handler.stepsToUpdate], rfl, ⟨rfl, rfl⟩, rfl⟩

theorem DeviceStep.closed (h : DeviceStep c s e t) : s.sessions.closed ⊆ t.sessions.closed := by
  cases h with
  | closeData | closeConnection => exact List.subset_append_left _ _
  | publishRelayStats pc stats =>
    unfold publishFinalStats
    split <;> exact List.Subset.refl _
  | _ => exact List.Subset.refl _

theorem DeviceStep.unreleased (h : DeviceStep c s e t)
    (ht : (t.sessions.handlers c).unreleased = true) :
    (s.sessions.handlers c).unreleased = true ∨ t.sessions.registry.controlConnection = some c ∨
      t.sessions.registry.dataConnection = some c := by
  have hgoto {u : State} {h : Handler} (hu : ((u.goto c h).sessions.handlers c).unreleased = true) :
      h.unreleased = true := by simpa using hu
  cases h with
  | hello pc payload =>
    have hh := hgoto ht
    unfold afterHello at hh
    split at hh <;> cases hh
  | dataHello pc payload =>
    have hh := hgoto ht
    unfold afterDataHello at hh
    split at hh <;> cases hh
  | register pc taken =>
    obtain ⟨-, -, rfl, -⟩ := Registry.registerControl_eq_some taken
    exact .inr (.inl rfl)
  | bindData pc taken =>
    obtain ⟨-, -, -, -, -, rfl⟩ := Registry.bindData_eq_some taken
    exact .inr (.inr rfl)
  | closeRelay pc =>
    unfold afterControlRelease at ht
    split at ht <;> simp [Handler.unreleased, Handler.controlSide, Handler.dataSide] at ht
  | closeDataRelay pc =>
    unfold afterDataRelease at ht
    split at ht <;> simp [Handler.unreleased, Handler.controlSide, Handler.dataSide] at ht
  | _ pc =>
    first
      | exact .inl (by rw [pc]; rfl)
      | simp [Handler.unreleased, Handler.controlSide, Handler.dataSide] at ht

end

namespace Retired
variable {r r' : Reading}

theorem device {c : Conn} {t : State} {e : DeviceEvent} (hr : Retired r)
    (h : DeviceStep c r.daemon e t) (hand : e.frame = r.hands c) :
    Retired ⟨t, update r.hands c none⟩ := by
  have hidles := h.idles hr.registry (hand ▸ hr.handlers c)
  refine ⟨h.main ▸ hr.place, h.monitor ▸ hr.monitor, hidles.registry ▸ hr.registry,
    ⟨hidles.accepting.1.trans hr.deaf.1, hidles.accepting.2.trans hr.deaf.2⟩, fun d => ?_, fun d hd => ?_,
    hidles.requests ▸ hr.requests, hidles.files ▸ hr.removed⟩
  · rcases eq_or_ne d c with rfl | hd
    · simpa using hidles.handler
    · simpa [h.effect.other hd, update_of_ne hd] using hr.handlers d
  · apply h.closed
    apply hr.closed
    rcases eq_or_ne d c with rfl | hne
    · refine (h.unreleased hd).resolve_right ?_
      simp [hidles.registry, hr.registry.control, hr.registry.data]
    · rwa [h.effect.other hne] at hd

theorem request {i : ℕ} {t : State} {e : RequestEvent} (hr : Retired r)
    (h : RequestStep i r.daemon e t) : Retired ⟨t, r.hands⟩ := by
  have hrequests : ∀ q : Request, q.updates = false → ∀ j,
      (update r.daemon.requests i q j).updates = false := by
    intro q hq j
    rcases eq_or_ne j i with rfl | hj
    · simpa using hq
    · rw [update_of_ne hj]
      exact hr.requests j
  have hi := hr.requests i
  cases h with
  | accept pc listening command => simp [hr.deaf] at listening
  | publishStats pc stats | publishStop pc => simp [pc, Request.updates] at hi
  | refresh pc =>
    refine { hr with requests := hrequests _ ?_ }
    simp [hr.registry.relay, Request.updates]
  | _ => exact { hr with requests := hrequests _ rfl }

theorem other {t : State} {l : Label} (h : Step r.daemon l t) (other : ∀ c e, l ≠ .device c e)
    (hr : Retired r) : Retired ⟨t, r.hands⟩ := by
  cases h with
  | device => exact absurd rfl (other _ _)
  | monitor _ h =>
    rcases hr.monitor with hm | hm
    · exact absurd hm h.active.1
    · exact absurd hm h.active.2
  | request _ h => exact hr.request h
  | main h =>
    cases h with
    | exit pc => exact { hr with place := .inr rfl }
    | _ pc =>
      have hplace := hr.place
      rw [pc] at hplace
      rcases hplace with hplace | hplace <;> cases hplace
  | surroundings e => cases e <;> exact { hr with }

theorem step {l : ReadingLabel} (h : ReadingStep r l r') (hr : Retired r) : Retired r' := by
  cases h with
  | @read c frame _ place _ connected =>
    refine absurd (hr.closed c ?_) connected
    cases hc : r.daemon.sessions.handlers c <;> rw [hc] at place <;> first | rfl | cases place
  | device h hand =>
    cases h with
    | device _ h => exact hr.device h hand
  | other h other => exact hr.other h other

end Retired

/-- `shutdown` has closed the device listener. -/
def Main.deaf : Main → Bool
  | closingControlListener _ | closingProxy _ | publishingProxyFailure | failingProxy
  | checkingProxy | publishingProxyOff | removingMapping | failingMapping | removingSocket
  | checkingFailure | removingState => true
  | _ => false

/-- `shutdown` has made its first section. -/
def Main.shutting : Main → Bool
  | cancellingMonitor _ | awaitingMonitor _ | publishingStopping _ | sendingStop _ | closingData _
  | closingRelay _ | closingControl _ | closingDeviceListener _ => true
  | main => main.deaf

structure ShutDown (s : State) : Prop where
  stopping : s.main.shutting = true → s.sessions.registry.stopping = true
  deaf : s.main.deaf = true → s.acceptingDevice = false

variable {s t : State}

theorem ShutDown.of_not_shutting (h : s.main.shutting = false) : ShutDown s := by
  constructor
  · intro hs
    rw [h] at hs
    contradiction
  · intro hdeaf
    have hs : s.main.shutting = true := by
      cases hm : s.main <;> rw [hm] at hdeaf <;> first | rfl | cases hdeaf
    rw [h] at hs
    contradiction

theorem ShutDown.main {e : MainEvent} (h : MainStep s e t) (hs : ShutDown s) : ShutDown t := by
  cases h with
  | takeSessions pc => exact ⟨fun _ => rfl, Bool.noConfusion⟩
  | closeDeviceListener pc => exact ⟨fun _ => hs.stopping (by rw [pc]; rfl), fun _ => rfl⟩
  | ensurePaths pc ok | chmod pc ok | recoverProxy pc _ ok =>
    apply of_not_shutting
    cases ok <;> rfl
  | lstat pc ok =>
    apply of_not_shutting
    cases ok with
    | false => rfl
    | true =>
      rw [State.withMain_main, if_pos rfl]
      cases s.files.control <;> rfl
  | probe pc result possible =>
    apply of_not_shutting
    cases result <;> rfl
  | serveError pc | proxyDone pc _ =>
    apply of_not_shutting
    rw [State.withMain_main, unlessStopping]
    split <;> rfl
  | _ pc =>
    -- before `shutdown`, behind the listener's closing, or between the two
    first
      | exact of_not_shutting rfl
      | exact ⟨fun _ => hs.stopping (by rw [pc]; rfl), fun _ => hs.deaf (by rw [pc]; rfl)⟩
      | exact ⟨fun _ => hs.stopping (by rw [pc]; rfl), Bool.noConfusion⟩

theorem DeviceStep.acceptingDevice {c : Conn} {e : DeviceEvent} (h : DeviceStep c s e t) :
    t.acceptingDevice = s.acceptingDevice := by
  cases h with
  | publishRelayStats pc stats =>
    simp only [State.goto_acceptingDevice, publishFinalStats]
    split <;> rfl
  | _ => rfl

theorem ShutDown.frame (hs : ShutDown s) (main : t.main = s.main)
    (stopping : t.sessions.registry.stopping = s.sessions.registry.stopping)
    (accepting : t.acceptingDevice = s.acceptingDevice) : ShutDown t := by
  constructor
  · rw [main, stopping]
    exact hs.stopping
  · rw [main, accepting]
    exact hs.deaf

theorem ShutDown.step {s t : State} {l : Label} (h : Step s l t) (hs : ShutDown s) :
    ShutDown t := by
  cases h with
  | device _ h => exact hs.frame h.main h.effect.stopping h.acceptingDevice
  | monitor _ h => exact hs.frame h.main.1 (by rw [h.main.2]) h.acceptingDevice
  | request _ h => exact hs.frame h.main.1 (by rw [h.main.2]) h.acceptingDevice
  | main h => exact hs.main h
  | surroundings e => cases e <;> exact ⟨hs.stopping, hs.deaf⟩

theorem shutDown_reached (h : Reached s) : ShutDown s := by
  refine h.invariant ?_ fun s l t => ShutDown.step
  rintro s ⟨pid, config, files, rfl⟩
  exact ⟨Bool.noConfusion, Bool.noConfusion⟩

theorem CallsInOrder.monitor_done (h : CallsInOrder s) (place : s.main.phase = .removed) :
    s.monitor = .off ∨ s.monitor = .returned := by
  obtain ⟨d, -, hl⟩ := h
  cases hl with
  | fresh idle | cleared idle | refused idle => exact .inl idle.off
  | added _ attended _ =>
    rw [place] at attended
    exact attended.elim
  | removed _ returned => exact .inr returned

theorem emptied_of_stopping (h : Reached s) (hstopping : s.sessions.registry.stopping = true) :
    Emptied s.sessions.registry := by
  obtain ⟨σ, -, howned⟩ := Owned.reached h
  have hfree := howned.represents.idle hstopping
  refine ⟨hstopping, ?_, ?_, ?_⟩
  · rw [howned.represents.control, hfree]
    rfl
  · rw [howned.represents.data, hfree]
    rfl
  · rw [howned.represents.relay, hfree]
    rfl

/-- The connections that `shutdown` has taken and not closed yet. -/
def Main.holds : Main → List Conn
  | cancellingMonitor taken | awaitingMonitor taken | publishingStopping taken | sendingStop taken
  | closingData taken => taken.data.toList ++ taken.control.toList
  | closingRelay taken | closingControl taken => taken.control.toList
  | _ => []

/-- The connection is closed, or one that holds it has yet to close it. -/
inductive Accounted (s : State) (c : Conn) : Prop
  | closed (h : c ∈ s.sessions.closed)
  | control (h : s.sessions.registry.controlConnection = some c)
  | data (h : s.sessions.registry.dataConnection = some c)
  | handler {d : Conn} {release : ControlRelease}
      (h : s.sessions.handlers d = .closingData release) (taken : release.data = some c)
      (up : release.stopping = false)
  | main (h : c ∈ s.main.holds)

section
variable {c d : Conn} {x y : Sessions} {s t : State}

theorem Effect.control_kept (h : Effect d x y) (hc : x.registry.controlConnection = some c) :
    y.registry.controlConnection = some c ∨ c = d ∧ (y.handlers d).unreleased = false := by
  cases h with
  | opened pc free up => simp [free] at hc
  | closed pc held =>
    obtain rfl : d = c := by simpa [held] using hc
    exact .inr ⟨rfl, by simp [Handler.unreleased, Handler.controlSide, Handler.dataSide]⟩
  | _ => exact .inl hc

theorem Effect.data_kept (h : Effect d x y) (hc : x.registry.dataConnection = some c)
    (up : x.registry.stopping = false) :
    y.registry.dataConnection = some c ∨ c = d ∧ (y.handlers d).unreleased = false ∨
      ∃ release, y.handlers d = .closingData release ∧ release.data = some c ∧
        release.stopping = false := by
  cases h with
  | closed pc held => exact .inr (.inr ⟨_, update_self .., hc, up⟩)
  | bound pc held vpn session free => simp [free] at hc
  | detached pc held kept =>
    obtain rfl : d = c := by simpa [held] using hc
    exact .inr (.inl ⟨rfl, by simp [Handler.unreleased, Handler.controlSide, Handler.dataSide]⟩)
  | _ => exact .inl hc

theorem Accounted.frame (hs : Accounted s c) (hmain : t.main = s.main)
    (hsame : t.sessions = s.sessions) : Accounted t c := by
  cases hs with
  | closed hc => exact .closed (hsame ▸ hc)
  | control hc => exact .control (hsame ▸ hc)
  | data hc => exact .data (hsame ▸ hc)
  | handler hd taken up => exact .handler (hsame ▸ hd) taken up
  | main hm => exact .main (hmain ▸ hm)

theorem Accounted.device {e : DeviceEvent} (hs : Accounted s c) (h : DeviceStep d s e t)
    (up : s.sessions.registry.stopping = true → Emptied s.sessions.registry) :
    Accounted t c ∨ c = d ∧ (t.sessions.handlers d).unreleased = false := by
  cases hs with
  | closed hc => exact .inl (.closed (h.closed hc))
  | control hc => exact (h.effect.control_kept hc).imp_left .control
  | data hc =>
    have hup : s.sessions.registry.stopping = false := by
      by_contra hstopping
      rw [(up (Bool.eq_true_of_not_eq_false hstopping)).data] at hc
      cases hc
    rcases h.effect.data_kept hc hup with hd | hd | ⟨release, hd, taken, up⟩
    · exact .inl (.data hd)
    · exact .inr hd
    · exact .inl (.handler hd taken up)
  | @handler d' release hd taken up =>
    rcases eq_or_ne d' d with rfl | hne
    · cases h with
      | closeData pc =>
        obtain rfl : release = _ := Handler.closingData.inj (hd.symm.trans pc)
        exact .inl (.closed (by simp [taken]))
      | _ pc => simp [hd] at pc
    · rw [← h.effect.other hne] at hd
      exact .inl (.handler hd taken up)
  | main hm => exact .inl (.main (h.main ▸ hm))

theorem Accounted.shutdown {e : MainEvent} (hs : Accounted s c) (h : MainStep s e t) :
    Accounted t c := by
  cases hs with
  | closed hc =>
    cases h with
    | closeData pc | closeControl pc => exact .closed (List.mem_append_left _ hc)
    | _ => exact .closed hc
  | control hc =>
    cases h with
    | takeSessions pc => exact .main (by simp [takeSessions, Main.holds, hc])
    | _ => exact .control hc
  | data hc =>
    cases h with
    | takeSessions pc => exact .main (by simp [takeSessions, Main.holds, hc])
    | _ => exact .data hc
  | handler hd taken up => exact .handler (h.sessions.1 ▸ hd) taken up
  | main hm =>
    cases h with
    | closeData pc =>
      rw [pc, Main.holds, List.mem_append] at hm
      exact hm.elim (fun hd => .closed (List.mem_append_right _ hd)) fun hc => .main hc
    | closeControl pc =>
      rw [pc] at hm
      exact .closed (List.mem_append_right _ hm)
    | _ pc =>
      rw [pc] at hm
      first | exact .main hm | cases hm

theorem accounted_step {l : Label} (h : Step s l t) (reached : Reached s)
    (hs : ∀ c, (s.sessions.handlers c).unreleased = true → Accounted s c) (c : Conn)
    (hc : (t.sessions.handlers c).unreleased = true) : Accounted t c := by
  cases h with
  | @device _ d _ _ h =>
    have hkept (hs : Accounted s c) : Accounted t c := by
      refine (hs.device h (emptied_of_stopping reached)).resolve_right ?_
      rintro ⟨rfl, hnone⟩
      rw [hc] at hnone
      cases hnone
    rcases eq_or_ne c d with rfl | hd
    · rcases h.unreleased hc with hbefore | hcontrol | hdata
      · exact hkept (hs c hbefore)
      · exact .control hcontrol
      · exact .data hdata
    · rw [h.effect.other hd] at hc
      exact hkept (hs c hc)
  | monitor _ h | request _ h =>
    rw [h.main.2] at hc
    exact (hs c hc).frame h.main.1 h.main.2
  | main h => exact (hs c (h.sessions.1 ▸ hc)).shutdown h
  | surroundings e => cases e <;> exact (hs c hc).frame rfl rfl

theorem accounted_reached (h : Reached s) (hc : (s.sessions.handlers c).unreleased = true) :
    Accounted s c := by
  refine (h.invariant (I := fun s => Reached s ∧
    ∀ c, (s.sessions.handlers c).unreleased = true → Accounted s c) ?_ ?_).2 c hc
  · rintro s ⟨pid, config, files, rfl⟩
    exact ⟨.start ⟨pid, config, files, rfl⟩, fun c hc => by cases hc⟩
  · exact fun s l t hstep hs => ⟨hs.1.next hstep, accounted_step hstep hs.1 hs.2⟩

end

variable {r r' : Reading} {hand : Option Inbound} {c : Conn} {s t : State} {l : ReadingLabel}
  {ls : List Label}

/-- With nothing in flight, the removal of the state file is the end of it. -/
theorem retired_of_removal (h : ReachedReading r) (pc : r.daemon.main = .removingState)
    (quiet : ¬ InFlight r) :
    Retired ⟨(r.daemon.withFiles r.daemon.files.removeState).withMain .finished, r.hands⟩ := by
  have hreached := reached_of_reading h
  have hshut := shutDown_reached hreached
  have hempty := emptied_of_stopping hreached (hshut.stopping (by rw [pc]; rfl))
  have hcontrol : r.daemon.acceptingControl = false := by
    by_contra haccepting
    have hserves := serves_reached hreached (Bool.eq_true_of_not_eq_false haccepting)
    simp [pc, Main.serves, Main.closedDown, Main.cleaned] at hserves
  have hidle (c : Conn) : (r.daemon.sessions.handlers c).stepsToUpdate (r.hands c) = 0 := by
    by_contra hc
    exact quiet (.inl ⟨c, Nat.pos_of_ne_zero hc⟩)
  refine ⟨.inl rfl, ?_, hempty, ⟨hshut.deaf (by rw [pc]; rfl), hcontrol⟩, hidle, fun c hc => ?_,
    fun i => ?_, rfl⟩
  · exact (Reached.callsInOrder hreached).monitor_done (by rw [pc]; rfl)
  · cases accounted_reached hreached hc with
    | closed hclosed => exact hclosed
    | control hcontrol => simp [hempty.control] at hcontrol
    | data hdata => simp [hempty.data] at hdata
    | @handler d release hd taken up =>
      have hsteps := hidle d
      simp [hd, Handler.stepsToUpdate, up] at hsteps
    | main hm => simp [pc, Main.holds] at hm
  · by_contra hi
    exact quiet (.inr ⟨i, Bool.eq_true_of_not_eq_false hi⟩)

theorem pong_in_hand {expected : UInt32} (h : 0 < if hand.any (·.beats expected) then 2 else 0) :
    ∃ heartbeat,
      hand = some (.control expected (.pong (some heartbeat))) ∨
        hand = some (.data expected (.pong (some heartbeat))) := by
  cases hand with
  | none => simp at h
  | some frame =>
    have hbeats : frame.beats expected = true := by
      by_contra hnot
      simp [hnot] at h
    unfold Inbound.beats at hbeats
    split at hbeats
    · exact ⟨_, .inl (by rw [beq_iff_eq.mp hbeats])⟩
    · exact ⟨_, .inr (by rw [beq_iff_eq.mp hbeats])⟩
    · cases hbeats

/-- A goroutine with an update ahead comes closer to it or makes it. -/
theorem DeviceStep.progress (hs : 0 < (s.sessions.handlers c).stepsToUpdate hand)
    (held : ∀ frame, hand = some frame → (s.sessions.handlers c).reads frame = true) :
    ∃ e t, DeviceStep c s e t ∧ e.frame = hand ∧
      ((t.files = s.files ∧ 0 < (t.sessions.handlers c).stepsToUpdate none ∧
          (t.sessions.handlers c).stepsToUpdate none + 1 =
            (s.sessions.handlers c).stepsToUpdate hand) ∨
        t.files = s.files.writeState s.pid t.snapshot) := by
  have hfree (hplace : ∀ frame, (s.sessions.handlers c).reads frame = false) : none = hand := by
    cases hand with
    | none => rfl
    | some frame =>
      have hreads := held frame rfl
      rw [hplace frame] at hreads
      cases hreads
  cases hc : s.sessions.handlers c <;> rw [hc] at hs held hfree
  case publishingAccepted => exact ⟨_, _, .publishAccepted hc, hfree fun _ => rfl, .inr rfl⟩
  case beating => exact ⟨_, _, .publishHeartbeat hc, hfree fun _ => rfl, .inr rfl⟩
  case reporting => exact ⟨_, _, .publishStatus hc, hfree fun _ => rfl, .inr rfl⟩
  case publishingControlLoss => exact ⟨_, _, .publishControlLoss hc, hfree fun _ => rfl, .inr rfl⟩
  case dataBeating => exact ⟨_, _, .publishDataHeartbeat hc, hfree fun _ => rfl, .inr rfl⟩
  case publishingDataLoss => exact ⟨_, _, .publishDataLoss hc, hfree fun _ => rfl, .inr rfl⟩
  case serving mode expected =>
    cases mode with
    | phase1 => simp [Handler.stepsToUpdate] at hs
    | vpn =>
      obtain ⟨heartbeat, rfl | rfl⟩ := pong_in_hand hs
      · refine ⟨_, _, .controlFrame hc (some (expected, .pong (some heartbeat))), rfl, .inl ⟨rfl, ?_⟩⟩
        simp [controlLoop, Handler.stepsToUpdate, Inbound.beats]
      · cases held _ rfl
  case forwarding token relay expected =>
    obtain ⟨heartbeat, rfl | rfl⟩ := pong_in_hand hs
    · cases held _ rfl
    · refine ⟨_, _, .dataFrame hc (some (expected, .pong (some heartbeat))), rfl, .inl ⟨rfl, ?_⟩⟩
      simp [dataLoop, Handler.stepsToUpdate, Inbound.beats]
  case closingData release =>
    cases hstopping : release.stopping with
    | true => simp [Handler.stepsToUpdate, hstopping] at hs
    | false =>
      refine ⟨_, _, .closeData hc, hfree fun _ => rfl, .inl ⟨rfl, ?_⟩⟩
      simp [Handler.stepsToUpdate, hstopping]
  case closingRelay release =>
    cases hstopping : release.stopping with
    | true => simp [Handler.stepsToUpdate, hstopping] at hs
    | false =>
      refine ⟨_, _, .closeRelay hc, hfree fun _ => rfl, .inl ⟨rfl, ?_⟩⟩
      simp [afterControlRelease, Handler.stepsToUpdate, hstopping]
  case dataClosing token release =>
    refine ⟨_, _, .closeConnection hc, hfree fun _ => rfl, .inl ⟨rfl, ?_⟩⟩
    simp only [State.withSessions_sessions, Sessions.goto_handlers, update_self,
      Handler.stepsToUpdate] at hs ⊢
    split_ifs at hs ⊢ <;> simp at hs ⊢
  case dataReporting token release =>
    refine ⟨_, _, .publishRelayStats hc {}, hfree fun _ => rfl, ?_⟩
    cases hrelay : release.relay with
    | some relay => exact .inr (by simp [publishFinalStats])
    | none =>
      refine .inl ⟨by simp [publishFinalStats], ?_⟩
      simp only [State.goto_sessions_handlers, update_self, Handler.stepsToUpdate, hrelay,
        Option.isSome_none, Bool.false_eq_true, if_false] at hs ⊢
      split_ifs at hs ⊢
      · simp
      · simp at hs
  case dataClosingRelay token release =>
    refine ⟨_, _, .closeDataRelay hc, hfree fun _ => rfl, .inl ⟨rfl, ?_⟩⟩
    simp only [State.withSessions_sessions, Sessions.goto_handlers, update_self,
      Handler.stepsToUpdate, afterDataRelease] at hs ⊢
    split_ifs at hs ⊢
    · simp
    · simp at hs
  all_goals simp [Handler.stepsToUpdate] at hs

def Recreates (r : Reading) : Prop :=
  ∃ ls r', Run ReadingStep r ls r' ∧ r'.daemon.files.stateFile ≠ none

theorem Recreates.before (h : ReadingStep r l r') (hr : Recreates r') : Recreates r := by
  obtain ⟨ls, u, hrun, hfile⟩ := hr
  exact ⟨l :: ls, u, .cons h hrun, hfile⟩

theorem Recreates.written (h : ReadingStep r l r') (hwritable : r.daemon.files.writable = true)
    (hr : r'.daemon.files = r.daemon.files.writeState r.daemon.pid r'.daemon.snapshot) :
    Recreates r := by
  refine ⟨[l], r', .single h, ?_⟩
  rw [hr, Files.writeState, if_pos hwritable]
  simp

theorem recreates_of_handler (halive : r.daemon.main ≠ .exited)
    (hwritable : r.daemon.files.writable = true) (held : r.Held)
    (hs : 0 < (r.daemon.sessions.handlers c).stepsToUpdate (r.hands c)) : Recreates r := by
  induction hn : (r.daemon.sessions.handlers c).stepsToUpdate (r.hands c) generalizing r with
  | zero => simp [hn] at hs
  | succ n ih =>
    obtain ⟨e, t, hstep, hand, ⟨hfiles, hahead, hcloser⟩ | hfiles⟩ := DeviceStep.progress hs (held c)
    · have hread := ReadingStep.device (.device halive hstep) hand
      refine .before hread (ih (hstep.main ▸ halive) (hfiles ▸ hwritable) (held.step hread) ?_ ?_)
      · simpa using hahead
      · simp only [update_self]
        omega
    · exact .written (.device (.device halive hstep) hand) hwritable hfiles

theorem recreates_of_request {i : ℕ} (halive : r.daemon.main ≠ .exited)
    (hwritable : r.daemon.files.writable = true) (hs : (r.daemon.requests i).updates = true) :
    Recreates r := by
  cases hi : r.daemon.requests i with
  | publishingStats =>
    have hstep := Step.request halive (.publishStats hi {})
    exact .written (.other hstep fun _ _ => Label.noConfusion) hwritable rfl
  | publishingStop =>
    have hstep := Step.request halive (.publishStop hi)
    exact .written (.other hstep fun _ _ => Label.noConfusion) hwritable rfl
  | _ => simp [hi, Request.updates] at hs

/-- A shutdown without failure removes the state file. It stays removed, whatever the goroutines and
the file system do, exactly if no device handler and no local request that is still in flight has an
update ahead of it. -/
theorem removed_stays_iff {r r' : Reading} (h : ReachedReading r)
    (pc : r.daemon.main = .removingState) (removal : ReadingStep r (.daemon (.main .next)) r') :
    r'.daemon.files.stateFile = none ∧
      ((∀ ls u, Run ReadingStep r' ls u → u.daemon.files.stateFile = none) ↔ ¬ InFlight r) := by
  obtain rfl : r' = ⟨(r.daemon.withFiles r.daemon.files.removeState).withMain .finished, r.hands⟩ := by
    cases removal with
    | other hstep _ =>
      cases hstep with
      | main hstep =>
        cases hstep with
        | removeState => rfl
        | _ pc' => simp [pc] at pc'
  refine ⟨rfl, fun hstays hflight => ?_, fun hquiet ls u hrun => ?_⟩
  · have hrecreates : Recreates
        ⟨(r.daemon.withFiles r.daemon.files.removeState).withMain .finished, r.hands⟩ := by
      refine .before (.other (.surroundings (.writable true)) fun _ _ => Label.noConfusion) ?_
      rcases hflight with ⟨c, hc⟩ | ⟨i, hi⟩
      · have held : Reading.Held ⟨r.daemon, r.hands⟩ := held_of_reading h
        exact recreates_of_handler Main.noConfusion rfl held hc
      · exact recreates_of_request Main.noConfusion rfl hi
    obtain ⟨ls, u, hrun, hfile⟩ := hrecreates
    exact hfile (hstays ls u hrun)
  · have hretired := retired_of_removal h pc hquiet
    exact (hrun.invariant (fun _ _ _ => Retired.step) hretired).removed

def stoppingDown : List Label := closingDown ++ unmapping

def Label.supervises : Label → Bool
  | .main _ | .monitor _ | .surroundings .cancelContext => true
  | _ => false

structure Untouched (s t : State) : Prop where
  handlers : t.sessions.handlers = s.sessions.handlers
  requests : t.requests = s.requests
  writable : t.files.writable = s.files.writable

theorem Step.untouched {l : Label} (h : Step s l t) (hl : l.supervises = true) : Untouched s t := by
  cases h with
  | device | request => cases hl
  | monitor _ h =>
    refine ⟨by rw [h.main.2], ?_, ?_⟩
    · cases h <;> rfl
    · exact h.recorded.1.writable
  | main h =>
    refine ⟨h.sessions.1, ?_, h.writable⟩
    cases h <;> rfl
  | surroundings e =>
    cases e with
    | writable => cases hl
    | cancelContext => exact ⟨rfl, rfl, rfl⟩

theorem untouched_run (h : Run Step s ls t) (hls : ls.all Label.supervises = true) :
    Untouched s t := by
  induction h with
  | nil => exact ⟨rfl, rfl, rfl⟩
  | cons hstep _ ih =>
    simp only [List.all_cons, Bool.and_eq_true] at hls
    have hfirst := hstep.untouched hls.1
    have hrest := ih hls.2
    exact ⟨hrest.handlers.trans hfirst.handlers, hrest.requests.trans hfirst.requests,
      hrest.writable.trans hfirst.writable⟩

theorem stoppingDown_run (watched : s.monitoring = true) (waiting : s.monitor = .waiting false)
    (added : s.mappingAdded = true) (proxy : s.proxySession = none)
    (healthy : s.snapshot.daemon ≠ .failed) (pc : s.main = .serving) :
    ∃ t, Run Step s stoppingDown t ∧ t.main = .removingState ∧ t.snapshot.daemon = .stopping := by
  obtain ⟨u, hu, hclosed, -⟩ := closingDown_run watched waiting added proxy healthy pc
  obtain ⟨t, ht, hmain, hsnapshot, -⟩ := unmapping_run hclosed
  exact ⟨t, hu.append ht, hmain, hsnapshot ▸ hclosed.healthy⟩

def Label.frameless : Label → Bool
  | .device _ e => e.frame.isNone
  | _ => true

theorem reading_run (h : Run Step s ls t) (hls : ls.all Label.frameless = true) :
    Run ReadingStep ⟨s, fun _ => none⟩ (ls.map .daemon) ⟨t, fun _ => none⟩ := by
  induction h with
  | nil => exact .nil _
  | @cons _ _ _ l _ hstep _ ih =>
    simp only [List.all_cons, Bool.and_eq_true] at hls
    refine .cons ?_ (ih hls.2)
    cases l with
    | device c e =>
      have hread := ReadingStep.device (r := ⟨_, fun _ => none⟩) hstep
        (Option.isNone_iff_eq_none.mp hls.1)
      rwa [show update (fun _ => none) c none = fun _ => (none : Option Inbound) from
        update_eq_self c _] at hread
    | _ => exact .other hstep fun _ _ => Label.noConfusion

theorem reached_reading (hinit : Initial s) (h : Run Step s ls t)
    (hls : ls.all Label.frameless = true) : ReachedReading ⟨t, fun _ => none⟩ :=
  ⟨_, _, ⟨hinit, rfl⟩, reading_run h hls⟩

/-- Without a session nothing is in flight. -/
theorem removed_stays_idle : ∃ r r', ReachedReading r ∧ ReadingStep r (.daemon (.main .next)) r' ∧
    ∀ ls u, Run ReadingStep r' ls u → u.daemon.files.stateFile = none := by
  obtain ⟨s, hrun, hmain, -⟩ :=
    stoppingDown_run (s := servingState) rfl rfl rfl rfl DaemonStatus.noConfusion rfl
  have hreached := reached_reading ⟨1, plainConfig, emptyFiles, rfl⟩ (servingState_run.append hrun) rfl
  have hstep : ReadingStep ⟨s, fun _ => none⟩ (.daemon (.main .next)) _ :=
    .other (.main (.removeState hmain)) fun _ _ => Label.noConfusion
  have hsame := untouched_run hrun rfl
  refine ⟨_, _, hreached, hstep, (removed_stays_iff hreached hmain hstep).2.mpr ?_⟩
  rintro (⟨c, hc⟩ | ⟨i, hi⟩)
  · rw [hsame.handlers] at hc
    cases hc
  · rw [hsame.requests] at hi
    cases hi

def beatingState : State := controlledState.goto 1 (.beating .vpn 3 1000 5)

theorem beatingState_run : Run ReadingStep ⟨controlledState, fun _ => none⟩
    [.read 1 (.control 2 (.pong (some (1000, 5)))),
      .daemon (.device 1 (.controlFrame (some (2, .pong (some (1000, 5))))))]
    ⟨beatingState, fun _ => none⟩ := by
  have hserving : controlledState.sessions.handlers 1 = .serving .vpn 2 := rfl
  have hstep : Step controlledState (.device 1 (.controlFrame (some (2, .pong (some (1000, 5))))))
      beatingState := .device Main.noConfusion (.controlFrame hserving _)
  have hhands : update (update (fun _ => none : Conn → Option Inbound) 1
      (some (.control 2 (.pong (some (1000, 5)))))) 1 none = fun _ => none := by
    rw [update_idem, update_eq_self_iff]
  have hread := ReadingStep.device (r := ⟨controlledState, update (fun _ => none) 1
    (some (.control 2 (.pong (some (1000, 5)))))⟩) hstep rfl
  rw [hhands] at hread
  exact .cons (.read Main.noConfusion rfl rfl List.not_mem_nil) (.single hread)

/-- The daemon is stopped, and the goroutine of connection 1 records the heartbeat when the state
file has been removed. -/
theorem removed_recreated : ∃ r r' u, ReachedReading r ∧ r.daemon.main = .removingState ∧
    ReadingStep r (.daemon (.main .next)) r' ∧ r'.daemon.files.stateFile = none ∧
    ReadingStep r' (.daemon (.device 1 .publishHeartbeat)) u ∧
    ∃ record, u.daemon.files.stateFile = some record ∧ record.snapshot.daemon = .stopping := by
  obtain ⟨s, hrun, hmain, hstopping⟩ :=
    stoppingDown_run (s := beatingState) rfl rfl rfl rfl DaemonStatus.noConfusion rfl
  have hreached : ReachedReading ⟨s, fun _ => none⟩ :=
    ((reached_reading ⟨1, plainConfig, emptyFiles, rfl⟩ controlledState_run rfl).run
      beatingState_run).run (reading_run hrun rfl)
  have hsame := untouched_run hrun rfl
  have hbeating : s.sessions.handlers 1 = .beating .vpn 3 1000 5 := by
    rw [hsame.handlers]
    rfl
  have hwritable : s.files.removeState.writable = true := hsame.writable
  refine ⟨_, _, _, hreached, hmain, .other (.main (.removeState hmain)) fun _ _ => Label.noConfusion,
    rfl, .device (.device Main.noConfusion (.publishHeartbeat hbeating)) rfl,
    ⟨s.pid, publishHeartbeat .control 1000 5 s.snapshot⟩, ?_, hstopping⟩
  simp [Files.writeState, hwritable]

end HarmonyNetBridge.Daemon
