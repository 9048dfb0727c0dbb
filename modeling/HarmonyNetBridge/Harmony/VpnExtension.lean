import Mathlib.Logic.Function.Basic
import HarmonyNetBridge.Transition.Runs
import HarmonyNetBridge.Harmony.ControlReceiver

/-! The VPN extension on its event loop: `runPhase3` with its sessions, the cleanup that it shares with
`onDestroy`, the stop from the UI and the control sessions. Attempt `k` of `runVpnSession` has the
connection `k` and the control session `k`. -/
namespace HarmonyNetBridge.Harmony
open Transition

def uiRequested : JsString := jsString "ui_requested"
def userRequested : JsString := jsString "user_requested"
def systemStop : JsString := jsString "system_stop"

/-- The terminal reasons after which `runPhase3` reports `STOPPED`. -/
def reportsStopped (reason : JsString) : Bool :=
  reason = uiRequested ∨ reason = userRequested ∨ reason = systemStop

/-- Whether `runPhase3` takes the catch block for what `runVpnSession` has returned. A reason that is
no string has no `indexOf`, but for an array, which its declared type excludes. -/
def retries : JsValue → Bool
  | .string reason =>
    (jsString "transport_lost:").isPrefixOf reason || (jsString "pump_error:").isPrefixOf reason
  | .other => true

/-- The awaits of `runVpnSession`. `pending` and `sent` say whether `close` and `reportStatus` have
something to wait for. -/
inductive SessionPc where
  | connecting
  | handshaking
  | connectClosing (pending : Bool)
  | reportStarting (sent : Bool)
  | protectControl
  | protectData
  | generateVpnId
  | create
  | reportActive (sent : Bool)
  | racing
  deriving DecidableEq, Repr

/-- The awaits whose rejection leaves `runVpnSession`, `connect` apart. -/
def SessionPc.mayFail : SessionPc → Bool
  | reportStarting sent => sent
  | protectControl => true
  | protectData => true
  | generateVpnId => true
  | create => true
  | reportActive sent => sent
  | _ => false

/-- The awaits of `runPhase3`, in its finally block with the terminal reason. -/
inductive Phase3 where
  | session (pc : SessionPc)
  | recovering (sent : Bool)
  | recoveryCleanup
  | retryWait
  | finalCleanup (reason : JsString)
  | publishing (reason : JsString)
  | stoppingOwn (reason : JsString)
  | returned (reason : JsString)
  deriving DecidableEq, Repr

/-- The awaits of `performPhase3Cleanup`. -/
inductive Cleanup where
  | destroying (session : Option ℕ) (reportStopped : Bool)
  | reporting (session : ℕ) (sent : Bool)
  | closing (pending : Bool)
  deriving DecidableEq, Repr

/-- A connection: the identity generated for it, whether `create` has succeeded and the argument of
`destroy` if that was called. -/
structure VpnConnection where
  vpnId : Option JsString := none
  created : Bool := false
  destroyed : Option (Option JsString) := none
  deriving DecidableEq, Repr

/-- The extension. A cleanup that has finished is `none`. -/
structure VpnExtension where
  isolated : Bool
  destroyRequested : Bool := false
  vpnConnection : Option ℕ := some 0
  vpnId : Option JsString := none
  vpnCreated : Bool := false
  controlSession : Option ℕ := some 0
  cleanup : Option Cleanup := none
  uiStop : Option JsString := none
  uiStopResolve : Bool := true
  uiStopSubscriber : Bool := true
  attempt : ℕ := 0
  phase3 : Phase3 := .session .connecting
  vpn : ℕ → VpnConnection := fun _ => {}
  control : ℕ → ControlSession := fun _ => {}

namespace VpnExtension

/-- The extension when `onCreate` returns: `runPhase3` waits in the first `connect`. -/
def Initial (s : VpnExtension) : Prop := ∃ isolated, s = { isolated }

def setControl (s : VpnExtension) (k : ℕ) (c : ControlSession) : VpnExtension :=
  { s with control := Function.update s.control k c }

def setVpn (s : VpnExtension) (k : ℕ) (v : VpnConnection) : VpnExtension :=
  { s with vpn := Function.update s.vpn k v }

/-- The last part of `performPhase3Cleanup`: `close` and the wait for it. -/
def cleanupClose (s : VpnExtension) (k : ℕ) : VpnExtension :=
  { s.setControl k (s.control k).close with
    cleanup := some (.closing (!(s.control k).closing)) }

/-- `performPhase3Cleanup` after the destruction. -/
def cleanupSession (s : VpnExtension) : Option ℕ → Bool → VpnExtension
  | none, _ => { s with cleanup := none }
  | some k, true =>
    { s.setControl k (s.control k).reportStopped with
      cleanup := some (.reporting k (s.control k).sends) }
  | some k, false => s.cleanupClose k

/-- The fields that `performPhase3Cleanup` takes over. -/
def takeFields (s : VpnExtension) : VpnExtension :=
  { s with vpnConnection := none, vpnId := none, vpnCreated := false, controlSession := none }

def performPhase3Cleanup (s : VpnExtension) (reportStopped : Bool) : VpnExtension :=
  match s.vpnCreated, s.vpnConnection with
  | true, some c =>
    { s.takeFields.setVpn c { s.vpn c with destroyed := some s.vpnId } with
      cleanup := some (.destroying s.controlSession reportStopped) }
  | _, _ => s.takeFields.cleanupSession s.controlSession reportStopped

/-- `cleanupPhase3` until it waits: a second call joins the first. -/
def cleanupPhase3 (s : VpnExtension) (reportStopped : Bool) : VpnExtension :=
  if s.cleanup.isSome then s else s.performPhase3Cleanup reportStopped

/-- The loop of `runPhase3` is left. -/
def finish (s : VpnExtension) (reason : JsString) : VpnExtension :=
  { s.cleanupPhase3 (reportsStopped reason) with phase3 := .finalCleanup reason }

/-- The cleanup of the catch block. -/
def recover (s : VpnExtension) : VpnExtension :=
  { s.cleanupPhase3 false with phase3 := .recoveryCleanup }

/-- The catch block of `runPhase3`. -/
def sessionFails (s : VpnExtension) : VpnExtension :=
  if s.destroyRequested then s.finish systemStop
  else
    match s.controlSession with
    | some k => { s with phase3 := .recovering (s.control k).sends }
    | none => s.recover

def sessionReturns (s : VpnExtension) (reason : JsValue) : VpnExtension :=
  match reason with
  | .string text => if retries reason then s.sessionFails else s.finish text
  | .other => s.sessionFails

/-- The catch block of `connect`. -/
def connectFails (s : VpnExtension) : VpnExtension :=
  { s.setControl s.attempt (s.control s.attempt).close with
    phase3 := .session (.connectClosing (!(s.control s.attempt).closing)) }

/-- `connectData` with its result, after `STARTING` was reported. -/
def connectData (s : VpnExtension) (connected : Bool) : VpnExtension :=
  if connected then { s with phase3 := .session .protectControl } else s.sessionFails

/-- The rest of the setup after `generateVpnId`, until `create` waits. -/
def vpnIdGenerated (s : VpnExtension) (id : JsString) : VpnExtension :=
  let named :=
    { s.setVpn s.attempt { s.vpn s.attempt with vpnId := some id } with vpnId := some id }
  if (Bytes.trim isWhiteSpace id).length = 0 then named.sessionFails
  else { named with phase3 := .session .create }

/-- `create` has succeeded; `pumpStarted` is the result of `startPacketPump`. -/
def vpnCreates (s : VpnExtension) (pumpStarted : Bool) : VpnExtension :=
  let created :=
    { s.setVpn s.attempt { s.vpn s.attempt with created := true } with vpnCreated := true }
  if pumpStarted then
    { created with phase3 := .session (.reportActive (s.control s.attempt).sends) }
  else created.sessionFails

/-- `runVpnSession` until it waits. -/
def startSession (s : VpnExtension) : VpnExtension :=
  { s with
    attempt := s.attempt + 1
    vpnConnection := some (s.attempt + 1)
    controlSession := some (s.attempt + 1)
    phase3 := .session .connecting }

def unsubscribeFromUIStop (s : VpnExtension) : VpnExtension :=
  { s with uiStopSubscriber := false, uiStopResolve := false }

/-- The finally block of `runPhase3` after its cleanup. -/
def cleaned (s : VpnExtension) (reason : JsString) : VpnExtension :=
  { s.unsubscribeFromUIStop with
    phase3 := if reportsStopped reason then .publishing reason else .stoppingOwn reason }

/-- The UI stop promise is resolved if it still can be. -/
def resolveUIStop (s : VpnExtension) (reason : JsString) : VpnExtension :=
  { s with uiStop := if s.uiStopResolve then some reason else s.uiStop, uiStopResolve := false }

def onDestroy (s : VpnExtension) : VpnExtension :=
  (({ s with destroyRequested := true }.resolveUIStop systemStop).cleanupPhase3 false
    ).unsubscribeFromUIStop

/-- What `Promise.race` of `runVpnSession` finds settled, in the order of its array. -/
def raceResult (s : VpnExtension) : Option JsValue :=
  (s.control s.attempt).stop.or (s.uiStop.map .string)

end VpnExtension

/-- A task continues after a promise that has been settled; an event settles one. -/
inductive Turn where
  | task
  | event
  deriving DecidableEq, Repr

/-- A call that has something to wait for goes on by an event. -/
def Turn.after (pending : Bool) : Turn := if pending then event else task

/-- The labels that the results are about; every other move is `internal`. -/
inductive ExtensionLabel where
  | start (k : ℕ)
  | returns (k : ℕ) (reason : JsValue)
  | created (k : ℕ)
  | stopAcked (k : ℕ) (reason : JsValue)
  | uiStop
  | onDestroy
  | internal
  deriving DecidableEq, Repr

def ExtensionLabel.ofControl (k : ℕ) : Option JsValue → ExtensionLabel
  | some reason => stopAcked k reason
  | none => internal

inductive ExtensionMove (s : VpnExtension) : Turn → ExtensionLabel → VpnExtension → Prop
  -- `connect`
  | connected (here : s.phase3 = .session .connecting) :
      ExtensionMove s .event .internal { s with phase3 := .session .handshaking }
  | connectFails (here : s.phase3 = .session .connecting) :
      ExtensionMove s .event .internal s.connectFails
  | handshaken (here : s.phase3 = .session .handshaking)
      (settled : (s.control s.attempt).handshake = some true) :
      ExtensionMove s .task .internal
        { s with phase3 := .session (.reportStarting (s.control s.attempt).sends) }
  | rejected (here : s.phase3 = .session .handshaking)
      (settled : (s.control s.attempt).handshake = some false) :
      ExtensionMove s .task .internal s.connectFails
  | connectClosed {pending : Bool} (here : s.phase3 = .session (.connectClosing pending)) :
      ExtensionMove s (.after pending) .internal s.sessionFails
  -- the setup of `runVpnSession`
  | startingReported {sent : Bool} (connected : Bool)
      (here : s.phase3 = .session (.reportStarting sent)) :
      ExtensionMove s (.after sent) .internal (s.connectData connected)
  | controlProtected (here : s.phase3 = .session .protectControl) :
      ExtensionMove s .event .internal { s with phase3 := .session .protectData }
  | dataProtected (here : s.phase3 = .session .protectData) :
      ExtensionMove s .event .internal
        { s with phase3 := .session (if s.isolated then .generateVpnId else .create) }
  | vpnIdGenerated (id : JsString) (here : s.phase3 = .session .generateVpnId) :
      ExtensionMove s .event .internal (s.vpnIdGenerated id)
  | vpnCreates (pumpStarted : Bool) (here : s.phase3 = .session .create) :
      ExtensionMove s .event (.created s.attempt) (s.vpnCreates pumpStarted)
  | activeReported {sent : Bool} (here : s.phase3 = .session (.reportActive sent)) :
      ExtensionMove s (.after sent) .internal { s with phase3 := .session .racing }
  | setupFails {pc : SessionPc} (here : s.phase3 = .session pc) (fails : pc.mayFail = true) :
      ExtensionMove s .event .internal s.sessionFails
  -- the race of `runVpnSession`
  | returns {reason : JsValue} (here : s.phase3 = .session .racing)
      (settled : s.raceResult = some reason) :
      ExtensionMove s .task (.returns s.attempt reason) (s.sessionReturns reason)
  | pumpStops (errorCode : JsString) {reason : JsValue} (here : s.phase3 = .session .racing)
      (inspected : reason = .string
        (if s.destroyRequested then systemStop else jsString "pump_error:" ++ errorCode)) :
      ExtensionMove s .event (.returns s.attempt reason) (s.sessionReturns reason)
  -- the catch block of `runPhase3`
  | recoveryReported {sent : Bool} (here : s.phase3 = .recovering sent) :
      ExtensionMove s (.after sent) .internal s.recover
  | recovered (here : s.phase3 = .recoveryCleanup) (done : s.cleanup = none) :
      ExtensionMove s .task .internal { s with phase3 := .retryWait }
  | retryStopped {reason : JsString} (here : s.phase3 = .retryWait)
      (settled : s.uiStop = some reason) :
      ExtensionMove s .task .internal (s.finish reason)
  | start (here : s.phase3 = .retryWait) (goes : s.destroyRequested = false) :
      ExtensionMove s .event (.start (s.attempt + 1)) s.startSession
  | loopLeft (here : s.phase3 = .retryWait) (stops : s.destroyRequested = true) :
      ExtensionMove s .event .internal (s.finish systemStop)
  -- its finally block
  | cleaned {reason : JsString} (here : s.phase3 = .finalCleanup reason)
      (done : s.cleanup = none) :
      ExtensionMove s .task .internal (s.cleaned reason)
  | published {reason : JsString} (here : s.phase3 = .publishing reason) :
      ExtensionMove s .event .internal { s with phase3 := .stoppingOwn reason }
  | ownStopped {reason : JsString} (here : s.phase3 = .stoppingOwn reason) :
      ExtensionMove s .event .internal { s with phase3 := .returned reason }
  -- what comes from outside
  | control {k : ℕ} {l : Option JsValue} {c : ControlSession} (existing : k ≤ s.attempt)
      (moves : ControlStep (s.control k) l c) :
      ExtensionMove s .event (.ofControl k l) (s.setControl k c)
  | uiStop (subscribed : s.uiStopSubscriber = true) :
      ExtensionMove s .event .uiStop (s.resolveUIStop uiRequested)
  | onDestroy (once : s.destroyRequested = false) :
      ExtensionMove s .event .onDestroy s.onDestroy
  -- `performPhase3Cleanup`; a wait ends with its result or with its timeout
  | destroySettled {session : Option ℕ} {reportStopped : Bool}
      (here : s.cleanup = some (.destroying session reportStopped)) :
      ExtensionMove s .event .internal (s.cleanupSession session reportStopped)
  | stoppedReported {k : ℕ} {sent : Bool} (here : s.cleanup = some (.reporting k sent)) :
      ExtensionMove s (.after sent) .internal (s.cleanupClose k)
  | closed {pending : Bool} (here : s.cleanup = some (.closing pending)) :
      ExtensionMove s (.after pending) .internal { s with cleanup := none }

/-- Tasks before events: the continuation after a settled promise runs before the next callback. -/
def ExtensionStep : VpnExtension → ExtensionLabel → VpnExtension → Prop :=
  RunToCompletion (fun s => ExtensionMove s .task) (fun s => ExtensionMove s .event)

namespace VpnExtension

def mainReady (s : VpnExtension) : Bool :=
  match s.phase3 with
  | .session .handshaking => (s.control s.attempt).handshake.isSome
  | .session (.connectClosing pending) => !pending
  | .session (.reportStarting sent) => !sent
  | .session (.reportActive sent) => !sent
  | .session .racing => s.raceResult.isSome
  | .recovering sent => !sent
  | .recoveryCleanup => s.cleanup.isNone
  | .retryWait => s.uiStop.isSome
  | .finalCleanup _ => s.cleanup.isNone
  | _ => false

def cleanupReady (s : VpnExtension) : Bool :=
  match s.cleanup with
  | some (.reporting _ sent) => !sent
  | some (.closing pending) => !pending
  | _ => false

def ready (s : VpnExtension) : Bool := s.mainReady || s.cleanupReady

end VpnExtension

theorem Turn.after_eq_task {pending : Bool} : Turn.after pending = .task ↔ pending = false := by
  cases pending <;> simp [Turn.after]

theorem ExtensionMove.ready {s t : VpnExtension} {turn : Turn} {l : ExtensionLabel}
    (h : ExtensionMove s turn l t) (hturn : turn = .task) : s.ready = true := by
  cases h <;> simp_all [Turn.after_eq_task, VpnExtension.ready, VpnExtension.mainReady,
    VpnExtension.cleanupReady]

theorem exists_task_of_mainReady {s : VpnExtension} (h : s.mainReady = true) :
    ∃ l t, ExtensionMove s .task l t := by
  unfold VpnExtension.mainReady at h
  split at h
  · rename_i here
    obtain ⟨settled, hsettled⟩ := Option.isSome_iff_exists.mp h
    cases settled with
    | true => exact ⟨_, _, .handshaken here hsettled⟩
    | false => exact ⟨_, _, .rejected here hsettled⟩
  · rename_i here
    obtain rfl : _ = false := by simpa using h
    exact ⟨_, _, .connectClosed here⟩
  · rename_i here
    obtain rfl : _ = false := by simpa using h
    exact ⟨_, _, .startingReported true here⟩
  · rename_i here
    obtain rfl : _ = false := by simpa using h
    exact ⟨_, _, .activeReported here⟩
  · rename_i here
    obtain ⟨reason, hreason⟩ := Option.isSome_iff_exists.mp h
    exact ⟨_, _, .returns here hreason⟩
  · rename_i here
    obtain rfl : _ = false := by simpa using h
    exact ⟨_, _, .recoveryReported here⟩
  · rename_i here
    exact ⟨_, _, .recovered here (by simpa using h)⟩
  · rename_i here
    obtain ⟨reason, hreason⟩ := Option.isSome_iff_exists.mp h
    exact ⟨_, _, .retryStopped here hreason⟩
  · rename_i here
    exact ⟨_, _, .cleaned here (by simpa using h)⟩
  · simp at h

theorem exists_task_of_cleanupReady {s : VpnExtension} (h : s.cleanupReady = true) :
    ∃ l t, ExtensionMove s .task l t := by
  unfold VpnExtension.cleanupReady at h
  split at h
  · rename_i here
    obtain rfl : _ = false := by simpa using h
    exact ⟨_, _, .stoppedReported here⟩
  · rename_i here
    obtain rfl : _ = false := by simpa using h
    exact ⟨_, _, .closed here⟩
  · simp at h

/-- No task is left just when the state is not ready. -/
theorem quiet_iff (s : VpnExtension) : (∀ l t, ¬ ExtensionMove s .task l t) ↔ s.ready = false := by
  constructor
  · intro h
    by_contra hready
    have htrue : s.ready = true := by simpa using hready
    obtain ⟨l, t, htask⟩ := (Bool.or_eq_true_iff.mp htrue).elim exists_task_of_mainReady
      exists_task_of_cleanupReady
    exact h l t htask
  · intro h l t htask
    simp [htask.ready rfl] at h

/-- The fields that only their own callbacks change. -/
structure SameLoop (s t : VpnExtension) : Prop where
  destroyRequested : t.destroyRequested = s.destroyRequested
  uiStop : t.uiStop = s.uiStop
  uiStopResolve : t.uiStopResolve = s.uiStopResolve
  uiStopSubscriber : t.uiStopSubscriber = s.uiStopSubscriber
  attempt : t.attempt = s.attempt

namespace VpnExtension
variable (s : VpnExtension)

theorem cleanupSession_sameLoop (session : Option ℕ) (reportStopped : Bool) :
    SameLoop s (s.cleanupSession session reportStopped) := by
  unfold cleanupSession
  split <;> exact ⟨rfl, rfl, rfl, rfl, rfl⟩

theorem cleanupPhase3_sameLoop (reportStopped : Bool) :
    SameLoop s (s.cleanupPhase3 reportStopped) := by
  unfold cleanupPhase3 performPhase3Cleanup
  split_ifs
  · exact ⟨rfl, rfl, rfl, rfl, rfl⟩
  · split
    · exact ⟨rfl, rfl, rfl, rfl, rfl⟩
    · have h := cleanupSession_sameLoop s.takeFields s.controlSession reportStopped
      exact ⟨h.destroyRequested, h.uiStop, h.uiStopResolve, h.uiStopSubscriber, h.attempt⟩

theorem finish_sameLoop (reason : JsString) : SameLoop s (s.finish reason) := by
  have h := cleanupPhase3_sameLoop s (reportsStopped reason)
  exact ⟨h.destroyRequested, h.uiStop, h.uiStopResolve, h.uiStopSubscriber, h.attempt⟩

theorem recover_sameLoop : SameLoop s s.recover := by
  have h := cleanupPhase3_sameLoop s false
  exact ⟨h.destroyRequested, h.uiStop, h.uiStopResolve, h.uiStopSubscriber, h.attempt⟩

theorem sessionFails_sameLoop : SameLoop s s.sessionFails := by
  unfold sessionFails
  split_ifs
  · exact finish_sameLoop s systemStop
  · split
    · exact ⟨rfl, rfl, rfl, rfl, rfl⟩
    · exact recover_sameLoop s

theorem sessionReturns_sameLoop (reason : JsValue) : SameLoop s (s.sessionReturns reason) := by
  unfold sessionReturns
  split
  · split_ifs
    · exact sessionFails_sameLoop s
    · exact finish_sameLoop s _
  · exact sessionFails_sameLoop s

theorem connectData_sameLoop (connected : Bool) : SameLoop s (s.connectData connected) := by
  unfold connectData
  split_ifs
  · exact ⟨rfl, rfl, rfl, rfl, rfl⟩
  · exact sessionFails_sameLoop s

theorem vpnIdGenerated_sameLoop (id : JsString) : SameLoop s (s.vpnIdGenerated id) := by
  unfold vpnIdGenerated
  dsimp only
  split_ifs
  · have h := sessionFails_sameLoop
      { s.setVpn s.attempt { s.vpn s.attempt with vpnId := some id } with vpnId := some id }
    exact ⟨h.destroyRequested, h.uiStop, h.uiStopResolve, h.uiStopSubscriber, h.attempt⟩
  · exact ⟨rfl, rfl, rfl, rfl, rfl⟩

theorem vpnCreates_sameLoop (pumpStarted : Bool) : SameLoop s (s.vpnCreates pumpStarted) := by
  unfold vpnCreates
  dsimp only
  split_ifs
  · exact ⟨rfl, rfl, rfl, rfl, rfl⟩
  · have h := sessionFails_sameLoop
      { s.setVpn s.attempt { s.vpn s.attempt with created := true } with vpnCreated := true }
    exact ⟨h.destroyRequested, h.uiStop, h.uiStopResolve, h.uiStopSubscriber, h.attempt⟩

end VpnExtension

/-- What a move does to these fields: nothing, or what its callback does. -/
theorem ExtensionMove.loop_cases {s t : VpnExtension} {turn : Turn} {l : ExtensionLabel}
    (h : ExtensionMove s turn l t) :
    SameLoop s t ∨ t = s.startSession ∨ (∃ reason, t = s.cleaned reason) ∨
      t = s.resolveUIStop uiRequested ∨ t = s.onDestroy := by
  cases h with
  | connectClosed _ => exact .inl s.sessionFails_sameLoop
  | startingReported connected _ => exact .inl (s.connectData_sameLoop connected)
  | vpnIdGenerated id _ => exact .inl (s.vpnIdGenerated_sameLoop id)
  | vpnCreates pumpStarted _ => exact .inl (s.vpnCreates_sameLoop pumpStarted)
  | setupFails _ _ => exact .inl s.sessionFails_sameLoop
  | returns _ _ => exact .inl (s.sessionReturns_sameLoop _)
  | pumpStops _ _ _ => exact .inl (s.sessionReturns_sameLoop _)
  | recoveryReported _ => exact .inl s.recover_sameLoop
  | retryStopped _ _ => exact .inl (s.finish_sameLoop _)
  | start _ _ => exact .inr (.inl rfl)
  | loopLeft _ _ => exact .inl (s.finish_sameLoop _)
  | cleaned _ _ => exact .inr (.inr (.inl ⟨_, rfl⟩))
  | uiStop _ => exact .inr (.inr (.inr (.inl rfl)))
  | onDestroy _ => exact .inr (.inr (.inr (.inr rfl)))
  | destroySettled _ => exact .inl (s.cleanupSession_sameLoop _ _)
  | _ => exact .inl ⟨rfl, rfl, rfl, rfl, rfl⟩

namespace ExtensionStep
variable {s t : VpnExtension} {l : ExtensionLabel}

theorem task (h : ExtensionMove s .task l t) : ExtensionStep s l t := .inl h

theorem event (h : ExtensionMove s .event l t) (hquiet : s.ready = false) :
    ExtensionStep s l t := .inr ⟨h, (quiet_iff s).mpr hquiet⟩

theorem move (h : ExtensionStep s l t) :
    ∃ turn, ExtensionMove s turn l t ∧ (turn = .event → s.ready = false) := by
  obtain h | ⟨h, hquiet⟩ := h
  · exact ⟨.task, h, by simp⟩
  · exact ⟨.event, h, fun _ => (quiet_iff s).mp hquiet⟩

end ExtensionStep

end HarmonyNetBridge.Harmony
