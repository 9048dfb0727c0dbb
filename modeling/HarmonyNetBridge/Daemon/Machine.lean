import Mathlib.Logic.Function.Basic
import HarmonyNetBridge.Daemon.Publish
import HarmonyNetBridge.Daemon.SessionSpec

/-! The state of one daemon process: where each goroutine stands in the code, the fields of
`Server` they share, and the two files that daemons with the same paths share. -/
namespace HarmonyNetBridge.Daemon

/-- The receiver's next sequence. Zero is never used. -/
def nextSequence (sequence : UInt32) : UInt32 := if sequence = 0xFFFFFFFF then 1 else sequence + 1

/-- A frame on an established control connection. A PONG that answers the pending PING brings
the time of its arrival and the round trip; a PING brings its payload size and whether the
reply could be written. -/
inductive ControlFrame where
  | stopAck
  | pong (heartbeat : Option (ℤ × ℤ))
  | ping (size : ℕ) (answered : Bool)
  | vpnStatus (report : Option VPNStatusPayload)
  | error
  | other
  deriving DecidableEq, Repr

/-- A frame on an established data connection. -/
inductive DataFrame where
  | ipPacket (size : ℕ) (injected : Bool)
  | pong (heartbeat : Option (ℤ × ℤ))
  | ping (size : ℕ) (answered : Bool)
  | other
  deriving DecidableEq, Repr

/-- The goroutine of one device connection. The arguments are its local variables. -/
inductive Handler where
  | idle
  | accepted
  | creatingToken (mode : Mode)
  | registering (mode : Mode) (token : String)
  | publishingAccepted (mode : Mode) (token : String) (isReconnect proxyEnabled : Bool)
  | acknowledging (mode : Mode) (ack : HelloAck)
  | serving (mode : Mode) (expectedSequence : UInt32)
  | beating (mode : Mode) (expectedSequence : UInt32) (now milliseconds : ℤ)
  | reporting (expectedSequence : UInt32) (status : VPNStatus) (message : String)
  | returning (mode : Mode)
  | releasing (mode : Mode) (previous : VPNStatus)
  | closingData (release : ControlRelease)
  | closingRelay (release : ControlRelease)
  | publishingControlLoss (mode : Option Mode)
  | binding (token : String)
  | creatingRelay (token : String)
  | attaching (token : String) (relay : RelayId)
  | discarding (relay : RelayId)
  | dataAcknowledging (token : String) (relay : RelayId)
  | forwarding (token : String) (relay : RelayId) (expectedSequence : UInt32)
  | dataBeating (token : String) (relay : RelayId) (expectedSequence : UInt32)
      (now milliseconds : ℤ)
  | dataReturning (token : String) (relay : Option RelayId)
  | dataClosing (token : String) (release : DataRelease)
  | dataReporting (token : String) (release : DataRelease)
  | dataClosingRelay (token : String) (release : DataRelease)
  | publishingDataLoss (token : String)
  | returned

namespace Handler

/-- The mode of a control session whose `releaseControl` has not made its section yet. -/
def controlSide : Handler → Option Mode
  | publishingAccepted mode .. | acknowledging mode _ | serving mode _ | beating mode ..
  | returning mode | releasing mode _ => some mode
  | reporting .. => some .vpn
  | _ => none

/-- The token and the relay of a data channel whose `releaseData` has not made its section
yet. -/
def dataSide : Handler → Option (String × Option RelayId)
  | creatingRelay token | attaching token _ => some (token, none)
  | dataAcknowledging token relay | forwarding token relay _ | dataBeating token relay .. =>
    some (token, some relay)
  | dataReturning token relay => some (token, relay)
  | _ => none

/-- The relay this goroutine has taken over and has yet to close or to publish. -/
def relay : Handler → Option RelayId
  | attaching _ relay | discarding relay => some relay
  | closingData release | closingRelay release => release.relay
  | dataClosing _ release | dataReporting _ release | dataClosingRelay _ release => release.relay
  | _ => none

/-- The token of a HELLO that is not registered yet. -/
def freshToken : Handler → Option String
  | registering _ token => some token
  | _ => none

end Handler

/-- What the device goroutines share under `s.mu`, and a record of what they did: tokens drawn,
relays created, how often each was closed, connections the Mac closed and the changes of the
registry in their order. -/
structure Sessions where
  registry : Registry := {}
  handlers : Conn → Handler := fun _ => .idle
  issued : List String := []
  created : List RelayId := []
  closes : RelayId → ℕ := fun _ => 0
  closed : List Conn := []
  history : List (SessionSpec.Event Conn String RelayId) := []

structure Mapping where
  devicePort : ℤ
  hostPort : ℤ
  deriving DecidableEq, Repr

inductive ForwarderCall where
  | addReverse (target : String) (mapping : Mapping) (ok : Bool)
  | hasReverse (target : String) (mapping : Mapping) (present : Option Bool)
  | remove (target : String) (mapping : Mapping) (ok : Bool)
  deriving DecidableEq, Repr

/-- What a mark of the mapping monitor is followed by. -/
inductive Resume where
  | wait (unavailable : Bool)
  | restore
  deriving DecidableEq, Repr

inductive Monitor where
  | off
  | waiting (unavailable : Bool)
  | checking (unavailable : Bool)
  | checked (unavailable : Bool) (present : Option Bool)
  | marking (mark : MappingMark) (resume : Resume)
  | comparing (mark : MappingMark) (resume : Resume)
  | publishing (mark : MappingMark) (vpn : VPNStatus) (resume : Resume)
  | restoring
  | restored (ok : Bool)
  | returned

def Monitor.resume : Resume → Monitor
  | .wait unavailable => .waiting unavailable
  | .restore => .restoring

inductive Request where
  | idle
  | refreshing
  | publishingStats
  | answering
  | publishingStop
  | answeringStop
  | requestingStop (answer : Snapshot)
  | returned (answer : Option Snapshot)

/-- The local variables of `shutdown` after its section. -/
structure Taken where
  control : Option Conn
  writer : Option Conn
  stopAck : Option Conn
  data : Option Conn
  relay : Option RelayId
  proxy : Option ProxySnapshot
  monitor : Bool
  deriving DecidableEq, Repr

/-- The goroutine of `Run`, with `listenControlSocket` and the deferred `shutdown`. -/
inductive Main where
  | ensuringPaths
  | listeningDevice
  | inspecting
  | probing
  | removingStale
  | binding
  | protecting
  | closingUnprotected
  | removingUnprotected
  | closingDeviceUnbound
  | reading
  | persisting
  | closingUnpersisted
  | closingDeviceUnpersisted
  | removingUnpersisted
  | recoveringProxy
  | publishingRecoveryFailure
  | startingProxy
  | publishingStartFailure
  | publishingProxy (info : ProxySnapshot)
  | removingStaleMapping
  | addingReverse
  | publishingRunning
  | startingMonitor
  | startingServers
  | serving
  | publishingProxyExit
  | failing (code : Code) (message : String)
  | takingSessions
  | cancellingMonitor (taken : Taken)
  | awaitingMonitor (taken : Taken)
  | publishingStopping (taken : Taken)
  | sendingStop (taken : Taken)
  | closingData (taken : Taken)
  | closingRelay (taken : Taken)
  | closingControl (taken : Taken)
  | closingDeviceListener (taken : Taken)
  | closingControlListener (taken : Taken)
  | closingProxy (taken : Taken)
  | publishingProxyFailure
  | failingProxy
  | checkingProxy
  | publishingProxyOff
  | removingMapping
  | failingMapping
  | removingSocket
  | checkingFailure
  | removingState
  | finished
  | exited

/-- The relay `shutdown` has taken over and has yet to close. -/
def Main.relay : Main → Option RelayId
  | cancellingMonitor taken | awaitingMonitor taken | publishingStopping taken
  | sendingStop taken | closingData taken | closingRelay taken => taken.relay
  | _ => none

/-- What is found at the path of the control socket. A socket is identified by the process
that bound it. -/
inductive ControlPath where
  | absent
  | file
  | socket (owner : ℕ)
  deriving DecidableEq, Repr

/-- A decoded state file and the process that wrote it. -/
structure StateRecord where
  writer : ℕ
  snapshot : Snapshot
  deriving DecidableEq, Repr

/-- The files under `Paths`, the processes whose control listener is open, and whether
writing the state file succeeds at present. -/
structure Files where
  control : ControlPath
  listening : ℕ → Bool
  stateFile : Option StateRecord
  writable : Bool

namespace Files

def stale (files : Files) : Bool :=
  match files.control with
  | .socket owner => !files.listening owner
  | _ => false

/-- `state.WriteFile` replaces the whole file or leaves the old one. -/
def writeState (files : Files) (pid : ℕ) (snapshot : Snapshot) : Files :=
  if files.writable then { files with stateFile := some ⟨pid, snapshot⟩ } else files

def removeState (files : Files) : Files := { files with stateFile := none }

/-- `os.Remove` of the control path, whoever bound it. -/
def removeControl (files : Files) : Files := { files with control := .absent }

def bind (files : Files) (pid : ℕ) : Files :=
  { files with control := .socket pid, listening := Function.update files.listening pid true }

/-- Closing a Unix listener unlinks its path by name. -/
def closeListener (files : Files) (pid : ℕ) : Files :=
  { files with control := .absent, listening := Function.update files.listening pid false }

end Files

/-- The part of `Config` that the daemon logic reads. -/
structure Config where
  deviceID : String
  deviceLabel : String
  devicePort : ℤ
  mtu : ℤ
  proxyFactory : Bool
  proxyRecovery : Bool
  deriving DecidableEq, Repr

/-- `monitoring` is `mappingDone != nil`, `cancelled` that `mappingCancel` was called. -/
structure State where
  pid : ℕ
  config : Config
  files : Files
  sessions : Sessions := {}
  snapshot : Snapshot
  previous : Option Snapshot := none
  mapping : Mapping := ⟨0, 0⟩
  mappingAdded : Bool := false
  proxySession : Option ProxySnapshot := none
  monitoring : Bool := false
  cancelled : Bool := false
  ctxDone : Bool := false
  stopRequested : Bool := false
  acceptingDevice : Bool := false
  acceptingControl : Bool := false
  calls : List ForwarderCall := []
  requests : ℕ → Request := fun _ => .idle
  monitor : Monitor := .off
  main : Main := .ensuringPaths

namespace State

/-- A process that is about to call `Run`. -/
def start (pid : ℕ) (config : Config) (files : Files) : State where
  pid := pid
  config := config
  files := files
  snapshot := newStarting config.deviceLabel config.devicePort

/-- `s.update`: the store and the state file change together under `stateMu`. -/
@[simps] def update (s : State) (mutate : Snapshot → Snapshot) : State :=
  { s with
    snapshot := mutate s.snapshot
    files := s.files.writeState s.pid (mutate s.snapshot) }

@[simps] def withSessions (s : State) (x : Sessions) : State := { s with sessions := x }

@[simps] def withMain (s : State) (main : Main) : State := { s with main := main }

@[simps] def withMonitor (s : State) (monitor : Monitor) : State := { s with monitor := monitor }

@[simps] def withFiles (s : State) (files : Files) : State := { s with files := files }

@[simps] def call (s : State) (call : ForwarderCall) : State :=
  { s with calls := s.calls ++ [call] }

def answer (s : State) (i : ℕ) (request : Request) : State :=
  { s with requests := Function.update s.requests i request }

end State

namespace Sessions

@[simps] def goto (x : Sessions) (c : Conn) (handler : Handler) : Sessions :=
  { x with handlers := Function.update x.handlers c handler }

@[simps] def withToken (x : Sessions) (token : String) : Sessions :=
  { x with issued := x.issued ++ [token] }

@[simps] def withRegistry (x : Sessions) (registry : Registry)
    (event : SessionSpec.Event Conn String RelayId) : Sessions :=
  { x with registry := registry, history := x.history ++ [event] }

@[simps] def create (x : Sessions) (relay : RelayId) : Sessions :=
  { x with created := x.created ++ [relay] }

@[simps] def closeRelay (x : Sessions) (relay : Option RelayId) : Sessions :=
  { x with closes := fun r => if relay = some r then x.closes r + 1 else x.closes r }

@[simps] def closeConn (x : Sessions) (c : Option Conn) : Sessions :=
  { x with closed := x.closed ++ c.toList }

end Sessions
end HarmonyNetBridge.Daemon
