import HarmonyNetBridge.Daemon.Machine

/-! One goroutine of `handleDevice`: `handleControlConnection`, `applyVPNStatus` and
`releaseControl` for a control connection, `handleDataConnection` and `releaseData` for a data
connection. A critical section, a snapshot update, a `Close` and a result of the socket are one
step each; the section of `applyVPNStatus` is made in the step that reads the report. -/
namespace HarmonyNetBridge.Daemon

/-- What a device goroutine does next, with what it gets from outside. -/
inductive DeviceEvent where
  | accept
  | drop
  | authorize (authorization : String) (accepted : Bool)
  | hello (payload : Option Hello)
  | createToken (random : Option (List UInt8))
  | register
  | publishAccepted
  | helloAck (written : Bool)
  | controlFrame (frame : Option (UInt32 × ControlFrame))
  | publishHeartbeat
  | publishStatus
  | readPrevious
  | releaseControl
  | closeData
  | closeRelay
  | publishControlLoss
  | dataHello (payload : Option DataHello)
  | bindData
  | newRelay (relay : Option RelayId)
  | attachRelay
  | discardRelay
  | dataAck (written : Bool)
  | dataFrame (frame : Option (UInt32 × DataFrame))
  | releaseData
  | closeConnection
  | publishRelayStats (stats : RelayStats)
  | publishDataLoss
  deriving DecidableEq

/-- One round of the control loop on what `ReadFrame` returned; `none` is an error. A PING and
a PONG are accepted in mode `vpn` only, and so is a report. -/
def controlLoop (r : Registry) (c : Conn) (proxyActive : Bool) (mode : Mode)
    (expectedSequence : UInt32) : Option (UInt32 × ControlFrame) → Handler
  | none => .returning mode
  | some (sequence, frame) =>
    if sequence ≠ expectedSequence then .returning mode
    else
      let expected := nextSequence expectedSequence
      match mode, frame with
      | .vpn, .pong none => .serving .vpn expected
      | .vpn, .pong (some (now, milliseconds)) => .beating .vpn expected now milliseconds
      | .vpn, .ping size answered =>
        if size ≠ 8 ∨ answered = false then .returning .vpn else .serving .vpn expected
      | .vpn, .vpnStatus report =>
        match acceptReport report (r.statusContext c) proxyActive with
        | none => .returning .vpn
        | some (status, message) => .reporting expected status message
      | mode, _ => .returning mode

def dataLoop (token : String) (relay : RelayId) (expectedSequence : UInt32) :
    Option (UInt32 × DataFrame) → Handler
  | none => .dataReturning token (some relay)
  | some (sequence, frame) =>
    if sequence ≠ expectedSequence then .dataReturning token (some relay)
    else
      let expected := nextSequence expectedSequence
      match frame with
      | .ipPacket size injected =>
        if size = 0 ∨ injected = false then .dataReturning token (some relay)
        else .forwarding token relay expected
      | .pong none => .forwarding token relay expected
      | .pong (some (now, milliseconds)) => .dataBeating token relay expected now milliseconds
      | .ping size answered =>
        if size ≠ 8 ∨ answered = false then .dataReturning token (some relay)
        else .forwarding token relay expected
      | .other => .dataReturning token (some relay)

/-- A refused HELLO is answered with an error and the goroutine returns. -/
def afterHello (payload : Option Hello) : Handler :=
  match checkHello payload with
  | .ok mode => .creatingToken mode
  | .error _ => .returned

def afterDataHello (payload : Option DataHello) : Handler :=
  match checkDataHello payload with
  | .ok token => .binding token
  | .error _ => .returned

/-- `releaseControl` publishes unless the daemon is stopping. -/
def afterControlRelease (release : ControlRelease) : Handler :=
  if release.stopping then .returned else .publishingControlLoss release.mode

/-- `releaseData` publishes only for a session whose control connection was still there. -/
def afterDataRelease (token : String) (release : DataRelease) : Handler :=
  if release.controlConnected && !release.stopping then .publishingDataLoss token else .returned

/-- The statistics of a relay that is about to be closed are published. -/
def publishFinalStats (relay : Option RelayId) (stats : RelayStats) (s : State) : State :=
  if relay.isSome then s.update (publishRelayStats stats) else s

@[simps!] def State.goto (s : State) (c : Conn) (handler : Handler) : State :=
  s.withSessions (s.sessions.goto c handler)

open State Sessions

inductive DeviceStep (c : Conn) (s : State) : DeviceEvent → State → Prop
  | accept (pc : s.sessions.handlers c = .idle) (listening : s.acceptingDevice = true) :
      DeviceStep c s .accept (s.goto c .accepted)
  | drop (pc : s.sessions.handlers c = .accepted) : DeviceStep c s .drop (s.goto c .returned)
  | authorize (pc : s.sessions.handlers c = .accepted) (authorization : String) :
      DeviceStep c s (.authorize authorization
        (s.sessions.registry.validControlAuthorization authorization)) (s.goto c .returned)
  | hello (pc : s.sessions.handlers c = .accepted) (payload : Option Hello) :
      DeviceStep c s (.hello payload) (s.goto c (afterHello payload))
  | noToken {mode : Mode} (pc : s.sessions.handlers c = .creatingToken mode) :
      DeviceStep c s (.createToken none) (s.goto c .returned)
  /-- Sixteen random bytes, assumed never to give a token that was given before. -/
  | createToken {mode : Mode} (pc : s.sessions.handlers c = .creatingToken mode)
      (random : List UInt8) (size : random.length = 16)
      (fresh : newSessionToken random ∉ s.sessions.issued) :
      DeviceStep c s (.createToken (some random)) (s.withSessions
        ((s.sessions.withToken (newSessionToken random)).goto c
          (.registering mode (newSessionToken random))))
  | busy {mode : Mode} {token : String} (pc : s.sessions.handlers c = .registering mode token)
      (refused : s.sessions.registry.registerControl c mode token = none) :
      DeviceStep c s .register (s.goto c .returned)
  | register {mode : Mode} {token : String} {r : Registry} {isReconnect : Bool}
      (pc : s.sessions.handlers c = .registering mode token)
      (taken : s.sessions.registry.registerControl c mode token = some (r, isReconnect)) :
      DeviceStep c s .register (s.withSessions
        ((s.sessions.withRegistry r (.opened c mode token)).goto c
          (.publishingAccepted mode token isReconnect s.proxySession.isSome)))
  | publishAccepted {mode : Mode} {token : String} {isReconnect proxyEnabled : Bool}
      (pc : s.sessions.handlers c = .publishingAccepted mode token isReconnect proxyEnabled) :
      DeviceStep c s .publishAccepted ((s.update (publishAccepted mode isReconnect)).goto c
        (.acknowledging mode (helloAck mode token proxyEnabled s.config.mtu)))
  | helloAck {mode : Mode} {ack : HelloAck} (pc : s.sessions.handlers c = .acknowledging mode ack)
      (written : Bool) : DeviceStep c s (.helloAck written)
        (s.goto c (if written then .serving mode 2 else .returning mode))
  | controlFrame {mode : Mode} {expected : UInt32}
      (pc : s.sessions.handlers c = .serving mode expected)
      (frame : Option (UInt32 × ControlFrame)) :
      DeviceStep c s (.controlFrame frame) (s.goto c
        (controlLoop s.sessions.registry c s.proxySession.isSome mode expected frame))
  | publishHeartbeat {mode : Mode} {expected : UInt32} {now milliseconds : ℤ}
      (pc : s.sessions.handlers c = .beating mode expected now milliseconds) :
      DeviceStep c s .publishHeartbeat
        ((s.update (publishHeartbeat .control now milliseconds)).goto c (.serving mode expected))
  | publishStatus {expected : UInt32} {status : VPNStatus} {message : String}
      (pc : s.sessions.handlers c = .reporting expected status message) :
      DeviceStep c s .publishStatus
        ((s.update (publishStatus status message)).goto c (.serving .vpn expected))
  | readPrevious {mode : Mode} (pc : s.sessions.handlers c = .returning mode) :
      DeviceStep c s .readPrevious (s.goto c (.releasing mode s.snapshot.vpn))
  | notControl {mode : Mode} {previous : VPNStatus}
      (pc : s.sessions.handlers c = .releasing mode previous)
      (refused : s.sessions.registry.releaseControl c previous = none) :
      DeviceStep c s .releaseControl (s.goto c .returned)
  | releaseControl {mode : Mode} {previous : VPNStatus} {r : Registry} {release : ControlRelease}
      (pc : s.sessions.handlers c = .releasing mode previous)
      (taken : s.sessions.registry.releaseControl c previous = some (r, release)) :
      DeviceStep c s .releaseControl (s.withSessions
        ((s.sessions.withRegistry r (.closed c)).goto c (.closingData release)))
  | closeData {release : ControlRelease} (pc : s.sessions.handlers c = .closingData release) :
      DeviceStep c s .closeData (s.withSessions
        ((s.sessions.closeConn release.data).goto c (.closingRelay release)))
  | closeRelay {release : ControlRelease} (pc : s.sessions.handlers c = .closingRelay release) :
      DeviceStep c s .closeRelay (s.withSessions
        ((s.sessions.closeRelay release.relay).goto c (afterControlRelease release)))
  | publishControlLoss {mode : Option Mode}
      (pc : s.sessions.handlers c = .publishingControlLoss mode) :
      DeviceStep c s .publishControlLoss ((s.update (publishControlLoss mode)).goto c .returned)
  | dataHello (pc : s.sessions.handlers c = .accepted) (payload : Option DataHello) :
      DeviceStep c s (.dataHello payload) (s.goto c (afterDataHello payload))
  | rejectData {token : String} (pc : s.sessions.handlers c = .binding token)
      (refused : s.sessions.registry.bindData c token = none) :
      DeviceStep c s .bindData (s.goto c .returned)
  | bindData {token : String} {r : Registry} (pc : s.sessions.handlers c = .binding token)
      (taken : s.sessions.registry.bindData c token = some r) :
      DeviceStep c s .bindData (s.withSessions
        ((s.sessions.withRegistry r (.bound c token)).goto c (.creatingRelay token)))
  | noRelay {token : String} (pc : s.sessions.handlers c = .creatingRelay token) :
      DeviceStep c s (.newRelay none) (s.goto c (.dataReturning token none))
  /-- Each relay is a new one. -/
  | newRelay {token : String} (pc : s.sessions.handlers c = .creatingRelay token)
      {relay : RelayId} (fresh : relay ∉ s.sessions.created) :
      DeviceStep c s (.newRelay (some relay)) (s.withSessions
        ((s.sessions.create relay).goto c (.attaching token relay)))
  | notAttached {token : String} {relay : RelayId}
      (pc : s.sessions.handlers c = .attaching token relay)
      (refused : s.sessions.registry.attachRelay c relay = none) :
      DeviceStep c s .attachRelay (s.goto c (.discarding relay))
  /-- The update is made inside the section. -/
  | attachRelay {token : String} {relay : RelayId} {r : Registry}
      (pc : s.sessions.handlers c = .attaching token relay)
      (taken : s.sessions.registry.attachRelay c relay = some r) :
      DeviceStep c s .attachRelay ((s.update publishAttached).withSessions
        ((s.sessions.withRegistry r (.attached c relay)).goto c (.dataAcknowledging token relay)))
  | discardRelay {relay : RelayId} (pc : s.sessions.handlers c = .discarding relay) :
      DeviceStep c s .discardRelay (s.withSessions
        ((s.sessions.closeRelay (some relay)).goto c .returned))
  | dataAck {token : String} {relay : RelayId}
      (pc : s.sessions.handlers c = .dataAcknowledging token relay) (written : Bool) :
      DeviceStep c s (.dataAck written) (s.goto c
        (if written then .forwarding token relay 2 else .dataReturning token (some relay)))
  | dataFrame {token : String} {relay : RelayId} {expected : UInt32}
      (pc : s.sessions.handlers c = .forwarding token relay expected)
      (frame : Option (UInt32 × DataFrame)) :
      DeviceStep c s (.dataFrame frame) (s.goto c (dataLoop token relay expected frame))
  | publishDataHeartbeat {token : String} {relay : RelayId} {expected : UInt32}
      {now milliseconds : ℤ}
      (pc : s.sessions.handlers c = .dataBeating token relay expected now milliseconds) :
      DeviceStep c s .publishHeartbeat ((s.update (publishHeartbeat .data now milliseconds)).goto c
        (.forwarding token relay expected))
  | notData {token : String} {relay : Option RelayId}
      (pc : s.sessions.handlers c = .dataReturning token relay)
      (refused : s.sessions.registry.releaseData c = none) :
      DeviceStep c s .releaseData (s.goto c .returned)
  | releaseData {token : String} {relay : Option RelayId} {r : Registry} {release : DataRelease}
      (pc : s.sessions.handlers c = .dataReturning token relay)
      (taken : s.sessions.registry.releaseData c = some (r, release)) :
      DeviceStep c s .releaseData (s.withSessions
        ((s.sessions.withRegistry r (.detached c)).goto c (.dataClosing token release)))
  | closeConnection {token : String} {release : DataRelease}
      (pc : s.sessions.handlers c = .dataClosing token release) :
      DeviceStep c s .closeConnection (s.withSessions
        ((s.sessions.closeConn (some c)).goto c (.dataReporting token release)))
  | publishRelayStats {token : String} {release : DataRelease}
      (pc : s.sessions.handlers c = .dataReporting token release) (stats : RelayStats) :
      DeviceStep c s (.publishRelayStats stats)
        ((publishFinalStats release.relay stats s).goto c (.dataClosingRelay token release))
  | closeDataRelay {token : String} {release : DataRelease}
      (pc : s.sessions.handlers c = .dataClosingRelay token release) :
      DeviceStep c s .closeRelay (s.withSessions
        ((s.sessions.closeRelay release.relay).goto c (afterDataRelease token release)))
  /-- Every call of `releaseData` passes `failed = true`. -/
  | publishDataLoss {token : String} (pc : s.sessions.handlers c = .publishingDataLoss token) :
      DeviceStep c s .publishDataLoss ((s.update (publishDataLoss true)).goto c .returned)

end HarmonyNetBridge.Daemon
