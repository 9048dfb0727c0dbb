import HarmonyNetBridge.Daemon.Registry

/-! The snapshot mutations the daemon passes to `s.update`, and the decisions made just
before one of them. -/
namespace HarmonyNetBridge.Daemon

/-- `handleControlConnection` publishes the accepted session before HELLO_ACK. -/
def publishAccepted (mode : Mode) (isReconnect : Bool) (s : Snapshot) : Snapshot :=
  let accepted := { s with
    transport := .controlConnected
    reconnects := if isReconnect then s.reconnects + 1 else s.reconnects
    lastErrorCode := none
    lastError := "" }
  match mode with
  | .vpn => { accepted with
      vpn := .starting
      controlHeartbeatAt := none
      controlRTTMillis := 0
      dataHeartbeatAt := none
      dataRTTMillis := 0
      relay := {}
      message := "VPN control connected; waiting for native data channel" }
  | .phase1 => { accepted with
      vpn := .stopped
      message := "Phase 1 handshake completed (hello/world)" }

/-- `handleDataConnection` publishes inside its second section. -/
def publishAttached (s : Snapshot) : Snapshot :=
  { s with
    transport := .dataConnected
    vpn := .starting
    message := "VPN data channel authenticated; waiting for TUN"
    lastErrorCode := none
    lastError := "" }

/-- The switch of `applyVPNStatus` on the reported state. `UNAVAILABLE` is not accepted. -/
def reportedStatus (state : String) (proxyActive : Bool) : Option (VPNStatus × String) :=
  if state = VPNStatus.authRequired.text then
    some (.authRequired, "HarmonyOS is waiting for VPN authorization")
  else if state = VPNStatus.starting.text then
    some (.starting, "HarmonyOS is creating the VPN tunnel")
  else if state = VPNStatus.reconnecting.text then
    some (.reconnecting, "HarmonyOS is rebuilding the VPN after a transport interruption")
  else if state = VPNStatus.active.text then
    some (.active, if proxyActive then "IPv4 relay and HTTP(S) capture proxy are active"
      else "IPv4 TCP, UDP, and DNS relay is active")
  else if state = VPNStatus.stopped.text then
    some (.stopped, "HarmonyOS VPN stopped safely")
  else if state = VPNStatus.failed.text then
    some (.failed, "HarmonyOS reported a VPN failure")
  else none

/-- What `applyVPNStatus` decides about a decoded report from the values its section read.
`none` makes it return false; otherwise the status and message are published. -/
def acceptReport (report : Option VPNStatusPayload) (context : Bool × Bool) (proxyActive : Bool) :
    Option (VPNStatus × String) :=
  match report with
  | none => none
  | some report =>
    if 512 < report.message.utf8ByteSize then none
    else if context.1 = false ∨ (report.state = VPNStatus.active.text ∧ context.2 = false) then none
    else reportedStatus report.state proxyActive

def publishStatus (status : VPNStatus) (message : String) (s : Snapshot) : Snapshot :=
  { s with
    vpn := status
    message := message
    lastErrorCode := if status = .failed then some .vpnCreateFailed else none
    lastError := if status = .failed then message else "" }

/-- The publication of `releaseControl` for a session of the given mode. -/
def publishControlLoss (mode : Option Mode) (s : Snapshot) : Snapshot :=
  let released := { s with transport := .portReady }
  if mode = some .vpn ∧ s.vpn = .stopped then
    { released with
      message := "HarmonyOS VPN stopped; waiting for a new connection"
      lastErrorCode := none
      lastError := "" }
  else if mode = some .vpn then
    { released with
      vpn := .reconnecting
      message := "Harmony VPN control disconnected; waiting for automatic reconnect"
      lastErrorCode := some .appDisconnected
      lastError := "The Harmony VPN control connection closed" }
  else
    { released with
      vpn := .stopped
      message := "Harmony App disconnected; waiting for a new connection"
      lastErrorCode := some .appDisconnected
      lastError := "The Harmony App control connection closed" }

def publishDataLoss (failed : Bool) (s : Snapshot) : Snapshot :=
  if failed then
    { s with
      transport := .controlConnected
      vpn := .reconnecting
      message := "VPN data channel disconnected; waiting for automatic reconnect"
      lastErrorCode := some .appDisconnected
      lastError := "The Harmony VPN data connection closed" }
  else
    { s with
      transport := .controlConnected
      vpn := .stopped
      message := "VPN data channel stopped" }

def publishRelayStats (stats : RelayStats) (s : Snapshot) : Snapshot := { s with relay := stats }

inductive Channel where
  | control | data
  deriving DecidableEq, Repr

/-- `recordHeartbeat` for a PONG that answers the pending PING. -/
def publishHeartbeat (channel : Channel) (now milliseconds : ℤ) (s : Snapshot) : Snapshot :=
  match channel with
  | .control => { s with
      controlHeartbeatAt := some now, controlRTTMillis := max milliseconds 0 }
  | .data => { s with
      dataHeartbeatAt := some now, dataRTTMillis := max milliseconds 0 }

/-- The values that distinguish `markMappingUnavailable` from `markMappingAvailable`. -/
structure MappingMark where
  transport : TransportStatus
  message : String
  code : Option Code
  error : String
  deriving DecidableEq, Repr

def markMappingUnavailable : MappingMark where
  transport := .deviceOffline
  message := "USB bridge unavailable; waiting for the selected Harmony device to reconnect"
  code := some .rportFailed
  error := "The hdc reverse mapping is unavailable"

def markMappingAvailable : MappingMark where
  transport := .portReady
  message := "USB bridge restored; waiting for HarmonyNetBridge App to reconnect"
  code := none
  error := ""

/-- The VPN status a mark publishes, computed from the snapshot it read. -/
def MappingMark.vpn (current : Snapshot) : VPNStatus :=
  if current.vpn = .active ∨ current.vpn = .starting ∨ current.vpn = .authRequired then
    .reconnecting
  else current.vpn

/-- Whether the snapshot read already shows what the mark would publish. -/
def MappingMark.shown (mark : MappingMark) (current : Snapshot) : Bool :=
  current.transport = mark.transport ∧ current.vpn = MappingMark.vpn current ∧
    current.message = mark.message ∧ current.lastErrorCode = mark.code

def MappingMark.publish (mark : MappingMark) (vpn : VPNStatus) (s : Snapshot) : Snapshot :=
  { s with
    transport := mark.transport
    vpn := vpn
    message := mark.message
    lastErrorCode := mark.code
    lastError := mark.error }

def publishFailure (code : Code) (message : String) (s : Snapshot) : Snapshot :=
  { s with daemon := .failed, message := message, lastErrorCode := some code, lastError := message }

/-- `Run` publishes that the mapping is ready. -/
def publishRunning (hostPort : ℤ) (s : Snapshot) : Snapshot :=
  { s with
    daemon := .running
    transport := .portReady
    hostPort := hostPort
    message := "Waiting for HarmonyNetBridge App"
    lastErrorCode := none
    lastError := "" }

/-- A local stop request is published whatever the daemon status is. -/
def publishStopRequest (s : Snapshot) : Snapshot :=
  { s with daemon := .stopping, message := "Stopping HarmonyNetBridge" }

/-- `shutdown` keeps a failure. -/
def publishStopping (s : Snapshot) : Snapshot :=
  if s.daemon = .failed then s else publishStopRequest s

def publishProxyStatus (status : ProxyStatus) (s : Snapshot) : Snapshot :=
  { s with proxy := { s.proxy with status := status } }

def publishProxyGone (status : ProxyStatus) (s : Snapshot) : Snapshot :=
  { s with proxy := { s.proxy with status := status, pid := 0 } }

def publishProxyReady (info : ProxySnapshot) (s : Snapshot) : Snapshot :=
  { s with proxy := info, message := "Local capture proxy ready; preparing the USB bridge" }

/-- The orphan recorded by the previous run could not be recovered. -/
def publishRecoveryFailure (previous : ProxySnapshot) (s : Snapshot) : Snapshot :=
  { s with proxy := { previous with status := .failed } }

/-- The status that is published is the one the report names. -/
theorem acceptReport_state {report : Option VPNStatusPayload} {context : Bool × Bool}
    {proxyActive : Bool} {status : VPNStatus} {message : String}
    (h : acceptReport report context proxyActive = some (status, message)) :
    ∃ payload, report = some payload ∧ payload.state = status.text := by
  unfold acceptReport at h
  split at h
  · cases h
  next payload =>
    refine ⟨payload, rfl, ?_⟩
    split at h
    · cases h
    split at h
    · cases h
    unfold reportedStatus at h
    repeat' split at h
    all_goals
      cases h
      try assumption

@[simp] theorem publishAccepted_transport (mode : Mode) (isReconnect : Bool) (s : Snapshot) :
    (publishAccepted mode isReconnect s).transport = .controlConnected := by
  cases mode <;> rfl

@[simp] theorem publishControlLoss_transport (mode : Option Mode) (s : Snapshot) :
    (publishControlLoss mode s).transport = .portReady := by
  unfold publishControlLoss
  dsimp only
  repeat' split
  all_goals rfl

@[simp] theorem publishDataLoss_transport (failed : Bool) (s : Snapshot) :
    (publishDataLoss failed s).transport = .controlConnected := by
  cases failed <;> rfl

/-- A released VPN session ends as stopped only if the snapshot said so already. -/
theorem publishControlLoss_vpn (s : Snapshot) :
    (publishControlLoss (some .vpn) s).vpn = if s.vpn = .stopped then .stopped else .reconnecting := by
  by_cases h : s.vpn = .stopped <;> simp [publishControlLoss, h]

theorem publishControlLoss_vpn_ne_active (mode : Option Mode) (s : Snapshot) :
    (publishControlLoss mode s).vpn ≠ .active := by
  unfold publishControlLoss
  dsimp only
  split
  next h => rw [h.2]; simp
  · split <;> simp

theorem MappingMark.vpn_ne_active (current : Snapshot) : MappingMark.vpn current ≠ .active := by
  unfold MappingMark.vpn
  split
  · simp
  next h => exact fun ha => h (.inl ha)

end HarmonyNetBridge.Daemon
