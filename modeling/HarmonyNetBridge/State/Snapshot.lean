import Mathlib.Data.Int.Notation
import Mathlib.Tactic.Common

/-! Daemon, transport, VPN and proxy status, kept independently of each other, and the
snapshot that `status` returns and the daemon persists for diagnostics. -/
namespace HarmonyNetBridge

inductive DaemonStatus where
  | stopped | starting | running | stopping | failed
  deriving DecidableEq, Repr

inductive TransportStatus where
  | noDevice | deviceOffline | portReady | controlConnected | dataConnected
  deriving DecidableEq, Repr

inductive VPNStatus where
  | unavailable | authRequired | starting | reconnecting | active | stopped | failed
  deriving DecidableEq, Repr

inductive ProxyStatus where
  | off | starting | active | failed
  deriving DecidableEq, Repr

/-- The text a status has on the wire and in the state file. -/
def VPNStatus.text : VPNStatus → String
  | .unavailable => "UNAVAILABLE"
  | .authRequired => "AUTH_REQUIRED"
  | .starting => "STARTING"
  | .reconnecting => "RECONNECTING"
  | .active => "ACTIVE"
  | .stopped => "STOPPED"
  | .failed => "FAILED"

theorem VPNStatus.text_injective : Function.Injective VPNStatus.text := by
  intro a b h
  cases a <;> cases b <;> first | rfl | simp [VPNStatus.text] at h

/-- Stable error identifiers of package `apperror`. -/
inductive Code where
  | hdcNotFound | noDevice | deviceOffline | multipleDevices | deviceNotFound | portConflict
  | rportFailed | handshakeTimeout | versionUnsupported | appDisconnected | vpnDenied
  | vpnAlreadyActive | vpnCreateFailed | vpnProtectFailed | proxyUnavailable | daemonRunning
  | daemonUnavailable | internal
  deriving DecidableEq, Repr

/-- Aggregate, payload-free counters of one packet relay. -/
structure RelayStats where
  packetsFromDevice : UInt64 := 0
  bytesFromDevice : UInt64 := 0
  packetsToDevice : UInt64 := 0
  bytesToDevice : UInt64 := 0
  tcpFlows : UInt64 := 0
  udpFlows : UInt64 := 0
  dnsQueries : UInt64 := 0
  proxyTCPFlows : UInt64 := 0
  blockedQUICFlows : UInt64 := 0
  deriving DecidableEq, Repr

/-- Process metadata of the capture proxy, as needed for status and crash recovery. -/
structure ProxySnapshot where
  enabled : Bool := false
  status : ProxyStatus := .off
  pid : ℤ := 0
  executable : String := ""
  listenPort : ℤ := 0
  webPort : ℤ := 0
  openBrowser : Bool := false
  captureFile : String := ""
  caCertFile : String := ""
  confDir : String := ""
  upstreamURL : String := ""
  sslInsecure : Bool := false
  interceptPorts : List ℤ := []
  deriving DecidableEq, Repr

/-- An empty string of the source, as `LastErrorCode` without an error, is `none` here, and
so is the zero `time.Time` of a heartbeat that was never recorded. -/
structure Snapshot where
  daemon : DaemonStatus
  transport : TransportStatus
  vpn : VPNStatus
  device : String
  devicePort : ℤ
  hostPort : ℤ := 0
  mtu : ℤ := 0
  reconnects : UInt64 := 0
  controlHeartbeatAt : Option ℤ := none
  controlRTTMillis : ℤ := 0
  dataHeartbeatAt : Option ℤ := none
  dataRTTMillis : ℤ := 0
  relay : RelayStats := {}
  proxy : ProxySnapshot := {}
  message : String := ""
  lastErrorCode : Option Code := none
  lastError : String := ""
  deriving DecidableEq, Repr

/-- The first daemon state. It records no host port. -/
def newStarting (device : String) (devicePort : ℤ) : Snapshot where
  daemon := .starting
  transport := .noDevice
  vpn := .stopped
  device := device
  devicePort := devicePort
  message := "Starting HarmonyNetBridge"

end HarmonyNetBridge
