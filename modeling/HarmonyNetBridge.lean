import HarmonyNetBridge.Relay.QuestionName
import HarmonyNetBridge.Relay.ResolverChoice
import HarmonyNetBridge.Proxy.CheckedAccess
import HarmonyNetBridge.Proxy.Segmentation
import HarmonyNetBridge.Proxy.Lifecycle
import HarmonyNetBridge.Relay.ScutilBlocks
import HarmonyNetBridge.Daemon.CleanStop
import HarmonyNetBridge.Daemon.LiveTransport
import HarmonyNetBridge.Daemon.HandshakeLoss
import HarmonyNetBridge.Daemon.MappingStatus
import HarmonyNetBridge.Daemon.OwnedMappings
import HarmonyNetBridge.Daemon.StateRemoval
import HarmonyNetBridge.Daemon.ControlFraming
import HarmonyNetBridge.Daemon.BrokenFrame
import HarmonyNetBridge.Harmony.MalformedInput
import HarmonyNetBridge.Relay.DnsFraming
import HarmonyNetBridge.Harmony.ControlHandshake
import HarmonyNetBridge.Harmony.StoppedReport
import HarmonyNetBridge.Harmony.ApplicationLoads
import HarmonyNetBridge.Harmony.SelectionStorage
import HarmonyNetBridge.Logging.RotatingWriter
import HarmonyNetBridge.Scripts.BuildProfile
import HarmonyNetBridge.Daemon.AppOrder
import HarmonyNetBridge.Harmony.Tunnel
import HarmonyNetBridge.Harmony.Heartbeats
import HarmonyNetBridge.Proxy.CaptureRouting
