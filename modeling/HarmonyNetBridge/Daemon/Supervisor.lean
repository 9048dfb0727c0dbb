import HarmonyNetBridge.Transition.Runs
import HarmonyNetBridge.Daemon.Device

/-! The goroutine of `Run` from its first file-system call to the end of the deferred
`shutdown`, the mapping monitor, the local control requests, and the daemon they form together
with the device goroutines. -/
namespace HarmonyNetBridge.Daemon

/-- Results of dialling an existing control socket. -/
inductive Probe where
  | accepted | refused | absent | failed
  deriving DecidableEq, Repr

/-- The cases of the `select` at the end of `Run`. -/
inductive Exit where
  | ctxDone | stopRequested | serveError | proxyDone
  deriving DecidableEq, Repr

/-- The next action of `Run` with its outcome; `next` is an action that has only one. -/
inductive MainEvent where
  | ensurePaths (ok : Bool)
  | listenDevice (port : Option ℤ)
  | lstat (ok : Bool)
  | probe (result : Probe)
  | removeStale (ok : Bool)
  | bind (ok : Bool)
  | chmod (ok : Bool)
  | recoverProxy (ok : Bool)
  | startProxy (info : Option ProxySnapshot)
  | remove (ok : Bool)
  | addReverse (ok : Bool)
  | exit (reason : Exit)
  | closeProxy (ok : Bool)
  | next
  deriving DecidableEq

/-- `listenControlSocket` on what `os.Lstat` found. -/
def afterLstat : ControlPath → Main
  | .absent => .binding
  | .file => .closingDeviceUnbound
  | .socket _ => .probing

/-- Which results a dial can have. It may fail for other reasons at any time. -/
def Files.probes (files : Files) : Probe → Bool
  | .accepted => match files.control with
    | .socket owner => files.listening owner
    | _ => false
  | .refused => files.stale
  | .absent => files.control = .absent
  | .failed => true

def afterProbe : Probe → Main
  | .accepted | .failed => .closingDeviceUnbound
  | .refused | .absent => .removingStale

/-- Whether the state file is about the selected device. -/
def samePort (config : Config) (previous : Snapshot) : Bool :=
  previous.device ≠ "" ∧ previous.device = config.deviceLabel ∧
    previous.devicePort = config.devicePort

def initialSnapshot (config : Config) (previous : Option Snapshot) : Snapshot :=
  let initial := newStarting config.deviceLabel config.devicePort
  let recovered : Snapshot := match previous with
    | some previous =>
      if samePort config previous ∧ previous.daemon = DaemonStatus.running then
        { initial with
          reconnects := previous.reconnects + 1
          message := "Recovering HarmonyNetBridge after an unclean daemon exit" }
      else initial
    | none => initial
  if config.proxyFactory then
    { recovered with
      mtu := config.mtu
      proxy := { enabled := true, status := .starting }
      message := "Starting the local capture proxy" }
  else { recovered with mtu := config.mtu }

/-- The mapping a previous run recorded for the same device and port. -/
def staleMapping (config : Config) (previous : Option Snapshot) : Option Mapping :=
  match previous with
  | some previous =>
    if samePort config previous ∧ 0 < previous.hostPort ∧ previous.hostPort ≤ 65535 then
      some ⟨previous.devicePort, previous.hostPort⟩
    else none
  | none => none

def recoversProxy (config : Config) (previous : Option Snapshot) : Bool :=
  config.proxyRecovery && previous.any fun previous => previous.proxy.enabled

def previousProxy (previous : Option Snapshot) : ProxySnapshot :=
  (previous.map fun previous => previous.proxy).getD {}

/-- The first section of `shutdown` and the locals it fills. -/
def takeSessions (s : State) : State :=
  let r := s.sessions.registry
  let taken : Taken := ⟨r.controlConnection, r.controlWriter, r.controlStopAck, r.dataConnection,
    r.dataRelay, s.proxySession, s.monitoring⟩
  { s with
    sessions := s.sessions.withRegistry r.cleared .stopped
    proxySession := none
    monitoring := false
    main := .cancellingMonitor taken }

/-- An unexpected end of a listener or of the proxy is ignored while the daemon stops. -/
def unlessStopping (s : State) (main : Main) : Main :=
  if s.sessions.registry.stopping then .takingSessions else main

open State

inductive MainStep (s : State) : MainEvent → State → Prop
  | ensurePaths (pc : s.main = .ensuringPaths) (ok : Bool) : MainStep s (.ensurePaths ok)
      (s.withMain (if ok then .listeningDevice else .finished))
  | notListening (pc : s.main = .listeningDevice) :
      MainStep s (.listenDevice none) (s.withMain .finished)
  | listenDevice (pc : s.main = .listeningDevice) (port : ℤ) : MainStep s (.listenDevice (some port))
      { s with mapping := ⟨s.config.devicePort, port⟩, main := .inspecting }
  | lstat (pc : s.main = .inspecting) (ok : Bool) : MainStep s (.lstat ok)
      (s.withMain (if ok then afterLstat s.files.control else .closingDeviceUnbound))
  | probe (pc : s.main = .probing) (result : Probe) (possible : s.files.probes result = true) :
      MainStep s (.probe result) (s.withMain (afterProbe result))
  | removeStale (pc : s.main = .removingStale) (found : s.files.control ≠ .absent) :
      MainStep s (.removeStale true) ((s.withFiles s.files.removeControl).withMain .binding)
  | notRemoved (pc : s.main = .removingStale) :
      MainStep s (.removeStale false) (s.withMain .closingDeviceUnbound)
  | bind (pc : s.main = .binding) (free : s.files.control = .absent) :
      MainStep s (.bind true) ((s.withFiles (s.files.bind s.pid)).withMain .protecting)
  | notBound (pc : s.main = .binding) :
      MainStep s (.bind false) (s.withMain .closingDeviceUnbound)
  | chmod (pc : s.main = .protecting) (ok : Bool) : MainStep s (.chmod ok)
      (s.withMain (if ok then .reading else .closingUnprotected))
  | closeUnprotected (pc : s.main = .closingUnprotected) :
      MainStep s .next ((s.withFiles (s.files.closeListener s.pid)).withMain .removingUnprotected)
  | removeUnprotected (pc : s.main = .removingUnprotected) :
      MainStep s .next ((s.withFiles s.files.removeControl).withMain .closingDeviceUnbound)
  | closeDeviceUnbound (pc : s.main = .closingDeviceUnbound) :
      MainStep s .next (s.withMain .finished)
  | readState (pc : s.main = .reading) : MainStep s .next
      { s with
        previous := s.files.stateFile.map StateRecord.snapshot
        snapshot := initialSnapshot s.config (s.files.stateFile.map StateRecord.snapshot)
        main := .persisting }
  | persist (pc : s.main = .persisting) (written : s.files.writable = true) :
      MainStep s .next
        ((s.withFiles (s.files.writeState s.pid s.snapshot)).withMain .recoveringProxy)
  | notPersisted (pc : s.main = .persisting) (failed : s.files.writable = false) :
      MainStep s .next (s.withMain .closingUnpersisted)
  | closeUnpersisted (pc : s.main = .closingUnpersisted) : MainStep s .next
      ((s.withFiles (s.files.closeListener s.pid)).withMain .closingDeviceUnpersisted)
  | closeDeviceUnpersisted (pc : s.main = .closingDeviceUnpersisted) :
      MainStep s .next (s.withMain .removingUnpersisted)
  | removeUnpersisted (pc : s.main = .removingUnpersisted) :
      MainStep s .next ((s.withFiles s.files.removeControl).withMain .finished)
  | recoverProxy (pc : s.main = .recoveringProxy)
      (orphan : recoversProxy s.config s.previous = true) (ok : Bool) :
      MainStep s (.recoverProxy ok)
        (s.withMain (if ok then .startingProxy else .publishingRecoveryFailure))
  | noOrphan (pc : s.main = .recoveringProxy)
      (none : recoversProxy s.config s.previous = false) :
      MainStep s .next (s.withMain .startingProxy)
  | publishRecoveryFailure (pc : s.main = .publishingRecoveryFailure) : MainStep s .next
      ((s.update (publishRecoveryFailure (previousProxy s.previous))).withMain
        (.failing .proxyUnavailable "an orphaned capture proxy could not be safely recovered"))
  | noProxy (pc : s.main = .startingProxy) (off : s.config.proxyFactory = false) :
      MainStep s .next (s.withMain .removingStaleMapping)
  | proxyNotStarted (pc : s.main = .startingProxy) (on : s.config.proxyFactory = true) :
      MainStep s (.startProxy none) (s.withMain .publishingStartFailure)
  | startProxy (pc : s.main = .startingProxy) (on : s.config.proxyFactory = true)
      (info : ProxySnapshot) : MainStep s (.startProxy (some info))
        { s with proxySession := some info, main := .publishingProxy info }
  | publishStartFailure (pc : s.main = .publishingStartFailure) : MainStep s .next
      ((s.update (publishProxyStatus .failed)).withMain
        (.failing .proxyUnavailable "the local capture proxy could not be started"))
  | publishProxy {info : ProxySnapshot} (pc : s.main = .publishingProxy info) :
      MainStep s .next ((s.update (publishProxyReady info)).withMain .removingStaleMapping)
  | noStaleMapping (pc : s.main = .removingStaleMapping)
      (none : staleMapping s.config s.previous = none) :
      MainStep s .next (s.withMain .addingReverse)
  /-- A failed removal is logged and ignored. -/
  | removeStaleMapping (pc : s.main = .removingStaleMapping) {mapping : Mapping}
      (recorded : staleMapping s.config s.previous = some mapping) (ok : Bool) :
      MainStep s (.remove ok)
        ((s.call (.remove s.config.deviceID mapping ok)).withMain .addingReverse)
  | notAdded (pc : s.main = .addingReverse) : MainStep s (.addReverse false)
      ((s.call (.addReverse s.config.deviceID s.mapping false)).withMain
        (.failing .rportFailed "hdc reverse mapping could not be created"))
  | addReverse (pc : s.main = .addingReverse) : MainStep s (.addReverse true)
      { s.call (.addReverse s.config.deviceID s.mapping true) with
        mappingAdded := true, main := .publishingRunning }
  | publishRunning (pc : s.main = .publishingRunning) : MainStep s .next
      ((s.update (publishRunning s.mapping.hostPort)).withMain .startingMonitor)
  | startMonitor (pc : s.main = .startingMonitor) : MainStep s .next
      { s with monitoring := true, monitor := .waiting false, main := .startingServers }
  | startServers (pc : s.main = .startingServers) : MainStep s .next
      { s with acceptingDevice := true, acceptingControl := true, main := .serving }
  | ctxDone (pc : s.main = .serving) (done : s.ctxDone = true) :
      MainStep s (.exit .ctxDone) (s.withMain .takingSessions)
  | stopRequested (pc : s.main = .serving) (requested : s.stopRequested = true) :
      MainStep s (.exit .stopRequested) (s.withMain .takingSessions)
  | serveError (pc : s.main = .serving) : MainStep s (.exit .serveError)
      (s.withMain (unlessStopping s (.failing .internal "a daemon listener stopped unexpectedly")))
  | proxyDone (pc : s.main = .serving) (active : s.proxySession.isSome = true) :
      MainStep s (.exit .proxyDone) (s.withMain (unlessStopping s .publishingProxyExit))
  | publishProxyExit (pc : s.main = .publishingProxyExit) : MainStep s .next
      ((s.update (publishProxyGone .failed)).withMain
        (.failing .proxyUnavailable "the local capture proxy stopped unexpectedly"))
  | fail {code : Code} {message : String} (pc : s.main = .failing code message) :
      MainStep s .next ((s.update (publishFailure code message)).withMain .takingSessions)
  | takeSessions (pc : s.main = .takingSessions) : MainStep s .next (takeSessions s)
  | cancelMonitor {taken : Taken} (pc : s.main = .cancellingMonitor taken) : MainStep s .next
      { s with cancelled := s.cancelled || taken.monitor, main := .awaitingMonitor taken }
  | awaitMonitor {taken : Taken} (pc : s.main = .awaitingMonitor taken)
      (done : taken.monitor = true → s.monitor = .returned) :
      MainStep s .next (s.withMain (.publishingStopping taken))
  | publishStopping {taken : Taken} (pc : s.main = .publishingStopping taken) :
      MainStep s .next ((s.update publishStopping).withMain (.sendingStop taken))
  /-- STOP_REQUEST is sent and acknowledged, or the wait for it times out. -/
  | sendStop {taken : Taken} (pc : s.main = .sendingStop taken) :
      MainStep s .next (s.withMain (.closingData taken))
  | closeData {taken : Taken} (pc : s.main = .closingData taken) : MainStep s .next
      ((s.withSessions (s.sessions.closeConn taken.data)).withMain (.closingRelay taken))
  | closeRelay {taken : Taken} (pc : s.main = .closingRelay taken) : MainStep s .next
      ((s.withSessions (s.sessions.closeRelay taken.relay)).withMain (.closingControl taken))
  | closeControl {taken : Taken} (pc : s.main = .closingControl taken) : MainStep s .next
      ((s.withSessions (s.sessions.closeConn taken.control)).withMain
        (.closingDeviceListener taken))
  | closeDeviceListener {taken : Taken} (pc : s.main = .closingDeviceListener taken) :
      MainStep s .next { s with acceptingDevice := false, main := .closingControlListener taken }
  | closeControlListener {taken : Taken} (pc : s.main = .closingControlListener taken) :
      MainStep s .next
        { s with
          files := s.files.closeListener s.pid
          acceptingControl := false
          main := .closingProxy taken }
  | noProxySession {taken : Taken} (pc : s.main = .closingProxy taken) (off : taken.proxy = none) :
      MainStep s .next (s.withMain .removingMapping)
  | closeProxy {taken : Taken} (pc : s.main = .closingProxy taken) (on : taken.proxy.isSome = true)
      (ok : Bool) : MainStep s (.closeProxy ok)
        (s.withMain (if ok then .checkingProxy else .publishingProxyFailure))
  | publishProxyFailure (pc : s.main = .publishingProxyFailure) :
      MainStep s .next ((s.update (publishProxyGone .failed)).withMain .failingProxy)
  | failProxy (pc : s.main = .failingProxy) : MainStep s .next
      ((s.update (publishFailure .proxyUnavailable
        "the daemon stopped, but its capture proxy could not be terminated cleanly")).withMain
        .removingMapping)
  | checkProxy (pc : s.main = .checkingProxy) : MainStep s .next
      (s.withMain (if s.snapshot.daemon = .failed then .removingMapping else .publishingProxyOff))
  | publishProxyOff (pc : s.main = .publishingProxyOff) :
      MainStep s .next ((s.update (publishProxyGone .off)).withMain .removingMapping)
  | noMapping (pc : s.main = .removingMapping) (none : s.mappingAdded = false) :
      MainStep s .next (s.withMain .removingSocket)
  | removeMapping (pc : s.main = .removingMapping) (added : s.mappingAdded = true) (ok : Bool) :
      MainStep s (.remove ok) ((s.call (.remove s.config.deviceID s.mapping ok)).withMain
        (if ok then .removingSocket else .failingMapping))
  | failMapping (pc : s.main = .failingMapping) : MainStep s .next
      ((s.update (publishFailure .rportFailed
        "the daemon stopped, but its owned hdc reverse mapping could not be removed")).withMain
        .removingSocket)
  | removeSocket (pc : s.main = .removingSocket) :
      MainStep s .next ((s.withFiles s.files.removeControl).withMain .checkingFailure)
  /-- The state file of a failed daemon is kept. -/
  | checkFailure (pc : s.main = .checkingFailure) : MainStep s .next
      (s.withMain (if s.snapshot.daemon = .failed then .finished else .removingState))
  | removeState (pc : s.main = .removingState) :
      MainStep s .next ((s.withFiles s.files.removeState).withMain .finished)
  | exit (pc : s.main = .finished) : MainStep s .next (s.withMain .exited)

inductive MonitorEvent where
  | tick
  | cancel
  | hasReverse (present : Option Bool)
  | judge
  | mark
  | compare
  | publish
  | addReverse (ok : Bool)
  deriving DecidableEq

/-- `ctx.Err() != nil || s.isStopping()`. -/
def monitorStops (s : State) : Bool := s.cancelled || s.ctxDone || s.sessions.registry.stopping

/-- What `monitorMapping` does with the result of `HasReverse`; `none` is an error. -/
def afterHasReverse (unavailable : Bool) : Option Bool → Monitor
  | none => .marking markMappingUnavailable (.wait true)
  | some true => if unavailable then .marking markMappingAvailable (.wait false) else .waiting false
  | some false => .marking markMappingUnavailable .restore

def afterRestore (ok : Bool) : Monitor :=
  if ok then .marking markMappingAvailable (.wait false) else .waiting true

/-- The section of a mark. It goes on only without a session. -/
def afterMark (r : Registry) (mark : MappingMark) (resume : Resume) : Monitor :=
  if r.stopping ∨ r.controlConnection ≠ none then Monitor.resume resume else .comparing mark resume

def afterCompare (current : Snapshot) (mark : MappingMark) (resume : Resume) : Monitor :=
  if mark.shown current then Monitor.resume resume
  else .publishing mark (MappingMark.vpn current) resume

inductive MonitorStep (s : State) : MonitorEvent → State → Prop
  | tick {unavailable : Bool} (pc : s.monitor = .waiting unavailable) :
      MonitorStep s .tick (s.withMonitor (.checking unavailable))
  | cancel {unavailable : Bool} (pc : s.monitor = .waiting unavailable)
      (done : (s.cancelled || s.ctxDone) = true) : MonitorStep s .cancel (s.withMonitor .returned)
  | hasReverse {unavailable : Bool} (pc : s.monitor = .checking unavailable)
      (present : Option Bool) : MonitorStep s (.hasReverse present)
        ((s.call (.hasReverse s.config.deviceID s.mapping present)).withMonitor
          (.checked unavailable present))
  | judge {unavailable : Bool} {present : Option Bool}
      (pc : s.monitor = .checked unavailable present) : MonitorStep s .judge
        (s.withMonitor (if monitorStops s then .returned else afterHasReverse unavailable present))
  | mark {mark : MappingMark} {resume : Resume} (pc : s.monitor = .marking mark resume) :
      MonitorStep s .mark (s.withMonitor (afterMark s.sessions.registry mark resume))
  | compare {mark : MappingMark} {resume : Resume} (pc : s.monitor = .comparing mark resume) :
      MonitorStep s .compare (s.withMonitor (afterCompare s.snapshot mark resume))
  | publish {mark : MappingMark} {vpn : VPNStatus} {resume : Resume}
      (pc : s.monitor = .publishing mark vpn resume) : MonitorStep s .publish
        ((s.update (mark.publish vpn)).withMonitor (Monitor.resume resume))
  | addReverse (pc : s.monitor = .restoring) (ok : Bool) : MonitorStep s (.addReverse ok)
      ((s.call (.addReverse s.config.deviceID s.mapping ok)).withMonitor (.restored ok))
  | restored {ok : Bool} (pc : s.monitor = .restored ok) : MonitorStep s .judge
      (s.withMonitor (if monitorStops s then .returned else afterRestore ok))

inductive Command where
  | status | stop
  deriving DecidableEq, Repr

inductive RequestEvent where
  | accept (command : Option Command)
  | refresh
  | publishStats (stats : RelayStats)
  | answer
  | publishStop
  | requestStop
  deriving DecidableEq

/-- `handleControl` on a request; `none` is one it cannot read or does not know. -/
def afterRequest : Option Command → Request
  | none => .returned none
  | some .status => .refreshing
  | some .stop => .publishingStop

inductive RequestStep (i : ℕ) (s : State) : RequestEvent → State → Prop
  | accept (pc : s.requests i = .idle) (listening : s.acceptingControl = true)
      (command : Option Command) :
      RequestStep i s (.accept command) (s.answer i (afterRequest command))
  | refresh (pc : s.requests i = .refreshing) : RequestStep i s .refresh (s.answer i
      (if s.sessions.registry.dataRelay.isSome then .publishingStats else .answering))
  | publishStats (pc : s.requests i = .publishingStats) (stats : RelayStats) :
      RequestStep i s (.publishStats stats)
        ((s.update (publishRelayStats stats)).answer i .answering)
  | answer (pc : s.requests i = .answering) :
      RequestStep i s .answer (s.answer i (.returned (some s.snapshot)))
  | publishStop (pc : s.requests i = .publishingStop) : RequestStep i s .publishStop
      ((s.update publishStopRequest).answer i .answeringStop)
  | answerStop (pc : s.requests i = .answeringStop) :
      RequestStep i s .answer (s.answer i (.requestingStop s.snapshot))
  | requestStop {snapshot : Snapshot} (pc : s.requests i = .requestingStop snapshot) :
      RequestStep i s .requestStop
        ({ s with stopRequested := true }.answer i (.returned (some snapshot)))

/-- What may change around the daemon at any time. -/
inductive Surroundings where
  | writable (ok : Bool)
  | cancelContext
  deriving DecidableEq, Repr

def State.surrounded (s : State) : Surroundings → State
  | .writable ok => s.withFiles { s.files with writable := ok }
  | .cancelContext => { s with ctxDone := true }

inductive Label where
  | device (c : Conn) (event : DeviceEvent)
  | monitor (event : MonitorEvent)
  | request (i : ℕ) (event : RequestEvent)
  | main (event : MainEvent)
  | surroundings (event : Surroundings)
  deriving DecidableEq

/-- The daemon. When `Run` has returned, the process exits and takes its goroutines along. -/
inductive Step : State → Label → State → Prop
  | device {s t : State} {c : Conn} {e : DeviceEvent} (alive : s.main ≠ .exited)
      (h : DeviceStep c s e t) : Step s (.device c e) t
  | monitor {s t : State} {e : MonitorEvent} (alive : s.main ≠ .exited) (h : MonitorStep s e t) :
      Step s (.monitor e) t
  | request {s t : State} {i : ℕ} {e : RequestEvent} (alive : s.main ≠ .exited)
      (h : RequestStep i s e t) : Step s (.request i e) t
  | main {s t : State} {e : MainEvent} (h : MainStep s e t) : Step s (.main e) t
  | surroundings {s : State} (e : Surroundings) : Step s (.surroundings e) (s.surrounded e)

/-- Any daemon before `Run`, whatever its paths hold. -/
def Initial (s : State) : Prop := ∃ pid config files, s = State.start pid config files

/-- States of a daemon in any interleaving of its goroutines. -/
abbrev Reached (s : State) : Prop := Transition.Reachable Step Initial s

end HarmonyNetBridge.Daemon
