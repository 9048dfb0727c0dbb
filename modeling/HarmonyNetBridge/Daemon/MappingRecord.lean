import HarmonyNetBridge.Daemon.Effect

/-! The mapping a previous run recorded in the state file. `Run` overwrites the record before it
recovers and starts the capture proxy, and removes the mapping only after both. -/
namespace HarmonyNetBridge.Daemon
open Transition

/-- `Run` has written nothing to the state file yet, or gave up before that. -/
def Main.early : Main → Bool
  | ensuringPaths | listeningDevice | inspecting | probing | removingStale | binding | protecting
  | closingUnprotected | removingUnprotected | closingDeviceUnbound | reading | persisting
  | closingUnpersisted | closingDeviceUnpersisted | removingUnpersisted | finished
  | exited => true
  | _ => false

/-- `Run` has written its first snapshot and has yet to remove the recorded mapping. -/
def Main.preparing : Main → Bool
  | recoveringProxy | startingProxy | publishingProxy _ | removingStaleMapping => true
  | _ => false

/-- `Run` fails or is in `shutdown`. -/
def Main.ending : Main → Bool
  | failing .. | takingSessions | cancellingMonitor _ | awaitingMonitor _ | publishingStopping _
  | sendingStop _ | closingData _ | closingRelay _ | closingControl _ | closingDeviceListener _
  | closingControlListener _ | closingProxy _ | publishingProxyFailure | failingProxy
  | checkingProxy | publishingProxyOff | removingMapping | failingMapping | removingSocket
  | checkingFailure | removingState | finished | exited => true
  | _ => false

/-- `Run` is past the removal of the recorded mapping. -/
def Main.mapped : Main → Bool
  | addingReverse | publishingRunning | startingMonitor | startingServers | serving
  | publishingProxyExit => true
  | main => main.ending

def Main.unprepared : Main → Bool
  | publishingRecoveryFailure | publishingStartFailure => true
  | main => main.ending

/-- No mapping was touched and no goroutine but `Run` was started. -/
structure Unmapped (s : State) : Prop where
  handlers : ∀ c, s.sessions.handlers c = .idle
  device : s.acceptingDevice = false
  control : s.acceptingControl = false
  requests : ∀ i, s.requests i = .idle
  monitor : s.monitor = .off
  calls : s.calls = []
  added : s.mappingAdded = false

/-- Neither the snapshot nor the state file has a host port. -/
structure PortUnset (s : State) : Prop where
  snapshot : s.snapshot.hostPort = 0
  file : ∀ record, s.files.stateFile = some record → record.snapshot.hostPort = 0

/-- Proxy recovery and proxy start, where they were called, succeeded. -/
def ProxyPrepared (ls : List Label) : Prop :=
  .main (.recoverProxy false) ∉ ls ∧ .main (.startProxy none) ∉ ls

variable {l : Label} {s t : State} {e : MainEvent} {m : Main}

theorem proxyPrepared_snoc {ls : List Label} : ProxyPrepared (ls ++ [l]) ↔
      ProxyPrepared ls ∧ l ≠ .main (.recoverProxy false) ∧ l ≠ .main (.startProxy none) := by
  simp only [ProxyPrepared, List.mem_append, List.mem_singleton, not_or, ne_eq]
  constructor
  · rintro ⟨⟨h₁, h₂⟩, h₃, h₄⟩
    exact ⟨⟨h₁, h₃⟩, Ne.symm h₂, Ne.symm h₄⟩
  · rintro ⟨⟨h₁, h₃⟩, h₂, h₄⟩
    exact ⟨⟨h₁, Ne.symm h₂⟩, h₃, Ne.symm h₄⟩

theorem Unmapped.cases {s t : State} {l : Label} (hs : Unmapped s) (h : Step s l t) :
    (∃ e, l = .main e ∧ MainStep s e t) ∨ ∃ e, l = .surroundings e ∧ t = s.surrounded e := by
  cases h with
  | @device _ c _ _ h =>
    cases h with
    | accept pc listening => simp [hs.device] at listening
    | _ pc => simp [hs.handlers c] at pc
  | monitor _ h => cases h with | _ pc => simp [hs.monitor] at pc
  | @request _ i _ _ h =>
    cases h with
    | accept pc listening => simp [hs.control] at listening
    | _ pc => simp [hs.requests i] at pc
  | main h => exact .inl ⟨_, rfl, h⟩
  | surroundings e => exact .inr ⟨e, rfl, rfl⟩

theorem Unmapped.surrounded (hs : Unmapped s) (e : Surroundings) : Unmapped (s.surrounded e) := by
  cases e <;>
    exact ⟨hs.handlers, hs.device, hs.control, hs.requests, hs.monitor, hs.calls, hs.added⟩

theorem PortUnset.surrounded (hs : PortUnset s) (e : Surroundings) :
    PortUnset (s.surrounded e) := by
  cases e <;> exact ⟨hs.snapshot, hs.file⟩

theorem MainStep.unmapped (h : MainStep s e t) (hs : Unmapped s)
    (hp : s.main.early = true ∨ s.main.unprepared = true ∨
      s.main.preparing = true ∧ s.main ≠ .removingStaleMapping) : Unmapped t := by
  cases h with
  | removeMapping pc added ok => simp [hs.added] at added
  | noStaleMapping pc _ | removeStaleMapping pc _ _ =>
    rw [pc] at hp
    rcases hp with hp | hp | ⟨-, hne⟩
    · exact absurd hp Bool.false_ne_true
    · exact absurd hp Bool.false_ne_true
    · exact absurd rfl hne
  | notAdded pc | addReverse pc | startMonitor pc | startServers pc =>
    rw [pc] at hp
    rcases hp with hp | hp | ⟨hp, -⟩ <;> exact absurd hp Bool.false_ne_true
  | closeDeviceListener pc =>
    exact ⟨hs.handlers, rfl, hs.control, hs.requests, hs.monitor, hs.calls, hs.added⟩
  | closeControlListener pc =>
    exact ⟨hs.handlers, hs.device, rfl, hs.requests, hs.monitor, hs.calls, hs.added⟩
  | _ => exact ⟨hs.handlers, hs.device, hs.control, hs.requests, hs.monitor, hs.calls, hs.added⟩

theorem PortUnset.update (hs : PortUnset s) {mutate : Snapshot → Snapshot}
    (hm : (mutate s.snapshot).hostPort = s.snapshot.hostPort) (main : Main) :
    PortUnset ((s.update mutate).withMain main) := by
  refine ⟨hm.trans hs.snapshot, ?_⟩
  intro record hrecord
  simp only [State.withMain_files, State.update_files, Files.writeState] at hrecord
  split at hrecord
  · cases hrecord
    exact hm.trans hs.snapshot
  · exact hs.file record hrecord

/-- The first write, of a snapshot without a host port, replaces the record. -/
theorem PortUnset.persisted (hport : s.snapshot.hostPort = 0) (written : s.files.writable = true)
    (main : Main) :
    PortUnset ((s.withFiles (s.files.writeState s.pid s.snapshot)).withMain main) := by
  refine ⟨hport, fun record hrecord => ?_⟩
  simp only [State.withMain_files, State.withFiles_files, Files.writeState, written,
    ↓reduceIte, Option.some.injEq] at hrecord
  rw [← hrecord]
  exact hport

theorem initialSnapshot_hostPort (config : Config) (previous : Option Snapshot) :
    (initialSnapshot config previous).hostPort = 0 := by
  simp only [initialSnapshot]
  repeat' split
  all_goals rfl

/-- Only the publication of the running daemon sets a host port. -/
theorem MainStep.portUnset (h : MainStep s e t) (hs : PortUnset s)
    (hp : s.main ≠ .publishingRunning) : PortUnset t := by
  cases h with
  | publishRunning pc => exact absurd pc hp
  | readState pc => exact ⟨initialSnapshot_hostPort _ _, hs.file⟩
  | persist pc written => exact .persisted hs.snapshot written _
  | publishStopping pc =>
    refine hs.update ?_ _
    unfold Daemon.publishStopping
    split <;> rfl
  | publishRecoveryFailure pc | publishStartFailure pc | publishProxy pc | publishProxyExit pc
  | fail pc | publishProxyFailure pc | failProxy pc | publishProxyOff pc | failMapping pc =>
    exact hs.update rfl _
  | removeState pc => exact ⟨hs.snapshot, by simp [Files.removeState]⟩
  | _ => exact ⟨hs.snapshot, hs.file⟩

theorem MainStep.ending (h : MainStep s e t) (hp : s.main.ending = true) :
    t.main.ending = true := by
  cases h with
  | closeProxy pc _ ok | removeMapping pc _ ok => cases ok <;> rfl
  | checkProxy pc | checkFailure pc =>
    simp only [State.withMain_main]
    split <;> rfl
  | _ pc =>
    first
      | rfl
      | rw [pc] at hp; cases hp

theorem Main.mapped_of_ending (h : m.ending = true) : m.mapped = true := by
  cases m <;> first | rfl | cases h

theorem Main.unprepared_of_ending (h : m.ending = true) : m.unprepared = true := by
  cases m <;> first | rfl | cases h

theorem MainStep.mapped (h : MainStep s e t) (hp : s.main.mapped = true) :
    t.main.mapped = true ∧ e ≠ .recoverProxy false ∧ e ≠ .startProxy none := by
  refine ⟨?_, ?_, ?_⟩
  · by_cases hend : s.main.ending = true
    · exact Main.mapped_of_ending (h.ending hend)
    · cases h with
      | serveError pc | proxyDone pc _ =>
        simp only [State.withMain_main, unlessStopping]
        split <;> rfl
      | _ pc =>
        rw [pc] at hp hend
        first
          | rfl
          | exact absurd rfl hend
          | exact absurd hp Bool.false_ne_true
  · rintro rfl
    cases h with
    | recoverProxy pc _ _ =>
      rw [pc] at hp
      exact absurd hp Bool.false_ne_true
  · rintro rfl
    cases h with
    | proxyNotStarted pc _ =>
      rw [pc] at hp
      exact absurd hp Bool.false_ne_true

theorem Step.mapped (h : Step s l t) (hp : s.main.mapped = true) :
    t.main.mapped = true ∧ l ≠ .main (.recoverProxy false) ∧ l ≠ .main (.startProxy none) := by
  cases h with
  | device _ h => exact ⟨h.main ▸ hp, by simp, by simp⟩
  | monitor _ h => exact ⟨h.main.1 ▸ hp, by simp, by simp⟩
  | request _ h => exact ⟨h.main.1 ▸ hp, by simp, by simp⟩
  | main h =>
    obtain ⟨hp', hrecover, hstart⟩ := h.mapped hp
    exact ⟨hp', by simpa using hrecover, by simpa using hstart⟩
  | surroundings e => cases e <;> exact ⟨hp, by simp, by simp⟩

theorem MainStep.unprepared (h : MainStep s e t) (hp : s.main.unprepared = true) :
    t.main.unprepared = true := by
  by_cases hend : s.main.ending = true
  · exact Main.unprepared_of_ending (h.ending hend)
  · cases h with
    | publishRecoveryFailure pc | publishStartFailure pc => rfl
    | _ pc =>
      rw [pc] at hp hend
      first
        | exact absurd rfl hend
        | exact absurd hp Bool.false_ne_true

/-- What a step before the first write does, the write included. -/
theorem MainStep.early (h : MainStep s e t) (hp : s.main.early = true)
    (hport : s.snapshot.hostPort = 0)
    (hprev : s.main = .persisting → s.previous = s.files.stateFile.map StateRecord.snapshot) :
    t.config = s.config ∧ e ≠ .recoverProxy false ∧ e ≠ .startProxy none ∧
      ((t.main.early = true ∧ t.files.stateFile = s.files.stateFile ∧ t.snapshot.hostPort = 0 ∧
        (t.main = .persisting → t.previous = t.files.stateFile.map StateRecord.snapshot)) ∨
      (t.main = .recoveringProxy ∧ PortUnset t ∧
        t.previous = s.files.stateFile.map StateRecord.snapshot)) := by
  cases h with
  | readState pc => exact ⟨rfl, by simp, by simp, .inl ⟨rfl, rfl, initialSnapshot_hostPort _ _,
      fun _ => rfl⟩⟩
  | persist pc written =>
    exact ⟨rfl, by simp, by simp, .inr ⟨rfl, .persisted hport written _, hprev pc⟩⟩
  | ensurePaths pc ok | chmod pc ok =>
    cases ok <;> exact ⟨rfl, by simp, by simp, .inl ⟨rfl, rfl, hport, by simp⟩⟩
  | lstat pc ok =>
    refine ⟨rfl, by simp, by simp, .inl ?_⟩
    cases ok with
    | false => exact ⟨rfl, rfl, hport, by simp⟩
    | true =>
      simp only [State.withMain_main, ↓reduceIte]
      cases s.files.control <;> exact ⟨rfl, rfl, hport, by simp [afterLstat]⟩
  | probe pc result _ =>
    cases result <;> exact ⟨rfl, by simp, by simp, .inl ⟨rfl, rfl, hport, by simp [afterProbe]⟩⟩
  | notListening pc | listenDevice pc _ | removeStale pc _ | notRemoved pc | bind pc _
  | notBound pc | closeUnprotected pc | removeUnprotected pc | closeDeviceUnbound pc
  | notPersisted pc _ | closeUnpersisted pc | closeDeviceUnpersisted pc | removeUnpersisted pc
  | exit pc => exact ⟨rfl, by simp, by simp, .inl ⟨rfl, rfl, hport, by simp⟩⟩
  | _ pc => simp [pc, Main.early] at hp

theorem Step.calls (h : Step s l t) {call : ForwarderCall} (hc : call ∈ s.calls) :
    call ∈ t.calls := by
  cases h with
  | device _ h =>
    cases h with
    | publishRelayStats pc stats =>
      simp only [State.goto_calls, publishFinalStats]
      split <;> exact hc
    | _ => exact hc
  | monitor _ h =>
    cases h with
    | hasReverse | addReverse => exact List.mem_append_left _ hc
    | _ => exact hc
  | request _ h => cases h <;> exact hc
  | main h =>
    cases h with
    | removeStaleMapping | notAdded | addReverse | removeMapping => exact List.mem_append_left _ hc
    | _ => exact hc
  | surroundings e => cases e <;> exact hc

/-- What has become of the mapping that `files` recorded when `Run` was called. -/
inductive MappingFate (config : Config) (files : Files) (mapping : Mapping) (ls : List Label)
    (s : State) : Prop
  | recorded (place : s.main.early = true) (unmapped : Unmapped s) (same : s.config = config)
      (file : s.files.stateFile = files.stateFile) (port : s.snapshot.hostPort = 0)
      (previous : s.main = .persisting → s.previous = s.files.stateFile.map StateRecord.snapshot)
      (prepared : ProxyPrepared ls)
  | pending (place : s.main.preparing = true) (unmapped : Unmapped s) (same : s.config = config)
      (port : PortUnset s) (previous : s.previous = files.stateFile.map StateRecord.snapshot)
      (prepared : ProxyPrepared ls)
  | removed (place : s.main.mapped = true)
      (called : ∃ ok, .remove config.deviceID mapping ok ∈ s.calls) (prepared : ProxyPrepared ls)
  | forgotten (place : s.main.unprepared = true) (unmapped : Unmapped s) (port : PortUnset s)
      (unprepared : ¬ ProxyPrepared ls)

namespace MappingFate
variable {config : Config} {files : Files} {mapping : Mapping} {ls : List Label} {s t : State}
  {l : Label}

theorem recordedStep (place : s.main.early = true) (unmapped : Unmapped s) (same : s.config = config)
    (file : s.files.stateFile = files.stateFile) (port : s.snapshot.hostPort = 0)
    (previous : s.main = .persisting → s.previous = s.files.stateFile.map StateRecord.snapshot)
    (prepared : ProxyPrepared ls) (h : Step s l t) :
    MappingFate config files mapping (ls ++ [l]) t := by
  rcases unmapped.cases h with ⟨e, rfl, hm⟩ | ⟨e, rfl, rfl⟩
  · obtain ⟨hconfig, hrecover, hstart, hnext⟩ := hm.early place port previous
    have hunmapped := hm.unmapped unmapped (.inl place)
    have hprepared : ProxyPrepared (ls ++ [.main e]) :=
      proxyPrepared_snoc.mpr ⟨prepared, by simpa using hrecover, by simpa using hstart⟩
    rcases hnext with ⟨place', file', port', previous'⟩ | ⟨hmain, hport, hprev⟩
    · exact .recorded place' hunmapped (hconfig.trans same) (file'.trans file) port' previous'
        hprepared
    · refine .pending (by rw [hmain]; rfl) hunmapped (hconfig.trans same) hport ?_ hprepared
      rw [hprev, file]
  · have hprepared : ProxyPrepared (ls ++ [.surroundings e]) :=
      proxyPrepared_snoc.mpr ⟨prepared, by simp, by simp⟩
    cases e <;>
      exact .recorded place (unmapped.surrounded _) same file port previous hprepared

theorem pendingStep
    (hstale : staleMapping config (files.stateFile.map StateRecord.snapshot) = some mapping)
    (place : s.main.preparing = true) (unmapped : Unmapped s) (same : s.config = config)
    (port : PortUnset s) (previous : s.previous = files.stateFile.map StateRecord.snapshot)
    (prepared : ProxyPrepared ls) (h : Step s l t) :
    MappingFate config files mapping (ls ++ [l]) t := by
  rcases unmapped.cases h with ⟨e, rfl, hm⟩ | ⟨e, rfl, rfl⟩
  · have hport := hm.portUnset port (by rintro hpc; rw [hpc] at place; cases place)
    by_cases hremoving : s.main = .removingStaleMapping
    · -- the recorded mapping is the one `Run` computed when it read the file
      rw [← same, ← previous] at hstale
      cases hm with
      | noStaleMapping pc none => simp [hstale] at none
      | @removeStaleMapping pc mapping' recorded ok =>
        obtain rfl : mapping = mapping' := Option.some.inj (hstale.symm.trans recorded)
        refine .removed rfl ⟨ok, ?_⟩ (proxyPrepared_snoc.mpr ⟨prepared, by simp, by simp⟩)
        simp [same]
      | _ pc => simp [hremoving] at pc
    · have hunmapped := hm.unmapped unmapped (.inr (.inr ⟨place, hremoving⟩))
      cases hm with
      | recoverProxy pc _ ok =>
        cases ok with
        | false => exact .forgotten rfl hunmapped hport (by simp [proxyPrepared_snoc])
        | true =>
          exact .pending rfl hunmapped same hport previous
            (proxyPrepared_snoc.mpr ⟨prepared, by simp, by simp⟩)
      | proxyNotStarted pc _ => exact .forgotten rfl hunmapped hport (by simp [proxyPrepared_snoc])
      | noOrphan pc _ | noProxy pc _ | startProxy pc _ _ | publishProxy pc =>
        exact .pending rfl hunmapped same hport previous
          (proxyPrepared_snoc.mpr ⟨prepared, by simp, by simp⟩)
      | noStaleMapping pc _ | removeStaleMapping pc _ _ => exact absurd pc hremoving
      | _ pc => simp [pc, Main.preparing] at place
  · have hprepared : ProxyPrepared (ls ++ [.surroundings e]) :=
      proxyPrepared_snoc.mpr ⟨prepared, by simp, by simp⟩
    have hport := port.surrounded e
    cases e <;>
      exact .pending place (unmapped.surrounded _) same hport previous hprepared

theorem removedStep (place : s.main.mapped = true)
    (called : ∃ ok, .remove config.deviceID mapping ok ∈ s.calls) (prepared : ProxyPrepared ls)
    (h : Step s l t) : MappingFate config files mapping (ls ++ [l]) t := by
  obtain ⟨place', hlabel⟩ := h.mapped place
  exact .removed place' (called.imp fun ok hok => h.calls hok)
    (proxyPrepared_snoc.mpr ⟨prepared, hlabel⟩)

theorem forgottenStep (place : s.main.unprepared = true) (unmapped : Unmapped s)
    (port : PortUnset s) (unprepared : ¬ ProxyPrepared ls) (h : Step s l t) :
    MappingFate config files mapping (ls ++ [l]) t := by
  have hunprepared : ¬ ProxyPrepared (ls ++ [l]) :=
    fun hprepared => unprepared (proxyPrepared_snoc.mp hprepared).1
  rcases unmapped.cases h with ⟨e, rfl, hm⟩ | ⟨e, rfl, rfl⟩
  · refine .forgotten (hm.unprepared place) (hm.unmapped unmapped (.inr (.inl place)))
      (hm.portUnset port ?_) hunprepared
    intro hpc
    rw [hpc] at place
    cases place
  · refine .forgotten ?_ (unmapped.surrounded e) (port.surrounded e) hunprepared
    cases e <;> exact place

theorem run {pid : ℕ}
    (hstale : staleMapping config (files.stateFile.map StateRecord.snapshot) = some mapping)
    (h : Run Step (State.start pid config files) ls t) : MappingFate config files mapping ls t := by
  refine h.snocInduction (motive := fun ls t => MappingFate config files mapping ls t) ?_ ?_
  · refine .recorded rfl ⟨fun _ => rfl, rfl, rfl, fun _ => rfl, rfl, rfl, rfl⟩ rfl rfl rfl ?_ ?_
    · exact Main.noConfusion
    · simp [ProxyPrepared]
  · intro ls s l t _ ih hstep
    cases ih with
    | recorded place unmapped same file port previous prepared =>
      exact recordedStep place unmapped same file port previous prepared hstep
    | pending place unmapped same port previous prepared =>
      exact pendingStep hstale place unmapped same port previous prepared hstep
    | removed place called prepared => exact removedStep place called prepared hstep
    | forgotten place unmapped port unprepared =>
      exact forgottenStep place unmapped port unprepared hstep

end MappingFate

/-- The state file records this host port for the configured device and device port. -/
def RecordsPort (config : Config) (files : Files) (hostPort : ℤ) : Prop :=
  ∃ record, files.stateFile = some record ∧ record.snapshot.device = config.deviceLabel ∧
    record.snapshot.devicePort = config.devicePort ∧ record.snapshot.hostPort = hostPort

/-- A `Run` that finds a host port of its device recorded has, when it returns, called `Remove` on
that mapping or left the record in place, exactly if proxy recovery and proxy start did not
fail. -/
theorem mapping_remembered_iff {pid : ℕ} {config : Config} {files : Files} {hostPort : ℤ}
    {ls : List Label} {t : State} (hlabel : config.deviceLabel ≠ "") (hlow : 1 ≤ hostPort)
    (hhigh : hostPort ≤ 65535) (hrecord : RecordsPort config files hostPort)
    (hrun : Run Step (State.start pid config files) ls t)
    (hdone : t.main = .finished ∨ t.main = .exited) :
    ((∃ ok, .remove config.deviceID ⟨config.devicePort, hostPort⟩ ok ∈ t.calls) ∨
      RecordsPort config t.files hostPort) ↔
    .main (.recoverProxy false) ∉ ls ∧ .main (.startProxy none) ∉ ls := by
  have hstale : staleMapping config (files.stateFile.map StateRecord.snapshot) =
      some ⟨config.devicePort, hostPort⟩ := by
    obtain ⟨record, hfile, hdevice, hport, hhost⟩ := hrecord
    have hpos : 0 < hostPort := by omega
    simp [hfile, staleMapping, samePort, hdevice, hport, hhost, hlabel, hpos, hhigh]
  cases MappingFate.run hstale hrun with
  | recorded _ _ _ file _ _ prepared =>
    refine ⟨fun _ => prepared, fun _ => .inr ?_⟩
    obtain ⟨record, hfile, hfields⟩ := hrecord
    exact ⟨record, file.trans hfile, hfields⟩
  | pending place => rcases hdone with hdone | hdone <;> simp [hdone, Main.preparing] at place
  | removed _ called prepared => exact ⟨fun _ => prepared, fun _ => .inl called⟩
  | forgotten _ unmapped port unprepared =>
    refine ⟨?_, fun prepared => absurd prepared unprepared⟩
    rintro (⟨ok, hcall⟩ | ⟨record, hfile, -, -, hhost⟩)
    · simp [unmapped.calls] at hcall
    · have hzero := port.file record hfile
      omega

def recoveryConfig : Config := ⟨"device", "FMR***01", 27183, 1500, false, true⟩

/-- A daemon with a capture proxy was killed while it had the host port 40001. -/
def crashedFiles : Files where
  control := .absent
  listening := fun _ => false
  stateFile := some ⟨0, { newStarting "FMR***01" 27183 with
    daemon := .running, hostPort := 40001, proxy := { enabled := true, status := .active } }⟩
  writable := true

theorem crashedFiles_recordsPort : RecordsPort recoveryConfig crashedFiles 40001 :=
  ⟨_, rfl, rfl, rfl, rfl⟩

def recovery (ok : Bool) : List Label :=
  [.main (.ensurePaths true), .main (.listenDevice (some 40002)), .main (.lstat true),
    .main (.bind true), .main (.chmod true), .main .next, .main .next, .main (.recoverProxy ok)]

def failure : List Label := List.replicate 14 (.main .next) ++ [.main .next]

theorem failure_run {s : State} {code : Code} {message : String} (pc : s.main = .failing code message)
    (proxy : s.proxySession = none) (monitoring : s.monitoring = false)
    (added : s.mappingAdded = false) (writable : s.files.writable = true) :
    ∃ t, Run Step s failure t ∧ t.main = .finished ∧ t.calls = s.calls ∧
      t.files.stateFile = some ⟨s.pid, publishFailure code message s.snapshot⟩ := by
  -- with the fields substituted every step of the schedule is closed by computation
  obtain ⟨pid, config, files, sessions, snapshot, previous, mapping, mappingAdded, proxySession,
    mappingDone, cancelled, ctxDone, stopRequested, acceptingDevice, acceptingControl, calls,
    requests, monitor, main⟩ := s
  cases pc
  cases proxy
  cases monitoring
  cases added
  have hwritable : files.writable = true := writable
  have hshutdown : ∃ u, Run Step ⟨pid, config, files, sessions, snapshot, previous, mapping, false,
        none, false, cancelled, ctxDone, stopRequested, acceptingDevice, acceptingControl, calls,
        requests, monitor, .failing code message⟩ (List.replicate 14 (.main .next)) u ∧
      u.main = .checkingFailure ∧ u.snapshot.daemon = .failed ∧ u.calls = calls ∧
      u.files.stateFile = ((files.writeState pid (publishFailure code message snapshot)).writeState
        pid (publishFailure code message snapshot)).stateFile :=
    ⟨_, .cons (.main (.fail rfl)) <| .cons (.main (.takeSessions rfl)) <|
      .cons (.main (.cancelMonitor rfl)) <| .cons (.main (.awaitMonitor rfl Bool.noConfusion)) <|
      .cons (.main (.publishStopping rfl)) <| .cons (.main (.sendStop rfl)) <|
      .cons (.main (.closeData rfl)) <| .cons (.main (.closeRelay rfl)) <|
      .cons (.main (.closeControl rfl)) <| .cons (.main (.closeDeviceListener rfl)) <|
      .cons (.main (.closeControlListener rfl)) <| .cons (.main (.noProxySession rfl rfl)) <|
      .cons (.main (.noMapping rfl rfl)) <| .cons (.main (.removeSocket rfl)) <| .nil _,
      rfl, rfl, rfl, rfl⟩
  obtain ⟨u, hu, hmain, hfailed, hcalls, hfile⟩ := hshutdown
  have hstep := MainStep.checkFailure hmain
  simp only [hfailed, ↓reduceIte] at hstep
  refine ⟨_, hu.snoc (.main hstep), rfl, hcalls, ?_⟩
  simpa [Files.writeState, hwritable] using hfile

theorem mapping_remembered_recovered : ∃ t, Run Step (State.start 1 recoveryConfig crashedFiles)
      (recovery true ++ ([.main .next, .main (.remove false), .main (.addReverse false)] ++
        failure)) t ∧ t.main = .finished ∧
    ((∃ ok, .remove "device" ⟨27183, 40001⟩ ok ∈ t.calls) ∨
      RecordsPort recoveryConfig t.files 40001) := by
  have hstart : ∃ s, Run Step (State.start 1 recoveryConfig crashedFiles)
      (recovery true ++ [.main .next, .main (.remove false), .main (.addReverse false)]) s ∧
      s.main = .failing .rportFailed "hdc reverse mapping could not be created" ∧
      s.proxySession = none ∧ s.monitoring = false ∧ s.mappingAdded = false ∧
      s.files.writable = true :=
    ⟨_, .cons (.main (.ensurePaths rfl true)) <| .cons (.main (.listenDevice rfl 40002)) <|
      .cons (.main (.lstat rfl true)) <| .cons (.main (.bind rfl rfl)) <|
      .cons (.main (.chmod rfl true)) <| .cons (.main (.readState rfl)) <|
      .cons (.main (.persist rfl rfl)) <| .cons (.main (.recoverProxy rfl rfl true)) <|
      .cons (.main (.noProxy rfl rfl)) <| .cons (.main (.removeStaleMapping rfl rfl false)) <|
      .cons (.main (.notAdded rfl)) <| .nil _, rfl, rfl, rfl, rfl, rfl⟩
  obtain ⟨s, hs, pc, proxy, monitoring, added, writable⟩ := hstart
  obtain ⟨t, ht, hdone, -⟩ := failure_run pc proxy monitoring added writable
  have hrun := hs.append ht
  rw [List.append_assoc] at hrun
  have hiff := mapping_remembered_iff (by decide) (by decide) (by decide)
    crashedFiles_recordsPort hrun (.inl hdone)
  exact ⟨t, hrun, hdone, hiff.mpr (by decide)⟩

/-- The orphaned proxy cannot be recovered: `Run` returns without having removed the mapping, and
the state file it leaves has no host port. -/
theorem mapping_forgotten : RecordsPort recoveryConfig crashedFiles 40001 ∧
    ∃ t, Run Step (State.start 1 recoveryConfig crashedFiles)
      (recovery false ++ ([.main .next] ++ failure)) t ∧ t.main = .finished ∧ t.calls = [] ∧
      ∃ record, t.files.stateFile = some record ∧ record.snapshot.hostPort = 0 := by
  have hstart : ∃ s, Run Step (State.start 1 recoveryConfig crashedFiles)
      (recovery false ++ [.main .next]) s ∧ s.main = .failing .proxyUnavailable
        "an orphaned capture proxy could not be safely recovered" ∧
      s.proxySession = none ∧ s.monitoring = false ∧ s.mappingAdded = false ∧
      s.files.writable = true ∧ s.calls = [] ∧ s.snapshot.hostPort = 0 :=
    ⟨_, .cons (.main (.ensurePaths rfl true)) <| .cons (.main (.listenDevice rfl 40002)) <|
      .cons (.main (.lstat rfl true)) <| .cons (.main (.bind rfl rfl)) <|
      .cons (.main (.chmod rfl true)) <| .cons (.main (.readState rfl)) <|
      .cons (.main (.persist rfl rfl)) <| .cons (.main (.recoverProxy rfl rfl false)) <|
      .cons (.main (.publishRecoveryFailure rfl)) <| .nil _, rfl, rfl, rfl, rfl, rfl, rfl, rfl⟩
  obtain ⟨s, hs, pc, proxy, monitoring, added, writable, hcalls, hport⟩ := hstart
  obtain ⟨t, ht, hdone, hcalls', hfile⟩ := failure_run pc proxy monitoring added writable
  have hrun := hs.append ht
  rw [List.append_assoc] at hrun
  exact ⟨crashedFiles_recordsPort, t, hrun, hdone, hcalls'.trans hcalls, _, hfile, hport⟩

end HarmonyNetBridge.Daemon
