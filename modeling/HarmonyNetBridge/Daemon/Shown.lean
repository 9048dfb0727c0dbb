import HarmonyNetBridge.Daemon.Effect

/-! What one step of the daemon can do to the transport and the VPN status it shows. -/
namespace HarmonyNetBridge.Daemon

/-- The events that always show a transport or a VPN status. -/
def DeviceEvent.shows : DeviceEvent → Bool
  | publishAccepted | publishStatus | publishControlLoss | publishDataLoss => true
  | _ => false

/-- What a step of the device goroutine `c` can do to the two. -/
inductive Shown (c : Conn) (s : State) : DeviceEvent → Snapshot → Prop
  | same {e : DeviceEvent} {t : Snapshot} (quiet : e.shows = false)
      (transport : t.transport = s.snapshot.transport) (vpn : t.vpn = s.snapshot.vpn) :
      Shown c s e t
  | accepted {t : Snapshot} (transport : t.transport = .controlConnected) (vpn : t.vpn ≠ .active) :
      Shown c s .publishAccepted t
  | attached {t : Snapshot} (transport : t.transport = .dataConnected) (vpn : t.vpn ≠ .active) :
      Shown c s .attachRelay t
  | reported {t : Snapshot} {expected : UInt32} {message : String}
      (pc : s.sessions.handlers c = .reporting expected t.vpn message)
      (transport : t.transport = s.snapshot.transport) : Shown c s .publishStatus t
  | controlLost {t : Snapshot} (transport : t.transport = .portReady) (vpn : t.vpn ≠ .active) :
      Shown c s .publishControlLoss t
  | dataLost {t : Snapshot} (transport : t.transport = .controlConnected) (vpn : t.vpn ≠ .active) :
      Shown c s .publishDataLoss t

theorem publishAccepted_vpn (mode : Mode) (isReconnect : Bool) (s : Snapshot) :
    (publishAccepted mode isReconnect s).vpn = if mode = .vpn then .starting else .stopped := by
  cases mode <;> rfl

theorem publishHeartbeat_same (channel : Channel) (now milliseconds : ℤ) (s : Snapshot) :
    (publishHeartbeat channel now milliseconds s).transport = s.transport ∧
      (publishHeartbeat channel now milliseconds s).vpn = s.vpn := by
  cases channel <;> exact ⟨rfl, rfl⟩

variable {c : Conn} {s t : State} {e : MainEvent} {i : ℕ}

theorem DeviceStep.shown {e : DeviceEvent} (h : DeviceStep c s e t) : Shown c s e t.snapshot := by
  cases h with
  | publishAccepted pc =>
    refine .accepted (by simp) ?_
    simp only [State.goto_snapshot, State.update_snapshot, publishAccepted_vpn]
    split <;> simp
  | attachRelay pc taken => exact .attached rfl (by simp [publishAttached])
  | publishStatus pc => exact .reported pc rfl
  | publishControlLoss pc => exact .controlLost (by simp) (publishControlLoss_vpn_ne_active _ _)
  | publishDataLoss pc => exact .dataLost (by simp) (by simp [Daemon.publishDataLoss])
  | publishHeartbeat pc =>
    obtain ⟨htransport, hvpn⟩ := publishHeartbeat_same .control _ _ s.snapshot
    exact .same rfl htransport hvpn
  | publishDataHeartbeat pc =>
    obtain ⟨htransport, hvpn⟩ := publishHeartbeat_same .data _ _ s.snapshot
    exact .same rfl htransport hvpn
  | publishRelayStats pc stats =>
    simp only [State.goto_snapshot, publishFinalStats]
    split <;> exact .same rfl rfl rfl
  | _ => exact .same rfl rfl rfl

def Main.starting : Main → Bool
  | ensuringPaths | listeningDevice | inspecting | probing | removingStale | binding | protecting
  | closingUnprotected | removingUnprotected | closingDeviceUnbound | reading | persisting
  | closingUnpersisted | closingDeviceUnpersisted | removingUnpersisted | recoveringProxy
  | publishingRecoveryFailure | startingProxy | publishingStartFailure | publishingProxy _
  | removingStaleMapping | addingReverse | publishingRunning | startingMonitor
  | startingServers => true
  | _ => false

theorem MainStep.shown (h : MainStep s e t) :
    s.main.starting = true ∨ (t.snapshot.transport = s.snapshot.transport ∧
      t.snapshot.vpn = s.snapshot.vpn) := by
  cases h with
  | readState pc | publishRunning pc => exact .inl (by rw [pc]; rfl)
  | publishStopping pc =>
    right
    simp only [State.withMain_snapshot, State.update_snapshot, Daemon.publishStopping]
    split <;> exact ⟨rfl, rfl⟩
  | _ => exact .inr ⟨rfl, rfl⟩

theorem MainStep.vpn (h : MainStep s e t) :
    t.snapshot.vpn = s.snapshot.vpn ∨ t.snapshot.vpn = .stopped := by
  cases h with
  | readState pc =>
    right
    simp only [initialSnapshot]
    repeat' split
    all_goals rfl
  | publishStopping pc =>
    left
    simp only [State.withMain_snapshot, State.update_snapshot, Daemon.publishStopping]
    split <;> rfl
  | _ => exact .inl rfl

theorem RequestStep.shown {e : RequestEvent} (h : RequestStep i s e t) :
    t.snapshot.transport = s.snapshot.transport ∧ t.snapshot.vpn = s.snapshot.vpn := by
  cases h <;> exact ⟨rfl, rfl⟩

theorem MonitorStep.shown {e : MonitorEvent} (h : MonitorStep s e t) :
    (t.snapshot = s.snapshot ∧ e ≠ .publish) ∨
      ∃ mark vpn resume, s.monitor = .publishing mark vpn resume ∧
        t.snapshot = mark.publish vpn s.snapshot ∧ e = .publish := by
  cases h with
  | publish pc => exact .inr ⟨_, _, _, pc, rfl, rfl⟩
  | _ => exact .inl ⟨rfl, by simp⟩

/-- While `Run` is starting, no connection is accepted and there is no session. -/
def Unserved (s : State) : Prop :=
  s.main.starting = true → s.sessions = {} ∧ s.acceptingDevice = false

theorem MainStep.starting (h : MainStep s e t) (ht : t.main.starting = true) :
    s.main.starting = true ∧ t.sessions = s.sessions ∧
      t.acceptingDevice = s.acceptingDevice := by
  cases h with
  | serveError pc | proxyDone pc _ =>
    simp only [State.withMain_main, unlessStopping] at ht
    split at ht <;> cases ht
  | checkProxy pc | checkFailure pc =>
    simp only [State.withMain_main] at ht
    split at ht <;> cases ht
  | closeProxy pc _ ok | removeMapping pc _ ok => cases ok <;> cases ht
  | _ pc =>
    first
      | exact ⟨by rw [pc]; rfl, rfl, rfl⟩
      | cases ht

theorem MonitorStep.acceptingDevice {e : MonitorEvent} (h : MonitorStep s e t) :
    t.acceptingDevice = s.acceptingDevice := by
  cases h <;> rfl

theorem RequestStep.acceptingDevice {e : RequestEvent} (h : RequestStep i s e t) :
    t.acceptingDevice = s.acceptingDevice := by
  cases h <;> rfl

theorem unserved_step {l : Label} (h : Step s l t) (hs : Unserved s) : Unserved t := by
  intro ht
  cases h with
  | device _ h =>
    rw [h.main] at ht
    obtain ⟨hempty, hclosed⟩ := hs ht
    cases h with
    | accept pc listening => simp [hclosed] at listening
    | _ pc => simp [hempty] at pc
  | monitor _ h =>
    rw [h.main.1] at ht
    rw [h.main.2, h.acceptingDevice]
    exact hs ht
  | request _ h =>
    rw [h.main.1] at ht
    rw [h.main.2, h.acceptingDevice]
    exact hs ht
  | main h =>
    obtain ⟨hstart, hsessions, haccepting⟩ := h.starting ht
    rw [hsessions, haccepting]
    exact hs hstart
  | surroundings e => cases e <;> exact hs ht

theorem unserved_reached (h : Reached s) : Unserved s := by
  refine h.invariant (I := Unserved) ?_ fun s l t => unserved_step
  rintro s ⟨pid, config, files, rfl⟩
  exact fun _ => ⟨rfl, rfl⟩

/-- The marks of the monitor are the two of the source, and the VPN status computed for one is not
ACTIVE. -/
def Monitor.sound : Monitor → Prop
  | marking mark _ | comparing mark _ => mark = markMappingUnavailable ∨ mark = markMappingAvailable
  | publishing mark vpn _ =>
    (mark = markMappingUnavailable ∨ mark = markMappingAvailable) ∧ vpn ≠ .active
  | _ => True

theorem Monitor.resume_sound (resume : Resume) : (Monitor.resume resume).sound := by
  cases resume <;> trivial

theorem MonitorStep.sound {e : MonitorEvent} (h : MonitorStep s e t) (hs : s.monitor.sound) :
    t.monitor.sound := by
  cases h with
  | tick | cancel | hasReverse | addReverse => trivial
  | judge pc =>
    simp only [State.withMonitor_monitor]
    split
    · trivial
    · unfold afterHasReverse
      repeat' split
      all_goals first | trivial | exact .inl rfl | exact .inr rfl
  | mark pc =>
    rw [pc] at hs
    simp only [State.withMonitor_monitor, afterMark]
    split
    · exact Monitor.resume_sound _
    · exact hs
  | compare pc =>
    rw [pc] at hs
    simp only [State.withMonitor_monitor, afterCompare]
    split
    · exact Monitor.resume_sound _
    · exact ⟨hs, MappingMark.vpn_ne_active _⟩
  | publish pc => exact Monitor.resume_sound _
  | restored pc =>
    simp only [State.withMonitor_monitor, afterRestore]
    repeat' split
    all_goals first | trivial | exact .inr rfl

theorem DeviceStep.monitor {e : DeviceEvent} (h : DeviceStep c s e t) : t.monitor = s.monitor := by
  cases h with
  | publishRelayStats pc stats =>
    simp only [State.goto_monitor, publishFinalStats]
    split <;> rfl
  | _ => rfl

theorem RequestStep.monitor {e : RequestEvent} (h : RequestStep i s e t) :
    t.monitor = s.monitor := by
  cases h <;> rfl

theorem MainStep.monitor_sound (h : MainStep s e t) (hs : s.monitor.sound) : t.monitor.sound := by
  cases h with
  | startMonitor pc => trivial
  | _ => exact hs

theorem monitor_sound_reached (h : Reached s) : s.monitor.sound := by
  refine h.invariant (I := fun s => s.monitor.sound) ?_ ?_
  · rintro s ⟨pid, config, files, rfl⟩
    trivial
  · intro s l t hstep hs
    cases hstep with
    | device _ h => rw [h.monitor]; exact hs
    | monitor _ h => exact h.sound hs
    | request _ h => rw [h.monitor]; exact hs
    | main h => exact h.monitor_sound hs
    | surroundings e => cases e <;> exact hs

end HarmonyNetBridge.Daemon
