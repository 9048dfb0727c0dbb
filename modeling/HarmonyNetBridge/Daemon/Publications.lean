import HarmonyNetBridge.Daemon.Shown
import HarmonyNetBridge.Daemon.Successor

/-! What one step of the daemon can do to the store, to the state file and to the fields of a
snapshot that identify the mapping or tell whether the daemon has failed. -/
namespace HarmonyNetBridge.Daemon

/-- The state file and whether it can be written. -/
def Files.record (files : Files) : Option StateRecord × Bool := (files.stateFile, files.writable)

def ports (x : Snapshot) : String × ℤ × ℤ := (x.device, x.devicePort, x.hostPort)

/-- A step leaves the store and the state file alone, or tries to write the file with the snapshot
that is then in the store. -/
inductive Recorded (s t : State) : Prop
  | quiet (snapshot : t.snapshot = s.snapshot) (record : t.files.record = s.files.record)
  | written (record : t.files.record = (s.files.writeState s.pid t.snapshot).record)

theorem Files.writeState_writable (f : Files) (pid : ℕ) (x : Snapshot) :
    (f.writeState pid x).writable = f.writable := by
  unfold Files.writeState
  split <;> rfl

variable {s t : State} {e : MainEvent}

theorem Recorded.writable (h : Recorded s t) : t.files.writable = s.files.writable := by
  cases h with
  | quiet _ record => exact congrArg Prod.snd record
  | written record => exact (congrArg Prod.snd record).trans (s.files.writeState_writable s.pid _)

theorem Recorded.stateFile (h : Recorded s t) :
    t.files.stateFile = s.files.stateFile ∨ t.files.stateFile = some ⟨s.pid, t.snapshot⟩ := by
  cases h with
  | quiet _ record => exact .inl (congrArg Prod.fst record)
  | written record =>
    have hfile : t.files.stateFile = (s.files.writeState s.pid t.snapshot).stateFile :=
      congrArg Prod.fst record
    rw [hfile]
    exact s.files.writeState_stateFile s.pid t.snapshot

theorem publishAccepted_fields (mode : Mode) (isReconnect : Bool) (s : Snapshot) :
    ports (publishAccepted mode isReconnect s) = ports s ∧
      (publishAccepted mode isReconnect s).daemon = s.daemon := by
  cases mode <;> exact ⟨rfl, rfl⟩

theorem publishControlLoss_fields (mode : Option Mode) (s : Snapshot) :
    ports (publishControlLoss mode s) = ports s ∧
      (publishControlLoss mode s).daemon = s.daemon := by
  unfold publishControlLoss
  dsimp only
  repeat' split
  all_goals exact ⟨rfl, rfl⟩

theorem publishDataLoss_fields (failed : Bool) (s : Snapshot) :
    ports (publishDataLoss failed s) = ports s ∧ (publishDataLoss failed s).daemon = s.daemon := by
  cases failed <;> exact ⟨rfl, rfl⟩

theorem publishHeartbeat_fields (channel : Channel) (now milliseconds : ℤ) (s : Snapshot) :
    ports (publishHeartbeat channel now milliseconds s) = ports s ∧
      (publishHeartbeat channel now milliseconds s).daemon = s.daemon := by
  cases channel <;> exact ⟨rfl, rfl⟩

/-- A device goroutine publishes neither ports nor the daemon status. -/
theorem DeviceStep.recorded {c : Conn} {e : DeviceEvent} (h : DeviceStep c s e t) :
    Recorded s t ∧ ports t.snapshot = ports s.snapshot ∧
      t.snapshot.daemon = s.snapshot.daemon := by
  cases h with
  | publishAccepted => exact ⟨.written rfl, publishAccepted_fields _ _ _⟩
  | publishControlLoss => exact ⟨.written rfl, publishControlLoss_fields _ _⟩
  | publishDataLoss => exact ⟨.written rfl, publishDataLoss_fields _ _⟩
  | publishHeartbeat | publishDataHeartbeat =>
    exact ⟨.written rfl, publishHeartbeat_fields _ _ _ _⟩
  | publishStatus | attachRelay => exact ⟨.written rfl, rfl, rfl⟩
  | publishRelayStats pc stats =>
    simp only [publishFinalStats]
    split
    · exact ⟨.written rfl, rfl, rfl⟩
    · exact ⟨.quiet rfl rfl, rfl, rfl⟩
  | _ => exact ⟨.quiet rfl rfl, rfl, rfl⟩

theorem MonitorStep.recorded {e : MonitorEvent} (h : MonitorStep s e t) :
    Recorded s t ∧ ports t.snapshot = ports s.snapshot ∧
      t.snapshot.daemon = s.snapshot.daemon := by
  cases h with
  | publish => exact ⟨.written rfl, rfl, rfl⟩
  | _ => exact ⟨.quiet rfl rfl, rfl, rfl⟩

/-- A stop request publishes STOPPING, whatever the status is. -/
theorem RequestStep.recorded {i : ℕ} {e : RequestEvent} (h : RequestStep i s e t) :
    Recorded s t ∧ ports t.snapshot = ports s.snapshot ∧
      t.snapshot.daemon = if e = .publishStop then .stopping else s.snapshot.daemon := by
  cases h with
  | publishStats | publishStop => exact ⟨.written rfl, rfl, rfl⟩
  | _ => exact ⟨.quiet rfl rfl, rfl, rfl⟩

theorem publishStopping_ports (s : Snapshot) : ports (publishStopping s) = ports s := by
  unfold publishStopping
  split <;> rfl

/-- `Run` reads the state file once and removes it once. -/
theorem MainStep.recorded (h : MainStep s e t) (hreading : s.main ≠ .reading)
    (hremoving : s.main ≠ .removingState) : Recorded s t := by
  cases h with
  | readState pc => exact absurd pc hreading
  | removeState pc => exact absurd pc hremoving
  | persist | publishRecoveryFailure | publishStartFailure | publishProxy | publishRunning
  | publishProxyExit | fail | publishStopping | publishProxyFailure | failProxy | publishProxyOff
  | failMapping => exact .written rfl
  | _ => exact .quiet rfl rfl

/-- `Run` publishes the host port when the mapping exists. -/
theorem MainStep.ports {s t : State} {e : MainEvent} (h : MainStep s e t)
    (hreading : s.main ≠ .reading) : ports t.snapshot = ports s.snapshot ∨
      (s.main = .publishingRunning ∧ ports t.snapshot =
        (s.snapshot.device, s.snapshot.devicePort, s.mapping.hostPort)) := by
  cases h with
  | readState pc => exact absurd pc hreading
  | publishRunning pc => exact .inr ⟨pc, rfl⟩
  | publishStopping pc => exact .inl (publishStopping_ports _)
  | _ => exact .inl rfl

/-- What `Run` does to a daemon status: past its start it keeps a failure. -/
theorem MainStep.daemon (h : MainStep s e t) (hreading : s.main ≠ .reading) :
    t.snapshot.daemon = s.snapshot.daemon ∨ t.snapshot.daemon = .failed ∨
      (s.main = .publishingRunning ∧ t.snapshot.daemon = .running) ∨
      (s.snapshot.daemon ≠ .failed ∧ t.snapshot.daemon = .stopping) := by
  cases h with
  | readState pc => exact absurd pc hreading
  | fail | failProxy | failMapping => exact .inr (.inl rfl)
  | publishRunning pc => exact .inr (.inr (.inl ⟨pc, rfl⟩))
  | publishStopping pc =>
    by_cases hfailed : s.snapshot.daemon = .failed
    · exact .inl (by simp [Daemon.publishStopping, hfailed])
    · exact .inr (.inr (.inr ⟨hfailed, by simp [Daemon.publishStopping, hfailed, publishStopRequest]⟩))
  | _ => exact .inl rfl

end HarmonyNetBridge.Daemon
