import HarmonyNetBridge.Daemon.SessionOwnership
import HarmonyNetBridge.Daemon.Shown

/-! ACTIVE and the data channel. `applyVPNStatus` checks for a data connection in its section and
publishes ACTIVE afterwards, when the data channel may be gone and its loss published already. -/
namespace HarmonyNetBridge.Daemon
open Transition

/-- The goroutine stands between a section and the update of the status that follows it. -/
def Handler.pending : Handler → Bool
  | publishingAccepted .. | reporting .. | publishingControlLoss _ | publishingDataLoss _ => true
  | closingData release | closingRelay release => !release.stopping
  | dataClosing _ release | dataReporting _ release | dataClosingRelay _ release =>
    release.controlConnected && !release.stopping
  | _ => false

/-- Unless some goroutine has yet to publish, ACTIVE is shown only with a data connection. -/
def ActiveBacked (s : State) : Prop :=
  s.sessions.registry.stopping = false → s.snapshot.vpn = .active →
    s.sessions.registry.dataConnection ≠ none ∨ ∃ c, (s.sessions.handlers c).pending = true

/-- ACTIVE is published only while a data connection is registered or another goroutine has yet to
publish. -/
def ActiveOnTime (s : State) (l : Label) : Prop :=
  ∀ c expected message, l = .device c .publishStatus →
    s.sessions.handlers c = .reporting expected .active message →
    s.sessions.registry.stopping = false →
      s.sessions.registry.dataConnection ≠ none ∨
        ∃ d, d ≠ c ∧ (s.sessions.handlers d).pending = true

variable {c : Conn} {s t : State} {e : DeviceEvent} {σ : Sess} {l : Label}

theorem DeviceStep.pending (h : DeviceStep c s e t) (he : e.shows = false)
    (hp : (s.sessions.handlers c).pending = true) : (t.sessions.handlers c).pending = true := by
  cases h with
  | publishAccepted | publishStatus | publishControlLoss | publishDataLoss => cases he
  | closeData pc | closeConnection pc | publishRelayStats pc _ =>
    rw [pc] at hp
    simpa [Handler.pending] using hp
  | closeRelay pc =>
    rw [pc] at hp
    simp only [Handler.pending, Bool.not_eq_true'] at hp
    simp [afterControlRelease, hp, Handler.pending]
  | closeDataRelay pc =>
    rw [pc] at hp
    simp only [Handler.pending] at hp
    simp [afterDataRelease, hp, Handler.pending]
  | _ pc =>
    rw [pc] at hp
    cases hp

/-- Who takes the data connection out of the registry has yet to publish that. -/
theorem DeviceStep.data_lost (hs : Owned s.sessions σ) (h : DeviceStep c s e t)
    (hup : s.sessions.registry.stopping = false) (hd : s.sessions.registry.dataConnection ≠ none) :
    t.sessions.registry.dataConnection ≠ none ∨ (t.sessions.handlers c).pending = true := by
  cases h with
  | register pc taken =>
    obtain ⟨-, -, rfl, -⟩ := Registry.registerControl_eq_some taken
    exact .inl hd
  | releaseControl pc taken =>
    obtain ⟨-, rfl, rfl⟩ := Registry.releaseControl_eq_some taken
    exact .inr (by simp [Handler.pending, hup])
  | bindData pc taken =>
    obtain ⟨-, -, -, -, -, rfl⟩ := Registry.bindData_eq_some taken
    exact .inl (by simp)
  | attachRelay pc taken =>
    obtain ⟨-, -, -, rfl⟩ := Registry.attachRelay_eq_some taken
    exact .inl hd
  | releaseData pc taken =>
    obtain ⟨held, rfl, rfl⟩ := Registry.releaseData_eq_some taken
    obtain ⟨k, hslot⟩ := hs.represents.vpn_of_data held
    have hcontrol : s.sessions.registry.controlConnection = some k := by
      rw [hs.represents.control, hslot]
      rfl
    have hmode : s.sessions.registry.controlMode = some .vpn := by
      rw [hs.represents.mode, hslot]
      rfl
    exact .inr (by simp [Handler.pending, hup, hcontrol, hmode])
  | publishRelayStats pc stats =>
    left
    simp only [publishFinalStats]
    split <;> exact hd
  | _ => exact .inl hd

theorem activeBacked_step (h : Step s l t) (howned : Owned s.sessions σ) (hm : s.monitor.sound)
    (hs : ActiveBacked s) (hok : ActiveOnTime s l) : ActiveBacked t := by
  intro hup hactive
  cases h with
  | @device _ c e _ h =>
    have hup' : s.sessions.registry.stopping = false := h.effect.stopping ▸ hup
    have hothers : ∀ d, d ≠ c → (s.sessions.handlers d).pending = true →
        ∃ d, (t.sessions.handlers d).pending = true := by
      intro d hdc hd
      exact ⟨d, by rw [h.effect.other hdc]; exact hd⟩
    have hdata : s.sessions.registry.dataConnection ≠ none →
        t.sessions.registry.dataConnection ≠ none ∨
          ∃ d, (t.sessions.handlers d).pending = true := by
      intro hd
      exact (h.data_lost howned hup' hd).imp id fun hp => ⟨c, hp⟩
    cases h.shown with
    | same quiet transport vpn =>
      rw [vpn] at hactive
      rcases hs hup' hactive with hd | ⟨d, hd⟩
      · exact hdata hd
      · rcases eq_or_ne d c with rfl | hdc
        · exact .inr ⟨d, h.pending quiet hd⟩
        · exact .inr (hothers d hdc hd)
    | reported pc transport =>
      rw [hactive] at pc
      rcases hok c _ _ rfl pc hup' with hd | ⟨d, hdc, hd⟩
      · exact hdata hd
      · exact .inr (hothers d hdc hd)
    | accepted transport vpn => exact absurd hactive vpn
    | attached transport vpn => exact absurd hactive vpn
    | controlLost transport vpn => exact absurd hactive vpn
    | dataLost transport vpn => exact absurd hactive vpn
  | monitor _ h =>
    rw [h.main.2] at hup ⊢
    rcases h.shown with ⟨hsame, -⟩ | ⟨mark, vpn, resume, hpc, hsnap, -⟩
    · rw [hsame] at hactive
      exact hs hup hactive
    · rw [hpc] at hm
      rw [hsnap] at hactive
      exact absurd hactive hm.2
  | request _ h =>
    rw [h.main.2] at hup ⊢
    rw [h.shown.2] at hactive
    exact hs hup hactive
  | main h =>
    obtain ⟨hhandlers, hreg | hreg⟩ := h.sessions
    · rw [hreg] at hup ⊢
      rw [hhandlers]
      rcases h.vpn with hvpn | hvpn
      · exact hs hup (hvpn ▸ hactive)
      · rw [hvpn] at hactive
        cases hactive
    · rw [hreg] at hup
      cases hup
  | surroundings e => cases e <;> exact hs hup hactive

theorem activeOnTime_of_backed (h : Step s l t) (ht : ActiveBacked t) : ActiveOnTime s l := by
  rintro c expected message rfl hpc hup
  cases h with
  | device _ h =>
    cases h with
    | publishStatus pc =>
      obtain ⟨rfl, rfl, rfl⟩ := Handler.reporting.inj (pc.symm.trans hpc)
      refine (ht hup rfl).imp id ?_
      rintro ⟨d, hd⟩
      rcases eq_or_ne d c with rfl | hdc
      · simp [Handler.pending] at hd
      · exact ⟨d, hdc, by simpa [hdc] using hd⟩

/-- In every run that publishes ACTIVE only on time, ACTIVE is shown only with a data connection
unless a goroutine has yet to publish, and a step from there keeps that exactly if it is on
time. -/
theorem active_backed {s : State} (h : Reachable (Guarded Step ActiveOnTime) Initial s) :
    ActiveBacked s ∧ ∀ l t, Step s l t → (ActiveBacked t ↔ ActiveOnTime s l) := by
  have hstep : ∀ s l t, Reached s → Step s l t → ActiveOnTime s l → ActiveBacked s →
      ActiveBacked t := by
    intro s l t hr hstep hok hs
    obtain ⟨σ, -, howned⟩ := Owned.reached hr
    exact activeBacked_step hstep howned (monitor_sound_reached hr) hs hok
  have hbacked : Reached s ∧ ActiveBacked s := by
    refine h.guardedInvariant ?_ hstep
    rintro s ⟨pid, config, files, rfl⟩ - hactive
    cases hactive
  obtain ⟨hreached, hs⟩ := hbacked
  refine ⟨hs, fun l t ht => ⟨activeOnTime_of_backed ht, ?_⟩⟩
  exact fun hok => hstep s l t hreached ht hok hs

def activeReport : Label := .device 1 (.controlFrame (some (2, .vpnStatus (some ⟨"ACTIVE", ""⟩))))

/-- The report has passed the section of `applyVPNStatus` and is not published yet. -/
def reportedState : State :=
  bridgedState.goto 1 (.reporting 3 .active "IPv4 TCP, UDP, and DNS relay is active")

theorem reportedState_step : Step bridgedState activeReport reportedState := by
  have hloop : controlLoop bridgedState.sessions.registry 1 bridgedState.proxySession.isSome .vpn 2
      (some (2, .vpnStatus (some ⟨"ACTIVE", ""⟩))) =
        .reporting 3 .active "IPv4 TCP, UDP, and DNS relay is active" := rfl
  unfold reportedState
  rw [← hloop]
  exact .device Main.noConfusion (.controlFrame rfl _)

def Label.reports : Label → Bool
  | .device _ .publishStatus => true
  | _ => false

theorem Label.activeOnTime (h : l.reports = false) (s : State) : ActiveOnTime s l := by
  rintro c expected message rfl
  cases h

theorem reportedState_run : Run (Guarded Step ActiveOnTime) (State.start 1 plainConfig emptyFiles)
    (startup ++ controlHandshake 1 0 ++ dataHandshake 2 0 7 ++ [activeReport]) reportedState := by
  have hquiet : ∀ l ∈ startup ++ controlHandshake 1 0 ++ dataHandshake 2 0 7 ++ [activeReport],
      l.reports = false := by decide
  exact (bridgedState_run.snoc reportedState_step).guarded fun l hl => Label.activeOnTime (hquiet l hl)

theorem active_backed_bridged : ∃ t, Reachable (Guarded Step ActiveOnTime) Initial t ∧
    t.snapshot.vpn = .active ∧ t.sessions.registry.stopping = false ∧ ActiveBacked t := by
  have hontime : ActiveOnTime reportedState (.device 1 .publishStatus) :=
    fun c expected message _ _ _ => .inl (by decide)
  have hstep : Step reportedState (.device 1 .publishStatus) _ :=
    .device Main.noConfusion (.publishStatus rfl)
  have hrun := reportedState_run.snoc ⟨hstep, hontime⟩
  refine ⟨_, ⟨_, _, ⟨1, plainConfig, emptyFiles, rfl⟩, hrun⟩, rfl, rfl, ?_⟩
  exact (active_backed ⟨_, _, ⟨1, plainConfig, emptyFiles, rfl⟩, hrun⟩).1

/-- The data channel is lost and its loss published between the section and the publication of
the report. -/
theorem active_without_data : Reached reportedState ∧ ∃ t, Run Step reportedState
      [.device 2 (.dataFrame none), .device 2 .releaseData, .device 2 .closeConnection,
        .device 2 (.publishRelayStats {}), .device 2 .closeRelay, .device 2 .publishDataLoss,
        .device 1 .publishStatus] t ∧
    t.sessions.registry.stopping = false ∧ t.snapshot.vpn = .active ∧
    t.sessions.registry.dataConnection = none ∧ ∀ c, (t.sessions.handlers c).pending = false := by
  refine ⟨bridgedState_reached.next reportedState_step, _,
    device_run (.dataFrame rfl none) <| device_run (.releaseData rfl rfl) <|
    device_run (.closeConnection rfl) <| device_run (.publishRelayStats rfl {}) <|
    device_run (.closeDataRelay rfl) <| device_run (.publishDataLoss rfl) <|
    device_run (.publishStatus rfl) <| .nil _, rfl, rfl, rfl, ?_⟩
  intro c
  rcases eq_or_ne c 1 with rfl | h1
  · rfl
  rcases eq_or_ne c 2 with rfl | h2
  · rfl
  · simp [h1, h2, publishFinalStats, reportedState, bridgedState, connectData, controlledState,
      connectControl, servingState, State.start, Handler.pending]

end HarmonyNetBridge.Daemon
