import HarmonyNetBridge.Daemon.SessionOwnership
import HarmonyNetBridge.Daemon.Shown

/-! What is shown while a control session is live. A publication decided on before the session
was accepted can come after the session's own one. -/
namespace HarmonyNetBridge.Daemon
open Transition Function

/-- The goroutine of a control session that has published its accepted state. -/
def Handler.published : Handler → Bool
  | acknowledging .. | serving .. | beating .. | reporting .. | returning _ | releasing .. => true
  | _ => false

/-- A control session has published its accepted state and is still registered. -/
def PublishedLive (x : Sessions) : Prop :=
  ∃ c, x.registry.controlConnection = some c ∧ (x.handlers c).published = true

def LiveShown (s : State) : Prop :=
  PublishedLive s.sessions →
    s.snapshot.transport = .controlConnected ∨ s.snapshot.transport = .dataConnected

/-- Publications of an earlier session's release and of a mark of the mapping monitor. -/
def StalePublication (s : State) (l : Label) : Prop :=
  (∃ c, l = .device c .publishControlLoss) ∨ l = .monitor .publish ∨
    ∃ d token, l = .device d .publishDataLoss ∧
      s.sessions.handlers d = .publishingDataLoss token ∧ token ≠ s.sessions.registry.controlToken

/-- A stale publication leaves the transport of the live session alone. -/
def Undisturbed (s : State) (l : Label) (t : State) : Prop :=
  StalePublication s l → PublishedLive s.sessions → t.snapshot.transport = s.snapshot.transport

/-- No stale publication is made while a later session is live, unless it is the one of
`releaseData` and CONTROL_CONNECTED is shown anyway. -/
def OnTime (s : State) (l : Label) : Prop :=
  StalePublication s l → PublishedLive s.sessions →
    (∃ d, l = .device d .publishDataLoss) ∧ s.snapshot.transport = .controlConnected

variable {c : Conn} {s t : State} {e : DeviceEvent} {l : Label}

/-- Only the publication of the accepted state makes a session published. -/
theorem DeviceStep.published (h : DeviceStep c s e t)
    (hp : (t.sessions.handlers c).published = true) :
    (s.sessions.handlers c).published = true ∨ e = .publishAccepted := by
  cases h with
  | publishAccepted pc => exact .inr rfl
  | helloAck pc _ | controlFrame pc _ | publishHeartbeat pc | publishStatus pc | readPrevious pc =>
    exact .inl (by rw [pc]; rfl)
  | hello pc payload =>
    simp only [State.goto_sessions_handlers, update_self, afterHello] at hp
    split at hp <;> cases hp
  | dataHello pc payload =>
    simp only [State.goto_sessions_handlers, update_self, afterDataHello] at hp
    split at hp <;> cases hp
  | closeRelay pc =>
    simp only [State.withSessions_sessions, Sessions.goto_handlers, update_self,
      afterControlRelease] at hp
    split at hp <;> cases hp
  | closeDataRelay pc =>
    simp only [State.withSessions_sessions, Sessions.goto_handlers, update_self,
      afterDataRelease] at hp
    split at hp <;> cases hp
  | dataAck pc written => cases written <;> simp [Handler.published] at hp
  | dataFrame pc frame =>
    simp only [State.goto_sessions_handlers, update_self, dataLoop] at hp
    repeat' split at hp
    all_goals cases hp
  | _ => simp [Handler.published] at hp

/-- A session that is live after a step was live before, unless the step publishes it. -/
theorem PublishedLive.of_device (h : DeviceStep c s e t) (he : e ≠ .publishAccepted)
    (hl : PublishedLive t.sessions) : PublishedLive s.sessions := by
  obtain ⟨d, hd, hp⟩ := hl
  rcases h.effect.registered hd with hd | ⟨rfl, _, _, _, _, hpc⟩
  · refine ⟨d, hd, ?_⟩
    rcases eq_or_ne d c with rfl | hdc
    · exact (h.published hp).resolve_right he
    · rw [← h.effect.other hdc]
      exact hp
  · rw [hpc] at hp
    cases hp

theorem PublishedLive.of_main {e : MainEvent} (h : MainStep s e t) (hl : PublishedLive t.sessions) :
    PublishedLive s.sessions := by
  obtain ⟨d, hd, hp⟩ := hl
  obtain ⟨hhandlers, hreg | hreg⟩ := h.sessions
  · exact ⟨d, hreg ▸ hd, hhandlers ▸ hp⟩
  · rw [hreg] at hd
    cases hd

theorem liveShown_step (h : Step s l t) (hs : LiveShown s) (hu : Unserved s) (hok : OnTime s l) :
    LiveShown t := by
  intro hl
  cases h with
  | @device _ c e _ h =>
    cases h.shown with
    | same quiet transport vpn =>
      rw [transport]
      exact hs (hl.of_device h (by rintro rfl; cases quiet))
    | accepted transport vpn => exact .inl transport
    | attached transport vpn => exact .inr transport
    | reported pc transport =>
      rw [transport]
      exact hs (hl.of_device h (by simp))
    | controlLost transport vpn =>
      obtain ⟨⟨d, hd⟩, -⟩ := hok (.inl ⟨c, rfl⟩) (hl.of_device h (by simp))
      cases hd
    | dataLost transport vpn => exact .inl transport
  | monitor _ h =>
    rw [h.main.2] at hl
    rcases h.shown with ⟨hsame, -⟩ | ⟨mark, vpn, resume, -, -, rfl⟩
    · rw [hsame]
      exact hs hl
    · obtain ⟨⟨d, hd⟩, -⟩ := hok (.inr (.inl rfl)) hl
      cases hd
  | request _ h =>
    rw [h.main.2] at hl
    rw [h.shown.1]
    exact hs hl
  | main h =>
    have hl' := hl.of_main h
    rcases h.shown with hstart | ⟨transport, -⟩
    · obtain ⟨d, hd, -⟩ := hl'
      simp [(hu hstart).1] at hd
    · rw [transport]
      exact hs hl'
  | surroundings e => cases e <;> exact hs hl

theorem onTime_of_undisturbed (h : Step s l t) (hm : s.monitor.sound) (hs : LiveShown s)
    (hu : Undisturbed s l t) : OnTime s l := by
  intro hstale hl
  have hsame := hu hstale hl
  have hconn := hs hl
  rcases hstale with ⟨c, rfl⟩ | rfl | ⟨d, token, rfl, -, -⟩
  · cases h with
    | device _ h =>
      cases h.shown with
      | same quiet transport vpn => cases quiet
      | controlLost transport vpn => simp [← hsame, transport] at hconn
  · cases h with
    | monitor _ h =>
      rcases h.shown with ⟨-, he⟩ | ⟨mark, vpn, resume, hpc, hsnap, -⟩
      · exact absurd rfl he
      · have htransport : t.snapshot.transport = mark.transport := by rw [hsnap]; rfl
        rw [hpc] at hm
        rcases hm.1 with rfl | rfl
        · simp [← hsame, htransport, markMappingUnavailable] at hconn
        · simp [← hsame, htransport, markMappingAvailable] at hconn
  · refine ⟨⟨d, rfl⟩, ?_⟩
    cases h with
    | device _ h =>
      cases h.shown with
      | same quiet transport vpn => cases quiet
      | dataLost transport vpn => rw [← hsame, transport]

theorem undisturbed_of_onTime (h : Step s l t) (hok : OnTime s l) : Undisturbed s l t := by
  intro hstale hl
  obtain ⟨⟨d, rfl⟩, hshown⟩ := hok hstale hl
  cases h with
  | device _ h =>
    cases h.shown with
    | same quiet transport vpn => cases quiet
    | dataLost transport vpn => rw [hshown, transport]

/-- In every run whose stale publications are on time, a live session is shown as connected, and
a step from there keeps that and the transport of the live session exactly if it is on time. -/
theorem live_session_shown {s : State} (h : Reachable (Guarded Step OnTime) Initial s) :
    LiveShown s ∧ ∀ l t, Step s l t → (LiveShown t ∧ Undisturbed s l t ↔ OnTime s l) := by
  have hshown : Reached s ∧ LiveShown s := by
    refine h.guardedInvariant ?_ ?_
    · rintro s ⟨pid, config, files, rfl⟩ ⟨c, hc, -⟩
      cases hc
    · intro s l t hr hstep hok hs
      exact liveShown_step hstep hs (unserved_reached hr) hok
  obtain ⟨hreached, hs⟩ := hshown
  refine ⟨hs, fun l t hstep => ⟨?_, ?_⟩⟩
  · rintro ⟨-, hu⟩
    exact onTime_of_undisturbed hstep (monitor_sound_reached hreached) hs hu
  · intro hok
    exact ⟨liveShown_step hstep hs (unserved_reached hreached) hok, undisturbed_of_onTime hstep hok⟩

/-- Labels that cannot be stale publications. -/
def Label.timely : Label → Bool
  | .device _ .publishControlLoss | .device _ .publishDataLoss | .monitor .publish => false
  | _ => true

theorem Label.onTime (h : l.timely = true) (s : State) : OnTime s l := by
  rintro (⟨c, rfl⟩ | rfl | ⟨d, token, rfl, -, -⟩) <;> cases h

theorem live_session_shown_controlled :
    PublishedLive controlledState.sessions ∧ LiveShown controlledState := by
  have htimely : ∀ l ∈ startup ++ controlHandshake 1 0, l.timely = true := by decide
  have hrun : Run (Guarded Step OnTime) _ _ controlledState :=
    controlledState_run.guarded fun l hl => Label.onTime (htimely l hl)
  exact ⟨⟨1, rfl, rfl⟩, (live_session_shown ⟨_, _, ⟨1, plainConfig, emptyFiles, rfl⟩, hrun⟩).1⟩

/-- The release of connection 1 publishes PORT_READY after connection 3 has been accepted and has
published. -/
theorem live_session_overwritten : ∃ t, Run Step controlledState
      ([.device 1 (.controlFrame none), .device 1 .readPrevious, .device 1 .releaseControl,
        .device 1 .closeData, .device 1 .closeRelay] ++ controlHandshake 3 1 ++
        [.device 1 .publishControlLoss]) t ∧
    Reached controlledState ∧ PublishedLive t.sessions ∧ t.snapshot.transport = .portReady := by
  refine ⟨_, Run.snoc (Run.append
    (device_run (.controlFrame rfl none) <| device_run (.readPrevious rfl) <|
      device_run (.releaseControl rfl rfl) <| device_run (.closeData rfl) <|
      device_run (.closeRelay rfl) <| .nil _)
    (connectControl_run Main.noConfusion rfl rfl (by decide) rfl rfl))
    (.device Main.noConfusion (.publishControlLoss rfl)), ?_, ⟨3, rfl, rfl⟩, rfl⟩
  exact ⟨_, _, ⟨1, plainConfig, emptyFiles, rfl⟩, controlledState_run⟩

end HarmonyNetBridge.Daemon
