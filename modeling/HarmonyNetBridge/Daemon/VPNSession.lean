import HarmonyNetBridge.Daemon.SessionOwnership

/-! One VPN session by itself: how far its control goroutine `c` has got with leaving it, and
what a data goroutine `d` can change meanwhile. -/
namespace HarmonyNetBridge.Daemon
open Transition

def Label.ofPair (c d : Conn) (l : Label) : Prop := ∃ e, l = .device c e ∨ l = .device d e

/-- The goroutine handles a data connection, from its checked DATA_HELLO on. -/
def Handler.dataHandler : Handler → Bool
  | binding _ | creatingRelay _ | attaching .. | discarding _ | dataAcknowledging .. | forwarding ..
  | dataBeating .. | dataReturning .. | dataClosing .. | dataReporting .. | dataClosingRelay ..
  | publishingDataLoss _ | returned => true
  | _ => false

variable {h : Handler} {d c : Conn} {x : Sessions}

theorem Handler.dataHandler_of_dataSide {p : String × Option RelayId} (hp : h.dataSide = some p) :
    h.dataHandler = true := by
  cases h <;> first | rfl | cases hp

theorem Handler.controlSide_of_dataHandler (hd : h.dataHandler = true) : h.controlSide = none := by
  cases h <;> first | rfl | cases hd

/-- The fields a data goroutine never changes. -/
def Registry.controlFields (r : Registry) : Option Conn × Option Mode × String × Bool × Bool :=
  (r.controlConnection, r.controlMode, r.controlToken, r.reconnectPending, r.stopping)

theorem dataLoop_dataHandler (token : String) (relay : RelayId) (expected : UInt32)
    (frame : Option (UInt32 × DataFrame)) :
    (dataLoop token relay expected frame).dataHandler = true := by
  unfold dataLoop
  dsimp only
  repeat' split
  all_goals rfl

theorem afterDataRelease_dataHandler (token : String) (release : DataRelease) :
    (afterDataRelease token release).dataHandler = true := by
  unfold afterDataRelease
  split <;> rfl

@[simp] theorem publishFinalStats_sessions (relay : Option RelayId) (stats : RelayStats)
    (s : State) : (publishFinalStats relay stats s).sessions = s.sessions := by
  unfold publishFinalStats
  split <;> rfl

/-- A step of a data goroutine, and what it can do to the transport status. -/
theorem DeviceStep.data {s t : State} {e : DeviceEvent} (h : DeviceStep d s e t)
    (hd : (s.sessions.handlers d).dataHandler = true) : (t.sessions.handlers d).dataHandler = true ∧
      t.sessions.registry.controlFields = s.sessions.registry.controlFields ∧
      (t.snapshot.transport = s.snapshot.transport ∨
        (e = .attachRelay ∧ s.sessions.registry.controlConnection ≠ none) ∨
        (e = .publishDataLoss ∧ t.snapshot.transport = .controlConnected)) := by
  cases h with
  | rejectData pc _ | noRelay pc | newRelay pc _ | notAttached pc _ | discardRelay pc | notData pc _
  | closeConnection pc =>
    exact ⟨by simp [Handler.dataHandler], rfl, .inl rfl⟩
  | bindData pc taken =>
    obtain ⟨-, -, -, -, -, rfl⟩ := Registry.bindData_eq_some taken
    exact ⟨by simp [Handler.dataHandler], rfl, .inl rfl⟩
  | attachRelay pc taken =>
    obtain ⟨-, held, -, rfl⟩ := Registry.attachRelay_eq_some taken
    exact ⟨by simp [Handler.dataHandler], rfl, .inr (.inl ⟨rfl, held⟩)⟩
  | dataAck pc written =>
    cases written <;> exact ⟨by simp [Handler.dataHandler], rfl, .inl rfl⟩
  | dataFrame pc frame =>
    exact ⟨by simp [dataLoop_dataHandler], rfl, .inl rfl⟩
  | publishDataHeartbeat pc => exact ⟨by simp [Handler.dataHandler], rfl, .inl rfl⟩
  | releaseData pc taken =>
    obtain ⟨-, rfl, -⟩ := Registry.releaseData_eq_some taken
    exact ⟨by simp [Handler.dataHandler], rfl, .inl rfl⟩
  | publishRelayStats pc stats =>
    refine ⟨by simp [Handler.dataHandler], by simp, .inl ?_⟩
    simp only [publishFinalStats]
    split <;> rfl
  | closeDataRelay pc => exact ⟨by simp [afterDataRelease_dataHandler], rfl, .inl rfl⟩
  | publishDataLoss pc => exact ⟨by simp [Handler.dataHandler], rfl, .inr (.inr ⟨rfl, by simp⟩)⟩
  | _ pc =>
    rw [pc] at hd
    cases hd

/-- The session of `c` is registered. -/
structure Live (c : Conn) (x : Sessions) : Prop where
  side : (x.handlers c).controlSide = some .vpn
  held : x.registry.controlConnection = some c
  vpn : x.registry.controlMode = some .vpn
  up : x.registry.stopping = false

/-- `releaseControl` has made its section and has yet to publish. -/
structure Leaving (c : Conn) (x : Sessions) : Prop where
  place : (∃ release : ControlRelease, release.mode = some .vpn ∧ release.stopping = false ∧
    (x.handlers c = .closingData release ∨ x.handlers c = .closingRelay release)) ∨
    x.handlers c = .publishingControlLoss (some .vpn)
  free : x.registry.controlConnection = none

/-- `releaseControl` has published. -/
structure Left (c : Conn) (x : Sessions) : Prop where
  place : x.handlers c = .returned
  free : x.registry.controlConnection = none

theorem Owned.live {σ : Sess} (hx : Owned x σ) (hc : x.registry.controlConnection = some c)
    (hm : x.registry.controlMode = some .vpn) : Live c x := by
  refine ⟨(hx.control c hc).trans hm, hc, hm, ?_⟩
  by_contra hstop
  have hfree := hx.represents.idle (Bool.eq_true_of_not_eq_false hstop)
  rw [hx.represents.control, hfree] at hc
  cases hc

theorem Live.ne_of_dataHandler (h : Live c x) (hd : (x.handlers d).dataHandler = true) : c ≠ d := by
  rintro rfl
  have hside := h.side
  rw [Handler.controlSide_of_dataHandler hd] at hside
  cases hside

theorem Live.not_returned (h : Live c x) : x.handlers c ≠ .returned := by
  intro hpc
  have hside := h.side
  rw [hpc] at hside
  cases hside

/-- In the middle of `releaseControl` a goroutine is neither in its session nor done. -/
theorem Leaving.elsewhere (h : Leaving c x) :
    x.handlers c ≠ .returned ∧ (∀ mode previous, x.handlers c ≠ .releasing mode previous) ∧
      ∀ expected status message, x.handlers c ≠ .reporting expected status message := by
  obtain ⟨_, -, -, hpc | hpc⟩ | hpc := h.place <;> simp [hpc]

section frame
variable {c : Conn} {x y : Sessions} (hc : y.handlers c = x.handlers c)
  (hr : y.registry.controlFields = x.registry.controlFields)
include hc hr

theorem Live.frame (h : Live c x) : Live c y := by
  simp only [Registry.controlFields, Prod.mk.injEq] at hr
  exact ⟨hc ▸ h.side, hr.1 ▸ h.held, hr.2.1 ▸ h.vpn, hr.2.2.2.2 ▸ h.up⟩

theorem Leaving.frame (h : Leaving c x) : Leaving c y := by
  simp only [Registry.controlFields, Prod.mk.injEq] at hr
  exact ⟨hc ▸ h.place, hr.1 ▸ h.free⟩

theorem Left.frame (h : Left c x) : Left c y := by
  simp only [Registry.controlFields, Prod.mk.injEq] at hr
  exact ⟨hc ▸ h.place, hr.1 ▸ h.free⟩

end frame

theorem Live.of_goto {c : Conn} {x : Sessions} {h : Handler} (hx : Live c x)
    (hh : h.controlSide = some .vpn) : Live c (x.goto c h) :=
  ⟨by simp [hh], hx.held, hx.vpn, hx.up⟩

theorem Live.step {c : Conn} {s t : State} {e : DeviceEvent} (hs : Live c s.sessions)
    (h : DeviceStep c s e t) :
    (Live c t.sessions ∧ t.sessions.registry = s.sessions.registry ∧ e ≠ .publishControlLoss) ∨
      ∃ previous, s.sessions.handlers c = .releasing .vpn previous ∧
        t.sessions.registry = s.sessions.registry.withoutControl previous ∧
        Leaving c t.sessions ∧ t.snapshot = s.snapshot ∧ e = .releaseControl := by
  have hside := hs.side
  cases h with
  | publishAccepted pc | publishHeartbeat pc | publishStatus pc | readPrevious pc =>
    rw [pc] at hside
    cases hside
    exact .inl ⟨hs.of_goto rfl, rfl, by simp⟩
  | helloAck pc written =>
    rw [pc] at hside
    cases hside
    cases written <;> exact .inl ⟨hs.of_goto rfl, rfl, by simp⟩
  | controlFrame pc frame =>
    rw [pc] at hside
    cases hside
    exact .inl ⟨hs.of_goto (controlLoop_sides _ _ _ _ _ _).1, rfl, by simp⟩
  | notControl pc refused => exact absurd hs.held (Registry.releaseControl_eq_none refused)
  | @releaseControl mode previous r release pc taken =>
    rw [pc] at hside
    cases hside
    obtain ⟨-, rfl, rfl⟩ := Registry.releaseControl_eq_some taken
    refine .inr ⟨previous, pc, rfl, ⟨.inl ?_, rfl⟩, rfl, rfl⟩
    exact ⟨⟨s.sessions.registry.controlMode, _, _, s.sessions.registry.stopping⟩, hs.vpn, hs.up,
      .inl (Function.update_self ..)⟩
  | _ pc =>
    rw [pc] at hside
    cases hside

theorem Leaving.step {c : Conn} {s t : State} {e : DeviceEvent} (hs : Leaving c s.sessions)
    (h : DeviceStep c s e t) : t.sessions.registry = s.sessions.registry ∧
      ((Leaving c t.sessions ∧ t.snapshot = s.snapshot ∧ e ≠ .publishControlLoss) ∨
        (Left c t.sessions ∧ t.snapshot = publishControlLoss (some .vpn) s.snapshot ∧
          e = .publishControlLoss)) := by
  obtain ⟨⟨release, hmode, hup, hpc | hpc⟩ | hpc, hfree⟩ := hs
  · cases h with
    | closeData pc =>
      obtain rfl := Handler.closingData.inj (hpc.symm.trans pc)
      refine ⟨rfl, .inl ⟨⟨.inl ⟨release, hmode, hup, .inr ?_⟩, hfree⟩, rfl, by simp⟩⟩
      simp
    | _ pc => simp [hpc] at pc
  · cases h with
    | closeRelay pc =>
      obtain rfl := Handler.closingRelay.inj (hpc.symm.trans pc)
      refine ⟨rfl, .inl ⟨⟨.inr ?_, hfree⟩, rfl, by simp⟩⟩
      simp [afterControlRelease, hup, hmode]
    | _ pc => simp [hpc] at pc
  · cases h with
    | publishControlLoss pc =>
      obtain rfl := Handler.publishingControlLoss.inj (hpc.symm.trans pc)
      exact ⟨rfl, .inr ⟨⟨by simp, hfree⟩, rfl, rfl⟩⟩
    | _ pc => simp [hpc] at pc

theorem Left.step {c : Conn} {s t : State} {e : DeviceEvent} (hs : Left c s.sessions)
    (h : DeviceStep c s e t) : False := by
  have hpc := hs.place
  cases h with
  | _ pc => simp [hpc] at pc

end HarmonyNetBridge.Daemon
