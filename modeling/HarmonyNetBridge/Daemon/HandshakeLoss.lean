import HarmonyNetBridge.Daemon.RelayOwnership
import HarmonyNetBridge.Daemon.Shown
import HarmonyNetBridge.Daemon.VPNSession

/-! A VPN session loses its control connection while a data handshake is going on. The second
section of the handshake publishes before it unlocks, so the loss is published last. -/
namespace HarmonyNetBridge.Daemon
open Transition Function

/-- The goroutine has STOPPED in hand, reported or read from the snapshot. -/
def Handler.stops : Handler → Bool
  | reporting _ status _ => status == .stopped
  | releasing _ previous => previous == .stopped
  | _ => false

/-- The goroutine of a control session that has yet to publish its accepted state. -/
def Handler.accepting : Handler → Bool
  | publishingAccepted .. => true
  | _ => false

/-- The goroutine of a data connection that does not leave its data channel. -/
def Handler.handshaking : Handler → Bool
  | binding _ | creatingRelay _ | attaching .. | discarding _ | dataAcknowledging .. | forwarding ..
  | dataBeating .. | returned => true
  | _ => false

theorem Handler.dataHandler_of_handshaking {h : Handler} (hh : h.handshaking = true) :
    h.dataHandler = true := by
  cases h <;> first | rfl | cases hh

/-- The device reports no STOPPED, the relay can be created, and the data connection ends only
after the Mac has closed it. -/
structure PeerStays (c d : Conn) (s : State) (l : Label) : Prop where
  pair : l.ofPair c d
  reports : ∀ sequence payload, payload.state = VPNStatus.stopped.text →
    l ≠ .device c (.controlFrame (some (sequence, .vpnStatus (some payload))))
  creates : l ≠ .device d (.newRelay none)
  acks : l = .device d (.dataAck false) → d ∈ s.sessions.closed
  frames : ∀ frame token relay expected, l = .device d (.dataFrame frame) →
    s.sessions.handlers d = .forwarding token relay expected →
    dataLoop token relay expected frame = .dataReturning token (some relay) →
      d ∈ s.sessions.closed

variable {c d : Conn} {s t : State} {e : DeviceEvent}

theorem controlLoop_stops {r : Registry} {proxyActive : Bool} {mode : Mode} {expected : UInt32}
    {frame : Option (UInt32 × ControlFrame)}
    (h : ∀ sequence payload, payload.state = VPNStatus.stopped.text →
      frame ≠ some (sequence, .vpnStatus (some payload))) :
    (controlLoop r c proxyActive mode expected frame).stops = false := by
  unfold controlLoop
  dsimp only
  repeat' split
  all_goals try rfl
  next sequence _ _ _ _ report status message haccept =>
    by_contra hstop
    obtain rfl : status = .stopped := by simpa [Handler.stops] using hstop
    obtain ⟨payload, rfl, hpayload⟩ := acceptReport_state haccept
    exact h sequence payload hpayload rfl

theorem dataLoop_handshaking (token : String) (relay : RelayId) (expected : UInt32)
    (frame : Option (UInt32 × DataFrame)) :
    (dataLoop token relay expected frame).handshaking = true ∨
      dataLoop token relay expected frame = .dataReturning token (some relay) := by
  unfold dataLoop
  dsimp only
  repeat' split
  all_goals first | exact .inl rfl | exact .inr rfl

theorem DeviceStep.handshake (h : DeviceStep d s e t) (hok : PeerStays c d s (.device d e))
    (hopen : d ∉ s.sessions.closed) (hd : (s.sessions.handlers d).handshaking = true) :
    (t.sessions.handlers d).handshaking = true ∧ t.sessions.closed = s.sessions.closed ∧
      (t.snapshot.vpn = s.snapshot.vpn ∨ t.snapshot.vpn = .starting) := by
  cases h with
  | rejectData pc _ | bindData pc _ | newRelay pc _ | notAttached pc _ | discardRelay pc
  | publishDataHeartbeat pc => exact ⟨by simp [Handler.handshaking], rfl, .inl rfl⟩
  | attachRelay pc _ => exact ⟨by simp [Handler.handshaking], rfl, .inr rfl⟩
  | noRelay pc => exact absurd rfl hok.creates
  | dataAck pc written =>
    cases written with
    | false => exact absurd (hok.acks rfl) hopen
    | true => exact ⟨by simp [Handler.handshaking], rfl, .inl rfl⟩
  | dataFrame pc frame =>
    refine ⟨?_, rfl, .inl rfl⟩
    rcases dataLoop_handshaking _ _ _ frame with hloop | hloop
    · simpa using hloop
    · exact absurd (hok.frames _ _ _ _ rfl pc hloop) hopen
  | _ pc =>
    rw [pc] at hd
    cases hd

/-- The data handshake once its session is gone: it changes nothing that is shown. -/
theorem DeviceStep.handshake_free (h : DeviceStep d s e t)
    (hfree : s.sessions.registry.controlConnection = none)
    (hdata : s.sessions.registry.dataConnection = none)
    (hd : (s.sessions.handlers d).handshaking = true ∨
      ∃ token relay, s.sessions.handlers d = .dataReturning token relay) :
    ((t.sessions.handlers d).handshaking = true ∨
      ∃ token relay, t.sessions.handlers d = .dataReturning token relay) ∧
      t.sessions.registry = s.sessions.registry ∧
      t.snapshot.transport = s.snapshot.transport ∧ t.snapshot.vpn = s.snapshot.vpn := by
  cases h with
  | rejectData pc _ | newRelay pc _ | notAttached pc _ | discardRelay pc | publishDataHeartbeat pc
  | notData pc _ => exact ⟨.inl (by simp [Handler.handshaking]), rfl, rfl, rfl⟩
  | noRelay pc => exact ⟨.inr ⟨_, _, update_self ..⟩, rfl, rfl, rfl⟩
  | bindData pc taken => exact absurd hfree (Registry.bindData_eq_some taken).2.1
  | attachRelay pc taken => exact absurd hfree (Registry.attachRelay_eq_some taken).2.1
  | releaseData pc taken =>
    have held := (Registry.releaseData_eq_some taken).1
    simp [hdata] at held
  | dataAck pc written =>
    cases written with
    | false => exact ⟨.inr ⟨_, _, update_self ..⟩, rfl, rfl, rfl⟩
    | true => exact ⟨.inl (by simp [Handler.handshaking]), rfl, rfl, rfl⟩
  | dataFrame pc frame =>
    refine ⟨?_, rfl, rfl, rfl⟩
    rcases dataLoop_handshaking _ _ _ frame with hloop | hloop
    · exact .inl (by simpa using hloop)
    · exact .inr ⟨_, _, (update_self ..).trans hloop⟩
  | _ pc => simp [pc, Handler.handshaking] at hd

/-- Without a STOPPED report the control goroutine neither shows STOPPED nor reads it. -/
theorem DeviceStep.unstopped (h : DeviceStep c s e t) (hok : PeerStays c d s (.device c e))
    (hlive : Live c s.sessions) (hreports : (s.sessions.handlers c).stops = false)
    (hvpn : s.snapshot.vpn ≠ .stopped ∨ (s.sessions.handlers c).accepting = true) :
    t.sessions.closed = s.sessions.closed ∧ (t.sessions.handlers c).stops = false ∧
      t.snapshot.vpn ≠ .stopped := by
  have hside := hlive.side
  cases h with
  | publishAccepted pc =>
    rw [pc] at hside
    cases hside
    exact ⟨rfl, by simp [Handler.stops], by simp [publishAccepted_vpn]⟩
  | helloAck pc written =>
    rw [pc] at hvpn
    refine ⟨rfl, ?_, by simpa [Handler.accepting] using hvpn⟩
    cases written <;> simp [Handler.stops]
  | controlFrame pc frame =>
    rw [pc] at hvpn
    refine ⟨rfl, ?_, by simpa [Handler.accepting] using hvpn⟩
    simp only [State.goto_sessions_handlers, update_self]
    refine controlLoop_stops fun sequence payload hpayload hframe => ?_
    exact hok.reports sequence payload hpayload (by rw [hframe])
  | publishHeartbeat pc =>
    rw [pc] at hvpn
    exact ⟨rfl, by simp [Handler.stops],
      by simpa [Handler.accepting, Daemon.publishHeartbeat] using hvpn⟩
  | publishStatus pc =>
    rw [pc] at hreports
    exact ⟨rfl, by simp [Handler.stops], by simpa [Handler.stops, Daemon.publishStatus] using hreports⟩
  | readPrevious pc =>
    rw [pc] at hvpn
    have hshown : s.snapshot.vpn ≠ .stopped := by simpa [Handler.accepting] using hvpn
    exact ⟨rfl, by simpa [Handler.stops] using hshown, hshown⟩
  | notControl pc refused => exact absurd hlive.held (Registry.releaseControl_eq_none refused)
  | releaseControl pc taken =>
    rw [pc] at hvpn
    exact ⟨rfl, by simp [Handler.stops], by simpa [Handler.accepting] using hvpn⟩
  | _ pc =>
    rw [pc] at hside
    cases hside

/-- How far the loss of `c` has got, and what is shown then. -/
inductive ControlLost (c d : Conn) (s : State) : Prop
  | live (phase : Live c s.sessions) (reports : (s.sessions.handlers c).stops = false)
      (vpn : s.snapshot.vpn ≠ .stopped ∨ (s.sessions.handlers c).accepting = true)
      (socket : d ∉ s.sessions.closed) (place : (s.sessions.handlers d).handshaking = true)
  | gone (phase : (Leaving c s.sessions ∧ s.snapshot.vpn ≠ .stopped) ∨
        (Left c s.sessions ∧ s.snapshot.transport = .portReady ∧ s.snapshot.vpn = .reconnecting))
      (reconnect : s.sessions.registry.reconnectPending = true)
      (data : s.sessions.registry.dataConnection = none)
      (place : (s.sessions.handlers d).handshaking = true ∨
        ∃ token relay, s.sessions.handlers d = .dataReturning token relay)

namespace ControlLost
variable {c d : Conn} {s t : State} {e : DeviceEvent}

theorem controlStep (hs : ControlLost c d s) (hcd : c ≠ d) (hok : PeerStays c d s (.device c e))
    (h : DeviceStep c s e t) : ControlLost c d t := by
  have hd := h.effect.other hcd.symm
  cases hs with
  | live phase reports vpn socket place =>
    obtain ⟨hclosed, hreports, hvpn⟩ := h.unstopped hok phase reports vpn
    rcases phase.step h with ⟨phase', -, -⟩ | ⟨previous, hpc, hreg, leaving, -, -⟩
    · exact .live phase' hreports (.inl hvpn) (hclosed ▸ socket) (hd ▸ place)
    · have hprev : previous ≠ .stopped := by
        rw [hpc] at reports
        simpa [Handler.stops] using reports
      refine .gone (.inl ⟨leaving, hvpn⟩) ?_ ?_ (.inl (hd ▸ place))
      · simp [hreg, phase.vpn, phase.up, hprev]
      · simp [hreg]
  | gone phase reconnect data place =>
    rw [← hd] at place
    rcases phase with ⟨leaving, hvpn⟩ | ⟨left, -⟩
    · obtain ⟨hreg, hnext⟩ := leaving.step h
      rw [← hreg] at reconnect data
      refine .gone ?_ reconnect data place
      rcases hnext with ⟨leaving', hsnap, -⟩ | ⟨left, hsnap, -⟩
      · exact .inl ⟨leaving', hsnap ▸ hvpn⟩
      · exact .inr ⟨left, by simp [hsnap], by simp [hsnap, publishControlLoss_vpn, hvpn]⟩
    · exact (left.step h).elim

theorem dataStep (hs : ControlLost c d s) (hcd : c ≠ d) (hok : PeerStays c d s (.device d e))
    (h : DeviceStep d s e t) : ControlLost c d t := by
  have hc := h.effect.other hcd
  cases hs with
  | live phase reports vpn socket place =>
    obtain ⟨place', hclosed, hvpn⟩ := h.handshake hok socket place
    have hfields := (h.data (Handler.dataHandler_of_handshaking place)).2.1
    refine .live (phase.frame hc hfields) (hc ▸ reports) ?_ (hclosed ▸ socket) place'
    rw [hc]
    rcases hvpn with hvpn | hvpn
    · rw [hvpn]
      exact vpn
    · exact .inl (by simp [hvpn])
  | gone phase reconnect data place =>
    have hfree : s.sessions.registry.controlConnection = none :=
      phase.elim (fun leaving => leaving.1.free) (fun left => left.1.free)
    obtain ⟨place', hreg, htransport, hvpn⟩ := h.handshake_free hfree data place
    have hfields := congrArg Registry.controlFields hreg
    rw [← hreg] at reconnect data
    refine .gone ?_ reconnect data place'
    rw [htransport, hvpn]
    exact phase.imp (And.imp_left (Leaving.frame hc hfields)) (And.imp_left (Left.frame hc hfields))

theorem run {ls : List Label} (hs : ControlLost c d s) (hcd : c ≠ d)
    (h : Run (Guarded Step (PeerStays c d)) s ls t) : ControlLost c d t := by
  refine h.invariant (I := ControlLost c d) ?_ hs
  rintro s l t ⟨hstep, hok⟩ hs
  obtain ⟨e, rfl | rfl⟩ := hok.pair
  · cases hstep with
    | device _ h => exact hs.controlStep hcd hok h
  · cases hstep with
    | device _ h => exact hs.dataStep hcd hok h

end ControlLost

variable {c d : Conn} {s t : State} {ls : List Label}

/-- Steps of two goroutines leave the others and `Run` alone. -/
theorem ofPair_frame (h : Run (Guarded Step (PeerStays c d)) s ls t) :
    t.main = s.main ∧ ∀ k, k ≠ c → k ≠ d → t.sessions.handlers k = s.sessions.handlers k := by
  refine h.invariant (I := fun t => t.main = s.main ∧
    ∀ k, k ≠ c → k ≠ d → t.sessions.handlers k = s.sessions.handlers k) ?_ ⟨rfl, fun _ _ _ => rfl⟩
  rintro u l v ⟨hstep, hok⟩ ⟨hmain, hothers⟩
  obtain ⟨e, rfl | rfl⟩ := hok.pair
  · cases hstep with
    | device _ h =>
      exact ⟨h.main.trans hmain, fun k hc hd => (h.effect.other hc).trans (hothers k hc hd)⟩
  · cases hstep with
    | device _ h =>
      exact ⟨h.main.trans hmain, fun k hc hd => (h.effect.other hd).trans (hothers k hc hd)⟩

/-- A relay that two goroutines created is closed when both have returned and none is published. -/
theorem created_closed (hs : Reached s) (h : Run (Guarded Step (PeerStays c d)) s ls t)
    (hct : t.sessions.handlers c = .returned) (hdt : t.sessions.handlers d = .returned)
    (hnone : t.sessions.registry.dataRelay = none) {r : RelayId} (hr : r ∈ t.sessions.created)
    (hnew : r ∉ s.sessions.created) : t.sessions.closes r = 1 := by
  have ht := hs.run (h.mono fun _ _ _ hstep => hstep.1)
  have howned := RelaysOwned.reached hs
  obtain ⟨hmain, hothers⟩ := ofPair_frame h
  apply (RelaysOwned.reached ht).disposed_once hr
  -- whoever keeps `r` kept it before the run, when `r` did not exist
  intro z hz
  cases z with
  | registry => simp [Sessions.kept, hnone] at hz
  | shutdown =>
    rw [hmain] at hz
    exact hnew (howned.live .shutdown r hz).1
  | handler k =>
    rcases eq_or_ne k c with rfl | hkc
    · simp [Sessions.kept, hct, Handler.relay] at hz
    rcases eq_or_ne k d with rfl | hkd
    · simp [Sessions.kept, hdt, Handler.relay] at hz
    · simp only [Sessions.kept, hothers k hkc hkd] at hz
      exact hnew (howned.live (.handler k) r hz).1

/-- A VPN session on `c` loses its control connection while the data handshake of `d` is going on,
at whatever point of it. When both goroutines have returned, the loss is what is shown, nothing is
registered any more and the relay of the handshake was closed. -/
theorem control_loss_wins {c d : Conn} {token : String} {s t : State} {ls : List Label}
    (hs : Reached s) (hc : s.sessions.registry.controlConnection = some c)
    (hmode : s.sessions.registry.controlMode = some .vpn)
    (hvpn : s.snapshot.vpn ≠ .stopped ∨ (s.sessions.handlers c).accepting = true)
    (hreports : (s.sessions.handlers c).stops = false)
    (hd : s.sessions.handlers d = .binding token) (hopen : d ∉ s.sessions.closed)
    (hrun : Run (Guarded Step (PeerStays c d)) s ls t) (hct : t.sessions.handlers c = .returned)
    (hdt : t.sessions.handlers d = .returned) :
    t.snapshot.transport = .portReady ∧ t.snapshot.vpn = .reconnecting ∧
      t.sessions.registry.reconnectPending = true ∧ t.sessions.registry.dataConnection = none ∧
      t.sessions.registry.dataRelay = none ∧
      ∀ r ∈ t.sessions.created, r ∉ s.sessions.created → t.sessions.closes r = 1 := by
  obtain ⟨σ, -, howned⟩ := Owned.reached hs
  have hlive := howned.live hc hmode
  have hcd : c ≠ d := hlive.ne_of_dataHandler (by rw [hd]; rfl)
  have hstart : ControlLost c d s := .live hlive hreports hvpn hopen (by rw [hd]; rfl)
  obtain ⟨τ, hτ, hend⟩ := Owned.reached (hs.run (hrun.mono fun _ _ _ hstep => hstep.1))
  cases hstart.run hcd hrun with
  | live phase _ _ _ _ => exact absurd hct phase.not_returned
  | gone phase reconnect data place =>
    rcases phase with ⟨leaving, -⟩ | ⟨-, htransport, hshown⟩
    · exact absurd hct leaving.elsewhere.1
    · have hrelay : t.sessions.registry.dataRelay = none := by
        by_contra hne
        exact (hend.ownsSessions hτ).relay hne data
      exact ⟨htransport, hshown, reconnect, data, hrelay,
        fun r => created_closed hs hrun hct hdt hrelay⟩

/-- The control connection is lost while the relay of the handshake is created. -/
def lostDuringHandshake : List Label :=
  [.device 2 .bindData, .device 1 (.controlFrame none), .device 1 .readPrevious,
    .device 2 (.newRelay (some 7)), .device 1 .releaseControl, .device 2 .attachRelay,
    .device 1 .closeData, .device 1 .closeRelay, .device 2 .discardRelay,
    .device 1 .publishControlLoss]

theorem control_loss_wins_controlled : ∃ t, Run Step controlledState
      ([.device 2 .accept, .device 2 (.dataHello (some ⟨tokenOf 0, "data"⟩))] ++
        lostDuringHandshake) t ∧
    t.snapshot.transport = .portReady ∧ t.snapshot.vpn = .reconnecting ∧
    t.sessions.registry.reconnectPending = true ∧ 7 ∈ t.sessions.created ∧
    t.sessions.closes 7 = 1 := by
  have hhello : Run Step controlledState
      [.device 2 .accept, .device 2 (.dataHello (some ⟨tokenOf 0, "data"⟩))]
      ((controlledState.goto 2 .accepted).goto 2 (.binding (tokenOf 0))) := by
    have hafter : afterDataHello (some ⟨tokenOf 0, "data"⟩) = .binding (tokenOf 0) := rfl
    rw [← hafter]
    exact device_run (.accept rfl rfl) <| device_run (.dataHello rfl _) <| .nil _
  have hlost : ∃ t, Run Step ((controlledState.goto 2 .accepted).goto 2 (.binding (tokenOf 0)))
      lostDuringHandshake t ∧ t.sessions.handlers 1 = .returned ∧
      t.sessions.handlers 2 = .returned ∧ t.sessions.created = [7] :=
    ⟨_, device_run (.bindData rfl rfl) <| device_run (.controlFrame rfl none) <|
      device_run (.readPrevious rfl) <| device_run (.newRelay rfl List.not_mem_nil) <|
      device_run (.releaseControl rfl rfl) <| device_run (.notAttached rfl rfl) <|
      device_run (.closeData rfl) <| device_run (.closeRelay rfl) <| device_run (.discardRelay rfl) <|
      device_run (.publishControlLoss rfl) <| .nil _, rfl, rfl, rfl⟩
  obtain ⟨t, hrun, hct, hdt, hcreated⟩ := hlost
  have hstays : ∀ l ∈ lostDuringHandshake, ∀ s, PeerStays 1 2 s l := by
    intro l hl s
    simp only [lostDuringHandshake, List.mem_cons, List.not_mem_nil, or_false] at hl
    rcases hl with rfl | rfl | rfl | rfl | rfl | rfl | rfl | rfl | rfl | rfl <;>
      exact ⟨by simp [Label.ofPair], by simp, by simp, by simp, by simp⟩
  have hreached : Reached controlledState := ⟨_, _, ⟨1, plainConfig, emptyFiles, rfl⟩,
    controlledState_run⟩
  have hend := control_loss_wins (c := 1) (d := 2) (hreached.run hhello) rfl rfl
    (.inl (by decide)) rfl rfl (by decide) (hrun.guarded hstays) hct hdt
  have hmem : 7 ∈ t.sessions.created := by simp [hcreated]
  exact ⟨t, hhello.append hrun, hend.1, hend.2.1, hend.2.2.1, hmem,
    hend.2.2.2.2.2 7 hmem (by decide)⟩

end HarmonyNetBridge.Daemon
