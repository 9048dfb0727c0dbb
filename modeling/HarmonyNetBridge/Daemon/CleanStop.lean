import HarmonyNetBridge.Daemon.SessionLoss

/-! The App stops cleanly: it closes its data channel, reports STOPPED and closes the control
connection. `releaseData` publishes RECONNECTING whatever the control goroutine has shown. -/
namespace HarmonyNetBridge.Daemon
open Transition Function List

abbrev statusReport (c : Conn) : Label := .device c .publishStatus

structure StoppedClean (s : State) : Prop where
  vpn : s.snapshot.vpn = .stopped
  code : s.snapshot.lastErrorCode = none
  reconnect : s.sessions.registry.reconnectPending = false

/-- The control goroutine of an accepted session that has no report but STOPPED in hand. -/
def Handler.stopsOnly : Handler → Bool
  | serving .. | beating .. | returning _ | releasing .. => true
  | reporting _ status _ => status == .stopped
  | _ => false

/-- The data goroutine, from its DATA_ACK on. -/
def Handler.established : Handler → Bool
  | forwarding .. | dataBeating .. | dataReturning .. | dataClosing .. | dataReporting ..
  | dataClosingRelay .. | publishingDataLoss _ | returned => true
  | _ => false

theorem Handler.dataHandler_of_established {h : Handler} (hh : h.established = true) :
    h.dataHandler = true := by
  cases h <;> first | rfl | cases hh

/-- A registered VPN session has taken the pending reconnect. -/
def ReconnectTaken (r : Registry) : Prop := r.controlMode = some .vpn → r.reconnectPending = false

variable {c : Conn} {x y : Sessions} {s t : State} {e : DeviceEvent}

theorem Effect.reconnectTaken (h : Effect c x y) (hx : ReconnectTaken x.registry) :
    ReconnectTaken y.registry := by
  cases h with
  | @opened mode token _ _ pc free up =>
    intro hmode
    obtain rfl : mode = .vpn := Option.some.inj hmode
    rfl
  | closed pc held =>
    intro hmode
    cases hmode
  | _ => exact hx

theorem Change.reconnectTaken {taken taken' : Option RelayId} (h : Change x taken y taken')
    (hx : ReconnectTaken x.registry) : ReconnectTaken y.registry := by
  cases h with
  | device h => exact h.reconnectTaken hx
  | stopped free =>
    intro hmode
    cases hmode
  | _ => exact hx

theorem reconnectTaken_reached (h : Reached s) : ReconnectTaken s.sessions.registry := by
  refine h.invariant (I := fun s => ReconnectTaken s.sessions.registry) ?_ ?_
  · rintro s ⟨pid, config, files, rfl⟩
    exact fun _ => rfl
  · exact fun s l t hstep => hstep.change.reconnectTaken

theorem controlLoop_stopsOnly (r : Registry) (c : Conn) (proxyActive : Bool) (mode : Mode)
    (expected : UInt32) {frame : Option (UInt32 × ControlFrame)}
    (h : ∀ sequence payload, frame = some (sequence, .vpnStatus (some payload)) →
      payload.state = VPNStatus.stopped.text) :
    (controlLoop r c proxyActive mode expected frame).stopsOnly = true ∧
      ∀ mode' previous, controlLoop r c proxyActive mode expected frame ≠ .releasing mode' previous := by
  unfold controlLoop
  dsimp only
  repeat' split
  all_goals try exact ⟨rfl, fun _ _ => Handler.noConfusion⟩
  next sequence _ _ _ _ report status message haccept =>
    obtain ⟨payload, rfl, hpayload⟩ := acceptReport_state haccept
    have hstatus : status = .stopped :=
      VPNStatus.text_injective (hpayload.symm.trans (h sequence payload rfl))
    exact ⟨by simp [Handler.stopsOnly, hstatus], fun _ _ => Handler.noConfusion⟩

/-- The control goroutine changes what is shown only by publishing STOPPED, and reads the status
for `releaseControl` from the snapshot. -/
theorem DeviceStep.stopsOnly (h : DeviceStep c s e t)
    (hc : (s.sessions.handlers c).stopsOnly = true)
    (hframe : ∀ sequence payload, e = .controlFrame (some (sequence, .vpnStatus (some payload))) →
      payload.state = VPNStatus.stopped.text) :
    ((t.sessions.handlers c).controlSide ≠ none → (t.sessions.handlers c).stopsOnly = true) ∧
      (e = .publishStatus → t.snapshot.vpn = .stopped ∧ t.snapshot.lastErrorCode = none) ∧
      (e ≠ .publishStatus → t.snapshot.vpn = s.snapshot.vpn ∧
        t.snapshot.lastErrorCode = s.snapshot.lastErrorCode) ∧
      ∀ mode previous, t.sessions.handlers c = .releasing mode previous →
        previous = s.snapshot.vpn := by
  cases h with
  | controlFrame pc frame =>
    obtain ⟨hstops, hreleasing⟩ := controlLoop_stopsOnly s.sessions.registry c
      s.proxySession.isSome _ _ fun sequence payload hf => hframe sequence payload (congrArg _ hf)
    refine ⟨fun _ => by simpa using hstops, by simp, fun _ => ⟨rfl, rfl⟩, ?_⟩
    intro mode previous hpc
    exact absurd ((update_self ..).symm.trans hpc) (hreleasing mode previous)
  | publishHeartbeat pc =>
    exact ⟨fun _ => by simp [Handler.stopsOnly], by simp, fun _ => ⟨rfl, rfl⟩, by simp⟩
  | @publishStatus expected status message pc =>
    obtain rfl : status = .stopped := by simpa [pc, Handler.stopsOnly] using hc
    exact ⟨fun _ => by simp [Handler.stopsOnly], fun _ => ⟨rfl, rfl⟩, by simp, by simp⟩
  | readPrevious pc =>
    refine ⟨fun _ => by simp [Handler.stopsOnly], by simp, fun _ => ⟨rfl, rfl⟩, ?_⟩
    intro mode previous hpc
    simp only [State.goto_sessions_handlers, update_self, Handler.releasing.injEq] at hpc
    exact hpc.2.symm
  | notControl pc refused =>
    exact ⟨by simp [Handler.controlSide], by simp, fun _ => ⟨rfl, rfl⟩, by simp⟩
  | releaseControl pc taken =>
    exact ⟨by simp [Handler.controlSide], by simp, fun _ => ⟨rfl, rfl⟩, by simp⟩
  | _ pc =>
    rw [pc] at hc
    cases hc

/-- The data goroutine changes what is shown only by its last publication. -/
theorem DeviceStep.established {d : Conn} (h : DeviceStep d s e t)
    (hd : (s.sessions.handlers d).established = true) : (t.sessions.handlers d).established = true ∧
      (e = .publishDataLoss → t.snapshot.vpn = .reconnecting) ∧
      (e ≠ .publishDataLoss → t.snapshot.vpn = s.snapshot.vpn ∧
        t.snapshot.lastErrorCode = s.snapshot.lastErrorCode) := by
  cases h with
  | publishDataHeartbeat pc | notData pc _ | releaseData pc _ | closeConnection pc =>
    exact ⟨by simp [Handler.established], by simp, fun _ => ⟨rfl, rfl⟩⟩
  | dataFrame pc frame =>
    refine ⟨?_, by simp, fun _ => ⟨rfl, rfl⟩⟩
    simp only [State.goto_sessions_handlers, update_self, dataLoop]
    repeat' split
    all_goals rfl
  | publishRelayStats pc stats =>
    refine ⟨by simp [Handler.established], by simp, fun _ => ?_⟩
    simp only [State.goto_snapshot, publishFinalStats]
    split <;> exact ⟨rfl, rfl⟩
  | closeDataRelay pc =>
    refine ⟨?_, by simp, fun _ => ⟨rfl, rfl⟩⟩
    simp only [State.withSessions_sessions, Sessions.goto_handlers, update_self,
      afterDataRelease]
    split <;> rfl
  | publishDataLoss pc => exact ⟨by simp [Handler.established], fun _ => rfl, by simp⟩
  | _ pc =>
    rw [pc] at hd
    cases hd

def StopPhase (c : Conn) (x : Sessions) : Prop :=
  (Live c x ∧ (x.handlers c).stopsOnly = true) ∨ Leaving c x ∨ Left c x

theorem StopPhase.frame (h : StopPhase c x) (hc : y.handlers c = x.handlers c)
    (hr : y.registry.controlFields = x.registry.controlFields) : StopPhase c y :=
  h.imp (fun hl => ⟨hl.1.frame hc hr, hc ▸ hl.2⟩) (Or.imp (Leaving.frame hc hr) (Left.frame hc hr))

/-- After the report is published it is shown until the last publication of `releaseData`. -/
inductive StopShown (c d : Conn) (ls : List Label) (s : State) : Prop
  | unread (phase : StopPhase c s.sessions) (unseen : statusReport c ∉ ls)
  | kept (phase : StopPhase c s.sessions) (seen : statusReport c ∈ ls)
      (order : ¬ Before (statusReport c) (dataLoss d) ls) (clean : StoppedClean s)
      (reads : ∀ mode previous, s.sessions.handlers c = .releasing mode previous →
        previous = .stopped)
  | overwritten (phase : StopPhase c s.sessions) (order : Before (statusReport c) (dataLoss d) ls)
      (shown : s.snapshot.vpn = .reconnecting)

namespace StopShown
variable {c d : Conn} {ls : List Label} {s t : State} {e : DeviceEvent}

theorem not_before_control (h : ¬ Before (statusReport c) (dataLoss d) ls) (hcd : c ≠ d) :
    ¬ Before (statusReport c) (dataLoss d) (ls ++ [.device c e]) := by
  rw [before_snoc]
  rintro (hb | ⟨-, hlast⟩)
  · exact h hb
  · simp [hcd.symm] at hlast

theorem liveStep (hs : StopShown c d ls s) (hcd : c ≠ d) (hlive : Live c s.sessions)
    (hstops : (s.sessions.handlers c).stopsOnly = true)
    (htaken : ReconnectTaken s.sessions.registry)
    (hframe : ∀ sequence payload, e = .controlFrame (some (sequence, .vpnStatus (some payload))) →
      payload.state = VPNStatus.stopped.text)
    (hone : (ls ++ [Label.device c e]).count (statusReport c) ≤ 1) (h : DeviceStep c s e t) :
    StopShown c d (ls ++ [.device c e]) t := by
  obtain ⟨hplace, hpublish, hsame, hprev⟩ := h.stopsOnly hstops hframe
  have hphase : StopPhase c t.sessions := by
    rcases hlive.step h with ⟨hlive', -⟩ | ⟨_, -, -, hleaving, -⟩
    · exact .inl ⟨hlive', hplace (by simp [hlive'.side])⟩
    · exact .inr (.inl hleaving)
  by_cases he : e = .publishStatus
  · have hpending : t.sessions.registry.reconnectPending = false := by
      rcases hlive.step h with ⟨-, hreg, -⟩ | ⟨_, -, -, -, -, hrelease⟩
      · rw [hreg]
        exact htaken hlive.vpn
      · simp [he] at hrelease
    obtain ⟨hvpn, hcode⟩ := hpublish he
    have hclean : StoppedClean t := ⟨hvpn, hcode, hpending⟩
    have hreads : ∀ mode previous, t.sessions.handlers c ≠ .releasing mode previous := by
      subst he
      cases h with
      | publishStatus pc => simp
    have hunseen : statusReport c ∉ ls := by
      intro hmem
      have hpos := count_pos_iff.mpr hmem
      rw [he, count_append, count_singleton_self] at hone
      omega
    subst he
    refine .kept hphase (by simp) (not_before_control (fun hb => hunseen hb.mem.1) hcd) hclean ?_
    exact fun mode previous hpc => absurd hpc (hreads mode previous)
  · obtain ⟨hvpn, hcode⟩ := hsame he
    cases hs with
    | unread _ unseen => exact .unread hphase (by simp [unseen, Ne.symm he])
    | kept _ seen order clean reads =>
      refine .kept hphase (by simp [seen]) (not_before_control order hcd) ?_ ?_
      · refine ⟨hvpn.trans clean.vpn, hcode.trans clean.code, ?_⟩
        rcases hlive.step h with ⟨-, hreg, -⟩ | ⟨previous, hpc, hreg, -⟩
        · rw [hreg]
          exact clean.reconnect
        · simp [hreg, reads _ _ hpc, clean.reconnect]
      · intro mode previous hpc
        exact (hprev mode previous hpc).trans clean.vpn
    | overwritten _ order shown =>
      exact .overwritten hphase (before_snoc.mpr (.inl order)) (hvpn.trans shown)

theorem leavingStep (hs : StopShown c d ls s) (hcd : c ≠ d) (hleaving : Leaving c s.sessions)
    (h : DeviceStep c s e t) : StopShown c d (ls ++ [.device c e]) t := by
  obtain ⟨hreg, hnext⟩ := hleaving.step h
  have he : e ≠ .publishStatus := by
    rintro rfl
    cases h with
    | publishStatus pc => exact hleaving.elsewhere.2.2 _ _ _ pc
  have hphase : StopPhase c t.sessions :=
    .inr (hnext.imp (fun hleaving' => hleaving'.1) (fun hleft => hleft.1))
  have hreads : ∀ mode previous, t.sessions.handlers c ≠ .releasing mode previous := by
    intro mode previous hpc
    rcases hnext with ⟨hleaving', -⟩ | ⟨hleft, -⟩
    · exact hleaving'.elsewhere.2.1 mode previous hpc
    · simp [hleft.place] at hpc
  cases hs with
  | unread _ unseen => exact .unread hphase (by simp [unseen, Ne.symm he])
  | kept _ seen order clean _ =>
    refine .kept hphase (by simp [seen]) (not_before_control order hcd) ?_
      fun mode previous hpc => absurd hpc (hreads mode previous)
    have hpending : t.sessions.registry.reconnectPending = false := hreg ▸ clean.reconnect
    rcases hnext with ⟨-, hsnap, -⟩ | ⟨-, hsnap, -⟩
    · exact ⟨hsnap ▸ clean.vpn, hsnap ▸ clean.code, hpending⟩
    · exact ⟨by simp [hsnap, publishControlLoss, clean.vpn],
        by simp [hsnap, publishControlLoss, clean.vpn], hpending⟩
  | overwritten _ order shown =>
    refine .overwritten hphase (before_snoc.mpr (.inl order)) ?_
    rcases hnext with ⟨-, hsnap, -⟩ | ⟨-, hsnap, -⟩
    · rw [hsnap, shown]
    · simp [hsnap, publishControlLoss_vpn, shown]

theorem dataStep (hs : StopShown c d ls s) (hcd : c ≠ d)
    (hd : (s.sessions.handlers d).established = true) (h : DeviceStep d s e t) :
    StopShown c d (ls ++ [.device d e]) t := by
  obtain ⟨-, hlost, hsame⟩ := h.established hd
  have hfields := (h.data (Handler.dataHandler_of_established hd)).2.1
  have hc := h.effect.other hcd
  cases hs with
  | unread phase unseen => exact .unread (phase.frame hc hfields) (by simp [unseen, hcd])
  | kept phase seen order clean reads =>
    by_cases he : e = .publishDataLoss
    · refine .overwritten (phase.frame hc hfields) ?_ (hlost he)
      exact before_snoc.mpr (.inr ⟨seen, by rw [he]⟩)
    · obtain ⟨hvpn, hcode⟩ := hsame he
      simp only [Registry.controlFields, Prod.mk.injEq] at hfields
      refine .kept (phase.frame hc (by simp [Registry.controlFields, hfields])) (by simp [seen]) ?_
        ⟨hvpn.trans clean.vpn, hcode.trans clean.code, hfields.2.2.2.1.trans clean.reconnect⟩
        (hc ▸ reads)
      rw [before_snoc]
      simp [order, Ne.symm he]
  | overwritten phase order shown =>
    refine .overwritten (phase.frame hc hfields) (before_snoc.mpr (.inl order)) ?_
    by_cases he : e = .publishDataLoss
    · exact hlost he
    · exact (hsame he).1.trans shown

theorem run (hlive : Live c s.sessions) (hstops : (s.sessions.handlers c).stopsOnly = true)
    (htaken : ReconnectTaken s.sessions.registry) (hcd : c ≠ d)
    (hd : (s.sessions.handlers d).established = true) (hpair : ∀ l ∈ ls, l.ofPair c d)
    (hframes : ∀ sequence payload,
      .device c (.controlFrame (some (sequence, .vpnStatus (some payload)))) ∈ ls →
        payload.state = VPNStatus.stopped.text)
    (hone : ls.count (statusReport c) ≤ 1) (h : Run Step s ls t) : StopShown c d ls t := by
  have key : StopShown c d ls t ∧ ReconnectTaken t.sessions.registry ∧
      (t.sessions.handlers d).established = true := by
    revert hpair hframes hone
    refine h.snocInduction (motive := fun ls t => (∀ l ∈ ls, l.ofPair c d) →
      (∀ sequence payload,
        .device c (.controlFrame (some (sequence, .vpnStatus (some payload)))) ∈ ls →
          payload.state = VPNStatus.stopped.text) →
      ls.count (statusReport c) ≤ 1 → StopShown c d ls t ∧ ReconnectTaken t.sessions.registry ∧
        (t.sessions.handlers d).established = true) ?_ ?_
    · intro _ _ _
      exact ⟨.unread (.inl ⟨hlive, hstops⟩) (by simp), htaken, hd⟩
    · intro ls s l t _ ih hstep hpair hframes hone
      have hone' : ls.count (statusReport c) ≤ 1 :=
        ((sublist_append_left ls [l]).count_le _).trans hone
      obtain ⟨hs, htaken, hd⟩ := ih (fun l hl => hpair l (mem_append_left _ hl))
        (fun sequence payload hl => hframes sequence payload (mem_append_left _ hl)) hone'
      have htaken' := hstep.change.reconnectTaken htaken
      obtain ⟨e, rfl | rfl⟩ := hpair l (by simp)
      · cases hstep with
        | device _ h =>
          have hframe : ∀ sequence payload,
              e = .controlFrame (some (sequence, .vpnStatus (some payload))) →
                payload.state = VPNStatus.stopped.text :=
            fun sequence payload he => hframes sequence payload (by simp [he])
          have hphase : StopPhase c s.sessions := by cases hs <;> assumption
          refine ⟨?_, htaken', by rw [h.effect.other hcd.symm]; exact hd⟩
          rcases hphase with ⟨hlive, hstops⟩ | hleaving | hleft
          · exact hs.liveStep hcd hlive hstops htaken hframe hone h
          · exact hs.leavingStep hcd hleaving h
          · exact (hleft.step h).elim
      · cases hstep with
        | device _ h => exact ⟨hs.dataStep hcd hd h, htaken', (h.established hd).1⟩
  exact key.1

end StopShown

/-- The session on `c` with the data channel `d` ends: STOPPED is the only report read on `c`, it
is published once, and only the two goroutines take steps. From then on, and so when both have
returned, the stop is taken for a clean one unless the last publication of `releaseData` came
after the report's. -/
theorem clean_stop_iff {c d : Conn} {expected expected' : UInt32} {token : String} {relay : RelayId}
    {s t : State} {ls : List Label} (hs : Reached s)
    (hc : s.sessions.registry.controlConnection = some c)
    (hpc : s.sessions.handlers c = .serving .vpn expected)
    (hd : s.sessions.handlers d = .forwarding token relay expected')
    (hpair : ∀ l ∈ ls, l.ofPair c d) (hframes : ∀ sequence payload,
      .device c (.controlFrame (some (sequence, .vpnStatus (some payload)))) ∈ ls →
        payload.state = VPNStatus.stopped.text)
    (hone : ls.count (statusReport c) = 1) (hrun : Run Step s ls t) :
    StoppedClean t ↔ ¬ Before (statusReport c) (dataLoss d) ls := by
  obtain ⟨σ, -, howned⟩ := Owned.reached hs
  have hmode : s.sessions.registry.controlMode = some .vpn := by
    rw [← howned.control c hc, hpc]
    rfl
  have hcd : c ≠ d := by
    rintro rfl
    simp [hpc] at hd
  have hshown := StopShown.run (howned.live hc hmode) (by rw [hpc]; rfl) (reconnectTaken_reached hs)
    hcd (by rw [hd]; rfl) hpair hframes hone.le hrun
  cases hshown with
  | unread _ unseen =>
    have hmem : statusReport c ∈ ls := count_pos_iff.mp (by omega)
    exact absurd hmem unseen
  | kept _ _ order clean _ => exact ⟨fun _ => order, fun _ => clean⟩
  | overwritten _ order shown =>
    refine ⟨fun clean => ?_, fun horder => absurd order horder⟩
    have hvpn := clean.vpn
    rw [shown] at hvpn
    cases hvpn

/-- The App reports STOPPED on connection 1. -/
def stopReport : Label := .device 1 (.controlFrame (some (2, .vpnStatus (some ⟨"STOPPED", ""⟩))))

theorem stopReport_step {s : State} (alive : s.main ≠ .exited)
    (pc : s.sessions.handlers 1 = .serving .vpn 2)
    (held : s.sessions.registry.controlConnection = some 1)
    (vpn : s.sessions.registry.controlMode = some .vpn) :
    Step s stopReport (s.goto 1 (.reporting 3 .stopped "HarmonyOS VPN stopped safely")) := by
  have hloop : controlLoop s.sessions.registry 1 s.proxySession.isSome .vpn 2
      (some (2, .vpnStatus (some ⟨"STOPPED", ""⟩))) =
        .reporting 3 .stopped "HarmonyOS VPN stopped safely" := by
    simp [controlLoop, acceptReport, Registry.statusContext, held, vpn, reportedStatus,
      VPNStatus.text, nextSequence]
  rw [← hloop]
  exact .device alive (.controlFrame pc _)

/-- The data channel has gone before the report is read. -/
def dataGoneFirst : List Label :=
  [.device 2 (.dataFrame none), .device 2 .releaseData, .device 2 .closeConnection,
    .device 2 (.publishRelayStats {}), .device 2 .closeRelay, .device 2 .publishDataLoss,
    stopReport, .device 1 .publishStatus, .device 1 (.controlFrame none), .device 1 .readPrevious,
    .device 1 .releaseControl, .device 1 .closeData, .device 1 .closeRelay,
    .device 1 .publishControlLoss]

theorem clean_stop_bridged : ∃ t, Run Step bridgedState dataGoneFirst t ∧
    t.sessions.handlers 1 = .returned ∧ t.sessions.handlers 2 = .returned ∧ StoppedClean t := by
  have hrun : ∃ t, Run Step bridgedState dataGoneFirst t ∧ t.sessions.handlers 1 = .returned ∧
      t.sessions.handlers 2 = .returned :=
    ⟨_, device_run (.dataFrame rfl none) <| device_run (.releaseData rfl rfl) <|
      device_run (.closeConnection rfl) <| device_run (.publishRelayStats rfl {}) <|
      device_run (.closeDataRelay rfl) <| device_run (.publishDataLoss rfl) <|
      .cons (stopReport_step Main.noConfusion rfl rfl rfl) <| device_run (.publishStatus rfl) <|
      device_run (.controlFrame rfl none) <| device_run (.readPrevious rfl) <|
      device_run (.releaseControl rfl rfl) <| device_run (.closeData rfl) <|
      device_run (.closeRelay rfl) <| device_run (.publishControlLoss rfl) <| .nil _, rfl, rfl⟩
  obtain ⟨t, hrun, hct, hdt⟩ := hrun
  have hpair : ∀ l ∈ dataGoneFirst, l.ofPair 1 2 := by simp [dataGoneFirst, stopReport, Label.ofPair]
  have hframes : ∀ sequence payload,
      .device 1 (.controlFrame (some (sequence, .vpnStatus (some payload)))) ∈ dataGoneFirst →
        payload.state = VPNStatus.stopped.text := by
    intro sequence payload hl
    simp only [dataGoneFirst, stopReport, mem_cons, not_mem_nil, Label.device.injEq,
      DeviceEvent.controlFrame.injEq, Option.some.injEq, Prod.mk.injEq, ControlFrame.vpnStatus.injEq,
      reduceCtorEq, and_false, false_or, or_false] at hl
    obtain ⟨-, -, rfl⟩ := hl
    rfl
  have hiff := clean_stop_iff (c := 1) (d := 2) bridgedState_reached rfl rfl rfl hpair hframes
    (by decide) hrun
  exact ⟨t, hrun, hct, hdt, hiff.mpr (by decide)⟩

/-- `releaseData` publishes between the report and `releaseControl`: the stop ends as a lost
connection, and the next session counts as a reconnect. -/
theorem clean_stop_overwritten : Reached bridgedState ∧ ∃ t, Run Step bridgedState
      [.device 2 (.dataFrame none), .device 2 .releaseData, .device 2 .closeConnection,
        stopReport, .device 1 .publishStatus, .device 2 (.publishRelayStats {}),
        .device 2 .closeRelay, .device 2 .publishDataLoss, .device 1 (.controlFrame none),
        .device 1 .readPrevious, .device 1 .releaseControl, .device 1 .closeData,
        .device 1 .closeRelay, .device 1 .publishControlLoss] t ∧
    t.sessions.handlers 1 = .returned ∧ t.sessions.handlers 2 = .returned ∧
    t.snapshot.vpn = .reconnecting ∧ t.snapshot.lastErrorCode = some .appDisconnected ∧
    t.sessions.registry.reconnectPending = true :=
  ⟨bridgedState_reached, _, device_run (.dataFrame rfl none) <| device_run (.releaseData rfl rfl) <|
    device_run (.closeConnection rfl) <| .cons (stopReport_step Main.noConfusion rfl rfl rfl) <|
    device_run (.publishStatus rfl) <| device_run (.publishRelayStats rfl {}) <|
    device_run (.closeDataRelay rfl) <| device_run (.publishDataLoss rfl) <|
    device_run (.controlFrame rfl none) <| device_run (.readPrevious rfl) <|
    device_run (.releaseControl rfl rfl) <| device_run (.closeData rfl) <|
    device_run (.closeRelay rfl) <|
    device_run (.publishControlLoss rfl) <| .nil _, rfl, rfl, rfl, rfl, rfl⟩

end HarmonyNetBridge.Daemon
