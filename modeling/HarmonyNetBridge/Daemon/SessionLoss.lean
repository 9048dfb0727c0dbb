import HarmonyNetBridge.Daemon.VPNSession

/-! A VPN session loses its control and its data connection. Both goroutines decide in a section
and publish after it, so the order of the two publications decides what is shown. -/
namespace HarmonyNetBridge.Daemon
open Transition

abbrev controlLoss (c : Conn) : Label := .device c .publishControlLoss

abbrev dataLoss (d : Conn) : Label := .device d .publishDataLoss

/-- Before `releaseControl` publishes nothing is claimed; afterwards the last of the two
publications is shown. -/
inductive LossShown (c d : Conn) (ls : List Label) (s : State) : Prop
  | before (phase : Live c s.sessions ∨ Leaving c s.sessions) (unseen : controlLoss c ∉ ls)
  | after (phase : Left c s.sessions) (seen : controlLoss c ∈ ls)
      (overwritten : Before (controlLoss c) (dataLoss d) ls →
        s.snapshot.transport = .controlConnected)
      (kept : ¬ Before (controlLoss c) (dataLoss d) ls → s.snapshot.transport = .portReady)

namespace LossShown
variable {c d : Conn} {ls : List Label} {s t : State} {e : DeviceEvent}

theorem controlStep (hs : LossShown c d ls s) (h : DeviceStep c s e t) :
    LossShown c d (ls ++ [.device c e]) t := by
  cases hs with
  | before phase unseen =>
    rcases phase with live | leaving
    · rcases live.step h with ⟨live', -, he⟩ | ⟨_, -, -, leaving, -, rfl⟩
      · exact .before (.inl live') (by simp [unseen, Ne.symm he])
      · exact .before (.inr leaving) (by simp [unseen])
    · rcases (leaving.step h).2 with ⟨leaving', -, he⟩ | ⟨left, hsnap, rfl⟩
      · exact .before (.inr leaving') (by simp [unseen, Ne.symm he])
      · have hbefore : ¬ Before (controlLoss c) (dataLoss d) (ls ++ [controlLoss c]) := by
          rw [before_snoc]
          rintro (hb | ⟨hmem, -⟩)
          · exact unseen hb.mem.1
          · exact unseen hmem
        exact .after left (by simp) (absurd · hbefore) (fun _ => by simp [hsnap])
  | after phase seen overwritten kept => exact (phase.step h).elim

theorem dataStep (hs : LossShown c d ls s) (hcd : c ≠ d)
    (hd : (s.sessions.handlers d).dataHandler = true) (h : DeviceStep d s e t) :
    LossShown c d (ls ++ [.device d e]) t := by
  obtain ⟨-, hfields, htransport⟩ := h.data hd
  have hc := h.effect.other hcd
  cases hs with
  | before phase unseen =>
    refine .before ?_ (by simp [unseen, hcd])
    exact phase.imp (Live.frame hc hfields) (Leaving.frame hc hfields)
  | after phase seen overwritten kept =>
    by_cases he : e = .publishDataLoss
    · subst he
      have hshown : t.snapshot.transport = .controlConnected := by
        cases h with
        | publishDataLoss pc => simp
      have hbefore : Before (controlLoss c) (dataLoss d) (ls ++ [dataLoss d]) :=
        before_snoc.mpr (.inr ⟨seen, rfl⟩)
      exact .after (phase.frame hc hfields) (by simp [seen]) (fun _ => hshown) (absurd hbefore)
    · have hsame : t.snapshot.transport = s.snapshot.transport := by
        rcases htransport with hsame | ⟨-, held⟩ | ⟨hloss, -⟩
        · exact hsame
        · exact absurd phase.free held
        · exact absurd hloss he
      have hbefore : Before (controlLoss c) (dataLoss d) (ls ++ [.device d e]) ↔
          Before (controlLoss c) (dataLoss d) ls := by
        rw [before_snoc]
        simp [Ne.symm he]
      refine .after (phase.frame hc hfields) (by simp [seen]) ?_ ?_
      · rw [hbefore, hsame]
        exact overwritten
      · rw [hbefore, hsame]
        exact kept

theorem run (hs : Live c s.sessions) (hcd : c ≠ d)
    (hd : (s.sessions.handlers d).dataHandler = true) (hpair : ∀ l ∈ ls, l.ofPair c d)
    (h : Run Step s ls t) : LossShown c d ls t := by
  have key : (t.sessions.handlers d).dataHandler = true ∧ LossShown c d ls t := by
    revert hpair
    refine h.snocInduction (motive := fun ls t => (∀ l ∈ ls, l.ofPair c d) →
      (t.sessions.handlers d).dataHandler = true ∧ LossShown c d ls t) ?_ ?_
    · intro _
      exact ⟨hd, .before (.inl hs) (by simp)⟩
    · intro ls s l t _ ih hstep hpair
      obtain ⟨hd, hs⟩ := ih fun l hl => hpair l (List.mem_append_left _ hl)
      obtain ⟨e, rfl | rfl⟩ := hpair l (by simp)
      · cases hstep with
        | device _ h => exact ⟨by rw [h.effect.other hcd.symm]; exact hd, hs.controlStep h⟩
      · cases hstep with
        | device _ h => exact ⟨(h.data hd).1, hs.dataStep hcd hd h⟩
  exact key.2

end LossShown

/-- A VPN session on `c` with the data channel `d` loses both connections, and only their
goroutines take steps. When the one of `c` has returned, and whether or not the other has, PORT_READY
is shown unless the last publication of `releaseData` came after that of `releaseControl`. -/
theorem loss_portReady_iff {c d : Conn} {s t : State} {ls : List Label} (hs : Reached s)
    (hc : s.sessions.registry.controlConnection = some c)
    (hd : s.sessions.registry.dataConnection = some d) (hpair : ∀ l ∈ ls, l.ofPair c d)
    (hrun : Run Step s ls t) (hct : t.sessions.handlers c = .returned) :
    t.sessions.registry.controlConnection = none ∧
      (t.snapshot.transport = .portReady ↔ ¬ Before (controlLoss c) (dataLoss d) ls) := by
  obtain ⟨σ, hσ, howned⟩ := Owned.reached hs
  have hlive := howned.live hc ((howned.ownsSessions hσ).session d hd).2.1
  have hdata := Handler.dataHandler_of_dataSide (howned.data d hd)
  have hcd := hlive.ne_of_dataHandler hdata
  cases LossShown.run hlive hcd hdata hpair hrun with
  | before phase unseen =>
    rcases phase with live | leaving
    · exact absurd hct live.not_returned
    · exact absurd hct leaving.elsewhere.1
  | after phase seen overwritten kept =>
    refine ⟨phase.free, fun hready hbefore => ?_, kept⟩
    rw [overwritten hbefore] at hready
    cases hready

theorem loss_portReady_bridged : ∃ t, Run Step bridgedState controlFirst t ∧
    t.sessions.registry.controlConnection = none ∧ t.snapshot.transport = .portReady := by
  obtain ⟨t, hrun, -, -, hplaces⟩ := bridgedState_lost
  have hpair : ∀ l ∈ controlFirst, l.ofPair 1 2 := by simp [controlFirst, Label.ofPair]
  have hloss := loss_portReady_iff bridgedState_reached rfl rfl hpair hrun (hplaces 1)
  exact ⟨t, hrun, hloss.1, hloss.2.mpr (by decide)⟩

/-- `releaseData` makes its section first and publishes last: CONTROL_CONNECTED is shown without
a control connection. -/
theorem loss_shows_controlConnected : Reached bridgedState ∧ ∃ t, Run Step bridgedState
      [.device 2 (.dataFrame none), .device 1 (.controlFrame none), .device 1 .readPrevious,
        .device 2 .releaseData, .device 1 .releaseControl, .device 1 .closeData,
        .device 1 .closeRelay, .device 1 .publishControlLoss, .device 2 .closeConnection,
        .device 2 (.publishRelayStats {}), .device 2 .closeRelay, .device 2 .publishDataLoss] t ∧
    t.sessions.handlers 1 = .returned ∧ t.sessions.handlers 2 = .returned ∧
    t.sessions.registry.controlConnection = none ∧ t.snapshot.transport = .controlConnected :=
  ⟨bridgedState_reached, _, device_run (.dataFrame rfl none) <| device_run (.controlFrame rfl none) <|
    device_run (.readPrevious rfl) <| device_run (.releaseData rfl rfl) <|
    device_run (.releaseControl rfl rfl) <| device_run (.closeData rfl) <|
    device_run (.closeRelay rfl) <| device_run (.publishControlLoss rfl) <|
    device_run (.closeConnection rfl) <| device_run (.publishRelayStats rfl {}) <|
    device_run (.closeDataRelay rfl) <|
    device_run (.publishDataLoss rfl) <| .nil _, rfl, rfl, rfl, rfl⟩

end HarmonyNetBridge.Daemon
