import HarmonyNetBridge.Daemon.Supervisor

/-! What one step of the daemon can do to its sessions, said once for all goroutines. -/
namespace HarmonyNetBridge.Daemon
open Sessions

/-- What a step of the device goroutine `c` can do. In `move` only the goroutine moves on; it
leaves a session it is registered for in `closed` and `detached` alone. -/
inductive Effect (c : Conn) (x : Sessions) : Sessions → Prop
  | move {h : Handler} {closed : List Conn}
      (control : h.controlSide = (x.handlers c).controlSide ∨
        x.registry.controlConnection ≠ some c)
      (data : h.dataSide = (x.handlers c).dataSide ∨ x.registry.dataConnection ≠ some c ∨
        x.registry.controlConnection = none ∨ x.registry.stopping = true)
      (relay : h.relay = (x.handlers c).relay) (token : h.freshToken = none) :
      Effect c x ({ x with closed := closed }.goto c h)
  | token {mode : Mode} {token : String} (pc : x.handlers c = .creatingToken mode)
      (fresh : token ∉ x.issued) :
      Effect c x ((x.withToken token).goto c (.registering mode token))
  | opened {mode : Mode} {token : String} {isReconnect proxyEnabled : Bool}
      (pc : x.handlers c = .registering mode token) (free : x.registry.controlConnection = none)
      (up : x.registry.stopping = false) :
      Effect c x ((x.withRegistry (x.registry.withControl c mode token) (.opened c mode token)).goto
        c (.publishingAccepted mode token isReconnect proxyEnabled))
  | closed {mode : Mode} {previous : VPNStatus} (pc : x.handlers c = .releasing mode previous)
      (held : x.registry.controlConnection = some c) :
      Effect c x ((x.withRegistry (x.registry.withoutControl previous) (.closed c)).goto c
        (.closingData ⟨x.registry.controlMode, x.registry.dataConnection, x.registry.dataRelay,
          x.registry.stopping⟩))
  | bound {token : String} (pc : x.handlers c = .binding token)
      (held : x.registry.controlConnection ≠ none) (vpn : x.registry.controlMode = some .vpn)
      (session : x.registry.controlToken = token) (free : x.registry.dataConnection = none) :
      Effect c x ((x.withRegistry (x.registry.withData c) (.bound c token)).goto c
        (.creatingRelay token))
  | created {token : String} {relay : RelayId} (pc : x.handlers c = .creatingRelay token)
      (fresh : relay ∉ x.created) : Effect c x ((x.create relay).goto c (.attaching token relay))
  | attached {token : String} {relay : RelayId} (pc : x.handlers c = .attaching token relay)
      (held : x.registry.dataConnection = some c) :
      Effect c x ((x.withRegistry (x.registry.withRelay relay) (.attached c relay)).goto c
        (.dataAcknowledging token relay))
  | detached {token : String} {relay : Option RelayId} {release : DataRelease}
      (pc : x.handlers c = .dataReturning token relay)
      (held : x.registry.dataConnection = some c) (kept : release.relay = x.registry.dataRelay) :
      Effect c x ((x.withRegistry x.registry.withoutData (.detached c)).goto c
        (.dataClosing token release))
  | disposed {h : Handler} (control : h.controlSide = (x.handlers c).controlSide)
      (data : h.dataSide = (x.handlers c).dataSide) (relay : h.relay = none)
      (token : h.freshToken = none) :
      Effect c x ((x.closeRelay (x.handlers c).relay).goto c h)

variable {c d : Conn} {x y : Sessions} {p h : Handler} {s t : State} {e : DeviceEvent}

theorem Effect.other (h : Effect c x y) (hd : d ≠ c) : y.handlers d = x.handlers d := by
  cases h <;> simp [hd]

theorem Effect.stopping (h : Effect c x y) : y.registry.stopping = x.registry.stopping := by
  cases h <;> rfl

/-- A connection becomes registered only by its own HELLO. -/
theorem Effect.registered (h : Effect c x y) (hd : y.registry.controlConnection = some d) :
    x.registry.controlConnection = some d ∨
      (d = c ∧ ∃ mode token isReconnect proxyEnabled,
        y.handlers c = .publishingAccepted mode token isReconnect proxyEnabled) := by
  cases h with
  | opened pc free up =>
    obtain rfl : c = d := Option.some.inj hd
    exact .inr ⟨rfl, _, _, _, _, Function.update_self ..⟩
  | closed pc held => cases hd
  | _ => exact .inl hd

theorem controlLoop_sides (r : Registry) (c : Conn) (proxyActive : Bool) (mode : Mode)
    (expected : UInt32) (frame : Option (UInt32 × ControlFrame)) :
    let h := controlLoop r c proxyActive mode expected frame
    h.controlSide = some mode ∧ h.dataSide = none ∧ h.relay = none ∧ h.freshToken = none := by
  unfold controlLoop
  repeat' split
  all_goals exact ⟨rfl, rfl, rfl, rfl⟩

theorem dataLoop_sides (token : String) (relay : RelayId) (expected : UInt32)
    (frame : Option (UInt32 × DataFrame)) : let h := dataLoop token relay expected frame
    h.controlSide = none ∧ h.dataSide = some (token, some relay) ∧ h.relay = none ∧
      h.freshToken = none := by
  unfold dataLoop
  dsimp only
  repeat' split
  all_goals exact ⟨rfl, rfl, rfl, rfl⟩

theorem Effect.keep {closed : List Conn} (pc : x.handlers c = p)
    (control : h.controlSide = p.controlSide) (data : h.dataSide = p.dataSide)
    (relay : h.relay = p.relay) (token : h.freshToken = none) :
    Effect c x ({ x with closed := closed }.goto c h) := by
  subst pc
  exact .move (.inl control) (.inl data) relay token

theorem Effect.dispose (pc : x.handlers c = p) (control : h.controlSide = p.controlSide)
    (data : h.dataSide = p.dataSide) (relay : h.relay = none) (token : h.freshToken = none) :
    Effect c x ((x.closeRelay p.relay).goto c h) := by
  subst pc
  exact .disposed control data relay token

theorem DeviceStep.effect (h : DeviceStep c s e t) : Effect c s.sessions t.sessions := by
  cases h with
  | accept pc _ | drop pc | authorize pc _ | noToken pc | busy pc _ | publishAccepted pc
  | publishHeartbeat pc | publishStatus pc | readPrevious pc | closeData pc
  | publishControlLoss pc | rejectData pc _ | noRelay pc | publishDataHeartbeat pc
  | closeConnection pc | publishDataLoss pc => exact .keep pc rfl rfl rfl rfl
  | hello pc payload =>
    unfold afterHello
    split
    all_goals exact .keep pc rfl rfl rfl rfl
  | dataHello pc payload =>
    unfold afterDataHello
    split
    all_goals exact .keep pc rfl rfl rfl rfl
  | helloAck pc written => cases written <;> exact .keep pc rfl rfl rfl rfl
  | dataAck pc written => cases written <;> exact .keep pc rfl rfl rfl rfl
  | controlFrame pc frame =>
    obtain ⟨control, data, relay, token⟩ := controlLoop_sides s.sessions.registry c
      s.proxySession.isSome _ _ frame
    exact .keep pc control data relay token
  | dataFrame pc frame =>
    obtain ⟨control, data, relay, token⟩ := dataLoop_sides _ _ _ frame
    exact .keep pc control data relay token
  | publishRelayStats pc stats =>
    unfold publishFinalStats
    split
    all_goals exact .keep pc rfl rfl rfl rfl
  | notControl pc refused =>
    have held := Registry.releaseControl_eq_none refused
    exact .move (.inr held) (.inl (by rw [pc]; rfl)) (by rw [pc]; rfl) rfl
  | notAttached pc refused =>
    have held := Registry.attachRelay_eq_none refused
    exact .move (.inl (by rw [pc]; rfl)) (.inr held) (by rw [pc]; rfl) rfl
  | notData pc refused =>
    have held := Registry.releaseData_eq_none refused
    exact .move (.inl (by rw [pc]; rfl)) (.inr (.inl held)) (by rw [pc]; rfl) rfl
  | createToken pc random size fresh => exact .token pc fresh
  | register pc taken =>
    obtain ⟨free, up, rfl, -⟩ := Registry.registerControl_eq_some taken
    exact .opened pc free up
  | releaseControl pc taken =>
    obtain ⟨held, rfl, rfl⟩ := Registry.releaseControl_eq_some taken
    exact .closed pc held
  | bindData pc taken =>
    obtain ⟨-, held, vpn, session, free, rfl⟩ := Registry.bindData_eq_some taken
    exact .bound pc held vpn session free
  | newRelay pc fresh => exact .created pc fresh
  | attachRelay pc taken =>
    obtain ⟨held, -, -, rfl⟩ := Registry.attachRelay_eq_some taken
    exact .attached pc held
  | releaseData pc taken =>
    obtain ⟨held, rfl, rfl⟩ := Registry.releaseData_eq_some taken
    exact .detached pc held rfl
  | @closeRelay release pc =>
    unfold afterControlRelease
    split
    all_goals exact .dispose pc rfl rfl rfl rfl
  | discardRelay pc => exact .dispose pc rfl rfl rfl rfl
  | @closeDataRelay token release pc =>
    unfold afterDataRelease
    split
    all_goals exact .dispose pc rfl rfl rfl rfl

/-- What a step of the daemon can do to the sessions and to the relay that `shutdown` has taken
over. -/
inductive Change (x : Sessions) (taken : Option RelayId) : Sessions → Option RelayId → Prop
  | device {c : Conn} {y : Sessions} (h : Effect c x y) : Change x taken y taken
  | none {closed : List Conn} : Change x taken { x with closed := closed } taken
  | stopped (free : taken = Option.none) :
      Change x taken (x.withRegistry x.registry.cleared .stopped) x.registry.dataRelay
  | disposed : Change x taken (x.closeRelay taken) Option.none

theorem Change.none_of {taken taken' : Option RelayId} {closed : List Conn} (h : taken' = taken) :
    Change x taken { x with closed := closed } taken' := by
  subst h
  exact .none

theorem MainStep.change {e : MainEvent} (h : MainStep s e t) :
    Change s.sessions s.main.relay t.sessions t.main.relay := by
  cases h with
  | takeSessions pc => exact .stopped (by rw [pc]; rfl)
  | closeRelay pc =>
    rw [pc]
    exact .disposed
  | lstat pc ok =>
    rw [pc]
    refine .none_of ?_
    cases ok
    · rfl
    · simp only [State.withMain_main]
      cases s.files.control <;> rfl
  | probe pc result possible => rw [pc]; cases result <;> exact .none
  | ensurePaths pc ok | chmod pc ok | recoverProxy pc _ ok | closeProxy pc _ ok
  | removeMapping pc _ ok => rw [pc]; cases ok <;> exact .none
  | serveError pc | proxyDone pc _ =>
    rw [pc]
    refine .none_of ?_
    simp only [State.withMain_main, unlessStopping]
    split <;> rfl
  | checkProxy pc | checkFailure pc =>
    rw [pc]
    refine .none_of ?_
    simp only [State.withMain_main]
    split <;> rfl
  | _ pc => rw [pc]; exact .none

/-- `Run` leaves the device goroutines alone, and the registry but for one section. -/
theorem MainStep.sessions {e : MainEvent} (h : MainStep s e t) :
    t.sessions.handlers = s.sessions.handlers ∧
      (t.sessions.registry = s.sessions.registry ∨
        t.sessions.registry = s.sessions.registry.cleared) := by
  cases h with
  | takeSessions pc => exact ⟨rfl, .inr rfl⟩
  | _ => exact ⟨rfl, .inl rfl⟩

theorem publishFinalStats_main (relay : Option RelayId) (stats : RelayStats) (s : State) :
    (publishFinalStats relay stats s).main = s.main := by
  unfold publishFinalStats
  split <;> rfl

theorem DeviceStep.main (h : DeviceStep c s e t) : t.main = s.main := by
  cases h with
  | publishRelayStats pc stats => exact publishFinalStats_main _ stats s
  | _ => rfl

theorem MonitorStep.main {e : MonitorEvent} (h : MonitorStep s e t) :
    t.main = s.main ∧ t.sessions = s.sessions := by
  cases h <;> exact ⟨rfl, rfl⟩

theorem RequestStep.main {i : ℕ} {e : RequestEvent} (h : RequestStep i s e t) :
    t.main = s.main ∧ t.sessions = s.sessions := by
  cases h <;> exact ⟨rfl, rfl⟩

theorem Step.change {l : Label} (h : Step s l t) :
    Change s.sessions s.main.relay t.sessions t.main.relay := by
  cases h with
  | device _ h =>
    rw [h.main]
    exact .device h.effect
  | monitor _ h =>
    rw [h.main.1, h.main.2]
    exact .none
  | request _ h =>
    rw [h.main.1, h.main.2]
    exact .none
  | main h => exact h.change
  | surroundings e => cases e <;> exact .none

end HarmonyNetBridge.Daemon
