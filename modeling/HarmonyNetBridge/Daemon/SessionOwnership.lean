import HarmonyNetBridge.Daemon.Refinement

/-! Session ownership in every interleaving: one control and one data connection, a data channel
only with the token of the registered session, and no use of a token after its session. -/
namespace HarmonyNetBridge.Daemon
open Transition SessionSpec Function

/-- What the registry holds, read against the history of its sections. -/
structure OwnsSessions (x : Sessions) : Prop where
  controls : openControls x.history = x.registry.controlConnection.toList
  data : openData x.history = x.registry.dataConnection.toList
  session : ∀ d, x.registry.dataConnection = some d →
    x.registry.controlConnection ≠ none ∧ x.registry.controlMode = some .vpn ∧
      lastBound x.history = some (d, x.registry.controlToken)
  relay : x.registry.dataRelay ≠ none → x.registry.dataConnection ≠ none
  stopped : Event.stopped ∈ x.history → x.registry.controlConnection = none ∧
    x.registry.dataConnection = none ∧ x.registry.dataRelay = none

variable {x : Sessions} {σ : Sess} {s : State} {c : Conn} {byte : UInt8}

theorem Owned.ownsSessions (hx : Owned x σ) (hσ : Accepts x.history σ) : OwnsSessions x where
  controls := by rw [accepts_openControls hσ, hx.represents.control]
  data := by rw [accepts_openData hσ, hx.represents.data]
  session d hd := by
    obtain ⟨c, hs⟩ := hx.represents.vpn_of_data hd
    refine ⟨?_, ?_, accepts_lastBound hσ hs⟩
    · rw [hx.represents.control, hs]
      simp [Slot.control]
    · rw [hx.represents.mode, hs]
      rfl
  relay hr := by
    obtain ⟨r, hr⟩ := Option.ne_none_iff_exists'.mp hr
    rw [hx.represents.relay] at hr
    obtain ⟨d, hd⟩ := Slot.data_of_relay hr
    rw [hx.represents.data, hd]
    simp
  stopped hmem := by
    have hfree := σ.idle ((accepts_stopped hσ).mpr hmem)
    rw [hx.represents.control, hx.represents.data, hx.represents.relay, hfree]
    exact ⟨rfl, rfl, rfl⟩

/-- A session with this token was accepted and is not registered any more. -/
def TokenReleased (x : Sessions) (token : String) : Prop :=
  (∃ c mode, Event.opened c mode token ∈ x.history) ∧
    ¬ (x.registry.controlConnection ≠ none ∧ x.registry.controlToken = token)

theorem Owned.released {x : Sessions} {σ : Sess} (hx : Owned x σ) (hσ : Accepts x.history σ)
    {token : String} (h : TokenReleased x token) : Released σ token := by
  obtain ⟨hopened, hcurrent⟩ := h
  refine ⟨(accepts_used hσ token).mpr hopened, fun ht => hcurrent ?_⟩
  exact (hx.slot_token token).mp ht

theorem Owned.unauthorized (hx : Owned x σ) {token : String} (h : Released σ token)
    {authorization : String} (hb : bearerToken authorization = some token) :
    x.registry.validControlAuthorization authorization = false := by
  by_contra hv
  have hvalid := Registry.validControlAuthorization_current (Bool.eq_true_of_not_eq_false hv)
  have htoken : x.registry.controlToken = token := by
    rw [hb] at hvalid
    exact (Option.some.inj hvalid.2).symm
  exact h.2 ((hx.slot_token token).mpr ⟨hvalid.1, htoken⟩)

/-- In every reachable state at most one control and one data connection are registered, the data
connection was bound by a DATA_HELLO with the token of the registered VPN session, a relay has a
data connection, and after the first section of `shutdown` nothing is registered. The token of
a released session binds no data channel and passes no authorization in any later state. -/
theorem sessions_owned {s : State} (h : Reached s) :
    (openControls s.sessions.history).length ≤ 1 ∧ (openData s.sessions.history).length ≤ 1 ∧
      OwnsSessions s.sessions ∧
      ∀ token, TokenReleased s.sessions token → ∀ ls t, Run Step s ls t →
        (∃ es, t.sessions.history = s.sessions.history ++ es ∧ ∀ d, Event.bound d token ∉ es) ∧
        ∀ authorization, bearerToken authorization = some token →
          t.sessions.registry.validControlAuthorization authorization = false := by
  obtain ⟨σ, hσ, hs⟩ := Owned.reached h
  have howns := hs.ownsSessions hσ
  refine ⟨?_, ?_, howns, ?_⟩
  · rw [howns.controls]
    exact Option.length_toList_le
  · rw [howns.data]
    exact Option.length_toList_le
  · intro token hrel ls t hrun
    obtain ⟨es, τ, hes, hrun', ht⟩ := hs.run hrun
    obtain ⟨hrel', hbound⟩ := (hs.released hσ hrel).run hrun'
    exact ⟨⟨es, hes, hbound⟩, fun authorization hb => ht.unauthorized hrel' hb⟩

/-- The first step of a run, by a goroutine of a daemon that has not exited. -/
theorem device_run {c : Conn} {e : DeviceEvent} {ls : List Label} {s t u : State}
    (h : DeviceStep c s e t) (hrun : Run Step t ls u)
    (alive : s.main ≠ .exited := by exact Main.noConfusion) : Run Step s (.device c e :: ls) u :=
  .cons (.device alive h) hrun

def plainConfig : Config := ⟨"device", "FMR***01", 27183, 1500, false, false⟩

def emptyFiles : Files := ⟨.absent, fun _ => false, none, true⟩

/-- A daemon that waits for the App on host port 40000. -/
def servingState : State :=
  let snapshot := publishRunning 40000 (initialSnapshot plainConfig none)
  { State.start 1 plainConfig emptyFiles with
    files := (emptyFiles.bind 1).writeState 1 snapshot
    snapshot := snapshot
    mapping := ⟨27183, 40000⟩
    mappingAdded := true
    monitoring := true
    acceptingDevice := true
    acceptingControl := true
    calls := [.addReverse "device" ⟨27183, 40000⟩ true]
    monitor := .waiting false
    main := .serving }

def startup : List Label :=
  [.main (.ensurePaths true), .main (.listenDevice (some 40000)), .main (.lstat true),
    .main (.bind true), .main (.chmod true), .main .next, .main .next, .main .next, .main .next,
    .main .next, .main (.addReverse true), .main .next, .main .next, .main .next]

theorem servingState_run : Run Step (State.start 1 plainConfig emptyFiles) startup servingState :=
  .cons (.main (.ensurePaths rfl true)) <| .cons (.main (.listenDevice rfl 40000)) <|
    .cons (.main (.lstat rfl true)) <| .cons (.main (.bind rfl rfl)) <|
    .cons (.main (.chmod rfl true)) <| .cons (.main (.readState rfl)) <|
    .cons (.main (.persist rfl rfl)) <| .cons (.main (.noOrphan rfl rfl)) <|
    .cons (.main (.noProxy rfl rfl)) <| .cons (.main (.noStaleMapping rfl rfl)) <|
    .cons (.main (.addReverse rfl)) <| .cons (.main (.publishRunning rfl)) <|
    .cons (.main (.startMonitor rfl)) <| .cons (.main (.startServers rfl)) <| .nil _

def vpnHello : Hello := ⟨"control", "vpn", "1.0.0", [1], ["control", "data"], "hello"⟩

/-- The token drawn from sixteen equal random bytes. -/
def tokenOf (byte : UInt8) : String := newSessionToken (List.replicate 16 byte)

def controlHandshake (c : Conn) (byte : UInt8) : List Label :=
  [.device c .accept, .device c (.hello (some vpnHello)),
    .device c (.createToken (some (List.replicate 16 byte))), .device c .register,
    .device c .publishAccepted, .device c (.helloAck true)]

def dataHandshake (d : Conn) (byte : UInt8) (relay : RelayId) : List Label :=
  [.device d .accept, .device d (.dataHello (some ⟨tokenOf byte, "data"⟩)), .device d .bindData,
    .device d (.newRelay (some relay)), .device d .attachRelay, .device d (.dataAck true)]

/-- A VPN control connection is accepted and answered with HELLO_ACK. -/
def connectControl (s : State) (c : Conn) (byte : UInt8) : State :=
  let token := tokenOf byte
  let drawn := s.withSessions ((((s.goto c .accepted).goto c (.creatingToken .vpn)).sessions.withToken
    token).goto c (.registering .vpn token))
  let isReconnect := drawn.sessions.registry.reconnectPending
  let registered := drawn.withSessions ((drawn.sessions.withRegistry
    (drawn.sessions.registry.withControl c .vpn token) (.opened c .vpn token)).goto c
      (.publishingAccepted .vpn token isReconnect s.proxySession.isSome))
  ((registered.update (publishAccepted .vpn isReconnect)).goto c
    (.acknowledging .vpn (helloAck .vpn token s.proxySession.isSome s.config.mtu))).goto c
      (.serving .vpn 2)

/-- Its data connection is bound, gets its relay and is answered with DATA_ACK. -/
def connectData (s : State) (d : Conn) (byte : UInt8) (relay : RelayId) : State :=
  let token := tokenOf byte
  let named := (s.goto d .accepted).goto d (.binding token)
  let bound := named.withSessions ((named.sessions.withRegistry (named.sessions.registry.withData d)
    (.bound d token)).goto d (.creatingRelay token))
  let made := bound.withSessions ((bound.sessions.create relay).goto d (.attaching token relay))
  ((made.update publishAttached).withSessions ((made.sessions.withRegistry
    (made.sessions.registry.withRelay relay) (.attached d relay)).goto d
      (.dataAcknowledging token relay))).goto d (.forwarding token relay 2)

theorem connectControl_run (alive : s.main ≠ .exited) (listening : s.acceptingDevice = true)
    (idle : s.sessions.handlers c = .idle) (fresh : tokenOf byte ∉ s.sessions.issued)
    (free : s.sessions.registry.controlConnection = none)
    (up : s.sessions.registry.stopping = false) :
    Run Step s (controlHandshake c byte) (connectControl s c byte) := by
  have hregister : s.sessions.registry.registerControl c .vpn (tokenOf byte) =
      some (s.sessions.registry.withControl c .vpn (tokenOf byte),
        s.sessions.registry.reconnectPending) := by
    simp [Registry.registerControl, free, up]
  refine .cons (.device alive (.accept idle listening)) ?_
  refine .cons (.device alive (.hello (update_self ..) (some vpnHello))) ?_
  refine .cons (.device alive (.createToken (update_self ..) (List.replicate 16 byte)
    (by simp) fresh)) ?_
  change Run Step (s.withSessions _) _ _
  refine .cons (.device alive (.register (update_self ..) hregister)) ?_
  refine .cons (.device alive (.publishAccepted (update_self ..))) ?_
  exact .cons (.device alive (.helloAck (update_self ..) true)) (.nil _)

theorem connectData_run {d : Conn} {relay : RelayId} (alive : s.main ≠ .exited)
    (listening : s.acceptingDevice = true) (idle : s.sessions.handlers d = .idle)
    (valid : validSessionToken (tokenOf byte) = true)
    (held : s.sessions.registry.controlConnection ≠ none)
    (up : s.sessions.registry.stopping = false) (vpn : s.sessions.registry.controlMode = some .vpn)
    (session : s.sessions.registry.controlToken = tokenOf byte)
    (free : s.sessions.registry.dataConnection = none) (fresh : relay ∉ s.sessions.created) :
    Run Step s (dataHandshake d byte relay) (connectData s d byte relay) := by
  have hhello : afterDataHello (some ⟨tokenOf byte, "data"⟩) = .binding (tokenOf byte) := by
    simp [afterDataHello, checkDataHello, valid]
  have hbind : s.sessions.registry.bindData d (tokenOf byte) =
      some (s.sessions.registry.withData d) := by
    simp [Registry.bindData, held, up, vpn, session, free]
  have hattach : (s.sessions.registry.withData d).attachRelay d relay =
      some ((s.sessions.registry.withData d).withRelay relay) := by
    simp [Registry.attachRelay, held, up]
  refine .cons (.device alive (.accept idle listening)) ?_
  refine .cons (.device alive (.dataHello (update_self ..) _)) ?_
  rw [hhello]
  refine .cons (.device alive (.bindData (update_self ..) hbind)) ?_
  refine .cons (.device alive (.newRelay (update_self ..) fresh)) ?_
  refine .cons (.device alive (.attachRelay (update_self ..) hattach)) ?_
  exact .cons (.device alive (.dataAck (update_self ..) true)) (.nil _)

def controlledState : State := connectControl servingState 1 0

theorem controlledState_run : Run Step (State.start 1 plainConfig emptyFiles)
    (startup ++ controlHandshake 1 0) controlledState :=
  servingState_run.append
    (connectControl_run Main.noConfusion rfl rfl List.not_mem_nil rfl rfl)

/-- The session with its data channel on connection 2 and relay 7. -/
def bridgedState : State := connectData controlledState 2 0 7

theorem bridgedState_run : Run Step (State.start 1 plainConfig emptyFiles)
    (startup ++ controlHandshake 1 0 ++ dataHandshake 2 0 7) bridgedState :=
  controlledState_run.append (connectData_run Main.noConfusion rfl rfl (by decide) (by decide)
    rfl rfl rfl rfl (by decide))

theorem bridgedState_reached : Reached bridgedState :=
  ⟨_, _, ⟨1, plainConfig, emptyFiles, rfl⟩, bridgedState_run⟩

theorem controlLost_run {mode : Mode} {expected : UInt32} (alive : s.main ≠ .exited)
    (serving : s.sessions.handlers c = .serving mode expected)
    (held : s.sessions.registry.controlConnection = some c) :
    ∃ t, Run Step s [.device c (.controlFrame none), .device c .readPrevious,
        .device c .releaseControl] t ∧
      t.sessions.history = s.sessions.history ++ [.closed c] ∧
      t.sessions.registry.controlConnection = none := by
  have hrelease : ∀ previous, s.sessions.registry.releaseControl c previous =
      some (s.sessions.registry.withoutControl previous, ⟨s.sessions.registry.controlMode,
        s.sessions.registry.dataConnection, s.sessions.registry.dataRelay,
        s.sessions.registry.stopping⟩) := fun previous => if_neg (not_not_intro held)
  exact ⟨_, .cons (.device alive (.controlFrame serving none)) <|
    .cons (.device alive (.readPrevious (update_self ..))) <|
    .cons (.device alive (.releaseControl (update_self ..) (hrelease _))) <| .nil _,
    rfl, rfl⟩

theorem sessions_owned_bridged : bridgedState.sessions.registry.dataConnection = some 2 ∧
      lastBound bridgedState.sessions.history = some (2, tokenOf 0) ∧
      ∃ t, Reached t ∧ TokenReleased t.sessions (tokenOf 0) ∧
        t.sessions.registry.validControlAuthorization ("Bearer " ++ tokenOf 0) = false := by
  have hs := (sessions_owned bridgedState_reached).2.2.1.session 2 rfl
  obtain ⟨t, hrun, hhistory, hfree⟩ :=
    controlLost_run (s := bridgedState) (c := 1) Main.noConfusion rfl rfl
  have hrel : TokenReleased t.sessions (tokenOf 0) := by
    refine ⟨⟨1, .vpn, ?_⟩, by simp [hfree]⟩
    rw [hhistory]
    exact List.mem_append_left _ List.mem_cons_self
  have ht := bridgedState_reached.run hrun
  refine ⟨rfl, hs.2.2, t, ht, hrel, ?_⟩
  have hlater := (sessions_owned ht).2.2.2 (tokenOf 0) hrel [] t (.nil t)
  exact hlater.2 ("Bearer " ++ tokenOf 0) (by decide)

/-- Connection 1 is lost, and the goroutine of connection 2 finds its data channel released. -/
def controlFirst : List Label :=
  [.device 1 (.controlFrame none), .device 1 .readPrevious, .device 1 .releaseControl,
    .device 1 .closeData, .device 1 .closeRelay, .device 1 .publishControlLoss,
    .device 2 (.dataFrame none), .device 2 .releaseData]

theorem bridgedState_lost : ∃ t, Run Step bridgedState controlFirst t ∧ t.main = .serving ∧
    t.sessions.created = [7] ∧
    ∀ c, t.sessions.handlers c = if c = 1 ∨ c = 2 then .returned else .idle := by
  refine ⟨_, device_run (.controlFrame rfl none) <| device_run (.readPrevious rfl) <|
    device_run (.releaseControl rfl rfl) <| device_run (.closeData rfl) <|
    device_run (.closeRelay rfl) <| device_run (.publishControlLoss rfl) <|
    device_run (.dataFrame rfl none) <| device_run (.notData rfl rfl) <| .nil _, rfl, rfl, ?_⟩
  intro c
  rcases eq_or_ne c 2 with rfl | h2
  · rfl
  rcases eq_or_ne c 1 with rfl | h1
  · rfl
  · simp [h1, h2, bridgedState, connectData, controlledState, connectControl, servingState,
      State.start]

end HarmonyNetBridge.Daemon
