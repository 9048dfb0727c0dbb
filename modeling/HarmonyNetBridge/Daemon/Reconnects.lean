import HarmonyNetBridge.Daemon.SessionOwnership
import HarmonyNetBridge.Daemon.Shown

/-! The reconnect counter: what it has counted is what the accepted and released control sessions
say it should have. -/
namespace HarmonyNetBridge.Daemon
open Transition Function List

/-- What happens to control sessions under `s.mu`. A release comes with the VPN status that
`releaseControl` had read before. -/
inductive SessionEvent where
  | accepted (mode : Mode)
  | released (mode : Option Mode) (previous : VPNStatus)
  deriving DecidableEq, Repr

/-- A step that accepts or releases a control session. -/
def sessionEvent (s : State) : Label → Option SessionEvent
  | .device c .register =>
    match s.sessions.handlers c with
    | .registering mode token =>
      (s.sessions.registry.registerControl c mode token).map fun _ => .accepted mode
    | _ => none
  | .device c .releaseControl =>
    match s.sessions.handlers c with
    | .releasing _ previous =>
      (s.sessions.registry.releaseControl c previous).map fun r => .released r.2.mode previous
    | _ => none
  | _ => none

/-- A VPN session that was released without having been shown as STOPPED. -/
def SessionEvent.Unclean (e : SessionEvent) : Prop :=
  ∃ previous, e = .released (some .vpn) previous ∧ previous ≠ .stopped

instance : DecidablePred SessionEvent.Unclean
  | .accepted _ => isFalse (by rintro ⟨_, h, -⟩; cases h)
  | .released mode previous =>
    decidable_of_iff (mode = some .vpn ∧ previous ≠ .stopped)
      ⟨fun h => ⟨previous, by rw [h.1], h.2⟩, by rintro ⟨_, h, hp⟩; cases h; exact ⟨rfl, hp⟩⟩

/-- Some VPN session was released uncleanly since the last VPN session was accepted. -/
def ReconnectDue (log : List SessionEvent) : Prop :=
  Outstanding SessionEvent.Unclean (· = .accepted .vpn) log

instance (log : List SessionEvent) : Decidable (ReconnectDue log) :=
  inferInstanceAs (Decidable (Outstanding _ _ log))

theorem reconnectDue_accepted (log : List SessionEvent) (mode : Mode) :
    ReconnectDue (log ++ [.accepted mode]) ↔ mode ≠ .vpn ∧ ReconnectDue log := by
  have hclean : ¬ SessionEvent.Unclean (.accepted mode) := by
    rintro ⟨previous, h, -⟩
    cases h
  simp [ReconnectDue, outstanding_snoc, hclean, and_comm]

theorem reconnectDue_released (log : List SessionEvent) (mode : Option Mode)
    (previous : VPNStatus) : ReconnectDue (log ++ [.released mode previous]) ↔
      (mode = some .vpn ∧ previous ≠ .stopped) ∨ ReconnectDue log := by
  simp [ReconnectDue, outstanding_snoc, SessionEvent.Unclean]

/-- The number of accepted VPN sessions for which some VPN session was released uncleanly since
the previous accepted VPN session. -/
def reconnections (log : List SessionEvent) : ℕ :=
  (List.range log.length).countP fun i =>
    decide (log[i]? = some (.accepted .vpn) ∧ ReconnectDue (log.take i))

theorem reconnections_snoc (log : List SessionEvent) (e : SessionEvent) :
    reconnections (log ++ [e]) =
      reconnections log + if e = .accepted .vpn ∧ ReconnectDue log then 1 else 0 := by
  have hold : (List.range log.length).countP (fun i => decide
      ((log ++ [e])[i]? = some (.accepted .vpn) ∧ ReconnectDue ((log ++ [e]).take i))) =
        reconnections log := by
    refine countP_congr fun i hi => ?_
    have hlt := mem_range.mp hi
    rw [List.getElem?_append_left hlt, take_append_of_le_length hlt.le]
  unfold reconnections at hold ⊢
  rw [length_append, length_singleton, range_succ, countP_append, hold]
  simp [countP_cons]

theorem reconnections_accepted (log : List SessionEvent) (mode : Mode) :
    reconnections (log ++ [.accepted mode]) =
      reconnections log + if mode = .vpn ∧ ReconnectDue log then 1 else 0 := by
  rw [reconnections_snoc]
  simp only [SessionEvent.accepted.injEq]

theorem reconnections_released (log : List SessionEvent) (mode : Option Mode)
    (previous : VPNStatus) :
    reconnections (log ++ [.released mode previous]) = reconnections log := by
  simp [reconnections_snoc]

/-- A reconnect that the goroutine has found and not counted yet. -/
def Handler.uncounted : Handler → UInt64
  | publishingAccepted _ _ true _ => 1
  | _ => 0

theorem Handler.uncounted_publishingAccepted (mode : Mode) (token : String)
    (isReconnect proxyEnabled : Bool) :
    (publishingAccepted mode token isReconnect proxyEnabled).uncounted =
      if isReconnect = true then 1 else 0 := by
  cases isReconnect <;> rfl

def Sessions.uncounted (x : Sessions) : UInt64 :=
  match x.registry.controlConnection with
  | some c => (x.handlers c).uncounted
  | none => 0

def State.initialReconnects (s : State) : UInt64 := (initialSnapshot s.config s.previous).reconnects

theorem initialSnapshot_reconnects (config : Config) :
    (initialSnapshot config none).reconnects = 0 := by
  cases h : config.proxyFactory <;> simp [initialSnapshot, h, newStarting]

/-- What a step of the device goroutine `c` can do to the counter and to what it depends on. -/
inductive Tally (c : Conn) (s : State) : DeviceEvent → State → Prop
  | quiet {e : DeviceEvent} {t : State} (silent : sessionEvent s (.device c e) = none)
      (same : t.sessions.registry.controlConnection = s.sessions.registry.controlConnection)
      (pending : t.sessions.registry.reconnectPending = s.sessions.registry.reconnectPending)
      (side : (t.sessions.handlers c).controlSide = none ∨
        (t.sessions.handlers c).controlSide = (s.sessions.handlers c).controlSide)
      (before : (s.sessions.handlers c).uncounted = 0)
      (after : (t.sessions.handlers c).uncounted = 0)
      (counter : t.snapshot.reconnects = s.snapshot.reconnects) : Tally c s e t
  | accepted {t : State} {mode : Mode} {token : String}
      (logged : sessionEvent s (.device c .register) = some (.accepted mode))
      (free : s.sessions.registry.controlConnection = none)
      (taken : t.sessions.registry = s.sessions.registry.withControl c mode token)
      (after : (t.sessions.handlers c).uncounted =
        if mode = .vpn ∧ s.sessions.registry.reconnectPending = true then 1 else 0)
      (counter : t.snapshot.reconnects = s.snapshot.reconnects) : Tally c s .register t
  | counted {t : State} (same : t.sessions.registry = s.sessions.registry)
      (side : (s.sessions.handlers c).controlSide ≠ none)
      (after : (t.sessions.handlers c).uncounted = 0)
      (counter : t.snapshot.reconnects =
        s.snapshot.reconnects + (s.sessions.handlers c).uncounted) : Tally c s .publishAccepted t
  | released {t : State} {previous : VPNStatus}
      (logged : sessionEvent s (.device c .releaseControl) =
        some (.released s.sessions.registry.controlMode previous))
      (held : s.sessions.registry.controlConnection = some c)
      (before : (s.sessions.handlers c).uncounted = 0)
      (given : t.sessions.registry = s.sessions.registry.withoutControl previous)
      (side : (t.sessions.handlers c).controlSide = none)
      (counter : t.snapshot.reconnects = s.snapshot.reconnects) : Tally c s .releaseControl t

theorem controlLoop_uncounted (r : Registry) (c : Conn) (proxyActive : Bool) (mode : Mode)
    (expected : UInt32) (frame : Option (UInt32 × ControlFrame)) :
    (controlLoop r c proxyActive mode expected frame).uncounted = 0 := by
  unfold controlLoop
  repeat' split
  all_goals rfl

theorem dataLoop_uncounted (token : String) (relay : RelayId) (expected : UInt32)
    (frame : Option (UInt32 × DataFrame)) : (dataLoop token relay expected frame).uncounted = 0 := by
  unfold dataLoop
  dsimp only
  repeat' split
  all_goals rfl

variable {c : Conn} {s t : State} {e : DeviceEvent} {x : Sessions}

theorem Tally.still {p : Handler} (h : Handler) (pc : s.sessions.handlers c = p)
    (next : t.sessions.handlers c = h) (silent : sessionEvent s (.device c e) = none)
    (same : t.sessions.registry.controlConnection = s.sessions.registry.controlConnection)
    (pending : t.sessions.registry.reconnectPending = s.sessions.registry.reconnectPending)
    (side : h.controlSide = none ∨ h.controlSide = p.controlSide) (before : p.uncounted = 0)
    (after : h.uncounted = 0) (counter : t.snapshot.reconnects = s.snapshot.reconnects) :
    Tally c s e t := by
  subst pc next
  exact .quiet silent same pending side before after counter

theorem publishAccepted_reconnects (mode : Mode) (token : String) (isReconnect proxyEnabled : Bool)
    (s : Snapshot) : (publishAccepted mode isReconnect s).reconnects =
      s.reconnects + (Handler.publishingAccepted mode token isReconnect proxyEnabled).uncounted := by
  cases mode <;> cases isReconnect <;> simp [publishAccepted, Handler.uncounted]

theorem publishControlLoss_reconnects (mode : Option Mode) (s : Snapshot) :
    (publishControlLoss mode s).reconnects = s.reconnects := by
  unfold publishControlLoss
  dsimp only
  repeat' split
  all_goals rfl

theorem DeviceStep.tally (h : DeviceStep c s e t) : Tally c s e t := by
  cases h with
  | accept pc _ | drop pc | authorize pc _ | noToken pc | closeData pc | rejectData pc _
  | noRelay pc | publishDataHeartbeat pc | closeConnection pc | publishDataLoss pc
  | createToken pc _ _ _ | newRelay pc _ | notAttached pc _ | discardRelay pc | notData pc _ =>
    exact .still _ pc (update_self ..) rfl rfl rfl (.inl rfl) rfl rfl rfl
  | publishHeartbeat pc | publishStatus pc | readPrevious pc =>
    exact .still _ pc (update_self ..) rfl rfl rfl (.inr rfl) rfl rfl rfl
  | hello pc payload =>
    refine .still (afterHello payload) pc (update_self ..) rfl rfl rfl (.inl ?_) rfl ?_ rfl
    all_goals unfold afterHello; split <;> rfl
  | dataHello pc payload =>
    refine .still (afterDataHello payload) pc (update_self ..) rfl rfl rfl (.inl ?_) rfl
      ?_ rfl
    all_goals unfold afterDataHello; split <;> rfl
  | busy pc refused =>
    refine .still _ pc (update_self ..) ?_ rfl rfl (.inl rfl) rfl rfl rfl
    simp [sessionEvent, pc, refused]
  | register pc taken =>
    obtain ⟨free, -, rfl, rfl⟩ := Registry.registerControl_eq_some taken
    refine .accepted (by simp [sessionEvent, pc, taken]) free rfl ?_ rfl
    simp only [State.withSessions_sessions, Sessions.goto_handlers, update_self,
      Handler.uncounted_publishingAccepted, Bool.and_eq_true, beq_iff_eq]
  | publishAccepted pc =>
    refine .counted rfl (by simp [pc, Handler.controlSide]) ?_ ?_
    · simp [Handler.uncounted]
    · rw [pc]
      exact publishAccepted_reconnects ..
  | helloAck pc written =>
    cases written <;>
      exact .still _ pc (update_self ..) rfl rfl rfl (.inr rfl) rfl rfl rfl
  | @controlFrame mode expected pc frame =>
    have hside := (controlLoop_sides s.sessions.registry c s.proxySession.isSome mode expected
      frame).1
    exact .still _ pc (update_self ..) rfl rfl rfl (.inr hside) rfl
      (controlLoop_uncounted ..) rfl
  | notControl pc refused =>
    refine .still _ pc (update_self ..) ?_ rfl rfl (.inl rfl) rfl rfl rfl
    simp [sessionEvent, pc, refused]
  | releaseControl pc taken =>
    obtain ⟨held, rfl, rfl⟩ := Registry.releaseControl_eq_some taken
    refine .released (by simp [sessionEvent, pc, taken]) held (by rw [pc]; rfl) rfl ?_ rfl
    simp [Handler.controlSide]
  | closeRelay pc =>
    refine .still (afterControlRelease _) pc (update_self ..) rfl rfl rfl (.inl ?_) rfl
      ?_ rfl
    all_goals unfold afterControlRelease; split <;> rfl
  | publishControlLoss pc =>
    exact .still _ pc (update_self ..) rfl rfl rfl (.inl rfl) rfl rfl
      (publishControlLoss_reconnects ..)
  | bindData pc taken =>
    obtain ⟨-, -, -, -, -, rfl⟩ := Registry.bindData_eq_some taken
    exact .still _ pc (update_self ..) rfl rfl rfl (.inl rfl) rfl rfl rfl
  | attachRelay pc taken =>
    obtain ⟨-, -, -, rfl⟩ := Registry.attachRelay_eq_some taken
    exact .still _ pc (update_self ..) rfl rfl rfl (.inl rfl) rfl rfl rfl
  | dataAck pc written =>
    cases written <;>
      exact .still _ pc (update_self ..) rfl rfl rfl (.inl rfl) rfl rfl rfl
  | @dataFrame token relay expected pc frame =>
    have hside := (dataLoop_sides token relay expected frame).1
    exact .still _ pc (update_self ..) rfl rfl rfl (.inl hside) rfl
      (dataLoop_uncounted ..) rfl
  | releaseData pc taken =>
    obtain ⟨-, rfl, rfl⟩ := Registry.releaseData_eq_some taken
    exact .still _ pc (update_self ..) rfl rfl rfl (.inl rfl) rfl rfl rfl
  | publishRelayStats pc stats =>
    unfold publishFinalStats
    split <;> exact .still _ pc (update_self ..) rfl rfl rfl (.inl rfl) rfl rfl rfl
  | closeDataRelay pc =>
    refine .still (afterDataRelease _ _) pc (update_self ..) rfl rfl rfl (.inl ?_) rfl
      ?_ rfl
    all_goals unfold afterDataRelease; split <;> rfl

theorem MainStep.reconnects {e : MainEvent} (h : MainStep s e t) :
    (s.main.starting = true ∧ t.snapshot.reconnects = t.initialReconnects) ∨
      (t.snapshot.reconnects = s.snapshot.reconnects ∧
        t.initialReconnects = s.initialReconnects) := by
  cases h with
  | readState pc => exact .inl ⟨by rw [pc]; rfl, rfl⟩
  | publishStopping pc =>
    right
    simp only [State.withMain_snapshot, State.update_snapshot, Daemon.publishStopping]
    split <;> exact ⟨rfl, rfl⟩
  | _ => exact .inr ⟨rfl, rfl⟩

theorem MonitorStep.reconnects {e : MonitorEvent} (h : MonitorStep s e t) :
    t.snapshot.reconnects = s.snapshot.reconnects ∧
      t.initialReconnects = s.initialReconnects := by
  cases h <;> exact ⟨rfl, rfl⟩

theorem RequestStep.reconnects {i : ℕ} {e : RequestEvent} (h : RequestStep i s e t) :
    t.snapshot.reconnects = s.snapshot.reconnects ∧
      t.initialReconnects = s.initialReconnects := by
  cases h <;> exact ⟨rfl, rfl⟩

theorem DeviceStep.initialReconnects (h : DeviceStep c s e t) :
    t.initialReconnects = s.initialReconnects := by
  cases h with
  | publishRelayStats pc stats =>
    unfold publishFinalStats
    split <;> rfl
  | _ => rfl

/-- Until the daemon stops, a goroutine with a control session to release is the registered
one. -/
def Held (x : Sessions) : Prop :=
  x.registry.stopping = false → ∀ c, (x.handlers c).controlSide ≠ none →
    x.registry.controlConnection = some c

theorem Held.device {c : Conn} {s t : State} {e : DeviceEvent} (h : DeviceStep c s e t)
    (hs : Held s.sessions) : Held t.sessions := by
  intro ht d hd
  rw [h.effect.stopping] at ht
  rcases eq_or_ne d c with rfl | hne
  · cases h.tally with
    | quiet silent same pending side before after counter =>
      rw [same]
      rcases side with side | side
      · exact absurd side hd
      · exact hs ht d (side ▸ hd)
    | accepted logged free taken after counter => rw [taken, Registry.withControl_controlConnection]
    | counted same side after counter =>
      rw [same]
      exact hs ht d side
    | released logged held before given side counter => exact absurd side hd
  · rw [h.effect.other hne] at hd
    have hheld := hs ht d hd
    cases h.tally with
    | quiet silent same pending side before after counter => rwa [same]
    | accepted logged free taken after counter => simp [free] at hheld
    | counted same side after counter => rwa [same]
    | released logged held before given side counter =>
      rw [held] at hheld
      exact absurd (Option.some.inj hheld).symm hne

theorem held_reached (h : Reached s) : Held s.sessions := by
  refine h.invariant (I := fun s => Held s.sessions) ?_ ?_
  · rintro s ⟨pid, config, files, rfl⟩ _ c hc
    exact absurd rfl hc
  · intro s l t hstep hs
    cases hstep with
    | device _ h => exact hs.device h
    | monitor _ h => rw [h.main.2]; exact hs
    | request _ h => rw [h.main.2]; exact hs
    | main h =>
      obtain ⟨hhandlers, hreg | hreg⟩ := h.sessions
      · unfold Held
        rwa [hhandlers, hreg]
      · intro ht
        simp [hreg] at ht
    | surroundings e => cases e <;> exact hs

theorem Sessions.uncounted_of_some (h : x.registry.controlConnection = some c) :
    x.uncounted = (x.handlers c).uncounted := by
  rw [Sessions.uncounted, h]

theorem Sessions.uncounted_of_none (h : x.registry.controlConnection = none) : x.uncounted = 0 := by
  rw [Sessions.uncounted, h]

/-- A goroutine that has nothing to count, before and after its step, leaves the sum alone. -/
theorem Sessions.uncounted_congr {y : Sessions}
    (same : y.registry.controlConnection = x.registry.controlConnection)
    (others : ∀ d, d ≠ c → y.handlers d = x.handlers d) (before : (x.handlers c).uncounted = 0)
    (after : (y.handlers c).uncounted = 0) : y.uncounted = x.uncounted := by
  unfold Sessions.uncounted
  rw [same]
  split
  next d _ =>
    rcases eq_or_ne d c with rfl | hd
    · rw [before, after]
    · rw [others d hd]
  · rfl

/-- What the recorded events say about the pending reconnect and the counter. -/
structure Counted (s : State) (log : List SessionEvent) : Prop where
  unserved : s.main.starting = true → log = []
  pending : s.sessions.registry.stopping = false →
    (s.sessions.registry.reconnectPending = true ↔ ReconnectDue log)
  counter : s.sessions.registry.stopping = false →
    s.snapshot.reconnects + s.sessions.uncounted =
      s.initialReconnects + UInt64.ofNat (reconnections log)

theorem Counted.same {log : List SessionEvent} (hs : Counted s log)
    (main : t.main.starting = true → s.main.starting = true) (sessions : t.sessions = s.sessions)
    (counter : t.snapshot.reconnects = s.snapshot.reconnects)
    (initial : t.initialReconnects = s.initialReconnects) : Counted t log where
  unserved ht := hs.unserved (main ht)
  pending := sessions ▸ hs.pending
  counter := by
    rw [counter, initial, sessions]
    exact hs.counter

theorem Counted.device {c : Conn} {s t : State} {e : DeviceEvent} {log : List SessionEvent}
    (h : DeviceStep c s e t) (hu : Unserved s) (hheld : Held s.sessions) (hs : Counted s log) :
    Counted t (log ++ (sessionEvent s (.device c e)).toList) := by
  have hup : t.sessions.registry.stopping = s.sessions.registry.stopping := h.effect.stopping
  have hstart : t.main.starting = true → log ++ (sessionEvent s (.device c e)).toList = [] := by
    intro ht
    rw [h.main] at ht
    have hidle : sessionEvent s (.device c e) = none := by
      cases e <;> simp [sessionEvent, (hu ht).1]
    simp [hs.unserved ht, hidle]
  refine ⟨hstart, fun ht => ?_, fun ht => ?_⟩
  · rw [hup] at ht
    have hpending := hs.pending ht
    cases h.tally with
    | quiet silent same pending side before after counter => simp [silent, pending, hpending]
    | counted same side after counter => simp [sessionEvent, same, hpending]
    | @accepted _ mode _ logged free taken after counter =>
      rw [logged, taken, Option.toList_some, reconnectDue_accepted, Registry.withControl_reconnectPending]
      cases mode <;> simp [hpending]
    | @released _ previous logged held before given side counter =>
      rw [logged, given, Option.toList_some, reconnectDue_released, ← hpending,
        Registry.withoutControl_reconnectPending]
      by_cases hvpn : s.sessions.registry.controlMode = some .vpn ∧ previous ≠ .stopped
      · simp [hvpn, ht]
      · simp only [ht, true_and, hvpn, false_or, if_false]
  · rw [hup] at ht
    have hpending := hs.pending ht
    have hcounter := hs.counter ht
    rw [h.initialReconnects]
    cases h.tally with
    | quiet silent same pending side before after counter =>
      rw [silent, Option.toList_none, append_nil, counter,
        Sessions.uncounted_congr same (fun d => h.effect.other) before after]
      exact hcounter
    | counted same side after counter =>
      have hc := hheld ht c side
      rw [Sessions.uncounted_of_some hc] at hcounter
      rw [Sessions.uncounted_of_some (same ▸ hc), after, counter]
      simpa [sessionEvent] using hcounter
    | @accepted _ mode token logged free taken after counter =>
      rw [Sessions.uncounted_of_none free] at hcounter
      rw [logged, counter, Sessions.uncounted_of_some (by rw [taken]; rfl), after,
        Option.toList_some, reconnections_accepted, UInt64.ofNat_add, ← UInt64.add_assoc,
        ← hcounter, UInt64.add_zero]
      simp only [hpending]
      split <;> rfl
    | released logged held before given side counter =>
      rw [Sessions.uncounted_of_some held, before] at hcounter
      rw [logged, counter, Sessions.uncounted_of_none (by rw [given]; rfl), Option.toList_some,
        reconnections_released]
      exact hcounter

theorem Counted.main {e : MainEvent} {log : List SessionEvent} (h : MainStep s e t)
    (hu : Unserved s) (hs : Counted s log) : Counted t log := by
  have hstart : t.main.starting = true → log = [] := fun ht => hs.unserved (h.starting ht).1
  obtain ⟨hhandlers, hreg | hreg⟩ := h.sessions
  · rcases h.reconnects with ⟨hstarting, hread⟩ | ⟨hcounter, hinitial⟩
    · have hlog := hs.unserved hstarting
      have hempty := (hu hstarting).1
      subst hlog
      refine ⟨hstart, fun _ => ?_, fun _ => ?_⟩
      · simp [hreg, hempty, ReconnectDue, not_outstanding_nil]
      · rw [hread, Sessions.uncounted_of_none (by rw [hreg, hempty])]
        rfl
    · refine ⟨hstart, fun ht => ?_, fun ht => ?_⟩
      · rw [hreg] at ht ⊢
        exact hs.pending ht
      · rw [hreg] at ht
        rw [hcounter, hinitial, ← hs.counter ht, Sessions.uncounted, hreg, hhandlers]
        rfl
  · have hstopping : t.sessions.registry.stopping = true := by rw [hreg]; rfl
    exact ⟨hstart, by simp [hstopping], by simp [hstopping]⟩

theorem counted_reached {log : List SessionEvent}
    (h : Reachable (Logged Step sessionEvent) (fun x => Initial x.1 ∧ x.2 = []) (s, log)) :
    Counted s log := by
  refine (h.loggedInvariant (I := Counted) ?_ ?_).2
  · rintro s ⟨pid, config, files, rfl⟩
    refine ⟨fun _ => rfl, fun _ => ?_, fun _ => ?_⟩
    · simp [ReconnectDue, not_outstanding_nil, State.start]
    · rw [State.initialReconnects, State.start, initialSnapshot_reconnects]
      rfl
  · intro s log l t hr hstep hs
    cases hstep with
    | device _ h => exact hs.device h (unserved_reached hr) (held_reached hr)
    | main h =>
      rw [show sessionEvent s (.main _) = none from rfl, Option.toList_none, append_nil]
      exact hs.main h (unserved_reached hr)
    | monitor _ h =>
      have ht := hs.same (by rw [h.main.1]; exact id) h.main.2 h.reconnects.1 h.reconnects.2
      simpa [sessionEvent] using ht
    | request _ h =>
      have ht := hs.same (by rw [h.main.1]; exact id) h.main.2 h.reconnects.1 h.reconnects.2
      simpa [sessionEvent] using ht
    | surroundings e =>
      have ht : Counted (s.surrounded e) log := by cases e <;> exact hs.same id rfl rfl rfl
      simpa [sessionEvent] using ht

def SessionEvent.ofVPN : SessionEvent → Bool
  | accepted mode => mode == .vpn
  | released mode _ => mode == some .vpn

theorem reconnectDue_filter (log : List SessionEvent) :
    ReconnectDue (log.filter SessionEvent.ofVPN) ↔ ReconnectDue log := by
  induction log using List.reverseRecOn with
  | nil => rfl
  | append_singleton log e ih =>
    rw [filter_append]
    cases e with
    | accepted mode => cases mode <;> simp [SessionEvent.ofVPN, reconnectDue_accepted, ih]
    | released mode previous =>
      by_cases hmode : mode = some .vpn <;>
        simp [SessionEvent.ofVPN, reconnectDue_released, hmode, ih]

theorem reconnections_filter (log : List SessionEvent) :
    reconnections (log.filter SessionEvent.ofVPN) = reconnections log := by
  induction log using List.reverseRecOn with
  | nil => rfl
  | append_singleton log e ih =>
    rw [filter_append]
    cases e with
    | accepted mode =>
      cases mode <;> simp [SessionEvent.ofVPN, reconnections_accepted, reconnectDue_filter, ih]
    | released mode previous =>
      by_cases hmode : mode = some .vpn <;>
        simp [SessionEvent.ofVPN, reconnections_released, hmode, ih]

/-- Once every accepted session has published and as long as `shutdown` has not begun, the counter
is what the daemon started with and the accepted VPN sessions that follow an unclean release. The
sessions of Phase 1 play no part in it. -/
theorem reconnects_counted {s : State} {log : List SessionEvent}
    (h : Reachable (Logged Step sessionEvent) (fun x => Initial x.1 ∧ x.2 = []) (s, log))
    (up : s.sessions.registry.stopping = false)
    (published : ∀ c mode token isReconnect proxyEnabled,
      s.sessions.handlers c ≠ .publishingAccepted mode token isReconnect proxyEnabled) :
    s.snapshot.reconnects = s.initialReconnects + UInt64.ofNat (reconnections log) ∧
      (s.sessions.registry.reconnectPending = true ↔ ReconnectDue log) ∧
      reconnections (log.filter SessionEvent.ofVPN) = reconnections log ∧
      (ReconnectDue (log.filter SessionEvent.ofVPN) ↔ ReconnectDue log) := by
  have hnone : s.sessions.uncounted = 0 := by
    unfold Sessions.uncounted
    split
    next c _ =>
      cases hc : s.sessions.handlers c with
      | publishingAccepted mode token isReconnect proxyEnabled =>
        exact absurd hc (published c mode token isReconnect proxyEnabled)
      | _ => rfl
    · rfl
  have hs := counted_reached h
  have hcounter := hs.counter up
  rw [hnone, UInt64.add_zero] at hcounter
  exact ⟨hcounter, hs.pending up, reconnections_filter log, reconnectDue_filter log⟩

/-- A VPN session is lost while it is starting, and the App comes back on connection 3. -/
theorem servingState_reconnected : ∃ s, Run (Logged Step sessionEvent) (servingState, [])
      (controlHandshake 1 0 ++ [.device 1 (.controlFrame none), .device 1 .readPrevious,
        .device 1 .releaseControl] ++ controlHandshake 3 1)
      (s, [.accepted .vpn, .released (some .vpn) .starting, .accepted .vpn]) ∧
    s.sessions.registry.stopping = false ∧ s.initialReconnects = 0 ∧
    ∀ c, s.sessions.handlers c = if c = 3 then .serving .vpn 2
      else if c = 1 then .closingData ⟨some .vpn, none, none, false⟩ else .idle := by
  refine ⟨_, .record (.device Main.noConfusion (.accept rfl rfl)) <|
    .record (.device Main.noConfusion (.hello rfl (some vpnHello))) <|
    .record (.device Main.noConfusion (.createToken rfl (List.replicate 16 0) rfl
      not_mem_nil)) <|
    .record (.device Main.noConfusion (.register rfl rfl)) <|
    .record (.device Main.noConfusion (.publishAccepted rfl)) <|
    .record (.device Main.noConfusion (.helloAck rfl true)) <|
    .record (.device Main.noConfusion (.controlFrame rfl none)) <|
    .record (.device Main.noConfusion (.readPrevious rfl)) <|
    .record (.device Main.noConfusion (.releaseControl rfl rfl)) <|
    .record (.device Main.noConfusion (.accept rfl rfl)) <|
    .record (.device Main.noConfusion (.hello rfl (some vpnHello))) <|
    .record (.device Main.noConfusion (.createToken rfl (List.replicate 16 1) rfl (by decide))) <|
    .record (.device Main.noConfusion (.register rfl rfl)) <|
    .record (.device Main.noConfusion (.publishAccepted rfl)) <|
    .record (.device Main.noConfusion (.helloAck rfl true)) <| .nil _, rfl, rfl, ?_⟩
  intro c
  rcases eq_or_ne c 3 with rfl | h3
  · rfl
  rcases eq_or_ne c 1 with rfl | h1
  · rfl
  · simp [h1, h3, servingState, State.start]

theorem reconnects_counted_lost : ∃ s, Reachable (Logged Step sessionEvent)
      (fun x => Initial x.1 ∧ x.2 = [])
      (s, [.accepted .vpn, .released (some .vpn) .starting, .accepted .vpn]) ∧
    s.snapshot.reconnects = 1 := by
  have hstart : Run (Logged Step sessionEvent) (State.start 1 plainConfig emptyFiles, []) startup
      (servingState, []) := servingState_run.unobserved [] (by simp [startup, sessionEvent])
  obtain ⟨s, hrun, hup, hinitial, hhandlers⟩ := servingState_reconnected
  have hreached : Reachable (Logged Step sessionEvent) (fun x => Initial x.1 ∧ x.2 = []) (s, _) :=
    ⟨_, _, ⟨⟨1, plainConfig, emptyFiles, rfl⟩, rfl⟩, hstart.append hrun⟩
  refine ⟨s, hreached, ?_⟩
  have hcounted := (reconnects_counted hreached hup ?_).1
  · rw [hcounted, hinitial]
    decide
  · intro c mode token isReconnect proxyEnabled
    rw [hhandlers]
    split_ifs <;> simp

end HarmonyNetBridge.Daemon
