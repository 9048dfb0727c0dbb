import HarmonyNetBridge.Daemon.ActiveStatus
import HarmonyNetBridge.Daemon.MappingCalls
import HarmonyNetBridge.Daemon.Reconnects

/-! The transport that is shown without a control session, and the flag `unavailable` that
`monitorMapping` keeps to itself. -/
namespace HarmonyNetBridge.Daemon
open Transition Function

/-- The goroutine has released a data channel and has yet to publish that, if it will. -/
def Handler.dataEnding : Handler → Bool
  | dataClosing .. | dataReporting .. | dataClosingRelay .. | publishingDataLoss _ => true
  | _ => false

/-- The goroutine is in the middle of the end of a control session or of its data channel. -/
def Handler.ending : Handler → Bool
  | closingData _ | closingRelay _ | publishingControlLoss _ => true
  | h => h.dataEnding

/-- The end of a session is executed as a whole: until it is over no other device goroutine moves
and no tick comes. -/
def Whole (s : State) (l : Label) : Prop :=
  ∀ c, (s.sessions.handlers c).ending = true →
    l ≠ .monitor .tick ∧ ∀ d e, l = .device d e → d = c

/-- A data channel is released while its control session is registered. -/
def EndsInSession (x : Sessions) : Prop :=
  ∀ c, (x.handlers c).dataEnding = true → x.registry.controlConnection ≠ none ∨
    x.registry.stopping = true

variable {h : Handler} {c : Conn} {s t : State} {e : MonitorEvent} {mark : MappingMark}
  {present : Option Bool}

theorem Handler.ending_of_dataEnding (hd : h.dataEnding = true) : h.ending = true := by
  cases h <;> first | rfl | cases hd

theorem dataLoop_dataEnding (token : String) (relay : RelayId) (expected : UInt32)
    (frame : Option (UInt32 × DataFrame)) :
    (dataLoop token relay expected frame).dataEnding = false := by
  unfold dataLoop
  dsimp only
  repeat' split
  all_goals rfl

theorem controlLoop_dataEnding (r : Registry) (c : Conn) (proxyActive : Bool) (mode : Mode)
    (expected : UInt32) (frame : Option (UInt32 × ControlFrame)) :
    (controlLoop r c proxyActive mode expected frame).dataEnding = false := by
  unfold controlLoop
  repeat' split
  all_goals rfl

/-- The release of a data channel starts with the section of `releaseData`. -/
theorem DeviceStep.dataEnding {e : DeviceEvent} (h : DeviceStep c s e t)
    (hd : (t.sessions.handlers c).dataEnding = true) :
    t.sessions.registry.controlConnection = s.sessions.registry.controlConnection ∧
      ((s.sessions.handlers c).dataEnding = true ∨
        s.sessions.registry.dataConnection = some c) := by
  cases h with
  | releaseData pc taken =>
    obtain ⟨held, rfl, rfl⟩ := Registry.releaseData_eq_some taken
    exact ⟨rfl, .inr held⟩
  | closeConnection pc | closeDataRelay pc => exact ⟨rfl, .inl (by rw [pc]; rfl)⟩
  | publishRelayStats pc stats =>
    refine ⟨?_, .inl (by rw [pc]; rfl)⟩
    simp only [publishFinalStats]
    split <;> rfl
  | hello pc payload =>
    simp only [State.goto_sessions_handlers, update_self, afterHello] at hd
    split at hd <;> cases hd
  | dataHello pc payload =>
    simp only [State.goto_sessions_handlers, update_self, afterDataHello] at hd
    split at hd <;> cases hd
  | closeRelay pc =>
    simp only [State.withSessions_sessions, Sessions.goto_handlers, update_self,
      afterControlRelease] at hd
    split at hd <;> cases hd
  | helloAck pc written => cases written <;> simp [Handler.dataEnding] at hd
  | dataAck pc written => cases written <;> simp [Handler.dataEnding] at hd
  | controlFrame pc frame => simp [controlLoop_dataEnding] at hd
  | dataFrame pc frame => simp [dataLoop_dataEnding] at hd
  | _ => simp [Handler.dataEnding] at hd

theorem EndsInSession.device {c : Conn} {s t : State} {e : DeviceEvent} (hr : Reached s)
    (h : DeviceStep c s e t) (hok : Whole s (.device c e)) (hs : EndsInSession s.sessions) :
    EndsInSession t.sessions := by
  intro d hd
  obtain rfl : d = c := by
    by_contra hne
    rw [h.effect.other hne] at hd
    exact hne ((hok d (Handler.ending_of_dataEnding hd)).2 c e rfl).symm
  obtain ⟨hsame, hending | hheld⟩ := h.dataEnding hd
  · rw [hsame, h.effect.stopping]
    exact hs d hending
  · obtain ⟨σ, hσ, howned⟩ := Owned.reached hr
    rw [hsame]
    exact .inl ((howned.ownsSessions hσ).session d hheld).1

/-- The monitor believes that the mapping is there and has not looked at a result that says
otherwise. -/
def Monitor.calm : Monitor → Bool
  | waiting unavailable | checking unavailable | checked unavailable _ => !unavailable
  | _ => false

/-- Only the mark of an available mapping is followed by `unavailable = false`. -/
def Monitor.paired : Monitor → Prop
  | marking mark resume | comparing mark resume | publishing mark _ resume =>
    resume = .wait false → mark = markMappingAvailable
  | _ => True

theorem MonitorStep.paired (h : MonitorStep s e t) (hs : s.monitor.paired) : t.monitor.paired := by
  have hresume : ∀ resume, (Monitor.resume resume).paired := by
    intro resume
    cases resume <;> trivial
  cases h with
  | tick | cancel | hasReverse | addReverse => trivial
  | judge pc =>
    simp only [State.withMonitor_monitor]
    split
    · trivial
    · unfold afterHasReverse
      repeat' split
      all_goals simp [Monitor.paired]
  | mark pc =>
    rw [pc] at hs
    simp only [State.withMonitor_monitor, afterMark]
    split
    · exact hresume _
    · exact hs
  | compare pc =>
    rw [pc] at hs
    simp only [State.withMonitor_monitor, afterCompare]
    split
    · exact hresume _
    · exact hs
  | publish pc => exact hresume _
  | restored pc =>
    simp only [State.withMonitor_monitor, afterRestore]
    repeat' split
    all_goals simp [Monitor.paired]

theorem monitor_paired_reached (h : Reached s) : s.monitor.paired := by
  refine h.invariant (I := fun s => s.monitor.paired) ?_ ?_
  · rintro s ⟨pid, config, files, rfl⟩
    trivial
  · intro s l t hstep hs
    cases hstep with
    | device _ h => rw [h.monitor]; exact hs
    | monitor _ h => exact h.paired hs
    | request _ h => rw [h.monitor]; exact hs
    | main h =>
      cases h with
      | startMonitor pc => trivial
      | _ => exact hs
    | surroundings e => cases e <;> exact hs

/-- Without a session, and unless some goroutine has yet to publish, a calm monitor can rely on
PORT_READY being shown. -/
def CalmShown (s : State) : Prop :=
  s.sessions.registry.stopping = false → s.sessions.registry.controlConnection = none →
    (∀ c, (s.sessions.handlers c).pending = false) → s.monitor.calm = true →
      s.snapshot.transport = .portReady

/-- A goroutine that has yet to publish the start of a session or a report holds the session. -/
theorem Handler.controlSide_of_pending (hp : h.pending = true) (he : h.ending = false) :
    h.controlSide ≠ none := by
  cases h <;> simp_all [Handler.pending, Handler.ending, Handler.dataEnding, Handler.controlSide]

theorem Effect.free {c : Conn} {x y : Sessions} (h : Effect c x y)
    (hy : y.registry.controlConnection = none) : x.registry.controlConnection = none ∨
      ∃ release : ControlRelease, y.handlers c = .closingData release ∧
        release.stopping = x.registry.stopping := by
  cases h with
  | opened pc free up => cases hy
  | closed pc held => exact .inr ⟨_, update_self .., rfl⟩
  | _ => exact .inl hy

theorem CalmShown.device {c : Conn} {s t : State} {e : DeviceEvent} (hr : Reached s)
    (h : DeviceStep c s e t) (hends : EndsInSession s.sessions) (hs : CalmShown s) :
    CalmShown t := by
  intro hup hfree hpending hcalm
  rw [h.effect.stopping] at hup
  have hfree' : s.sessions.registry.controlConnection = none := by
    rcases h.effect.free hfree with hfree' | ⟨release, hpc, hstopping⟩
    · exact hfree'
    · have hc := hpending c
      rw [hpc] at hc
      simp [Handler.pending, hstopping, hup] at hc
  have hside : (s.sessions.handlers c).controlSide = none := by
    by_contra hside
    have hheld := held_reached hr hup c hside
    simp [hfree'] at hheld
  have hquiet : e.shows = false → ∀ d, (s.sessions.handlers d).pending = false := by
    intro he d
    rcases eq_or_ne d c with rfl | hd
    · by_contra hp
      have hp' := h.pending he (Bool.eq_true_of_not_eq_false hp)
      simp [hpending d] at hp'
    · rw [← h.effect.other hd]
      exact hpending d
  rw [h.monitor] at hcalm
  cases h.shown with
  | same quiet transport vpn =>
    rw [transport]
    exact hs hup hfree' (hquiet quiet) hcalm
  | accepted transport vpn =>
    cases h with
    | publishAccepted pc => simp [pc, Handler.controlSide] at hside
  | attached transport vpn =>
    cases h with
    | notAttached pc refused => exact hs hup hfree' (hquiet rfl) hcalm
    | attachRelay pc taken =>
      obtain ⟨-, hheld, -, -⟩ := Registry.attachRelay_eq_some taken
      exact absurd hfree' hheld
  | reported pc transport => simp [pc, Handler.controlSide] at hside
  | controlLost transport vpn => exact transport
  | dataLost transport vpn =>
    cases h with
    | publishDataLoss pc =>
      rcases hends c (by rw [pc]; rfl) with hheld | hstop
      · exact absurd hfree' hheld
      · simp [hup] at hstop

theorem MappingMark.transport_of_shown {current : Snapshot} (h : mark.shown current = true) :
    current.transport = mark.transport := by
  simp only [MappingMark.shown, decide_eq_true_eq] at h
  exact h.1

theorem Monitor.resume_calm {resume : Resume} (h : (Monitor.resume resume).calm = true) :
    resume = .wait false := by
  cases resume with
  | wait unavailable =>
    cases unavailable
    · rfl
    · cases h
  | restore => cases h

theorem unavailable_of_calm {unavailable : Bool}
    (h : (afterHasReverse unavailable present).calm = true) : unavailable = false := by
  unfold afterHasReverse at h
  split at h
  · cases h
  · split at h
    · cases h
    next hu => exact Bool.eq_false_of_not_eq_true hu
  · cases h

theorem CalmShown.monitor (h : MonitorStep s e t) (hpaired : s.monitor.paired) (hs : CalmShown s) :
    CalmShown t := by
  intro hup hfree hpending hcalm
  rw [h.main.2] at hup hfree hpending
  have hshown := hs hup hfree hpending
  cases h with
  | tick pc | hasReverse pc present =>
    rw [pc] at hshown
    exact hshown hcalm
  | cancel | addReverse => cases hcalm
  | judge pc =>
    rw [pc] at hshown
    simp only [State.withMonitor_monitor] at hcalm
    split at hcalm
    · cases hcalm
    · exact hshown (by simp [Monitor.calm, unavailable_of_calm hcalm])
  | mark pc =>
    simp [afterMark, hup, hfree, Monitor.calm] at hcalm
  | @compare mark resume pc =>
    rw [pc] at hpaired
    simp only [State.withMonitor_monitor, afterCompare] at hcalm
    split at hcalm
    next hsame =>
      have hmark := hpaired (Monitor.resume_calm hcalm)
      rw [State.withMonitor_snapshot, MappingMark.transport_of_shown hsame, hmark]
      rfl
    · cases hcalm
  | @publish mark vpn resume pc =>
    rw [pc] at hpaired
    have hmark := hpaired (Monitor.resume_calm hcalm)
    rw [hmark]
    rfl
  | restored pc =>
    simp only [State.withMonitor_monitor, afterRestore] at hcalm
    repeat' split at hcalm
    all_goals cases hcalm

theorem CallsInOrder.monitor_off (h : CallsInOrder s)
    (place : s.main.phase = .preparing ∨ s.main.phase = .added) (hend : s.main.ending = false) :
    s.monitor = .off := by
  obtain ⟨d, -, hl⟩ := h
  cases hl with
  | fresh idle | cleared idle => exact idle.off
  | refused idle ending => simp [hend] at ending
  | added _ attended _ =>
    rcases place with place | place
    · rw [place] at attended
      exact attended.elim
    · rw [place] at attended
      exact attended.2
  | removed removed => simp [removed] at place

def StartsReady (s : State) : Prop :=
  s.main = .startingMonitor → s.snapshot.transport = .portReady

theorem DeviceStep.serving {e : DeviceEvent} (h : DeviceStep c s e t) (hu : Unserved s) :
    s.main.starting = false := by
  by_contra hstart
  obtain ⟨hempty, hclosed⟩ := hu (Bool.eq_true_of_not_eq_false hstart)
  cases h with
  | accept pc listening => simp [hclosed] at listening
  | _ pc => simp [hempty] at pc

theorem MainStep.startsReady {e : MainEvent} (h : MainStep s e t) : StartsReady t := by
  intro ht
  cases h with
  | publishRunning pc => rfl
  | ensurePaths pc ok | chmod pc ok | recoverProxy pc _ ok | closeProxy pc _ ok
  | removeMapping pc _ ok => cases ok <;> cases ht
  | lstat pc ok =>
    cases ok
    · cases ht
    · simp only [State.withMain_main, if_true] at ht
      cases hc : s.files.control <;> rw [hc] at ht <;> cases ht
  | probe pc result possible => cases result <;> cases ht
  | serveError pc | proxyDone pc _ =>
    simp only [State.withMain_main, unlessStopping] at ht
    split at ht <;> cases ht
  | checkProxy pc | checkFailure pc =>
    simp only [State.withMain_main] at ht
    split at ht <;> cases ht
  | _ => cases ht

theorem CalmShown.main {e : MainEvent} (h : MainStep s e t) (hc : CallsInOrder s)
    (hstart : StartsReady s) (hs : CalmShown s) : CalmShown t := by
  intro hup hfree hpending hcalm
  cases h with
  | readState pc =>
    have hoff := hc.monitor_off (.inl (by rw [pc]; rfl)) (by rw [pc]; rfl)
    simp [hoff, Monitor.calm] at hcalm
  | publishRunning pc => rfl
  | startMonitor pc => exact hstart pc
  | takeSessions pc => cases hup
  | publishStopping pc =>
    have hsame : (publishStopping s.snapshot).transport = s.snapshot.transport := by
      unfold publishStopping
      split <;> rfl
    exact hsame.trans (hs hup hfree hpending hcalm)
  | _ => exact hs hup hfree hpending hcalm

/-- What the guarded steps keep about the transport that is shown without a session. -/
structure MonitorShown (s : State) : Prop where
  starts : StartsReady s
  ends : EndsInSession s.sessions
  calm : CalmShown s

theorem monitorShown_step {l : Label} (hr : Reached s) (h : Step s l t) (hok : Whole s l)
    (hs : MonitorShown s) : MonitorShown t := by
  cases h with
  | device _ h =>
    refine ⟨fun ht => ?_, hs.ends.device hr h hok, hs.calm.device hr h hs.ends⟩
    have hserving := h.serving (unserved_reached hr)
    rw [h.main] at ht
    simp [ht, Main.starting] at hserving
  | monitor _ h =>
    refine ⟨fun ht => ?_, h.main.2 ▸ hs.ends, hs.calm.monitor h (monitor_paired_reached hr)⟩
    rw [h.main.1] at ht
    have hoff := (Reached.callsInOrder hr).monitor_off (.inr (by rw [ht]; rfl)) (by rw [ht]; rfl)
    exact absurd hoff h.active.1
  | request _ h =>
    refine ⟨fun ht => ?_, h.main.2 ▸ hs.ends, ?_⟩
    · rw [h.shown.1]
      exact hs.starts (h.main.1 ▸ ht)
    · unfold CalmShown
      rw [h.main.2, h.monitor, h.shown.1]
      exact hs.calm
  | main h =>
    refine ⟨h.startsReady, ?_, hs.calm.main h (Reached.callsInOrder hr) hs.starts⟩
    intro c hc
    obtain ⟨hhandlers, hreg | hreg⟩ := h.sessions
    · rw [hreg]
      exact hs.ends c (hhandlers ▸ hc)
    · exact .inr (by rw [hreg]; rfl)
  | surroundings e => cases e <;> exact ⟨hs.starts, hs.ends, hs.calm⟩

theorem monitorShown_reached (h : Reachable (Guarded Step Whole) Initial s) :
    Reached s ∧ MonitorShown s := by
  refine h.guardedInvariant ?_ fun s l t hr => monitorShown_step hr
  rintro s ⟨pid, config, files, rfl⟩
  refine ⟨fun h => ?_, fun c hc => ?_, fun _ _ _ hcalm => ?_⟩
  · cases h
  · cases hc
  · cases hcalm

def Monitor.Marks (mark : MappingMark) (resume : Resume) (m : Monitor) : Prop :=
  m = .marking mark resume ∨ m = .comparing mark resume ∨ ∃ vpn, m = .publishing mark vpn resume

/-- A mark that is made without a session ends with its transport being shown. -/
theorem MonitorStep.marks {resume : Resume} (h : MonitorStep s e t)
    (hs : s.monitor.Marks mark resume) (hup : s.sessions.registry.stopping = false)
    (hfree : s.sessions.registry.controlConnection = none) :
    (∀ ok, e ≠ .addReverse ok) ∧ (t.monitor.Marks mark resume ∨
      (t.monitor = Monitor.resume resume ∧ t.snapshot.transport = mark.transport)) := by
  rcases hs with hs | hs | ⟨vpn, hs⟩
  · cases h with
    | mark pc =>
      obtain ⟨rfl, rfl⟩ := Monitor.marking.inj (hs.symm.trans pc)
      refine ⟨by simp, .inl (.inr (.inl ?_))⟩
      simp [afterMark, hup, hfree]
    | _ pc => simp [hs] at pc
  · cases h with
    | compare pc =>
      obtain ⟨rfl, rfl⟩ := Monitor.comparing.inj (hs.symm.trans pc)
      refine ⟨by simp, ?_⟩
      simp only [State.withMonitor_monitor, State.withMonitor_snapshot, afterCompare]
      split
      next hsame => exact .inr ⟨rfl, MappingMark.transport_of_shown hsame⟩
      · exact .inl (.inr (.inr ⟨_, rfl⟩))
    | _ pc => simp [hs] at pc
  · cases h with
    | publish pc =>
      obtain ⟨rfl, rfl, rfl⟩ := Monitor.publishing.inj (hs.symm.trans pc)
      exact ⟨by simp, .inr ⟨rfl, rfl⟩⟩
    | _ pc => simp [hs] at pc

/-- The tick found the mapping present or restored it. -/
def Found (present : Option Bool) (es : List MonitorEvent) : Prop :=
  present = some true ∨ .addReverse true ∈ es

instance (present : Option Bool) (es : List MonitorEvent) : Decidable (Found present es) :=
  inferInstanceAs (Decidable (_ ∨ _))

/-- Where the monitor can stand in a tick that no session disturbs, after the result `present` of
`HasReverse` and the events `es`. -/
inductive Course (present : Option Bool) (es : List MonitorEvent) (transport : TransportStatus) :
    Monitor → Prop
  | checked {unavailable : Bool} (unrestored : .addReverse true ∉ es)
      (calm : unavailable = false → transport = .portReady) :
      Course present es transport (.checked unavailable present)
  | missing {m : Monitor} {resume : Resume} (missing : ¬ Found present es)
      (next : resume = .wait true ∨ present = some false ∧ resume = .restore)
      (place : m.Marks markMappingUnavailable resume) : Course present es transport m
  | restoring (missing : ¬ Found present es) (absent : present = some false)
      (shown : transport = .deviceOffline) : Course present es transport .restoring
  | restored {ok : Bool} (outcome : Found present es ↔ ok = true)
      (shown : transport = .deviceOffline) : Course present es transport (.restored ok)
  | found {m : Monitor} (found : Found present es)
      (place : m.Marks markMappingAvailable (.wait false)) : Course present es transport m
  | ended {unavailable : Bool}
      (shown : transport = if Found present es then .portReady else .deviceOffline) :
      Course present es transport (.waiting unavailable)
  | returned : Course present es transport .returned

theorem found_snoc {es : List MonitorEvent} (he : e ≠ .addReverse true) :
    Found present (es ++ [e]) ↔ Found present es := by
  simp [Found, he.symm]

theorem Course.next {s t : State} {e : MonitorEvent} {present : Option Bool}
    {es : List MonitorEvent} (h : MonitorStep s e t) (htick : e ≠ .tick)
    (hup : s.sessions.registry.stopping = false)
    (hfree : s.sessions.registry.controlConnection = none)
    (hs : Course present es s.snapshot.transport s.monitor) :
    Course present (es ++ [e]) t.snapshot.transport t.monitor := by
  generalize hm : s.monitor = m at hs
  cases hs with
  | @checked unavailable unrestored calm =>
    cases h with
    | judge pc =>
      obtain ⟨rfl, rfl⟩ := Monitor.checked.inj (hm.symm.trans pc)
      have hfound : Found present (es ++ [.judge]) ↔ present = some true := by
        simp [Found, unrestored]
      simp only [State.withMonitor_monitor, State.withMonitor_snapshot]
      split
      · exact .returned
      · unfold afterHasReverse
        split
        · exact .missing (by simp [hfound]) (.inl rfl) (.inl rfl)
        · split
          · exact .found (hfound.mpr rfl) (.inl rfl)
          next hu => exact .ended (by simp [hfound, calm (Bool.eq_false_of_not_eq_true hu)])
        · exact .missing (by simp [hfound]) (.inr ⟨rfl, rfl⟩) (.inl rfl)
    | _ pc => simp [hm] at pc
  | @missing _ resume missing next place =>
    obtain ⟨he, hplace⟩ := h.marks (hm ▸ place) hup hfree
    rw [← found_snoc (he true)] at missing
    rcases hplace with hplace | ⟨hplace, hshown⟩
    · exact .missing missing next hplace
    · rw [hplace, hshown]
      rcases next with rfl | ⟨habsent, rfl⟩
      · exact .ended (by simp [missing, markMappingUnavailable])
      · exact .restoring missing habsent rfl
  | restoring missing absent shown =>
    cases h with
    | addReverse pc ok =>
      refine .restored ?_ shown
      cases ok <;> simp [Found, absent] at missing ⊢
      exact missing
    | _ pc => simp [hm] at pc
  | @restored ok outcome shown =>
    cases h with
    | restored pc =>
      obtain rfl := Monitor.restored.inj (hm.symm.trans pc)
      have hfound : Found present (es ++ [.judge]) ↔ ok = true := by
        rw [found_snoc (by simp), outcome]
      simp only [State.withMonitor_monitor, State.withMonitor_snapshot]
      split
      · exact .returned
      · unfold afterRestore
        split
        next hok => exact .found (hfound.mpr hok) (.inl rfl)
        next hok => exact .ended (by simp [hfound, hok, shown])
    | _ pc => simp [hm] at pc
  | found found place =>
    obtain ⟨he, hplace⟩ := h.marks (hm ▸ place) hup hfree
    rw [← found_snoc (he true)] at found
    rcases hplace with hplace | ⟨hplace, hshown⟩
    · exact .found found hplace
    · rw [hplace, hshown]
      exact .ended (by simp [found, markMappingAvailable])
  | ended shown =>
    cases h with
    | tick pc => exact absurd rfl htick
    | cancel pc done => exact .returned
    | _ pc => simp [hm] at pc
  | returned => exact absurd hm h.active.2

theorem Course.run {s t : State} {present : Option Bool} {es es' : List MonitorEvent}
    (h : Run (Guarded Step Whole) s (es'.map Label.monitor) t) (htick : .tick ∉ es')
    (hup : s.sessions.registry.stopping = false)
    (hfree : s.sessions.registry.controlConnection = none)
    (hs : Course present es s.snapshot.transport s.monitor) :
    Course present (es ++ es') t.snapshot.transport t.monitor := by
  induction es' generalizing s es with
  | nil =>
    cases h
    simpa using hs
  | cons e es' ih =>
    cases h with
    | cons hstep hrest =>
      cases hstep.1 with
      | monitor _ h =>
        obtain ⟨hne, htick'⟩ := List.ne_and_not_mem_of_not_mem_cons htick
        have hnext := hs.next h hne.symm hup hfree
        rw [← h.main.2] at hup hfree
        simpa using ih hrest htick' hup hfree hnext

def Monitor.remaining : Monitor → ℕ
  | checked .. => 10
  | marking _ .restore => 9
  | comparing _ .restore => 8
  | publishing _ _ .restore => 7
  | restoring => 6
  | restored _ => 5
  | marking _ (.wait _) => 4
  | comparing _ (.wait _) => 3
  | publishing _ _ (.wait _) => 2
  | _ => 0

def Monitor.Closer (m m' : Monitor) : Prop :=
  (0 < m'.remaining ∧ m'.remaining < m.remaining) ∨ ∃ unavailable, m' = .waiting unavailable

/-- A tick goes on to its end, with any outcome of `AddReverse`. -/
theorem MonitorStep.progress (hstops : monitorStops s = false) (hrest : 0 < s.monitor.remaining)
    (ok : Bool) : ∃ e t, MonitorStep s e t ∧ e ≠ .tick ∧
      (∀ ok', e = .addReverse ok' → ok' = ok) ∧ monitorStops t = false ∧
      s.monitor.Closer t.monitor := by
  cases hm : s.monitor with
  | off | returned | waiting | checking => simp [hm, Monitor.remaining] at hrest
  | checked unavailable present =>
    refine ⟨_, _, .judge hm, by simp, by simp, hstops, ?_⟩
    simp only [State.withMonitor_monitor, hstops]
    match present, unavailable with
    | none, _ | some true, true | some false, _ =>
      exact .inl (by simp [afterHasReverse, Monitor.remaining])
    | some true, false => exact .inr ⟨false, rfl⟩
  | marking mark resume =>
    refine ⟨_, _, .mark hm, by simp, by simp, hstops, ?_⟩
    simp only [State.withMonitor_monitor, afterMark]
    split
    · cases resume
      · exact .inr ⟨_, rfl⟩
      · exact .inl (by simp [Monitor.resume, Monitor.remaining])
    · cases resume <;> exact .inl (by simp [Monitor.remaining])
  | comparing mark resume =>
    refine ⟨_, _, .compare hm, by simp, by simp, hstops, ?_⟩
    simp only [State.withMonitor_monitor, afterCompare]
    split
    · cases resume
      · exact .inr ⟨_, rfl⟩
      · exact .inl (by simp [Monitor.resume, Monitor.remaining])
    · cases resume <;> exact .inl (by simp [Monitor.remaining])
  | publishing mark vpn resume =>
    refine ⟨_, _, .publish hm, by simp, by simp, hstops, ?_⟩
    cases resume
    · exact .inr ⟨_, rfl⟩
    · exact .inl (by simp [Monitor.resume, Monitor.remaining])
  | restoring =>
    exact ⟨_, _, .addReverse hm ok, by simp, by simp, hstops, .inl (by simp [Monitor.remaining])⟩
  | restored ok' =>
    refine ⟨_, _, .restored hm, by simp, by simp, hstops, ?_⟩
    simp only [State.withMonitor_monitor, hstops]
    cases ok'
    · exact .inr ⟨_, rfl⟩
    · exact .inl (by simp [afterRestore, Monitor.remaining])

theorem whole_monitor (he : e ≠ .tick) : Whole s (.monitor e) :=
  fun _ _ => ⟨by simpa using he, by simp⟩

theorem tick_completes (hstops : monitorStops s = false) (halive : s.main ≠ .exited)
    (hrest : 0 < s.monitor.remaining) (ok : Bool) :
    ∃ (es : List MonitorEvent) (t : State) (unavailable : Bool), .tick ∉ es ∧
      (∀ ok', .addReverse ok' ∈ es → ok' = ok) ∧
      Run (Guarded Step Whole) s (es.map Label.monitor) t ∧ t.monitor = .waiting unavailable := by
  induction hn : s.monitor.remaining using Nat.strong_induction_on generalizing s with
  | _ n ih =>
    obtain ⟨e, t, hstep, htick, hok, hstops', hcloser⟩ := MonitorStep.progress hstops hrest ok
    have halive' : t.main ≠ .exited := hstep.main.1 ▸ halive
    have hfirst : Guarded Step Whole s (.monitor e) t := ⟨.monitor halive hstep, whole_monitor htick⟩
    rcases hcloser with ⟨hleft, hless⟩ | ⟨unavailable, hdone⟩
    · obtain ⟨es, u, unavailable, htick', hok', hrun, hdone⟩ :=
        ih _ (hn ▸ hless) hstops' halive' hleft rfl
      refine ⟨e :: es, u, unavailable, by simp [htick.symm, htick'], ?_, .cons hfirst hrun, hdone⟩
      intro ok' hmem
      rcases List.mem_cons.mp hmem with heq | hmem
      · exact hok ok' heq.symm
      · exact hok' ok' hmem
    · exact ⟨[e], t, unavailable, by simpa using htick.symm, by simpa [eq_comm] using hok,
        .single hfirst, hdone⟩

/-- At a tick without a session no goroutine has yet to publish. -/
theorem nothing_pending (hr : Reached s) (hok : Whole s (.monitor .tick))
    (hup : s.sessions.registry.stopping = false)
    (hfree : s.sessions.registry.controlConnection = none) (c : Conn) :
    (s.sessions.handlers c).pending = false := by
  by_contra hp
  have hending : (s.sessions.handlers c).ending = false := by
    by_contra he
    exact (hok c (Bool.eq_true_of_not_eq_false he)).1 rfl
  have hside := Handler.controlSide_of_pending (Bool.eq_true_of_not_eq_false hp) hending
  have hheld := held_reached hr hup c hside
  simp [hfree] at hheld

/-- Sessions and ticks in any order, the end of each session executed as a whole: after a tick that
finds no session PORT_READY is shown if it found the mapping or restored it, and DEVICE_OFFLINE
otherwise. The tick comes to its end whatever `HasReverse` and `AddReverse` return, unless the
context has been cancelled. -/
theorem transport_follows_tick {s : State} (h : Reachable (Guarded Step Whole) Initial s)
    (up : s.sessions.registry.stopping = false)
    (free : s.sessions.registry.controlConnection = none) (present : Option Bool) :
    (∀ (es : List MonitorEvent) t unavailable, .tick ∉ es →
      Run (Guarded Step Whole) s ((.tick :: .hasReverse present :: es).map Label.monitor) t →
      t.monitor = .waiting unavailable →
      t.snapshot.transport =
        if present = some true ∨ .addReverse true ∈ es then .portReady else .deviceOffline) ∧
    ∀ t ok, Guarded Step Whole s (.monitor .tick) t → monitorStops s = false →
      ∃ (es : List MonitorEvent) (u : State) (unavailable : Bool), .tick ∉ es ∧
        (∀ ok', .addReverse ok' ∈ es → ok' = ok) ∧
        Run (Guarded Step Whole) s ((.tick :: .hasReverse present :: es).map Label.monitor) u ∧
        u.monitor = .waiting unavailable := by
  obtain ⟨hreached, hshown⟩ := monitorShown_reached h
  constructor
  · intro es t unavailable htick hrun hdone
    cases hrun with
    | cons hfirst hrun =>
    cases hrun with
    | cons hsecond hrun =>
    cases hfirst.1 with
    | monitor alive hfirst' =>
    cases hfirst' with
    | @tick u pc =>
    cases hsecond.1 with
    | monitor alive hsecond' =>
    cases hsecond' with
    | hasReverse pc' present =>
    obtain rfl := Monitor.checking.inj pc'
    have hpending := nothing_pending hreached hfirst.2 up free
    have hcalm : u = false → s.snapshot.transport = .portReady := by
      rintro rfl
      exact hshown.calm up free hpending (by rw [pc]; rfl)
    have hcourse : Course present [] s.snapshot.transport (.checked u present) :=
      .checked List.not_mem_nil hcalm
    have hend := Course.run hrun htick up free hcourse
    rw [hdone] at hend
    cases hend with
    | missing _ _ place | found _ place => obtain hm | hm | ⟨vpn, hm⟩ := place <;> cases hm
    | ended shown => exact shown
  · rintro t ok ⟨hstep, hok⟩ hstops
    cases hstep with
    | monitor alive hstep =>
    cases hstep with
    | @tick u pc =>
    have hsecond : MonitorStep (s.withMonitor (.checking u)) (.hasReverse present) _ :=
      .hasReverse rfl present
    obtain ⟨es, t, unavailable, htick, houtcome, hrun, hdone⟩ :=
      tick_completes (s := ((s.withMonitor (.checking u)).call
        (.hasReverse s.config.deviceID s.mapping present)).withMonitor (.checked u present))
        hstops alive (by simp [Monitor.remaining]) ok
    refine ⟨es, t, unavailable, htick, houtcome, ?_, hdone⟩
    exact .cons ⟨.monitor alive (.tick pc), hok⟩
      (.cons ⟨.monitor alive hsecond, whole_monitor (by simp)⟩ hrun)

/-- Without a session the first tick fails to reach the device. -/
theorem transport_follows_tick_offline :
    ∃ t, Run (Guarded Step Whole) servingState (([.tick, .hasReverse none, .judge, .mark, .compare,
        .publish] : List MonitorEvent).map Label.monitor) t ∧
      t.snapshot.transport = .deviceOffline := by
  have hmain : ∀ l ∈ startup, ∃ e, l = Label.main e := by simp [startup]
  have hreached : Reachable (Guarded Step Whole) Initial servingState := by
    refine ⟨_, _, ⟨1, plainConfig, emptyFiles, rfl⟩, servingState_run.guarded fun l hl s => ?_⟩
    obtain ⟨e, rfl⟩ := hmain l hl
    exact fun _ _ => ⟨by simp, by simp⟩
  have hfirst : Guarded Step Whole servingState (.monitor .tick) _ :=
    ⟨.monitor Main.noConfusion (.tick rfl), fun c hc => by cases hc⟩
  obtain ⟨t, hrun, hdone⟩ : ∃ t, Run (Guarded Step Whole) servingState
      (([.tick, .hasReverse none, .judge, .mark, .compare, .publish] : List MonitorEvent).map
        Label.monitor) t ∧ t.monitor = .waiting true := by
    refine ⟨_, .cons hfirst <|
      .cons ⟨.monitor Main.noConfusion (.hasReverse rfl none), whole_monitor (by simp)⟩ <|
      .cons ⟨.monitor Main.noConfusion (.judge rfl), whole_monitor (by simp)⟩ <|
      .cons ⟨.monitor Main.noConfusion (.mark rfl), whole_monitor (by simp)⟩ <|
      .cons ⟨.monitor Main.noConfusion (.compare rfl), whole_monitor (by simp)⟩ <|
      .cons ⟨.monitor Main.noConfusion (.publish rfl), whole_monitor (by simp)⟩ <| .nil _, rfl⟩
  exact ⟨t, hrun, (transport_follows_tick hreached rfl rfl none).1
    [.judge, .mark, .compare, .publish] t true (by decide) hrun hdone⟩

end HarmonyNetBridge.Daemon
