import HarmonyNetBridge.Daemon.MappingRecord
import HarmonyNetBridge.Daemon.Successor

/-! The order of the forwarder calls of one run: the recorded mapping is removed first, the own
mapping is added, checked and added again by the monitor, and removed once at the end. -/
namespace HarmonyNetBridge.Daemon
open Transition

/-- How far the forwarder calls of a run have got. `added true` follows a `HasReverse` that did not
find the own mapping. -/
inductive Ledger where
  | fresh | cleared | refused
  | added (missing : Bool)
  | removed
  deriving DecidableEq, Repr

/-- The calls a run may make next: `recorded` is the mapping of an earlier run, `own` its own. -/
def Ledger.next (target : String) (recorded : Option Mapping) (own : Mapping) :
    Ledger → ForwarderCall → Option Ledger
  | .fresh, .remove t m _ => if t = target ∧ recorded = some m then some .cleared else none
  | .fresh, .addReverse t m ok | .cleared, .addReverse t m ok =>
    if t = target ∧ m = own then some (if ok then .added false else .refused) else none
  | .added _, .hasReverse t m present =>
    if t = target ∧ m = own then some (.added (present == some false)) else none
  | .added true, .addReverse t m _ =>
    if t = target ∧ m = own then some (.added false) else none
  | .added _, .remove t m _ => if t = target ∧ m = own then some .removed else none
  | _, _ => none

/-- The ledger of the calls made so far, if they were all made in order. -/
def State.ledger (s : State) : Option Ledger :=
  s.calls.foldlM (Ledger.next s.config.deviceID (staleMapping s.config s.previous) s.mapping) .fresh

/-- The parts of `Run` that matter for the mapping. -/
inductive Phase where
  | preparing | adding | added | watching | failing
  | stopping (monitor : Bool)
  | stopped | removed
  deriving DecidableEq, Repr

def Main.phase : Main → Phase
  | addingReverse => .adding
  | publishingRunning | startingMonitor => .added
  | startingServers | serving | publishingProxyExit => .watching
  | failing .. | takingSessions => .failing
  | cancellingMonitor taken | awaitingMonitor taken => .stopping taken.monitor
  | publishingStopping _ | sendingStop _ | closingData _ | closingRelay _ | closingControl _
  | closingDeviceListener _ | closingControlListener _ | closingProxy _ | publishingProxyFailure
  | failingProxy | checkingProxy | publishingProxyOff | removingMapping => .stopped
  | failingMapping | removingSocket | checkingFailure | removingState | finished | exited => .removed
  | _ => .preparing

/-- The monitor has seen that the mapping is missing and has yet to add it again. -/
def Monitor.restores : Monitor → Bool
  | checked _ present => present == some false
  | marking _ resume | comparing _ resume | publishing _ _ resume => resume == .restore
  | restoring => true
  | _ => false

/-- No mapping of this run exists and no monitor was started. -/
structure Unattended (s : State) : Prop where
  added : s.mappingAdded = false
  monitoring : s.monitoring = false
  off : s.monitor = .off

/-- Where the monitor of an added mapping stands while `Run` is in each phase. -/
def Attended (monitoring : Bool) (monitor : Monitor) : Phase → Prop
  | .added => monitoring = false ∧ monitor = .off
  | .watching | .failing => monitoring = true
  | .stopping awaited => awaited = true
  | .stopped => monitor = .returned
  | _ => False

inductive Ledgered (s : State) : Ledger → Prop
  | fresh (idle : Unattended s) (calls : s.calls = [])
      (place : s.main.phase ≠ .added ∧ s.main.phase ≠ .watching) : Ledgered s .fresh
  | cleared (idle : Unattended s) (place : s.main = .addingReverse) : Ledgered s .cleared
  | refused (idle : Unattended s) (place : s.main.ending = true) : Ledgered s .refused
  | added {missing : Bool} (added : s.mappingAdded = true)
      (place : Attended s.monitoring s.monitor s.main.phase)
      (restores : s.monitor.restores = true → missing = true) : Ledgered s (.added missing)
  | removed (place : s.main.phase = .removed) (returned : s.monitor = .returned) :
      Ledgered s .removed

/-- The calls so far are in order and fit the state. -/
def CallsInOrder (s : State) : Prop := ∃ d, s.ledger = some d ∧ Ledgered s d

variable {s t : State} {e : MonitorEvent}

theorem ledger_nil (h : s.calls = []) : s.ledger = some .fresh := by
  simp [State.ledger, h]

theorem ledger_call {d d' : Ledger} {c : ForwarderCall} (h : s.ledger = some d)
    (hnext : d.next s.config.deviceID (staleMapping s.config s.previous) s.mapping c = some d')
    (hconfig : t.config = s.config) (hprev : t.previous = s.previous)
    (hmapping : t.mapping = s.mapping) (hcalls : t.calls = s.calls ++ [c]) :
    t.ledger = some d' := by
  have h' : s.calls.foldlM
      (Ledger.next s.config.deviceID (staleMapping s.config s.previous) s.mapping) .fresh =
        some d := h
  rw [State.ledger, hconfig, hprev, hmapping, hcalls, List.foldlM_append, h']
  simpa using hnext

/-- The part of the state that the mapping calls depend on. -/
structure SameMapping (s t : State) : Prop where
  config : t.config = s.config
  previous : t.previous = s.previous
  mapping : t.mapping = s.mapping
  added : t.mappingAdded = s.mappingAdded
  monitoring : t.monitoring = s.monitoring
  calls : t.calls = s.calls
  monitor : t.monitor = s.monitor
  main : t.main = s.main

theorem DeviceStep.sameMapping {c : Conn} {e : DeviceEvent} (h : DeviceStep c s e t) :
    SameMapping s t := by
  cases h with
  | publishRelayStats pc stats =>
    simp only [publishFinalStats]
    split <;> exact ⟨rfl, rfl, rfl, rfl, rfl, rfl, rfl, rfl⟩
  | _ => exact ⟨rfl, rfl, rfl, rfl, rfl, rfl, rfl, rfl⟩

theorem RequestStep.sameMapping {i : ℕ} {e : RequestEvent} (h : RequestStep i s e t) :
    SameMapping s t := by
  cases h <;> exact ⟨rfl, rfl, rfl, rfl, rfl, rfl, rfl, rfl⟩

theorem State.surrounded_sameMapping (s : State) (e : Surroundings) :
    SameMapping s (s.surrounded e) := by
  cases e <;> exact ⟨rfl, rfl, rfl, rfl, rfl, rfl, rfl, rfl⟩

theorem Unattended.frame (hs : Unattended s) (h : SameMapping s t) : Unattended t :=
  ⟨h.added.trans hs.added, h.monitoring.trans hs.monitoring, h.monitor.trans hs.off⟩

theorem CallsInOrder.frame (hs : CallsInOrder s) (h : SameMapping s t) : CallsInOrder t := by
  obtain ⟨d, hd, hl⟩ := hs
  refine ⟨d, ?_, ?_⟩
  · rw [← hd, State.ledger, State.ledger, h.config, h.previous, h.mapping, h.calls]
  · cases hl with
    | fresh idle calls place => exact .fresh (idle.frame h) (h.calls.trans calls) (by rwa [h.main])
    | cleared idle place => exact .cleared (idle.frame h) (h.main.trans place)
    | refused idle place => exact .refused (idle.frame h) (by rwa [h.main])
    | added added place restores =>
      refine .added (h.added.trans added) ?_ (by rwa [h.monitor])
      rwa [h.main, h.monitor, h.monitoring]
    | removed place returned => exact .removed (by rwa [h.main]) (h.monitor.trans returned)

theorem MonitorStep.active (h : MonitorStep s e t) : s.monitor ≠ .off ∧ s.monitor ≠ .returned := by
  cases h with
  | _ pc => rw [pc]; exact ⟨Monitor.noConfusion, Monitor.noConfusion⟩

theorem Monitor.restores_resume (resume : Resume) :
    (Monitor.resume resume).restores = (resume == .restore) := by
  cases resume <;> rfl

theorem afterHasReverse_restores {unavailable : Bool} {present : Option Bool}
    (h : (afterHasReverse unavailable present).restores = true) : present = some false := by
  rcases present with _ | _ | _
  · cases h
  · rfl
  · cases unavailable <;> cases h

theorem afterRestore_restores (ok : Bool) : (afterRestore ok).restores = false := by
  cases ok <;> rfl

theorem afterMark_restores (r : Registry) (mark : MappingMark) (resume : Resume) :
    (afterMark r mark resume).restores = (resume == .restore) := by
  unfold afterMark
  split
  · exact Monitor.restores_resume resume
  · rfl

theorem afterCompare_restores (current : Snapshot) (mark : MappingMark) (resume : Resume) :
    (afterCompare current mark resume).restores = (resume == .restore) := by
  unfold afterCompare
  split
  · exact Monitor.restores_resume resume
  · rfl

/-- The monitor calls `HasReverse` in one place and `AddReverse` in another, which it reaches only
when the mapping was found to be missing. -/
theorem MonitorStep.calls_cases (h : MonitorStep s e t) :
    (t.calls = s.calls ∧ (t.monitor.restores = true → s.monitor.restores = true)) ∨
    (∃ present, t.calls = s.calls ++ [.hasReverse s.config.deviceID s.mapping present] ∧
      (t.monitor.restores = true → present = some false)) ∨
    (s.monitor.restores = true ∧ t.monitor.restores = false ∧
      ∃ ok, t.calls = s.calls ++ [.addReverse s.config.deviceID s.mapping ok]) := by
  cases h with
  | tick pc | cancel pc _ => exact .inl ⟨rfl, by simp [Monitor.restores]⟩
  | hasReverse pc present =>
    exact .inr (.inl ⟨present, rfl, by simp [Monitor.restores]⟩)
  | addReverse pc ok => exact .inr (.inr ⟨by simp [pc, Monitor.restores], rfl, ok, rfl⟩)
  | judge pc =>
    refine .inl ⟨rfl, ?_⟩
    rw [pc, State.withMonitor_monitor]
    split
    · exact Bool.noConfusion
    · intro hr
      simp [Monitor.restores, afterHasReverse_restores hr]
  | restored pc =>
    refine .inl ⟨rfl, ?_⟩
    rw [State.withMonitor_monitor]
    split
    · exact Bool.noConfusion
    · simp [afterRestore_restores]
  | mark pc =>
    refine .inl ⟨rfl, ?_⟩
    rw [pc, State.withMonitor_monitor, afterMark_restores]
    exact id
  | compare pc =>
    refine .inl ⟨rfl, ?_⟩
    rw [pc, State.withMonitor_monitor, afterCompare_restores]
    exact id
  | publish pc =>
    refine .inl ⟨rfl, ?_⟩
    rw [pc, State.withMonitor_monitor, Monitor.restores_resume]
    exact id

theorem MonitorStep.fields (h : MonitorStep s e t) :
    t.config = s.config ∧ t.previous = s.previous ∧ t.mapping = s.mapping ∧
      t.mappingAdded = s.mappingAdded ∧ t.monitoring = s.monitoring := by
  cases h <;> exact ⟨rfl, rfl, rfl, rfl, rfl⟩

theorem MonitorStep.callsInOrder (h : MonitorStep s e t) (hs : CallsInOrder s) :
    CallsInOrder t := by
  obtain ⟨hon, hactive⟩ := h.active
  obtain ⟨hconfig, hprev, hmapping, hadded, hmonitoring⟩ := h.fields
  obtain ⟨d, hd, hl⟩ := hs
  cases hl with
  | fresh idle => exact absurd idle.off hon
  | cleared idle => exact absurd idle.off hon
  | refused idle => exact absurd idle.off hon
  | removed place returned => exact absurd returned hactive
  | @added missing added place restores =>
    have hplace : Attended t.monitoring t.monitor t.main.phase := by
      rw [h.main.1, hmonitoring]
      cases hphase : s.main.phase with
      | added => exact absurd (hphase ▸ place : Attended _ _ .added).2 hon
      | stopped => exact absurd (hphase ▸ place : Attended _ _ .stopped) hactive
      | _ =>
        rw [hphase] at place
        exact place
    have hadd := hadded.trans added
    rcases h.calls_cases with ⟨hcalls, hkeep⟩ | ⟨present, hcalls, hfound⟩ | ⟨hs, ht, ok, hcalls⟩
    · refine ⟨.added missing, ?_, .added hadd hplace fun hr => restores (hkeep hr)⟩
      rw [← hd, State.ledger, State.ledger, hconfig, hprev, hmapping, hcalls]
    · refine ⟨.added (present == some false),
        ledger_call hd ?_ hconfig hprev hmapping hcalls, .added hadd hplace ?_⟩
      · simp [Ledger.next]
      · intro hr
        simp [hfound hr]
    · obtain rfl := restores hs
      refine ⟨.added false, ledger_call hd ?_ hconfig hprev hmapping hcalls,
        .added hadd hplace (by simp [ht])⟩
      simp [Ledger.next]

/-- `Run` gets past `AddReverse` only when that succeeds. -/
theorem MainStep.phase_entered {e : MainEvent} (h : MainStep s e t)
    (hs : s.main.phase ≠ .added ∧ s.main.phase ≠ .watching) (he : e ≠ .addReverse true) :
    t.main.phase ≠ .added ∧ t.main.phase ≠ .watching := by
  cases h with
  | addReverse pc => exact absurd rfl he
  | ensurePaths pc ok | chmod pc ok | recoverProxy pc _ ok | closeProxy pc _ ok
  | removeMapping pc _ ok => cases ok <;> exact ⟨Phase.noConfusion, Phase.noConfusion⟩
  | lstat pc ok =>
    cases ok with
    | false => exact ⟨Phase.noConfusion, Phase.noConfusion⟩
    | true =>
      rw [State.withMain_main, if_pos rfl]
      cases s.files.control <;> exact ⟨Phase.noConfusion, Phase.noConfusion⟩
  | probe pc result _ => cases result <;> exact ⟨Phase.noConfusion, Phase.noConfusion⟩
  | checkProxy pc | checkFailure pc =>
    rw [State.withMain_main]
    split <;> exact ⟨Phase.noConfusion, Phase.noConfusion⟩
  | publishRunning pc | startMonitor pc =>
    rw [pc] at hs
    exact absurd rfl hs.1
  | startServers pc | ctxDone pc _ | stopRequested pc _ | serveError pc | proxyDone pc _
  | publishProxyExit pc =>
    rw [pc] at hs
    exact absurd rfl hs.2
  | _ => exact ⟨Phase.noConfusion, Phase.noConfusion⟩

theorem Unattended.restores (h : Unattended s) : s.monitor.restores ≠ true := by
  rw [h.off]
  exact Bool.noConfusion

theorem CallsInOrder.initialAdd {d : Ledger} {ok : Bool} (hd : s.ledger = some d)
    (hfirst : d = .fresh ∨ d = .cleared) (config : t.config = s.config)
    (previous : t.previous = s.previous) (mapping : t.mapping = s.mapping)
    (calls : t.calls = s.calls ++ [.addReverse s.config.deviceID s.mapping ok])
    (ht : Ledgered t (if ok then .added false else .refused)) : CallsInOrder t := by
  refine ⟨_, ledger_call hd ?_ config previous mapping calls, ht⟩
  rcases hfirst with rfl | rfl <;> simp [Ledger.next]

namespace MainStep
variable {s t : State} {e : MainEvent}

theorem fresh_calls (h : MainStep s e t) (hd : s.ledger = some .fresh) (idle : Unattended s)
    (calls : s.calls = []) (place : s.main.phase ≠ .added ∧ s.main.phase ≠ .watching) :
    CallsInOrder t := by
  have hplace := h.phase_entered place
  cases h with
  | removeStaleMapping pc recorded ok =>
    refine ⟨.cleared, ledger_call hd ?_ rfl rfl rfl rfl,
      .cleared ⟨idle.added, idle.monitoring, idle.off⟩ rfl⟩
    simp [Ledger.next, recorded]
  | notAdded pc =>
    exact .initialAdd hd (.inl rfl) rfl rfl rfl rfl
      (.refused ⟨idle.added, idle.monitoring, idle.off⟩ rfl)
  | addReverse pc =>
    exact .initialAdd hd (.inl rfl) rfl rfl rfl rfl
      (.added rfl ⟨idle.monitoring, idle.off⟩ (absurd · idle.restores))
  | removeMapping pc added ok => simp [idle.added] at added
  | startMonitor pc =>
    rw [pc] at place
    exact absurd rfl place.1
  | takeSessions pc =>
    exact ⟨.fresh, ledger_nil calls, .fresh ⟨idle.added, rfl, idle.off⟩ calls (hplace (by simp))⟩
  | _ =>
    exact ⟨.fresh, ledger_nil calls,
      .fresh ⟨idle.added, idle.monitoring, idle.off⟩ calls (hplace (by simp))⟩

theorem cleared_calls (h : MainStep s e t) (hd : s.ledger = some .cleared) (idle : Unattended s)
    (place : s.main = .addingReverse) : CallsInOrder t := by
  cases h with
  | notAdded pc =>
    exact .initialAdd hd (.inr rfl) rfl rfl rfl rfl
      (.refused ⟨idle.added, idle.monitoring, idle.off⟩ rfl)
  | addReverse pc =>
    exact .initialAdd hd (.inr rfl) rfl rfl rfl rfl
      (.added rfl ⟨idle.monitoring, idle.off⟩ (absurd · idle.restores))
  | _ pc =>
    rw [place] at pc
    exact Main.noConfusion pc

theorem refused_calls (h : MainStep s e t) (hd : s.ledger = some .refused) (idle : Unattended s)
    (place : s.main.ending = true) : CallsInOrder t := by
  have hplace := h.ending place
  cases h with
  | removeMapping pc added ok => simp [idle.added] at added
  | takeSessions pc => exact ⟨.refused, hd, .refused ⟨idle.added, rfl, idle.off⟩ hplace⟩
  | listenDevice pc _ | readState pc | removeStaleMapping pc _ _ | notAdded pc | addReverse pc
  | startMonitor pc =>
    rw [pc] at place
    exact absurd place Bool.false_ne_true
  | _ => exact ⟨.refused, hd, .refused ⟨idle.added, idle.monitoring, idle.off⟩ hplace⟩

theorem added_calls {missing : Bool} (h : MainStep s e t) (hd : s.ledger = some (.added missing))
    (added : s.mappingAdded = true) (place : Attended s.monitoring s.monitor s.main.phase)
    (restores : s.monitor.restores = true → missing = true) : CallsInOrder t := by
  cases h with
  | startMonitor pc => exact ⟨.added missing, hd, .added added rfl (by simp [Monitor.restores])⟩
  | removeMapping pc _ ok =>
    rw [pc] at place
    refine ⟨.removed, ledger_call hd ?_ rfl rfl rfl rfl, .removed ?_ place⟩
    · cases missing <;> simp [Ledger.next]
    · cases ok <;> rfl
  | noMapping pc none => simp [added] at none
  | awaitMonitor pc done =>
    rw [pc] at place
    exact ⟨.added missing, hd, .added added (done place) restores⟩
  | serveError pc | proxyDone pc _ =>
    rw [pc] at place
    refine ⟨.added missing, hd, .added added ?_ restores⟩
    rw [State.withMain_main, unlessStopping]
    split <;> exact place
  | closeProxy pc _ ok =>
    rw [pc] at place
    refine ⟨.added missing, hd, .added added ?_ restores⟩
    cases ok <;> exact place
  | checkProxy pc =>
    rw [pc] at place
    refine ⟨.added missing, hd, .added added ?_ restores⟩
    rw [State.withMain_main]
    split <;> exact place
  | _ pc =>
    rw [pc] at place
    first
      | exact place.elim
      | exact ⟨.added missing, hd, .added added place restores⟩

theorem removed_calls (h : MainStep s e t) (hd : s.ledger = some .removed)
    (place : s.main.phase = .removed) (returned : s.monitor = .returned) : CallsInOrder t := by
  cases h with
  | checkFailure pc =>
    refine ⟨.removed, hd, .removed ?_ returned⟩
    rw [State.withMain_main]
    split <;> rfl
  | failMapping pc | removeSocket pc | removeState pc | exit pc =>
    exact ⟨.removed, hd, .removed rfl returned⟩
  | _ pc =>
    rw [pc] at place
    exact Phase.noConfusion place

theorem callsInOrder (h : MainStep s e t) (hs : CallsInOrder s) : CallsInOrder t := by
  obtain ⟨d, hd, hl⟩ := hs
  cases hl with
  | fresh idle calls place => exact h.fresh_calls hd idle calls place
  | cleared idle place => exact h.cleared_calls hd idle place
  | refused idle place => exact h.refused_calls hd idle place
  | added added place restores => exact h.added_calls hd added place restores
  | removed place returned => exact h.removed_calls hd place returned

end MainStep

theorem Step.callsInOrder {s t : State} {l : Label} (h : Step s l t) (hs : CallsInOrder s) :
    CallsInOrder t := by
  cases h with
  | device _ h => exact hs.frame h.sameMapping
  | monitor _ h => exact h.callsInOrder hs
  | request _ h => exact hs.frame h.sameMapping
  | main h => exact h.callsInOrder hs
  | surroundings e => exact hs.frame (s.surrounded_sameMapping e)

theorem CallsInOrder.start (pid : ℕ) (config : Config) (files : Files) :
    CallsInOrder (State.start pid config files) :=
  ⟨.fresh, rfl, .fresh ⟨rfl, rfl, rfl⟩ rfl ⟨Phase.noConfusion, Phase.noConfusion⟩⟩

theorem CallsInOrder.run {pid : ℕ} {config : Config} {files : Files} {ls : List Label} {t : State}
    (h : Run Step (State.start pid config files) ls t) : CallsInOrder t :=
  h.invariant (fun _ _ _ hstep hs => hstep.callsInOrder hs) (.start pid config files)

theorem Reached.callsInOrder {s : State} (h : Reached s) : CallsInOrder s := by
  obtain ⟨_, ls, ⟨pid, config, files, rfl⟩, hrun⟩ := h
  exact .run hrun

/-- The calls of a mapping monitor: it checks the mapping, and adds it directly after a check that
did not find it. -/
def Watched (target : String) (own : Mapping) (watch : List ForwarderCall) : Prop :=
  ∀ before call after, watch = before ++ call :: after →
    (∃ present, call = .hasReverse target own present) ∨
    ∃ ok earlier, call = .addReverse target own ok ∧
      before = earlier ++ [.hasReverse target own (some false)]

/-- At most one call, the removal of the recorded mapping. -/
def Stale (target : String) (recorded : Option Mapping) (stale : List ForwarderCall) : Prop :=
  stale = [] ∨ ∃ m ok, recorded = some m ∧ stale = [.remove target m ok]

section Shape
variable {target : String} {recorded : Option Mapping} {own : Mapping}

variable {α : Type*} {c : ForwarderCall} {d : Ledger}

theorem split_append {xs ys before after : List α} {x : α} (h : xs ++ ys = before ++ x :: after) :
    (∃ rest, xs = before ++ x :: rest) ∨
      ∃ pre, before = xs ++ pre ∧ ys = pre ++ x :: after := by
  rcases List.append_eq_append_iff.mp h with hright | ⟨post, hleft, hrest⟩
  · exact .inr hright
  · cases post with
    | nil => exact .inr ⟨[], by simpa using hleft.symm, by simpa using hrest.symm⟩
    | cons y post =>
      obtain ⟨rfl, -⟩ := List.cons.inj hrest
      exact .inl ⟨post, hleft⟩

theorem split_snoc {xs before after : List α} {x y : α} (h : xs ++ [y] = before ++ x :: after) :
    (before = xs ∧ x = y) ∨ ∃ rest, xs = before ++ x :: rest := by
  rcases split_append h with hleft | ⟨pre, rfl, hlast⟩
  · exact .inr hleft
  · cases pre with
    | nil => exact .inl ⟨List.append_nil xs, (List.cons.inj hlast).1.symm⟩
    | cons z pre => simp at hlast

theorem Watched.nil : Watched target own [] := by
  intro before call after h
  simp at h

theorem Watched.snoc {watch : List ForwarderCall} (h : Watched target own watch)
    (hc : (∃ present, c = .hasReverse target own present) ∨ ∃ ok earlier,
      c = .addReverse target own ok ∧ watch = earlier ++ [.hasReverse target own (some false)]) :
    Watched target own (watch ++ [c]) := by
  intro before call after heq
  rcases split_snoc heq with ⟨rfl, rfl⟩ | ⟨rest, hwatch⟩
  · exact hc
  · exact h before call rest hwatch

inductive Shape (target : String) (recorded : Option Mapping) (own : Mapping) :
    Ledger → List ForwarderCall → Prop
  | fresh : Shape target recorded own .fresh []
  | cleared {m : Mapping} {ok : Bool} (known : recorded = some m) :
      Shape target recorded own .cleared [.remove target m ok]
  | refused {stale : List ForwarderCall} (first : Stale target recorded stale) :
      Shape target recorded own .refused (stale ++ [.addReverse target own false])
  | added {stale watch : List ForwarderCall} {missing : Bool} (first : Stale target recorded stale)
      (watched : Watched target own watch) (last : missing = true →
        ∃ earlier, watch = earlier ++ [.hasReverse target own (some false)]) :
      Shape target recorded own (.added missing)
        (stale ++ .addReverse target own true :: watch)
  | removed {stale watch : List ForwarderCall} {ok : Bool} (first : Stale target recorded stale)
      (watched : Watched target own watch) : Shape target recorded own .removed
        (stale ++ .addReverse target own true :: (watch ++ [.remove target own ok]))

theorem Shape.initial {stale : List ForwarderCall} {t : String} {m : Mapping} {ok : Bool}
    (first : Stale target recorded stale)
    (h : (if t = target ∧ m = own then some (if ok then Ledger.added false else .refused) else none) =
      some d) : Shape target recorded own d (stale ++ [.addReverse t m ok]) := by
  obtain ⟨⟨rfl, rfl⟩, hd⟩ := Option.ite_none_right_eq_some.mp h
  cases ok with
  | false =>
    cases hd
    exact .refused first
  | true =>
    cases hd
    exact .added first .nil (by simp)

theorem Shape.watch {stale watch : List ForwarderCall} {missing : Bool} {d : Ledger}
    {c : ForwarderCall} (first : Stale target recorded stale) (watched : Watched target own watch)
    (last : missing = true → ∃ earlier, watch = earlier ++ [.hasReverse target own (some false)])
    (hnext : (Ledger.added missing).next target recorded own c = some d) :
    Shape target recorded own d (stale ++ .addReverse target own true :: (watch ++ [c])) := by
  cases c with
  | addReverse t m ok =>
    cases missing with
    | false => cases hnext
    | true =>
      obtain ⟨⟨rfl, rfl⟩, hd⟩ := Option.ite_none_right_eq_some.mp hnext
      cases hd
      obtain ⟨earlier, hearlier⟩ := last rfl
      exact .added first (watched.snoc (.inr ⟨ok, earlier, rfl, hearlier⟩)) (by simp)
  | hasReverse t m present =>
    have hnext' : (if t = target ∧ m = own then some (Ledger.added (present == some false))
      else none) = some d := by cases missing <;> exact hnext
    obtain ⟨⟨rfl, rfl⟩, hd⟩ := Option.ite_none_right_eq_some.mp hnext'
    cases hd
    refine .added first (watched.snoc (.inl ⟨present, rfl⟩)) fun hmissing => ⟨watch, ?_⟩
    rw [beq_iff_eq.mp hmissing]
  | remove t m ok =>
    have hnext' : (if t = target ∧ m = own then some Ledger.removed else none) = some d := by
      cases missing <;> exact hnext
    obtain ⟨⟨rfl, rfl⟩, hd⟩ := Option.ite_none_right_eq_some.mp hnext'
    cases hd
    exact .removed first watched

theorem Shape.snoc {d' : Ledger} {calls : List ForwarderCall}
    (h : Shape target recorded own d calls) (hnext : d.next target recorded own c = some d') :
    Shape target recorded own d' (calls ++ [c]) := by
  cases h with
  | fresh =>
    cases c with
    | addReverse t m ok => exact .initial (.inl rfl) hnext
    | hasReverse t m present => cases hnext
    | remove t m ok =>
      obtain ⟨⟨rfl, known⟩, hd⟩ := Option.ite_none_right_eq_some.mp hnext
      cases hd
      exact .cleared known
  | @cleared m ok known =>
    cases c with
    | addReverse t m' ok' => exact .initial (.inr ⟨m, ok, known, rfl⟩) hnext
    | hasReverse t m' present => cases hnext
    | remove t m' ok' => cases hnext
  | refused first => cases hnext
  | added first watched last =>
    rw [List.append_assoc, List.cons_append]
    exact .watch first watched last hnext
  | removed first watched => cases hnext

theorem Shape.of_ledger {calls : List ForwarderCall}
    (h : calls.foldlM (Ledger.next target recorded own) .fresh = some d) :
    Shape target recorded own d calls := by
  induction calls using List.reverseRecOn generalizing d with
  | nil =>
    cases h
    exact .fresh
  | append_singleton calls c ih =>
    rw [List.foldlM_append] at h
    cases hcalls : calls.foldlM (Ledger.next target recorded own) .fresh with
    | none => simp [hcalls] at h
    | some e => exact (ih hcalls).snoc (by simpa [hcalls] using h)

end Shape

theorem Step.config {s t : State} {l : Label} (h : Step s l t) : t.config = s.config := by
  cases h with
  | device _ h => exact h.sameMapping.config
  | monitor _ h => exact h.fields.1
  | request _ h => exact h.sameMapping.config
  | main h => cases h <;> rfl
  | surroundings e => exact (s.surrounded_sameMapping e).config

theorem config_of_run {s t : State} {ls : List Label} (h : Run Step s ls t) : t.config = s.config :=
  h.invariant (I := fun u => u.config = s.config) (fun _ _ _ hstep hs => hstep.config.trans hs) rfl

/-- The forwarder calls of a run that has ended. Before the initial `AddReverse` there is at most
the removal of a recorded mapping. If it failed nothing follows; if it succeeded the calls of the
monitor follow and then one `Remove` of the own mapping. -/
theorem mapping_removed_last {pid : ℕ} {config : Config} {files : Files} {ls : List Label}
    {t : State} (hrun : Run Step (State.start pid config files) ls t)
    (hdone : t.main = .finished ∨ t.main = .exited) :
    ∃ stale, Stale config.deviceID (staleMapping config t.previous) stale ∧
      (t.calls = stale ∨ t.calls = stale ++ [.addReverse config.deviceID t.mapping false] ∨
        ∃ watch ok, Watched config.deviceID t.mapping watch ∧
          t.calls = stale ++ .addReverse config.deviceID t.mapping true ::
            (watch ++ [.remove config.deviceID t.mapping ok])) := by
  obtain ⟨d, hd, hl⟩ := CallsInOrder.run hrun
  have hshape := Shape.of_ledger hd
  have hconfig : t.config = config := config_of_run hrun
  rw [hconfig] at hshape
  generalize hcalls : t.calls = calls at hshape
  cases hl with
  | fresh =>
    cases hshape
    exact ⟨[], .inl rfl, .inl rfl⟩
  | cleared idle place => rcases hdone with hdone | hdone <;> simp [hdone] at place
  | refused =>
    cases hshape with
    | refused first => exact ⟨_, first, .inr (.inl rfl)⟩
  | added added place => rcases hdone with hdone | hdone <;> rw [hdone] at place <;> exact place.elim
  | removed =>
    cases hshape with
    | removed first watched => exact ⟨_, first, .inr (.inr ⟨_, _, watched, rfl⟩)⟩

theorem mapping_removed_last_stopped : ∃ t, Run Step (State.start 1 plainConfig emptyFiles)
      (startup ++ (closingDown ++ cleaningUp)) t ∧ t.main = .finished ∧
    ∃ stale, Stale "device" (staleMapping plainConfig t.previous) stale ∧
      (t.calls = stale ∨ t.calls = stale ++ [.addReverse "device" t.mapping false] ∨
        ∃ watch ok, Watched "device" t.mapping watch ∧
          t.calls = stale ++ .addReverse "device" t.mapping true ::
            (watch ++ [.remove "device" t.mapping ok])) := by
  obtain ⟨s, hs, hclosed, -⟩ := servingState_closingDown
  obtain ⟨t, ht, hdone, -⟩ := cleaningUp_run hclosed
  have hrun := servingState_run.append (hs.append ht)
  exact ⟨t, hrun, hdone, mapping_removed_last hrun (.inl hdone)⟩

end HarmonyNetBridge.Daemon
