import HarmonyNetBridge.Daemon.FailureKept

/-! The command `stop` beside the daemon it stops. The command takes a control socket that cannot be
reached for the end of the daemon, but `shutdown` closes that socket before it terminates the capture
proxy and removes the mapping. -/
namespace HarmonyNetBridge.Daemon
open Transition

/-- How `stopCommand` returns: `done` is no error, with the line it has printed. -/
inductive StopResult where
  | done (output : String)
  | failed (code : Code) (message : String)
  | callError
  deriving DecidableEq, Repr

/-- The process of `stopCommand`. Its request is handled by the goroutine `i` of the daemon. When it
has returned, `accepted` tells whether the daemon had accepted the request by then. -/
inductive StopCommand where
  | idle
  | calling
  | requesting (i : ℕ)
  | polling (i : ℕ)
  | inspecting (i : ℕ)
  | returned (result : StopResult) (accepted : Bool)

/-- The daemon and the command. `recent` tells whether the state file was written after
`stopRequestedAt`, `unclean` whether `Close` of the proxy or `Remove` of the mapping has failed. -/
structure StopWorld where
  daemon : State
  command : StopCommand := .idle
  recent : Bool := false
  unclean : Bool := false

/-- The next action of the command; `unavailable` is an error for which `IsUnavailable` holds. That
is any `net.OpError`, so that a call may also run into its deadline. -/
inductive StopEvent where
  | start
  | connect (i : ℕ)
  | unavailable
  | callError
  | response
  | poll (unavailable : Bool)
  | inspect
  | timeout
  deriving DecidableEq, Repr

inductive StopLabel where
  | daemon (l : Label)
  | command (e : StopEvent)

/-- The daemon has published STOPPING for this stop request. -/
def Request.stopAccepted : Request → Bool
  | answeringStop | requestingStop _ | returned (some _) => true
  | _ => false

def Request.answered : Request → Bool
  | requestingStop _ | returned (some _) => true
  | _ => false

/-- The places of `Run` at which the next action writes the snapshot. -/
def Main.updates : Main → Bool
  | persisting | publishingRecoveryFailure | publishingStartFailure | publishingProxy _
  | publishingRunning | publishingProxyExit | failing .. | publishingStopping _
  | publishingProxyFailure | failingProxy | publishingProxyOff | failingMapping => true
  | _ => false

def State.updates (s : State) : Label → Bool
  | .device c e => match e, s.sessions.handlers c with
    | .publishAccepted, _ | .publishHeartbeat, _ | .publishStatus, _ | .publishControlLoss, _
    | .publishDataLoss, _ => true
    | .attachRelay, .attaching _ relay => (s.sessions.registry.attachRelay c relay).isSome
    | .publishRelayStats _, .dataReporting _ release => release.relay.isSome
    | _, _ => false
  | .monitor e => e = .publish
  | .request _ e => match e with
    | .publishStats _ | .publishStop => true
    | _ => false
  | .main _ => s.main.updates
  | .surroundings _ => false

/-- Whether the step is a call of the cleanup that fails. -/
def State.cleanupFails (s : State) : Label → Bool
  | .main (.closeProxy ok) => !ok
  | .main (.remove ok) => match s.main with
    | .removingMapping => !ok
    | _ => false
  | _ => false

def daemonFailure (x : Snapshot) : Code × String :=
  let message := if x.lastError = "" then x.message else x.lastError
  (x.lastErrorCode.getD .daemonUnavailable,
    if message = "" then "the HarmonyNetBridge daemon stopped unexpectedly" else message)

namespace StopWorld

def recentDaemonFailure (w : StopWorld) : Option (Code × String) :=
  match w.daemon.files.stateFile with
  | none => none
  | some record =>
    if record.snapshot.daemon ≠ .failed ∨ w.recent = false then none
    else some (daemonFailure record.snapshot)

def accepted (w : StopWorld) (i : ℕ) : Bool := (w.daemon.requests i).stopAccepted

def withResult (w : StopWorld) (result : StopResult) (accepted : Bool) : StopWorld :=
  { w with command := .returned result accepted }

def verdict (w : StopWorld) : StopResult :=
  match w.recentDaemonFailure with
  | some (code, message) => .failed code message
  | none => .done "HarmonyNetBridge stopped."

end StopWorld

inductive CommandStep (w : StopWorld) : StopEvent → StopWorld → Prop
  /-- `stopRequestedAt` is taken. -/
  | start (pc : w.command = .idle) :
      CommandStep w .start { w with command := .calling, recent := false }
  | connect (pc : w.command = .calling) {i : ℕ} {t : State}
      (h : Step w.daemon (.request i (.accept (some .stop))) t) :
      CommandStep w (.connect i) { w with daemon := t, command := .requesting i }
  | notRunning (pc : w.command = .calling) : CommandStep w .unavailable
      (w.withResult (.done "HarmonyNetBridge is already stopped.") false)
  | dialError (pc : w.command = .calling) : CommandStep w .callError (w.withResult .callError false)
  | unavailable {i : ℕ} (pc : w.command = .requesting i) : CommandStep w .unavailable
      (w.withResult (.done "HarmonyNetBridge is already stopped.") (w.accepted i))
  | callError {i : ℕ} (pc : w.command = .requesting i) :
      CommandStep w .callError (w.withResult .callError (w.accepted i))
  | response {i : ℕ} (pc : w.command = .requesting i)
      (answered : (w.daemon.requests i).answered = true) :
      CommandStep w .response { w with command := .polling i }
  | poll {i : ℕ} (pc : w.command = .polling i) (unavailable : Bool) :
      CommandStep w (.poll unavailable)
        { w with command := if unavailable then .inspecting i else .polling i }
  | inspect {i : ℕ} (pc : w.command = .inspecting i) :
      CommandStep w .inspect (w.withResult w.verdict (w.accepted i))
  | timeout {i : ℕ} (pc : w.command = .polling i) : CommandStep w .timeout
      (w.withResult (.failed .daemonUnavailable "the daemon did not stop within 8 seconds")
        (w.accepted i))

/-- A step of the daemon. The clock does not run backwards. -/
def StopWorld.withDaemon (w : StopWorld) (l : Label) (t : State) : StopWorld :=
  { w with
    daemon := t
    recent := w.recent || (w.daemon.updates l && w.daemon.files.writable)
    unclean := w.unclean || w.daemon.cleanupFails l }

inductive StopStep : StopWorld → StopLabel → StopWorld → Prop
  | daemon {w : StopWorld} {l : Label} {t : State} (h : Step w.daemon l t) :
      StopStep w (.daemon l) (w.withDaemon l t)
  | command {w w' : StopWorld} {e : StopEvent} (h : CommandStep w e w') :
      StopStep w (.command e) w'

def StopWorld.Initial (w : StopWorld) : Prop := ∃ s, Daemon.Initial s ∧ w = { daemon := s }

/-- `shutdown` is past proxy termination and mapping removal. -/
def Main.cleaned : Main → Bool
  | removingSocket | checkingFailure | removingState | finished | exited => true
  | _ => false

/-- `shutdown` has closed the control listener. -/
def Main.closedDown : Main → Bool
  | closingProxy _ | publishingProxyFailure | failingProxy | checkingProxy | publishingProxyOff
  | removingMapping | failingMapping => true
  | main => main.cleaned

/-- A failure of the cleanup is known to `shutdown` and not yet published. -/
def Main.unpublished : Main → Bool
  | publishingProxyFailure | failingProxy | failingMapping => true
  | _ => false

def StopWorld.Cleaned (w : StopWorld) : Prop := w.daemon.main.cleaned = true ∧ w.unclean = false

/-- If the command has returned without an error, after the daemon accepted the request, then the
cleanup is complete. -/
def StopWorld.Honest (w : StopWorld) : Prop :=
  ∀ output, w.command = .returned (.done output) true → w.Cleaned

/-- No stop request overwrites a failure, a failure of the cleanup can be written, the stop request
itself does not run into its deadline once it is accepted, and the poll that finds the daemon
unavailable is followed by the inspection of the state file only when the cleanup is complete. -/
structure StopOnTime (w : StopWorld) (l : StopLabel) : Prop where
  update : ∀ i, l = .daemon (.request i .publishStop) → w.daemon.snapshot.daemon ≠ .failed
  written : l = .daemon (.main .next) → w.daemon.main.unpublished = true →
    w.daemon.files.writable = true
  call : ∀ i, l = .command .unavailable → w.command = .requesting i → w.accepted i = true → w.Cleaned
  inspect : l = .command .inspect →
    w.recentDaemonFailure.isSome = true ∨ w.daemon.main.cleaned = true

/-- The places at which the control listener may be open. -/
def Main.serves (main : Main) : Bool := !main.starting && !main.closedDown

variable {s t : State} {e : MainEvent} {l : Label} {m : Main}

theorem MainStep.serves (h : MainStep s e t) (hs : s.acceptingControl = true → s.main.serves = true)
    (ht : t.acceptingControl = true) : t.main.serves = true := by
  cases h with
  | startServers pc => rfl
  | closeControlListener pc => cases ht
  | serveError pc | proxyDone pc _ =>
    simp only [State.withMain_main, unlessStopping]
    split <;> rfl
  | _ pc =>
    have hplace := hs ht
    rw [pc] at hplace
    first
      | rfl
      | cases hplace

theorem Step.serves (h : Step s l t) (hs : s.acceptingControl = true → s.main.serves = true) :
    t.acceptingControl = true → t.main.serves = true := by
  cases h with
  | device _ h =>
    rw [h.main]
    cases h with
    | publishRelayStats pc stats =>
      simp only [State.goto_acceptingControl, publishFinalStats]
      split <;> exact hs
    | _ => exact hs
  | monitor _ h =>
    rw [h.main.1]
    cases h <;> exact hs
  | request _ h =>
    rw [h.main.1]
    cases h <;> exact hs
  | main h => exact h.serves hs
  | surroundings e => cases e <;> exact hs

theorem serves_reached (h : Reached s) (ht : s.acceptingControl = true) : s.main.serves = true := by
  refine h.invariant (I := fun s => s.acceptingControl = true → s.main.serves = true) ?_
    (fun s l t hstep hs => hstep.serves hs) ht
  rintro s ⟨pid, config, files, rfl⟩ haccepting
  cases haccepting

theorem Main.not_serves_of_closedDown (h : m.closedDown = true) : m.serves = false := by
  simp [Main.serves, h]

theorem Main.closedDown_of_unpublished (h : m.unpublished = true) : m.closedDown = true := by
  cases m <;> first | rfl | cases h

theorem MainStep.closedDown (h : MainStep s e t) (hs : s.main.closedDown = true) :
    t.main.closedDown = true := by
  cases h with
  | closeProxy pc _ ok | removeMapping pc _ ok => cases ok <;> rfl
  | checkProxy pc | checkFailure pc =>
    simp only [State.withMain_main]
    split <;> rfl
  | _ pc =>
    rw [pc] at hs
    first
      | rfl
      | cases hs

theorem MainStep.cleaned {s t : State} {e : MainEvent} (h : MainStep s e t)
    (hs : s.main.cleaned = true) : t.main.cleaned = true ∧ s.cleanupFails (.main e) = false := by
  cases h with
  | checkFailure pc =>
    refine ⟨?_, rfl⟩
    simp only [State.withMain_main]
    split <;> rfl
  | _ pc =>
    rw [pc] at hs
    first
      | exact ⟨rfl, rfl⟩
      | cases hs

/-- What `Run` does about a failure of the cleanup. -/
theorem MainStep.unpublished (h : MainStep s e t) (hs : s.main.unpublished = true) :
    e = .next ∧ s.main.updates = true ∧
      (t.main.unpublished = true ∨ (t.snapshot.daemon = .failed ∧
        t.files = s.files.writeState s.pid t.snapshot)) := by
  cases h with
  | publishProxyFailure pc => exact ⟨rfl, by rw [pc]; rfl, .inl rfl⟩
  | failProxy pc | failMapping pc => exact ⟨rfl, by rw [pc]; rfl, .inr ⟨rfl, rfl⟩⟩
  | _ pc =>
    rw [pc] at hs
    cases hs

theorem Step.cleanupFails (h : Step s l t) (hl : s.cleanupFails l = true) :
    t.main.unpublished = true := by
  cases h with
  | main h =>
    cases h with
    | closeProxy pc _ ok =>
      cases ok with
      | false => rfl
      | true => cases hl
    | removeMapping pc _ ok =>
      cases ok with
      | false => rfl
      | true => simp [State.cleanupFails, pc] at hl
    | removeStaleMapping pc _ ok => simp [State.cleanupFails, pc] at hl
    | _ => cases hl
  | _ => cases hl

theorem Step.main_or (h : Step s l t) :
    (∃ e, l = .main e ∧ MainStep s e t) ∨ (t.main = s.main ∧ s.cleanupFails l = false) := by
  cases h with
  | device _ h => exact .inr ⟨h.main, rfl⟩
  | monitor _ h => exact .inr ⟨h.main.1, rfl⟩
  | request _ h => exact .inr ⟨h.main.1, rfl⟩
  | main h => exact .inl ⟨_, rfl, h⟩
  | surroundings e => exact .inr ⟨by cases e <;> rfl, rfl⟩

theorem Step.requests (h : Step s l t) {i : ℕ} (hi : (s.requests i).stopAccepted = true) :
    (t.requests i).stopAccepted = true := by
  cases h with
  | device _ h =>
    cases h with
    | publishRelayStats pc stats =>
      simp only [State.goto_requests, publishFinalStats]
      split <;> exact hi
    | _ => exact hi
  | monitor _ h => cases h <;> exact hi
  | @request _ j _ _ h =>
    by_cases hj : i = j
    · subst hj
      cases h with
      | answerStop | requestStop => simp [State.answer, Request.stopAccepted]
      | _ pc => simp [pc, Request.stopAccepted] at hi
    · cases h <;> simpa [State.answer, Function.update_of_ne hj] using hi
  | main h => cases h <;> exact hi
  | surroundings e => cases e <;> exact hi

theorem Request.stopAccepted_of_answered {r : Request} (h : r.answered = true) :
    r.stopAccepted = true := by
  cases r with
  | returned answer => cases answer <;> first | rfl | cases h
  | _ => first | rfl | cases h

def StopCommand.connected : StopCommand → Bool
  | requesting _ | polling _ | inspecting _ => true
  | _ => false

/-- What holds while every step is on time. A failure of the cleanup is yet to be published, or is in
the state file, and recent for a command whose request was sent. -/
structure StopInvariant (w : StopWorld) : Prop where
  daemon : Reached w.daemon
  place : w.unclean = true → w.daemon.main.closedDown = true
  published : w.unclean = true → w.daemon.main.unpublished = true ∨
    (w.daemon.snapshot.daemon = .failed ∧ FailureRecorded w.daemon ∧
      (w.command.connected = true → w.recent = true))
  accepted : ∀ i, w.command = .polling i ∨ w.command = .inspecting i → w.accepted i = true
  honest : w.Honest

namespace StopInvariant
variable {w w' : StopWorld} {l : Label} {e : StopEvent} {t : State}

theorem cleanedStep (hw : w.Cleaned) (h : Step w.daemon l t) : (w.withDaemon l t).Cleaned := by
  obtain ⟨hplace, hclean⟩ := hw
  rcases h.main_or with ⟨e, rfl, hm⟩ | ⟨hmain, hfails⟩
  · obtain ⟨hplace', hfails⟩ := hm.cleaned hplace
    exact ⟨hplace', by simp [StopWorld.withDaemon, hclean, hfails]⟩
  · refine ⟨?_, by simp [StopWorld.withDaemon, hclean, hfails]⟩
    show t.main.cleaned = true
    rw [hmain, hplace]

/-- A published failure of the cleanup stays in the state file. -/
theorem publishedStep (hw : StopInvariant w) (h : Step w.daemon l t)
    (hok : StopOnTime w (.daemon l)) (hunclean : w.unclean = true) :
    t.main.unpublished = true ∨ (t.snapshot.daemon = .failed ∧ FailureRecorded t ∧
      (w.command.connected = true → (w.withDaemon l t).recent = true)) := by
  rcases hw.published hunclean with hplace | ⟨hfailed, hrecord, hrecent⟩
  · rcases h.main_or with ⟨e, rfl, hm⟩ | ⟨hmain, -⟩
    · obtain ⟨rfl, hupdates, hnext | ⟨hfailed, hfiles⟩⟩ := hm.unpublished hplace
      · exact .inl hnext
      · have hwritable := hok.written rfl hplace
        refine .inr ⟨hfailed, ⟨⟨w.daemon.pid, t.snapshot⟩, ?_, hfailed⟩, fun _ => ?_⟩
        · rw [hfiles, Files.writeState, if_pos hwritable]
        · simp [StopWorld.withDaemon, State.updates, hupdates, hwritable]
    · rw [hmain]
      exact .inl hplace
  · have hlate := failedLate_reached hw.daemon
    have hquiet : NoStopUpdate l := by
      rintro i rfl
      exact hok.update i rfl hfailed
    have hkept := (h.failed_iff hlate hfailed).mpr hquiet
    refine .inr ⟨hkept, h.failureRecorded hlate hfailed hkept hrecord, fun hconnected => ?_⟩
    simp [StopWorld.withDaemon, hrecent hconnected]

theorem daemonStep (hw : StopInvariant w) (h : Step w.daemon l t)
    (hok : StopOnTime w (.daemon l)) : StopInvariant (w.withDaemon l t) := by
  have hunclean : (w.withDaemon l t).unclean = true →
      w.daemon.cleanupFails l = true ∨ w.unclean = true := by
    simp [StopWorld.withDaemon, or_comm]
  refine ⟨hw.daemon.next h, fun hu => ?_, fun hu => ?_, ?_, ?_⟩
  · rcases hunclean hu with hfails | hbefore
    · exact Main.closedDown_of_unpublished (h.cleanupFails hfails)
    · rcases h.main_or with ⟨e, rfl, hm⟩ | ⟨hmain, -⟩
      · exact hm.closedDown (hw.place hbefore)
      · show t.main.closedDown = true
        rw [hmain]
        exact hw.place hbefore
  · rcases hunclean hu with hfails | hbefore
    · exact .inl (h.cleanupFails hfails)
    · exact hw.publishedStep h hok hbefore
  · intro i hi
    exact h.requests (hw.accepted i hi)
  · intro output houtput
    exact cleanedStep (hw.honest output houtput) h

/-- The command finds no recent failure although the cleanup is complete: nothing has failed. -/
theorem clean_of_inspect (hw : StopInvariant w) (hconnected : w.command.connected = true)
    (hplace : w.daemon.main.cleaned = true) (hnone : w.recentDaemonFailure = none) : w.Cleaned := by
  refine ⟨hplace, ?_⟩
  by_contra hunclean
  rcases hw.published (by simpa using hunclean) with hpending | ⟨-, ⟨record, hfile, hfailed⟩, hrecent⟩
  · generalize w.daemon.main = m at hplace hpending
    cases m <;> first | cases hplace; done | cases hpending
  · simp [StopWorld.recentDaemonFailure, hfile, hfailed, hrecent hconnected] at hnone

theorem onTime_command (hcall : ∀ i, e = .unavailable → w.command = .requesting i →
      w.accepted i = true → w.Cleaned)
    (hinspect : e = .inspect → w.recentDaemonFailure.isSome = true ∨ w.daemon.main.cleaned = true) :
    StopOnTime w (.command e) := by
  refine ⟨by simp, by simp, fun i he => ?_, fun he => ?_⟩
  · exact hcall i (StopLabel.command.inj he)
  · exact hinspect (StopLabel.command.inj he)

/-- The command returns honestly exactly if it does so on time. -/
theorem honest_iff (hw : StopInvariant w) (h : CommandStep w e w') :
    w'.Honest ↔ StopOnTime w (.command e) := by
  cases h with
  | start pc | connect pc _ | notRunning pc | dialError pc | callError pc | response pc _
  | timeout pc =>
    refine iff_of_true ?_ (onTime_command (by simp [pc]) (by simp))
    simp [StopWorld.Honest, StopWorld.withResult]
  | @poll i pc unavailable =>
    refine iff_of_true ?_ (onTime_command (by simp) (by simp))
    cases unavailable <;> simp [StopWorld.Honest]
  | @unavailable i pc =>
    constructor
    · intro hhonest
      refine onTime_command (fun j _ hj hacc => ?_) (by simp)
      obtain rfl : i = j := StopCommand.requesting.inj (pc.symm.trans hj)
      exact hhonest "HarmonyNetBridge is already stopped." (by simp [StopWorld.withResult, hacc])
    · intro hok output houtput
      have hacc : w.accepted i = true := by
        simpa [StopWorld.withResult] using (StopCommand.returned.inj houtput).2
      exact hok.call i rfl pc hacc
  | @inspect i pc =>
    have hacc := hw.accepted i (.inr pc)
    cases hverdict : w.recentDaemonFailure with
    | some failure =>
      refine iff_of_true ?_ (onTime_command (by simp) (by simp [hverdict]))
      simp [StopWorld.Honest, StopWorld.withResult, StopWorld.verdict, hverdict]
    | none =>
      constructor
      · intro hhonest
        refine onTime_command (by simp) fun _ => .inr ?_
        refine (hhonest "HarmonyNetBridge stopped." ?_).1
        simp [StopWorld.withResult, StopWorld.verdict, hverdict, hacc]
      · intro hok output houtput
        have hplace := (hok.inspect rfl).resolve_left (by simp [hverdict])
        exact hw.clean_of_inspect (by rw [pc]; rfl) hplace hverdict

theorem alone (hw : StopInvariant w) {command : StopCommand} {recent : Bool}
    (hrecent : command.connected = true → w.command.connected = true ∧ recent = w.recent)
    (hacc : ∀ i, command = .polling i ∨ command = .inspecting i → w.accepted i = true)
    (hhonest : StopWorld.Honest { w with command := command, recent := recent }) :
    StopInvariant { w with command := command, recent := recent } := by
  refine ⟨hw.daemon, hw.place, fun hu => ?_, hacc, hhonest⟩
  refine (hw.published hu).imp id fun ⟨hfailed, hrecord, hr⟩ => ⟨hfailed, hrecord, fun hc => ?_⟩
  obtain ⟨hconnected, rfl⟩ := hrecent hc
  exact hr hconnected

theorem commandStep (hw : StopInvariant w) (h : CommandStep w e w') (hhonest : w'.Honest) :
    StopInvariant w' := by
  cases h with
  | start pc => exact hw.alone (by simp [StopCommand.connected]) (by simp) hhonest
  | @connect pc i t h =>
    -- a daemon that still accepts requests has not begun its cleanup
    have hclean : w.unclean = false := by
      by_contra hunclean
      have hplace := Main.not_serves_of_closedDown (hw.place (by simpa using hunclean))
      cases h with
      | request _ h =>
        cases h with
        | accept _ listening => simp [serves_reached hw.daemon listening] at hplace
    exact ⟨hw.daemon.next h, by simp [hclean], by simp [hclean], by simp, hhonest⟩
  | notRunning pc | dialError pc | unavailable pc | callError pc | inspect pc | timeout pc =>
    exact hw.alone (by simp [StopCommand.connected]) (by simp) hhonest
  | @response i pc answered =>
    refine hw.alone (fun _ => ⟨by rw [pc]; rfl, rfl⟩) (fun j hj => ?_) hhonest
    obtain rfl : i = j := by simpa using hj
    exact Request.stopAccepted_of_answered answered
  | @poll i pc unavailable =>
    refine hw.alone (fun _ => ⟨by rw [pc]; rfl, rfl⟩) (fun j hj => ?_) hhonest
    obtain rfl : i = j := by cases unavailable <;> simpa using hj
    exact hw.accepted i (.inl pc)

theorem of_reachable (h : Reachable (Guarded StopStep StopOnTime) StopWorld.Initial w) :
    StopInvariant w := by
  refine h.invariant ?_ ?_
  · rintro w ⟨s, hs, rfl⟩
    exact ⟨.start hs, by simp, by simp, by simp, by simp [StopWorld.Honest]⟩
  · rintro w l w' ⟨hstep, hok⟩ hw
    cases hstep with
    | daemon h => exact hw.daemonStep h hok
    | command h => exact hw.commandStep h ((hw.honest_iff h).mpr hok)

end StopInvariant

/-- The command and the daemon in any interleaving in which every step is on time. If the command has
returned without an error after its request was accepted, the daemon has terminated the proxy and
removed the mapping, and both succeeded; and the next step of the command keeps this exactly if it
is on time. -/
theorem stop_cleaned_iff {w : StopWorld}
    (hw : Reachable (Guarded StopStep StopOnTime) StopWorld.Initial w) :
    w.Honest ∧ ∀ e w', StopStep w (.command e) w' → (w'.Honest ↔ StopOnTime w (.command e)) := by
  have hinv := StopInvariant.of_reachable hw
  refine ⟨hinv.honest, fun e w' hstep => ?_⟩
  cases hstep with
  | command h => exact hinv.honest_iff h

theorem MainStep.writable {s t : State} {e : MainEvent} (h : MainStep s e t) :
    t.files.writable = s.files.writable := by
  by_cases hreading : s.main = .reading
  · cases h with
    | readState => rfl
    | _ pc => simp [hreading] at pc
  · by_cases hremoving : s.main = .removingState
    · cases h with
      | removeState => rfl
      | _ pc => simp [hremoving] at pc
    · exact (h.recorded hreading hremoving).writable

/-- Steps of the daemon that are on time whatever the command does. -/
def Label.harmless : Label → Bool
  | .request _ .publishStop | .surroundings (.writable false) => false
  | _ => true

theorem Step.writable {s t : State} {l : Label} (h : Step s l t) (hl : l.harmless = true)
    (hs : s.files.writable = true) : t.files.writable = true := by
  cases h with
  | device _ h => rw [h.recorded.1.writable, hs]
  | monitor _ h => rw [h.recorded.1.writable, hs]
  | request _ h => rw [h.recorded.1.writable, hs]
  | main h => rw [h.writable, hs]
  | surroundings e =>
    cases e with
    | cancelContext => exact hs
    | writable ok =>
      cases ok with
      | false => cases hl
      | true => rfl

theorem StopWorld.lift {w : StopWorld} {ls : List Label} {t : State} (h : Run Step w.daemon ls t)
    (hls : ∀ l ∈ ls, l.harmless = true) (hwritable : w.daemon.files.writable = true) :
    ∃ w', Run (Guarded StopStep StopOnTime) w (ls.map .daemon) w' ∧ w'.daemon = t ∧
      w'.command = w.command ∧ t.files.writable = true := by
  generalize hs : w.daemon = s at h
  induction h generalizing w with
  | nil s => exact ⟨w, .nil w, hs, rfl, hs ▸ hwritable⟩
  | @cons s u t l ls hstep _ ih =>
    subst hs
    have hl := hls l (by simp)
    obtain ⟨w', hrun, hdaemon, hcmd, hw'⟩ := ih (w := w.withDaemon l u)
      (fun l hl => hls l (List.mem_cons_of_mem _ hl)) (hstep.writable hl hwritable) rfl
    refine ⟨w', .cons ⟨.daemon hstep, ?_⟩ hrun, hdaemon, hcmd, hw'⟩
    refine ⟨?_, fun _ _ => hwritable, by simp, by simp⟩
    intro i heq
    cases heq
    cases hl

def acceptedState : State :=
  (((servingState.answer 0 .publishingStop).update publishStopRequest).answer 0 .answeringStop).answer
    0 (.requestingStop (publishStopRequest servingState.snapshot))

def stopping : List Label :=
  [.request 0 .requestStop, .main (.exit .stopRequested)] ++ releasing

theorem stopping_run : ∃ s, Run Step acceptedState stopping s ∧ ClosedDown s ∧
    (∃ record, s.files.stateFile = some record ∧ record.snapshot.daemon = .stopping) ∧
    (s.requests 0).stopAccepted = true := by
  have hstop : ∃ u, Run Step acceptedState [.request 0 .requestStop, .main (.exit .stopRequested)] u ∧
      u.monitoring = true ∧ u.monitor = .waiting false ∧ u.mappingAdded = true ∧
      u.proxySession = none ∧ u.snapshot.daemon ≠ .failed ∧ u.main = .takingSessions ∧
      u.files.writable = true ∧ (u.requests 0).stopAccepted = true :=
    ⟨_, .cons (.request Main.noConfusion (.requestStop rfl)) <| .single (.main (.stopRequested rfl rfl)),
      rfl, rfl, rfl, rfl, DaemonStatus.noConfusion, rfl, rfl, rfl⟩
  obtain ⟨u, hu, watched, waiting, added, proxy, healthy, pc, writable, accepted⟩ := hstop
  obtain ⟨t, ht, hclosed, hfiles, hrequests⟩ := releasing_run watched waiting added proxy healthy pc
  refine ⟨t, hu.append ht, hclosed, ⟨⟨u.pid, t.snapshot⟩, ?_, hclosed.healthy⟩, hrequests ▸ accepted⟩
  rw [hfiles, Files.closeListener, Files.writeState, if_pos writable]

theorem polling_reached : ∃ w, Reachable (Guarded StopStep StopOnTime) StopWorld.Initial w ∧
    w.daemon = acceptedState ∧ w.command = .polling 0 := by
  have hstart : StopWorld.Initial { daemon := State.start 1 plainConfig emptyFiles } :=
    ⟨_, ⟨1, plainConfig, emptyFiles, rfl⟩, rfl⟩
  obtain ⟨⟨s, command, recent, unclean⟩, hrun, hs, hcmd, -⟩ :=
    StopWorld.lift (w := { daemon := State.start 1 plainConfig emptyFiles }) servingState_run
      (by decide) rfl
  cases hs
  cases hcmd
  have honTime (w : StopWorld) (e : StopEvent) (hcall : e ≠ .unavailable) (hinspect : e ≠ .inspect) :
      StopOnTime w (.command e) :=
    StopInvariant.onTime_command (fun _ he => absurd he hcall) fun he => absurd he hinspect
  have hrequest : Run (Guarded StopStep StopOnTime) ⟨servingState, .idle, recent, unclean⟩
      [.command .start, .command (.connect 0), .daemon (.request 0 .publishStop),
        .daemon (.request 0 .answer), .command .response] _ :=
    .cons ⟨.command (.start rfl), honTime _ _ (by simp) (by simp)⟩ <|
      .cons ⟨.command (.connect rfl (.request Main.noConfusion (.accept rfl rfl (some .stop)))),
        honTime _ _ (by simp) (by simp)⟩ <|
      .cons ⟨.daemon (.request Main.noConfusion (.publishStop rfl)),
        ⟨fun _ _ => DaemonStatus.noConfusion, by simp, by simp, by simp⟩⟩ <|
      .cons ⟨.daemon (.request Main.noConfusion (.answerStop rfl)), by simp, by simp, by simp, by simp⟩ <|
      .cons ⟨.command (.response rfl rfl), honTime _ _ (by simp) (by simp)⟩ <| .nil _
  exact ⟨_, ⟨_, _, hstart, hrun.append hrequest⟩, rfl, rfl⟩

theorem closing_reached : ∃ w, Reachable (Guarded StopStep StopOnTime) StopWorld.Initial w ∧
    w.command = .polling 0 ∧ ClosedDown w.daemon ∧ w.daemon.files.writable = true ∧
    w.recentDaemonFailure = none ∧ w.accepted 0 = true := by
  obtain ⟨w, hw, hdaemon, hcmd⟩ := polling_reached
  obtain ⟨s, hrun, hclosed, ⟨record, hfile, hstopping⟩, hacc⟩ := stopping_run
  rw [← hdaemon] at hrun
  obtain ⟨w', hrun', rfl, hcmd', hwritable⟩ :=
    StopWorld.lift hrun (by decide) (by rw [hdaemon]; rfl)
  refine ⟨w', hw.run hrun', hcmd'.trans hcmd, hclosed, hwritable, ?_, hacc⟩
  simp [StopWorld.recentDaemonFailure, hfile, hstopping]

theorem StopWorld.polled {w : StopWorld} {i : ℕ} (hcmd : w.command = .polling i)
    (hnone : w.recentDaemonFailure = none) (hacc : w.accepted i = true) :
    ∃ u, CommandStep w (.poll true) u ∧ u.daemon = w.daemon ∧
      CommandStep u .inspect (w.withResult (.done "HarmonyNetBridge stopped.") true) := by
  obtain ⟨s, command, recent, unclean⟩ := w
  cases hcmd
  refine ⟨_, .poll rfl true, rfl, ?_⟩
  have hverdict : verdict ⟨s, .inspecting i, recent, unclean⟩ = .done "HarmonyNetBridge stopped." := by
    rw [verdict, show recentDaemonFailure ⟨s, .inspecting i, recent, unclean⟩ = none from hnone]
  have hinspect := CommandStep.inspect (w := ⟨s, .inspecting i, recent, unclean⟩) rfl
  rw [hverdict, show accepted ⟨s, .inspecting i, recent, unclean⟩ i = true from hacc] at hinspect
  exact hinspect

theorem stop_cleaned_finished : ∃ w, Reachable (Guarded StopStep StopOnTime) StopWorld.Initial w ∧
    w.command = .returned (.done "HarmonyNetBridge stopped.") true ∧ w.Cleaned := by
  obtain ⟨w, hw, hcmd, hclosed, hwritable, -⟩ := closing_reached
  obtain ⟨t, hrun, hdone, -, hfile, -⟩ := cleaningUp_run hclosed
  obtain ⟨w', hrun', rfl, hcmd', -⟩ := StopWorld.lift hrun (by decide) hwritable
  have hreached := hw.run hrun'
  have hpolling := hcmd'.trans hcmd
  have hnone : w'.recentDaemonFailure = none := by simp [StopWorld.recentDaemonFailure, hfile]
  have hacc := (StopInvariant.of_reachable hreached).accepted 0 (.inl hpolling)
  obtain ⟨u, hpoll, hdaemon, hinspect⟩ := StopWorld.polled hpolling hnone hacc
  have hplace : u.daemon.main.cleaned = true := by rw [hdaemon, hdone]; rfl
  have hpolled := hreached.next ⟨.command hpoll, StopInvariant.onTime_command (by simp) (by simp)⟩
  have hret := hpolled.next ⟨.command hinspect,
    StopInvariant.onTime_command (by simp) fun _ => .inr hplace⟩
  exact ⟨_, hret, rfl, (stop_cleaned_iff hret).1 _ rfl⟩

/-- The command finds the socket closed and returns without an error; the daemon goes on to remove
the mapping, and that fails. -/
theorem stop_uncleaned : ∃ w, Reachable StopStep StopWorld.Initial w ∧
    w.command = .returned (.done "HarmonyNetBridge stopped.") true ∧ ¬ w.Cleaned ∧
    ∃ w', Run StopStep w [.daemon (.main .next), .daemon (.main (.remove false))] w' ∧
      w'.unclean = true := by
  obtain ⟨w, hw, hcmd, hclosed, -, hnone, hacc⟩ := closing_reached
  obtain ⟨taken, pc, proxy⟩ := hclosed.place
  obtain ⟨u, hpoll, -, hinspect⟩ := StopWorld.polled hcmd hnone hacc
  have hreached := hw.mono fun _ _ _ h => h.1
  have hret := (hreached.next (.command hpoll)).next (.command hinspect)
  refine ⟨_, hret, rfl, ?_, _, .cons (.daemon (.main (.noProxySession pc proxy))) <|
    .single (.daemon (.main (.removeMapping (s := w.daemon.withMain .removingMapping) rfl
      hclosed.added false))), ?_⟩
  · rintro ⟨hplace, -⟩
    have hplace' : w.daemon.main.cleaned = true := hplace
    simp [pc, Main.cleaned] at hplace'
  · simp [StopWorld.withDaemon, State.cleanupFails]

end HarmonyNetBridge.Daemon
