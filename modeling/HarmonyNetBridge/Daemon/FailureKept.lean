import HarmonyNetBridge.Daemon.Publications

/-! A daemon that has failed. `shutdown` respects the status FAILED and keeps the state file then;
the update of a local stop request does not look at the status. -/
namespace HarmonyNetBridge.Daemon
open Transition

def FailureRecorded (s : State) : Prop :=
  ∃ record, s.files.stateFile = some record ∧ record.snapshot.daemon = .failed

def NoStopUpdate (l : Label) : Prop := ∀ i, l ≠ .request i .publishStop

/-- A failure is published after the start, and `Run` removes no state file with one. -/
def FailedLate (s : State) : Prop :=
  s.snapshot.daemon = .failed → s.main.starting = false ∧ s.main ≠ .removingState

theorem initialSnapshot_daemon (config : Config) (previous : Option Snapshot) :
    (initialSnapshot config previous).daemon = .starting := by
  simp only [initialSnapshot]
  repeat' split
  all_goals rfl

variable {s t : State} {e : MainEvent} {l : Label}

/-- The three places where `Run` fails. -/
theorem MainStep.fails (h : MainStep s e t) (hs : s.snapshot.daemon ≠ .failed)
    (ht : t.snapshot.daemon = .failed) : t.main.starting = false ∧ t.main ≠ .removingState := by
  cases h with
  | fail | failProxy | failMapping => exact ⟨rfl, Main.noConfusion⟩
  | readState => simp [initialSnapshot_daemon] at ht
  | publishRunning => cases ht
  | publishStopping =>
    simp only [State.withMain_snapshot, State.update_snapshot, Daemon.publishStopping, hs,
      ↓reduceIte] at ht
    cases ht
  | _ => exact absurd ht hs

theorem MainStep.removing (h : MainStep s e t) (hs : s.snapshot.daemon = .failed) :
    t.main ≠ .removingState := by
  cases h with
  | checkFailure pc => simp [hs]
  | checkProxy pc => simp [hs]
  | serveError pc | proxyDone pc _ =>
    simp only [State.withMain_main, unlessStopping]
    split <;> exact Main.noConfusion
  | lstat pc ok =>
    cases ok with
    | false => exact Main.noConfusion
    | true =>
      rw [State.withMain_main, if_pos rfl]
      cases s.files.control <;> exact Main.noConfusion
  | probe pc result _ => cases result <;> exact Main.noConfusion
  | ensurePaths pc ok | chmod pc ok | recoverProxy pc _ ok | closeProxy pc _ ok
  | removeMapping pc _ ok => cases ok <;> exact Main.noConfusion
  | _ => exact Main.noConfusion

theorem failedLate_step (h : Step s l t) (hs : FailedLate s) : FailedLate t := by
  intro ht
  cases h with
  | device _ h =>
    rw [h.main]
    exact hs (h.recorded.2.2 ▸ ht)
  | monitor _ h =>
    rw [h.main.1]
    exact hs (h.recorded.2.2 ▸ ht)
  | @request _ _ e _ h =>
    rw [h.main.1]
    have hdaemon := h.recorded.2.2
    rw [ht] at hdaemon
    by_cases he : e = .publishStop
    · simp [he] at hdaemon
    · exact hs (by simpa [he] using hdaemon.symm)
  | main h =>
    by_cases hfailed : s.snapshot.daemon = .failed
    · refine ⟨?_, h.removing hfailed⟩
      have hlate := (hs hfailed).1
      by_contra hstarting
      simp [(h.starting (by simpa using hstarting)).1] at hlate
    · exact h.fails hfailed ht
  | surroundings e => cases e <;> exact hs ht

theorem failedLate_reached (h : Reached s) : FailedLate s := by
  refine h.invariant ?_ fun s l t => failedLate_step
  rintro s ⟨pid, config, files, rfl⟩ hfailed
  cases hfailed

/-- A failed daemon stays so in every step but the update of a stop request. -/
theorem Step.failed_iff (h : Step s l t) (hs : FailedLate s)
    (hfailed : s.snapshot.daemon = .failed) : t.snapshot.daemon = .failed ↔ NoStopUpdate l := by
  cases h with
  | device _ h => simp [NoStopUpdate, h.recorded.2.2, hfailed]
  | monitor _ h => simp [NoStopUpdate, h.recorded.2.2, hfailed]
  | @request _ i e _ h =>
    rw [h.recorded.2.2, hfailed]
    by_cases he : e = .publishStop <;> simp [NoStopUpdate, he]
  | main h =>
    have hlate := (hs hfailed).1
    have hreading : s.main ≠ .reading := by
      intro pc
      simp [pc, Main.starting] at hlate
    have hkept : t.snapshot.daemon = .failed := by
      rcases h.daemon hreading with hsame | hfails | ⟨pc, -⟩ | ⟨hhealthy, -⟩
      · exact hsame.trans hfailed
      · exact hfails
      · simp [pc, Main.starting] at hlate
      · exact absurd hfailed hhealthy
    simp [NoStopUpdate, hkept]
  | surroundings e => cases e <;> simp [NoStopUpdate, State.surrounded, hfailed]

theorem Step.recorded (h : Step s l t) (hreading : s.main ≠ .reading)
    (hremoving : s.main ≠ .removingState) : Recorded s t ∨ ∃ e, l = .surroundings e := by
  cases h with
  | device _ h => exact .inl h.recorded.1
  | monitor _ h => exact .inl h.recorded.1
  | request _ h => exact .inl h.recorded.1
  | main h => exact .inl (h.recorded hreading hremoving)
  | surroundings e => exact .inr ⟨e, rfl⟩

/-- The record of a failure is replaced by records of a failure only. -/
theorem Step.failureRecorded (h : Step s l t) (hs : FailedLate s)
    (hfailed : s.snapshot.daemon = .failed) (hkept : t.snapshot.daemon = .failed)
    (hrecord : FailureRecorded s) : FailureRecorded t := by
  obtain ⟨hlate, hremoving⟩ := hs hfailed
  have hreading : s.main ≠ .reading := by
    intro pc
    simp [pc, Main.starting] at hlate
  rcases h.recorded hreading hremoving with hrecorded | ⟨e, rfl⟩
  · rcases hrecorded.stateFile with hfile | hfile
    · rw [FailureRecorded, hfile]
      exact hrecord
    · exact ⟨_, hfile, hkept⟩
  · cases h
    cases e <;> exact hrecord

theorem failed_run {ls : List Label} (hs : FailedLate s) (hfailed : s.snapshot.daemon = .failed)
    (hrun : Run (Guarded Step fun _ l => NoStopUpdate l) s ls t) :
    FailedLate t ∧ t.snapshot.daemon = .failed ∧ (FailureRecorded s → FailureRecorded t) := by
  refine hrun.invariant (I := fun t => FailedLate t ∧ t.snapshot.daemon = .failed ∧
    (FailureRecorded s → FailureRecorded t)) ?_ ⟨hs, hfailed, id⟩
  rintro u l v ⟨hstep, hok⟩ ⟨hlate, hu, hrecord⟩
  have hv := (hstep.failed_iff hlate hu).mpr hok
  exact ⟨failedLate_step hstep hlate, hv, fun h => hstep.failureRecorded hlate hu hv (hrecord h)⟩

/-- The step with which a daemon fails writes the failure, if the file can be written. -/
theorem failure_written {r : State} (hhealthy : r.snapshot.daemon ≠ .failed) (hstep : Step r l s)
    (hfailed : s.snapshot.daemon = .failed) (hwritable : r.files.writable = true) :
    FailureRecorded s := by
  have hchanged : s.snapshot ≠ r.snapshot := by
    intro hsame
    exact hhealthy (hsame ▸ hfailed)
  have hrecorded : Recorded r s := by
    cases hstep with
    | device _ h => exact h.recorded.1
    | monitor _ h => exact h.recorded.1
    | request _ h => exact h.recorded.1
    | main h =>
      refine h.recorded ?_ ?_
      · intro pc
        cases h with
        | readState => simp [initialSnapshot_daemon] at hfailed
        | _ pc' => simp [pc] at pc'
      · intro pc
        cases h with
        | removeState => exact absurd rfl hchanged
        | _ pc' => simp [pc] at pc'
    | surroundings e => cases e <;> exact absurd rfl hchanged
  cases hrecorded with
  | quiet snapshot _ => exact absurd snapshot hchanged
  | written record =>
    have hfile : s.files.stateFile = some ⟨r.pid, s.snapshot⟩ := by
      simpa [Files.record, Files.writeState, hwritable] using congrArg Prod.fst record
    exact ⟨_, hfile, hfailed⟩

/-- A daemon fails in the step from `r` to `s`. As long as no stop request publishes, it stays
failed and the state file keeps the failure; and the failure is lost exactly with the update of a
stop request. -/
theorem failure_kept_iff {r s t : State} {l₀ : Label} {ls : List Label} (hr : Reached r)
    (hhealthy : r.snapshot.daemon ≠ .failed) (hstep : Step r l₀ s)
    (hfailed : s.snapshot.daemon = .failed)
    (hrun : Run (Guarded Step fun _ l => NoStopUpdate l) s ls t) :
    t.snapshot.daemon = .failed ∧ (r.files.writable = true → FailureRecorded t) ∧
      ∀ l u, Step t l u → (u.snapshot.daemon = .failed ↔ NoStopUpdate l) := by
  have hlate := failedLate_step hstep (failedLate_reached hr)
  obtain ⟨hlate', hkept, hrecord⟩ := failed_run hlate hfailed hrun
  refine ⟨hkept, fun hwritable => hrecord ?_, fun l u hu => hu.failed_iff hlate' hkept⟩
  exact failure_written hhealthy hstep hfailed hwritable

/-- The device listener of a serving daemon breaks. -/
def brokenState : State :=
  servingState.withMain (.failing .internal "a daemon listener stopped unexpectedly")

theorem brokenState_reached : Reached brokenState :=
  servingState_reached.next (.main (.serveError rfl))

def failedState : State :=
  (brokenState.update (publishFailure .internal "a daemon listener stopped unexpectedly")).withMain
    .takingSessions

theorem failedState_step : Step brokenState (.main .next) failedState := .main (.fail rfl)

theorem failure_kept_serving : ∃ t, Run (Guarded Step fun _ l => NoStopUpdate l) failedState
      [.request 0 (.accept (some .status)), .main .next, .main .next] t ∧
    t.snapshot.daemon = .failed ∧ FailureRecorded t := by
  have hrun : ∃ t, Run Step failedState
      [.request 0 (.accept (some .status)), .main .next, .main .next] t :=
    ⟨_, .cons (.request Main.noConfusion (.accept rfl rfl (some .status))) <|
      .cons (.main (.takeSessions rfl)) <| .cons (.main (.cancelMonitor rfl)) <| .nil _⟩
  obtain ⟨t, hrun⟩ := hrun
  have hguarded : Run (Guarded Step fun _ l => NoStopUpdate l) failedState _ t :=
    hrun.guarded (by simp [NoStopUpdate])
  obtain ⟨hkept, hrecord, -⟩ :=
    failure_kept_iff brokenState_reached DaemonStatus.noConfusion failedState_step rfl hguarded
  exact ⟨t, hguarded, hkept, hrecord rfl⟩

/-- A stop request is accepted and publishes; `shutdown` goes on to close the control listener. -/
def stoppedLate : List Label :=
  [.request 0 (.accept (some .stop)), .request 0 .publishStop] ++ releasing

/-- A stop request publishes after the failure: the daemon shows STOPPING, and `shutdown` removes
the state file. -/
theorem failure_overwritten : Reached failedState ∧ failedState.snapshot.daemon = .failed ∧
    FailureRecorded failedState ∧ ∃ s t, Run Step failedState stoppedLate s ∧
    s.snapshot.daemon = .stopping ∧ Run Step s cleaningUp t ∧ t.main = .finished ∧
    t.files.stateFile = none := by
  have hstop : ∃ u, Run Step failedState
      [.request 0 (.accept (some .stop)), .request 0 .publishStop] u ∧ u.monitoring = true ∧
      u.monitor = .waiting false ∧ u.mappingAdded = true ∧ u.proxySession = none ∧
      u.snapshot.daemon ≠ .failed ∧ u.main = .takingSessions :=
    ⟨_, .cons (.request Main.noConfusion (.accept rfl rfl (some .stop))) <|
      .single (.request Main.noConfusion (.publishStop rfl)), rfl, rfl, rfl, rfl,
      DaemonStatus.noConfusion, rfl⟩
  obtain ⟨u, hu, watched, waiting, added, proxy, healthy, pc⟩ := hstop
  obtain ⟨s, hs, hclosed, -⟩ := releasing_run watched waiting added proxy healthy pc
  obtain ⟨t, ht, hdone, -, hfile, -⟩ := cleaningUp_run hclosed
  exact ⟨brokenState_reached.next failedState_step, rfl, ⟨_, rfl, rfl⟩, s, t, hu.append hs,
    hclosed.healthy,
    ht, hdone, hfile⟩

end HarmonyNetBridge.Daemon
