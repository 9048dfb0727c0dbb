import HarmonyNetBridge.Daemon.SessionOwnership
import HarmonyNetBridge.Daemon.SingleInstance

/-! A daemon is started while its predecessor is in `shutdown`. The predecessor closes its
listener long before it removes the control socket and the state file by name. -/
namespace HarmonyNetBridge.Daemon
open Transition

/-- The daemon has written its first snapshot and its listener is open. -/
def Main.established : Main → Bool
  | protecting | closingUnprotected | reading | persisting | closingUnpersisted => false
  | main => main.stage == .bound

def World.beside (predecessor successor : State) : World :=
  fun i => if i then predecessor else successor

/-- The successor binds the socket only when the predecessor leaves the path alone, and writes the
state file only when the predecessor has exited. -/
structure AwaitsPredecessor (w : World) (l : Bool × Label) : Prop where
  bind : l = (false, .main (.bind true)) → (w true).main.stage = .retired
  persist : l = (false, .main .next) → (w false).main = .persisting → (w true).main = .exited

theorem Main.bound_of_established {m : Main} (h : m.established = true) : m.stage = .bound := by
  cases m <;> first | rfl | cases h

theorem Files.writeState_stateFile (f : Files) (pid : ℕ) (x : Snapshot) :
    (f.writeState pid x).stateFile = f.stateFile ∨
      (f.writeState pid x).stateFile = some ⟨pid, x⟩ := by
  unfold Files.writeState
  split
  · exact .inr rfl
  · exact .inl rfl

/-- A step leaves the state file as it is or writes it. -/
def KeepsState (s t : State) : Prop :=
  t.files.stateFile = s.files.stateFile ∨ ∃ x, t.files.stateFile = some ⟨s.pid, x⟩

theorem KeepsState.write {s t : State} {x : Snapshot} (h : t.files = s.files.writeState s.pid x) :
    KeepsState s t := by
  rw [KeepsState, h]
  exact (s.files.writeState_stateFile s.pid x).imp id fun hx => ⟨x, hx⟩

variable {s t : State} {e : MainEvent} {l : Label}

theorem WritesOnly.keepsState (h : WritesOnly s t) : KeepsState s t := by
  obtain ⟨-, -, hfiles | ⟨x, hfiles⟩⟩ := h
  · exact .inl (by rw [hfiles])
  · exact .write hfiles

/-- Only `bind` opens the listener. -/
theorem MainStep.binds (h : MainStep s e t) (hs : s.main.stage ≠ .bound)
    (ht : t.main.stage = .bound) : e = .bind true := by
  cases h with
  | bind pc free => rfl
  | lstat pc ok =>
    cases ok with
    | false => cases ht
    | true =>
      simp only [State.withMain_main, ↓reduceIte] at ht
      cases hc : s.files.control <;> simp [hc, afterLstat, Main.stage] at ht
  | probe pc result _ => cases result <;> cases ht
  | ensurePaths pc ok => cases ok <;> cases ht
  | closeProxy pc _ ok | removeMapping pc _ ok => cases ok <;> cases ht
  | checkProxy pc | checkFailure pc =>
    simp only [State.withMain_main] at ht
    split at ht <;> cases ht
  | _ pc =>
    first
      | cases ht; done
      | exact absurd (by rw [pc]; rfl) hs

theorem Step.binds (h : Step s l t) (hs : s.main.stage ≠ .bound) (ht : t.main.stage = .bound) :
    l = .main (.bind true) := by
  cases h with
  | device _ h => exact absurd (h.main ▸ ht) hs
  | monitor _ h => exact absurd (h.main.1 ▸ ht) hs
  | request _ h => exact absurd (h.main.1 ▸ ht) hs
  | main h => rw [h.binds hs ht]
  | surroundings e => cases e <;> exact absurd ht hs

/-- A daemon becomes established by writing the state file, and keeps it until then. -/
theorem MainStep.established (h : MainStep s e t) (ht : t.main.established = true) :
    (s.main.established = true ∧ KeepsState s t) ∨
      (s.main = .persisting ∧ e = .next ∧ ∃ x, t.files.stateFile = some ⟨s.pid, x⟩) := by
  cases h with
  | persist pc written =>
    exact .inr ⟨pc, rfl, s.snapshot, by simp [Files.writeState, written]⟩
  | lstat pc ok =>
    cases ok with
    | false => cases ht
    | true =>
      simp only [State.withMain_main, ↓reduceIte] at ht
      cases hc : s.files.control <;> simp [hc, afterLstat, Main.established, Main.stage] at ht
  | probe pc result _ => cases result <;> cases ht
  | ensurePaths pc ok | chmod pc ok => cases ok <;> cases ht
  | closeProxy pc _ ok | removeMapping pc _ ok => cases ok <;> cases ht
  | checkProxy pc | checkFailure pc =>
    simp only [State.withMain_main] at ht
    split at ht <;> cases ht
  | publishRecoveryFailure pc | publishStartFailure pc | publishProxy pc | publishRunning pc
  | publishProxyExit pc | fail pc | publishStopping pc =>
    exact .inl ⟨by rw [pc]; rfl, .write rfl⟩
  | _ pc =>
    first
      | exact .inl ⟨by rw [pc]; rfl, .inl rfl⟩
      | cases ht

theorem Step.established (h : Step s l t) (ht : t.main.established = true) :
    (s.main.established = true ∧ KeepsState s t) ∨
      (s.main = .persisting ∧ l = .main .next ∧ ∃ x, t.files.stateFile = some ⟨s.pid, x⟩) := by
  cases h with
  | device _ h => exact .inl ⟨h.main ▸ ht, h.writesOnly.keepsState⟩
  | monitor _ h => exact .inl ⟨h.main.1 ▸ ht, h.writesOnly.keepsState⟩
  | request _ h => exact .inl ⟨h.main.1 ▸ ht, h.writesOnly.keepsState⟩
  | main h =>
    refine (h.established ht).imp id ?_
    rintro ⟨hmain, rfl, hfile⟩
    exact ⟨hmain, rfl, hfile⟩
  | surroundings e => cases e <;> exact .inl ⟨ht, .inl rfl⟩

/-- What the predecessor must have done by the time the successor has got this far. -/
structure Succeeds (pid : ℕ) (w : World) (f : Files) : Prop where
  own : (w false).pid = pid
  files : Agree State.files w f
  socket : (w false).main.stage = .bound → (w true).main.stage = .retired ∧ f.control = .socket pid
  state : (w false).main.established = true →
    (w true).main = .exited ∧ ∃ x, f.stateFile = some ⟨pid, x⟩

namespace Succeeds
variable {pid : ℕ} {w : World} {f : Files} {l : Label} {t : State}

theorem predecessorStep (hw : Succeeds pid w f) (h : Step (w true) l t) :
    Succeeds pid (share State.files State.withFiles w true t) t.files := by
  have hfile := hw.files true
  refine ⟨by simp [hw.own], Agree.share (fun _ _ => rfl) w true t, ?_, ?_⟩
  · intro hbound
    obtain ⟨hretired, hcontrol⟩ := hw.socket (by simpa using hbound)
    obtain ⟨-, heffect⟩ := h.socket
    rw [hretired, hfile] at heffect
    generalize ht : t.main.stage = b at heffect
    generalize t.files = g at heffect
    cases heffect with
    | keep stage control _ =>
      have hb : b = .retired := stage.elim id fun hs => hs.2.2
      exact ⟨by simp [ht, hb], control.trans hcontrol⟩
    | look hs | judge hs | clear hs | bind hs | close hs | remove hs => cases hs
  · intro hest
    obtain ⟨hexited, x, hx⟩ := hw.state (by simpa using hest)
    cases h with
    | device alive | monitor alive | request alive => exact absurd hexited alive
    | main h => cases h with | _ pc => simp [hexited] at pc
    | surroundings e =>
      rw [← hfile] at hx
      cases e <;> exact ⟨by simpa [State.surrounded] using hexited, x, hx⟩

theorem successorStep (hw : Succeeds pid w f) (hok : AwaitsPredecessor w (false, l))
    (h : Step (w false) l t) :
    Succeeds pid (share State.files State.withFiles w false t) t.files := by
  have hfile := hw.files false
  obtain ⟨hpid, heffect⟩ := h.socket
  rw [hw.own] at hpid
  refine ⟨by simp [hpid], Agree.share (fun _ _ => rfl) w false t, ?_, ?_⟩
  · intro hbound
    have hbound' : t.main.stage = .bound := by simpa using hbound
    by_cases hs : (w false).main.stage = .bound
    · obtain ⟨hretired, hcontrol⟩ := hw.socket hs
      rw [hs, hbound', hfile] at heffect
      generalize t.files = g at heffect
      cases heffect with
      | keep _ control _ => exact ⟨by simp [hretired], control.trans hcontrol⟩
      | bind hs => cases hs
    · have hretired := hok.bind (by rw [h.binds hs hbound'])
      rw [hbound', hfile, hw.own] at heffect
      generalize t.files = g at heffect
      cases heffect with
      | keep stage _ _ =>
        rcases stage with hstage | ⟨-, -, hstage⟩
        · exact absurd hstage.symm hs
        · cases hstage
      | bind _ free => exact ⟨by simp [hretired], rfl⟩
  · intro hest
    rcases h.established (by simpa using hest) with ⟨hs, hkeeps⟩ | ⟨hmain, rfl, x, hx⟩
    · obtain ⟨hexited, x, hx⟩ := hw.state hs
      refine ⟨by simp [hexited], ?_⟩
      rcases hkeeps with hsame | ⟨y, hy⟩
      · exact ⟨x, by rw [hsame, hfile, hx]⟩
      · exact ⟨y, by rw [hy, hw.own]⟩
    · exact ⟨by simp [hok.persist rfl hmain], x, by rw [hx, hw.own]⟩

theorem reached {predecessor : State} {config : Config}
    (h : Reachable (Guarded WorldStep AwaitsPredecessor)
      (· = World.beside predecessor (State.start pid config predecessor.files)) w) :
    ∃ f, Succeeds pid w f := by
  refine h.invariant (I := fun w => ∃ f, Succeeds pid w f) ?_ ?_
  · rintro w rfl
    refine ⟨predecessor.files, rfl, ?_, Stage.noConfusion, Bool.noConfusion⟩
    intro i
    cases i <;> rfl
  · rintro w ⟨i, l⟩ w' ⟨hstep, hok⟩ ⟨f, hw⟩
    cases hstep with
    | @step _ _ t h =>
      cases i with
      | true => exact ⟨t.files, hw.predecessorStep h⟩
      | false => exact ⟨t.files, hw.successorStep hok h⟩

end Succeeds

/-- A daemon is started beside a predecessor in whatever state. If it binds the control socket only
when the predecessor leaves the path alone and writes the state file only when the predecessor has
exited, then both are its own from then on, until it closes its listener. -/
theorem successor_left_alone {predecessor : State} {pid : ℕ} {config : Config} {w : World}
    (h : Reachable (Guarded WorldStep AwaitsPredecessor)
      (· = World.beside predecessor (State.start pid config predecessor.files)) w) :
    ((w false).main.stage = .bound → (w false).files.control = .socket pid) ∧
      ((w false).main.established = true → (w false).files.control = .socket pid ∧
        ∃ x, (w false).files.stateFile = some ⟨pid, x⟩) := by
  obtain ⟨f, hw⟩ := Succeeds.reached h
  have hfile := hw.files false
  rw [hfile]
  refine ⟨fun hbound => (hw.socket hbound).2, fun hest => ?_⟩
  exact ⟨(hw.socket (Main.bound_of_established hest)).2, (hw.state hest).2⟩

/-- `shutdown`, from its first section until it has closed the control listener. -/
def releasing : List Label :=
  [.main .next, .main .next, .monitor .cancel] ++ List.replicate 8 (.main .next)

/-- A serving daemon is stopped and gets as far as closing its control listener. -/
def closingDown : List Label :=
  [.surroundings .cancelContext, .main (.exit .ctxDone)] ++ releasing

/-- It removes its mapping and the control path, and finds no failure. -/
def unmapping : List Label := [.main .next, .main (.remove true), .main .next, .main .next]

def cleaningUp : List Label := unmapping ++ [.main .next]

def comingUp : List Label :=
  [.main (.ensurePaths true), .main (.listenDevice (some 40001)), .main (.lstat true),
    .main (.bind true), .main (.chmod true), .main .next, .main .next]

/-- The listener is closed and `hdc` has yet to remove the mapping. -/
structure ClosedDown (s : State) : Prop where
  place : ∃ taken, s.main = .closingProxy taken ∧ taken.proxy = none
  added : s.mappingAdded = true
  healthy : s.snapshot.daemon = .stopping

section
variable {s : State} (watched : s.monitoring = true) (waiting : s.monitor = .waiting false)
  (added : s.mappingAdded = true) (proxy : s.proxySession = none)
  (healthy : s.snapshot.daemon ≠ .failed)
include watched waiting added proxy healthy

theorem releasing_run (pc : s.main = .takingSessions) : ∃ t, Run Step s releasing t ∧
    ClosedDown t ∧ t.files = (s.files.writeState s.pid t.snapshot).closeListener s.pid ∧
    t.requests = s.requests := by
  -- with the fields substituted every step of the schedule is closed by computation
  obtain ⟨pid, config, files, sessions, snapshot, previous, mapping, mappingAdded, proxySession,
    monitoring, cancelled, ctxDone, stopRequested, acceptingDevice, acceptingControl, calls,
    requests, monitor, main⟩ := s
  cases pc
  cases watched
  cases waiting
  cases added
  cases proxy
  have hstopping : (publishStopping snapshot).daemon = .stopping := by
    rw [publishStopping, if_neg healthy]
    rfl
  exact ⟨_, .cons (.main (.takeSessions rfl)) <| .cons (.main (.cancelMonitor rfl)) <|
    .cons (.monitor Main.noConfusion (.cancel rfl (by simp [takeSessions]))) <|
    .cons (.main (.awaitMonitor rfl fun _ => rfl)) <| .cons (.main (.publishStopping rfl)) <|
    .cons (.main (.sendStop rfl)) <| .cons (.main (.closeData rfl)) <|
    .cons (.main (.closeRelay rfl)) <| .cons (.main (.closeControl rfl)) <|
    .cons (.main (.closeDeviceListener rfl)) <| .cons (.main (.closeControlListener rfl)) <|
    .nil _, ⟨⟨_, rfl, rfl⟩, rfl, hstopping⟩, rfl, rfl⟩

theorem closingDown_run (pc : s.main = .serving) : ∃ t, Run Step s closingDown t ∧ ClosedDown t ∧
    t.files.control = .absent ∧ t.files.writable = s.files.writable := by
  obtain ⟨t, ht, hclosed, hfiles, -⟩ := releasing_run
    (s := { s with ctxDone := true }.withMain .takingSessions) watched waiting added proxy healthy rfl
  refine ⟨t, .cons (.surroundings .cancelContext) (.cons (.main (.ctxDone pc rfl)) ht), hclosed, ?_, ?_⟩
  · rw [hfiles, Files.closeListener]
  · rw [hfiles, Files.closeListener, Files.writeState]
    split <;> rfl

end

theorem unmapping_run {s : State} (h : ClosedDown s) : ∃ t, Run Step s unmapping t ∧
    t.main = .removingState ∧ t.snapshot = s.snapshot ∧ t.files = s.files.removeControl := by
  obtain ⟨taken, pc, proxy⟩ := h.place
  have hcheck : ∃ u, Run Step s [.main .next, .main (.remove true), .main .next] u ∧
      u.main = .checkingFailure ∧ u.snapshot = s.snapshot ∧ u.files = s.files.removeControl :=
    ⟨_, .cons (.main (.noProxySession pc proxy)) <|
      .cons (.main (.removeMapping (s := s.withMain .removingMapping) rfl h.added true)) <|
      .cons (.main (.removeSocket rfl)) <| .nil _, rfl, rfl, rfl⟩
  obtain ⟨u, hrun, hmain, hsnap, hfiles⟩ := hcheck
  have hstep := MainStep.checkFailure hmain
  simp only [hsnap, h.healthy, reduceCtorEq, ↓reduceIte] at hstep
  exact ⟨_, hrun.snoc (.main hstep), rfl, hsnap, hfiles⟩

theorem cleaningUp_run {s : State} (h : ClosedDown s) : ∃ t, Run Step s cleaningUp t ∧
    t.main = .finished ∧ t.files.control = .absent ∧ t.files.stateFile = none ∧
    t.files.writable = s.files.writable := by
  obtain ⟨u, hrun, hmain, -, hfiles⟩ := unmapping_run h
  refine ⟨_, hrun.snoc (.main (.removeState hmain)), rfl, ?_, rfl, ?_⟩
  · simp [hfiles, Files.removeState, Files.removeControl]
  · simp [hfiles, Files.removeState, Files.removeControl]

theorem servingState_closingDown : ∃ t, Run Step servingState closingDown t ∧ ClosedDown t ∧
    t.files.control = .absent ∧ t.files.writable = true :=
  closingDown_run (s := servingState) rfl rfl rfl rfl DaemonStatus.noConfusion rfl

theorem comingUp_run (pid : ℕ) (config : Config) {files : Files} (free : files.control = .absent)
    (writable : files.writable = true) : ∃ t, Run Step (State.start pid config files) comingUp t ∧
    t.main = .recoveringProxy := by
  obtain ⟨control, listening, stateFile, canWrite⟩ := files
  cases free
  cases writable
  exact ⟨_, .cons (.main (.ensurePaths rfl true)) <| .cons (.main (.listenDevice rfl 40001)) <|
    .cons (.main (.lstat rfl true)) <| .cons (.main (.bind rfl rfl)) <|
    .cons (.main (.chmod rfl true)) <| .cons (.main (.readState rfl)) <|
    .cons (.main (.persist rfl rfl)) <| .nil _, rfl⟩

/-- Steps of the predecessor are not restricted, and after its exit nothing is. -/
theorem World.awaits_exited {w w' : World} {ls : List Label} (hw : (w true).main = .exited)
    (h : Run WorldStep w (ls.map (Prod.mk false)) w') :
    Run (Guarded WorldStep AwaitsPredecessor) w (ls.map (Prod.mk false)) w' := by
  induction ls generalizing w with
  | nil =>
    cases h
    exact .nil _
  | cons l ls ih =>
    cases h with
    | cons hs hrest =>
      refine .cons ⟨hs, fun _ => by rw [hw]; rfl, fun _ _ => hw⟩ (ih ?_ hrest)
      cases hs with
      | step h => simpa using hw

/-- Daemon 1 has exited when daemon 2 comes up. -/
theorem successor_left_alone_restarted : ∃ w, Reachable (Guarded WorldStep AwaitsPredecessor)
      (· = World.beside servingState (State.start 2 plainConfig servingState.files)) w ∧
    (w true).main = .exited ∧ (w false).main.established = true ∧
    (w false).files.control = .socket 2 ∧ ∃ x, (w false).files.stateFile = some ⟨2, x⟩ := by
  obtain ⟨s, hs, hclosed, -, hwritable⟩ := servingState_closingDown
  obtain ⟨u, hu, hdone, hgone, -, hwritable'⟩ := cleaningUp_run hclosed
  have hexit := (hs.append hu).snoc (.main (.exit hdone))
  obtain ⟨t, ht, hup⟩ := comingUp_run 2 plainConfig hgone (hwritable'.trans hwritable)
  obtain ⟨hrun₁, hagree₁⟩ := World.run (i := true) hexit
    (show World.beside servingState (State.start 2 plainConfig servingState.files) true = _ from rfl)
    (by rintro (_ | _) <;> rfl)
  obtain ⟨hrun₂, -⟩ := World.run (i := false) ht
    (show _ = State.start 2 plainConfig u.files from rfl) hagree₁
  have hguarded : Run (Guarded WorldStep AwaitsPredecessor) _ _ _ := hrun₁.guarded fun l hl w => by
    obtain ⟨_, -, rfl⟩ := List.mem_map.mp hl
    exact ⟨by simp, by simp⟩
  have hreached : Reachable (Guarded WorldStep AwaitsPredecessor)
      (· = World.beside servingState (State.start 2 plainConfig servingState.files)) _ :=
    ⟨_, _, rfl, hguarded.append (World.awaits_exited (by simp) hrun₂)⟩
  have hest : t.main.established = true := by rw [hup]; rfl
  have hown := (successor_left_alone hreached).2 (by simpa using hest)
  exact ⟨_, hreached, by simp, by simpa using hest, hown⟩

theorem servingState_reached : Reached servingState :=
  ⟨_, _, ⟨1, plainConfig, emptyFiles, rfl⟩, servingState_run⟩

/-- Daemon 2 comes up while daemon 1 waits for `hdc`: it is running, but its socket and its state
file are gone when daemon 1 has finished. -/
theorem successor_files_removed : Reached servingState ∧ ∃ w,
    Run WorldStep (World.beside servingState (State.start 2 plainConfig servingState.files))
      (closingDown.map (Prod.mk true) ++ comingUp.map (Prod.mk false) ++
        cleaningUp.map (Prod.mk true)) w ∧
    (w true).main = .finished ∧ (w false).main.established = true ∧
    (w false).files.control = .absent ∧ (w false).files.stateFile = none := by
  obtain ⟨s, hs, hclosed, hcontrol, hwritable⟩ := servingState_closingDown
  obtain ⟨t, ht, hup⟩ := comingUp_run 2 plainConfig hcontrol hwritable
  have hclosed' : ClosedDown (s.withFiles t.files) := ⟨hclosed.place, hclosed.added, hclosed.healthy⟩
  obtain ⟨u, hu, hdone, hgone, hstate, -⟩ := cleaningUp_run hclosed'
  obtain ⟨hrun₁, hagree₁⟩ := World.run (i := true) hs
    (show World.beside servingState (State.start 2 plainConfig servingState.files) true = _ from rfl)
    (by rintro (_ | _) <;> rfl)
  obtain ⟨hrun₂, hagree₂⟩ := World.run (i := false) ht
    (show _ = State.start 2 plainConfig s.files from rfl) hagree₁
  obtain ⟨hrun₃, -⟩ := World.run (i := true) hu (show _ = s.withFiles t.files from rfl) hagree₂
  refine ⟨servingState_reached, _, (hrun₁.append hrun₂).append hrun₃, ?_, ?_, ?_, ?_⟩
  · simpa using hdone
  · simp [hup, Main.established, Main.stage]
  · simpa using hgone
  · simpa using hstate

end HarmonyNetBridge.Daemon
