import HarmonyNetBridge.Harmony.ExtensionOwnership

/-! When a stop is terminal: the states from which `runPhase3` starts no further session. -/
namespace HarmonyNetBridge.Harmony
open Transition

/-- The terminal reason in the finally block of `runPhase3` and after it. -/
def Phase3.terminalReason : Phase3 → Option JsString
  | finalCleanup reason => some reason
  | publishing reason => some reason
  | stoppingOwn reason => some reason
  | returned reason => some reason
  | _ => none

/-- The race of `runVpnSession` is on, or is the next task. -/
def Phase3.atRace : Phase3 → Bool
  | session .racing => true
  | session (.reportActive sent) => !sent
  | _ => false

/-- `runPhase3` will start no further session: a stop that it looks at has come, its loop is left, its
race is won by a terminal reason or `connect` waits for a handshake that nothing settles. -/
inductive Sealed (s : VpnExtension) : Prop
  | destroyed (requested : s.destroyRequested = true)
  | uiStopped (settled : s.uiStop.isSome = true)
  | left {reason : JsString} (final : s.phase3.terminalReason = some reason)
  | ending {reason : JsValue} (here : s.phase3.atRace = true)
      (settled : (s.control s.attempt).stop = some reason) (terminal : retries reason = false)
  | hung (here : s.phase3 = .session .handshaking) (hung : (s.control s.attempt).Hung)

def StartsNone (s : VpnExtension) : Prop :=
  ∀ ls t, Run ExtensionStep s ls t → ∀ l ∈ ls, ¬ ∃ k, l = .start k

section moves
variable {s t : VpnExtension} {turn : Turn} {l : ExtensionLabel}

/-- Only the retry timer starts a session, and only while the loop goes on. -/
theorem ExtensionMove.start_inv {k : ℕ} (h : ExtensionMove s turn (.start k) t) :
    turn = .event ∧ s.phase3 = .retryWait ∧ s.destroyRequested = false := by
  generalize hl : ExtensionLabel.start k = l at h
  cases h with
  | start here goes => exact ⟨rfl, here, goes⟩
  | @control _ l _ _ _ => cases l <;> simp [ExtensionLabel.ofControl] at hl
  | _ => simp at hl

theorem resolveUIStop_isSome (s : VpnExtension) (reason : JsString)
    (h : s.uiStop.isSome = true) : (s.resolveUIStop reason).uiStop.isSome = true := by
  unfold VpnExtension.resolveUIStop
  dsimp only
  split_ifs
  · rfl
  · exact h

/-- A stop that is delivered while the promise has its resolver settles it. -/
theorem resolveUIStop_delivered {s : VpnExtension} {reason : JsString}
    (h : s.uiStopResolve = true ∨ s.uiStop.isSome = true) :
    (s.resolveUIStop reason).uiStop.isSome = true := by
  obtain hres | hsome := h
  · simp [VpnExtension.resolveUIStop, hres]
  · exact resolveUIStop_isSome s reason hsome

/-- A requested destruction and a settled stop promise stay. -/
theorem ExtensionMove.keeps_stop (h : ExtensionMove s turn l t) :
    (s.destroyRequested = true → t.destroyRequested = true) ∧
      (s.uiStop.isSome = true → t.uiStop.isSome = true) := by
  obtain hsame | rfl | ⟨reason, rfl⟩ | rfl | rfl := h.loop_cases
  · rw [hsame.destroyRequested, hsame.uiStop]
    exact ⟨id, id⟩
  · exact ⟨id, id⟩
  · exact ⟨id, id⟩
  · exact ⟨id, resolveUIStop_isSome s _⟩
  · rw [onDestroy_eq]
    exact ⟨fun _ => rfl, resolveUIStop_isSome s _⟩

/-- The finally block of `runPhase3` is not left, and its reason is fixed. -/
theorem ExtensionMove.keeps_terminalReason {reason : JsString} (h : ExtensionMove s turn l t)
    (hfinal : s.phase3.terminalReason = some reason) : t.phase3.terminalReason = some reason := by
  cases h with
  | @cleaned r here done =>
    rw [here] at hfinal
    show Phase3.terminalReason (if reportsStopped r then _ else _) = some reason
    split_ifs <;> exact hfinal
  | published here =>
    rw [here] at hfinal
    exact hfinal
  | ownStopped here =>
    rw [here] at hfinal
    exact hfinal
  | control _ _ => exact hfinal
  | uiStop _ => exact hfinal
  | onDestroy _ =>
    rw [onDestroy_eq]
    simpa using hfinal
  | destroySettled _ => simpa using hfinal
  | stoppedReported _ => exact hfinal
  | closed _ => exact hfinal
  | _ => simp_all [Phase3.terminalReason]

end moves

variable {s t : VpnExtension} {reason : JsValue} {turn : Turn} {l : ExtensionLabel}

/-- A session that returns a terminal reason ends the loop. -/
theorem sessionReturns_terminal (h : retries reason = false) :
    ∃ text, reason = .string text ∧ s.sessionReturns reason = s.finish text := by
  cases reason with
  | string text => exact ⟨text, rfl, by simp [VpnExtension.sessionReturns, h]⟩
  | other => simp [retries] at h

/-- A race that a terminal reason has won is the next thing that `runPhase3` sees. -/
theorem sealed_of_ending (h : ExtensionMove s turn l t) (hquiet : turn = .event → s.ready = false)
    (here : s.phase3.atRace = true) (settled : (s.control s.attempt).stop = some reason)
    (terminal : retries reason = false) : Sealed t := by
  have hrace : s.raceResult = some reason := by simp [VpnExtension.raceResult, settled]
  have hready : s.ready = true := by
    unfold Phase3.atRace at here
    split at here <;> simp_all [VpnExtension.ready, VpnExtension.mainReady]
  have hturn : turn ≠ .event := fun he => by simp [hquiet he] at hready
  cases h with
  | activeReported _ => exact .ending rfl settled terminal
  | returns _ hreason =>
    obtain rfl : reason = _ := Option.some.inj (hrace.symm.trans hreason)
    obtain ⟨text, -, hfinish⟩ := sessionReturns_terminal (s := s) terminal
    rw [hfinish]
    exact .left rfl
  | @stoppedReported k _ _ =>
    have htouched := cleanupSession_touched s false (some k) s.attempt
    exact .ending here (htouched.stop reason settled) terminal
  | closed _ => exact .ending here settled terminal
  | _ => simp_all [Phase3.atRace]

/-- A handshake that nothing settles keeps `connect` waiting. -/
theorem sealed_of_hung (h : ExtensionMove s turn l t) (here : s.phase3 = .session .handshaking)
    (hung : (s.control s.attempt).Hung) : Sealed t := by
  cases h with
  | handshaken _ settled => simp [hung.1] at settled
  | rejected _ settled => simp [hung.1] at settled
  | @setupFails pc here' fails =>
    rw [here, Phase3.session.injEq] at here'
    subst here'
    simp [SessionPc.mayFail] at fails
  | @control k _ c _ moves =>
    refine .hung here ?_
    show ((s.setControl k c).control s.attempt).Hung
    rw [setControl_control]
    split_ifs with hk
    · subst hk
      exact moves.grows.hung hung
    · exact hung
  | uiStop _ => exact .hung here hung
  | onDestroy _ =>
    rw [onDestroy_eq]
    exact .destroyed rfl
  | @destroySettled session report _ =>
    have hsame := s.cleanupSession_sameLoop session report
    refine .hung ((cleanupSession_phase3 s report session).trans here) ?_
    rw [hsame.attempt]
    exact (cleanupSession_touched s report session s.attempt).hung hung
  | @stoppedReported k _ _ =>
    exact .hung here ((cleanupSession_touched s false (some k) s.attempt).hung hung)
  | closed _ => exact .hung here hung
  | _ => simp_all

theorem sealed_step (h : ExtensionStep s l t) (hs : Sealed s) : Sealed t ∧ ¬ ∃ k, l = .start k := by
  obtain ⟨turn, hmove, hquiet⟩ := h.move
  constructor
  · cases hs with
    | destroyed requested => exact .destroyed (hmove.keeps_stop.1 requested)
    | uiStopped settled => exact .uiStopped (hmove.keeps_stop.2 settled)
    | left final => exact .left (hmove.keeps_terminalReason final)
    | ending here settled terminal => exact sealed_of_ending hmove hquiet here settled terminal
    | hung here hung => exact sealed_of_hung hmove here hung
  · rintro ⟨k, rfl⟩
    obtain ⟨hturn, hwait, hgoes⟩ := hmove.start_inv
    cases hs with
    | destroyed requested => simp [requested] at hgoes
    | uiStopped settled =>
      -- the timer is an event, and the settled promise is a task before it
      have hready := hquiet hturn
      simp [VpnExtension.ready, VpnExtension.mainReady, hwait] at hready
      simp [hready.1] at settled
    | left final => simp [hwait, Phase3.terminalReason] at final
    | ending here _ _ => simp [hwait, Phase3.atRace] at here
    | hung here _ => simp [hwait] at here

theorem startsNone_of_sealed (h : Sealed s) : StartsNone s := by
  intro ls t hrun
  exact hrun.avoids (fun _ _ _ => sealed_step) h

def CanStart (s : VpnExtension) : Prop :=
  ∃ ls t, Run ExtensionStep s ls t ∧ ∃ l ∈ ls, ∃ k, l = .start k

theorem CanStart.before (hstep : ExtensionStep s l t) (h : CanStart t) : CanStart s := by
  obtain ⟨ls, u, hrun, l', hl', hstart⟩ := h
  exact ⟨l :: ls, u, .cons hstep hrun, l', List.mem_cons_of_mem l hl', hstart⟩

theorem ExtensionStep.after {pending : Bool} (h : ExtensionMove s (.after pending) l t)
    (hquiet : pending = true → s.ready = false) : ExtensionStep s l t := by
  cases pending with
  | false => exact .task h
  | true => exact .event h (hquiet rfl)

/-- No stop that `runPhase3` looks at has come. -/
structure Going (s : VpnExtension) : Prop where
  owned : Owned s
  goes : s.destroyRequested = false
  unstopped : s.uiStop = none

namespace Going
variable {s t : VpnExtension} {turn : Turn} {l : ExtensionLabel}

theorem next (h : Going s) (hmove : ExtensionMove s turn l t) (hsame : SameLoop s t) : Going t :=
  ⟨.move hmove h.owned, hsame.destroyRequested.trans h.goes, hsame.uiStop.trans h.unstopped⟩

theorem no_cleanup (h : Going s) (hp : s.phase3.cleaning = false) : s.cleanup = none :=
  (h.owned.idle hp).resolve_right (by simp [h.goes])

theorem quiet (h : Going s) (hp : s.phase3.cleaning = false) (hmain : s.mainReady = false) :
    s.ready = false := by
  simp [VpnExtension.ready, hmain, VpnExtension.cleanupReady, h.no_cleanup hp]

theorem canStart_retryWait (h : Going s) (here : s.phase3 = .retryWait) : CanStart s := by
  have hquiet : s.ready = false := by
    apply h.quiet
    · simp [here, Phase3.cleaning]
    · simp [VpnExtension.mainReady, here, h.unstopped]
  exact ⟨_, _, .single (.event (.start here h.goes) hquiet), _, List.mem_singleton_self _, _, rfl⟩

theorem canStart_cleaned (h : Going s) (here : s.phase3 = .recoveryCleanup)
    (hc : s.cleanup = none) : CanStart s := by
  have hmove := ExtensionMove.recovered here hc
  exact .before (.task hmove) (canStart_retryWait (h.next hmove ⟨rfl, rfl, rfl, rfl, rfl⟩) rfl)

theorem canStart_closing (h : Going s) (here : s.phase3 = .recoveryCleanup) {pending : Bool}
    (hc : s.cleanup = some (.closing pending)) : CanStart s := by
  have hmove := ExtensionMove.closed hc
  refine .before (.after hmove ?_)
    (canStart_cleaned (h.next hmove ⟨rfl, rfl, rfl, rfl, rfl⟩) here rfl)
  rintro rfl
  simp [VpnExtension.ready, VpnExtension.mainReady, VpnExtension.cleanupReady, here, hc]

theorem canStart_reporting (h : Going s) (here : s.phase3 = .recoveryCleanup) {k : ℕ} {sent : Bool}
    (hc : s.cleanup = some (.reporting k sent)) : CanStart s := by
  have hmove := ExtensionMove.stoppedReported hc
  refine .before (.after hmove ?_)
    (canStart_closing (h.next hmove ⟨rfl, rfl, rfl, rfl, rfl⟩) here rfl)
  rintro rfl
  simp [VpnExtension.ready, VpnExtension.mainReady, VpnExtension.cleanupReady, here, hc]

/-- A cleanup ends, whatever its waits end with, and the retry timer fires. -/
theorem canStart_recoveryCleanup (h : Going s) (here : s.phase3 = .recoveryCleanup) :
    CanStart s := by
  cases hc : s.cleanup with
  | none => exact h.canStart_cleaned here hc
  | some c =>
    cases c with
    | closing pending => exact h.canStart_closing here hc
    | reporting k sent => exact h.canStart_reporting here hc
    | destroying session report =>
      have hmove := ExtensionMove.destroySettled hc
      have hnext := h.next hmove (s.cleanupSession_sameLoop session report)
      have hphase := (cleanupSession_phase3 s report session).trans here
      have hquiet : s.ready = false := by
        simp [VpnExtension.ready, VpnExtension.mainReady, VpnExtension.cleanupReady, here, hc]
      refine .before (.event hmove hquiet) ?_
      cases session with
      | none => exact hnext.canStart_cleaned hphase rfl
      | some k =>
        cases report with
        | false => exact hnext.canStart_closing hphase rfl
        | true => exact hnext.canStart_reporting hphase rfl

theorem canStart_recovering (h : Going s) {sent : Bool} (here : s.phase3 = .recovering sent) :
    CanStart s := by
  have hmove := ExtensionMove.recoveryReported here
  refine .before (.after hmove ?_)
    (canStart_recoveryCleanup (h.next hmove s.recover_sameLoop) rfl)
  rintro rfl
  apply h.quiet
  · simp [here, Phase3.cleaning]
  · simp [VpnExtension.mainReady, here]

theorem canStart_sessionFails (h : Going s.sessionFails) (hs : s.destroyRequested = false) :
    CanStart s.sessionFails := by
  have hphase : (∃ sent, s.sessionFails.phase3 = .recovering sent) ∨
      s.sessionFails.phase3 = .recoveryCleanup := by
    unfold VpnExtension.sessionFails
    rw [if_neg (by simp [hs])]
    split
    · exact .inl ⟨_, rfl⟩
    · exact .inr rfl
  obtain ⟨sent, here⟩ | here := hphase
  · exact h.canStart_recovering here
  · exact h.canStart_recoveryCleanup here

theorem canStart_of_fails (h : Going s) (hmove : ExtensionMove s turn l s.sessionFails)
    (hstep : ExtensionStep s l s.sessionFails) : CanStart s :=
  .before hstep ((h.next hmove s.sessionFails_sameLoop).canStart_sessionFails h.goes)

theorem canStart_connectClosing (h : Going s) {pending : Bool}
    (here : s.phase3 = .session (.connectClosing pending)) : CanStart s := by
  have hmove := ExtensionMove.connectClosed here
  refine h.canStart_of_fails hmove (.after hmove ?_)
  rintro rfl
  apply h.quiet
  · simp [here, Phase3.cleaning]
  · simp [VpnExtension.mainReady, here]

theorem canStart_mayFail (h : Going s) {pc : SessionPc} (here : s.phase3 = .session pc)
    (hfails : pc.mayFail = true) : CanStart s := by
  have hmove := ExtensionMove.setupFails here hfails
  refine h.canStart_of_fails hmove (.event hmove (h.quiet ?_ ?_))
  · simp [here, Phase3.cleaning]
  · unfold SessionPc.mayFail at hfails
    split at hfails <;> simp_all [VpnExtension.mainReady]

theorem canStart_reportStarting (h : Going s) {sent : Bool}
    (here : s.phase3 = .session (.reportStarting sent)) : CanStart s := by
  cases sent with
  | true => exact h.canStart_mayFail here rfl
  | false =>
    -- nothing is sent, and `connectData` fails
    have hmove : ExtensionMove s .task .internal s.sessionFails := .startingReported false here
    exact h.canStart_of_fails hmove (.task hmove)

/-- A settled handshake goes on to a call that can fail. -/
theorem canStart_settled (h : Going s) (here : s.phase3 = .session .handshaking) {settled : Bool}
    (hs : (s.control s.attempt).handshake = some settled) : CanStart s := by
  cases settled with
  | true =>
    have hmove := ExtensionMove.handshaken here hs
    exact .before (.task hmove)
      (canStart_reportStarting (h.next hmove ⟨rfl, rfl, rfl, rfl, rfl⟩) rfl)
  | false =>
    have hmove := ExtensionMove.rejected here hs
    exact .before (.task hmove)
      (canStart_connectClosing (h.next hmove ⟨rfl, rfl, rfl, rfl, rfl⟩) rfl)

theorem canStart_of_settling (h : Going s) (here : s.phase3 = .session .handshaking)
    {c : ControlSession} {settled : Bool} (hnone : (s.control s.attempt).handshake = none)
    (hcontrol : ControlStep (s.control s.attempt) none c) (hs : c.handshake = some settled) :
    CanStart s := by
  have hmove : ExtensionMove s .event .internal (s.setControl s.attempt c) :=
    ExtensionMove.control (Nat.le_refl _) hcontrol
  have hquiet : s.ready = false := by
    apply h.quiet
    · simp [here, Phase3.cleaning]
    · simp [VpnExtension.mainReady, here, hnone]
  have hsettled : ((s.setControl s.attempt c).control s.attempt).handshake = some settled := by
    simp [hs]
  exact .before (.event hmove hquiet)
    ((h.next hmove ⟨rfl, rfl, rfl, rfl, rfl⟩).canStart_settled here hsettled)

theorem canStart_handshaking (h : Going s) (here : s.phase3 = .session .handshaking)
    (hung : ¬ (s.control s.attempt).Hung) : CanStart s := by
  cases hs : (s.control s.attempt).handshake with
  | some settled => exact h.canStart_settled here hs
  | none =>
    by_cases hres : (s.control s.attempt).handshakeResolve = true
    · -- the socket fails and rejects the handshake
      have hopened := h.owned.opened h.goes (by rw [here]; rfl)
      have hdone := ((h.owned.ok _).resolve hres).1
      refine h.canStart_of_settling here hs (.socketFails [] hopened) (?_ : _ = some false)
      simp [ControlSession.fail, ControlSession.resolveStop, hopened, hdone, hres]
    · have hwaiting : (s.control s.attempt).awaiting = some .socketFd := by
        by_contra hne
        exact hung ⟨hs, by simpa using hres, hne⟩
      refine h.canStart_of_settling here hs (.socketFd hwaiting) (?_ : _ = some true)
      apply (ControlSession.handleFrames_grows _ _).handshake
      · have hok := h.owned.ok s.attempt
        exact ⟨fun hr => absurd hr hres, hok.socketFd, hok.stopAck⟩
      · simp [hs]

theorem retries_pumpError (errorCode : JsString) :
    retries (.string (jsString "pump_error:" ++ errorCode)) = true := by
  unfold retries
  rw [Bool.or_eq_true_iff]
  exact .inr (List.isPrefixOf_iff_prefix.mpr (List.prefix_append _ _))

theorem sessionReturns_retries {reason : JsValue} (h : retries reason = true) :
    s.sessionReturns reason = s.sessionFails := by
  cases reason <;> simp [VpnExtension.sessionReturns, h]

theorem canStart_racing (h : Going s) (here : s.phase3 = .session .racing)
    (hretries : ∀ reason, (s.control s.attempt).stop = some reason → retries reason = true) :
    CanStart s := by
  cases hs : (s.control s.attempt).stop with
  | some reason =>
    have hrace : s.raceResult = some reason := by simp [VpnExtension.raceResult, hs]
    have hmove := ExtensionMove.returns here hrace
    rw [sessionReturns_retries (hretries reason hs)] at hmove
    exact h.canStart_of_fails hmove (.task hmove)
  | none =>
    have hmove := ExtensionMove.pumpStops [] here rfl
    rw [if_neg (by simp [h.goes]), sessionReturns_retries (retries_pumpError [])] at hmove
    refine h.canStart_of_fails hmove (.event hmove (h.quiet ?_ ?_))
    · simp [here, Phase3.cleaning]
    · simp [VpnExtension.mainReady, VpnExtension.raceResult, here, hs, h.unstopped]

/-- From every other state some failure leads to a further session. -/
theorem canStart (h : Going s) (hs : ¬ Sealed s) : CanStart s := by
  have hretries : s.phase3.atRace = true →
      ∀ reason, (s.control s.attempt).stop = some reason → retries reason = true := by
    intro here reason hreason
    by_contra hne
    exact hs (.ending here hreason (by simpa using hne))
  cases hphase : s.phase3 with
  | session pc =>
    cases pc with
    | connecting =>
      have hmove := ExtensionMove.connectFails hphase
      have hquiet : s.ready = false := by
        apply h.quiet
        · simp [hphase, Phase3.cleaning]
        · simp [VpnExtension.mainReady, hphase]
      exact .before (.event hmove hquiet)
        (canStart_connectClosing (h.next hmove ⟨rfl, rfl, rfl, rfl, rfl⟩) rfl)
    | handshaking => exact h.canStart_handshaking hphase fun hung => hs (.hung hphase hung)
    | connectClosing pending => exact h.canStart_connectClosing hphase
    | reportStarting sent => exact h.canStart_reportStarting hphase
    | protectControl => exact h.canStart_mayFail hphase rfl
    | protectData => exact h.canStart_mayFail hphase rfl
    | generateVpnId => exact h.canStart_mayFail hphase rfl
    | create => exact h.canStart_mayFail hphase rfl
    | reportActive sent =>
      cases sent with
      | true => exact h.canStart_mayFail hphase rfl
      | false =>
        have hmove := ExtensionMove.activeReported hphase
        exact .before (.task hmove)
          ((h.next hmove ⟨rfl, rfl, rfl, rfl, rfl⟩).canStart_racing rfl (hretries (by rw [hphase]; rfl)))
    | racing => exact h.canStart_racing hphase (hretries (by rw [hphase]; rfl))
  | recovering sent => exact h.canStart_recovering hphase
  | recoveryCleanup => exact h.canStart_recoveryCleanup hphase
  | retryWait => exact h.canStart_retryWait hphase
  | finalCleanup reason => exact absurd (.left (by rw [hphase]; rfl)) hs
  | publishing reason => exact absurd (.left (by rw [hphase]; rfl)) hs
  | stoppingOwn reason => exact absurd (.left (by rw [hphase]; rfl)) hs
  | returned reason => exact absurd (.left (by rw [hphase]; rfl)) hs

end Going

/-- The sealed states are exactly those from which no session is started. -/
theorem startsNone_iff {s : VpnExtension}
    (h : Reachable ExtensionStep VpnExtension.Initial s) : StartsNone s ↔ Sealed s := by
  constructor
  · intro hnone
    by_contra hs
    have hgoing : Going s := by
      constructor
      · exact Owned.of_reachable h
      · by_contra hne
        exact hs (.destroyed (by simpa using hne))
      · by_contra hne
        exact hs (.uiStopped (Option.isSome_iff_ne_none.mpr hne))
    obtain ⟨ls, t, hrun, l, hl, hstart⟩ := hgoing.canStart hs
    exact hnone ls t hrun l hl hstart
  · exact startsNone_of_sealed

/-- Where the stop promise can still be waited for, it is settled or has its resolver. -/
theorem resolver_of_subscribed {s : VpnExtension}
    (h : Reachable ExtensionStep VpnExtension.Initial s) :
    s.uiStopSubscriber = true → s.uiStopResolve = true ∨ s.uiStop.isSome = true := by
  refine h.invariant (I := fun s => s.uiStopSubscriber = true →
    s.uiStopResolve = true ∨ s.uiStop.isSome = true) ?_ ?_
  · rintro _ ⟨isolated, rfl⟩
    simp
  · intro s l t hstep hs
    obtain ⟨turn, hmove, -⟩ := hstep.move
    obtain hsame | rfl | ⟨reason, rfl⟩ | rfl | rfl := hmove.loop_cases
    · rw [hsame.uiStopSubscriber, hsame.uiStopResolve, hsame.uiStop]
      exact hs
    · exact hs
    · simp [VpnExtension.cleaned, VpnExtension.unsubscribeFromUIStop]
    · intro hsubscribed
      exact .inr (resolveUIStop_delivered (hs hsubscribed))
    · simp [onDestroy_eq]

section labels
variable {s t : VpnExtension} {turn : Turn}

theorem ExtensionMove.uiStop_inv (h : ExtensionMove s turn .uiStop t) :
    s.uiStopSubscriber = true ∧ t = s.resolveUIStop uiRequested := by
  generalize hl : ExtensionLabel.uiStop = l at h
  cases h with
  | uiStop subscribed => exact ⟨subscribed, rfl⟩
  | @control _ l _ _ _ => cases l <;> simp [ExtensionLabel.ofControl] at hl
  | _ => simp at hl

theorem ExtensionMove.onDestroy_inv (h : ExtensionMove s turn .onDestroy t) :
    s.destroyRequested = false ∧ t = s.onDestroy := by
  generalize hl : ExtensionLabel.onDestroy = l at h
  cases h with
  | onDestroy once => exact ⟨once, rfl⟩
  | @control _ l _ _ _ => cases l <;> simp [ExtensionLabel.ofControl] at hl
  | _ => simp at hl

theorem ExtensionMove.stopAcked_inv {k : ℕ} {reason : JsValue}
    (h : ExtensionMove s turn (.stopAcked k reason) t) :
    turn = .event ∧ ∃ c, ControlStep (s.control k) (some reason) c ∧ t = s.setControl k c := by
  generalize hl : ExtensionLabel.stopAcked k reason = l at h
  cases h with
  | @control j l c _ moves =>
    cases l with
    | none => simp [ExtensionLabel.ofControl] at hl
    | some r =>
      simp only [ExtensionLabel.ofControl, ExtensionLabel.stopAcked.injEq] at hl
      obtain ⟨rfl, rfl⟩ := hl
      exact ⟨rfl, c, moves, rfl⟩
  | _ => simp at hl

end labels

/-- A stop from the UI or from the system is terminal, whatever `runPhase3` and the cleanup wait for
when it comes. -/
theorem stop_startsNone {s t : VpnExtension} {l : ExtensionLabel}
    (hs : Reachable ExtensionStep VpnExtension.Initial s) (hl : l = .uiStop ∨ l = .onDestroy)
    (hstop : ExtensionStep s l t) : StartsNone t := by
  apply startsNone_of_sealed
  obtain ⟨turn, hmove, -⟩ := hstop.move
  obtain rfl | rfl := hl
  · obtain ⟨hsubscribed, rfl⟩ := hmove.uiStop_inv
    exact .uiStopped (resolveUIStop_delivered (resolver_of_subscribed hs hsubscribed))
  · obtain ⟨-, rfl⟩ := hmove.onDestroy_inv
    rw [onDestroy_eq]
    exact .destroyed rfl

/-- The stop comes while `connect` closes its socket after a failure. -/
theorem stop_startsNone_connecting :
    ∃ t, ExtensionStep (VpnExtension.connectFails { isolated := true }) .uiStop t ∧
      StartsNone t := by
  have hfails : ExtensionStep { isolated := true } .internal
      (VpnExtension.connectFails { isolated := true }) := .event (.connectFails rfl) rfl
  have hstop : ExtensionStep (VpnExtension.connectFails { isolated := true }) .uiStop
      ((VpnExtension.connectFails { isolated := true }).resolveUIStop uiRequested) :=
    .event (.uiStop rfl) rfl
  have hreachable : Reachable ExtensionStep VpnExtension.Initial
      (VpnExtension.connectFails { isolated := true }) := (Reachable.start ⟨true, rfl⟩).next hfails
  exact ⟨_, hstop, stop_startsNone hreachable (.inl rfl) hstop⟩

variable {s : VpnExtension}

/-- Where the race is not won and no task is left, the session has no stop reason. -/
theorem stop_none_of_quiet (hquiet : s.ready = false) (here : s.phase3.atRace = true) :
    s.phase3 = .session .racing ∧ (s.control s.attempt).stop = none := by
  unfold Phase3.atRace at here
  split at here
  · simp_all [VpnExtension.ready, VpnExtension.mainReady, VpnExtension.raceResult]
  · simp_all [VpnExtension.ready, VpnExtension.mainReady]
  · simp at here

def acknowledged : ControlSession :=
  { handshakeComplete := true, handshakeResolve := false, handshake := some true }

/-- The first attempt at one of its awaits, with the given state of its control session. -/
def attemptAt (pc : SessionPc) (c : ControlSession) : VpnExtension :=
  VpnExtension.setControl { isolated := false, phase3 := .session pc } 0 c

theorem control_step {c d : ControlSession} {l : Option JsValue} (h : ControlStep c l d)
    (hquiet : (s.setControl 0 c).ready = false) :
    ExtensionStep (s.setControl 0 c) (.ofControl 0 l) (s.setControl 0 d) := by
  have hc : (s.setControl 0 c).control 0 = c := by simp
  have hmove : ExtensionMove (s.setControl 0 c) .event (.ofControl 0 l)
      ((s.setControl 0 c).setControl 0 d) := .control (Nat.zero_le _) (by rw [hc]; exact h)
  have hd : (s.setControl 0 c).setControl 0 d = s.setControl 0 d := by
    simp [VpnExtension.setControl]
  rw [hd] at hmove
  exact .event hmove hquiet

theorem protecting_run : Run ExtensionStep { isolated := false }
    [.internal, .internal, .internal, .internal, .internal]
    (attemptAt .protectControl acknowledged) := by
  let greeted : ControlSession := ControlSession.handleFrames [.helloAck] {}
  have hinit : attemptAt .connecting {} = { isolated := false } := by
    simp [attemptAt, VpnExtension.setControl]
  have hconnected : ExtensionStep (attemptAt .connecting {}) .internal
      (attemptAt .handshaking {}) := .event (.connected rfl) rfl
  have hgreeted : ExtensionStep (attemptAt .handshaking {}) .internal
      (attemptAt .handshaking greeted) := control_step (.chunk [.helloAck] rfl rfl) rfl
  have hsocket : ExtensionStep (attemptAt .handshaking greeted) .internal
      (attemptAt .handshaking acknowledged) := control_step (.socketFd rfl) rfl
  have hshaken : ExtensionStep (attemptAt .handshaking acknowledged) .internal
      (attemptAt (.reportStarting true) acknowledged) := .task (.handshaken rfl rfl)
  have hstarting : ExtensionStep (attemptAt (.reportStarting true) acknowledged) .internal
      (attemptAt .protectControl acknowledged) := .after (.startingReported true rfl) fun _ => rfl
  rw [← hinit]
  exact .cons hconnected (.cons hgreeted (.cons hsocket (.cons hshaken (.single hstarting))))

theorem creating_run : Run ExtensionStep { isolated := false }
    ([.internal, .internal, .internal, .internal, .internal] ++ [.internal, .internal])
    (attemptAt .create acknowledged) := by
  have hcontrol : ExtensionStep (attemptAt .protectControl acknowledged) .internal
      (attemptAt .protectData acknowledged) := .event (.controlProtected rfl) rfl
  have hdata : ExtensionStep (attemptAt .protectData acknowledged) .internal
      (attemptAt .create acknowledged) := .event (.dataProtected rfl) rfl
  exact protecting_run.append (.cons hcontrol (.single hdata))

/-- The first attempt with its connection created, at one of its awaits. -/
def createdAt (pc : SessionPc) : VpnExtension :=
  { VpnExtension.setVpn { isolated := false, vpnCreated := true } 0 { created := true } with
    phase3 := .session pc }

def setupLabels : List ExtensionLabel :=
  [.internal, .internal, .internal, .internal, .internal] ++ [.internal, .internal]

theorem active_run : Run ExtensionStep { isolated := false }
    (setupLabels ++ [.created 0, .internal])
    ((createdAt .racing).setControl 0 acknowledged) := by
  have hcreate : ExtensionStep (attemptAt .create acknowledged) (.created 0)
      ((createdAt (.reportActive true)).setControl 0 acknowledged) :=
    .event (.vpnCreates true rfl) rfl
  have hactive : ExtensionStep ((createdAt (.reportActive true)).setControl 0 acknowledged)
      .internal ((createdAt .racing).setControl 0 acknowledged) :=
    .after (.activeReported rfl) fun _ => rfl
  exact creating_run.append (.cons hcreate (.single hactive))

def stopping : ControlSession :=
  { acknowledged with awaiting := some (.stopAck (some (.string userRequested))) }

def stopped : ControlSession := { acknowledged with stop := some (.string userRequested) }

theorem stopAcked_run (h₀ : (s.setControl 0 acknowledged).ready = false)
    (h₁ : (s.setControl 0 stopping).ready = false) :
    ExtensionStep (s.setControl 0 acknowledged) .internal (s.setControl 0 stopping) ∧
      ExtensionStep (s.setControl 0 stopping) (.stopAcked 0 (.string userRequested))
        (s.setControl 0 stopped) :=
  ⟨control_step (.chunk [.stopRequest (some (.string userRequested))] rfl rfl) h₀,
    control_step (.acked rfl) h₁⟩

/-- An acknowledged `STOP_REQUEST` is terminal just when the extension was sealed before, or when the
attempt of this session waits in its race and the reason is not one that it retries. -/
theorem stopAcked_startsNone_iff {s t : VpnExtension} {k : ℕ} {reason : JsValue}
    (hs : Reachable ExtensionStep VpnExtension.Initial s)
    (hack : ExtensionStep s (.stopAcked k reason) t) : StartsNone t ↔
      Sealed s ∨ (s.phase3 = .session .racing ∧ k = s.attempt ∧ retries reason = false) := by
  rw [startsNone_iff (hs.next hack)]
  obtain ⟨turn, hmove, hevent⟩ := hack.move
  obtain ⟨hturn, c, hcontrol, rfl⟩ := hmove.stopAcked_inv
  have hquiet := hevent hturn
  have hok := (Owned.of_reachable hs).ok k
  constructor
  · intro hsealed
    cases hsealed with
    | destroyed requested => exact .inl (.destroyed requested)
    | uiStopped settled => exact .inl (.uiStopped settled)
    | left final => exact .inl (.left final)
    | ending here settled terminal =>
      obtain ⟨hracing, hnone⟩ := stop_none_of_quiet hquiet here
      right
      change ((s.setControl k c).control s.attempt).stop = _ at settled
      rw [setControl_control] at settled
      split_ifs at settled with hk
      · subst hk
        rw [hcontrol.acked_stop hnone, Option.some.injEq] at settled
        exact ⟨hracing, rfl, settled ▸ terminal⟩
      · simp [hnone] at settled
    | hung here hung =>
      left
      change ((s.setControl k c).control s.attempt).Hung at hung
      rw [setControl_control] at hung
      split_ifs at hung with hk
      · subst hk
        exact .hung here ((hcontrol.acked_hung hok).mp hung)
      · exact .hung here hung
  · rintro (hsealed | ⟨here, rfl, hterminal⟩)
    · exact (sealed_step hack hsealed).1
    · have hrace : s.phase3.atRace = true := by rw [here]; rfl
      obtain ⟨-, hnone⟩ := stop_none_of_quiet hquiet hrace
      refine .ending hrace ?_ hterminal
      show ((s.setControl s.attempt c).control s.attempt).stop = some reason
      simp [hcontrol.acked_stop hnone]

/-- The request comes while the first attempt waits in its race. -/
theorem stopAcked_startsNone_active :
    ∃ s t : VpnExtension, Reachable ExtensionStep VpnExtension.Initial s ∧
      ExtensionStep s (.stopAcked 0 (.string userRequested)) t ∧ StartsNone t := by
  obtain ⟨hread, hack⟩ := stopAcked_run (s := createdAt .racing) rfl rfl
  have hreachable : Reachable ExtensionStep VpnExtension.Initial
      ((createdAt .racing).setControl 0 stopping) :=
    ⟨_, _, ⟨false, rfl⟩, active_run.snoc hread⟩
  exact ⟨_, _, hreachable, hack,
    (stopAcked_startsNone_iff hreachable hack).mpr (.inr ⟨rfl, rfl, by decide⟩)⟩

/-- The request is acknowledged while `protect` is pending; `protect` fails and `runPhase3` starts
another session. -/
theorem stopAcked_then_start :
    ∃ s t u : VpnExtension, Reachable ExtensionStep VpnExtension.Initial s ∧
      ExtensionStep s (.stopAcked 0 (.string userRequested)) t ∧
      Run ExtensionStep t [.internal, .internal, .internal, .internal, .start 1] u := by
  obtain ⟨hread, hack⟩ :=
    stopAcked_run (s := { isolated := false, phase3 := .session .protectControl }) rfl rfl
  let t : VpnExtension := attemptAt .protectControl stopped
  let cleaned : VpnExtension := { t.sessionFails.recover with cleanup := none }
  let waiting : VpnExtension := { cleaned with phase3 := .retryWait }
  have hfails : ExtensionStep t .internal t.sessionFails := .event (.setupFails rfl rfl) rfl
  have hreported : ExtensionStep t.sessionFails .internal t.sessionFails.recover :=
    .after (.recoveryReported rfl) fun _ => rfl
  have hclosed : ExtensionStep t.sessionFails.recover .internal cleaned :=
    .after (.closed rfl) fun _ => rfl
  have hrecovered : ExtensionStep cleaned .internal waiting := .task (.recovered rfl rfl)
  have hstart : ExtensionStep waiting (.start 1) waiting.startSession :=
    .event (.start rfl rfl) rfl
  exact ⟨_, t, _, ⟨_, _, ⟨false, rfl⟩, protecting_run.snoc hread⟩, hack,
    .cons hfails (.cons hreported (.cons hclosed (.cons hrecovered (.single hstart))))⟩

end HarmonyNetBridge.Harmony
