import HarmonyNetBridge.Harmony.VpnLifetime

/-! Which control sessions get `STOPPED` before they are closed: the one whose attempt has returned the
terminal reason before `onDestroy`. -/
namespace HarmonyNetBridge.Harmony
open Transition

/-- A cleanup destroys the tunnel and will then report `STOPPED` on the session. -/
def Pending (s : VpnExtension) (k : ℕ) : Prop := s.cleanup = some (.destroying (some k) true)

/-- `STOPPED` was reported on the session before its `close`, or will be. -/
def Owes (s : VpnExtension) (k : ℕ) : Prop := (s.control k).stopped = true ∨ Pending s k

/-- The last phases of `runPhase3`, after its cleanup. -/
def Phase3.cleaned : Phase3 → Bool
  | publishing _ => true
  | stoppingOwn _ => true
  | returned _ => true
  | _ => false

/-- Only the cleanup of the finally block reports, and nothing has closed its session. -/
structure Reporting (s : VpnExtension) : Prop where
  final : ∀ k, Pending s k → ∃ reason, s.phase3 = .finalCleanup reason
  opened : ∀ k, Pending s k → (s.control k).closing = false
  done : s.phase3.cleaned = true → s.cleanup = none

section cleanup
variable {s : VpnExtension} (report : Bool)

theorem not_pending_of_none (h : s.cleanup = none) (k : ℕ) : ¬ Pending s k := by
  simp [Pending, h]

theorem cleanupSession_not_pending (session : Option ℕ) (k : ℕ) :
    ¬ Pending (s.cleanupSession session report) k := by
  unfold Pending VpnExtension.cleanupSession VpnExtension.cleanupClose
  split <;> simp

/-- The report is made before `close` unless the session is closed. -/
theorem cleanupSession_stopped (session : Option ℕ) (k : ℕ) :
    ((s.cleanupSession session report).control k).stopped = true ↔
      (s.control k).stopped = true ∨
        (session = some k ∧ report = true ∧ (s.control k).closing = false) := by
  rw [cleanupSession_control]
  split_ifs with hk hreport
  · simp [ControlSession.reportStopped, hk, hreport]
  · simp [ControlSession.close, ControlSession.resolveStop, hreport]
  · simp [hk]

/-- A cleanup owes the report to the registered session if it was asked to make it. One that joins
the running cleanup finds nothing registered. -/
theorem Owned.cleanupPhase3_owes (h : Owned s) {k : ℕ}
    (hopen : s.controlSession = some k → (s.control k).closing = false ∨ report = false) :
    Owes (s.cleanupPhase3 report) k ↔
      Owes s k ∨ (report = true ∧ s.controlSession = some k) := by
  by_cases hn : s.cleanup = none
  · rw [cleanupPhase3_eq report hn]
    unfold VpnExtension.performPhase3Cleanup
    split
    · show (s.control k).stopped = true ∨ some (Cleanup.destroying s.controlSession report) =
        some (.destroying (some k) true) ↔ _
      simp [Owes, Pending, hn, and_comm]
    · have hnot := cleanupSession_not_pending (s := s.takeFields) report s.controlSession k
      unfold Owes
      rw [cleanupSession_stopped]
      simp only [hnot, or_false, not_pending_of_none hn k]
      constructor
      · exact fun h => h.imp_right fun hk => ⟨hk.2.1, hk.1⟩
      · refine fun h => h.imp_right fun hk => ⟨hk.2, hk.1, ?_⟩
        exact (hopen hk.2).resolve_right (by simp [hk.1])
  · have hout := (h.cleanup hn).imp_right Owned.inSession_of_cleaning
    rw [cleanupPhase3_join report hn]
    simp [(h.taken hout).2]

/-- A report that is pending after the call was pending or is for the registered session, and no
session has been touched. -/
theorem pending_cleanupPhase3 {k : ℕ} (hk : Pending (s.cleanupPhase3 report) k) :
    (s.cleanupPhase3 report).control = s.control ∧
      (Pending s k ∨ report = true ∧ s.controlSession = some k) := by
  by_cases hn : s.cleanup = none
  · rw [cleanupPhase3_eq report hn] at hk ⊢
    unfold VpnExtension.performPhase3Cleanup at hk ⊢
    split at hk
    · simp only [Pending, Option.some.injEq, Cleanup.destroying.injEq] at hk
      exact ⟨rfl, .inr ⟨hk.2, hk.1⟩⟩
    · exact absurd hk (cleanupSession_not_pending _ _ k)
  · rw [cleanupPhase3_join report hn] at hk ⊢
    exact ⟨rfl, .inl hk⟩

end cleanup

/-- The move makes `runPhase3` owe the report to session `k`. -/
def Reports (s : VpnExtension) (l : ExtensionLabel) (k : ℕ) : Prop :=
  s.destroyRequested = false ∧
    ∃ reason, reportsStopped reason = true ∧ l = .returns k (.string reason)

def StopMove (s t : VpnExtension) (l : ExtensionLabel) : Prop :=
  Reporting t ∧ ∀ k, Owes t k ↔ Owes s k ∨ Reports s l k

def StopKept (s t : VpnExtension) : Prop := Reporting t ∧ ∀ k, Owes t k ↔ Owes s k

theorem StopKept.move {s t : VpnExtension} {l : ExtensionLabel} (h : StopKept s t)
    (hl : ∀ k, ¬ Reports s l k) : StopMove s t l :=
  ⟨h.1, fun k => by simp [h.2 k, hl k]⟩

theorem StopKept.silent {s t : VpnExtension} {l : ExtensionLabel} (h : StopKept s t)
    (hl : ∀ k reason, l ≠ .returns k reason) : StopMove s t l := by
  apply h.move
  rintro k ⟨-, reason, -, hreturns⟩
  exact hl k _ hreturns

theorem retries_of_reportsStopped {reason : JsString} (h : reportsStopped reason = true) :
    retries (.string reason) = false := by
  simp only [reportsStopped, decide_eq_true_eq] at h
  obtain rfl | rfl | rfl := h <;> decide

section moves
variable {s t : VpnExtension}

theorem StopKept.same (hr : Reporting s) (hcleanup : t.cleanup = s.cleanup)
    (hstopped : ∀ k, (t.control k).stopped = (s.control k).stopped) (hpending : ∀ k, Pending s k →
      t.phase3 = s.phase3 ∧ (t.control k).closing = (s.control k).closing)
    (hdone : t.phase3.cleaned = true → s.cleanup = none) : StopKept s t := by
  have hsame : ∀ k, Pending t k ↔ Pending s k := fun k => by simp [Pending, hcleanup]
  refine ⟨⟨?_, ?_, ?_⟩, fun k => by simp [Owes, hstopped, hsame]⟩
  · intro k hk
    have hs := (hsame k).mp hk
    obtain ⟨reason, hphase⟩ := hr.final k hs
    exact ⟨reason, (hpending k hs).1.trans hphase⟩
  · intro k hk
    have hs := (hsame k).mp hk
    exact (hpending k hs).2.trans (hr.opened k hs)
  · exact fun hc => hcleanup.trans (hdone hc)

theorem StopKept.idle (hr : Reporting s) (hdone : s.cleanup = none) (hcleanup : t.cleanup = s.cleanup)
    (hstopped : ∀ k, (t.control k).stopped = (s.control k).stopped) : StopKept s t :=
  .same hr hcleanup hstopped (fun k hk => absurd hk (not_pending_of_none hdone k)) fun _ => hdone

theorem Reporting.not_pending (hr : Reporting s) (hs : s.phase3.terminalReason = none) (k : ℕ) :
    ¬ Pending s k := by
  intro hk
  obtain ⟨reason, hphase⟩ := hr.final k hk
  simp [hphase, Phase3.terminalReason] at hs

theorem StopKept.within (hr : Reporting s) (hs : s.phase3.terminalReason = none)
    (ht : t.phase3.cleaned = false) (hcleanup : t.cleanup = s.cleanup)
    (hstopped : ∀ k, (t.control k).stopped = (s.control k).stopped) : StopKept s t :=
  .same hr hcleanup hstopped (fun k hk => absurd hk (hr.not_pending hs k)) (by simp [ht])

/-- The loop is left: the report is owed to the session that is registered. -/
theorem finish_reports (h : Owned s) (hr : Reporting s) (hopen : Out s ∨ s.phase3.opened = true)
    (reason : JsString) : Reporting (s.finish reason) ∧ ∀ k, Owes (s.finish reason) k ↔
      Owes s k ∨ (reportsStopped reason = true ∧ s.controlSession = some k) := by
  have hclosing : ∀ k, s.controlSession = some k → (s.control k).closing = false := by
    intro k hk
    by_cases hout : Out s
    · simp [(h.taken hout).2] at hk
    · obtain rfl := h.attempt_of_registered (.inr hk)
      exact h.opened (by simpa using fun hd => hout (.inl hd)) (hopen.resolve_left hout)
  refine ⟨⟨?_, ?_, ?_⟩, ?_⟩
  · exact fun _ _ => ⟨reason, rfl⟩
  · intro k hk
    obtain ⟨hcontrol, hprior⟩ := pending_cleanupPhase3 (s := s) _ hk
    show ((s.cleanupPhase3 (reportsStopped reason)).control k).closing = false
    rw [hcontrol]
    exact hprior.elim (hr.opened k) fun hreg => hclosing k hreg.2
  · simp [VpnExtension.finish, Phase3.cleaned]
  · intro k
    exact h.cleanupPhase3_owes _ fun hk => .inl (hclosing k hk)

theorem StopKept.finish (h : Owned s) (hr : Reporting s) (hout : Out s) (reason : JsString) :
    StopKept s (s.finish reason) := by
  obtain ⟨hreporting, howes⟩ := finish_reports h hr (.inl hout) reason
  refine ⟨hreporting, fun k => ?_⟩
  simpa [(h.taken hout).2] using howes k

theorem terminalReason_of_session {pc : SessionPc} (here : s.phase3 = .session pc) :
    s.phase3.terminalReason = none := by
  rw [here]
  rfl

theorem StopKept.recover (h : Owned s) (hr : Reporting s) (hs : s.phase3.terminalReason = none) :
    StopKept s s.recover := by
  have hnot : ∀ k, ¬ Pending s.recover k := by
    intro k hk
    obtain ⟨-, hprior⟩ := pending_cleanupPhase3 (s := s) false hk
    simp [hr.not_pending hs k] at hprior
  refine ⟨⟨fun k hk => absurd hk (hnot k), fun k hk => absurd hk (hnot k), ?_⟩, fun k => ?_⟩
  · simp [VpnExtension.recover, Phase3.cleaned]
  · show Owes (s.cleanupPhase3 false) k ↔ Owes s k
    simpa using h.cleanupPhase3_owes false (k := k) (fun _ => .inr rfl)

theorem StopKept.sessionFails (h : Owned s) (hr : Reporting s) {pc : SessionPc}
    (here : s.phase3 = .session pc) : StopKept s s.sessionFails := by
  have hnone := terminalReason_of_session here
  unfold VpnExtension.sessionFails
  split_ifs with hd
  · exact .finish h hr (.inl hd) _
  · split
    · exact .within hr hnone rfl rfl fun _ => rfl
    · exact .recover h hr hnone

theorem StopKept.sessionFails_of (h : Owned t) (hr : Reporting s) {pc : SessionPc}
    (here : s.phase3 = .session pc) (hphase : t.phase3 = s.phase3) (hcleanup : t.cleanup = s.cleanup)
    (hcontrol : t.control = s.control) : StopKept s t.sessionFails := by
  have hsame : ∀ k, Pending t k ↔ Pending s k := fun k => by simp [Pending, hcleanup]
  have hrt : Reporting t := by
    refine ⟨fun k hk => ?_, fun k hk => ?_, ?_⟩
    · rw [hphase]
      exact hr.final k ((hsame k).mp hk)
    · rw [hcontrol]
      exact hr.opened k ((hsame k).mp hk)
    · rw [hphase, hcleanup]
      exact hr.done
  obtain ⟨hreporting, howes⟩ := StopKept.sessionFails h hrt (hphase.trans here)
  refine ⟨hreporting, fun k => (howes k).trans ?_⟩
  unfold Owes
  rw [hsame k, hcontrol]

theorem StopKept.connectFails (hr : Reporting s) (hs : s.phase3.terminalReason = none) :
    StopKept s s.connectFails := by
  refine .within hr hs rfl rfl fun k => ?_
  exact setControl_keeps s (·.stopped) (c := (s.control s.attempt).close) rfl k

/-- The race is over: before `onDestroy` a terminal reason makes the report due. -/
theorem StopMove.sessionReturns (h : Owned s) (hr : Reporting s)
    (here : s.phase3 = .session .racing) (reason : JsValue) :
    StopMove s (s.sessionReturns reason) (.returns s.attempt reason) := by
  have hin := Owned.inSession_of_session here
  cases hretries : retries reason with
  | true =>
    rw [Going.sessionReturns_retries hretries]
    refine (StopKept.sessionFails h hr here).move ?_
    rintro k ⟨-, text, htext, hl⟩
    obtain ⟨-, rfl⟩ := (ExtensionLabel.returns.injEq ..).mp hl
    simp [retries_of_reportsStopped htext] at hretries
  | false =>
    obtain ⟨text, rfl, hfinish⟩ := sessionReturns_terminal (s := s) hretries
    rw [hfinish]
    obtain ⟨hreporting, howes⟩ := finish_reports h hr (.inr (by rw [here]; rfl)) text
    refine ⟨hreporting, fun k => (howes k).trans (or_congr_right ?_)⟩
    constructor
    · rintro ⟨htext, hk⟩
      have hd : s.destroyRequested = false := by
        by_contra hne
        simp [(h.taken (.inl (by simpa using hne))).2] at hk
      obtain rfl := h.attempt_of_registered (.inr hk)
      exact ⟨hd, text, htext, rfl⟩
    · rintro ⟨hd, text', htext, hl⟩
      simp only [ExtensionLabel.returns.injEq, JsValue.string.injEq] at hl
      obtain ⟨rfl, rfl⟩ := hl
      exact ⟨htext, h.controlSession_eq hd hin⟩

theorem StopKept.onDestroy (h : Owned s) (hr : Reporting s) (once : s.destroyRequested = false) :
    StopKept s s.onDestroy := by
  rw [onDestroy_eq]
  refine ⟨⟨?_, ?_, ?_⟩, fun k => ?_⟩
  · intro k hk
    obtain ⟨-, hprior⟩ := pending_cleanupPhase3 (s := s) false hk
    obtain ⟨reason, hphase⟩ := hr.final k (by simpa using hprior)
    exact ⟨reason, (cleanupPhase3_phase3 s false).trans hphase⟩
  · intro k hk
    obtain ⟨hcontrol, hprior⟩ := pending_cleanupPhase3 (s := s) false hk
    show ((s.cleanupPhase3 false).control k).closing = false
    rw [hcontrol]
    exact hr.opened k (by simpa using hprior)
  · -- after the cleanup of the finally block nothing is left to take
    intro hdone
    have hphase : s.phase3.cleaned = true := by simpa using hdone
    have hfields := h.cleared once (by
      unfold Phase3.cleaned at hphase
      split at hphase <;> simp_all [Phase3.inSession])
    simp only [fields, Prod.mk.injEq] at hfields
    show (s.cleanupPhase3 false).cleanup = none
    rw [cleanupPhase3_eq false (hr.done hphase)]
    simp [VpnExtension.performPhase3Cleanup, hfields, VpnExtension.cleanupSession]
  · show Owes (s.cleanupPhase3 false) k ↔ Owes s k
    simpa using h.cleanupPhase3_owes false (k := k) (fun _ => .inr rfl)

theorem StopKept.cleanupSession (hr : Reporting s) {session : Option ℕ} {report : Bool}
    (hdone : s.cleanup ≠ none) (hpending : ∀ k, Pending s k ↔ session = some k ∧ report = true) :
    StopKept s (s.cleanupSession session report) := by
  have hnot : ∀ k, ¬ Pending (s.cleanupSession session report) k :=
    cleanupSession_not_pending report session
  refine ⟨⟨fun k hk => absurd hk (hnot k), fun k hk => absurd hk (hnot k), ?_⟩, fun k => ?_⟩
  · rw [cleanupSession_phase3]
    exact fun hc => absurd (hr.done hc) hdone
  · unfold Owes
    rw [cleanupSession_stopped, hpending]
    simp only [hnot, or_false]
    constructor
    · exact fun h => h.imp_right fun hk => ⟨hk.1, hk.2.1⟩
    · exact fun h => h.imp_right fun hk => ⟨hk.1, hk.2, hr.opened k ((hpending k).mpr hk)⟩

theorem StopMove.of_move {turn : Turn} {l : ExtensionLabel} (hmove : ExtensionMove s turn l t)
    (h : Owned s) (hr : Reporting s) : StopMove s t l := by
  cases hmove with
  | returns here _ => exact .sessionReturns h hr here _
  | pumpStops _ here _ => exact .sessionReturns h hr here _
  | @control k l c existing moves =>
    have hkept : StopKept s (s.setControl k c) := by
      refine .same hr rfl (fun j => ?_) (fun j _ => ⟨rfl, ?_⟩) hr.done
      · exact setControl_keeps s (·.stopped) moves.grows.stopped j
      · exact setControl_keeps s (·.closing) moves.grows.closing j
    exact hkept.silent (by cases l <;> simp [ExtensionLabel.ofControl])
  | onDestroy once => exact (StopKept.onDestroy h hr once).silent (by simp)
  | connectFails here =>
    exact (StopKept.connectFails hr (terminalReason_of_session here)).silent (by simp)
  | rejected here _ =>
    exact (StopKept.connectFails hr (terminalReason_of_session here)).silent (by simp)
  | connectClosed here =>
    exact (StopKept.sessionFails h hr here).silent (by simp)
  | startingReported connected here =>
    refine StopKept.silent ?_ (by simp)
    unfold VpnExtension.connectData
    split_ifs
    · exact .within hr (terminalReason_of_session here) rfl rfl fun _ => rfl
    · exact .sessionFails h hr here
  | vpnIdGenerated id here =>
    refine StopKept.silent ?_ (by simp)
    unfold VpnExtension.vpnIdGenerated
    dsimp only
    split_ifs
    · exact .sessionFails_of (h.named (Owned.inSession_of_session here) id) hr here rfl rfl rfl
    · exact .within hr (terminalReason_of_session here) rfl rfl fun _ => rfl
  | vpnCreates pumpStarted here =>
    refine StopKept.silent ?_ (by simp)
    unfold VpnExtension.vpnCreates
    dsimp only
    split_ifs
    · exact .within hr (terminalReason_of_session here) rfl rfl fun _ => rfl
    · exact .sessionFails_of (h.created (Owned.inSession_of_session here)) hr here rfl rfl rfl
  | setupFails here _ =>
    exact (StopKept.sessionFails h hr here).silent (by simp)
  | recoveryReported here =>
    exact (StopKept.recover h hr (by rw [here]; rfl)).silent (by simp)
  | retryStopped here _ =>
    exact (StopKept.finish h hr (.inr (by rw [here]; rfl)) _).silent (by simp)
  | loopLeft here _ =>
    exact (StopKept.finish h hr (.inr (by rw [here]; rfl)) _).silent (by simp)
  | cleaned here done =>
    exact StopKept.silent (.idle hr done rfl fun _ => rfl) (by simp)
  | published here =>
    have hdone := hr.done (by rw [here]; rfl)
    exact StopKept.silent (.idle hr hdone rfl fun _ => rfl) (by simp)
  | ownStopped here =>
    have hdone := hr.done (by rw [here]; rfl)
    exact StopKept.silent (.idle hr hdone rfl fun _ => rfl) (by simp)
  | uiStop _ =>
    exact StopKept.silent (.same hr rfl (fun _ => rfl) (fun _ _ => ⟨rfl, rfl⟩) hr.done) (by simp)
  | destroySettled here =>
    refine (StopKept.cleanupSession hr (by simp [here]) fun k => ?_).silent (by simp)
    simp [Pending, here]
  | @stoppedReported k sent here =>
    have hkept : StopKept s (s.cleanupSession (some k) false) :=
      .cleanupSession hr (by simp [here]) (by simp [Pending, here])
    exact hkept.silent (by simp)
  | closed here =>
    have hkept : StopKept s (s.cleanupSession none false) :=
      .cleanupSession hr (by simp [here]) (by simp [Pending, here])
    exact hkept.silent (by simp)
  | _ =>
    refine StopKept.silent (.within hr ?_ rfl rfl fun _ => rfl) (by simp)
    simp_all [Phase3.terminalReason]

end moves

structure StopHistory (ls : List ExtensionLabel) (s : VpnExtension) : Prop where
  owned : Owned s
  reporting : Reporting s
  owes : ∀ k, Owes s k ↔ ∃ reason, reportsStopped reason = true ∧
    Unpreceded .onDestroy (.returns k (.string reason)) ls
  terminal : ∀ k reason, reportsStopped reason = true →
    Unpreceded .onDestroy (.returns k (.string reason)) ls →
    s.phase3.terminalReason = some reason

namespace StopHistory
variable {ls : List ExtensionLabel} {s t : VpnExtension} {l : ExtensionLabel}

theorem initial (isolated : Bool) : StopHistory [] { isolated } where
  owned := .initial isolated
  reporting := ⟨by simp [Pending], by simp [Pending], by simp [Phase3.cleaned]⟩
  owes k := by simp [Owes, Pending, not_unpreceded_nil]
  terminal _ _ _ h := absurd h not_unpreceded_nil

theorem returns_inv {turn : Turn} {k : ℕ} {reason : JsString}
    (h : ExtensionMove s turn (.returns k (.string reason)) t)
    (hreports : reportsStopped reason = true) : t.phase3.terminalReason = some reason := by
  have hends : s.sessionReturns (.string reason) = s.finish reason := by
    simp [VpnExtension.sessionReturns, retries_of_reportsStopped hreports]
  generalize hl : ExtensionLabel.returns k (.string reason) = l at h
  cases h with
  | returns _ _ =>
    obtain ⟨-, rfl⟩ := (ExtensionLabel.returns.injEq ..).mp hl
    rw [hends]
    rfl
  | pumpStops _ _ _ =>
    obtain ⟨-, rfl⟩ := (ExtensionLabel.returns.injEq ..).mp hl
    rw [hends]
    rfl
  | @control _ l _ _ _ => cases l <;> simp [ExtensionLabel.ofControl] at hl
  | _ => simp at hl

theorem step {turn : Turn} (h : StopHistory ls s)
    (hrequested : .onDestroy ∈ ls ↔ s.destroyRequested = true)
    (hmove : ExtensionMove s turn l t) : StopHistory (ls ++ [l]) t := by
  obtain ⟨hreporting, howes⟩ := StopMove.of_move hmove h.owned h.reporting
  refine ⟨.move hmove h.owned, hreporting, fun k => ?_, fun k reason hreason hun => ?_⟩
  · rw [howes k, h.owes k]
    have hnot : s.destroyRequested = false ↔ ExtensionLabel.onDestroy ∉ ls := by
      rw [hrequested]
      simp
    constructor
    · rintro (⟨reason, hreason, hun⟩ | ⟨hd, reason, hreason, rfl⟩)
      · exact ⟨reason, hreason, unpreceded_snoc.mpr (.inl hun)⟩
      · exact ⟨reason, hreason, unpreceded_snoc.mpr (.inr ⟨rfl, hnot.mp hd⟩)⟩
    · rintro ⟨reason, hreason, hun⟩
      obtain hun | ⟨rfl, hmem⟩ := unpreceded_snoc.mp hun
      · exact .inl ⟨reason, hreason, hun⟩
      · exact .inr ⟨hnot.mpr hmem, reason, hreason, rfl⟩
  · obtain hun | ⟨rfl, -⟩ := unpreceded_snoc.mp hun
    · exact hmove.keeps_terminalReason (h.terminal k reason hreason hun)
    · exact returns_inv hmove hreason

theorem of_run {s₀ : VpnExtension} (hinit : s₀.Initial) (hrun : Run ExtensionStep s₀ ls s) :
    StopHistory ls s := by
  apply hrun.snocInduction (motive := fun ls s => StopHistory ls s)
  · obtain ⟨isolated, rfl⟩ := hinit
    exact .initial isolated
  · intro ls s l t hprior h hstep
    obtain ⟨turn, hmove, -⟩ := hstep.move
    exact h.step (VpnHistory.of_run hinit hprior).requested hmove

theorem closed (h : StopHistory ls s) {reason : JsString} (hret : s.phase3 = .returned reason)
    {k : ℕ} (hk : k ≤ s.attempt) : (s.control k).closing = true := by
  obtain hlt | rfl := Nat.lt_or_eq_of_le hk
  · exact h.owned.older k hlt
  · have hnone := h.reporting.done (by rw [hret]; rfl)
    obtain hcl | ⟨c, hc, -⟩ := h.owned.closes (.inr (by rw [hret]; rfl))
    · exact hcl
    · simp [hnone] at hc

end StopHistory

/-- The session has completed its handshake and is neither closed nor lost. -/
def ControlSession.Live (c : ControlSession) : Prop :=
  c.handshakeComplete = true ∧ c.closing = false ∧ c.lost = false

/-- A stop comes from the UI, from the Mac or from the system, with its reason. -/
inductive StopArrives : ExtensionLabel → JsString → Prop
  | ui : StopArrives .uiStop uiRequested
  | mac {k : ℕ} {reason : JsString} (reports : reportsStopped reason = true) :
      StopArrives (.stopAcked k (.string reason)) reason
  | system : StopArrives .onDestroy systemStop

theorem StopArrives.reports {l : ExtensionLabel} {reason : JsString} (h : StopArrives l reason) :
    reportsStopped reason = true := by
  cases h with
  | ui => rfl
  | mac reports => exact reports
  | system => rfl

theorem attempt_le_of_run {s t : VpnExtension} {ls : List ExtensionLabel}
    (h : Run ExtensionStep s ls t) : s.attempt ≤ t.attempt := by
  refine h.invariant (I := fun t => s.attempt ≤ t.attempt) ?_ (Nat.le_refl _)
  intro t l u hstep ht
  obtain ⟨turn, hmove, -⟩ := hstep.move
  obtain hsame | rfl | ⟨reason, rfl⟩ | rfl | rfl := hmove.loop_cases
  · rw [hsame.attempt]
    exact ht
  · exact Nat.le_succ_of_le ht
  · exact ht
  · exact ht
  · rw [onDestroy_eq]
    show s.attempt ≤ (t.cleanupPhase3 false).attempt
    rw [(t.cleanupPhase3_sameLoop false).attempt]
    exact ht

/-- `runPhase3` returns the reason of a stop that has found the session live. Then the session is
closed, and `STOPPED` was reported on it before that just when its attempt has returned the reason
before `onDestroy`. -/
theorem stopped_reported_iff {s₀ s t u : VpnExtension} {ls ms : List ExtensionLabel}
    {l : ExtensionLabel} {reason : JsString} {k : ℕ} (hinit : s₀.Initial)
    (hbefore : Run ExtensionStep s₀ ls s) (hlive : (s.control k).Live)
    (harrives : StopArrives l reason) (hstop : ExtensionStep s l t)
    (hafter : Run ExtensionStep t ms u) (hret : u.phase3 = .returned reason) :
    (u.control k).closing = true ∧
      ((u.control k).stopped = true ↔
        Unpreceded .onDestroy (.returns k (.string reason)) (ls ++ l :: ms)) := by
  have hrun : Run ExtensionStep s₀ (ls ++ l :: ms) u := hbefore.append (.cons hstop hafter)
  have h := StopHistory.of_run hinit hrun
  have hk : k ≤ s.attempt := by
    by_contra hgt
    have hfresh := ((StopHistory.of_run hinit hbefore).owned.fresh k (by omega)).2
    have hcomplete := hlive.1
    simp [hfresh] at hcomplete
  have hnone := h.reporting.done (by rw [hret]; rfl)
  refine ⟨h.closed hret (hk.trans (attempt_le_of_run (.cons hstop hafter))), ?_⟩
  have howes : (u.control k).stopped = true ↔ Owes u k := by
    simp [Owes, not_pending_of_none hnone k]
  rw [howes, h.owes k]
  constructor
  · rintro ⟨reason', hreason', hun⟩
    have hterminal := h.terminal k reason' hreason' hun
    rw [hret] at hterminal
    obtain rfl : reason = reason' := Option.some.inj hterminal
    exact hun
  · exact fun hun => ⟨reason, harrives.reports, hun⟩

/-- The UI stops the running tunnel. -/
theorem stopped_reported_uiStopped : ∃ s : VpnExtension, s.phase3 = .returned uiRequested ∧
    (s.control 0).closing = true ∧ (s.control 0).stopped = true := by
  obtain ⟨t, s, hstop, hrun, hret, -⟩ := uiStopped_run
  have hlive : (((createdAt .racing).setControl 0 acknowledged).control 0).Live :=
    ⟨rfl, rfl, rfl⟩
  have h := stopped_reported_iff ⟨false, rfl⟩ active_run hlive .ui hstop hrun hret
  refine ⟨s, hret, h.1, h.2.mpr ?_⟩
  exact ⟨setupLabels ++ [.created 0, .internal, .uiStop], _, rfl, by decide⟩

/-- The system destroys the extension while the tunnel runs: `runPhase3` returns `system_stop`, and the
session is closed without a report. -/
theorem stopped_not_reported : ∃ t u : VpnExtension,
    Run ExtensionStep { isolated := false } (setupLabels ++ [.created 0, .internal])
      ((createdAt .racing).setControl 0 acknowledged) ∧
    (((createdAt .racing).setControl 0 acknowledged).control 0).Live ∧
    ExtensionStep ((createdAt .racing).setControl 0 acknowledged) .onDestroy t ∧
    Run ExtensionStep t [.returns 0 (.string systemStop), .internal, .internal, .internal,
      .internal, .internal] u ∧
    u.phase3 = .returned systemStop ∧ (u.control 0).closing = true ∧
    (u.control 0).stopped = false := by
  let destroyed : VpnExtension := ((createdAt .racing).setControl 0 acknowledged).onDestroy
  let left : VpnExtension := destroyed.finish systemStop
  let closing : VpnExtension := left.cleanupSession (some 0) false
  let closed : VpnExtension := { closing with cleanup := none }
  let published : VpnExtension :=
    { closed.cleaned systemStop with phase3 := .stoppingOwn systemStop }
  have hdestroy : ExtensionStep ((createdAt .racing).setControl 0 acknowledged) .onDestroy
      destroyed := .event (.onDestroy rfl) rfl
  have hreturns : ExtensionStep destroyed (.returns 0 (.string systemStop)) left :=
    .task (.returns rfl rfl)
  have hsettled : ExtensionStep left .internal closing := .event (.destroySettled rfl) rfl
  have hclose : ExtensionStep closing .internal closed := .after (.closed rfl) fun _ => rfl
  have hcleaned : ExtensionStep closed .internal (closed.cleaned systemStop) :=
    .task (.cleaned rfl rfl)
  have hpublished : ExtensionStep (closed.cleaned systemStop) .internal published :=
    .event (.published rfl) rfl
  have hret : ExtensionStep published .internal
      { published with phase3 := .returned systemStop } := .event (.ownStopped rfl) rfl
  exact ⟨_, _, active_run, ⟨rfl, rfl, rfl⟩, hdestroy, .cons hreturns (.cons hsettled (.cons hclose
    (.cons hcleaned (.cons hpublished (.single hret))))), rfl, rfl, rfl⟩

end HarmonyNetBridge.Harmony
