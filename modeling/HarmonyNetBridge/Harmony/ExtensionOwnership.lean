import HarmonyNetBridge.Harmony.VpnExtension

/-! Who owns the connection and the control session of the extension. The running attempt has them
registered until a cleanup takes them over, and that cleanup closes the session. -/
namespace HarmonyNetBridge.Harmony
open Transition

/-- The phases in which the fields belong to the running attempt. -/
def Phase3.inSession : Phase3 → Bool
  | session _ => true
  | recovering _ => true
  | _ => false

/-- The phases in which `runPhase3` waits for a cleanup. -/
def Phase3.cleaning : Phase3 → Bool
  | recoveryCleanup => true
  | finalCleanup _ => true
  | _ => false

/-- The awaits of an attempt that has not closed its control session. -/
def Phase3.opened : Phase3 → Bool
  | session (.connectClosing _) => false
  | session _ => true
  | _ => false

/-- The control session that a cleanup has yet to close. -/
def Cleanup.session : Cleanup → Option ℕ
  | destroying session _ => session
  | reporting k _ => some k
  | closing _ => none

inductive Touched (c : ControlSession) : ControlSession → Prop
  | kept : Touched c c
  | closed : Touched c c.close
  | reported : Touched c c.reportStopped

variable {c d : ControlSession}

theorem Touched.ok (h : Touched c d) (hc : c.Ok) : d.Ok := by
  cases h <;> exact ⟨hc.resolve, hc.socketFd, hc.stopAck⟩

theorem Touched.hung (h : Touched c d) (hc : c.Hung) : d.Hung := by
  cases h <;> exact hc

theorem Touched.stop (h : Touched c d) (reason : JsValue) (hc : c.stop = some reason) :
    d.stop = some reason := by
  cases h <;> simp [ControlSession.close, ControlSession.resolveStop,
    ControlSession.reportStopped, hc]

theorem Touched.closing (h : Touched c d) (hc : c.closing = true) : d.closing = true := by
  cases h <;> simp [ControlSession.close, ControlSession.reportStopped, hc]

section cleanup
variable (s : VpnExtension) (report : Bool)

@[simp] theorem setControl_control (k j : ℕ) (c : ControlSession) :
    (s.setControl k c).control j = if j = k then c else s.control j := by
  simp [VpnExtension.setControl, Function.update_apply]

variable {k : ℕ} {c : Cleanup}

theorem setControl_keeps {β : Type} (f : ControlSession → β) {c : ControlSession}
    (h : f c = f (s.control k)) (j : ℕ) : f ((s.setControl k c).control j) = f (s.control j) := by
  rw [setControl_control]
  split_ifs with hj
  · rw [h, hj]
  · rfl

@[simp] theorem setVpn_vpn (k j : ℕ) (v : VpnConnection) :
    (s.setVpn k v).vpn j = if j = k then v else s.vpn j := by
  simp [VpnExtension.setVpn, Function.update_apply]

theorem cleanupClose_control (k j : ℕ) :
    (s.cleanupClose k).control j = if j = k then (s.control j).close else s.control j := by
  show (s.setControl k (s.control k).close).control j = _
  rw [setControl_control]
  split_ifs with hj
  · rw [hj]
  · rfl

theorem cleanupSession_control (session : Option ℕ) (j : ℕ) :
    (s.cleanupSession session report).control j =
      if session = some j then
        if report then (s.control j).reportStopped else (s.control j).close
      else s.control j := by
  unfold VpnExtension.cleanupSession
  split
  · simp
  · rename_i k
    show (s.setControl k (s.control k).reportStopped).control j = _
    rw [setControl_control]
    split_ifs <;> simp_all
  · rename_i k
    rw [cleanupClose_control]
    split_ifs <;> simp_all

theorem cleanupSession_touched (session : Option ℕ) (j : ℕ) :
    Touched (s.control j) ((s.cleanupSession session report).control j) := by
  rw [cleanupSession_control]
  split_ifs
  · exact .reported
  · exact .closed
  · exact .kept

theorem cleanupSession_session (session : Option ℕ)
    (h : (s.cleanupSession session report).cleanup = some c) (hk : c.session = some k) :
    session = some k := by
  unfold VpnExtension.cleanupSession VpnExtension.cleanupClose at h
  split at h <;> simp only [reduceCtorEq, Option.some.injEq] at h <;> subst h <;>
    simp_all [Cleanup.session]

/-- After the destruction the session is closed or waits for its report. -/
theorem cleanupSession_closes (k : ℕ) :
    ((s.cleanupSession (some k) report).control k).closing = true ∨
      ∃ c, (s.cleanupSession (some k) report).cleanup = some c ∧ c.session = some k := by
  cases report with
  | false =>
    left
    rw [cleanupSession_control]
    simp [ControlSession.close]
  | true => exact .inr ⟨_, rfl, rfl⟩

@[simp] theorem cleanupSession_phase3 (session : Option ℕ) :
    (s.cleanupSession session report).phase3 = s.phase3 := by
  unfold VpnExtension.cleanupSession
  split <;> rfl

@[simp] theorem cleanupSession_vpn (session : Option ℕ) :
    (s.cleanupSession session report).vpn = s.vpn := by
  unfold VpnExtension.cleanupSession
  split <;> rfl

/-- The four fields that `performPhase3Cleanup` takes over. -/
def fields (s : VpnExtension) : Option ℕ × Option ℕ × Option JsString × Bool :=
  (s.vpnConnection, s.controlSession, s.vpnId, s.vpnCreated)

@[simp] theorem cleanupSession_fields (session : Option ℕ) :
    fields (s.cleanupSession session report) = fields s := by
  unfold VpnExtension.cleanupSession
  split <;> rfl

variable {s}

theorem cleanupPhase3_eq (h : s.cleanup = none) :
    s.cleanupPhase3 report = s.performPhase3Cleanup report := by
  simp [VpnExtension.cleanupPhase3, h]

theorem cleanupPhase3_join (h : s.cleanup ≠ none) : s.cleanupPhase3 report = s := by
  unfold VpnExtension.cleanupPhase3
  rw [if_pos (Option.isSome_iff_ne_none.mpr h)]

theorem cleanupPhase3_fields (h : s.cleanup = none) :
    fields (s.cleanupPhase3 report) = (none, none, none, false) := by
  rw [cleanupPhase3_eq report h]
  unfold VpnExtension.performPhase3Cleanup
  split
  · rfl
  · rw [cleanupSession_fields]
    rfl

theorem cleanupPhase3_session (h : s.cleanup = none)
    (hc : (s.cleanupPhase3 report).cleanup = some c) (hk : c.session = some k) :
    s.controlSession = some k := by
  rw [cleanupPhase3_eq report h] at hc
  unfold VpnExtension.performPhase3Cleanup at hc
  split at hc
  · simp only [Option.some.injEq] at hc
    subst hc
    exact hk
  · exact cleanupSession_session _ _ _ hc hk

theorem cleanupPhase3_closes (h : s.cleanup = none) (hk : s.controlSession = some k) :
    ((s.cleanupPhase3 report).control k).closing = true ∨
      ∃ c, (s.cleanupPhase3 report).cleanup = some c ∧ c.session = some k := by
  rw [cleanupPhase3_eq report h]
  unfold VpnExtension.performPhase3Cleanup
  split
  · exact .inr ⟨_, rfl, hk⟩
  · rw [hk]
    exact cleanupSession_closes _ _ _

variable (s)

theorem cleanupPhase3_stop (destroyRequested uiStopResolve : Bool) (uiStop : Option JsString) :
    VpnExtension.cleanupPhase3 { s with destroyRequested, uiStop, uiStopResolve } report =
      { s.cleanupPhase3 report with destroyRequested, uiStop, uiStopResolve } := by
  unfold VpnExtension.cleanupPhase3 VpnExtension.performPhase3Cleanup
  dsimp only
  split_ifs
  · rfl
  · split
    · rfl
    · unfold VpnExtension.cleanupSession
      split <;> rfl

theorem onDestroy_eq : s.onDestroy =
      { s.cleanupPhase3 false with
        destroyRequested := true
        uiStop := if s.uiStopResolve then some systemStop else s.uiStop
        uiStopResolve := false
        uiStopSubscriber := false } :=
  congrArg VpnExtension.unsubscribeFromUIStop (cleanupPhase3_stop s false true false _)

@[simp] theorem cleanupPhase3_phase3 : (s.cleanupPhase3 report).phase3 = s.phase3 := by
  unfold VpnExtension.cleanupPhase3 VpnExtension.performPhase3Cleanup
  split_ifs
  · rfl
  · split
    · rfl
    · exact cleanupSession_phase3 _ _ _

theorem cleanupPhase3_touched (j : ℕ) :
    Touched (s.control j) ((s.cleanupPhase3 report).control j) := by
  unfold VpnExtension.cleanupPhase3 VpnExtension.performPhase3Cleanup
  split_ifs
  · exact .kept
  · split
    · exact .kept
    · exact cleanupSession_touched s.takeFields report _ j

theorem cleanupPhase3_control {j : ℕ} (hj : s.controlSession ≠ some j) :
    (s.cleanupPhase3 report).control j = s.control j := by
  unfold VpnExtension.cleanupPhase3 VpnExtension.performPhase3Cleanup
  split_ifs
  · rfl
  · split
    · rfl
    · rw [cleanupSession_control, if_neg hj]
      rfl

/-- A cleanup calls `destroy` on the registered connection if its `create` has succeeded. -/
theorem cleanupPhase3_vpn (j : ℕ) : (s.cleanupPhase3 report).vpn j =
      if s.cleanup = none ∧ s.vpnCreated = true ∧ s.vpnConnection = some j then
        { s.vpn j with destroyed := some s.vpnId }
      else s.vpn j := by
  by_cases hc : s.cleanup = none
  · rw [cleanupPhase3_eq report hc]
    unfold VpnExtension.performPhase3Cleanup
    split
    · rename_i c hcreated hconn
      show (s.takeFields.setVpn c { s.vpn c with destroyed := some s.vpnId }).vpn j = _
      rw [setVpn_vpn]
      by_cases hj : j = c
      · simp [hj, hc, hcreated, hconn]
      · have hne : c ≠ j := fun h => hj h.symm
        simp [hj, hne, hconn, VpnExtension.takeFields]
    · rename_i hnot
      rw [cleanupSession_vpn, if_neg]
      · rfl
      · rintro ⟨-, hcreated, hconn⟩
        exact hnot _ hcreated hconn
  · rw [cleanupPhase3_join report hc, if_neg (fun h => hc h.1)]

end cleanup

structure Owned (s : VpnExtension) : Prop where
  ok : ∀ k, (s.control k).Ok
  fresh : ∀ k, s.attempt < k → s.vpn k = {} ∧ s.control k = {}
  cleanup : s.cleanup ≠ none → s.destroyRequested = true ∨ s.phase3.cleaning = true
  session : ∀ c k, s.cleanup = some c → c.session = some k → k = s.attempt
  taken : s.destroyRequested = true ∨ s.phase3.inSession = false →
    s.vpnConnection = none ∧ s.controlSession = none
  cleared : s.destroyRequested = false → s.phase3.inSession = false →
    fields s = (none, none, none, false)
  registered : s.destroyRequested = false → s.phase3.inSession = true →
    fields s = (some s.attempt, some s.attempt, (s.vpn s.attempt).vpnId,
      (s.vpn s.attempt).created) ∧ (s.vpn s.attempt).destroyed = none
  opened : s.destroyRequested = false → s.phase3.opened = true →
    (s.control s.attempt).closing = false
  older : ∀ k, k < s.attempt → (s.control k).closing = true
  closes : s.destroyRequested = true ∨ s.phase3.inSession = false →
    (s.control s.attempt).closing = true ∨ ∃ c, s.cleanup = some c ∧ c.session = some s.attempt

namespace Owned
variable {s : VpnExtension}

theorem inSession_of_opened {phase : Phase3} (h : phase.opened = true) :
    phase.inSession = true := by
  unfold Phase3.opened at h
  split at h <;> simp_all [Phase3.inSession]

theorem inSession_of_cleaning {phase : Phase3} (h : phase.cleaning = true) :
    phase.inSession = false := by
  unfold Phase3.cleaning at h
  split at h <;> simp_all [Phase3.inSession]

theorem registered_fields (h : Owned s) (hd : s.destroyRequested = false)
    (hp : s.phase3.inSession = true) :
    s.vpnConnection = some s.attempt ∧ s.controlSession = some s.attempt ∧
      s.vpnId = (s.vpn s.attempt).vpnId ∧ s.vpnCreated = (s.vpn s.attempt).created := by
  have hfields := (h.registered hd hp).1
  simpa only [fields, Prod.mk.injEq] using hfields

theorem controlSession_eq (h : Owned s) (hd : s.destroyRequested = false)
    (hp : s.phase3.inSession = true) : s.controlSession = some s.attempt :=
  (h.registered_fields hd hp).2.1

theorem attempt_of_registered (h : Owned s) {k : ℕ}
    (hk : s.vpnConnection = some k ∨ s.controlSession = some k) : k = s.attempt := by
  by_cases hout : s.destroyRequested = true ∨ s.phase3.inSession = false
  · obtain ⟨hv, hc⟩ := h.taken hout
    simp [hv, hc] at hk
  · push Not at hout
    obtain ⟨hv, hc, -, -⟩ := h.registered_fields (by simpa using hout.1) (by simpa using hout.2)
    rw [hv, hc] at hk
    simpa using hk.elim Eq.symm Eq.symm

theorem initial (isolated : Bool) : Owned { isolated } where
  ok _ := ⟨fun _ => ⟨rfl, rfl⟩, by simp, by simp⟩
  fresh _ _ := ⟨rfl, rfl⟩
  cleanup := by simp
  session := by simp
  taken := by simp [Phase3.inSession]
  cleared := by simp [Phase3.inSession]
  registered _ _ := ⟨rfl, rfl⟩
  opened _ _ := rfl
  older _ h := absurd h (Nat.not_lt_zero _)
  closes := by simp [Phase3.inSession]

/-- Outside of an attempt, or once the extension is destroyed, nothing is registered. -/
theorem taken_of_not_registered (h : Owned s) (hk : s.controlSession ≠ some s.attempt) :
    s.destroyRequested = true ∨ s.phase3.inSession = false := by
  by_contra hne
  push Not at hne
  exact hk (h.controlSession_eq (by simpa using hne.1) (by simpa using hne.2))

/-- A cleanup takes the fields over, and with them the session that it has to close. Afterwards the
extension is destroyed or `runPhase3` waits for the cleanup. -/
theorem clean (h : Owned s)
    (hc : s.cleanup = none ∨ s.destroyRequested = true ∨ s.phase3.inSession = false)
    (report : Bool) {t : VpnExtension} (hvpn : t.vpn = (s.cleanupPhase3 report).vpn)
    (hcontrol : t.control = (s.cleanupPhase3 report).control)
    (hcleanup : t.cleanup = (s.cleanupPhase3 report).cleanup)
    (hfields : fields t = fields (s.cleanupPhase3 report)) (hattempt : t.attempt = s.attempt)
    (hmono : s.destroyRequested = true → t.destroyRequested = true)
    (hout : t.destroyRequested = true ∨ t.phase3.cleaning = true) : Owned t := by
  have hleft : t.destroyRequested = false → t.phase3.inSession = false := fun hd =>
    inSession_of_cleaning (hout.resolve_left (by simp [hd]))
  have hnone : t.destroyRequested = false ∨ s.cleanup = none →
      fields t = (none, none, none, false) := by
    intro hd
    by_cases hn : s.cleanup = none
    · rw [hfields, cleanupPhase3_fields report hn]
    · -- the cleanup is joined, and the one that runs has taken the fields
      have hs : s.destroyRequested = false := by
        have htd := hd.resolve_right hn
        by_contra hne
        simp [hmono (by simpa using hne)] at htd
      rw [hfields, cleanupPhase3_join report hn]
      exact h.cleared hs ((hc.resolve_left hn).resolve_left (by simp [hs]))
  constructor
  · intro k
    rw [hcontrol]
    exact (cleanupPhase3_touched s report k).ok (h.ok k)
  · intro k hk
    rw [hattempt] at hk
    have hv : s.vpnConnection ≠ some k := fun he => by
      have := h.attempt_of_registered (.inl he)
      omega
    have hs : s.controlSession ≠ some k := fun he => by
      have := h.attempt_of_registered (.inr he)
      omega
    rw [hvpn, hcontrol, cleanupPhase3_vpn, if_neg (by simp [hv]), cleanupPhase3_control s report hs]
    exact h.fresh k hk
  · exact fun _ => hout
  · intro c k hck hk
    rw [hcleanup] at hck
    rw [hattempt]
    by_cases hn : s.cleanup = none
    · exact h.attempt_of_registered (.inr (cleanupPhase3_session report hn hck hk))
    · rw [cleanupPhase3_join report hn] at hck
      exact h.session c k hck hk
  · intro _
    by_cases hn : s.cleanup = none
    · have hf := hnone (.inr hn)
      simp only [fields, Prod.mk.injEq] at hf
      exact ⟨hf.1, hf.2.1⟩
    · rw [cleanupPhase3_join report hn] at hfields
      simp only [fields, Prod.mk.injEq] at hfields
      rw [hfields.1, hfields.2.1]
      exact h.taken (hc.resolve_left hn)
  · exact fun hd _ => hnone (.inl hd)
  · intro hd hin
    simp [hleft hd] at hin
  · intro hd hopened
    have hin := inSession_of_opened hopened
    simp [hleft hd] at hin
  · intro k hk
    rw [hattempt] at hk
    rw [hcontrol]
    exact (cleanupPhase3_touched s report k).closing (h.older k hk)
  · intro _
    rw [hcontrol, hcleanup, hattempt]
    by_cases hn : s.cleanup = none
    · by_cases hk : s.controlSession = some s.attempt
      · exact cleanupPhase3_closes report hn hk
      · obtain hcl | ⟨c, hsome, -⟩ := h.closes (h.taken_of_not_registered hk)
        · exact .inl ((cleanupPhase3_touched s report _).closing hcl)
        · simp [hn] at hsome
    · rw [cleanupPhase3_join report hn]
      exact h.closes (hc.resolve_left hn)

theorem idle (h : Owned s) (hp : s.phase3.cleaning = false) :
    s.cleanup = none ∨ s.destroyRequested = true := by
  by_cases hn : s.cleanup = none
  · exact .inl hn
  · exact .inr ((h.cleanup hn).resolve_right (by simp [hp]))

theorem finish (h : Owned s) (hp : s.phase3.cleaning = false) (reason : JsString) :
    Owned (s.finish reason) := by
  have hsame := s.finish_sameLoop reason
  exact h.clean ((h.idle hp).imp_right .inl) _ rfl rfl rfl rfl hsame.attempt
    (fun hd => hsame.destroyRequested.trans hd) (.inr rfl)

theorem recover (h : Owned s) (hp : s.phase3.cleaning = false) : Owned s.recover := by
  have hsame := s.recover_sameLoop
  exact h.clean ((h.idle hp).imp_right .inl) _ rfl rfl rfl rfl hsame.attempt
    (fun hd => hsame.destroyRequested.trans hd) (.inr rfl)

theorem within (h : Owned s) (hs : s.phase3.inSession = true) {phase : Phase3}
    (hphase : phase.inSession = true) (hopen : s.destroyRequested = false → phase.opened = true →
      (s.control s.attempt).closing = false) : Owned { s with phase3 := phase } where
  ok := h.ok
  fresh := h.fresh
  cleanup hc := .inl ((h.cleanup hc).resolve_right fun hcl => by
    simp [inSession_of_cleaning hcl] at hs)
  session := h.session
  taken hd := h.taken (hd.imp_right fun hin => by simp [hphase] at hin)
  cleared _ hin := by simp [hphase] at hin
  registered hd _ := h.registered hd hs
  opened := hopen
  older := h.older
  closes hd := h.closes (hd.imp_right fun hin => by simp [hphase] at hin)

theorem outside (h : Owned s) (hs : s.phase3.inSession = false) {phase : Phase3}
    (hphase : phase.inSession = false)
    (hc : s.cleanup ≠ none → s.destroyRequested = true ∨ phase.cleaning = true) :
    Owned { s with phase3 := phase } where
  ok := h.ok
  fresh := h.fresh
  cleanup := hc
  session := h.session
  taken _ := h.taken (.inr hs)
  cleared hd _ := h.cleared hd hs
  registered _ hin := by simp [hphase] at hin
  opened _ hopened := by simp [inSession_of_opened hopened] at hphase
  older := h.older
  closes _ := h.closes (.inr hs)

theorem setVpn (h : Owned s) (hs : s.phase3.inSession = true) {v : VpnConnection}
    {vpnId : Option JsString} {vpnCreated : Bool}
    (hdestroyed : v.destroyed = (s.vpn s.attempt).destroyed)
    (hv : s.destroyRequested = false → vpnId = v.vpnId ∧ vpnCreated = v.created) :
    Owned { s.setVpn s.attempt v with vpnId, vpnCreated } where
  ok := h.ok
  fresh k hk := by
    have hne : k ≠ s.attempt := by
      have : s.attempt < k := hk
      omega
    show (s.setVpn s.attempt v).vpn k = {} ∧ s.control k = {}
    rw [setVpn_vpn, if_neg hne]
    exact h.fresh k hk
  cleanup := h.cleanup
  session := h.session
  taken := h.taken
  cleared _ hin := by
    have : s.phase3.inSession = false := hin
    simp [hs] at this
  registered hd _ := by
    obtain ⟨hconn, hsession, -, -⟩ := h.registered_fields hd hs
    obtain ⟨rfl, rfl⟩ := hv hd
    have hvpn : (s.setVpn s.attempt v).vpn s.attempt = v := by simp
    show (s.vpnConnection, s.controlSession, v.vpnId, v.created) =
        (some s.attempt, some s.attempt, ((s.setVpn s.attempt v).vpn s.attempt).vpnId,
          ((s.setVpn s.attempt v).vpn s.attempt).created) ∧
      ((s.setVpn s.attempt v).vpn s.attempt).destroyed = none
    rw [hvpn, hconn, hsession, hdestroyed]
    exact ⟨rfl, (h.registered hd hs).2⟩
  opened := h.opened
  older := h.older
  closes := h.closes

variable {c : ControlSession} {pc : SessionPc}

/-- A session of an attempt changes; it stays closed, and open where the attempt needs it. -/
theorem setControl (h : Owned s) {k : ℕ} (hk : k ≤ s.attempt) (hok : c.Ok)
    (hclosing : c.closing = (s.control k).closing) : Owned (s.setControl k c) where
  ok j := by
    rw [setControl_control]
    split_ifs
    · exact hok
    · exact h.ok j
  fresh j hj := by
    have hne : j ≠ k := by
      have : s.attempt < j := hj
      omega
    rw [setControl_control, if_neg hne]
    exact h.fresh j hj
  cleanup := h.cleanup
  session := h.session
  taken := h.taken
  cleared := h.cleared
  registered := h.registered
  opened hd hopened := (setControl_keeps s (·.closing) hclosing _).trans (h.opened hd hopened)
  older j hj := (setControl_keeps s (·.closing) hclosing j).trans (h.older j hj)
  closes hd := (h.closes hd).imp_left (setControl_keeps s (·.closing) hclosing _).trans

theorem cleanupSession (h : Owned s) {c : Cleanup} (hc : s.cleanup = some c) (report : Bool)
    {session : Option ℕ} (hsession : c.session = session) :
    Owned (s.cleanupSession session report) := by
  have hsame := s.cleanupSession_sameLoop session report
  have hfields := cleanupSession_fields s report session
  have hrunning := h.cleanup (by simp [hc])
  have hattempt : ∀ k, session = some k → k = s.attempt := fun k hk =>
    h.session c k hc (hsession.trans hk)
  constructor
  · exact fun k => (cleanupSession_touched s report session k).ok (h.ok k)
  · intro k hk
    rw [hsame.attempt] at hk
    have hne : session ≠ some k := fun he => by
      have := hattempt k he
      omega
    rw [cleanupSession_vpn, cleanupSession_control, if_neg hne]
    exact h.fresh k hk
  · intro _
    rw [hsame.destroyRequested, cleanupSession_phase3]
    exact hrunning
  · intro d k hd hk
    rw [hsame.attempt]
    exact hattempt k (cleanupSession_session s report session hd hk)
  · rw [hsame.destroyRequested, cleanupSession_phase3]
    intro hout
    simp only [fields, Prod.mk.injEq] at hfields
    rw [hfields.1, hfields.2.1]
    exact h.taken hout
  · rw [hsame.destroyRequested, cleanupSession_phase3, hfields]
    exact h.cleared
  · rw [hsame.destroyRequested, cleanupSession_phase3, hfields, hsame.attempt, cleanupSession_vpn]
    exact h.registered
  · rw [hsame.destroyRequested, cleanupSession_phase3]
    intro hd hopened
    have hout := inSession_of_cleaning (hrunning.resolve_left (by simp [hd]))
    simp [inSession_of_opened hopened] at hout
  · intro k hk
    rw [hsame.attempt] at hk
    exact (cleanupSession_touched s report session k).closing (h.older k hk)
  · rw [hsame.destroyRequested, cleanupSession_phase3, hsame.attempt]
    intro hout
    by_cases hs : session = some s.attempt
    · rw [hs]
      exact cleanupSession_closes s report s.attempt
    · obtain hcl | ⟨d, hd, hds⟩ := h.closes hout
      · exact .inl ((cleanupSession_touched s report session _).closing hcl)
      · rw [hc, Option.some.injEq] at hd
        subst hd
        exact absurd (hsession.symm.trans hds) hs

theorem cleaning_of_inSession {phase : Phase3} (h : phase.inSession = true) :
    phase.cleaning = false := by
  by_contra hne
  simp [inSession_of_cleaning (by simpa using hne)] at h

theorem advance (h : Owned s) {pc' : SessionPc} (here : s.phase3 = .session pc)
    (hpc : Phase3.opened (.session pc) = true) : Owned { s with phase3 := .session pc' } := by
  apply h.within
  · rw [here]
    rfl
  · rfl
  · intro hd _
    apply h.opened hd
    rw [here]
    exact hpc

theorem inSession_of_session (here : s.phase3 = .session pc) : s.phase3.inSession = true := by
  rw [here]
  rfl

theorem sessionFails (h : Owned s) (here : s.phase3 = .session pc) : Owned s.sessionFails := by
  have hs := inSession_of_session here
  unfold VpnExtension.sessionFails
  split_ifs
  · exact h.finish (cleaning_of_inSession hs) _
  · split
    · exact h.within hs rfl (by simp [Phase3.opened])
    · exact h.recover (cleaning_of_inSession hs)

theorem sessionReturns (h : Owned s) (here : s.phase3 = .session pc) (reason : JsValue) :
    Owned (s.sessionReturns reason) := by
  unfold VpnExtension.sessionReturns
  split
  · split_ifs
    · exact h.sessionFails here
    · exact h.finish (cleaning_of_inSession (inSession_of_session here)) _
  · exact h.sessionFails here

theorem close_ok (h : c.Ok) : c.close.Ok := Touched.closed.ok h

theorem connectFails (h : Owned s) (hs : s.phase3.inSession = true) : Owned s.connectFails where
  ok k := by
    show ((s.setControl s.attempt (s.control s.attempt).close).control k).Ok
    rw [setControl_control]
    split_ifs
    · exact close_ok (h.ok _)
    · exact h.ok k
  fresh k hk := by
    have hne : k ≠ s.attempt := by
      have : s.attempt < k := hk
      omega
    show s.vpn k = {} ∧ (s.setControl s.attempt (s.control s.attempt).close).control k = {}
    rw [setControl_control, if_neg hne]
    exact h.fresh k hk
  cleanup hc := .inl ((h.cleanup hc).resolve_right (by simp [cleaning_of_inSession hs]))
  session := h.session
  taken hd := h.taken (hd.imp_right fun hin => by simp [VpnExtension.connectFails,
    Phase3.inSession] at hin)
  cleared _ hin := by simp [VpnExtension.connectFails, Phase3.inSession] at hin
  registered hd _ := h.registered hd hs
  opened _ hopened := by simp [VpnExtension.connectFails, Phase3.opened] at hopened
  older k hk := by
    have hne : k ≠ s.attempt := by
      have : k < s.attempt := hk
      omega
    show ((s.setControl s.attempt (s.control s.attempt).close).control k).closing = true
    rw [setControl_control, if_neg hne]
    exact h.older k hk
  closes _ := by
    left
    show ((s.setControl s.attempt (s.control s.attempt).close).control s.attempt).closing = true
    simp [ControlSession.close]

theorem named (h : Owned s) (hs : s.phase3.inSession = true) (id : JsString) :
    Owned { s.setVpn s.attempt { s.vpn s.attempt with vpnId := some id } with
      vpnId := some id } := by
  refine h.setVpn hs rfl fun hd => ⟨rfl, ?_⟩
  exact (h.registered_fields hd hs).2.2.2

theorem created (h : Owned s) (hs : s.phase3.inSession = true) :
    Owned { s.setVpn s.attempt { s.vpn s.attempt with created := true } with
      vpnCreated := true } := by
  refine h.setVpn hs rfl fun hd => ⟨?_, rfl⟩
  exact (h.registered_fields hd hs).2.2.1

theorem vpnIdGenerated (h : Owned s) (here : s.phase3 = .session .generateVpnId)
    (id : JsString) : Owned (s.vpnIdGenerated id) := by
  have hnamed := h.named (inSession_of_session here) id
  unfold VpnExtension.vpnIdGenerated
  dsimp only
  split_ifs
  · exact hnamed.sessionFails here
  · exact hnamed.advance here rfl

theorem vpnCreates (h : Owned s) (here : s.phase3 = .session .create) (pumpStarted : Bool) :
    Owned (s.vpnCreates pumpStarted) := by
  have hcreated := h.created (inSession_of_session here)
  unfold VpnExtension.vpnCreates
  dsimp only
  split_ifs
  · exact hcreated.advance here rfl
  · exact hcreated.sessionFails here

theorem startSession (h : Owned s) (hs : s.phase3 = .retryWait)
    (hd : s.destroyRequested = false) : Owned s.startSession := by
  have hnone : s.cleanup = none := by
    by_contra hne
    have := h.cleanup hne
    simp [hd, hs, Phase3.cleaning] at this
  obtain ⟨hvpn, hcontrol⟩ := h.fresh (s.attempt + 1) (Nat.lt_succ_self _)
  have hfields := h.cleared hd (by rw [hs]; rfl)
  simp only [fields, Prod.mk.injEq] at hfields
  constructor
  · exact h.ok
  · exact fun k hk => h.fresh k (Nat.lt_of_succ_lt hk)
  · exact fun hc => absurd hnone hc
  · intro c k hc
    simp [VpnExtension.startSession, hnone] at hc
  · simp [VpnExtension.startSession, Phase3.inSession, hd]
  · simp [VpnExtension.startSession, Phase3.inSession]
  · intro _ _
    simp [VpnExtension.startSession, fields, hvpn, hfields]
  · intro _ _
    simp [VpnExtension.startSession, hcontrol]
  · intro k hk
    obtain hlt | rfl := Nat.lt_succ_iff_lt_or_eq.mp hk
    · exact h.older k hlt
    · obtain hcl | ⟨c, hc, -⟩ := h.closes (.inr (by rw [hs]; rfl))
      · exact hcl
      · simp [hnone] at hc
  · simp [VpnExtension.startSession, Phase3.inSession, hd]

theorem onDestroy (h : Owned s) : Owned s.onDestroy := by
  rw [onDestroy_eq]
  refine h.clean ?_ false rfl rfl rfl rfl ?_ (fun _ => rfl) (.inl rfl)
  · by_cases hn : s.cleanup = none
    · exact .inl hn
    · exact .inr ((h.cleanup hn).imp_right inSession_of_cleaning)
  · exact (s.cleanupPhase3_sameLoop false).attempt

theorem move {t : VpnExtension} {turn : Turn} {l : ExtensionLabel}
    (hmove : ExtensionMove s turn l t) (h : Owned s) : Owned t := by
  cases hmove with
  | connected here => exact h.advance here rfl
  | connectFails here => exact h.connectFails (inSession_of_session here)
  | handshaken here _ => exact h.advance here rfl
  | rejected here _ => exact h.connectFails (inSession_of_session here)
  | connectClosed here => exact h.sessionFails here
  | startingReported connected here =>
    unfold VpnExtension.connectData
    split_ifs
    · exact h.advance here rfl
    · exact h.sessionFails here
  | controlProtected here => exact h.advance here rfl
  | dataProtected here => exact h.advance here rfl
  | vpnIdGenerated id here => exact h.vpnIdGenerated here id
  | vpnCreates pumpStarted here => exact h.vpnCreates here pumpStarted
  | activeReported here => exact h.advance here rfl
  | setupFails here _ => exact h.sessionFails here
  | returns here _ => exact h.sessionReturns here _
  | pumpStops _ here _ => exact h.sessionReturns here _
  | recoveryReported here => exact h.recover (by rw [here]; rfl)
  | recovered here done =>
    exact h.outside (by rw [here]; rfl) rfl fun hc => absurd done hc
  | retryStopped here _ => exact h.finish (by rw [here]; rfl) _
  | start here goes => exact h.startSession here goes
  | loopLeft here _ => exact h.finish (by rw [here]; rfl) _
  | @cleaned reason here done =>
    have hphase : Phase3.inSession
        (if reportsStopped reason then .publishing reason else .stoppingOwn reason) = false := by
      split_ifs <;> rfl
    have := h.outside (by rw [here]; rfl) hphase fun hc => absurd done hc
    exact ⟨this.ok, this.fresh, this.cleanup, this.session, this.taken, this.cleared,
      this.registered, this.opened, this.older, this.closes⟩
  | published here =>
    exact h.outside (by rw [here]; rfl) rfl fun hc => (h.cleanup hc).imp_right
      (by simp [here, Phase3.cleaning])
  | ownStopped here =>
    exact h.outside (by rw [here]; rfl) rfl fun hc => (h.cleanup hc).imp_right
      (by simp [here, Phase3.cleaning])
  | @control k _ _ existing moves =>
    exact h.setControl existing (moves.grows.ok (h.ok k)) moves.grows.closing
  | uiStop _ =>
    exact ⟨h.ok, h.fresh, h.cleanup, h.session, h.taken, h.cleared, h.registered, h.opened,
      h.older, h.closes⟩
  | onDestroy _ => exact h.onDestroy
  | destroySettled here => exact h.cleanupSession here _ rfl
  | @stoppedReported k _ here =>
    show Owned (s.cleanupSession (some k) false)
    exact h.cleanupSession here false rfl
  | closed here => exact h.cleanupSession here false rfl

theorem of_reachable (h : Reachable ExtensionStep VpnExtension.Initial s) : Owned s := by
  refine h.invariant ?_ ?_
  · rintro _ ⟨isolated, rfl⟩
    exact initial isolated
  · intro s l t hstep hs
    obtain ⟨turn, hmove, -⟩ := hstep.move
    exact move hmove hs

end Owned

end HarmonyNetBridge.Harmony
