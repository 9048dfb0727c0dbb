import HarmonyNetBridge.Harmony.ExtensionStops

/-! Which of the created connections are destroyed. -/
namespace HarmonyNetBridge.Harmony
open Transition

/-- The awaits of an attempt until `create` has succeeded. -/
def Phase3.beforeCreate : Phase3 → Bool
  | session (.reportActive _) => false
  | session .racing => false
  | session _ => true
  | _ => false

/-- The attempt has given its connection up to a cleanup. -/
def Out (s : VpnExtension) : Prop := s.destroyRequested = true ∨ s.phase3.inSession = false

instance (s : VpnExtension) : Decidable (Out s) := inferInstanceAs (Decidable (_ ∨ _))

structure VpnKept (s t : VpnExtension) : Prop where
  vpn : t.vpn = s.vpn
  attempt : t.attempt = s.attempt
  requested : t.destroyRequested = s.destroyRequested
  out : Out t → Out s
  before : t.phase3.beforeCreate = true → s.phase3.beforeCreate = true

/-- The connections after a cleanup: `destroy` is called for the registered one. -/
def destroyRegistered (s : VpnExtension) (k : ℕ) : VpnConnection :=
  if ¬ Out s ∧ k = s.attempt ∧ (s.vpn k).created = true then
    { s.vpn k with destroyed := some (s.vpn k).vpnId }
  else s.vpn k

/-- The labels that tell when a connection was created and when the extension was destroyed. -/
def ExtensionLabel.aboutVpn : ExtensionLabel → Bool
  | created _ => true
  | onDestroy => true
  | _ => false

inductive VpnMove (s t : VpnExtension) : ExtensionLabel → Prop
  | kept {l : ExtensionLabel} (h : VpnKept s t) (other : l.aboutVpn = false) :
      VpnMove s t l
  | named (id : JsString)
      (h : VpnKept (s.setVpn s.attempt { s.vpn s.attempt with vpnId := some id }) t)
      (here : s.phase3.beforeCreate = true) : VpnMove s t .internal
  | created (h : VpnKept (s.setVpn s.attempt { s.vpn s.attempt with created := true }) t)
      (here : s.phase3.beforeCreate = true) (past : t.phase3.beforeCreate = false) :
      VpnMove s t (.created s.attempt)
  | cleaned {l : ExtensionLabel} (vpn : t.vpn = destroyRegistered s)
      (attempt : t.attempt = s.attempt) (requested : t.destroyRequested = s.destroyRequested)
      (out : Out t) (past : t.phase3.beforeCreate = false) (other : l.aboutVpn = false) :
      VpnMove s t l
  | destroyed (vpn : t.vpn = destroyRegistered s) (attempt : t.attempt = s.attempt)
      (requested : t.destroyRequested = true)
      (before : t.phase3.beforeCreate = true → s.phase3.beforeCreate = true) :
      VpnMove s t .onDestroy
  | started (vpn : t.vpn = s.vpn) (attempt : t.attempt = s.attempt + 1)
      (requested : t.destroyRequested = s.destroyRequested) (goes : s.destroyRequested = false)
      (out : Out s) : VpnMove s t (.start (s.attempt + 1))

section moves
variable {s t : VpnExtension}

theorem cleanupPhase3_destroyRegistered (h : Owned s) (hc : s.phase3.cleaning = false ∨ Out s)
    (report : Bool) : (s.cleanupPhase3 report).vpn = destroyRegistered s := by
  funext k
  rw [cleanupPhase3_vpn]
  unfold destroyRegistered
  by_cases hout : Out s
  · have hnone := (h.taken hout).1
    simp [hnone, hout]
  · have hd : s.destroyRequested = false := by simpa using fun hd => hout (.inl hd)
    have hin : s.phase3.inSession = true := by simpa using fun hin => hout (.inr hin)
    have hcleanup := (h.idle (hc.resolve_right hout)).resolve_right (by simp [hd])
    obtain ⟨hconn, -, hid, hcreated⟩ := h.registered_fields hd hin
    by_cases hk : k = s.attempt
    · subst hk
      simp [hcleanup, hout, hconn, hid, hcreated]
    · have hne : s.attempt ≠ k := fun he => hk he.symm
      simp [hconn, hk, hne]

theorem destroyRegistered_of_out (h : Out s) : destroyRegistered s = s.vpn := by
  funext k
  simp [destroyRegistered, h]

theorem VpnKept.within {phase : Phase3} (hphase : phase.inSession = true)
    (hbefore : phase.beforeCreate = true → s.phase3.beforeCreate = true) :
    VpnKept s { s with phase3 := phase } :=
  ⟨rfl, rfl, rfl, fun h => .inl (h.resolve_right (by simp [hphase])), hbefore⟩

theorem VpnKept.outside (hs : s.phase3.inSession = false) {phase : Phase3}
    (hphase : phase.beforeCreate = false) : VpnKept s { s with phase3 := phase } :=
  ⟨rfl, rfl, rfl, fun _ => .inr hs, by simp [hphase]⟩

theorem VpnKept.elsewhere (hvpn : t.vpn = s.vpn) (hsame : SameLoop s t)
    (hphase : t.phase3 = s.phase3) : VpnKept s t := by
  refine ⟨hvpn, hsame.attempt, hsame.destroyRequested, ?_, ?_⟩
  · unfold Out
    rw [hsame.destroyRequested, hphase]
    exact id
  · rw [hphase]
    exact id

theorem VpnKept.connectFails (hs : s.phase3.beforeCreate = true) : VpnKept s s.connectFails := by
  refine ⟨rfl, rfl, rfl, fun hout => .inl (hout.resolve_right ?_), fun _ => hs⟩
  simp [VpnExtension.connectFails, Phase3.inSession]

/-- The catch block leaves the connections alone: after `onDestroy` nothing is registered. -/
theorem VpnKept.sessionFails (h : Owned s) {pc : SessionPc} (here : s.phase3 = .session pc) :
    VpnKept s s.sessionFails := by
  have hsame := s.sessionFails_sameLoop
  by_cases hd : s.destroyRequested = true
  · have hfails : s.sessionFails = s.finish systemStop := by
      simp [VpnExtension.sessionFails, hd]
    refine ⟨?_, hsame.attempt, hsame.destroyRequested, fun _ => .inl hd, ?_⟩
    · rw [hfails, ← destroyRegistered_of_out (.inl hd)]
      exact cleanupPhase3_destroyRegistered h (.inr (.inl hd)) _
    · rw [hfails]
      intro hbefore
      exact absurd hbefore (by simp [VpnExtension.finish, Phase3.beforeCreate])
  · have hfalse : s.destroyRequested = false := by simpa using hd
    have hcontrol := h.controlSession_eq hfalse (Owned.inSession_of_session here)
    have hfails : s.sessionFails =
        { s with phase3 := .recovering (s.control s.attempt).sends } := by
      simp [VpnExtension.sessionFails, hfalse, hcontrol]
    rw [hfails]
    exact .within rfl (by simp [Phase3.beforeCreate])

theorem VpnMove.finish (h : Owned s) (hp : s.phase3.cleaning = false) (reason : JsString)
    {l : ExtensionLabel} (other : l.aboutVpn = false) : VpnMove s (s.finish reason) l := by
  have hsame := s.finish_sameLoop reason
  exact .cleaned (cleanupPhase3_destroyRegistered h (.inl hp) _) hsame.attempt
    hsame.destroyRequested (.inr rfl) rfl other

theorem VpnMove.sessionReturns (h : Owned s) {pc : SessionPc} (here : s.phase3 = .session pc)
    (reason : JsValue) : VpnMove s (s.sessionReturns reason) (.returns s.attempt reason) := by
  have hcleaning := Owned.cleaning_of_inSession (Owned.inSession_of_session here)
  unfold VpnExtension.sessionReturns
  split
  · split_ifs
    · exact .kept (.sessionFails h here) rfl
    · exact .finish h hcleaning _ rfl
  · exact .kept (.sessionFails h here) rfl

theorem VpnMove.vpnIdGenerated (h : Owned s) (here : s.phase3 = .session .generateVpnId)
    (id : JsString) : VpnMove s (s.vpnIdGenerated id) .internal := by
  refine .named id ?_ (by rw [here]; rfl)
  unfold VpnExtension.vpnIdGenerated
  dsimp only
  split_ifs
  · have hkept := VpnKept.sessionFails (h.named (Owned.inSession_of_session here) id) here
    exact ⟨hkept.vpn, hkept.attempt, hkept.requested, hkept.out, hkept.before⟩
  · exact ⟨rfl, rfl, rfl, fun ho => .inl (ho.resolve_right (by simp [Phase3.inSession])),
      fun _ => by show s.phase3.beforeCreate = true; rw [here]; rfl⟩

theorem sessionFails_beforeCreate (s : VpnExtension) :
    s.sessionFails.phase3.beforeCreate = false := by
  unfold VpnExtension.sessionFails
  split_ifs
  · rfl
  · split <;> rfl

theorem VpnMove.vpnCreates (h : Owned s) (here : s.phase3 = .session .create)
    (pumpStarted : Bool) : VpnMove s (s.vpnCreates pumpStarted) (.created s.attempt) := by
  have hbefore : s.phase3.beforeCreate = true := by rw [here]; rfl
  unfold VpnExtension.vpnCreates
  dsimp only
  split_ifs
  · exact .created ⟨rfl, rfl, rfl, fun ho => .inl (ho.resolve_right (by simp
      [Phase3.inSession])), fun _ => hbefore⟩ hbefore rfl
  · have hkept := VpnKept.sessionFails (h.created (Owned.inSession_of_session here)) here
    exact .created ⟨hkept.vpn, hkept.attempt, hkept.requested, hkept.out, hkept.before⟩ hbefore
      (sessionFails_beforeCreate _)

theorem ExtensionMove.vpn {turn : Turn} {l : ExtensionLabel} (hmove : ExtensionMove s turn l t)
    (h : Owned s) : VpnMove s t l := by
  cases hmove with
  | connected here => exact .kept (.within rfl (by rw [here]; exact id)) rfl
  | connectFails here => exact .kept (.connectFails (by rw [here]; rfl)) rfl
  | handshaken here _ => exact .kept (.within rfl (by rw [here]; exact id)) rfl
  | rejected here _ => exact .kept (.connectFails (by rw [here]; rfl)) rfl
  | connectClosed here => exact .kept (.sessionFails h here) rfl
  | startingReported connected here =>
    unfold VpnExtension.connectData
    split_ifs
    · exact .kept (.within rfl (by rw [here]; exact id)) rfl
    · exact .kept (.sessionFails h here) rfl
  | controlProtected here => exact .kept (.within rfl (by rw [here]; exact id)) rfl
  | dataProtected here =>
    exact .kept (.within rfl (fun _ => by rw [here]; rfl)) rfl
  | vpnIdGenerated id here => exact .vpnIdGenerated h here id
  | vpnCreates pumpStarted here => exact .vpnCreates h here pumpStarted
  | activeReported here =>
    exact .kept (.within rfl (by simp [Phase3.beforeCreate])) rfl
  | setupFails here _ => exact .kept (.sessionFails h here) rfl
  | returns here _ => exact .sessionReturns h here _
  | pumpStops _ here _ => exact .sessionReturns h here _
  | recoveryReported here =>
    have hsame := s.recover_sameLoop
    exact .cleaned (cleanupPhase3_destroyRegistered h (.inl (by rw [here]; rfl)) _) hsame.attempt
      hsame.destroyRequested (.inr rfl) rfl rfl
  | recovered here _ => exact .kept (.outside (by rw [here]; rfl) rfl) rfl
  | retryStopped here _ => exact .finish h (by rw [here]; rfl) _ rfl
  | start here goes => exact .started rfl rfl rfl goes (.inr (by rw [here]; rfl))
  | loopLeft here _ => exact .finish h (by rw [here]; rfl) _ rfl
  | @cleaned reason here _ =>
    refine .kept ⟨rfl, rfl, rfl, fun _ => .inr (by rw [here]; rfl), ?_⟩ rfl
    show Phase3.beforeCreate (if reportsStopped reason then _ else _) = true → _
    split_ifs <;> simp [Phase3.beforeCreate]
  | published here => exact .kept (.outside (by rw [here]; rfl) rfl) rfl
  | ownStopped here => exact .kept (.outside (by rw [here]; rfl) rfl) rfl
  | @control _ l _ _ _ =>
    exact .kept ⟨rfl, rfl, rfl, id, id⟩ (by cases l <;> rfl)
  | uiStop _ => exact .kept ⟨rfl, rfl, rfl, id, id⟩ rfl
  | onDestroy once =>
    have hc : s.phase3.cleaning = false ∨ Out s := by
      cases hcleaning : s.phase3.cleaning with
      | false => exact .inl rfl
      | true => exact .inr (.inr (Owned.inSession_of_cleaning hcleaning))
    rw [onDestroy_eq]
    exact .destroyed (cleanupPhase3_destroyRegistered h hc false)
      (s.cleanupPhase3_sameLoop false).attempt rfl (by rw [cleanupPhase3_phase3]; exact id)
  | @destroySettled session report _ =>
    have hsame := s.cleanupSession_sameLoop session report
    exact .kept (.elsewhere (cleanupSession_vpn s report session) hsame
      (cleanupSession_phase3 s report session)) rfl
  | stoppedReported _ => exact .kept ⟨rfl, rfl, rfl, id, id⟩ rfl
  | closed _ => exact .kept ⟨rfl, rfl, rfl, id, id⟩ rfl

end moves

section destroyRegistered
variable (s : VpnExtension) (k : ℕ)

@[simp] theorem destroyRegistered_created :
    (destroyRegistered s k).created = (s.vpn k).created := by
  unfold destroyRegistered
  split_ifs <;> rfl

@[simp] theorem destroyRegistered_vpnId : (destroyRegistered s k).vpnId = (s.vpn k).vpnId := by
  unfold destroyRegistered
  split_ifs <;> rfl

variable {s k}

theorem destroyRegistered_other (h : k ≠ s.attempt ∨ (s.vpn k).created = false) :
    destroyRegistered s k = s.vpn k := by
  unfold destroyRegistered
  rw [if_neg]
  rintro ⟨-, hk, hcreated⟩
  obtain hne | hfalse := h
  · exact hne hk
  · simp [hcreated] at hfalse

theorem destroyRegistered_called (hout : ¬ Out s) (h : (s.vpn s.attempt).created = true) :
    (destroyRegistered s s.attempt).destroyed = some (s.vpn s.attempt).vpnId := by
  simp [destroyRegistered, hout, h]

end destroyRegistered

/-- What a run tells about the connections. A connection of the last attempt that was created after
`onDestroy` is never destroyed; every other one is, once its attempt is over. -/
structure VpnHistory (ls : List ExtensionLabel) (s : VpnExtension) : Prop where
  requested : .onDestroy ∈ ls ↔ s.destroyRequested = true
  created : ∀ k, .created k ∈ ls ↔ (s.vpn k).created = true
  uncreated : s.phase3.beforeCreate = true → (s.vpn s.attempt).created = false
  uncalled : ∀ k, (s.vpn k).created = false → (s.vpn k).destroyed = none
  older : ∀ k, k < s.attempt → (s.vpn k).created = true →
    (s.vpn k).destroyed = some (s.vpn k).vpnId ∧ Unpreceded .onDestroy (.created k) ls
  called : Out s → Unpreceded .onDestroy (.created s.attempt) ls →
    (s.vpn s.attempt).destroyed = some (s.vpn s.attempt).vpnId
  late : (s.vpn s.attempt).created = true → ¬ Unpreceded .onDestroy (.created s.attempt) ls →
    (s.vpn s.attempt).destroyed = none

theorem VpnHistory.initial (isolated : Bool) : VpnHistory [] { isolated } where
  requested := by simp
  created := by simp
  uncreated _ := rfl
  uncalled _ _ := rfl
  older _ h := absurd h (Nat.not_lt_zero _)
  called _ h := absurd h not_unpreceded_nil
  late h := by simp at h

namespace VpnHistory
variable {ls : List ExtensionLabel} {s t : VpnExtension} {l : ExtensionLabel}

theorem unpreceded (h : VpnHistory ls s) (hd : s.destroyRequested = false) {k : ℕ}
    (hk : (s.vpn k).created = true) : Unpreceded .onDestroy (.created k) ls := by
  have hnot : ExtensionLabel.onDestroy ∉ ls := fun hmem => by simp [h.requested.mp hmem] at hd
  obtain ⟨ls₁, ls₂, rfl⟩ := List.append_of_mem ((h.created k).mpr hk)
  exact ⟨ls₁, ls₂, rfl, fun hmem => hnot (List.mem_append_left _ hmem)⟩

theorem unpreceded_other (hl : ∀ k, l ≠ .created k) {k : ℕ} :
    Unpreceded .onDestroy (.created k) (ls ++ [l]) ↔ Unpreceded .onDestroy (.created k) ls := by
  rw [unpreceded_snoc]
  exact ⟨fun h => h.resolve_right fun hr => hl k hr.1.symm, .inl⟩

theorem kept (h : VpnHistory ls s) (hkept : VpnKept s t) (other : l.aboutVpn = false) :
    VpnHistory (ls ++ [l]) t := by
  have hcreates : ∀ k, l ≠ .created k := by
    rintro k rfl
    simp [ExtensionLabel.aboutVpn] at other
  have hdestroys : ExtensionLabel.onDestroy ≠ l := by
    rintro rfl
    simp [ExtensionLabel.aboutVpn] at other
  constructor
  · simpa [hdestroys, hkept.requested] using h.requested
  · intro k
    simpa [(hcreates k).symm, hkept.vpn] using h.created k
  · rw [hkept.vpn, hkept.attempt]
    exact fun hb => h.uncreated (hkept.before hb)
  · rw [hkept.vpn]
    exact h.uncalled
  · rw [hkept.vpn, hkept.attempt]
    intro k hk hcreated
    rw [unpreceded_other hcreates]
    exact h.older k hk hcreated
  · rw [hkept.vpn, hkept.attempt, unpreceded_other hcreates]
    exact fun hout => h.called (hkept.out hout)
  · rw [hkept.vpn, hkept.attempt, unpreceded_other hcreates]
    exact h.late

/-- A cleanup calls `destroy` for a connection that was created before `onDestroy`. -/
theorem cleaned (h : VpnHistory ls s) (hvpn : t.vpn = destroyRegistered s)
    (hattempt : t.attempt = s.attempt)
    (hrequested : .onDestroy ∈ ls ++ [l] ↔ t.destroyRequested = true)
    (hbefore : t.phase3.beforeCreate = true → s.phase3.beforeCreate = true)
    (hcreates : ∀ k, l ≠ .created k) : VpnHistory (ls ++ [l]) t := by
  constructor
  · exact hrequested
  · intro k
    simpa [(hcreates k).symm, hvpn] using h.created k
  · rw [hvpn, hattempt]
    simpa using fun hb => h.uncreated (hbefore hb)
  · rw [hvpn]
    intro k hk
    rw [destroyRegistered_created] at hk
    rw [destroyRegistered_other (.inr hk)]
    exact h.uncalled k hk
  · rw [hvpn, hattempt]
    intro k hk hcreated
    rw [unpreceded_other hcreates]
    rw [destroyRegistered_other (.inl (Nat.ne_of_lt hk))] at hcreated ⊢
    exact h.older k hk hcreated
  · rw [hvpn, hattempt, unpreceded_other hcreates]
    intro _ hun
    by_cases hout : Out s
    · rw [destroyRegistered_of_out hout]
      exact h.called hout hun
    · rw [destroyRegistered_vpnId]
      exact destroyRegistered_called hout ((h.created _).mp hun.mem)
  · rw [hvpn, hattempt, unpreceded_other hcreates, destroyRegistered_created]
    intro hcreated hlate
    have hout : Out s := by
      by_contra hout
      have hd : s.destroyRequested = false := by simpa using fun hd => hout (.inl hd)
      exact hlate (h.unpreceded hd hcreated)
    rw [destroyRegistered_of_out hout]
    exact h.late hcreated hlate

theorem named (h : VpnHistory ls s) (here : s.phase3.beforeCreate = true) (id : JsString) :
    VpnHistory ls (s.setVpn s.attempt { s.vpn s.attempt with vpnId := some id }) := by
  have hfalse := h.uncreated here
  have hcreated : ∀ k,
      ((s.setVpn s.attempt { s.vpn s.attempt with vpnId := some id }).vpn k).created =
        (s.vpn k).created := by
    intro k
    rw [setVpn_vpn]
    split_ifs with hk
    · rw [hk]
    · rfl
  constructor
  · exact h.requested
  · intro k
    rw [hcreated]
    exact h.created k
  · intro _
    exact (hcreated _).trans hfalse
  · intro k hk
    rw [hcreated] at hk
    rw [setVpn_vpn]
    split_ifs with he
    · subst he
      exact h.uncalled _ hk
    · exact h.uncalled k hk
  · intro k hk hc
    have hne : k ≠ s.attempt := Nat.ne_of_lt hk
    rw [hcreated] at hc
    rw [setVpn_vpn, if_neg hne]
    exact h.older k hk hc
  · intro _ hun
    have hc := (h.created s.attempt).mp hun.mem
    simp [hfalse] at hc
  · intro hc
    have hc := (hcreated s.attempt).symm.trans hc
    simp [hfalse] at hc

/-- `create` succeeds: after `onDestroy` its connection is a late one. -/
theorem creates (h : VpnHistory ls s) (here : s.phase3.beforeCreate = true)
    (hkept : VpnKept (s.setVpn s.attempt { s.vpn s.attempt with created := true }) t)
    (past : t.phase3.beforeCreate = false) : VpnHistory (ls ++ [.created s.attempt]) t := by
  have hfalse := h.uncreated here
  have hin : s.phase3.inSession = true := by
    unfold Phase3.beforeCreate at here
    split at here <;> simp_all [Phase3.inSession]
  have hvpn : ∀ k, t.vpn k =
      if k = s.attempt then { s.vpn s.attempt with created := true } else s.vpn k := by
    intro k
    rw [hkept.vpn, setVpn_vpn]
  have hattempt : t.attempt = s.attempt := hkept.attempt
  have hmem : ∀ k, .created k ∈ ls ++ [.created s.attempt] ↔ .created k ∈ ls ∨ k = s.attempt := by
    simp
  constructor
  · have hrequested : t.destroyRequested = s.destroyRequested := hkept.requested
    simpa [hrequested] using h.requested
  · intro k
    rw [hmem, hvpn]
    split_ifs with hk
    · simp [hk]
    · simpa [hk] using h.created k
  · simp [past]
  · intro k hk
    rw [hvpn] at hk ⊢
    split_ifs at hk ⊢
    exact h.uncalled k hk
  · rw [hattempt]
    intro k hk hc
    have hne : k ≠ s.attempt := Nat.ne_of_lt hk
    rw [hvpn, if_neg hne] at hc ⊢
    obtain ⟨hd, hun⟩ := h.older k hk hc
    exact ⟨hd, unpreceded_snoc.mpr (.inl hun)⟩
  · rw [hattempt, unpreceded_snoc]
    rintro hout (hun | ⟨-, hnot⟩)
    · have hc := (h.created s.attempt).mp hun.mem
      simp [hfalse] at hc
    · -- the attempt can only be over because of `onDestroy`
      have hd := (hkept.out hout).resolve_right (by
        show ¬ s.phase3.inSession = false
        simp [hin])
      exact absurd (h.requested.mpr hd) hnot
  · rw [hattempt, hvpn, if_pos rfl]
    intro _ _
    exact h.uncalled s.attempt hfalse

/-- The next attempt starts only before `onDestroy`, with a connection of its own. -/
theorem starts (h : VpnHistory ls s) (howned : Owned s) (hvpn : t.vpn = s.vpn)
    (hattempt : t.attempt = s.attempt + 1) (hrequested : t.destroyRequested = s.destroyRequested)
    (goes : s.destroyRequested = false) (out : Out s) :
    VpnHistory (ls ++ [.start (s.attempt + 1)]) t := by
  have hfresh := (howned.fresh (s.attempt + 1) (Nat.lt_succ_self _)).1
  have hcreates : ∀ k, ExtensionLabel.start (s.attempt + 1) ≠ .created k := by simp
  constructor
  · rw [hrequested]
    simpa using h.requested
  · intro k
    rw [hvpn]
    simpa using h.created k
  · rw [hvpn, hattempt, hfresh]
    exact fun _ => rfl
  · rw [hvpn]
    exact h.uncalled
  · rw [hvpn, hattempt]
    intro k hk hc
    rw [unpreceded_other hcreates]
    obtain hlt | rfl := Nat.lt_succ_iff_lt_or_eq.mp hk
    · exact h.older k hlt hc
    · have hun := h.unpreceded goes hc
      exact ⟨h.called out hun, hun⟩
  · rw [hvpn, hattempt, unpreceded_other hcreates, hfresh]
    intro _ hun
    have hc := (h.created _).mp hun.mem
    simp [hfresh] at hc
  · rw [hvpn, hattempt, hfresh]
    simp

theorem step (h : VpnHistory ls s) (howned : Owned s) (hmove : VpnMove s t l) :
    VpnHistory (ls ++ [l]) t := by
  cases hmove with
  | kept hkept other => exact h.kept hkept other
  | named id hkept here => exact (h.named here id).kept hkept rfl
  | created hkept here past => exact h.creates here hkept past
  | cleaned hvpn hattempt hrequested _ past other =>
    refine h.cleaned hvpn hattempt ?_ (by simp [past]) ?_
    · have hne : ExtensionLabel.onDestroy ≠ l := by
        rintro rfl
        simp [ExtensionLabel.aboutVpn] at other
      simpa [hne, hrequested] using h.requested
    · rintro k rfl
      simp [ExtensionLabel.aboutVpn] at other
  | destroyed hvpn hattempt hrequested before =>
    exact h.cleaned hvpn hattempt (by simp [hrequested]) before (by simp)
  | started hvpn hattempt hrequested goes out =>
    exact h.starts howned hvpn hattempt hrequested goes out

theorem of_run {s₀ : VpnExtension} (hinit : s₀.Initial) (hrun : Run ExtensionStep s₀ ls s) :
    VpnHistory ls s := by
  have key : VpnHistory ls s ∧ Owned s := by
    apply hrun.snocInduction (motive := fun ls s => VpnHistory ls s ∧ Owned s)
    · obtain ⟨isolated, rfl⟩ := hinit
      exact ⟨.initial isolated, .initial isolated⟩
    · rintro ls s l t - ⟨h, howned⟩ hstep
      obtain ⟨turn, hmove, -⟩ := hstep.move
      exact ⟨h.step howned (hmove.vpn howned), .move hmove howned⟩
  exact key.1

end VpnHistory

/-- A created connection is destroyed, with the identity generated for it, before the next session
starts. When `runPhase3` has returned it is destroyed just when `create` succeeded before
`onDestroy`. -/
theorem created_destroyed_iff {s₀ s : VpnExtension} {ls : List ExtensionLabel}
    (hinit : s₀.Initial) (hrun : Run ExtensionStep s₀ ls s) :
    (∀ k, k < s.attempt → (s.vpn k).created = true →
      (s.vpn k).destroyed = some (s.vpn k).vpnId) ∧
    ∀ reason, s.phase3 = .returned reason → ∀ k, (s.vpn k).created = true →
      ((s.vpn k).destroyed = some (s.vpn k).vpnId ↔ Unpreceded .onDestroy (.created k) ls) := by
  have h := VpnHistory.of_run hinit hrun
  have howned : Owned s := .of_reachable ⟨s₀, ls, hinit, hrun⟩
  constructor
  · exact fun k hk hc => (h.older k hk hc).1
  · intro reason hret k hc
    obtain hlt | rfl | hgt := Nat.lt_trichotomy k s.attempt
    · obtain ⟨hdestroyed, hun⟩ := h.older k hlt hc
      exact iff_of_true hdestroyed hun
    · constructor
      · intro hdestroyed
        by_contra hlate
        simp [h.late hc hlate] at hdestroyed
      · exact h.called (.inr (by rw [hret]; rfl))
    · simp [(howned.fresh k hgt).1] at hc

theorem uiStopped_run : ∃ s t : VpnExtension,
    ExtensionStep ((createdAt .racing).setControl 0 acknowledged) .uiStop s ∧
    Run ExtensionStep s [.returns 0 (.string uiRequested), .internal, .internal, .internal,
      .internal, .internal, .internal] t ∧
    t.phase3 = .returned uiRequested ∧ (t.vpn 0).created = true := by
  let stopped : VpnExtension :=
    ((createdAt .racing).setControl 0 acknowledged).resolveUIStop uiRequested
  let reporting : VpnExtension := (stopped.finish uiRequested).cleanupSession (some 0) true
  let closing : VpnExtension := reporting.cleanupClose 0
  let closed : VpnExtension := { closing with cleanup := none }
  let published : VpnExtension :=
    { closed.cleaned uiRequested with phase3 := .stoppingOwn uiRequested }
  have hstop : ExtensionStep ((createdAt .racing).setControl 0 acknowledged) .uiStop stopped :=
    .event (.uiStop rfl) rfl
  have hreturns : ExtensionStep stopped (.returns 0 (.string uiRequested))
      (stopped.finish uiRequested) := .task (.returns rfl rfl)
  have hdestroy : ExtensionStep (stopped.finish uiRequested) .internal reporting :=
    .event (.destroySettled rfl) rfl
  have hreport : ExtensionStep reporting .internal closing :=
    .after (.stoppedReported rfl) fun _ => rfl
  have hclose : ExtensionStep closing .internal closed := .after (.closed rfl) fun _ => rfl
  have hcleaned : ExtensionStep closed .internal (closed.cleaned uiRequested) :=
    .task (.cleaned rfl rfl)
  have hpublished : ExtensionStep (closed.cleaned uiRequested) .internal published :=
    .event (.published rfl) rfl
  have hret : ExtensionStep published .internal
      { published with phase3 := .returned uiRequested } := .event (.ownStopped rfl) rfl
  exact ⟨_, _, hstop, .cons hreturns (.cons hdestroy (.cons hreport (.cons hclose (.cons hcleaned
    (.cons hpublished (.single hret)))))), rfl, rfl⟩

theorem created_destroyed_uiStopped : ∃ s : VpnExtension, (s.vpn 0).created = true ∧
    (s.vpn 0).destroyed = some (s.vpn 0).vpnId ∧ s.phase3 = .returned uiRequested := by
  obtain ⟨t, s, hstop, hrun, hret, hcreated⟩ := uiStopped_run
  have h := (created_destroyed_iff ⟨false, rfl⟩ (active_run.append (.cons hstop hrun))).2
    uiRequested hret 0 hcreated
  exact ⟨s, hcreated, h.mpr ⟨setupLabels, _, rfl, by decide⟩, hret⟩

/-- `onDestroy` runs while `create` is pending, and `create` succeeds: `runPhase3` returns and the
tunnel is never destroyed. -/
theorem created_never_destroyed : ∃ s : VpnExtension, Run ExtensionStep { isolated := false }
      (setupLabels ++ [.onDestroy, .created 0, .internal,
        .returns 0 (.string (jsString "local_stop")), .internal, .internal, .internal]) s ∧
    s.phase3 = .returned (jsString "local_stop") ∧ (s.vpn 0).created = true ∧
    (s.vpn 0).destroyed = none := by
  let destroyed : VpnExtension := (attemptAt .create acknowledged).onDestroy
  let created : VpnExtension := destroyed.vpnCreates true
  let racing : VpnExtension := { created with phase3 := .session .racing }
  let left : VpnExtension := racing.finish (jsString "local_stop")
  let closed : VpnExtension := { left with cleanup := none }
  let cleaned : VpnExtension := closed.cleaned (jsString "local_stop")
  have hdestroy : ExtensionStep (attemptAt .create acknowledged) .onDestroy destroyed :=
    .event (.onDestroy rfl) rfl
  have hcreate : ExtensionStep destroyed (.created 0) created := .event (.vpnCreates true rfl) rfl
  have hactive : ExtensionStep created .internal racing := .after (.activeReported rfl) (by decide)
  have hreturns : ExtensionStep racing (.returns 0 (.string (jsString "local_stop"))) left :=
    .task (.returns rfl rfl)
  have hclose : ExtensionStep left .internal closed := .after (.closed rfl) fun _ => rfl
  have hcleaned : ExtensionStep closed .internal cleaned := .task (.cleaned rfl rfl)
  have hret : ExtensionStep cleaned .internal
      { cleaned with phase3 := .returned (jsString "local_stop") } := .event (.ownStopped rfl) rfl
  exact ⟨_, creating_run.append (.cons hdestroy (.cons hcreate (.cons hactive (.cons hreturns
    (.cons hclose (.cons hcleaned (.single hret))))))), rfl, rfl, rfl⟩

end HarmonyNetBridge.Harmony
