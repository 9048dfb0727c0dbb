import HarmonyNetBridge.Daemon.Effect

/-! The registry refines the abstract session machine: every section of a goroutine is one
abstract step, whatever the other goroutines do in between. -/
namespace HarmonyNetBridge.Daemon
open Transition SessionSpec Function

abbrev Sess := Spec Conn String RelayId

/-- The fields of the registry are those of the slot. -/
structure Represents (r : Registry) (σ : Sess) : Prop where
  control : r.controlConnection = σ.slot.control
  mode : r.controlMode = σ.slot.mode
  token : r.controlToken = σ.slot.token.getD ""
  data : r.dataConnection = σ.slot.data
  relay : r.dataRelay = σ.slot.relay
  stopping : r.stopping = σ.stopped

namespace Represents
variable {r : Registry} {σ : Sess} {c d : Conn} {token : String}

theorem start : Represents {} Spec.start := ⟨rfl, rfl, rfl, rfl, rfl, rfl⟩

theorem free (h : Represents r σ) (hr : r.controlConnection = none) : σ.slot = .free :=
  Slot.eq_free_of_control (h.control ▸ hr)

theorem idle (h : Represents r σ) (hr : r.stopping = true) : σ.slot = .free :=
  σ.idle (h.stopping ▸ hr)

theorem vpn_of_data (h : Represents r σ) (hr : r.dataConnection = some d) :
    ∃ c, σ.slot = .vpn c r.controlToken (some (d, r.dataRelay)) := by
  obtain ⟨c, t, relay, hs⟩ := Slot.eq_vpn_of_data (h.data ▸ hr)
  have ht : r.controlToken = t := by rw [h.token, hs]; rfl
  have hrel : r.dataRelay = relay := by rw [h.relay, hs]; rfl
  exact ⟨c, by rw [hs, ht, hrel]⟩

theorem vpn_of_mode (h : Represents r σ) (hm : r.controlMode = some .vpn)
    (hd : r.dataConnection = none) : ∃ c, σ.slot = .vpn c r.controlToken none := by
  obtain ⟨c, t, data, hs⟩ := Slot.eq_vpn_of_mode (h.mode ▸ hm)
  have ht : r.controlToken = t := by rw [h.token, hs]; rfl
  have hnone : data = none := by
    rw [h.data, hs] at hd
    exact Option.map_eq_none_iff.mp hd
  exact ⟨c, by rw [hs, ht, hnone]⟩

theorem opened (h : Represents r σ) (c : Conn) (mode : Mode)
    (free : r.controlConnection = none) (up : r.stopping = false) (fresh : token ∉ σ.used) :
    ∃ τ : Sess, SessionSpec.Step σ (.opened c mode token) τ ∧ τ.used = insert token σ.used ∧
      Represents (r.withControl c mode token) τ := by
  have hs := h.free free
  let τ : Sess :=
    { slot := .opened c mode token
      used := insert token σ.used
      stopped := false
      current := by
        intro t ht
        rw [Slot.opened_token] at ht
        exact Set.mem_insert_iff.mpr (.inl (Option.some.inj ht).symm)
      idle := by simp }
  refine ⟨τ, .opened hs (h.stopping ▸ up) fresh rfl rfl rfl, rfl, ?_⟩
  have hdata := h.data
  have hrelay := h.relay
  rw [hs] at hdata hrelay
  cases mode <;> exact ⟨rfl, rfl, rfl, hdata, hrelay, up⟩

theorem closed (h : Represents r σ) (held : r.controlConnection = some c) (previous : VPNStatus) :
    ∃ τ : Sess, SessionSpec.Step σ (.closed c) τ ∧ τ.used = σ.used ∧
      Represents (r.withoutControl previous) τ := by
  obtain ⟨τ, hslot, hused, hstopped⟩ := σ.exists_next .free σ.stopped (by simp [Slot.token]) (by simp)
  refine ⟨τ, .closed (h.control ▸ held) hslot hused hstopped, hused, ?_⟩
  constructor <;> simp [hslot, hstopped, h.stopping, Slot.control, Slot.mode, Slot.token,
    Slot.data, Slot.relay]

theorem cleared (r : Registry) (σ : Sess) :
    ∃ τ : Sess, SessionSpec.Step σ .stopped τ ∧ τ.used = σ.used ∧ Represents r.cleared τ := by
  obtain ⟨τ, hslot, hused, hstopped⟩ := σ.exists_next .free true (by simp [Slot.token]) (by simp)
  refine ⟨τ, .stopped hslot hused hstopped, hused, ?_⟩
  constructor <;> simp [hslot, hstopped, Slot.control, Slot.mode, Slot.token, Slot.data, Slot.relay]

theorem bound (h : Represents r σ) (vpn : r.controlMode = some .vpn)
    (free : r.dataConnection = none) :
    ∃ τ : Sess, SessionSpec.Step σ (.bound d r.controlToken) τ ∧ τ.used = σ.used ∧
      Represents (r.withData d) τ ∧ r.dataRelay = none := by
  obtain ⟨c, hs⟩ := h.vpn_of_mode vpn free
  have hnone : r.dataRelay = none := by rw [h.relay, hs]; rfl
  obtain ⟨τ, hslot, hused, hstopped⟩ := σ.exists_next (.vpn c r.controlToken (some (d, none)))
    σ.stopped (by simp [hs, Slot.token]) (fun hstop => by simp [σ.idle hstop] at hs)
  refine ⟨τ, .bound hs hslot hused hstopped, hused, ?_, hnone⟩
  constructor <;> simp [hslot, hstopped, h.stopping, h.control, h.mode, hs, hnone, Slot.control,
    Slot.mode, Slot.token, Slot.data, Slot.relay]

theorem attached (h : Represents r σ) (held : r.dataConnection = some d)
    (free : r.dataRelay = none) (relay : RelayId) :
    ∃ τ : Sess, SessionSpec.Step σ (.attached d relay) τ ∧ τ.used = σ.used ∧
      Represents (r.withRelay relay) τ := by
  obtain ⟨c, hs⟩ := h.vpn_of_data held
  rw [free] at hs
  obtain ⟨τ, hslot, hused, hstopped⟩ := σ.exists_next
    (.vpn c r.controlToken (some (d, some relay)))
    σ.stopped (by simp [hs, Slot.token]) (fun hstop => by simp [σ.idle hstop] at hs)
  refine ⟨τ, .attached hs hslot hused hstopped, hused, ?_⟩
  constructor <;> simp [hslot, hstopped, h.stopping, h.control, h.mode, hs, held, Slot.control,
    Slot.mode, Slot.token, Slot.data, Slot.relay]

theorem detached (h : Represents r σ) (held : r.dataConnection = some d) :
    ∃ τ : Sess, SessionSpec.Step σ (.detached d) τ ∧ τ.used = σ.used ∧
      Represents r.withoutData τ := by
  obtain ⟨c, hs⟩ := h.vpn_of_data held
  obtain ⟨τ, hslot, hused, hstopped⟩ := σ.exists_next (.vpn c r.controlToken none)
    σ.stopped (by simp [hs, Slot.token]) (fun hstop => by simp [σ.idle hstop] at hs)
  refine ⟨τ, .detached hs hslot hused hstopped, hused, ?_⟩
  constructor <;> simp [hslot, hstopped, h.stopping, h.control, h.mode, hs, Slot.control,
    Slot.mode, Slot.token, Slot.data, Slot.relay]

end Represents

/-- A goroutine that keeps what `f` observes leaves it as it is for all goroutines. -/
theorem Sessions.goto_keeps {α : Type*} (f : Handler → α) {x : Sessions} {c : Conn} {h : Handler}
    (hf : f h = f (x.handlers c)) (d : Conn) : f ((x.goto c h).handlers d) = f (x.handlers d) := by
  rcases eq_or_ne d c with rfl | hd
  · simp [hf]
  · simp [hd]

/-- `used` are the tokens of all sessions so far. Those about to be registered are drawn,
not used and pairwise distinct. -/
structure Tokens (x : Sessions) (used : Set String) : Prop where
  issued : ∀ token ∈ used, token ∈ x.issued
  fresh : ∀ c token, (x.handlers c).freshToken = some token → token ∈ x.issued ∧ token ∉ used
  distinct : ∀ c d token, (x.handlers c).freshToken = some token →
    (x.handlers d).freshToken = some token → c = d

namespace Tokens
variable {x y : Sessions} {used : Set String} {c : Conn} {h : Handler} {token : String}

theorem freshToken_goto (hy : y.handlers = update x.handlers c h)
    (hh : h.freshToken = none) {d : Conn} (hd : (y.handlers d).freshToken = some token) :
    (x.handlers d).freshToken = some token ∧ d ≠ c := by
  rw [hy] at hd
  rcases eq_or_ne d c with rfl | hdc
  · simp [hh] at hd
  · rw [update_of_ne hdc] at hd
    exact ⟨hd, hdc⟩

theorem keep (hx : Tokens x used) (hi : y.issued = x.issued)
    (hy : y.handlers = update x.handlers c h) (hh : h.freshToken = none) : Tokens y used where
  issued token ht := by rw [hi]; exact hx.issued token ht
  fresh d token hd := by rw [hi]; exact hx.fresh d token (freshToken_goto hy hh hd).1
  distinct d e token hd he :=
    hx.distinct d e token (freshToken_goto hy hh hd).1 (freshToken_goto hy hh he).1

theorem use (hx : Tokens x used) (hi : y.issued = x.issued)
    (hy : y.handlers = update x.handlers c h) (hh : h.freshToken = none)
    (hc : (x.handlers c).freshToken = some token) : Tokens y (insert token used) where
  issued t ht := by
    rw [hi]
    rcases Set.mem_insert_iff.mp ht with rfl | ht
    · exact (hx.fresh c t hc).1
    · exact hx.issued t ht
  fresh d t hd := by
    obtain ⟨hd, hne⟩ := freshToken_goto hy hh hd
    obtain ⟨hissued, hused⟩ := hx.fresh d t hd
    refine ⟨hi ▸ hissued, fun hmem => ?_⟩
    rcases Set.mem_insert_iff.mp hmem with rfl | hmem
    · exact hne (hx.distinct d c t hd hc)
    · exact hused hmem
  distinct := (hx.keep hi hy hh).distinct

theorem draw (hx : Tokens x used) {mode : Mode} (fresh : token ∉ x.issued) :
    Tokens ((x.withToken token).goto c (.registering mode token)) used where
  issued t ht := List.mem_append_left _ (hx.issued t ht)
  fresh d t hd := by
    rcases eq_or_ne d c with rfl | hdc
    · simp only [Sessions.goto_handlers, update_self, Handler.freshToken,
        Option.some.injEq] at hd
      subst hd
      exact ⟨by simp, fun ht => fresh (hx.issued _ ht)⟩
    · simp only [Sessions.goto_handlers, Sessions.withToken_handlers, ne_eq, hdc,
        not_false_eq_true, update_of_ne] at hd
      obtain ⟨hissued, hused⟩ := hx.fresh d t hd
      exact ⟨List.mem_append_left _ hissued, hused⟩
  distinct d e t hd he := by
    have hother : ∀ d', d' ≠ c → (((x.withToken token).goto c (.registering mode token)).handlers
        d').freshToken = some t → (x.handlers d').freshToken = some t ∧ t ≠ token := by
      intro d' hd' h
      simp only [Sessions.goto_handlers, Sessions.withToken_handlers, ne_eq, hd',
        not_false_eq_true, update_of_ne] at h
      exact ⟨h, fun ht => fresh (ht ▸ (hx.fresh d' t h).1)⟩
    have hself : ∀ d', d' = c → (((x.withToken token).goto c (.registering mode token)).handlers
        d').freshToken = some t → t = token := by
      rintro d' rfl h
      simpa [Handler.freshToken, eq_comm] using h
    rcases eq_or_ne d c with hdc | hdc <;> rcases eq_or_ne e c with hec | hec
    · rw [hdc, hec]
    · exact absurd (hself d hdc hd) (hother e hec he).2
    · exact absurd (hself e hec he) (hother d hdc hd).2
    · exact hx.distinct d e t (hother d hdc hd).1 (hother e hec he).1

end Tokens

/-- The sessions stand for `σ`, and the registered connections are those of goroutines that have
still to release them. -/
structure Owned (x : Sessions) (σ : Sess) : Prop where
  represents : Represents x.registry σ
  tokens : Tokens x σ.used
  control : ∀ c, x.registry.controlConnection = some c →
    (x.handlers c).controlSide = x.registry.controlMode
  data : ∀ d, x.registry.dataConnection = some d →
    (x.handlers d).dataSide = some (x.registry.controlToken, x.registry.dataRelay)

namespace Owned
variable {x y : Sessions} {σ : Sess} {c : Conn}

theorem start : Owned {} Spec.start where
  represents := .start
  tokens := ⟨by simp [Spec.start], by simp [Handler.freshToken], by simp [Handler.freshToken]⟩
  control := by simp
  data := by simp

/-- A registered data connection needs a control connection and a daemon that is not stopping. -/
theorem data_free (hx : Owned x σ) (h : x.registry.controlConnection = none ∨
    x.registry.stopping = true) : x.registry.dataConnection = none := by
  have hs : σ.slot = .free := h.elim hx.represents.free hx.represents.idle
  rw [hx.represents.data, hs]
  rfl

theorem control_keeps (hx : Owned x σ) {h : Handler}
    (hh : h.controlSide = (x.handlers c).controlSide) (d : Conn)
    (hd : x.registry.controlConnection = some d) :
    ((x.goto c h).handlers d).controlSide = x.registry.controlMode :=
  (Sessions.goto_keeps Handler.controlSide hh d).trans (hx.control d hd)

theorem data_keeps (hx : Owned x σ) {h : Handler} (hh : h.dataSide = (x.handlers c).dataSide)
    (d : Conn) (hd : x.registry.dataConnection = some d) : ((x.goto c h).handlers d).dataSide =
      some (x.registry.controlToken, x.registry.dataRelay) :=
  (Sessions.goto_keeps Handler.dataSide hh d).trans (hx.data d hd)

/-- A step of a device goroutine is at most one abstract step. -/
theorem effect (hx : Owned x σ) (h : Effect c x y) :
    ∃ es τ, y.history = x.history ++ es ∧ Run SessionSpec.Step σ es τ ∧ Owned y τ := by
  cases h with
  | @move h closed control data relay token =>
    refine ⟨[], σ, by simp, .nil σ, hx.represents, hx.tokens.keep rfl rfl token, ?_, ?_⟩
    · intro d hd
      rcases control with control | control
      · exact hx.control_keeps control d hd
      · have hdc : d ≠ c := by
          rintro rfl
          exact control hd
        simpa [hdc] using hx.control d hd
    · intro d hd
      rcases data with data | data
      · exact hx.data_keeps data d hd
      · have hdc : d ≠ c := by
          rintro rfl
          rcases data with data | data
          · exact data hd
          · have hfree := hx.data_free data
            simp [hfree] at hd
        simpa [hdc] using hx.data d hd
  | token pc fresh =>
    refine ⟨[], σ, by simp, .nil σ, hx.represents, hx.tokens.draw fresh, ?_, ?_⟩
    · exact hx.control_keeps (by rw [pc]; rfl)
    · exact hx.data_keeps (by rw [pc]; rfl)
  | @opened mode token _ _ pc free up =>
    have hfresh : (x.handlers c).freshToken = some token := by rw [pc]; rfl
    obtain ⟨τ, hstep, hused, hrep⟩ :=
      hx.represents.opened c mode free up (hx.tokens.fresh c token hfresh).2
    refine ⟨_, τ, rfl, .single hstep, hrep, hused ▸ hx.tokens.use rfl rfl rfl hfresh, ?_, ?_⟩
    · intro d hd
      obtain rfl : c = d := Option.some.inj hd
      simp [Handler.controlSide]
    · intro d hd
      have hnone := hx.data_free (.inl free)
      simp [hnone] at hd
  | @closed mode previous pc held =>
    obtain ⟨τ, hstep, hused, hrep⟩ := hx.represents.closed held previous
    refine ⟨_, τ, rfl, .single hstep, hrep, hused ▸ hx.tokens.keep rfl rfl rfl, ?_, ?_⟩
    · intro d hd
      simp at hd
    · intro d hd
      simp at hd
  | @bound token pc held vpn session free =>
    subst session
    obtain ⟨τ, hstep, hused, hrep, hnone⟩ := hx.represents.bound (d := c) vpn free
    refine ⟨_, τ, rfl, .single hstep, hrep, hused ▸ hx.tokens.keep rfl rfl rfl, ?_, ?_⟩
    · exact hx.control_keeps (by rw [pc]; rfl)
    · intro d hd
      obtain rfl : c = d := Option.some.inj hd
      simp [Handler.dataSide, hnone]
  | created pc fresh =>
    refine ⟨[], σ, by simp, .nil σ, hx.represents, hx.tokens.keep rfl rfl rfl, ?_, ?_⟩
    · exact hx.control_keeps (by rw [pc]; rfl)
    · exact hx.data_keeps (by rw [pc]; rfl)
  | @attached token relay pc held =>
    have hside := hx.data c held
    simp only [pc, Handler.dataSide, Option.some.injEq, Prod.mk.injEq] at hside
    obtain ⟨τ, hstep, hused, hrep⟩ := hx.represents.attached held hside.2.symm relay
    refine ⟨_, τ, rfl, .single hstep, hrep, hused ▸ hx.tokens.keep rfl rfl rfl, ?_, ?_⟩
    · exact hx.control_keeps (by rw [pc]; rfl)
    · intro d hd
      obtain rfl : c = d := Option.some.inj (held.symm.trans hd)
      simp [Handler.dataSide, hside.1]
  | detached pc held kept =>
    obtain ⟨τ, hstep, hused, hrep⟩ := hx.represents.detached held
    refine ⟨_, τ, rfl, .single hstep, hrep, hused ▸ hx.tokens.keep rfl rfl rfl, ?_, ?_⟩
    · exact hx.control_keeps (by rw [pc]; rfl)
    · intro d hd
      simp at hd
  | disposed control data relay token =>
    refine ⟨[], σ, by simp, .nil σ, hx.represents, hx.tokens.keep rfl rfl token, ?_, ?_⟩
    · exact hx.control_keeps control
    · exact hx.data_keeps data

theorem change (hx : Owned x σ) {taken taken' : Option RelayId} (h : Change x taken y taken') :
    ∃ es τ, y.history = x.history ++ es ∧ Run SessionSpec.Step σ es τ ∧ Owned y τ := by
  cases h with
  | device h => exact hx.effect h
  | none => exact ⟨[], σ, by simp, .nil σ, hx.represents,
      ⟨hx.tokens.issued, hx.tokens.fresh, hx.tokens.distinct⟩, hx.control, hx.data⟩
  | stopped free =>
    obtain ⟨τ, hstep, hused, hrep⟩ := Represents.cleared x.registry σ
    refine ⟨_, τ, rfl, .single hstep, hrep, ?_, by simp, by simp⟩
    rw [hused]
    exact ⟨hx.tokens.issued, hx.tokens.fresh, hx.tokens.distinct⟩
  | disposed => exact ⟨[], σ, by simp, .nil σ, hx.represents,
      ⟨hx.tokens.issued, hx.tokens.fresh, hx.tokens.distinct⟩, hx.control, hx.data⟩

/-- A run of the daemon is a run of the abstract machine over what it adds to the history. -/
theorem run {s t : State} {ls : List Label} (h : Run Step s ls t) (hs : Owned s.sessions σ) :
    ∃ es τ, t.sessions.history = s.sessions.history ++ es ∧ Run SessionSpec.Step σ es τ ∧
      Owned t.sessions τ := by
  induction h generalizing σ with
  | nil => exact ⟨[], σ, by simp, .nil σ, hs⟩
  | cons hstep _ ih =>
    obtain ⟨es, τ, hes, hrun, hτ⟩ := hs.change hstep.change
    obtain ⟨fs, υ, hfs, hrun', hυ⟩ := ih hτ
    exact ⟨es ++ fs, υ, by rw [hfs, hes, List.append_assoc], hrun.append hrun', hυ⟩

theorem slot_token (hx : Owned x σ) (token : String) : σ.slot.token = some token ↔
      x.registry.controlConnection ≠ none ∧ x.registry.controlToken = token := by
  rw [hx.represents.control, hx.represents.token]
  cases hs : σ.slot with
  | free => simp [Slot.token, Slot.control]
  | phase1 c t => simp [Slot.token, Slot.control]
  | vpn c t d => simp [Slot.token, Slot.control]

/-- Every reachable state stands for what the abstract machine reaches over its history. -/
theorem reached {s : State} (h : Reached s) :
    ∃ τ : Sess, Accepts s.sessions.history τ ∧ Owned s.sessions τ := by
  obtain ⟨s₀, ls, ⟨pid, config, files, rfl⟩, hrun⟩ := h
  obtain ⟨es, τ, hes, hrun', hτ⟩ := run hrun start
  have hes' : s.sessions.history = es := hes
  exact ⟨τ, hes' ▸ hrun', hτ⟩

end Owned
end HarmonyNetBridge.Daemon
