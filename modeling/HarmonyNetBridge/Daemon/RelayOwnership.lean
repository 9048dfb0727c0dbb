import HarmonyNetBridge.Transition.LinearCells
import HarmonyNetBridge.Daemon.SessionOwnership

/-! Every relay has one owner until it is closed: the goroutine that created it, the registry,
or whoever took it over from the registry. -/
namespace HarmonyNetBridge.Daemon
open Transition SessionSpec Function

/-- Where a relay can be kept. -/
inductive Holder where
  | registry
  | handler (c : Conn)
  | shutdown
  deriving DecidableEq

/-- What each holder keeps; `taken` is the relay `shutdown` took over. -/
def Sessions.kept (x : Sessions) (taken : Option RelayId) : Holder → Option RelayId
  | .registry => x.registry.dataRelay
  | .handler c => (x.handlers c).relay
  | .shutdown => taken

abbrev RelaysOwned (x : Sessions) (taken : Option RelayId) : Prop :=
  Linear (· ∈ x.created) (x.kept taken) x.closes

namespace RelaysOwned
variable {x y : Sessions} {taken : Option RelayId} {c : Conn} {h : Handler}

theorem kept_goto (hy : y.handlers = update x.handlers c h) : y.kept taken = update
      (update (x.kept taken) .registry y.registry.dataRelay) (.handler c) h.relay := by
  funext z
  cases z with
  | registry => simp [Sessions.kept]
  | handler d =>
    rcases eq_or_ne d c with rfl | hd
    · simp [Sessions.kept, hy]
    · simp [Sessions.kept, hy, hd]
  | shutdown => simp [Sessions.kept]

theorem kept_registry : update (x.kept taken) .registry x.registry.dataRelay =
    x.kept taken := update_eq_self_iff.mpr rfl

theorem keep (hl : RelaysOwned x taken) (hy : y.handlers = update x.handlers c h)
    (registry : y.registry.dataRelay = x.registry.dataRelay)
    (relay : h.relay = (x.handlers c).relay) (created : y.created = x.created)
    (closes : y.closes = x.closes) : RelaysOwned y taken := by
  have hkept : y.kept taken = x.kept taken := by
    rw [kept_goto hy, registry, relay, kept_registry]
    exact update_eq_self_iff.mpr rfl
  unfold RelaysOwned
  rw [hkept, created, closes]
  exact hl

theorem takeOver (hl : RelaysOwned x taken) (hy : y.handlers = update x.handlers c h)
    (registry : y.registry.dataRelay = none) (relay : h.relay = x.registry.dataRelay)
    (free : (x.handlers c).relay = none) (created : y.created = x.created)
    (closes : y.closes = x.closes) : RelaysOwned y taken := by
  unfold RelaysOwned
  rw [kept_goto hy, registry, relay, created, closes]
  exact Linear.move hl (x := .registry) (y := .handler c) free

theorem publish (hl : RelaysOwned x taken) (hy : y.handlers = update x.handlers c h)
    (registry : y.registry.dataRelay = (x.handlers c).relay) (relay : h.relay = none)
    (free : x.registry.dataRelay = none) (created : y.created = x.created)
    (closes : y.closes = x.closes) : RelaysOwned y taken := by
  unfold RelaysOwned
  rw [kept_goto hy, registry, relay, created, closes, update_comm (by simp)]
  exact Linear.move hl (x := .handler c) (y := .registry) free

theorem close (hl : RelaysOwned x taken) (relay : h.relay = none) :
    RelaysOwned ((x.closeRelay (x.handlers c).relay).goto c h) taken := by
  have hkept : ((x.closeRelay (x.handlers c).relay).goto c h).kept taken =
      update (x.kept taken) (.handler c) none := by
    rw [kept_goto (x := x) rfl, relay]
    exact congrArg (update · _ _) kept_registry
  unfold RelaysOwned
  rw [hkept]
  exact Linear.disposeCell hl (.handler c)

theorem create (hl : RelaysOwned x taken) {r : RelayId} (fresh : r ∉ x.created)
    (free : (x.handlers c).relay = none) (relay : h.relay = some r) :
    RelaysOwned ((x.create r).goto c h) taken := by
  have hkept : ((x.create r).goto c h).kept taken =
      update (x.kept taken) (.handler c) (some r) := by
    rw [kept_goto (x := x) rfl, relay]
    exact congrArg (update · _ _) kept_registry
  have hcreated : (· ∈ ((x.create r).goto c h).created) = fun q => q ∈ x.created ∨ q = r := by
    funext q
    simp
  unfold RelaysOwned
  rw [hkept, hcreated]
  exact Linear.create hl (x := .handler c) free fresh

theorem effect {σ : Sess} (hx : Owned x σ) (hl : RelaysOwned x taken) (h : Effect c x y) :
    RelaysOwned y taken := by
  cases h with
  | move control data relay token => exact hl.keep rfl rfl relay rfl rfl
  | token pc fresh | opened pc free up | bound pc held vpn session free =>
    exact hl.keep rfl rfl (by rw [pc]; rfl) rfl rfl
  | closed pc held => exact hl.takeOver rfl rfl rfl (by rw [pc]; rfl) rfl rfl
  | created pc fresh => exact hl.create fresh (by rw [pc]; rfl) rfl
  | attached pc held =>
    have hside := hx.data c held
    simp only [pc, Handler.dataSide, Option.some.injEq, Prod.mk.injEq] at hside
    exact hl.publish rfl (by rw [pc]; rfl) rfl hside.2.symm rfl rfl
  | detached pc held kept => exact hl.takeOver rfl rfl kept (by rw [pc]; rfl) rfl rfl
  | disposed control data relay token => exact hl.close relay

theorem change {σ : Sess} {taken' : Option RelayId} (hx : Owned x σ) (hl : RelaysOwned x taken)
    (h : Change x taken y taken') : RelaysOwned y taken' := by
  cases h with
  | device h => exact effect hx hl h
  | none => exact hl
  | stopped free =>
    have hkept : (x.withRegistry x.registry.cleared .stopped).kept x.registry.dataRelay =
        update (update (x.kept taken) .registry none) .shutdown
          x.registry.dataRelay := by
      funext z
      cases z <;> simp [Sessions.kept]
    unfold RelaysOwned
    rw [hkept]
    exact Linear.move hl (x := .registry) (y := .shutdown) free
  | disposed =>
    have hkept : (x.closeRelay taken).kept none = update (x.kept taken) .shutdown none := by
      funext z
      cases z <;> simp [Sessions.kept]
    unfold RelaysOwned
    rw [hkept]
    exact Linear.disposeCell hl .shutdown

theorem start : RelaysOwned {} none := by
  have hkept : ({} : Sessions).kept none = fun _ => none := by
    funext z
    cases z <;> rfl
  unfold RelaysOwned
  rw [hkept]
  exact Linear.empty (by simp)

theorem reached {s : State} (h : Reached s) : RelaysOwned s.sessions s.main.relay := by
  have hboth : (∃ σ : Sess, Owned s.sessions σ) ∧ RelaysOwned s.sessions s.main.relay := by
    refine h.invariant (I := fun s => (∃ σ : Sess, Owned s.sessions σ) ∧
      RelaysOwned s.sessions s.main.relay) ?_ ?_
    · rintro s ⟨pid, config, files, rfl⟩
      exact ⟨⟨_, Owned.start⟩, start⟩
    · rintro s l t hstep ⟨⟨σ, hσ⟩, hl⟩
      obtain ⟨-, τ, -, -, hτ⟩ := hσ.change hstep.change
      exact ⟨⟨τ, hτ⟩, change hσ hl hstep.change⟩
  exact hboth.2

end RelaysOwned

/-- All device goroutines that were started have returned. -/
def Sessions.quiet (x : Sessions) : Prop := ∀ c, x.handlers c = .idle ∨ x.handlers c = .returned

/-- `shutdown` stands between its section and the `Close` of the relay it took. -/
def Main.closing : Main → Bool
  | cancellingMonitor _ | awaitingMonitor _ | publishingStopping _ | sendingStop _
  | closingData _ | closingRelay _ => true
  | _ => false

theorem Main.relay_of_not_closing {m : Main} (h : m.closing = false) : m.relay = none := by
  cases m <;> first | rfl | cases h

theorem Owned.kept_quiet {x : Sessions} {σ : Sess} (hx : Owned x σ) (hq : x.quiet)
    (z : Holder) : x.kept none z = none := by
  cases z with
  | registry =>
    by_contra hne
    obtain ⟨r, hr⟩ := Option.ne_none_iff_exists'.mp hne
    have hslot : σ.slot.relay = some r := hx.represents.relay ▸ hr
    obtain ⟨d, hd⟩ := Slot.data_of_relay hslot
    have hside := hx.data d (hx.represents.data ▸ hd)
    rcases hq d with hq | hq <;> simp [hq, Handler.dataSide] at hside
  | handler c => rcases hq c with hq | hq <;> simp [Sessions.kept, hq, Handler.relay]
  | shutdown => rfl

/-- No relay is ever closed twice, a published one is not closed, at most one is published at a
time, and once all goroutines have returned each relay was closed exactly once. -/
theorem relays_closed_once {s : State} (h : Reached s) : (∀ r, s.sessions.closes r ≤ 1) ∧
      (∀ r, s.sessions.registry.dataRelay = some r → s.sessions.closes r = 0) ∧
      (openRelays s.sessions.history).map Prod.snd = s.sessions.registry.dataRelay.toList ∧
      (s.sessions.quiet → s.main.closing = false →
        ∀ r ∈ s.sessions.created, s.sessions.closes r = 1) := by
  have hl := RelaysOwned.reached h
  obtain ⟨σ, hσ, hs⟩ := Owned.reached h
  refine ⟨hl.once, ?_, ?_, ?_⟩
  · intro r hr
    exact (hl.live .registry r hr).2
  · rw [accepts_openRelays hσ, hs.represents.relay, ← Slot.published_relay]
    cases σ.slot.published <;> rfl
  · intro hq hmain r hr
    apply hl.disposed_once hr
    intro z
    rw [Main.relay_of_not_closing hmain, hs.kept_quiet hq z]
    simp

theorem relays_closed_once_bridged : ∃ t, Reached t ∧ 7 ∈ t.sessions.created ∧
    t.sessions.quiet ∧ t.main.closing = false ∧ t.sessions.closes 7 = 1 := by
  obtain ⟨t, hrun, hmain, hcreated, hplaces⟩ := bridgedState_lost
  have ht := bridgedState_reached.run hrun
  have hclosing : t.main.closing = false := by rw [hmain]; rfl
  have hmem : 7 ∈ t.sessions.created := by simp [hcreated]
  have hquiet : t.sessions.quiet := by
    intro c
    rw [hplaces c]
    split
    · exact .inr rfl
    · exact .inl rfl
  exact ⟨t, ht, hmem, hquiet, hclosing, (relays_closed_once ht).2.2.2 hquiet hclosing 7 hmem⟩

end HarmonyNetBridge.Daemon
