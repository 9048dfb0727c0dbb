import HarmonyNetBridge.Transition.Runs
import HarmonyNetBridge.Harmony.AppWhitelist

/-! The routing settings on the index page: they are read when the page appears, saved when the user
changes them and handed to the extension when the user turns the tunnel on. -/
namespace HarmonyNetBridge.Harmony
open Transition

/-- The states that the extension and the page publish. -/
inductive VpnState where
  | stopped
  | authRequired
  | starting
  | reconnecting
  | active
  | stopping
  | failed
  | other (name : String)
  deriving DecidableEq, Repr

inductive PendingSave where
  | mode (mode : AppRoutingMode)
  | selection (bundleNames : List JsString)
  deriving DecidableEq, Repr

/-- The page. `loading` says that `loadAppRouting` waits for the preferences, and `disconnecting`
counts the calls of `requestVpnStart` that wait for `bridgeSession.disconnect`. -/
structure IndexPage where
  appRoutingMode : AppRoutingMode := .whitelist
  selectedApplications : List JsString := []
  appRoutingLoaded : Bool := false
  appRoutingSaving : Bool := false
  appRoutingError : String := ""
  showSettings : Bool := false
  vpnState : VpnState
  loading : Bool := true
  pendingSave : Option PendingSave := none
  disconnecting : ℕ := 0
  deriving DecidableEq, Repr

namespace IndexPage

def vpnSwitchOn (p : IndexPage) : Bool :=
  p.vpnState = .active ∨ p.vpnState = .starting ∨ p.vpnState = .reconnecting ∨
    p.vpnState = .authRequired

def appRoutingEditable (p : IndexPage) : Bool :=
  p.appRoutingLoaded && !p.appRoutingSaving && !p.vpnSwitchOn && p.vpnState ≠ .stopping

/-- The rest of `loadAppRouting` after its read. -/
def appRoutingRead (p : IndexPage) : Except String AppRoutingPreferences → IndexPage
  | .ok routing =>
    { p with
      loading := false
      appRoutingMode := routing.mode
      selectedApplications := routing.selectedApplications
      appRoutingLoaded := true }
  | .error message =>
    { p with
      loading := false
      appRoutingError := "无法读取 APP 分流设置：" ++ message
      appRoutingLoaded := true }

/-- `requestVpnStart` until it waits. -/
def requestVpnStart (p : IndexPage) : IndexPage :=
  if p.appRoutingLoaded = false ∨
      canStartAppRouting p.appRoutingMode (p.selectedApplications.map .string) = false then
    { p with
      appRoutingError :=
        if p.appRoutingLoaded then "APP 分流配置无效，请重新打开应用后重试"
        else "APP 分流设置尚未加载完成，请稍候重试"
      showSettings := true }
  else { p with vpnState := .starting, disconnecting := p.disconnecting + 1 }

def requestVpnToggle (p : IndexPage) : IndexPage :=
  if p.vpnState = .active ∨ p.vpnState = .starting ∨ p.vpnState = .reconnecting then
    { p with vpnState := .stopping }
  else if p.vpnState ≠ .stopping then p.requestVpnStart
  else p

/-- `requestSetAppRoutingMode` until it waits. -/
def requestSetAppRoutingMode (p : IndexPage) (mode : AppRoutingMode) : IndexPage :=
  if p.appRoutingEditable = false ∨ mode = p.appRoutingMode then p
  else
    { p with appRoutingSaving := true, appRoutingError := "", pendingSave := some (.mode mode) }

def appRoutingModeSaved (p : IndexPage) : Except String AppRoutingMode → IndexPage
  | .ok mode => { p with appRoutingMode := mode, appRoutingSaving := false, pendingSave := none }
  | .error message =>
    { p with
      appRoutingError := "分流模式保存失败：" ++ message
      appRoutingSaving := false
      pendingSave := none }

/-- `persistSelectedApplications` until it waits. -/
def persistSelectedApplications (p : IndexPage) (bundleNames : List JsString) : IndexPage :=
  if p.appRoutingEditable = false then p
  else
    { p with
      appRoutingSaving := true, appRoutingError := "", pendingSave := some (.selection bundleNames) }

def selectedApplicationsSaved (p : IndexPage) : Except String (List JsString) → IndexPage
  | .ok names =>
    { p with selectedApplications := names, appRoutingSaving := false, pendingSave := none }
  | .error message =>
    { p with
      appRoutingError := "APP 选择保存失败：" ++ message
      appRoutingSaving := false
      pendingSave := none }

def requestSetSelectedApp (p : IndexPage) (bundleName : JsString) (selected : Bool) : IndexPage :=
  if p.appRoutingEditable = false ∨ bundleName = alwaysTunneledBundleName then p
  else if selected = p.selectedApplications.contains bundleName then p
  else
    p.persistSelectedApplications
      (p.selectedApplications.filter (· ≠ bundleName) ++ if selected then [bundleName] else [])

def Initial (p : IndexPage) : Prop := ∃ vpnState, p = { vpnState }

end IndexPage

inductive PageEvent where
  | read (result : Except String AppRoutingPreferences)
  | toggle
  | start (mode : AppRoutingMode) (selection : List JsString)
  | startFails
  | status (state : VpnState)
  | setMode (mode : AppRoutingMode)
  | modeSaved (result : Except String AppRoutingMode)
  | setSelected (bundleName : JsString) (selected : Bool)
  | selectionSaved (result : Except String (List JsString))

inductive PageStep (p : IndexPage) : PageEvent → IndexPage → Prop
  | read {read : Except String (Option (List JsValue) × JsValue)} {write : Option String}
      (loading : p.loading = true) :
      PageStep p (.read (loadAppRoutingPreferences read write))
        (p.appRoutingRead (loadAppRoutingPreferences read write))
  | toggle : PageStep p .toggle p.requestVpnToggle
  /-- `requestVpnStart` after `disconnect`: its parameters are read here. -/
  | start {n : ℕ} (waiting : p.disconnecting = n + 1) :
      PageStep p (.start p.appRoutingMode p.selectedApplications) { p with disconnecting := n }
  /-- `disconnect` fails. -/
  | disconnectFails {n : ℕ} (waiting : p.disconnecting = n + 1) :
      PageStep p .startFails { p with disconnecting := n, vpnState := .failed }
  | startFails : PageStep p .startFails { p with vpnState := .failed }
  | status {state : VpnState} : PageStep p (.status state) { p with vpnState := state }
  | setMode {mode : AppRoutingMode} :
      PageStep p (.setMode mode) (p.requestSetAppRoutingMode mode)
  | modeSaved {mode : AppRoutingMode} {write : Option String}
      (pending : p.pendingSave = some (.mode mode)) :
      PageStep p (.modeSaved (saveAppRoutingMode mode write))
        (p.appRoutingModeSaved (saveAppRoutingMode mode write))
  | setSelected {bundleName : JsString} {selected : Bool} :
      PageStep p (.setSelected bundleName selected) (p.requestSetSelectedApp bundleName selected)
  | selectionSaved {bundleNames : List JsString} {write : Option String}
      (pending : p.pendingSave = some (.selection bundleNames)) :
      PageStep p (.selectionSaved (saveSelectedApplications bundleNames write))
        (p.selectedApplicationsSaved (saveSelectedApplications bundleNames write))

/-- The routing mode that a successful read or write has given. -/
def PageEvent.mode? : PageEvent → Option AppRoutingMode
  | .read (.ok routing) => some routing.mode
  | .modeSaved (.ok mode) => some mode
  | _ => none

/-- The selection that a successful read or write has given. -/
def PageEvent.selection? : PageEvent → Option (List JsString)
  | .read (.ok routing) => some routing.selectedApplications
  | .selectionSaved (.ok names) => some names
  | _ => none

def PageEvent.readOk : PageEvent → Bool
  | .read (.ok _) => true
  | _ => false

def PageEvent.modeOk : PageEvent → Bool
  | .modeSaved (.ok _) => true
  | _ => false

def PageEvent.selectionOk : PageEvent → Bool
  | .selectionSaved (.ok _) => true
  | _ => false

section requests
variable (p : IndexPage)

def SameSettings (p q : IndexPage) : Prop :=
  q.appRoutingMode = p.appRoutingMode ∧ q.selectedApplications = p.selectedApplications

theorem requestVpnToggle_same : SameSettings p p.requestVpnToggle := by
  unfold IndexPage.requestVpnToggle IndexPage.requestVpnStart SameSettings
  split_ifs <;> simp

theorem requestSetAppRoutingMode_same (mode : AppRoutingMode) :
    SameSettings p (p.requestSetAppRoutingMode mode) := by
  unfold IndexPage.requestSetAppRoutingMode SameSettings
  split_ifs <;> simp

theorem requestSetSelectedApp_same (bundleName : JsString) (selected : Bool) :
    SameSettings p (p.requestSetSelectedApp bundleName selected) := by
  unfold IndexPage.requestSetSelectedApp IndexPage.persistSelectedApplications SameSettings
  split_ifs <;> simp

end requests

/-- A step that gives a setting stores it, and every other step leaves the setting alone. -/
theorem step_settings {p q : IndexPage} {l : PageEvent} (h : PageStep p l q) :
    q.appRoutingMode = l.mode?.getD p.appRoutingMode ∧
      q.selectedApplications = l.selection?.getD p.selectedApplications := by
  cases h with
  | @read read write _ => cases loadAppRoutingPreferences read write <;> exact ⟨rfl, rfl⟩
  | toggle => exact requestVpnToggle_same p
  | start => exact ⟨rfl, rfl⟩
  | disconnectFails => exact ⟨rfl, rfl⟩
  | startFails => exact ⟨rfl, rfl⟩
  | status => exact ⟨rfl, rfl⟩
  | @setMode mode => exact requestSetAppRoutingMode_same p mode
  | @modeSaved mode write _ => cases saveAppRoutingMode mode write <;> exact ⟨rfl, rfl⟩
  | @setSelected bundleName selected => exact requestSetSelectedApp_same p bundleName selected
  | @selectionSaved bundleNames write _ =>
    cases saveSelectedApplications bundleNames write <;> exact ⟨rfl, rfl⟩

section given
variable {α : Type} {value : IndexPage → α} {given : PageEvent → Option α} {p q : IndexPage}
  {ls : List PageEvent}

/-- A setting that every step keeps or takes from its label is the last one that a label gave. -/
theorem value_eq_last (hstep : ∀ p l q, PageStep p l q → value q = (given l).getD (value p))
    (h : Run PageStep p ls q) : value q = (ls.filterMap given).getLast?.getD (value p) := by
  apply h.snocInduction (motive := fun ls q =>
    value q = (ls.filterMap given).getLast?.getD (value p))
  · rfl
  · intro ls q l r _ ih hlast
    rw [hstep q l r hlast, List.filterMap_append]
    cases hgiven : given l with
    | none => simpa [hgiven] using ih
    | some a => simp [hgiven]

theorem given_value_iff (hstep : ∀ p l q, PageStep p l q → value q = (given l).getD (value p))
    (h : Run PageStep p ls q) :
    (∃ l ∈ ls, given l = some (value q)) ↔ ∃ l ∈ ls, (given l).isSome = true := by
  constructor
  · rintro ⟨l, hl, hgiven⟩
    exact ⟨l, hl, by simp [hgiven]⟩
  · rintro ⟨l, hl, hgiven⟩
    obtain ⟨a, ha⟩ := Option.isSome_iff_exists.mp hgiven
    have hmem : a ∈ ls.filterMap given := List.mem_filterMap.mpr ⟨l, hl, ha⟩
    have hne : ls.filterMap given ≠ [] := List.ne_nil_of_mem hmem
    have hlast := value_eq_last hstep h
    rw [List.getLast?_eq_some_getLast hne, Option.getD_some] at hlast
    rw [hlast]
    exact List.mem_filterMap.mp (List.getLast_mem hne)

/-- Without a label that gives it the setting is still the one of the first page. -/
theorem value_eq_first (hstep : ∀ p l q, PageStep p l q → value q = (given l).getD (value p))
    (h : Run PageStep p ls q) (hnone : ∀ l ∈ ls, given l = none) : value q = value p := by
  have hnil : ls.filterMap given = [] := List.filterMap_eq_nil_iff.mpr hnone
  rw [value_eq_last hstep h, hnil, List.getLast?_nil, Option.getD_none]

end given

theorem mode_isSome (l : PageEvent) :
    l.mode?.isSome = true ↔ l.readOk = true ∨ l.modeOk = true := by
  unfold PageEvent.mode? PageEvent.readOk PageEvent.modeOk
  split <;> simp_all

theorem selection_isSome (l : PageEvent) :
    l.selection?.isSome = true ↔ l.readOk = true ∨ l.selectionOk = true := by
  unfold PageEvent.selection? PageEvent.readOk PageEvent.selectionOk
  split <;> simp_all

/-- A start has settings that were read or written just when the read of the page has succeeded or
both settings have been saved. A setting that was never obtained has its value of the new page. -/
theorem start_settings_obtained_iff {p q r : IndexPage} {ls : List PageEvent}
    {mode : AppRoutingMode} {selection : List JsString} (hinit : p.Initial)
    (hrun : Run PageStep p ls q) (hstart : PageStep q (.start mode selection) r) :
    ((∃ l ∈ ls, l.mode? = some mode) ∧ (∃ l ∈ ls, l.selection? = some selection) ↔
      (∃ l ∈ ls, l.readOk = true) ∨
        (∃ l ∈ ls, l.modeOk = true) ∧ ∃ l ∈ ls, l.selectionOk = true) ∧
    ((∀ l ∈ ls, l.mode? = none) → mode = .whitelist) ∧
    ((∀ l ∈ ls, l.selection? = none) → selection = []) := by
  obtain ⟨vpnState, rfl⟩ := hinit
  have hmode : ∀ p l q, PageStep p l q →
      q.appRoutingMode = l.mode?.getD p.appRoutingMode := fun _ _ _ h => (step_settings h).1
  have hselection : ∀ p l q, PageStep p l q →
      q.selectedApplications = l.selection?.getD p.selectedApplications :=
    fun _ _ _ h => (step_settings h).2
  -- the parameters of the start are the fields of the page at this moment
  cases hstart
  constructor
  · rw [given_value_iff hmode hrun, given_value_iff hselection hrun]
    have hmodes : (∃ l ∈ ls, l.mode?.isSome = true) ↔
        (∃ l ∈ ls, l.readOk = true) ∨ ∃ l ∈ ls, l.modeOk = true := by
      simp only [mode_isSome, and_or_left, exists_or]
    have hselections : (∃ l ∈ ls, l.selection?.isSome = true) ↔
        (∃ l ∈ ls, l.readOk = true) ∨ ∃ l ∈ ls, l.selectionOk = true := by
      simp only [selection_isSome, and_or_left, exists_or]
    rw [hmodes, hselections, or_and_left]
  · exact ⟨value_eq_first hmode hrun, value_eq_first hselection hrun⟩

/-- The page reads an empty store and is toggled on. -/
theorem start_settings_obtained_default : ∃ q : IndexPage, ∃ r : IndexPage,
      Run PageStep { vpnState := .stopped } [.read (.ok ⟨.whitelist, []⟩), .toggle] q ∧
      PageStep q (.start .whitelist []) r ∧
      ∃ l ∈ [PageEvent.read (.ok ⟨.whitelist, []⟩), .toggle], l.mode? = some .whitelist := by
  let p : IndexPage := { vpnState := .stopped }
  let loaded : IndexPage := p.appRoutingRead (.ok ⟨.whitelist, []⟩)
  have hread : PageStep p (.read (.ok ⟨.whitelist, []⟩)) loaded :=
    @PageStep.read p (.ok (some [], .string (jsString "whitelist"))) none rfl
  have hrun : Run PageStep p [.read (.ok ⟨.whitelist, []⟩), .toggle] loaded.requestVpnToggle :=
    .cons hread (.single .toggle)
  have hstart : PageStep loaded.requestVpnToggle (.start .whitelist [])
      { loaded.requestVpnToggle with disconnecting := 0 } := .start (by decide)
  have hobtained := start_settings_obtained_iff ⟨_, rfl⟩ hrun hstart
  exact ⟨_, _, hrun, hstart, (hobtained.1.mpr (.inl ⟨_, List.mem_cons_self, rfl⟩)).1⟩

/-- The read fails, and the next toggle starts the tunnel with settings that nothing has given. -/
theorem start_after_failed_read : ∃ q : IndexPage, ∃ r : IndexPage,
      Run PageStep { vpnState := .stopped }
        [.read (.error "read app routing preferences failed: 15500000"), .toggle] q ∧
      PageStep q (.start .whitelist []) r ∧
      ∀ l ∈ [PageEvent.read (.error "read app routing preferences failed: 15500000"), .toggle],
        l.mode? = none ∧ l.selection? = none := by
  let p : IndexPage := { vpnState := .stopped }
  let failed : IndexPage :=
    p.appRoutingRead (.error "read app routing preferences failed: 15500000")
  have hread :
      PageStep p (.read (.error "read app routing preferences failed: 15500000")) failed :=
    @PageStep.read p (.error "15500000") none rfl
  have hstart : PageStep failed.requestVpnToggle (.start .whitelist [])
      { failed.requestVpnToggle with disconnecting := 0 } := .start (by decide)
  refine ⟨_, _, .cons hread (.single .toggle), hstart, ?_⟩
  simp [PageEvent.mode?, PageEvent.selection?]

end HarmonyNetBridge.Harmony
