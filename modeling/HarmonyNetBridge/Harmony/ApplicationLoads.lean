import HarmonyNetBridge.Harmony.InstalledApplications
import HarmonyNetBridge.Harmony.BridgeSession
import HarmonyNetBridge.Harmony.RoutingPage

/-! The loads of the list of installed applications: a call of `loadInstalledApplicationList` waits for
its response while the session changes, and `InstalledApplicationLoadCoordinator` says whether the
response still counts. -/
namespace HarmonyNetBridge.Harmony
open Transition

/-- An empty token stands for none. -/
structure InstalledApplicationLoadCoordinator where
  loadedSessionToken : JsString := []
  loadingSessionToken : JsString := []
  deriving DecidableEq, Repr

namespace InstalledApplicationLoadCoordinator
variable (c : InstalledApplicationLoadCoordinator)

def isLoadedFor (sessionToken : JsString) : Bool :=
  isSessionToken sessionToken && c.loadedSessionToken == sessionToken

def isLoadingFor (sessionToken : JsString) : Bool :=
  isSessionToken sessionToken && c.loadingSessionToken == sessionToken

def hasLoadInProgress : Bool := 0 < c.loadingSessionToken.length

def shouldLoad (sessionToken : JsString) (forceRefresh : Bool) : Bool :=
  if !isSessionToken sessionToken || c.hasLoadInProgress then false
  else forceRefresh || !c.isLoadedFor sessionToken

def begin (sessionToken : JsString) (forceRefresh : Bool) :
    Bool × InstalledApplicationLoadCoordinator :=
  if !c.shouldLoad sessionToken forceRefresh then (false, c)
  else (true, { c with loadingSessionToken := sessionToken })

def complete (sessionToken activeSessionToken : JsString) :
    Bool × InstalledApplicationLoadCoordinator :=
  if c.loadingSessionToken ≠ sessionToken then (false, c)
  else if sessionToken ≠ activeSessionToken ∨ isSessionToken activeSessionToken = false then
    (false, { c with loadingSessionToken := [] })
  else (true, { loadedSessionToken := sessionToken, loadingSessionToken := [] })

def fail (sessionToken : JsString) : InstalledApplicationLoadCoordinator :=
  if c.loadingSessionToken = sessionToken then { c with loadingSessionToken := [] } else c

end InstalledApplicationLoadCoordinator

/-- How a request ends; a response that is not a string has no text. -/
inductive HttpOutcome where
  | response (responseCode : ℤ) (result : Option JsString)
  | error (message : JsString)

/-- `InstalledApplicationSource.load`, with `JSON.parse` and the end of its request. -/
def loadInstalledApplications (parse : JsString → Option JsJson) (sessionToken : JsString)
    (outcome : HttpOutcome) : Except JsString (List DeviceApplication) :=
  let failed (message : JsString) : Except JsString (List DeviceApplication) :=
    .error (jsString "读取已安装 APP 失败：" ++ message)
  if isSessionToken sessionToken = false then .error (jsString "Mac 尚未连接，请稍后重试")
  else
    match outcome with
    | .error message => failed message
    | .response responseCode result =>
      if responseCode ≠ 200 ∨ result.isNone then
        failed (jsString "Mac 返回应用列表失败：HTTP " ++ jsString (toString responseCode))
      else
        let applications := decodeInstalledApplications parse (result.getD [])
        if applications.length = 0 then failed (jsString "Mac 返回的应用列表为空或格式无效")
        else .ok applications

/-- A call of `loadInstalledApplicationList` at its await, with the result of the request once it has
ended. -/
structure PendingLoad where
  sessionToken : JsString
  result : Option (Except JsString (List DeviceApplication)) := none

/-- What the page keeps about the list, together with the token of `bridgeSession`; `timers` counts
the timeouts that have not fired. -/
structure ApplicationListPage where
  sessionToken : JsString
  vpnState : VpnState
  coordinator : InstalledApplicationLoadCoordinator := {}
  installedApplications : List DeviceApplication := []
  applicationListLoaded : Bool := false
  applicationListLoading : Bool := false
  applicationListError : JsString := []
  loads : List PendingLoad := []
  timers : ℕ := 0

namespace ApplicationListPage
variable (p : ApplicationListPage)

def vpnOwnsUsbBridge : Bool :=
  p.vpnState = .authRequired ∨ p.vpnState = .starting ∨ p.vpnState = .reconnecting ∨
    p.vpnState = .active ∨ p.vpnState = .stopping

/-- `loadInstalledApplicationList` up to its await. -/
def loadInstalledApplicationList (forceRefresh : Bool) : ApplicationListPage :=
  if p.sessionToken.length = 0 then
    { p with
      applicationListError :=
        if p.vpnOwnsUsbBridge then jsString "请先关闭 Tunnel，再读取或修改已安装 APP 列表"
        else jsString "正在连接 Mac，以读取已安装 APP…" }
  else
    match p.coordinator.begin p.sessionToken forceRefresh with
    | (false, _) => p
    | (true, coordinator) =>
      { p with
        coordinator
        applicationListLoading := true
        applicationListError := []
        loads := p.loads ++ [{ sessionToken := p.sessionToken }] }

def prepareInstalledApplicationListForSession : ApplicationListPage :=
  if p.sessionToken.length = 0 then p
  else
    let p :=
      if !p.coordinator.isLoadedFor p.sessionToken && !p.coordinator.isLoadingFor p.sessionToken then
        { p with
          installedApplications := []
          applicationListLoaded := false
          applicationListError := [] }
      else p
    p.loadInstalledApplicationList false

/-- The `finally` of `loadInstalledApplicationList`. -/
def loadFinally (sessionToken : JsString) : ApplicationListPage :=
  let coordinator := p.coordinator.fail sessionToken
  { p with
    coordinator
    applicationListLoading := coordinator.hasLoadInProgress
    timers :=
      if 0 < p.sessionToken.length ∧ p.sessionToken ≠ sessionToken ∧
          coordinator.shouldLoad p.sessionToken false then p.timers + 1
      else p.timers }

/-- `loadInstalledApplicationList` from its await on. -/
def loadResumed (sessionToken : JsString) :
    Except JsString (List DeviceApplication) → ApplicationListPage
  | .ok applications =>
    match p.coordinator.complete sessionToken p.sessionToken with
    | (false, coordinator) => { p with coordinator }.loadFinally sessionToken
    | (true, coordinator) =>
      { p with
        coordinator
        installedApplications := applications
        applicationListLoaded := true }.loadFinally sessionToken
  | .error message =>
    let coordinator := p.coordinator.fail sessionToken
    if p.sessionToken ≠ sessionToken then { p with coordinator }.loadFinally sessionToken
    else
      { p with
        coordinator
        applicationListError := message ++ jsString "。请确认 Mac 端桥接已启动后重试"
        applicationListLoaded :=
          if p.installedApplications.length = 0 then false else p.applicationListLoaded
        }.loadFinally sessionToken

def Initial : Prop := ∃ sessionToken vpnState, p = { sessionToken, vpnState }

end ApplicationListPage

inductive LoadEvent where
  | session (sessionToken : JsString)
  | vpnStatus (state : VpnState)
  | connected
  | timeout
  | load (forceRefresh : Bool)
  | respond (outcome : HttpOutcome)
  | resume (sessionToken : JsString) (result : Except JsString (List DeviceApplication))

/-- The callbacks in any order. The end of a request and the rest of the call that waits for it are two
steps, so that others may come between them. -/
inductive LoadStep (parse : JsString → Option JsJson) (p : ApplicationListPage) :
    LoadEvent → ApplicationListPage → Prop
  | session {sessionToken : JsString} :
      LoadStep parse p (.session sessionToken) { p with sessionToken }
  | vpnStatus {state : VpnState} : LoadStep parse p (.vpnStatus state) { p with vpnState := state }
  | connected : LoadStep parse p .connected p.prepareInstalledApplicationListForSession
  | timeout {n : ℕ} (waiting : p.timers = n + 1) :
      LoadStep parse p .timeout { p with timers := n }.prepareInstalledApplicationListForSession
  | load {forceRefresh : Bool} :
      LoadStep parse p (.load forceRefresh) (p.loadInstalledApplicationList forceRefresh)
  | respond {before later : List PendingLoad} {sessionToken : JsString} {outcome : HttpOutcome}
      (waiting : p.loads = before ++ ⟨sessionToken, none⟩ :: later) :
      LoadStep parse p (.respond outcome)
        { p with
          loads := before ++
            ⟨sessionToken, some (loadInstalledApplications parse sessionToken outcome)⟩ :: later }
  | resume {before later : List PendingLoad} {sessionToken : JsString}
      {result : Except JsString (List DeviceApplication)}
      (ended : p.loads = before ++ ⟨sessionToken, some result⟩ :: later) :
      LoadStep parse p (.resume sessionToken result)
        ({ p with loads := before ++ later }.loadResumed sessionToken result)

def acceptedToken (p : ApplicationListPage) : LoadEvent → Option JsString
  | .resume sessionToken (.ok _) =>
    if (p.coordinator.complete sessionToken p.sessionToken).1 then some sessionToken else none
  | _ => none

namespace InstalledApplicationLoadCoordinator
variable {c : InstalledApplicationLoadCoordinator} {sessionToken : JsString}

theorem hasLoadInProgress_eq_false : c.hasLoadInProgress = false ↔ c.loadingSessionToken = [] := by
  simp [hasLoadInProgress]

theorem shouldLoad_iff {forceRefresh : Bool} : c.shouldLoad sessionToken forceRefresh = true ↔
    isSessionToken sessionToken = true ∧ c.loadingSessionToken = [] ∧
      (forceRefresh = true ∨ c.isLoadedFor sessionToken = false) := by
  rw [← hasLoadInProgress_eq_false]
  unfold shouldLoad
  cases isSessionToken sessionToken <;> cases c.hasLoadInProgress <;> simp

theorem begin_eq (forceRefresh : Bool) : c.begin sessionToken forceRefresh =
      if c.shouldLoad sessionToken forceRefresh = true then
        (true, { c with loadingSessionToken := sessionToken })
      else (false, c) := by
  unfold begin
  cases c.shouldLoad sessionToken forceRefresh <;> rfl

@[simp]
theorem fail_loaded : (c.fail sessionToken).loadedSessionToken = c.loadedSessionToken := by
  unfold fail
  split <;> rfl

/-- The second call of `fail` finds nothing to cancel. -/
theorem fail_loading (h : c.loadingSessionToken = sessionToken ∨ c.loadingSessionToken = []) :
    (c.fail sessionToken).loadingSessionToken = [] := by
  unfold fail
  split
  · rfl
  · exact h.resolve_left ‹_›

/-- The answer to the load in progress ends it, and is accepted for the active session only. -/
theorem complete_cases (activeSessionToken : JsString) (h : c.loadingSessionToken = sessionToken) :
    (sessionToken = activeSessionToken ∧
      c.complete sessionToken activeSessionToken = (true, ⟨sessionToken, []⟩)) ∨
    c.complete sessionToken activeSessionToken = (false, ⟨c.loadedSessionToken, []⟩) := by
  unfold complete
  rw [if_neg (not_not_intro h)]
  split
  · exact Or.inr rfl
  · rename_i hactive
    exact Or.inl ⟨not_not.mp (not_or.mp hactive).1, rfl⟩

end InstalledApplicationLoadCoordinator

namespace ApplicationListPage
open InstalledApplicationLoadCoordinator
variable {p q : ApplicationListPage} {sessionToken : JsString}

theorem length_pos_of_isSessionToken (h : isSessionToken sessionToken = true) :
    0 < sessionToken.length := by
  apply List.length_pos_of_ne_nil
  intro hnil
  rw [hnil] at h
  exact absurd h (by decide)

/-- A call either starts a request or leaves the coordinator and the requests as they are. -/
theorem load_cases (p : ApplicationListPage) (forceRefresh : Bool) :
    ((p.loadInstalledApplicationList forceRefresh).coordinator = p.coordinator ∧
      (p.loadInstalledApplicationList forceRefresh).loads = p.loads) ∨
    (p.coordinator.shouldLoad p.sessionToken forceRefresh = true ∧
      (p.loadInstalledApplicationList forceRefresh).coordinator =
        { p.coordinator with loadingSessionToken := p.sessionToken } ∧
      (p.loadInstalledApplicationList forceRefresh).loads = p.loads ++ [⟨p.sessionToken, none⟩]) := by
  unfold loadInstalledApplicationList
  rw [begin_eq]
  split
  · exact Or.inl ⟨rfl, rfl⟩
  · by_cases h : p.coordinator.shouldLoad p.sessionToken forceRefresh = true
    · rw [if_pos h]
      exact Or.inr ⟨h, rfl, rfl⟩
    · rw [if_neg h]
      exact Or.inl ⟨rfl, rfl⟩

/-- The current session starts its own request where `shouldLoad` lets it. -/
theorem load_starts {forceRefresh : Bool}
    (h : p.coordinator.shouldLoad p.sessionToken forceRefresh = true) :
    (p.loadInstalledApplicationList forceRefresh).loads = p.loads ++ [⟨p.sessionToken, none⟩] := by
  have hlen := length_pos_of_isSessionToken (shouldLoad_iff.mp h).1
  unfold loadInstalledApplicationList
  rw [if_neg hlen.ne', begin_eq, if_pos h]

@[simp]
theorem load_installed (forceRefresh : Bool) :
    (p.loadInstalledApplicationList forceRefresh).installedApplications =
      p.installedApplications := by
  unfold loadInstalledApplicationList
  split
  · rfl
  · split <;> rfl

/-- What is kept of the requests: there is none and no load in progress, or there is one, for the token
that is being loaded. -/
inductive OneLoad (p : ApplicationListPage) : Prop
  | idle (loads : p.loads = []) (loading : p.coordinator.loadingSessionToken = [])
  | waiting (load : PendingLoad) (loads : p.loads = [load])
      (loading : p.coordinator.loadingSessionToken = load.sessionToken)
      (valid : isSessionToken load.sessionToken = true)

theorem OneLoad.length_le (h : OneLoad p) : p.loads.length ≤ 1 := by
  cases h with
  | idle loads => simp [loads]
  | waiting load loads => simp [loads]

theorem OneLoad.of_eq (h : OneLoad p) (hcoord : q.coordinator = p.coordinator)
    (hloads : q.loads = p.loads) : OneLoad q := by
  cases h with
  | idle loads loading => exact .idle (hloads.trans loads) (by rw [hcoord, loading])
  | waiting load loads loading valid =>
    exact .waiting load (hloads.trans loads) (by rw [hcoord, loading]) valid

theorem OneLoad.load (h : OneLoad p) (forceRefresh : Bool) :
    OneLoad (p.loadInstalledApplicationList forceRefresh) := by
  rcases load_cases p forceRefresh with ⟨hcoord, hloads⟩ | ⟨hshould, hcoord, hloads⟩
  · exact h.of_eq hcoord hloads
  · obtain ⟨hvalid, hloading, _⟩ := shouldLoad_iff.mp hshould
    cases h with
    | idle loads =>
      exact .waiting ⟨p.sessionToken, none⟩ (by rw [hloads, loads]; rfl) (by rw [hcoord])
        hvalid
    | waiting load _ loading valid =>
      rw [← loading, hloading] at valid
      exact absurd valid (by decide)

/-- `prepareInstalledApplicationListForSession` is a load, after the list has been cleared or not. -/
theorem prepare_cases (p : ApplicationListPage) : p.prepareInstalledApplicationListForSession = p ∨
    ∃ q : ApplicationListPage,
      p.prepareInstalledApplicationListForSession = q.loadInstalledApplicationList false ∧
      q.coordinator = p.coordinator ∧ q.loads = p.loads ∧
      (q.installedApplications = p.installedApplications ∨ q.installedApplications = []) := by
  unfold prepareInstalledApplicationListForSession
  split
  · exact Or.inl rfl
  · dsimp only
    split
    · exact Or.inr ⟨_, rfl, rfl, rfl, Or.inr rfl⟩
    · exact Or.inr ⟨p, rfl, rfl, rfl, Or.inl rfl⟩

theorem OneLoad.prepare (h : OneLoad p) : OneLoad p.prepareInstalledApplicationListForSession := by
  rcases prepare_cases p with heq | ⟨q, heq, hcoord, hloads, _⟩
  · rwa [heq]
  · rw [heq]
    exact (h.of_eq hcoord hloads).load false

theorem prepare_loaded : p.prepareInstalledApplicationListForSession.coordinator.loadedSessionToken =
    p.coordinator.loadedSessionToken := by
  rcases prepare_cases p with heq | ⟨q, heq, hcoord, _, _⟩
  · rw [heq]
  · rw [heq, ← hcoord]
    rcases load_cases q false with ⟨hq, _⟩ | ⟨_, hq, _⟩ <;> rw [hq]

theorem prepare_installed :
    p.prepareInstalledApplicationListForSession.installedApplications = p.installedApplications ∨
    p.prepareInstalledApplicationListForSession.installedApplications = [] := by
  rcases prepare_cases p with heq | ⟨q, heq, _, _, hinstalled⟩
  · rw [heq]
    exact Or.inl rfl
  · rw [heq, load_installed]
    exact hinstalled

/-- What the rest of the call for the load in progress does. -/
structure Resumed (p : ApplicationListPage) (sessionToken : JsString)
    (result : Except JsString (List DeviceApplication)) (q : ApplicationListPage) : Prop where
  loads : q.loads = p.loads
  active : q.sessionToken = p.sessionToken
  loading : q.coordinator.loadingSessionToken = []
  timers : p.sessionToken ≠ sessionToken →
    q.coordinator.shouldLoad p.sessionToken false = true → q.timers = p.timers + 1
  outcome : (acceptedToken p (.resume sessionToken result) = none ∧
      q.installedApplications = p.installedApplications ∧
      q.coordinator.loadedSessionToken = p.coordinator.loadedSessionToken) ∨
    (acceptedToken p (.resume sessionToken result) = some sessionToken ∧
      sessionToken = p.sessionToken ∧ result = .ok q.installedApplications ∧
      q.coordinator.loadedSessionToken = sessionToken)

theorem loadFinally_resumed {result : Except JsString (List DeviceApplication)}
    (hloads : q.loads = p.loads) (hactive : q.sessionToken = p.sessionToken)
    (htimers : q.timers = p.timers) (hloading : q.coordinator.loadingSessionToken = sessionToken ∨
      q.coordinator.loadingSessionToken = [])
    (outcome : (acceptedToken p (.resume sessionToken result) = none ∧
        q.installedApplications = p.installedApplications ∧
        q.coordinator.loadedSessionToken = p.coordinator.loadedSessionToken) ∨
      (acceptedToken p (.resume sessionToken result) = some sessionToken ∧
        sessionToken = p.sessionToken ∧ result = .ok q.installedApplications ∧
        q.coordinator.loadedSessionToken = sessionToken)) :
    Resumed p sessionToken result (q.loadFinally sessionToken) := by
  constructor
  · exact hloads
  · exact hactive
  · exact fail_loading hloading
  · intro hne hshould
    rw [← hactive] at hne hshould
    rw [← htimers]
    exact if_pos ⟨length_pos_of_isSessionToken (shouldLoad_iff.mp hshould).1, hne, hshould⟩
  · simpa [loadFinally] using outcome

theorem loadResumed_resumed (hloading : p.coordinator.loadingSessionToken = sessionToken)
    (result : Except JsString (List DeviceApplication)) :
    Resumed p sessionToken result (p.loadResumed sessionToken result) := by
  cases result with
  | ok applications =>
    have complete := complete_cases p.sessionToken hloading
    rcases complete with ⟨hactive, hdone⟩ | hdone
    · have hacc : acceptedToken p (.resume sessionToken (.ok applications)) =
          some sessionToken := by
        simp [acceptedToken, hdone]
      simp only [loadResumed, hdone]
      exact loadFinally_resumed rfl rfl rfl (Or.inr rfl) (Or.inr ⟨hacc, hactive, rfl, rfl⟩)
    · have hacc : acceptedToken p (.resume sessionToken (.ok applications)) = none := by
        simp [acceptedToken, hdone]
      simp only [loadResumed, hdone]
      exact loadFinally_resumed rfl rfl rfl (Or.inr rfl) (Or.inl ⟨hacc, rfl, rfl⟩)
  | error message =>
    have hfailed : (p.coordinator.fail sessionToken).loadingSessionToken = [] :=
      fail_loading (Or.inl hloading)
    simp only [loadResumed]
    split <;> exact loadFinally_resumed rfl rfl rfl (Or.inr hfailed) (Or.inl ⟨rfl, rfl, fail_loaded⟩)

theorem OneLoad.ended {before later : List PendingLoad}
    {result : Option (Except JsString (List DeviceApplication))} (h : OneLoad p)
    (ended : p.loads = before ++ ⟨sessionToken, result⟩ :: later) :
    before = [] ∧ later = [] ∧ p.coordinator.loadingSessionToken = sessionToken ∧
      isSessionToken sessionToken = true := by
  cases h with
  | idle loads =>
    rw [loads] at ended
    simp at ended
  | waiting load loads loading valid =>
    rw [loads] at ended
    cases before with
    | nil =>
      obtain ⟨rfl, rfl⟩ := List.cons.inj ended
      exact ⟨rfl, rfl, loading, valid⟩
    | cons first before => simp at ended

end ApplicationListPage

section Runs
variable {parse : JsString → Option JsJson} {p q : ApplicationListPage} {l : LoadEvent}
open ApplicationListPage

variable {sessionToken : JsString} {result : Except JsString (List DeviceApplication)}

theorem resume_cases (h : OneLoad p) (hstep : LoadStep parse p (.resume sessionToken result) q) :
    Resumed { p with loads := [] } sessionToken result q := by
  cases hstep with
  | resume ended =>
    obtain ⟨rfl, rfl, hloading, _⟩ := h.ended ended
    exact loadResumed_resumed (p := { p with loads := [] }) hloading result

theorem step_oneLoad (hstep : LoadStep parse p l q) (h : OneLoad p) : OneLoad q := by
  cases l with
  | resume sessionToken result =>
    have resumed := resume_cases h hstep
    exact .idle resumed.loads resumed.loading
  | respond outcome =>
    cases hstep with
    | respond waiting =>
      obtain ⟨rfl, rfl, hloading, hvalid⟩ := h.ended waiting
      exact .waiting _ rfl hloading hvalid
  | session => cases hstep with | session => exact h.of_eq rfl rfl
  | vpnStatus => cases hstep with | vpnStatus => exact h.of_eq rfl rfl
  | connected => cases hstep with | connected => exact h.prepare
  | timeout => cases hstep with | timeout => exact OneLoad.prepare (h.of_eq rfl rfl)
  | load => cases hstep with | load => exact h.load _

/-- Other steps than the end of a call accept nothing. They may clear the list. -/
theorem step_other (hstep : LoadStep parse p l q)
    (hother : ∀ sessionToken result, l ≠ .resume sessionToken result) : acceptedToken p l = none ∧
    q.coordinator.loadedSessionToken = p.coordinator.loadedSessionToken ∧
    (q.installedApplications = p.installedApplications ∨ q.installedApplications = []) := by
  cases hstep with
  | session => exact ⟨rfl, rfl, Or.inl rfl⟩
  | vpnStatus => exact ⟨rfl, rfl, Or.inl rfl⟩
  | connected => exact ⟨rfl, prepare_loaded, prepare_installed⟩
  | timeout => exact ⟨rfl, prepare_loaded, prepare_installed⟩
  | load =>
    refine ⟨rfl, ?_, Or.inl (load_installed _)⟩
    rcases load_cases p _ with ⟨hq, _⟩ | ⟨_, hq, _⟩ <;> rw [hq]
  | respond => exact ⟨rfl, rfl, Or.inl rfl⟩
  | resume => exact absurd rfl (hother _ _)

theorem step_loaded (h : OneLoad p) (hstep : LoadStep parse p l q) :
    q.coordinator.loadedSessionToken =
      (acceptedToken p l).getD p.coordinator.loadedSessionToken := by
  by_cases hother : ∀ sessionToken result, l ≠ .resume sessionToken result
  · obtain ⟨hacc, hloaded, _⟩ := step_other hstep hother
    rw [hacc, hloaded]
    rfl
  · push Not at hother
    obtain ⟨sessionToken, result, rfl⟩ := hother
    rcases (resume_cases h hstep).outcome with ⟨hacc, _, hloaded⟩ | ⟨hacc, _, _, hloaded⟩
    · rw [hloaded]
      exact (congrArg (Option.getD · _) hacc).symm
    · rw [hloaded]
      exact (congrArg (Option.getD · _) hacc).symm

theorem reachable_oneLoad {accepted : List JsString}
    (h : Reachable (Logged (LoadStep parse) acceptedToken) (fun x => x.1.Initial ∧ x.2 = [])
      (p, accepted)) :
    OneLoad p ∧ p.coordinator.loadedSessionToken = accepted.getLast?.getD [] := by
  have invariant := h.loggedInvariant
    (I := fun p accepted => p.OneLoad ∧
      p.coordinator.loadedSessionToken = accepted.getLast?.getD []) ?_ ?_
  · exact invariant.2
  · rintro _ ⟨sessionToken, vpnState, rfl⟩
    exact ⟨.idle rfl rfl, rfl⟩
  · intro p accepted l q _ hstep hp
    constructor
    · exact step_oneLoad hstep hp.1
    · rw [step_loaded hp.1 hstep, hp.2]
      cases acceptedToken p l <;> simp

/-- After the end of an outdated call the current session can load. -/
theorem resume_outdated (h : OneLoad p) (hstep : LoadStep parse p (.resume sessionToken result) q)
    (hne : sessionToken ≠ p.sessionToken) (hvalid : isSessionToken q.sessionToken = true) :
    (q.coordinator.isLoadedFor q.sessionToken = false → q.timers = p.timers + 1) ∧
    ∀ forceRefresh : Bool,
      forceRefresh = true ∨ q.coordinator.isLoadedFor q.sessionToken = false →
      (q.loadInstalledApplicationList forceRefresh).loads = [⟨q.sessionToken, none⟩] := by
  have resumed := resume_cases h hstep
  have hshould (forceRefresh : Bool)
      (hload : forceRefresh = true ∨ q.coordinator.isLoadedFor q.sessionToken = false) :
      q.coordinator.shouldLoad q.sessionToken forceRefresh = true :=
    InstalledApplicationLoadCoordinator.shouldLoad_iff.mpr ⟨hvalid, resumed.loading, hload⟩
  constructor
  · intro hnot
    apply resumed.timers (Ne.symm hne)
    have := hshould false (Or.inr hnot)
    rwa [resumed.active] at this
  · intro forceRefresh hload
    rw [load_starts (hshould forceRefresh hload), resumed.loads]
    rfl

end Runs

/-- In every interleaving there is at most one request, and the loaded token is that of the last
response that was accepted. Only a response to a request of the active session replaces the list, and
after the end of an outdated one the current session can begin a load of its own. -/
theorem application_lists_of_live_sessions (parse : JsString → Option JsJson)
    (p : ApplicationListPage) (accepted : List JsString)
    (h : Reachable (Logged (LoadStep parse) acceptedToken) (fun x => x.1.Initial ∧ x.2 = [])
      (p, accepted)) :
    p.loads.length ≤ 1 ∧
    p.coordinator.loadedSessionToken = accepted.getLast?.getD [] ∧
    (∀ l q, LoadStep parse p l q → (∀ sessionToken result, l ≠ .resume sessionToken result) →
      q.installedApplications = p.installedApplications ∨ q.installedApplications = []) ∧
    (∀ sessionToken result q, LoadStep parse p (.resume sessionToken result) q →
      (acceptedToken p (.resume sessionToken result) = none ∧
        q.installedApplications = p.installedApplications) ∨
      (acceptedToken p (.resume sessionToken result) = some sessionToken ∧
        sessionToken = p.sessionToken ∧ result = .ok q.installedApplications)) ∧
    (∀ sessionToken result q, LoadStep parse p (.resume sessionToken result) q →
      sessionToken ≠ p.sessionToken →
      q.sessionToken = p.sessionToken ∧ q.loads = [] ∧ q.coordinator.hasLoadInProgress = false ∧
      (isSessionToken q.sessionToken = true →
        (q.coordinator.isLoadedFor q.sessionToken = false → q.timers = p.timers + 1) ∧
        ∀ forceRefresh : Bool,
          forceRefresh = true ∨ q.coordinator.isLoadedFor q.sessionToken = false →
          (q.loadInstalledApplicationList forceRefresh).loads = [⟨q.sessionToken, none⟩])) := by
  obtain ⟨one, hloaded⟩ := reachable_oneLoad h
  refine ⟨one.length_le, hloaded, ?_, ?_, ?_⟩
  · intro l q hstep hother
    exact (step_other hstep hother).2.2
  · intro sessionToken result q hstep
    rcases (resume_cases one hstep).outcome with ⟨hnone, hsame, _⟩ | ⟨hsome, hactive, hresult, _⟩
    · exact Or.inl ⟨hnone, hsame⟩
    · exact Or.inr ⟨hsome, hactive, hresult⟩
  · intro sessionToken result q hstep hne
    have resumed := resume_cases one hstep
    have hidle := InstalledApplicationLoadCoordinator.hasLoadInProgress_eq_false.mpr resumed.loading
    exact ⟨resumed.active, resumed.loads, hidle, resume_outdated one hstep hne⟩

/-- The session changes while its list is being loaded, and then the request fails. -/
theorem application_lists_of_live_sessions_outdated : isSessionToken (List.replicate 32 49) = true ∧
    ∀ q, LoadStep (fun _ => none)
        { sessionToken := List.replicate 32 49
          vpnState := .stopped
          coordinator := ⟨[], List.replicate 32 48⟩
          applicationListLoading := true
          loads := [⟨List.replicate 32 48, some (loadInstalledApplications (fun _ => none)
            (List.replicate 32 48) (.error (jsString "timeout")))⟩] }
        (.resume (List.replicate 32 48) (loadInstalledApplications (fun _ => none)
          (List.replicate 32 48) (.error (jsString "timeout")))) q →
      q.loads = [] ∧ q.coordinator.hasLoadInProgress = false := by
  have all := application_lists_of_live_sessions (fun _ => none) _ []
    ⟨({ sessionToken := List.replicate 32 48, vpnState := .stopped }, []),
      [.connected, .session (List.replicate 32 49), .respond (.error (jsString "timeout"))],
      ⟨⟨_, _, rfl⟩, rfl⟩,
      .record .connected (.record .session (.record
        (@LoadStep.respond _ _ [] [] (List.replicate 32 48) _ rfl) (.nil _)))⟩
  constructor
  · decide
  · intro q hstep
    obtain ⟨_, hloads, hidle, _⟩ := all.2.2.2.2 _ _ q hstep (by decide)
    exact ⟨hloads, hidle⟩

end HarmonyNetBridge.Harmony
