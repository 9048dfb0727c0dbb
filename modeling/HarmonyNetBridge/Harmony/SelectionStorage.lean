import Mathlib.Logic.Equiv.List
import HarmonyNetBridge.Harmony.InstalledApplications
import HarmonyNetBridge.Harmony.RoutingPage

/-! The selected applications in the preferences, on the page and in the extension: all three hold one
list, which each normalization leaves as it is. -/
namespace HarmonyNetBridge.Harmony
open Transition List

/-- The value that `loadAppRoutingPreferences` puts into the store, if any. -/
def writtenSelection (storedApplications : Option (List JsValue)) : Option (List JsString) :=
  let storedSelection := storedApplications.getD []
  let selectedApplications := normalizeSelectedApplications storedSelection
  if sameApplicationSelection storedSelection selectedApplications then none
  else some selectedApplications

/-- What the store holds after a load that did not fail. -/
def storedAfterLoad (storedApplications : Option (List JsValue)) : Option (List JsValue) :=
  match writtenSelection storedApplications with
  | none => storedApplications
  | some selectedApplications => some (selectedApplications.map .string)

/-- An element of a parsed array, as `normalizeSelectedApplications` looks at it. -/
def JsJson.element : JsJson → JsValue
  | .string value => .string value
  | _ => .other

/-- `parse` is `JSON.parse`, and `none` its exception. -/
def decodeSelectedApplications (parse : JsString → Option JsJson) (encoded : JsString) :
    List JsString :=
  match parse encoded with
  | some (.array items) => normalizeSelectedApplications (items.map JsJson.element)
  | _ => []

/-- The selection of the extension from the parameter that `onCreate` is given, if there is one. -/
def onCreateSelection (parse : JsString → Option JsJson) (parameter : Option JsString) :
    List JsString :=
  decodeSelectedApplications parse (parameter.getD [])

structure CanonicalSelection (names : List JsString) : Prop where
  valid : ∀ name ∈ names, isValidBundleName name = true
  trimmed : ∀ name ∈ names, normalizeBundleName name = name
  own : alwaysTunneledBundleName ∉ names
  distinct : names.Nodup

variable {names selection first : List JsString} {stored : Option (List JsValue)}
  {toggle : JsString × Bool} {toggles : List (JsString × Bool)} {p q : IndexPage} {l : PageEvent}

theorem pushSelected_canonical (h : CanonicalSelection names) (value : JsValue) :
    CanonicalSelection (pushSelected names value) := by
  cases value with
  | other => exact h
  | string value =>
    have hown := pushSelected_not_always h.own (.string value)
    unfold pushSelected at hown ⊢
    dsimp only at hown ⊢
    split at hown
    · rename_i hpush
      rw [if_pos hpush]
      constructor
      · rw [forall_mem_append, forall_mem_singleton]
        exact ⟨h.valid, hpush.1⟩
      · rw [forall_mem_append, forall_mem_singleton]
        exact ⟨h.trimmed, Bytes.trim_trim isWhiteSpace value⟩
      · exact hown
      · rw [nodup_append]
        refine ⟨h.distinct, nodup_singleton _, ?_⟩
        intro name hname other hother heq
        rw [mem_singleton.mp hother] at heq
        exact hpush.2.2 (heq ▸ hname)
    · rename_i hpush
      rwa [if_neg hpush]

theorem normalized_canonical (values : List JsValue) :
    CanonicalSelection (normalizeSelectedApplications values) := by
  apply List.foldlRecOn (motive := CanonicalSelection)
  · constructor <;> simp
  · intro names h value _
    exact pushSelected_canonical h value

theorem pushSelected_append {name : JsString} (h : CanonicalSelection (names ++ [name])) :
    pushSelected names (.string name) = names ++ [name] := by
  have hname : name ∈ names ++ [name] := by simp
  have hnew : name ∉ names := by
    intro hold
    have := nodup_append.mp h.distinct
    exact this.2.2 name hold name (mem_singleton_self name) rfl
  unfold pushSelected
  dsimp only
  rw [h.trimmed name hname]
  exact if_pos ⟨h.valid name hname, fun heq => h.own (heq ▸ hname), hnew⟩

theorem CanonicalSelection.init {later : List JsString} (h : CanonicalSelection (names ++ later)) :
    CanonicalSelection names := by
  constructor
  · exact fun name hname => h.valid name (mem_append_left _ hname)
  · exact fun name hname => h.trimmed name (mem_append_left _ hname)
  · exact fun hmem => h.own (mem_append_left _ hmem)
  · exact h.distinct.of_append_left

theorem normalize_of_canonical (h : CanonicalSelection names) :
    normalizeSelectedApplications (names.map .string) = names := by
  induction names using List.reverseRecOn with
  | nil => rfl
  | append_singleton names name ih =>
    have hnames := ih h.init
    unfold normalizeSelectedApplications at hnames ⊢
    rw [map_append, foldl_append, hnames]
    exact pushSelected_append h

theorem loadAppRoutingPreferences_ok {mode : JsValue} {write : Option String}
    {routing : AppRoutingPreferences}
    (h : loadAppRoutingPreferences (.ok (stored, mode)) write = .ok routing) :
    routing = ⟨decodeAppRoutingMode mode, normalizeSelectedApplications (stored.getD [])⟩ := by
  unfold loadAppRoutingPreferences at h
  dsimp only at h
  split at h
  · cases h
  · exact (Except.ok.inj h).symm

/-- A load fails exactly where it has something to write and cannot. -/
theorem loadAppRoutingPreferences_written (stored : Option (List JsValue)) (mode : JsValue)
    (write : Option String) (h : writtenSelection stored = none ∨ write = none) :
    loadAppRoutingPreferences (.ok (stored, mode)) write =
      .ok ⟨decodeAppRoutingMode mode, normalizeSelectedApplications (stored.getD [])⟩ := by
  unfold loadAppRoutingPreferences writtenSelection at *
  dsimp only at *
  split at h
  · rw [if_pos ‹_›]
  · rw [h.resolve_left (by simp)]
    simp

theorem writtenSelection_eq_none : writtenSelection stored = none ↔
      stored.getD [] = (normalizeSelectedApplications (stored.getD [])).map .string := by
  simp [writtenSelection, sameApplicationSelection]

/-- Loading leaves a value in the store of which nothing has to be written back. -/
theorem storedAfterLoad_normalized (stored : Option (List JsValue)) :
    writtenSelection (storedAfterLoad stored) = none ∧
    normalizeSelectedApplications ((storedAfterLoad stored).getD []) =
      normalizeSelectedApplications (stored.getD []) := by
  unfold storedAfterLoad
  split
  · rename_i hnone
    exact ⟨hnone, rfl⟩
  · rename_i names hsome
    have hnames : names = normalizeSelectedApplications (stored.getD []) := by
      unfold writtenSelection at hsome
      dsimp only at hsome
      split at hsome
      · cases hsome
      · exact (Option.some.inj hsome).symm
    have hnormal : normalizeSelectedApplications (names.map .string) = names := by
      rw [hnames]
      exact normalize_of_canonical (normalized_canonical _)
    constructor
    · rw [writtenSelection_eq_none, Option.getD_some, hnormal]
    · rw [Option.getD_some, hnormal, hnames]

theorem decodeSelectedApplications_stringify {parse : JsString → Option JsJson} {encoded : JsString}
    (h : CanonicalSelection names) (hparse : parse encoded = some (.array (names.map .string))) :
    decodeSelectedApplications parse encoded = names := by
  unfold decodeSelectedApplications
  rw [hparse]
  have helements : (names.map JsJson.string).map JsJson.element = names.map .string := by
    rw [map_map]
    rfl
  dsimp only
  rw [helements]
  exact normalize_of_canonical h

def toggled (selection : List JsString) (toggle : JsString × Bool) : List JsString :=
  if toggle.2 = selection.contains toggle.1 then selection
  else selection.filter (· ≠ toggle.1) ++ if toggle.2 then [toggle.1] else []

theorem mem_toggled {name : JsString} : name ∈ toggled selection toggle ↔
      toggle = (name, true) ∨ (name ∈ selection ∧ toggle.1 ≠ name) := by
  obtain ⟨other, selected⟩ := toggle
  unfold toggled
  by_cases heq : other = name
  · subst heq
    split
    · rename_i hsame
      cases selected <;> simp_all
    · cases selected <;> simp
  · have hne : name ≠ other := fun h => heq h.symm
    split
    · simp [heq]
    · cases selected <;> simp [heq, hne]

theorem filter_toggled (selection : List JsString) (toggle : JsString × Bool)
    (keep : JsString → Bool) (h : keep toggle.1 = false) :
    (toggled selection toggle).filter keep = selection.filter keep := by
  have hfilter : (selection.filter (· ≠ toggle.1)).filter keep = selection.filter keep := by
    rw [filter_filter]
    apply filter_congr
    intro name _
    by_cases heq : name = toggle.1
    · rw [heq, h]
      rfl
    · simp [heq]
  unfold toggled
  split
  · rfl
  · rw [filter_append, hfilter]
    split <;> simp [h]

theorem toggled_canonical (h : CanonicalSelection selection)
    (hvalid : isValidBundleName toggle.1 = true) (htrim : normalizeBundleName toggle.1 = toggle.1)
    (hown : toggle.1 ≠ alwaysTunneledBundleName) :
    CanonicalSelection (toggled selection toggle) := by
  have all (property : JsString → Prop) (hall : ∀ name ∈ selection, property name)
      (hone : property toggle.1) : ∀ name ∈ toggled selection toggle, property name := by
    intro name hname
    rcases mem_toggled.mp hname with rfl | hold
    · exact hone
    · exact hall name hold.1
  constructor
  · exact all _ h.valid hvalid
  · exact all _ h.trimmed htrim
  · intro hmem
    exact all (· ≠ alwaysTunneledBundleName) (fun name hname heq => h.own (heq ▸ hname)) hown _ hmem rfl
  · unfold toggled
    split
    · exact h.distinct
    · rw [nodup_append]
      refine ⟨h.distinct.filter _, by split <;> simp, ?_⟩
      intro name hname other hother heq
      rw [mem_filter] at hname
      split at hother
      · rw [mem_singleton.mp hother] at heq
        simp [heq] at hname
      · simp at hother

/-- A name is selected after some toggles if its last one selected it, or if it was selected before and
never toggled off. -/
theorem mem_foldl_toggled {name : JsString} : name ∈ toggles.foldl toggled selection ↔
      Outstanding (· = (name, true)) (fun toggle => toggle.1 = name) toggles ∨
        (name ∈ selection ∧ (name, false) ∉ toggles) := by
  induction toggles using List.reverseRecOn with
  | nil => simp [not_outstanding_nil]
  | append_singleton toggles toggle ih =>
    rw [foldl_append, outstanding_snoc]
    show name ∈ toggled _ toggle ↔ _
    rw [mem_toggled, ih]
    obtain ⟨other, selected⟩ := toggle
    by_cases heq : other = name
    · subst heq
      cases selected <;> simp
    · simp [heq, Ne.symm heq]

theorem filter_foldl_toggled (selection : List JsString) (toggles : List (JsString × Bool))
    (keep : JsString → Bool) (h : ∀ toggle ∈ toggles, keep toggle.1 = false) :
    (toggles.foldl toggled selection).filter keep = selection.filter keep := by
  induction toggles generalizing selection with
  | nil => rfl
  | cons toggle toggles ih =>
    rw [forall_mem_cons] at h
    rw [foldl_cons, ih _ h.2, filter_toggled selection toggle keep h.1]

/-- What is kept of every page: it waits for the preferences until they are loaded, `appRoutingSaving`
says that it waits for a save, and its selection is normalized. -/
structure Settled (p : IndexPage) : Prop where
  loaded : p.appRoutingLoaded = !p.loading
  saving : p.appRoutingSaving = p.pendingSave.isSome
  canonical : CanonicalSelection p.selectedApplications

theorem requestVpnToggle_fields (p : IndexPage) :
    p.requestVpnToggle.appRoutingLoaded = p.appRoutingLoaded ∧
    p.requestVpnToggle.loading = p.loading ∧
    p.requestVpnToggle.appRoutingSaving = p.appRoutingSaving ∧
    p.requestVpnToggle.pendingSave = p.pendingSave := by
  unfold IndexPage.requestVpnToggle IndexPage.requestVpnStart
  split_ifs <;> simp

theorem selection_canonical (hstep : PageStep p l q) (h : l.selection? = some names) :
    CanonicalSelection names := by
  cases hstep with
  | @read read write _ =>
    cases read with
    | error message => cases h
    | ok stored =>
      obtain ⟨stored, mode⟩ := stored
      cases hload : loadAppRoutingPreferences (.ok (stored, mode)) write with
      | error message =>
        rw [hload] at h
        cases h
      | ok routing =>
        rw [hload] at h
        cases h
        rw [loadAppRoutingPreferences_ok hload]
        exact normalized_canonical _
  | @selectionSaved names write _ =>
    cases write with
    | some message => cases h
    | none =>
      cases h
      exact normalized_canonical _
  | toggle => cases h
  | start => cases h
  | disconnectFails => cases h
  | startFails => cases h
  | status => cases h
  | setMode => cases h
  | modeSaved => cases h
  | setSelected => cases h

theorem step_routingLoaded (hstep : PageStep p l q) :
    (q.appRoutingLoaded = p.appRoutingLoaded ∧ q.loading = p.loading) ∨
      (q.appRoutingLoaded = true ∧ q.loading = false) := by
  cases hstep with
  | read => cases loadAppRoutingPreferences _ _ <;> exact Or.inr ⟨rfl, rfl⟩
  | toggle => exact Or.inl ⟨(requestVpnToggle_fields p).1, (requestVpnToggle_fields p).2.1⟩
  | setMode =>
    unfold IndexPage.requestSetAppRoutingMode
    split_ifs <;> exact Or.inl ⟨rfl, rfl⟩
  | modeSaved => cases saveAppRoutingMode _ _ <;> exact Or.inl ⟨rfl, rfl⟩
  | setSelected =>
    unfold IndexPage.requestSetSelectedApp IndexPage.persistSelectedApplications
    split_ifs <;> exact Or.inl ⟨rfl, rfl⟩
  | selectionSaved => cases saveSelectedApplications _ _ <;> exact Or.inl ⟨rfl, rfl⟩
  | start => exact Or.inl ⟨rfl, rfl⟩
  | disconnectFails => exact Or.inl ⟨rfl, rfl⟩
  | startFails => exact Or.inl ⟨rfl, rfl⟩
  | status => exact Or.inl ⟨rfl, rfl⟩

theorem step_routingSaving (hstep : PageStep p l q)
    (saving : p.appRoutingSaving = p.pendingSave.isSome) :
    q.appRoutingSaving = q.pendingSave.isSome := by
  cases hstep with
  | read => cases loadAppRoutingPreferences _ _ <;> exact saving
  | toggle =>
    rw [(requestVpnToggle_fields p).2.2.1, (requestVpnToggle_fields p).2.2.2, saving]
  | setMode =>
    unfold IndexPage.requestSetAppRoutingMode
    split_ifs
    · exact saving
    · rfl
  | modeSaved => cases saveAppRoutingMode _ _ <;> rfl
  | setSelected =>
    unfold IndexPage.requestSetSelectedApp IndexPage.persistSelectedApplications
    split_ifs <;> first | exact saving | rfl
  | selectionSaved => cases saveSelectedApplications _ _ <;> rfl
  | start => exact saving
  | disconnectFails => exact saving
  | startFails => exact saving
  | status => exact saving

theorem step_settled (hstep : PageStep p l q) (h : Settled p) : Settled q := by
  constructor
  · rcases step_routingLoaded hstep with ⟨hloaded, hloading⟩ | ⟨hloaded, hloading⟩
    · rw [hloaded, hloading, h.loaded]
    · rw [hloaded, hloading]
      rfl
  · exact step_routingSaving hstep h.saving
  · rw [(step_settings hstep).2]
    cases hselection : l.selection? with
    | none => exact h.canonical
    | some names => exact selection_canonical hstep hselection

theorem reachable_settled (h : Reachable PageStep IndexPage.Initial p) : Settled p := by
  apply h.invariant (I := Settled)
  · rintro _ ⟨vpnState, rfl⟩
    constructor
    · rfl
    · rfl
    · constructor <;> simp
  · intro p l q hstep hp
    exact step_settled hstep hp

/-- A toggle that the page does not ignore: it is editable, and the application is not the own one. -/
def effectiveToggle (p : IndexPage) : PageEvent → Option (JsString × Bool)
  | .setSelected bundleName selected =>
    if p.appRoutingEditable = true ∧ bundleName ≠ alwaysTunneledBundleName then
      some (bundleName, selected)
    else none
  | _ => none

theorem effectiveToggle_not_own (h : effectiveToggle p l = some toggle) :
    toggle.1 ≠ alwaysTunneledBundleName := by
  unfold effectiveToggle at h
  split at h
  · split at h
    · rename_i heffective
      cases h
      exact heffective.2
    · cases h
  · cases h

/-- The selection once the save that is waited for has succeeded. -/
def IndexPage.nextSelection (p : IndexPage) : List JsString :=
  match p.pendingSave with
  | some (.selection bundleNames) => bundleNames
  | _ => p.selectedApplications

theorem pendingSave_of_editable (h : Settled p) (heditable : p.appRoutingEditable = true) :
    p.pendingSave = none := by
  have hsaving := h.saving
  cases hpending : p.pendingSave with
  | none => rfl
  | some save =>
    rw [hpending] at hsaving
    simp [IndexPage.appRoutingEditable, hsaving] at heditable

theorem nextSelection_setSelected (h : Settled p) (bundleName : JsString) (selected : Bool) :
    (p.requestSetSelectedApp bundleName selected).nextSelection =
      (effectiveToggle p (.setSelected bundleName selected)).toList.foldl toggled
        p.nextSelection := by
  unfold IndexPage.requestSetSelectedApp effectiveToggle
  dsimp only
  by_cases hignored : p.appRoutingEditable = false ∨ bundleName = alwaysTunneledBundleName
  · rw [if_pos hignored, if_neg]
    · rfl
    · rcases hignored with h | h <;> simp [h]
  · rw [not_or, Bool.not_eq_false] at hignored
    have hpending := pendingSave_of_editable h hignored.1
    rw [if_neg (by simp [hignored]), if_pos hignored]
    have hnext : p.nextSelection = p.selectedApplications := by
      simp [IndexPage.nextSelection, hpending]
    rw [hnext]
    show _ = toggled p.selectedApplications (bundleName, selected)
    unfold toggled
    split
    · exact hnext
    · unfold IndexPage.persistSelectedApplications
      rw [if_neg (by simp [hignored])]
      rfl

/-- No step whose save succeeds changes the selection that is waited for, other than the toggles. -/
theorem step_nextSelection (hstep : PageStep p l q) (h : Settled p)
    (hloaded : p.appRoutingLoaded = true) (hnext : CanonicalSelection p.nextSelection)
    (hsaved : ∀ message, l ≠ .selectionSaved (.error message)) :
    q.nextSelection = (effectiveToggle p l).toList.foldl toggled p.nextSelection := by
  cases hstep with
  | read loading =>
    rw [h.loaded, loading] at hloaded
    cases hloaded
  | toggle =>
    unfold IndexPage.nextSelection
    rw [(requestVpnToggle_fields p).2.2.2, (requestVpnToggle_same p).2]
    rfl
  | @setMode mode =>
    unfold IndexPage.requestSetAppRoutingMode
    split_ifs with hignored
    · rfl
    · rw [not_or, Bool.not_eq_false] at hignored
      simp [IndexPage.nextSelection, pendingSave_of_editable h hignored.1, effectiveToggle]
  | modeSaved pending =>
    cases saveAppRoutingMode _ _ <;>
      simp [IndexPage.nextSelection, IndexPage.appRoutingModeSaved, pending, effectiveToggle]
  | setSelected => exact nextSelection_setSelected h _ _
  | @selectionSaved names write pending =>
    have hpending : p.nextSelection = names := by
      simp [IndexPage.nextSelection, pending]
    cases write with
    | some message => exact absurd rfl (hsaved _)
    | none =>
      rw [hpending] at hnext ⊢
      exact normalize_of_canonical hnext
  | start => rfl
  | disconnectFails => rfl
  | startFails => rfl
  | status => rfl

/-- The page after some toggles from a page with the selection `first`, whose saves have succeeded or
are waited for. -/
structure Toggling (first : List JsString) (toggles : List (JsString × Bool)) (p : IndexPage) :
    Prop where
  settled : Settled p
  loaded : p.appRoutingLoaded = true
  canonical : CanonicalSelection p.nextSelection
  selection : p.nextSelection = toggles.foldl toggled first

theorem step_toggling (hstep : PageStep p l q) (h : Toggling first toggles p)
    (hsaved : ∀ message, l ≠ .selectionSaved (.error message))
    (hvalid : ∀ toggle ∈ effectiveToggle p l,
      isValidBundleName toggle.1 = true ∧ normalizeBundleName toggle.1 = toggle.1) :
    Toggling first (toggles ++ (effectiveToggle p l).toList) q := by
  have hnext := step_nextSelection hstep h.settled h.loaded h.canonical hsaved
  constructor
  · exact step_settled hstep h.settled
  · rcases step_routingLoaded hstep with hsame | hread
    · rw [hsame.1, h.loaded]
    · exact hread.1
  · rw [hnext]
    cases htoggle : effectiveToggle p l with
    | none => exact h.canonical
    | some toggle =>
      obtain ⟨htoggle_valid, htrim⟩ := hvalid toggle htoggle
      apply toggled_canonical h.canonical htoggle_valid htrim
      exact effectiveToggle_not_own htoggle
  · rw [hnext, h.selection, foldl_append]

theorem run_toggling {ls : List PageEvent} (h : Toggling first [] p)
    (hrun : Run (Logged PageStep effectiveToggle) (p, []) ls (q, toggles))
    (hsaved : ∀ l ∈ ls, ∀ message, l ≠ .selectionSaved (.error message))
    (hvalid : ∀ toggle ∈ toggles,
      isValidBundleName toggle.1 = true ∧ normalizeBundleName toggle.1 = toggle.1) :
    Toggling first toggles q := by
  apply hrun.snocInduction (motive := fun ls x =>
    (∀ l ∈ ls, ∀ message, l ≠ .selectionSaved (.error message)) →
    (∀ toggle ∈ x.2, isValidBundleName toggle.1 = true ∧ normalizeBundleName toggle.1 = toggle.1) →
    Toggling first x.2 x.1) ?_ ?_ hsaved hvalid
  · intro _ _
    exact h
  · rintro ls ⟨r, log⟩ l ⟨t, _⟩ _ ih ⟨hstep, rfl⟩ hsaved hvalid
    have before := ih (fun l hl => hsaved l (mem_append_left _ hl))
      fun toggle ht => hvalid toggle (mem_append_left _ ht)
    apply step_toggling hstep before
    · exact hsaved l (by simp)
    · intro toggle ht
      exact hvalid toggle (mem_append_right _ (Option.mem_toList.mpr ht))

/-- The selection in its three places. Loading normalizes what is stored, and loading again writes
nothing and gives the same list. After toggles whose saves succeed, in any interleaving with the other
callbacks of the page, the untouched names are in their order, and the others are in the list as their
last toggle says. The list of the page is the one that the extension decodes. -/
theorem selections_survive :
    (∀ (stored : Option (List JsValue)) (mode : JsValue) (write : Option String)
      (routing : AppRoutingPreferences),
      loadAppRoutingPreferences (.ok (stored, mode)) write = .ok routing →
      CanonicalSelection routing.selectedApplications ∧
      writtenSelection (storedAfterLoad stored) = none ∧
      ∀ write, loadAppRoutingPreferences (.ok (storedAfterLoad stored, mode)) write =
        .ok routing) ∧
    (∀ (p q : IndexPage) (ls : List PageEvent) (toggles : List (JsString × Bool)),
      Reachable PageStep IndexPage.Initial p → p.appRoutingLoaded = true → p.pendingSave = none →
      Run (Logged PageStep effectiveToggle) (p, []) ls (q, toggles) → q.pendingSave = none →
      (∀ l ∈ ls, ∀ message, l ≠ .selectionSaved (.error message)) →
      (∀ toggle ∈ toggles,
        isValidBundleName toggle.1 = true ∧ normalizeBundleName toggle.1 = toggle.1) →
      (∀ untouched : JsString → Bool, (∀ toggle ∈ toggles, untouched toggle.1 = false) →
        q.selectedApplications.filter untouched = p.selectedApplications.filter untouched) ∧
      ∀ name, name ∈ q.selectedApplications ↔
        Outstanding (· = (name, true)) (fun toggle => toggle.1 = name) toggles ∨
          (name ∈ p.selectedApplications ∧ (name, false) ∉ toggles)) ∧
    (∀ (parse : JsString → Option JsJson) (stringify : List JsString → JsString),
      (∀ names, parse (stringify names) = some (.array (names.map .string))) →
      ∀ p, Reachable PageStep IndexPage.Initial p →
        onCreateSelection parse (some (stringify p.selectedApplications)) =
          p.selectedApplications) := by
  refine ⟨?_, ?_, ?_⟩
  · intro stored mode write routing hload
    obtain ⟨hnothing, hsame⟩ := storedAfterLoad_normalized stored
    rw [loadAppRoutingPreferences_ok hload]
    refine ⟨normalized_canonical _, hnothing, ?_⟩
    intro write
    rw [loadAppRoutingPreferences_written _ mode write (Or.inl hnothing), hsame]
  · intro p q ls toggles hreach hloaded hpending hrun hdone hsaved hvalid
    have settled := reachable_settled hreach
    have hfirst : p.nextSelection = p.selectedApplications := by
      simp [IndexPage.nextSelection, hpending]
    have hlast : q.nextSelection = q.selectedApplications := by
      simp [IndexPage.nextSelection, hdone]
    have toggling := run_toggling ⟨settled, hloaded, hfirst ▸ settled.canonical, hfirst⟩ hrun
      hsaved hvalid
    rw [← hlast, toggling.selection]
    constructor
    · intro untouched h
      exact filter_foldl_toggled _ _ untouched h
    · intro name
      exact mem_foldl_toggled
  · intro parse stringify hinverse p hreach
    exact decodeSelectedApplications_stringify (reachable_settled hreach).canonical (hinverse _)

/-- A text for every list of names, and what it is read as. -/
def numberedText (names : List JsString) : JsString :=
  List.replicate (Encodable.encode (names.map (List.map UInt16.toNat))) 0

def readNumbered (text : JsString) : Option JsJson :=
  (Encodable.decode text.length : Option (List (List ℕ))).map fun names =>
    .array (names.map fun name => .string (name.map UInt16.ofNat))

theorem readNumbered_text (names : List JsString) :
    readNumbered (numberedText names) = some (.array (names.map .string)) := by
  simp [readNumbered, numberedText, Function.comp_def]

/-- A stored list with a blank around its only name, which is written back without it, one toggle
with its save, and the list that is passed to the extension. -/
theorem selections_survive_one :
    storedAfterLoad (some [.string (jsString " com.example.app"), .other]) =
      some [.string (jsString "com.example.app")] ∧
    (∀ write, loadAppRoutingPreferences
      (.ok (some [.string (jsString "com.example.app")], .other)) write =
        .ok ⟨.whitelist, [jsString "com.example.app"]⟩) ∧
    jsString "com.example.app" ∈ (((IndexPage.mk .whitelist [] true false "" false .stopped false none
      0).requestSetSelectedApp (jsString "com.example.app") true).selectedApplicationsSaved
        (saveSelectedApplications [jsString "com.example.app"] none)).selectedApplications ∧
    onCreateSelection readNumbered (some (numberedText [jsString "com.example.app"])) =
      [jsString "com.example.app"] := by
  have all := selections_survive
  refine ⟨by decide, ?_, ?_, ?_⟩
  · have loading := all.1 (some [.string (jsString " com.example.app"), .other]) .other none
      ⟨.whitelist, [jsString "com.example.app"]⟩ (by decide)
    exact loading.2.2
  · have hreach : Reachable PageStep IndexPage.Initial
        (.mk .whitelist [] true false "" false .stopped false none 0) :=
      ⟨{ vpnState := .stopped }, _, ⟨.stopped, rfl⟩,
        .single (@PageStep.read _ (.ok (none, .other)) none rfl)⟩
    have toggling := all.2.1 _ _ _ _ hreach rfl rfl
      (.record (@PageStep.setSelected _ (jsString "com.example.app") true)
        (.record (@PageStep.selectionSaved _ [jsString "com.example.app"] none (by decide)) (.nil _)))
      rfl (by simp [saveSelectedApplications]) (by decide)
    exact (toggling.2 _).mpr (Or.inl ⟨[], _, [], rfl, rfl, by simp⟩)
  · have hreach : Reachable PageStep IndexPage.Initial
        (.mk .whitelist [jsString "com.example.app"] true false "" false .stopped false none 0) :=
      ⟨{ vpnState := .stopped }, _, ⟨.stopped, rfl⟩,
        .single (@PageStep.read _ (.ok (some [.string (jsString "com.example.app")], .other)) none rfl)⟩
    exact all.2.2 readNumbered numberedText readNumbered_text _ hreach

end HarmonyNetBridge.Harmony
