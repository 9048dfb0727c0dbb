import Mathlib.Data.Nat.Notation
import HarmonyNetBridge.Bytes.Text

/-! Which applications use the tunnel: what the app shows, from `applicationUsesTunnel`, and what it
configures, from `buildVpnApplicationRouting` and `applyVpnApplicationRouting`. -/
namespace HarmonyNetBridge.Harmony

/-- A string of ArkTS: its UTF-16 code units. -/
abbrev JsString := List UInt16

def jsString (text : String) : JsString := text.toList.map fun c => UInt16.ofNat c.toNat

/-- An element of an array of unknown content: what `typeof` says of it, with the value of a string. -/
inductive JsValue where
  | string (value : JsString)
  | other
  deriving DecidableEq, Repr

inductive AppRoutingMode where
  | whitelist
  | blacklist
  deriving DecidableEq, Repr

def minBundleNameLength : ℕ := 7
def maxBundleNameLength : ℕ := 128

def alwaysTunneledBundleName : JsString := jsString "io.github.realskyrin.harmonynetbridge"

/-- The white space that `trim` removes. -/
def isWhiteSpace (code : UInt16) : Bool :=
  (0x09 ≤ code && code ≤ 0x0D) || code == 0x20 || code == 0xA0 || code == 0x1680 ||
    (0x2000 ≤ code && code ≤ 0x200A) || code == 0x2028 || code == 0x2029 || code == 0x202F ||
    code == 0x205F || code == 0x3000 || code == 0xFEFF

def isAsciiLetter (code : UInt16) : Bool := (65 ≤ code && code ≤ 90) || (97 ≤ code && code ≤ 122)

def isAsciiDigit (code : UInt16) : Bool := 48 ≤ code && code ≤ 57

def isBundleSegmentCharacter (code : UInt16) : Bool :=
  isAsciiLetter code || isAsciiDigit code || code == 95

def normalizeBundleName (bundleName : JsString) : JsString := Bytes.trim isWhiteSpace bundleName

/-- The body of the loop of `isValidBundleName`. -/
def isValidSegment (segmentIndex : ℕ) (segment : JsString) : Bool :=
  match segment.head?, segment.getLast? with
  | some firstCode, some lastCode =>
    (isAsciiLetter firstCode || (segmentIndex != 0 && isAsciiDigit firstCode)) &&
      (isAsciiLetter lastCode || isAsciiDigit lastCode) && segment.all isBundleSegmentCharacter
  | _, _ => false

def isValidBundleName (bundleName : JsString) : Bool :=
  let normalized := normalizeBundleName bundleName
  if normalized.length < minBundleNameLength ∨ normalized.length > maxBundleNameLength then false
  else
    let segments := normalized.splitOn 46
    if segments.length < 3 then false
    else segments.zipIdx.all fun (segment, segmentIndex) => isValidSegment segmentIndex segment

/-- The body of the loop of `normalizeSelectedApplications`. -/
def pushSelected (normalized : List JsString) : JsValue → List JsString
  | .other => normalized
  | .string value =>
    let bundleName := normalizeBundleName value
    if isValidBundleName bundleName = true ∧ bundleName ≠ alwaysTunneledBundleName ∧
        bundleName ∉ normalized then normalized ++ [bundleName]
    else normalized

def normalizeSelectedApplications (bundleNames : List JsValue) : List JsString :=
  bundleNames.foldl pushSelected []

def decodeAppRoutingMode (encoded : JsValue) : AppRoutingMode :=
  if encoded = .string (jsString "blacklist") then .blacklist else .whitelist

def applicationUsesTunnel (mode : AppRoutingMode) (selectedApplications : List JsValue)
    (bundleName : JsString) : Bool :=
  let normalizedBundleName := normalizeBundleName bundleName
  if normalizedBundleName = alwaysTunneledBundleName then true
  else
    let selected := decide (normalizedBundleName ∈ normalizeSelectedApplications selectedApplications)
    if mode = .whitelist then selected else !selected

structure VpnApplicationRouting where
  trustedApplications : Option (List JsString)
  blockedApplications : Option (List JsString)
  deriving DecidableEq, Repr

def buildVpnApplicationRouting (mode : AppRoutingMode) (selectedApplications : List JsValue) :
    VpnApplicationRouting :=
  let normalized := normalizeSelectedApplications selectedApplications
  if mode = .blacklist then ⟨none, if normalized.length > 0 then some normalized else none⟩
  else ⟨some (alwaysTunneledBundleName :: normalized), none⟩

/-- The application filters of a `VpnConfig`. -/
structure VpnConfig where
  trustedApplications : Option (List JsString) := none
  blockedApplications : Option (List JsString) := none
  deriving DecidableEq, Repr

def applyVpnApplicationRouting (config : VpnConfig) (routing : VpnApplicationRouting) : VpnConfig :=
  match routing.trustedApplications, routing.blockedApplications with
  | some trusted, _ => { config with trustedApplications := some trusted }
  | none, some blocked => { config with blockedApplications := some blocked }
  | none, none => config

/-- How HarmonyOS reads the filters. -/
def VpnConfig.tunnels (config : VpnConfig) (bundleName : JsString) : Prop :=
  match config.trustedApplications, config.blockedApplications with
  | some trusted, _ => bundleName ∈ trusted
  | none, some blocked => bundleName ∉ blocked
  | none, none => True

/-- The configuration of a session, which has no filter before the routing is applied. -/
def routedConfig (mode : AppRoutingMode) (selectedApplications : List JsValue) : VpnConfig :=
  applyVpnApplicationRouting {} (buildVpnApplicationRouting mode selectedApplications)

def canStartAppRouting (mode : AppRoutingMode) (selectedApplications : List JsValue) : Bool :=
  if mode = .blacklist then true
  else
    match (buildVpnApplicationRouting mode selectedApplications).trustedApplications with
    | none => false
    | some trusted => decide (trusted.length > 0)

def AppRoutingMode.encode : AppRoutingMode → JsValue
  | whitelist => .string (jsString "whitelist")
  | blacklist => .string (jsString "blacklist")

structure AppRoutingPreferences where
  mode : AppRoutingMode
  selectedApplications : List JsString
  deriving DecidableEq, Repr

def sameApplicationSelection (stored : List JsValue) (normalized : List JsString) : Bool :=
  decide (stored = normalized.map .string)

/-- `loadAppRoutingPreferences`, where `read` has the two stored values, the applications if they are
an array, and `write` the error of writing the normalized ones back, if that fails. -/
def loadAppRoutingPreferences (read : Except String (Option (List JsValue) × JsValue))
    (write : Option String) : Except String AppRoutingPreferences :=
  match read with
  | .error message => .error ("read app routing preferences failed: " ++ message)
  | .ok (storedApplications, storedMode) =>
    let storedSelection := storedApplications.getD []
    let selectedApplications := normalizeSelectedApplications storedSelection
    match if sameApplicationSelection storedSelection selectedApplications then none else write with
    | some message => .error ("read app routing preferences failed: " ++ message)
    | none => .ok ⟨decodeAppRoutingMode storedMode, selectedApplications⟩

def saveSelectedApplications (bundleNames : List JsString) (write : Option String) :
    Except String (List JsString) :=
  match write with
  | some message => .error ("write app routing preferences failed: " ++ message)
  | none => .ok (normalizeSelectedApplications (bundleNames.map .string))

def saveAppRoutingMode (mode : AppRoutingMode) (write : Option String) :
    Except String AppRoutingMode :=
  match write with
  | some message => .error ("write app routing mode failed: " ++ message)
  | none => .ok (decodeAppRoutingMode mode.encode)

theorem pushSelected_not_always {normalized : List JsString}
    (h : alwaysTunneledBundleName ∉ normalized) (value : JsValue) :
    alwaysTunneledBundleName ∉ pushSelected normalized value := by
  cases value with
  | other => exact h
  | string value =>
    unfold pushSelected
    dsimp only
    split
    · rename_i hpush
      intro hmem
      rcases List.mem_append.mp hmem with hold | hnew
      · exact h hold
      · exact hpush.2.1 (List.mem_singleton.mp hnew).symm
    · exact h

variable (selection : List JsValue)

/-- The app itself is never among the selected applications. -/
theorem always_not_mem_normalized :
    alwaysTunneledBundleName ∉ normalizeSelectedApplications selection := by
  apply List.foldlRecOn (motive := fun normalized => alwaysTunneledBundleName ∉ normalized)
  · simp
  · intro normalized h value _
    exact pushSelected_not_always h value

theorem routedConfig_whitelist : routedConfig .whitelist selection =
    ⟨some (alwaysTunneledBundleName :: normalizeSelectedApplications selection), none⟩ := rfl

theorem routedConfig_blacklist : routedConfig .blacklist selection =
    ⟨none, if normalizeSelectedApplications selection = [] then none
      else some (normalizeSelectedApplications selection)⟩ := by
  cases h : normalizeSelectedApplications selection <;>
    simp [routedConfig, buildVpnApplicationRouting, applyVpnApplicationRouting, h]

variable {selection : List JsValue} {b : JsString}

theorem tunnels_whitelist : (routedConfig .whitelist selection).tunnels b ↔
      b = alwaysTunneledBundleName ∨ b ∈ normalizeSelectedApplications selection := by
  rw [routedConfig_whitelist]
  exact List.mem_cons

theorem tunnels_blacklist :
    (routedConfig .blacklist selection).tunnels b ↔ b ∉ normalizeSelectedApplications selection := by
  rw [routedConfig_blacklist]
  cases h : normalizeSelectedApplications selection <;> simp [VpnConfig.tunnels]

/-- What is shown of an application is what the configured filter does with it. -/
theorem tunnels_iff_applicationUsesTunnel (mode : AppRoutingMode) (selection : List JsValue)
    (hb : normalizeBundleName b = b) :
    (routedConfig mode selection).tunnels b ↔ applicationUsesTunnel mode selection b = true := by
  unfold applicationUsesTunnel
  dsimp only
  rw [hb]
  have halways := always_not_mem_normalized selection
  cases mode with
  | whitelist =>
    rw [tunnels_whitelist]
    by_cases hown : b = alwaysTunneledBundleName
    · simp [hown]
    · simp [hown]
  | blacklist =>
    rw [tunnels_blacklist]
    by_cases hown : b = alwaysTunneledBundleName
    · simp [hown, halways]
    · simp [hown]

/-- The displayed routing is the configured one. At most one filter is set and none is empty, and the
app itself is always tunnelled. -/
theorem displayed_routing_configured (mode : AppRoutingMode) (selection : List JsValue) :
    (∀ b, normalizeBundleName b = b →
      ((routedConfig mode selection).tunnels b ↔ applicationUsesTunnel mode selection b = true)) ∧
    ((routedConfig mode selection).trustedApplications = none ∨
      (routedConfig mode selection).blockedApplications = none) ∧
    (routedConfig mode selection).trustedApplications ≠ some [] ∧
    (routedConfig mode selection).blockedApplications ≠ some [] ∧
    (routedConfig mode selection).tunnels alwaysTunneledBundleName := by
  refine ⟨fun b hb => tunnels_iff_applicationUsesTunnel mode selection hb, ?_⟩
  have halways := always_not_mem_normalized selection
  cases mode with
  | whitelist =>
    refine ⟨.inr rfl, nofun, nofun, tunnels_whitelist.mpr (.inl rfl)⟩
  | blacklist =>
    refine ⟨.inl (by rw [routedConfig_blacklist]), ?_, ?_, tunnels_blacklist.mpr halways⟩
    · rw [routedConfig_blacklist]
      exact nofun
    · rw [routedConfig_blacklist]
      cases h : normalizeSelectedApplications selection <;> simp

end HarmonyNetBridge.Harmony
