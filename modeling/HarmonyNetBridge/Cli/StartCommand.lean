import HarmonyNetBridge.State.Snapshot
import HarmonyNetBridge.Protocol.Frame
import HarmonyNetBridge.Cli.Invocation

/-! The device that `startCommand` selects, and the command line of the daemon that it builds. -/
namespace HarmonyNetBridge.Cli
open Bytes Proxy List

/-- One row of the list of `hdc`. -/
structure Target where
  id : List UInt8
  connection : List UInt8 := []
  status : List UInt8 := []
  endpoint : List UInt8 := []
  deriving DecidableEq, Repr

section targets
variable (equalFold : List UInt8 → List UInt8 → Bool)

/-- The body of the loop of `ParseTargets`. A line that is not empty after trimming has a field. -/
def parseTarget (line : List UInt8) : Option Target :=
  let line := Proxy.trimSpace line
  if line = [] ∨ equalFold line (ascii "[Empty]") = true then none
  else
    match fields whiteSpace line with
    | [] => none
    | [id] => some { id, status := ascii "Connected" }
    | [id, connection] => some { id, connection }
    | id :: connection :: status :: endpoint =>
      some { id, connection, status, endpoint := [32].intercalate endpoint }

def parseTargets (output : List UInt8) : List Target :=
  (output.splitOn 10).filterMap (parseTarget equalFold)

def Target.usable (target : Target) : Bool :=
  equalFold target.status (ascii "Connected") || equalFold target.status (ascii "Online")

def selectTarget (targets : List Target) (requested : List UInt8) : Except (Code × String) Target :=
  if requested ≠ [] then
    match targets.find? fun target => target.id == requested with
    | some target =>
      if target.usable equalFold = false then
        .error (.deviceOffline, "the selected Harmony device is not Connected in hdc")
      else .ok target
    | none => .error (.deviceNotFound, "the requested Harmony device was not returned by hdc")
  else
    match targets.filter fun target => target.usable equalFold with
    | [] =>
      if targets.length > 0 then
        .error (.deviceOffline, "a Harmony device is visible to hdc but is not Connected. " ++
          "Unlock or reconnect it and authorize debugging.")
      else
        .error (.noDevice,
          "no Harmony device is connected. Connect one over USB and authorize debugging.")
    | [target] => .ok target
    | _ =>
      .error (.multipleDevices,
        "multiple Harmony devices are Connected. Select exactly one with --device.")

end targets

/-- `RedactTarget`, with the function SHA-256. -/
def redactTarget (sha256 : List UInt8 → List UInt8) (targetID : List UInt8) : List UInt8 :=
  if targetID = [] then ascii "device-unknown"
  else ascii "device-" ++ ((sha256 targetID).take 4).flatMap fun b => ascii (lowerHexByte b)

/-- `filepath.Clean`, of which only is known that it never returns an empty path. -/
structure FilePath where
  clean : List UInt8 → List UInt8
  clean_ne_nil : ∀ path, clean path ≠ []

/-- `NewCapturePath` for a name of the file. -/
def newCapturePath (filepath : FilePath) (directory name : List UInt8) : List UInt8 :=
  filepath.clean (filepath.clean directory ++ 47 :: name)

/-- The arguments of the daemon. The three paths are those that `startCommand` has resolved. -/
def childArguments (parsed : Invocation) (hdcPath mitmwebPath captureFile : List UInt8)
    (target : Target) (sha256 : List UInt8 → List UInt8) : List (List UInt8) :=
  [ascii "__daemon",
    ascii "--hdc", hdcPath,
    ascii "--device", target.id,
    ascii "--device-label", redactTarget sha256 target.id,
    ascii "--device-port", itoaInt parsed.devicePort,
    ascii "--mtu", itoaInt parsed.mtu] ++
  if parsed.command = some .proxy ∨ parsed.proxyMode = true then
    [ascii "--proxy-mode",
      ascii "--proxy-port", itoaInt parsed.proxyPort,
      ascii "--web-port", itoaInt parsed.webPort,
      ascii "--mitmweb", mitmwebPath,
      ascii "--capture-file", captureFile] ++
    (if parsed.upstreamURL ≠ [] then [ascii "--upstream", parsed.upstreamURL] else []) ++
    (if parsed.sslInsecure then [ascii "--ssl-insecure"] else []) ++
    (if parsed.noOpenBrowser then [ascii "--no-open-browser"] else [])
  else []

theorem parseTarget_id {equalFold : List UInt8 → List UInt8 → Bool} {line : List UInt8}
    {target : Target} (h : parseTarget equalFold line = some target) : target.id ≠ [] := by
  have hfields := fields_ne_nil whiteSpace (Proxy.trimSpace line)
  unfold parseTarget at h
  dsimp only at h
  split at h
  · cases h
  split at h
  · cases h
  all_goals
    rename_i heq
    rw [heq] at hfields
    cases h
    exact hfields _ mem_cons_self

variable {requested hdcPath mitmwebPath captureFile : List UInt8} {n : ℤ}
  {parsed child : Invocation} {parse : ParseURL}

theorem selectTarget_mem {equalFold : List UInt8 → List UInt8 → Bool} {targets : List Target}
    {target : Target} (h : selectTarget equalFold targets requested = .ok target) :
    target ∈ targets := by
  unfold selectTarget at h
  split at h
  · split at h
    · rename_i found hfound
      split at h
      · cases h
      · cases h
        exact mem_of_find?_eq_some hfound
    · cases h
  · split at h
    · split at h <;> cases h
    · rename_i found hfound
      cases h
      exact mem_of_mem_filter (hfound ▸ mem_singleton_self _)
    · cases h

theorem selectTarget_id {equalFold : List UInt8 → List UInt8 → Bool} {output : List UInt8}
    {target : Target}
    (h : selectTarget equalFold (parseTargets equalFold output) requested = .ok target) :
    target.id ≠ [] := by
  obtain ⟨line, _, hline⟩ := mem_filterMap.mp (selectTarget_mem h)
  exact parseTarget_id hline

theorem redactTarget_ne_nil (sha256 : List UInt8 → List UInt8) (targetID : List UInt8) :
    redactTarget sha256 targetID ≠ [] := by
  unfold redactTarget
  split
  · decide
  · exact append_ne_nil_of_left_ne_nil (by decide) _

theorem itoa_ne_nil (n : ℕ) : itoa n ≠ [] := by
  unfold itoa
  rw [Ne, map_eq_nil_iff]
  exact Nat.toDigits_ne_nil

theorem atoi_itoaInt (hlow : 0 ≤ n) (hhigh : n < 2 ^ 63) : Relay.atoi (itoaInt n) = some n := by
  have hnumber : (n.natAbs : ℤ) = n := Int.natAbs_of_nonneg hlow
  have hitoa : itoaInt n = itoa n.natAbs := if_neg (not_lt.mpr hlow)
  have hsign {b : UInt8} (hb : isDigitByte b = false) : ((itoa n.natAbs).head? == some b) = false := by
    rw [beq_eq_false_iff_ne, ← hitoa]
    exact head_itoaInt hlow hb
  unfold Relay.atoi
  rw [hitoa, hsign (b := 45) (by decide), hsign (b := 43) (by decide)]
  simp only [Bool.or_self, Bool.false_eq_true, if_false, decimal_itoa, hnumber]
  apply if_pos
  refine ⟨itoa_ne_nil _, all_eq_true.mpr (itoa_digits _), ?_, hhigh⟩
  omega

theorem itoaInt_ne_nil (hlow : 0 ≤ n) : itoaInt n ≠ [] := by
  rw [show itoaInt n = itoa n.natAbs from if_neg (not_lt.mpr hlow)]
  exact itoa_ne_nil _

theorem integerOption_itoaInt {minimum maximum : ℤ} (h : minimum ≤ n ∧ n ≤ maximum)
    (hminimum : 0 ≤ minimum) (hmaximum : maximum < 2 ^ 63) (error : String) :
    (integerOption minimum maximum error (itoaInt n)).toOption = some n := by
  unfold integerOption
  rw [atoi_itoaInt (by omega) (by omega)]
  dsimp only
  rw [if_neg (by omega)]
  rfl

theorem optionNumber_port (parse : ParseURL) {name : OptionName}
    (hname : name ∈ [OptionName.devicePort, .proxyPort, .webPort]) (hn : 1 ≤ n ∧ n ≤ 65535) :
    optionNumber parse name (itoaInt n) = some n := by
  have hnumber := integerOption_itoaInt hn (by decide) (by decide) ""
  have hnil : itoaInt n ≠ [] := itoaInt_ne_nil (by omega)
  simp only [mem_cons, not_mem_nil, or_false] at hname
  unfold optionNumber
  rw [if_neg hnil]
  rcases hname with rfl | rfl | rfl <;> exact hnumber

theorem optionNumber_mtu (parse : ParseURL) (hn : minimumMTU ≤ n ∧ n ≤ maximumMTU) :
    optionNumber parse .mtu (itoaInt n) = some n := by
  have hnil : itoaInt n ≠ [] := itoaInt_ne_nil (le_trans (by decide) hn.1)
  unfold optionNumber
  rw [if_neg hnil]
  exact integerOption_itoaInt hn (by decide) (by decide) ""

theorem optionNumber_text (parse : ParseURL) {name : OptionName}
    (hname : name ∈ [OptionName.hdc, .device, .deviceLabel, .mitmweb, .captureFile])
    {value : List UInt8} (hvalue : value ≠ []) : optionNumber parse name value = some 0 := by
  simp only [mem_cons, not_mem_nil, or_false] at hname
  unfold optionNumber
  rw [if_neg hvalue]
  rcases hname with rfl | rfl | rfl | rfl | rfl <;> rfl

/-! The daemon reads what the command has written -/

/-- The groups of the child that every mode has. -/
def linkGroups (parsed : Invocation) (hdcPath : List UInt8) (target : Target)
    (sha256 : List UInt8 → List UInt8) : List Group :=
  [.command .daemon,
    .option .hdc hdcPath false,
    .option .device target.id false,
    .option .deviceLabel (redactTarget sha256 target.id) false,
    .option .devicePort (itoaInt parsed.devicePort) false,
    .option .mtu (itoaInt parsed.mtu) false]

/-- The groups of the child that only the proxy has. -/
def proxyGroups (parsed : Invocation) (mitmwebPath captureFile : List UInt8) : List Group :=
  [Group.flag .proxyMode,
    Group.option .proxyPort (itoaInt parsed.proxyPort) false,
    Group.option .webPort (itoaInt parsed.webPort) false,
    Group.option .mitmweb mitmwebPath false,
    Group.option .captureFile captureFile false] ++
  (if parsed.upstreamURL ≠ [] then [Group.option .upstream parsed.upstreamURL false] else []) ++
  (if parsed.sslInsecure then [Group.flag .sslInsecure] else []) ++
  (if parsed.noOpenBrowser then [Group.flag .noOpenBrowser] else [])

theorem childArguments_start (hcmd : parsed.command = some .start)
    (hmode : parsed.proxyMode = false) (hdcPath mitmwebPath captureFile : List UInt8)
    (target : Target) (sha256 : List UInt8 → List UInt8) :
    childArguments parsed hdcPath mitmwebPath captureFile target sha256 =
      render (linkGroups parsed hdcPath target sha256) := by
  unfold childArguments
  rw [if_neg (by simp [hcmd, hmode])]
  rfl

theorem childArguments_proxy (hcmd : parsed.command = some .proxy)
    (hdcPath mitmwebPath captureFile : List UInt8) (target : Target)
    (sha256 : List UInt8 → List UInt8) :
    childArguments parsed hdcPath mitmwebPath captureFile target sha256 =
      render (linkGroups parsed hdcPath target sha256 ++
        proxyGroups parsed mitmwebPath captureFile) := by
  have hupstream : (if parsed.upstreamURL ≠ [] then [ascii "--upstream", parsed.upstreamURL] else []) =
      render (if parsed.upstreamURL ≠ [] then [.option .upstream parsed.upstreamURL false] else []) := by
    split <;> rfl
  have hssl : (if parsed.sslInsecure then [ascii "--ssl-insecure"] else []) =
      render (if parsed.sslInsecure then [.flag .sslInsecure] else []) := by
    split <;> rfl
  have hbrowser : (if parsed.noOpenBrowser then [ascii "--no-open-browser"] else []) =
      render (if parsed.noOpenBrowser then [.flag .noOpenBrowser] else []) := by
    split <;> rfl
  unfold childArguments proxyGroups
  rw [if_pos (Or.inl hcmd), hupstream, hssl, hbrowser]
  simp only [render, flatMap_append]
  rfl

theorem applyAll_append (parse : ParseURL) (state : Option Invocation) (groups others : List Group) :
    applyAll parse state (groups ++ others) = applyAll parse (applyAll parse state groups) others :=
  foldl_append

theorem applyAll_option {name : OptionName} {value : List UInt8} {number : ℤ}
    (h : optionNumber parse name value = some number) (parsed : Invocation) (groups : List Group) :
    applyAll parse (some parsed) (.option name value false :: groups) =
      applyAll parse (some (parsed.set name value number)) groups := by
  have happly : (Group.option name value false).apply parse parsed =
      some (parsed.set name value number) := by
    rw [Group.apply, assignOption_eq, h]
    rfl
  rw [applyAll, foldl_cons, Option.bind_some, happly]
  rfl

/-- What the daemon knows before the options of the proxy. -/
def linkInvocation (parsed : Invocation) (hdcPath : List UInt8) (target : Target)
    (sha256 : List UInt8 → List UInt8) : Invocation :=
  { command := some .daemon
    hdcPath
    deviceID := target.id
    deviceLabel := redactTarget sha256 target.id
    devicePort := parsed.devicePort
    mtu := parsed.mtu
    mtuSet := true }

theorem applyAll_link (h : Accepted parse parsed) (hhdc : hdcPath ≠ []) {target : Target}
    (htarget : target.id ≠ []) (sha256 : List UInt8 → List UInt8) :
    applyAll parse (some {}) (linkGroups parsed hdcPath target sha256) =
      some (linkInvocation parsed hdcPath target sha256) := by
  have hcmd (groups : List Group) : applyAll parse (some {}) (.command .daemon :: groups) =
      applyAll parse (some { command := some .daemon }) groups := rfl
  rw [linkGroups, hcmd, applyAll_option (optionNumber_text parse (by decide) hhdc),
    applyAll_option (optionNumber_text parse (by decide) htarget),
    applyAll_option (optionNumber_text parse (by decide) (redactTarget_ne_nil sha256 target.id)),
    applyAll_option (optionNumber_port parse (by decide) h.devicePort),
    applyAll_option (optionNumber_mtu parse h.mtu)]
  rfl

def Invocation.addProxy (link parsed : Invocation) (mitmwebPath captureFile : List UInt8) :
    Invocation :=
  { link with
    proxyMode := true
    proxyPort := parsed.proxyPort
    proxyPortSet := true
    webPort := parsed.webPort
    webPortSet := true
    mitmwebPath
    upstreamURL := parsed.upstreamURL
    sslInsecure := parsed.sslInsecure
    captureFile
    noOpenBrowser := parsed.noOpenBrowser }

theorem applyAll_upstream {url : List UInt8} (hurl : validateUpstreamURL parse url = .ok ())
    (hchild : child.upstreamURL = []) :
    applyAll parse (some child) (if url ≠ [] then [.option .upstream url false] else []) =
      some { child with upstreamURL := url } := by
  by_cases hnil : url = []
  · rw [if_neg (not_not.mpr hnil), hnil, ← hchild]
    rfl
  · have hnumber : optionNumber parse .upstream url = some 0 := by
      unfold optionNumber
      rw [if_neg hnil, hurl]
      rfl
    rw [if_pos hnil, applyAll_option hnumber]
    rfl

theorem applyAll_sslInsecure (parse : ParseURL) (value : Bool)
    (hchild : child.sslInsecure = false) :
    applyAll parse (some child) (if value then [.flag .sslInsecure] else []) =
      some { child with sslInsecure := value } := by
  cases value with
  | true => rfl
  | false =>
    rw [if_neg Bool.false_ne_true, ← hchild]
    rfl

theorem applyAll_noOpenBrowser (parse : ParseURL) (value : Bool)
    (hchild : child.noOpenBrowser = false) :
    applyAll parse (some child) (if value then [.flag .noOpenBrowser] else []) =
      some { child with noOpenBrowser := value } := by
  cases value with
  | true => rfl
  | false =>
    rw [if_neg Bool.false_ne_true, ← hchild]
    rfl

theorem applyAll_ports (h : Accepted parse parsed) (hmitmweb : mitmwebPath ≠ [])
    (hcapture : captureFile ≠ []) (link : Invocation) : applyAll parse (some link)
        [.flag .proxyMode,
          .option .proxyPort (itoaInt parsed.proxyPort) false,
          .option .webPort (itoaInt parsed.webPort) false,
          .option .mitmweb mitmwebPath false,
          .option .captureFile captureFile false] =
      some { link with
        proxyMode := true
        proxyPort := parsed.proxyPort
        proxyPortSet := true
        webPort := parsed.webPort
        webPortSet := true
        mitmwebPath
        captureFile } := by
  have hflag (groups : List Group) : applyAll parse (some link) (.flag .proxyMode :: groups) =
      applyAll parse (some { link with proxyMode := true }) groups := rfl
  rw [hflag, applyAll_option (optionNumber_port parse (by decide) h.proxyPort),
    applyAll_option (optionNumber_port parse (by decide) h.webPort),
    applyAll_option (optionNumber_text parse (by decide) hmitmweb),
    applyAll_option (optionNumber_text parse (by decide) hcapture)]
  rfl

theorem applyAll_proxy (h : Accepted parse parsed) (hmitmweb : mitmwebPath ≠ [])
    (hcapture : captureFile ≠ []) {link : Invocation} (hupstream : link.upstreamURL = [])
    (hssl : link.sslInsecure = false) (hbrowser : link.noOpenBrowser = false) :
    applyAll parse (some link) (proxyGroups parsed mitmwebPath captureFile) =
      some (link.addProxy parsed mitmwebPath captureFile) := by
  rw [proxyGroups, applyAll_append, applyAll_append, applyAll_append,
    applyAll_ports h hmitmweb hcapture, applyAll_upstream h.upstreamURL, applyAll_sslInsecure,
    applyAll_noOpenBrowser]
  · rfl
  · exact hbrowser
  · exact hssl
  · exact hupstream

theorem parseInvocation_of_applyAll {groups : List Group}
    (hall : applyAll parse (some {}) groups = some child)
    (hcheck : checkInvocation child = .ok child) :
    parseInvocation parse (render groups) = .ok child := by
  apply toOption_eq_some
  rw [parseInvocation_toOption, parseLoop_render, hall, Option.bind_some, hcheck]
  rfl

theorem checkInvocation_link (parsed : Invocation) (hdcPath : List UInt8) (target : Target)
    (sha256 : List UInt8 → List UInt8) :
    checkInvocation (linkInvocation parsed hdcPath target sha256) =
      .ok (linkInvocation parsed hdcPath target sha256) := by
  simp [checkInvocation, Invocation.withProxyMode, checkOptions, linkInvocation]

theorem checkInvocation_addProxy (hdiffer : parsed.proxyPort ≠ parsed.webPort)
    (hdcPath mitmwebPath captureFile : List UInt8) (target : Target)
    (sha256 : List UInt8 → List UInt8) :
    checkInvocation ((linkInvocation parsed hdcPath target sha256).addProxy parsed mitmwebPath
        captureFile) =
      .ok ((linkInvocation parsed hdcPath target sha256).addProxy parsed mitmwebPath captureFile) := by
  simp [checkInvocation, Invocation.withProxyMode, checkOptions, linkInvocation,
    Invocation.addProxy, hdiffer]

/-- What the child of an accepted command parses to. -/
def childInvocation (parsed : Invocation) (hdcPath mitmwebPath captureFile : List UInt8)
    (target : Target) (sha256 : List UInt8 → List UInt8) : Invocation :=
  let link := linkInvocation parsed hdcPath target sha256
  if parsed.command = some .proxy then link.addProxy parsed mitmwebPath captureFile else link

theorem parseInvocation_child (h : Accepted parse parsed)
    (hcmd : parsed.command = some .start ∨ parsed.command = some .proxy) (hhdc : hdcPath ≠ [])
    (hmitmweb : mitmwebPath ≠ []) (hcapture : captureFile ≠ []) {target : Target}
    (htarget : target.id ≠ []) (sha256 : List UInt8 → List UInt8) :
    parseInvocation parse (childArguments parsed hdcPath mitmwebPath captureFile target sha256) =
      .ok (childInvocation parsed hdcPath mitmwebPath captureFile target sha256) := by
  have hlink := applyAll_link h hhdc htarget sha256
  unfold childInvocation
  rcases hcmd with hstart | hproxy
  · have hmode : parsed.proxyMode = false := by
      rw [h.proxyMode (by simp [hstart]), hstart]
      rfl
    rw [childArguments_start hstart hmode, if_neg (by simp [hstart])]
    exact parseInvocation_of_applyAll hlink (checkInvocation_link parsed hdcPath target sha256)
  · rw [childArguments_proxy hproxy, if_pos hproxy]
    apply parseInvocation_of_applyAll
    · rw [applyAll_append, hlink]
      exact applyAll_proxy h hmitmweb hcapture rfl rfl rfl
    · exact checkInvocation_addProxy (h.differ hproxy) hdcPath mitmwebPath captureFile target sha256

/-- A command line without a second value for an option is read the same in every layout, and the
daemon reads from the child arguments what the command has resolved. -/
theorem command_lines_keep_meaning (parse : ParseURL) :
    (∀ arguments, (∃ groups, arguments = render groups) ∨
      (parseInvocation parse arguments).toOption = none) ∧
    (∀ groups others, (groups.filterMap Group.optionName).Nodup →
      (groups.map Group.separate).Perm (others.map Group.separate) →
      (parseInvocation parse (render groups)).toOption =
        (parseInvocation parse (render others)).toOption) ∧
    ∀ equalFold sha256 arguments parsed output target,
      ∀ filepath : FilePath, ∀ hdcCandidate mitmwebCandidate directory name : List UInt8,
      parseInvocation parse arguments = .ok parsed →
      parsed.command = some .start ∨ parsed.command = some .proxy →
      selectTarget equalFold (parseTargets equalFold output) parsed.deviceID = .ok target →
      let hdcPath := filepath.clean hdcCandidate
      let mitmwebPath := filepath.clean mitmwebCandidate
      let captureFile := newCapturePath filepath directory name
      ∃ child, parseInvocation parse
          (childArguments parsed hdcPath mitmwebPath captureFile target sha256) = .ok child ∧
        child.command = some .daemon ∧ child.hdcPath = hdcPath ∧ child.deviceID = target.id ∧
        child.deviceLabel = redactTarget sha256 target.id ∧
        child.devicePort = parsed.devicePort ∧ child.mtu = parsed.mtu ∧
        child.proxyMode = decide (parsed.command = some .proxy) ∧
        (parsed.command = some .proxy →
          child.proxyPort = parsed.proxyPort ∧ child.webPort = parsed.webPort ∧
          child.mitmwebPath = mitmwebPath ∧ child.captureFile = captureFile ∧
          child.upstreamURL = parsed.upstreamURL ∧ child.sslInsecure = parsed.sslInsecure ∧
          child.noOpenBrowser = parsed.noOpenBrowser) := by
  refine ⟨?_, ?_, ?_⟩
  · intro arguments
    by_cases hgroups : ∃ groups, arguments = render groups
    · exact Or.inl hgroups
    · exact Or.inr (rejected_of_not_grouped parse arguments hgroups)
  · intro groups others hnodup hperm
    rw [parseInvocation_toOption, parseInvocation_toOption, parseLoop_perm parse hnodup hperm]
  · intro equalFold sha256 arguments parsed output target filepath hdcCandidate mitmwebCandidate
      directory name hparsed hcmd htarget hdcPath mitmwebPath captureFile
    have hhdc : hdcPath ≠ [] := filepath.clean_ne_nil hdcCandidate
    have hmitmweb : mitmwebPath ≠ [] := filepath.clean_ne_nil mitmwebCandidate
    have hcapture : captureFile ≠ [] := filepath.clean_ne_nil (filepath.clean directory ++ 47 :: name)
    refine ⟨_, parseInvocation_child (parseInvocation_accepted hparsed) hcmd hhdc hmitmweb
      hcapture (selectTarget_id htarget) sha256, ?_⟩
    unfold childInvocation
    rcases hcmd with hstart | hproxy
    · rw [if_neg (by simp [hstart])]
      simp [linkInvocation, hstart]
    · rw [if_pos hproxy]
      simp [linkInvocation, Invocation.addProxy, hproxy]

theorem command_lines_keep_meaning_proxy : (parseInvocation (fun _ => none)
        (render [.option .mtu (ascii "1280") true, .command .proxy])).toOption =
      (parseInvocation (fun _ => none)
        (render [.command .proxy, .option .mtu (ascii "1280") false])).toOption ∧
    ∃ child, parseInvocation (fun _ => none)
        (childArguments { command := some .proxy, mtu := 1280, mtuSet := true, proxyMode := true }
          (ascii "/hdc") (ascii "/mitmweb") (ascii "/captures/1.mitm")
          { id := ascii "7001", status := ascii "Connected" } (fun _ => [])) = .ok child ∧
      child.mtu = 1280 ∧ child.webPort = 8081 := by
  obtain ⟨_, layout, started⟩ := command_lines_keep_meaning fun _ => none
  constructor
  · apply layout
    · decide
    · exact List.Perm.swap _ _ _
  · obtain ⟨child, hchild, _, _, _, _, _, hmtu, _, hproxy⟩ := started (fun s t => s == t) (fun _ => [])
      [ascii "--mtu=1280", ascii "proxy"]
      { command := some .proxy, mtu := 1280, mtuSet := true, proxyMode := true } (ascii "7001\n")
      { id := ascii "7001", status := ascii "Connected" }
      ⟨fun path => if path = [] then [46] else path, by intro path; split <;> simp_all⟩
      (ascii "/hdc") (ascii "/mitmweb") (ascii "/captures") (ascii "1.mitm")
      (toOption_eq_some (by decide +kernel)) (Or.inr rfl) (toOption_eq_some (by decide +kernel))
    exact ⟨child, hchild, hmtu, (hproxy rfl).2.1⟩

end HarmonyNetBridge.Cli
