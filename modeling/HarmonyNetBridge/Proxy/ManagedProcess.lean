import Mathlib.Data.List.Infix
import Mathlib.Data.List.DropRight
import HarmonyNetBridge.Bytes.WhiteSpace
import HarmonyNetBridge.Proxy.Hostname

/-! The `mitmweb` process that `Start` launches and that `RecoverManaged` finds again after a crash: it
looks for the recorded values in the line that `ps` prints. -/
namespace HarmonyNetBridge.Proxy
open Bytes List

structure Config where
  executable : List UInt8
  listenPort : ℤ
  webPort : ℤ
  openBrowser : Bool
  captureFile : List UInt8
  confDir : List UInt8
  logFile : List UInt8
  upstreamURL : List UInt8
  sslInsecure : Bool
  deriving DecidableEq, Repr

def Config.sample (listenPort : ℤ) : Config where
  executable := ascii "/mitmweb"
  listenPort := listenPort
  webPort := 8081
  openBrowser := false
  captureFile := ascii "/flows"
  confDir := ascii "/conf"
  logFile := ascii "/log"
  upstreamURL := []
  sslInsecure := false

/-- What `url.Parse` returns, as far as it is looked at. -/
structure ParsedURL where
  scheme : List UInt8
  hostname : List UInt8
  hasUser : Bool
  path : List UInt8
  rawQuery : List UInt8
  fragment : List UInt8
  forceQuery : Bool
  deriving DecidableEq, Repr

/-- `url.Parse`, with `none` for an error. -/
abbrev ParseURL := List UInt8 → Option ParsedURL

def validateUpstreamURL (parse : ParseURL) (rawURL : List UInt8) : Except String Unit :=
  if rawURL = [] then .ok ()
  else
    match parse rawURL with
    | none => .error "upstream must be an http:// or https:// URL with a host"
    | some upstream =>
      if (upstream.scheme ≠ ascii "http" ∧ upstream.scheme ≠ ascii "https") ∨
          upstream.hostname = [] then
        .error "upstream must be an http:// or https:// URL with a host"
      else if upstream.hasUser then .error "upstream URL must not contain credentials"
      else if upstream.path ≠ [] ∨ upstream.rawQuery ≠ [] ∨ upstream.fragment ≠ [] ∨
          upstream.forceQuery then
        .error "upstream URL must contain only a scheme, host, and optional port"
      else .ok ()

def isAbs (path : List UInt8) : Bool := path.head? == some 47

/-- `validateConfig`; `runnable` is what the status of a file says. -/
def validateConfig (parse : ParseURL) (runnable : List UInt8 → Bool) (config : Config) :
    Except String Unit :=
  if !isAbs config.executable || !isAbs config.captureFile || !isAbs config.confDir ||
      !isAbs config.logFile then
    .error "mitmweb executable and owned paths must be absolute"
  else
    match validateUpstreamURL parse config.upstreamURL with
    | .error err => .error err
    | .ok () =>
      if config.listenPort < 1 ∨ config.listenPort > 65535 ∨ config.webPort < 1 ∨
          config.webPort > 65535 then
        .error "mitmweb ports must be in 1...65535"
      else if config.listenPort = config.webPort then
        .error "mitmweb proxy and Web UI ports must differ"
      else if !runnable config.executable then .error "mitmweb executable is not runnable"
      else .ok ()

def itoaInt (n : ℤ) : List UInt8 := if n < 0 then hyphen :: itoa n.natAbs else itoa n.natAbs

def managedTCPTimeout : ℤ := 90

def managedArguments (config : Config) : List (List UInt8) :=
  let mode :=
    if config.upstreamURL ≠ [] then ascii "upstream:" ++ config.upstreamURL else ascii "regular"
  [ascii "--mode", mode,
    ascii "--listen-host", ascii "127.0.0.1",
    ascii "--listen-port", itoaInt config.listenPort,
    ascii "--web-host", ascii "127.0.0.1",
    ascii "--web-port", itoaInt config.webPort,
    ascii "--set", ascii "tcp_timeout=" ++ itoaInt managedTCPTimeout] ++
  (if config.openBrowser then [ascii "--web-open-browser"] else [ascii "--no-web-open-browser"]) ++
  (if config.sslInsecure then [ascii "--set", ascii "ssl_insecure=true"] else []) ++
  [ascii "--save-stream-file", config.captureFile,
    ascii "--set", ascii "confdir=" ++ config.confDir]

/-- The fields of a `ProxySnapshot` that `RecoverManaged` reads. -/
structure ProxyRecord where
  enabled : Bool
  pid : ℤ
  executable : List UInt8
  listenPort : ℤ
  webPort : ℤ
  captureFile : List UInt8
  confDir : List UInt8
  upstreamURL : List UInt8
  sslInsecure : Bool
  deriving DecidableEq, Repr

/-- What `Start` records of the process that it has started. -/
def startRecord (config : Config) (pid : ℤ) : ProxyRecord where
  enabled := true
  pid := pid
  executable := config.executable
  listenPort := config.listenPort
  webPort := config.webPort
  captureFile := config.captureFile
  confDir := config.confDir
  upstreamURL := config.upstreamURL
  sslInsecure := config.sslInsecure

/-- The words of a process that has been started with a configuration. -/
def commandWords (config : Config) : List (List UInt8) :=
  config.executable :: managedArguments config

/-- What `ps` prints for it: the words with blanks between them, and a newline. -/
def psOutput (config : Config) : List UInt8 := [32].intercalate (commandWords config) ++ [10]

def trimSpace (s : List UInt8) : List UInt8 := trimTokens whiteSpace s

/-- `processCommand`, from the output of `ps` if it has not failed. -/
def processCommand (ps : Option (List UInt8)) : Option (List UInt8) :=
  match ps with
  | none => none
  | some payload => if trimSpace payload = [] then none else some (trimSpace payload)

def managedMode (upstreamURL : List UInt8) : List UInt8 :=
  if upstreamURL = [] then ascii "regular" else ascii "upstream:" ++ upstreamURL

def requiredMarkers (previous : ProxyRecord) : List (List UInt8) :=
  [previous.executable,
    ascii "--mode " ++ managedMode previous.upstreamURL,
    ascii "--listen-port " ++ itoaInt previous.listenPort,
    ascii "--web-port " ++ itoaInt previous.webPort,
    ascii "--save-stream-file " ++ previous.captureFile,
    ascii "confdir=" ++ previous.confDir] ++
  if previous.sslInsecure then [ascii "ssl_insecure=true"] else []

inductive Signal where
  | term
  | kill
  deriving DecidableEq, Repr

/-- What happens around `RecoverManaged`: the first output of `ps`, whether the process is gone within
the time that it has after each signal, and an error of `Kill` other than that it is done. -/
structure Termination where
  ps : Option (List UInt8)
  exitsTerminated : Bool
  killError : Option String
  exitsKilled : Bool

/-- The rest of `RecoverManaged`, once it has found its process. -/
def terminate (t : Termination) : List Signal × Except String Unit :=
  if t.exitsTerminated then ([.term], .ok ())
  else
    match t.killError with
    | some err => ([.term, .kill], .error ("terminate orphaned mitmweb: " ++ err))
    | none =>
      if t.exitsKilled then ([.term, .kill], .ok ())
      else ([.term, .kill], .error "orphaned mitmweb did not exit after a bounded termination")

/-- The signals that `RecoverManaged` sends, and what it returns. -/
def recoverManaged (previous : ProxyRecord) (t : Termination) : List Signal × Except String Unit :=
  if !previous.enabled || previous.pid ≤ 1 then ([], .ok ())
  else
    match processCommand t.ps with
    | none => ([], .ok ())
    | some command =>
      if (requiredMarkers previous).any fun marker =>
          decide (marker = [] ∨ ¬marker <:+: command) then
        ([], .error ("a recorded proxy process is still running but cannot be safely identified; " ++
          "stop it manually"))
      else terminate t

theorem itoaInt_inj {m n : ℤ} (hm : 0 ≤ m) (hn : 0 ≤ n) (h : itoaInt m = itoaInt n) : m = n := by
  unfold itoaInt at h
  rw [if_neg (by omega), if_neg (by omega)] at h
  have hvalue := congrArg decimal h
  rw [decimal_itoa, decimal_itoa] at hvalue
  omega

theorem managedMode_inj {a b : List UInt8} (h : managedMode a = managedMode b) : a = b := by
  unfold managedMode at h
  split at h <;> split at h
  · simp_all
  · exact absurd h (by simp +decide [ascii])
  · exact absurd h (by simp +decide [ascii])
  · exact append_cancel_left h

variable {path flag command : List UInt8} {previous : ProxyRecord} {t : Termination}
  {parse : ParseURL} {runnable : List UInt8 → Bool}

theorem head_of_isAbs (h : isAbs path = true) : path.head? = some 47 :=
  beq_iff_eq.mp h

theorem head_managedMode (upstreamURL : List UInt8) :
    (managedMode upstreamURL).head? = some 114 ∨ (managedMode upstreamURL).head? = some 117 := by
  unfold managedMode
  split <;> simp +decide [ascii]

theorem head_itoaInt {n : ℤ} {b : UInt8} (hn : 0 ≤ n) (hb : isDigitByte b = false) :
    (itoaInt n).head? ≠ some b := by
  unfold itoaInt
  rw [if_neg (by omega)]
  intro heq
  rw [itoa_digits n.natAbs b (mem_of_head? heq)] at hb
  cases hb

theorem commandWords_eq (config : Config) : commandWords config =
      [config.executable, ascii "--mode", managedMode config.upstreamURL,
        ascii "--listen-host", ascii "127.0.0.1",
        ascii "--listen-port", itoaInt config.listenPort,
        ascii "--web-host", ascii "127.0.0.1",
        ascii "--web-port", itoaInt config.webPort,
        ascii "--set", ascii "tcp_timeout=" ++ itoaInt managedTCPTimeout] ++
      (if config.openBrowser then [ascii "--web-open-browser"]
        else [ascii "--no-web-open-browser"]) ++
      (if config.sslInsecure then [ascii "--set", ascii "ssl_insecure=true"] else []) ++
      [ascii "--save-stream-file", config.captureFile,
        ascii "--set", ascii "confdir=" ++ config.confDir] := by
  unfold commandWords managedArguments managedMode
  by_cases h : config.upstreamURL = [] <;> simp [h]

theorem pair_mem_zip_tail {α : Type*} {l : List α} {a b : α} (h : [a, b] <:+: l) :
    (a, b) ∈ l.zip l.tail := by
  obtain ⟨front, back, rfl⟩ := h
  induction front with
  | nil => simp
  | cons x front ih =>
    cases front with
    | nil => simp
    | cons y front => exact mem_cons_of_mem _ ih

/-- The flags of the markers with a value. -/
def valueFlags : List (List UInt8) :=
  [ascii "--mode", ascii "--listen-port", ascii "--web-port", ascii "--save-stream-file"]

/-- The word of a process after each of these flags. No other word is one of them. -/
theorem value_of_flag {config : Config} {value : List UInt8}
    (hexe : isAbs config.executable = true) (hcapture : isAbs config.captureFile = true)
    (hlisten : 0 ≤ config.listenPort) (hweb : 0 ≤ config.webPort) (hflag : flag ∈ valueFlags)
    (h : [flag, value] <:+: commandWords config) :
    (flag, value) ∈ [(ascii "--mode", managedMode config.upstreamURL),
      (ascii "--listen-port", itoaInt config.listenPort),
      (ascii "--web-port", itoaInt config.webPort),
      (ascii "--save-stream-file", config.captureFile)] := by
  have hhead : flag.head? = some hyphen := by
    have hall : ∀ word ∈ valueFlags, word.head? = some hyphen := by decide
    exact hall flag hflag
  have differs {word : List UInt8} (hword : word.head? ≠ some hyphen) : flag ≠ word := by
    intro heq
    exact hword (heq ▸ hhead)
  have e1 : flag ≠ config.executable := differs (by simp [head_of_isAbs hexe, hyphen])
  have e2 : flag ≠ config.captureFile := differs (by simp [head_of_isAbs hcapture, hyphen])
  have e3 : flag ≠ managedMode config.upstreamURL := by
    apply differs
    rcases head_managedMode config.upstreamURL with h | h <;> simp [h, hyphen]
  have e4 : flag ≠ itoaInt config.listenPort := differs (head_itoaInt hlisten (by decide))
  have e5 : flag ≠ itoaInt config.webPort := differs (head_itoaInt hweb (by decide))
  have hpair := pair_mem_zip_tail h
  rw [commandWords_eq] at hpair
  simp only [valueFlags, mem_cons, not_mem_nil, or_false] at hflag
  cases hbrowser : config.openBrowser <;> cases hssl : config.sslInsecure <;>
    rcases hflag with rfl | rfl | rfl | rfl <;>
    simpa +decide [hbrowser, hssl, e1, e2, e3, e4, e5] using hpair

theorem value_unique {config : Config} {first second : List UInt8}
    (hexe : isAbs config.executable = true) (hcapture : isAbs config.captureFile = true)
    (hlisten : 0 ≤ config.listenPort) (hweb : 0 ≤ config.webPort) (hflag : flag ∈ valueFlags)
    (hfirst : [flag, first] <:+: commandWords config)
    (hsecond : [flag, second] <:+: commandWords config) : first = second := by
  replace hfirst := value_of_flag hexe hcapture hlisten hweb hflag hfirst
  replace hsecond := value_of_flag hexe hcapture hlisten hweb hflag hsecond
  simp only [valueFlags, mem_cons, not_mem_nil, or_false] at hflag
  rcases hflag with rfl | rfl | rfl | rfl <;>
    simp +decide only [mem_cons, Prod.mk.injEq, true_and, false_and, or_false, false_or,
      not_mem_nil] at hfirst hsecond <;>
    exact hfirst.trans hsecond.symm

/-- Only two settings begin with a `c` or an `s`. -/
theorem setting_of_word {config : Config} {word : List UInt8}
    (hexe : isAbs config.executable = true) (hcapture : isAbs config.captureFile = true)
    (hlisten : 0 ≤ config.listenPort) (hweb : 0 ≤ config.webPort)
    (hhead : word.head? ∈ [some 99, some 115]) (h : word ∈ commandWords config) :
    word = ascii "confdir=" ++ config.confDir ∨
    (config.sslInsecure = true ∧ word = ascii "ssl_insecure=true") := by
  have hpath {path : List UInt8} (h : isAbs path = true) : path.head? ∉ [some 99, some 115] := by
    simp [head_of_isAbs h]
  have hmode : (managedMode config.upstreamURL).head? ∉ [some 99, some 115] := by
    rcases head_managedMode config.upstreamURL with h | h <;> simp [h]
  have hport {n : ℤ} (hn : 0 ≤ n) : (itoaInt n).head? ∉ [some 99, some 115] := by
    simp only [mem_cons, not_mem_nil, or_false, not_or]
    exact ⟨head_itoaInt hn (by decide), head_itoaInt hn (by decide)⟩
  rw [commandWords_eq, mem_append, mem_append, mem_append] at h
  rcases h with ((h | h) | h) | h
  · exfalso
    simp only [mem_cons, not_mem_nil, or_false] at h
    rcases h with rfl | rfl | rfl | rfl | rfl | rfl | rfl | rfl | rfl | rfl | rfl | rfl | rfl
    all_goals
      first
      | exact absurd hhead (by decide)
      | exact hpath hexe hhead
      | exact hmode hhead
      | exact hport hlisten hhead
      | exact hport hweb hhead
  · split at h <;> rw [mem_singleton.mp h] at hhead <;> exact absurd hhead (by decide)
  · split at h
    case isTrue hssl =>
      simp only [mem_cons, not_mem_nil, or_false] at h
      rcases h with rfl | rfl
      · exact absurd hhead (by decide)
      · exact Or.inr ⟨hssl, rfl⟩
    case isFalse => cases h
  · simp only [mem_cons, not_mem_nil, or_false] at h
    rcases h with rfl | rfl | rfl | rfl
    · exact absurd hhead (by decide)
    · exact absurd hhead (hpath hcapture)
    · exact absurd hhead (by decide)
    · exact Or.inl rfl

/-- The words that the markers of `RecoverManaged` are made of. -/
def markerWords (previous : ProxyRecord) : List (List (List UInt8)) :=
  [[previous.executable],
    [ascii "--mode", managedMode previous.upstreamURL],
    [ascii "--listen-port", itoaInt previous.listenPort],
    [ascii "--web-port", itoaInt previous.webPort],
    [ascii "--save-stream-file", previous.captureFile],
    [ascii "confdir=" ++ previous.confDir]] ++
  if previous.sslInsecure then [[ascii "ssl_insecure=true"]] else []

theorem requiredMarkers_eq (previous : ProxyRecord) :
    requiredMarkers previous = (markerWords previous).map [32].intercalate := by
  have hmode : ascii "--mode " = ascii "--mode" ++ [32] := by decide
  have hlisten : ascii "--listen-port " = ascii "--listen-port" ++ [32] := by decide
  have hweb : ascii "--web-port " = ascii "--web-port" ++ [32] := by decide
  have hcapture : ascii "--save-stream-file " = ascii "--save-stream-file" ++ [32] := by decide
  unfold requiredMarkers markerWords
  rw [hmode, hlisten, hweb, hcapture]
  cases previous.sslInsecure <;> simp [intercalate_cons_cons]

def Identifies (previous : ProxyRecord) (command : List UInt8) : Prop :=
  ∀ marker ∈ requiredMarkers previous, marker ≠ [] ∧ marker <:+: command

theorem terminate_signals (t : Termination) : ∃ rest, (terminate t).1 = .term :: rest := by
  unfold terminate
  split
  · exact ⟨[], rfl⟩
  split
  · exact ⟨[.kill], rfl⟩
  split
  · exact ⟨[.kill], rfl⟩
  · exact ⟨[.kill], rfl⟩

theorem recoverManaged_of_identifies (henabled : previous.enabled = true) (hpid : 1 < previous.pid)
    (hcmd : processCommand t.ps = some command) (h : Identifies previous command) :
    recoverManaged previous t = terminate t := by
  have hrecorded : ¬(!previous.enabled || decide (previous.pid ≤ 1)) = true := by
    simp [henabled, hpid]
  unfold recoverManaged
  rw [if_neg hrecorded, hcmd]
  apply if_neg
  simpa [Identifies] using h

/-- Without all the markers no signal is sent. -/
theorem identifies_of_signals (h : (recoverManaged previous t).1 ≠ []) :
    ∃ command, processCommand t.ps = some command ∧ Identifies previous command := by
  unfold recoverManaged at h
  split at h
  · exact absurd rfl h
  split at h
  · exact absurd rfl h
  · rename_i command hcmd
    split at h
    · exact absurd rfl h
    · rename_i hall
      exact ⟨command, hcmd, by simpa [Identifies] using hall⟩

theorem processCommand_some {payload : List UInt8}
    (h : processCommand (some payload) = some command) : command = trimSpace payload := by
  unfold processCommand at h
  dsimp only at h
  split at h
  · cases h
  · exact (Option.some.inj h).symm

theorem ne_nil_of_isAbs (h : isAbs path = true) : path ≠ [] := by
  intro hnil
  have hhead := head_of_isAbs h
  rw [hnil] at hhead
  cases hhead

theorem requiredMarkers_ne_nil (h : previous.executable ≠ []) :
    ∀ marker ∈ requiredMarkers previous, marker ≠ [] := by
  unfold requiredMarkers
  cases previous.sslInsecure <;> simp +decide [h]

/-- A process is signalled if its command line has all the markers. -/
theorem signals_iff {previous : ProxyRecord} {t : Termination} {payload : List UInt8}
    (henabled : previous.enabled = true) (hpid : 1 < previous.pid)
    (hexe : previous.executable ≠ []) (hps : t.ps = some payload) :
    (recoverManaged previous t).1 ≠ [] ↔
      ∀ marker ∈ requiredMarkers previous, marker <:+: trimSpace payload := by
  constructor
  · intro hsignals marker hmarker
    obtain ⟨command, hcmd, identifies⟩ := identifies_of_signals hsignals
    rw [hps] at hcmd
    rw [← processCommand_some hcmd]
    exact (identifies marker hmarker).2
  · intro hfound
    have hne : trimSpace payload ≠ [] := by
      intro hnil
      have hinfix := hfound previous.executable (by simp [requiredMarkers])
      rw [hnil, infix_nil] at hinfix
      exact hexe hinfix
    have hcmd : processCommand t.ps = some (trimSpace payload) := by
      rw [hps]
      exact if_neg hne
    rw [recoverManaged_of_identifies henabled hpid hcmd fun marker hmarker =>
      ⟨requiredMarkers_ne_nil hexe marker hmarker, hfound marker hmarker⟩]
    obtain ⟨rest, hrest⟩ := terminate_signals t
    simp [hrest]

theorem validateConfig_ok {config : Config} (h : validateConfig parse runnable config = .ok ()) :
    isAbs config.executable = true ∧ isAbs config.captureFile = true ∧
    isAbs config.confDir = true ∧ 0 ≤ config.listenPort ∧ 0 ≤ config.webPort := by
  unfold validateConfig at h
  split at h
  · cases h
  rename_i habs
  simp only [Bool.or_eq_true, Bool.not_eq_true', not_or, Bool.not_eq_false] at habs
  split at h
  · cases h
  split at h
  · cases h
  exact ⟨habs.1.1.1, habs.1.1.2, habs.1.2, by omega, by omega⟩

structure SameProcess (first second : Config) : Prop where
  executable : first.executable = second.executable
  upstreamURL : first.upstreamURL = second.upstreamURL
  listenPort : first.listenPort = second.listenPort
  webPort : first.webPort = second.webPort
  captureFile : first.captureFile = second.captureFile
  confDir : first.confDir = second.confDir
  sslInsecure : first.sslInsecure = second.sslInsecure

theorem markerWords_found (config : Config) (pid : ℤ) :
    ∀ words ∈ markerWords (startRecord config pid), words ≠ [] ∧ words <:+: commandWords config := by
  rw [commandWords_eq]
  unfold markerWords startRecord
  cases config.openBrowser <;> cases config.sslInsecure <;>
    simp [infix_cons_iff, cons_prefix_cons]

theorem insecure_of_word {config : Config} (hexe : isAbs config.executable = true)
    (hcapture : isAbs config.captureFile = true) (hlisten : 0 ≤ config.listenPort)
    (hweb : 0 ≤ config.webPort) (h : ascii "ssl_insecure=true" ∈ commandWords config) :
    config.sslInsecure = true := by
  rcases setting_of_word hexe hcapture hlisten hweb (by decide) h with h | h
  · have hhead := congrArg List.head? h
    simp +decide [ascii] at hhead
  · exact h.1

/-- A process that has all the markers as words has been started with the recorded values. -/
theorem sameProcess_of_words {first second : Config} {pid : ℤ}
    (hfirst : validateConfig parse runnable first = .ok ())
    (hsecond : validateConfig parse runnable second = .ok ())
    (hhead : (commandWords second).head? = some first.executable)
    (hssl : ascii "ssl_insecure=true" ∈ commandWords second → first.sslInsecure = true)
    (found : ∀ words ∈ markerWords (startRecord first pid), words <:+: commandWords second) :
    SameProcess first second := by
  obtain ⟨_, _, _, hlisten, hweb⟩ := validateConfig_ok hfirst
  obtain ⟨habs', hcaptureAbs, _, hlisten', hweb'⟩ := validateConfig_ok hsecond
  have same {flag value value' : List UInt8} (hflag : flag ∈ valueFlags)
      (h : [flag, value] <:+: commandWords second) (h' : [flag, value'] <:+: commandWords second) :
      value = value' :=
    value_unique habs' hcaptureAbs hlisten' hweb' hflag h h'
  have own : ∀ words ∈ markerWords (startRecord second pid), words <:+: commandWords second :=
    fun words hwords => (markerWords_found second pid words hwords).2
  simp only [markerWords, startRecord, forall_mem_append, forall_mem_cons] at found own
  obtain ⟨⟨_, hmode, hlistenPort, hwebPort, hcaptureFile, hconfDir, _⟩, hinsecure⟩ := found
  obtain ⟨⟨_, ownMode, ownListenPort, ownWebPort, ownCaptureFile, _⟩, _⟩ := own
  constructor
  · exact (Option.some.inj hhead).symm
  · exact managedMode_inj (same (by decide) hmode ownMode)
  · exact itoaInt_inj hlisten hlisten' (same (by decide) hlistenPort ownListenPort)
  · exact itoaInt_inj hweb hweb' (same (by decide) hwebPort ownWebPort)
  · exact same (by decide) hcaptureFile ownCaptureFile
  · rcases setting_of_word habs' hcaptureAbs hlisten' hweb' (by simp +decide [ascii])
      ((singleton_infix_iff _ _).mp hconfDir) with h | ⟨_, h⟩
    · exact append_cancel_left h
    · have hhead := congrArg List.head? h
      simp +decide [ascii] at hhead
  · cases hfirst : first.sslInsecure with
    | false =>
      cases hsecond : second.sslInsecure with
      | false => rfl
      | true =>
        have hword : ascii "ssl_insecure=true" ∈ commandWords second := by
          rw [commandWords_eq]
          simp [hsecond]
        exact absurd (hfirst.symm.trans (hssl hword)) Bool.false_ne_true
    | true =>
      have hword := hinsecure [ascii "ssl_insecure=true"] (by simp [hfirst])
      exact (insecure_of_word habs' hcaptureAbs hlisten' hweb'
        ((singleton_infix_iff _ _).mp hword)).symm

/-- A marker of the record is missing in the command line, or all of them are whole words of it. In
that case the recorded executable is the first word, and certificates are checked if the record
says so. -/
def Unmistakable (previous : ProxyRecord) (config : Config) : Prop :=
  (∃ marker ∈ requiredMarkers previous, ¬marker <:+: trimSpace (psOutput config)) ∨
  (∀ words ∈ markerWords previous, words <:+: commandWords config) ∧
    (commandWords config).head? = some previous.executable ∧
    (ascii "ssl_insecure=true" ∈ commandWords config → previous.sslInsecure = true)

/-- Only the recorded process is signalled if, and only if, the markers are found as whole words or
not at all, the executable first and the setting for certificates the same. -/
theorem recoverManaged_agrees_iff (parse : ParseURL) (runnable : List UInt8 → Bool)
    (first second : Config) (hfirst : validateConfig parse runnable first = .ok ())
    (hsecond : validateConfig parse runnable second = .ok ()) (pid : ℤ) (hpid : 1 < pid)
    (t : Termination) (hps : t.ps = some (psOutput second)) :
    ((recoverManaged (startRecord first pid) t).1 ≠ [] → SameProcess first second) ↔
      Unmistakable (startRecord first pid) second := by
  obtain ⟨habs, _⟩ := validateConfig_ok hfirst
  obtain ⟨habs', hcapture, _, hlisten, hweb⟩ := validateConfig_ok hsecond
  have hsignals := @signals_iff (startRecord first pid) t _ rfl hpid (ne_nil_of_isAbs habs) hps
  constructor
  · intro hsame
    by_cases hfound : ∀ marker ∈ requiredMarkers (startRecord first pid),
        marker <:+: trimSpace (psOutput second)
    · have same := hsame (hsignals.mpr hfound)
      have hrecord : startRecord first pid = startRecord second pid := by
        simp only [startRecord, same.executable, same.upstreamURL, same.listenPort, same.webPort,
          same.captureFile, same.confDir, same.sslInsecure]
      refine .inr ⟨?_, congrArg some same.executable.symm, fun hword => ?_⟩
      · rw [hrecord]
        exact fun words h => (markerWords_found second pid words h).2
      · exact same.sslInsecure.trans (insecure_of_word habs' hcapture hlisten hweb hword)
    · exact .inl (by simpa using hfound)
  · rintro (⟨marker, hmarker, hmissing⟩ | ⟨hwhole, hhead, hssl⟩) hsent
    · exact absurd (hsignals.mp hsent marker hmarker) hmissing
    · exact sameProcess_of_words hfirst hsecond hhead hssl hwhole

/-- The process that was recorded. -/
theorem recoverManaged_agrees_own : (recoverManaged (startRecord (.sample 8080) 4711)
      ⟨some (psOutput (.sample 8080)), true, none, true⟩).1 = [.term] ∧
    SameProcess (.sample 8080) (.sample 8080) := by
  have hsignals : (recoverManaged (startRecord (.sample 8080) 4711)
      ⟨some (psOutput (.sample 8080)), true, none, true⟩).1 = [.term] := by decide +kernel
  refine ⟨hsignals, ?_⟩
  refine (recoverManaged_agrees_iff (fun _ => none) (fun _ => true) (.sample 8080) (.sample 8080)
    (by decide) (by decide) 4711 (by decide) ⟨some (psOutput (.sample 8080)), true, none, true⟩
    rfl).mpr ?_ (by simp [hsignals])
  exact .inr ⟨fun words hwords => (markerWords_found _ 4711 words hwords).2, rfl, by decide⟩

/-- A process on port 8080 is taken for the recorded one on port 80. -/
theorem signals_other_port : validateConfig (fun _ => none) (fun _ => true) (.sample 80) = .ok () ∧
    validateConfig (fun _ => none) (fun _ => true) (.sample 8080) = .ok () ∧
    (∀ config ∈ [Config.sample 80, Config.sample 8080], ∀ path ∈ [config.executable,
      config.captureFile, config.confDir, config.logFile], NoSpace path) ∧
    (recoverManaged (startRecord (.sample 80) 4711)
      ⟨some (psOutput (.sample 8080)), true, none, true⟩).1 = [.term] ∧
    (Config.sample 80).listenPort ≠ (Config.sample 8080).listenPort := by
  refine ⟨by decide, by decide, ?_, by decide +kernel, by decide⟩
  unfold NoSpace
  decide

theorem commandLine_front (config : Config) :
    ∃ rest, [32].intercalate (commandWords config) = config.executable ++ rest := by
  have hargs : managedArguments config ≠ [] := by simp [managedArguments]
  have hsplit := intercalate_append (x := 32) (cons_ne_nil config.executable []) hargs
  rw [intercalate_singleton] at hsplit
  exact ⟨_, hsplit⟩

theorem commandLine_back (config : Config) :
    ∃ front, [32].intercalate (commandWords config) = front ++ 61 :: config.confDir := by
  obtain ⟨front, hwords⟩ : ∃ front, commandWords config =
      front ++ ([ascii "--save-stream-file", config.captureFile, ascii "--set"] ++
        [ascii "confdir=" ++ config.confDir]) := ⟨_, commandWords_eq config⟩
  have hequals : ascii "confdir=" = ascii "confdir" ++ [61] := by decide
  rw [hwords, ← append_assoc, intercalate_append (by simp) (cons_ne_nil _ []),
    intercalate_singleton, hequals, append_assoc, singleton_append,
    append_cons, ← append_assoc]
  exact ⟨_, rfl⟩

/-- There is no white space around the command line, since it begins with the path of the executable
and ends with that of a directory. -/
theorem clean_commandLine {config : Config} (hexe : isAbs config.executable = true)
    (hconfDir : Clean whiteSpace config.confDir) :
    Clean whiteSpace ([32].intercalate (commandWords config)) := by
  intro w hw
  constructor
  · obtain ⟨rest, hrest⟩ := commandLine_front config
    obtain ⟨path, hpath⟩ := List.head?_eq_some_iff.mp (head_of_isAbs hexe)
    rw [hrest, hpath]
    exact not_prefix_of_plain (by decide) _ w hw
  · obtain ⟨front, hfront⟩ := commandLine_back config
    rw [hfront]
    have hplain : isPlainByte 61 = true := by decide
    exact whiteSpace_separate.not_suffix (not_mem_whiteSpace hplain) Blank.nil hconfDir
      (fun _ => rfl) front w hw

theorem processCommand_psOutput {config : Config} (hexe : isAbs config.executable = true)
    (hconfDir : Clean whiteSpace config.confDir) :
    processCommand (some (psOutput config)) = some ([32].intercalate (commandWords config)) := by
  have hnewline : Blank whiteSpace [10] := ⟨[[10]], by decide, rfl⟩
  have htrim : trimSpace (psOutput config) = [32].intercalate (commandWords config) :=
    trimTokens_padded whiteSpace_separate Blank.nil (clean_commandLine hexe hconfDir) hnewline
  have hne : [32].intercalate (commandWords config) ≠ [] := by
    obtain ⟨front, hfront⟩ := commandLine_back config
    rw [hfront]
    simp
  unfold processCommand
  dsimp only
  rw [htrim, if_neg hne]

/-- The process that `Start` has launched is found and signalled, also if its paths have white space
inside. -/
theorem recoverManaged_finds_own (parse : ParseURL) (runnable : List UInt8 → Bool) (config : Config)
    (hvalid : validateConfig parse runnable config = .ok ())
    (hpaths : ∀ path ∈ [config.executable, config.captureFile, config.confDir, config.logFile],
      Clean whiteSpace path)
    (pid : ℤ) (hpid : 1 < pid) (t : Termination) (hps : t.ps = some (psOutput config)) :
    (∃ rest, (recoverManaged (startRecord config pid) t).1 = .term :: rest) ∧
    (t.exitsTerminated = true → (recoverManaged (startRecord config pid) t).2 = .ok ()) := by
  obtain ⟨hexe, _, _⟩ := validateConfig_ok hvalid
  have hcmd := processCommand_psOutput hexe (hpaths config.confDir (by simp))
  rw [← hps] at hcmd
  have identifies : Identifies (startRecord config pid) ([32].intercalate (commandWords config)) := by
    unfold Identifies
    rw [requiredMarkers_eq]
    intro marker hmarker
    obtain ⟨words, hwords, rfl⟩ := mem_map.mp hmarker
    obtain ⟨hne, hinfix⟩ := markerWords_found config pid words hwords
    constructor
    · exact requiredMarkers_ne_nil (ne_nil_of_isAbs hexe) _
        (requiredMarkers_eq _ ▸ hmarker)
    · exact infix_intercalate hne hinfix
  have hterminate := recoverManaged_of_identifies rfl hpid hcmd identifies
  rw [hterminate]
  constructor
  · exact terminate_signals t
  · intro hexits
    simp [terminate, hexits]

/-- A directory and an executable with a blank in their names. -/
def Config.blank : Config :=
  { Config.sample 8080 with executable := ascii "/My Tools", confDir := ascii "/Application Support" }

theorem recoverManaged_finds_own_blank : ∃ rest, (recoverManaged (startRecord .blank 4711)
      ⟨some (psOutput .blank), true, none, true⟩).1 = .term :: rest :=
  (recoverManaged_finds_own (fun _ => none) (fun _ => true) .blank (by decide)
    (by unfold Clean; decide) 4711 (by decide) ⟨some (psOutput .blank), true, none, true⟩
    rfl).1

end HarmonyNetBridge.Proxy
