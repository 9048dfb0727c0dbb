import Mathlib.Data.List.Perm.Basic
import HarmonyNetBridge.Relay.Scutil
import HarmonyNetBridge.Proxy.ManagedProcess

/-! `parseInvocation`, the command line of `harmony-netbridge`, and the one that `startCommand` builds
for the daemon. -/
namespace HarmonyNetBridge.Cli
open Bytes Proxy List

inductive Command where
  | start | proxy | status | stop | daemon
  deriving DecidableEq, Repr

inductive Flag where
  | help | h | version | proxyMode | sslInsecure | noOpenBrowser
  deriving DecidableEq, Repr

inductive OptionName where
  | hdc | device | deviceLabel | devicePort | mtu | proxyPort | webPort | mitmweb | upstream
  | captureFile
  deriving DecidableEq, Repr

namespace Command

def name : Command → String
  | start => "start"
  | proxy => "proxy"
  | status => "status"
  | stop => "stop"
  | daemon => "__daemon"

def text (c : Command) : List UInt8 := ascii c.name

def all : List Command := [start, proxy, status, stop, daemon]

end Command

namespace Flag

def text : Flag → List UInt8
  | help => ascii "--help"
  | h => ascii "-h"
  | version => ascii "--version"
  | proxyMode => ascii "--proxy-mode"
  | sslInsecure => ascii "--ssl-insecure"
  | noOpenBrowser => ascii "--no-open-browser"

def all : List Flag := [help, h, version, proxyMode, sslInsecure, noOpenBrowser]

end Flag

namespace OptionName

def name : OptionName → String
  | hdc => "--hdc"
  | device => "--device"
  | deviceLabel => "--device-label"
  | devicePort => "--device-port"
  | mtu => "--mtu"
  | proxyPort => "--proxy-port"
  | webPort => "--web-port"
  | mitmweb => "--mitmweb"
  | upstream => "--upstream"
  | captureFile => "--capture-file"

def text (n : OptionName) : List UInt8 := ascii n.name

def all : List OptionName :=
  [hdc, device, deviceLabel, devicePort, mtu, proxyPort, webPort, mitmweb, upstream, captureFile]

end OptionName

/-- An empty string of the source is an empty list here, and an empty command `none`. -/
structure Invocation where
  command : Option Command := none
  hdcPath : List UInt8 := []
  deviceID : List UInt8 := []
  deviceLabel : List UInt8 := []
  devicePort : ℤ := 27183
  mtu : ℤ := 1400
  mtuSet : Bool := false
  proxyMode : Bool := false
  proxyPort : ℤ := 8080
  proxyPortSet : Bool := false
  webPort : ℤ := 8081
  webPortSet : Bool := false
  mitmwebPath : List UInt8 := []
  upstreamURL : List UInt8 := []
  sslInsecure : Bool := false
  captureFile : List UInt8 := []
  noOpenBrowser : Bool := false
  help : Bool := false
  version : Bool := false
  deriving DecidableEq, Repr

/-- The errors of the parser. That of an unknown argument quotes it. -/
inductive InvocationError where
  | message (text : String)
  | unknownArgument (argument : List UInt8)
  deriving DecidableEq, Repr

def minimumMTU : ℤ := 576
def maximumMTU : ℤ := 1500

def integerOption (minimum maximum : ℤ) (error : String) (value : List UInt8) :
    Except InvocationError ℤ :=
  match Relay.atoi value with
  | none => .error (.message error)
  | some number =>
    if number < minimum ∨ number > maximum then .error (.message error) else .ok number

def assignOption (parse : ParseURL) (parsed : Invocation) (name : OptionName) (value : List UInt8) :
    Except InvocationError Invocation :=
  if value = [] then .error (.message (name.name ++ " cannot be empty"))
  else
    match name with
    | .hdc => .ok { parsed with hdcPath := value }
    | .device => .ok { parsed with deviceID := value }
    | .deviceLabel => .ok { parsed with deviceLabel := value }
    | .devicePort => do
      let port ← integerOption 1 65535 "--device-port must be an integer in 1...65535" value
      .ok { parsed with devicePort := port }
    | .mtu => do
      let mtu ← integerOption minimumMTU maximumMTU "--mtu must be an integer in 576...1500" value
      .ok { parsed with mtu := mtu, mtuSet := true }
    | .proxyPort => do
      let port ← integerOption 1 65535 "--proxy-port must be an integer in 1...65535" value
      .ok { parsed with proxyPort := port, proxyPortSet := true }
    | .webPort => do
      let port ← integerOption 1 65535 "--web-port must be an integer in 1...65535" value
      .ok { parsed with webPort := port, webPortSet := true }
    | .mitmweb => .ok { parsed with mitmwebPath := value }
    | .upstream =>
      match validateUpstreamURL parse value with
      | .error err => .error (.message ("--upstream " ++ err))
      | .ok () => .ok { parsed with upstreamURL := value }
    | .captureFile => .ok { parsed with captureFile := value }

def Invocation.setFlag (parsed : Invocation) : Flag → Invocation
  | .help => { parsed with help := true }
  | .h => { parsed with help := true }
  | .version => { parsed with version := true }
  | .proxyMode => { parsed with proxyMode := true }
  | .sslInsecure => { parsed with sslInsecure := true }
  | .noOpenBrowser => { parsed with noOpenBrowser := true }

/-- What the cases of the loop see in an argument. -/
inductive Argument where
  | command (c : Command)
  | flag (f : Flag)
  | option (name : OptionName)
  | assigned (name : OptionName) (value : List UInt8)
  | unknown
  deriving DecidableEq, Repr

def classify (argument : List UInt8) : Argument :=
  match Command.all.find? fun c => c.text == argument with
  | some c => .command c
  | none =>
    match Flag.all.find? fun f => f.text == argument with
    | some f => .flag f
    | none =>
      match OptionName.all.find? fun n => n.text == argument with
      | some n => .option n
      | none =>
        match Relay.cut 61 argument with
        | none => .unknown
        | some (name, value) =>
          match OptionName.all.find? fun n => n.text == name with
          | some n => .assigned n value
          | none => .unknown

def parseLoop (parse : ParseURL) (parsed : Invocation) :
    List (List UInt8) → Except InvocationError Invocation
  | [] => .ok parsed
  | argument :: arguments =>
    match classify argument with
    | .command c =>
      match parsed.command with
      | some first =>
        .error (.message ("multiple commands were provided: " ++ first.name ++ " and " ++ c.name))
      | none => parseLoop parse { parsed with command := some c } arguments
    | .flag f => parseLoop parse (parsed.setFlag f) arguments
    | .option name =>
      match arguments with
      | [] => .error (.message (name.name ++ " requires a value"))
      | value :: arguments =>
        match assignOption parse parsed name value with
        | .error err => .error err
        | .ok parsed => parseLoop parse parsed arguments
    | .assigned name value =>
      match assignOption parse parsed name value with
      | .error err => .error err
      | .ok parsed => parseLoop parse parsed arguments
    | .unknown => .error (.unknownArgument argument)

/-- The command `proxy` implies the mode. -/
def Invocation.withProxyMode (parsed : Invocation) : Invocation :=
  if parsed.command = some .proxy then { parsed with proxyMode := true } else parsed

/-- The last of the checks after the loop. -/
def checkOptions (parsed : Invocation) : Except InvocationError Invocation :=
  if parsed.mtuSet = true ∧ parsed.command ≠ some .start ∧ parsed.command ≠ some .proxy ∧
      parsed.command ≠ some .daemon then
    .error (.message "--mtu is only valid with start or proxy")
  else
    let proxyOptionSet := parsed.proxyPortSet || parsed.webPortSet || parsed.mitmwebPath ≠ [] ||
      parsed.upstreamURL ≠ [] || parsed.sslInsecure || parsed.noOpenBrowser
    if proxyOptionSet = true ∧ parsed.command ≠ some .proxy ∧
        ¬(parsed.command = some .daemon ∧ parsed.proxyMode = true) then
      .error (.message "proxy options are only valid with proxy")
    else if parsed.proxyPort = parsed.webPort ∧
        (parsed.command = some .proxy ∨ parsed.proxyMode = true) then
      .error (.message "--proxy-port and --web-port must differ")
    else .ok parsed

/-- The checks after the loop. -/
def checkInvocation (parsed : Invocation) : Except InvocationError Invocation :=
  if parsed.command = none ∧ parsed.help = false ∧ parsed.version = false then
    .error (.message "a command is required")
  else if parsed.command ≠ some .daemon ∧ parsed.deviceLabel ≠ [] then
    .error (.message "--device-label is an internal option")
  else if parsed.command ≠ some .daemon ∧ (parsed.proxyMode = true ∨ parsed.captureFile ≠ []) then
    .error (.message "--proxy-mode and --capture-file are internal options")
  else checkOptions parsed.withProxyMode

def parseInvocation (parse : ParseURL) (arguments : List (List UInt8)) :
    Except InvocationError Invocation :=
  match parseLoop parse {} arguments with
  | .error err => .error err
  | .ok parsed => checkInvocation parsed

/-! The groups of a command line -/

/-- What an argument, or an option with its value, is. An option is `joined` where it stands in one
argument with its value. -/
inductive Group where
  | command (c : Command)
  | flag (f : Flag)
  | option (name : OptionName) (value : List UInt8) (joined : Bool)
  | unknown (argument : List UInt8) (h : classify argument = .unknown)

namespace Group

def render : Group → List (List UInt8)
  | command c => [c.text]
  | flag f => [f.text]
  | option name value true => [name.text ++ 61 :: value]
  | option name value false => [name.text, value]
  | unknown argument _ => [argument]

/-- The group with its option and the value in two arguments. -/
def separate : Group → Group
  | option name value _ => option name value false
  | group => group

def optionName : Group → Option OptionName
  | option name _ _ => some name
  | _ => none

def apply (parse : ParseURL) (parsed : Invocation) : Group → Option Invocation
  | command c => if parsed.command = none then some { parsed with command := some c } else none
  | flag f => some (parsed.setFlag f)
  | option name value _ => (assignOption parse parsed name value).toOption
  | unknown _ _ => none

end Group

def render (groups : List Group) : List (List UInt8) := groups.flatMap Group.render

theorem classify_command (c : Command) : classify c.text = .command c := by
  cases c <;> decide

theorem classify_flag (f : Flag) : classify f.text = .flag f := by
  cases f <;> decide

theorem classify_option (n : OptionName) : classify n.text = .option n := by
  cases n <;> decide

/-- An option in one argument with its value is none of the fixed words, which have no equals sign. -/
theorem classify_assigned (n : OptionName) (value : List UInt8) :
    classify (n.text ++ 61 :: value) = .assigned n value := by
  have hcmd : ∀ c ∈ Command.all, 61 ∉ c.text := by decide
  have hflag : ∀ f ∈ Flag.all, 61 ∉ f.text := by decide
  have hoption : ∀ m ∈ OptionName.all, 61 ∉ m.text := by decide
  have differs {word : List UInt8} (hword : 61 ∉ word) : ¬(word == n.text ++ 61 :: value) = true := by
    intro heq
    rw [beq_iff_eq.mp heq] at hword
    simp at hword
  have hname : 61 ∉ n.text := by cases n <;> decide
  have hfind : OptionName.all.find? (fun m => m.text == n.text) = some n := by cases n <;> decide
  unfold classify
  rw [List.find?_eq_none.mpr fun c hc => differs (hcmd c hc),
    List.find?_eq_none.mpr fun f hf => differs (hflag f hf),
    List.find?_eq_none.mpr fun m hm => differs (hoption m hm), Relay.cut_append hname]
  dsimp only
  rw [hfind]

theorem parseLoop_group (parse : ParseURL) (parsed : Invocation) (group : Group)
    (arguments : List (List UInt8)) :
    (parseLoop parse parsed (group.render ++ arguments)).toOption =
      (group.apply parse parsed).bind fun parsed => (parseLoop parse parsed arguments).toOption := by
  cases group with
  | command c =>
    cases hcmd : parsed.command <;>
      simp [Group.render, Group.apply, parseLoop, classify_command, hcmd, Except.toOption]
  | flag f => simp [Group.render, Group.apply, parseLoop, classify_flag]
  | option name value joined =>
    cases joined <;> cases hassign : assignOption parse parsed name value <;>
      simp [Group.render, Group.apply, parseLoop, classify_option, classify_assigned, hassign,
        Except.toOption]
  | unknown argument h => simp [Group.render, Group.apply, parseLoop, h, Except.toOption]

def applyAll (parse : ParseURL) (state : Option Invocation) (groups : List Group) :
    Option Invocation :=
  groups.foldl (fun state group => state.bind fun parsed => group.apply parse parsed) state

theorem applyAll_none (parse : ParseURL) (groups : List Group) :
    applyAll parse none groups = none := by
  induction groups with
  | nil => rfl
  | cons group groups ih => exact ih

/-- The loop over a command line goes from group to group. -/
theorem parseLoop_append (parse : ParseURL) (parsed : Invocation) (groups : List Group)
    (arguments : List (List UInt8)) :
    (parseLoop parse parsed (render groups ++ arguments)).toOption =
      (applyAll parse (some parsed) groups).bind fun parsed =>
        (parseLoop parse parsed arguments).toOption := by
  induction groups generalizing parsed with
  | nil => rfl
  | cons group groups ih =>
    have hrender : render (group :: groups) ++ arguments =
        group.render ++ (render groups ++ arguments) := by
      simp [render]
    have happlyAll : applyAll parse (some parsed) (group :: groups) =
        applyAll parse (group.apply parse parsed) groups := rfl
    rw [hrender, parseLoop_group, happlyAll]
    cases group.apply parse parsed with
    | none => rw [applyAll_none, Option.bind_none, Option.bind_none]
    | some parsed => exact ih parsed

theorem parseLoop_render (parse : ParseURL) (parsed : Invocation) (groups : List Group) :
    (parseLoop parse parsed (render groups)).toOption = applyAll parse (some parsed) groups := by
  have h := parseLoop_append parse parsed groups []
  rw [append_nil] at h
  rw [h]
  cases applyAll parse (some parsed) groups <;> rfl

/-! The order of the groups -/

/-- The number that an accepted value of an option stands for, zero for a text. -/
def optionNumber (parse : ParseURL) (name : OptionName) (value : List UInt8) : Option ℤ :=
  if value = [] then none
  else
    match name with
    | .devicePort => (integerOption 1 65535 "" value).toOption
    | .mtu => (integerOption minimumMTU maximumMTU "" value).toOption
    | .proxyPort => (integerOption 1 65535 "" value).toOption
    | .webPort => (integerOption 1 65535 "" value).toOption
    | .upstream => (validateUpstreamURL parse value).toOption.map fun _ => 0
    | _ => some 0

/-- The assignment of an option, once its value has been accepted. -/
def Invocation.set (parsed : Invocation) (name : OptionName) (value : List UInt8) (number : ℤ) :
    Invocation :=
  match name with
  | .hdc => { parsed with hdcPath := value }
  | .device => { parsed with deviceID := value }
  | .deviceLabel => { parsed with deviceLabel := value }
  | .devicePort => { parsed with devicePort := number }
  | .mtu => { parsed with mtu := number, mtuSet := true }
  | .proxyPort => { parsed with proxyPort := number, proxyPortSet := true }
  | .webPort => { parsed with webPort := number, webPortSet := true }
  | .mitmweb => { parsed with mitmwebPath := value }
  | .upstream => { parsed with upstreamURL := value }
  | .captureFile => { parsed with captureFile := value }

variable {minimum maximum number : ℤ} {a b : Group} {groups : List Group} {parse : ParseURL}
  {parsed result : Invocation}

theorem integerOption_bind {error : String} {value : List UInt8} (set : ℤ → Invocation) :
    ((integerOption minimum maximum error value).bind fun number => .ok (set number)).toOption =
      (integerOption minimum maximum "" value).toOption.map set := by
  unfold integerOption
  cases Relay.atoi value with
  | none => rfl
  | some number =>
    dsimp only
    split <;> rfl

/-- Whether a value is accepted does not depend on what has been parsed before. -/
theorem assignOption_eq (parse : ParseURL) (parsed : Invocation) (name : OptionName)
    (value : List UInt8) : (assignOption parse parsed name value).toOption =
      (optionNumber parse name value).map (parsed.set name value) := by
  unfold assignOption optionNumber
  by_cases hempty : value = []
  · rw [if_pos hempty, if_pos hempty]
    rfl
  rw [if_neg hempty, if_neg hempty]
  cases name with
  | devicePort => exact integerOption_bind _
  | mtu => exact integerOption_bind _
  | proxyPort => exact integerOption_bind _
  | webPort => exact integerOption_bind _
  | upstream =>
    dsimp only
    cases validateUpstreamURL parse value <;> rfl
  | hdc => rfl
  | device => rfl
  | deviceLabel => rfl
  | mitmweb => rfl
  | captureFile => rfl

theorem set_comm {m n : OptionName} (h : m ≠ n) (parsed : Invocation) (v w : List UInt8) (i j : ℤ) :
    (parsed.set m v i).set n w j = (parsed.set n w j).set m v i := by
  cases m <;> cases n <;> first | rfl | exact absurd rfl h

theorem set_setFlag (parsed : Invocation) (n : OptionName) (v : List UInt8) (i : ℤ) (f : Flag) :
    (parsed.set n v i).setFlag f = (parsed.setFlag f).set n v i := by
  cases n <;> cases f <;> rfl

theorem command_set (parsed : Invocation) (n : OptionName) (v : List UInt8) (i : ℤ) :
    (parsed.set n v i).command = parsed.command := by
  cases n <;> rfl

theorem set_command (parsed : Invocation) (n : OptionName) (v : List UInt8) (i : ℤ) (c : Command) :
    ({ parsed with command := some c } : Invocation).set n v i =
      { parsed.set n v i with command := some c } := by
  cases n <;> rfl

theorem setFlag_comm (parsed : Invocation) (f g : Flag) :
    (parsed.setFlag f).setFlag g = (parsed.setFlag g).setFlag f := by
  cases f <;> cases g <;> rfl

theorem command_setFlag (parsed : Invocation) (f : Flag) :
    (parsed.setFlag f).command = parsed.command := by
  cases f <;> rfl

theorem setFlag_command (parsed : Invocation) (f : Flag) (c : Command) :
    ({ parsed with command := some c } : Invocation).setFlag f =
      { parsed.setFlag f with command := some c } := by
  cases f <;> rfl

/-- Two groups may change places unless they are values of one option. -/
theorem apply_comm (parse : ParseURL) (parsed : Invocation)
    (h : ∀ name, a.optionName = some name → b.optionName ≠ some name) :
    (a.apply parse parsed).bind (fun parsed => b.apply parse parsed) =
      (b.apply parse parsed).bind (fun parsed => a.apply parse parsed) := by
  cases a with
  | unknown => simp [Group.apply]
  | command c =>
    cases b with
    | unknown => simp [Group.apply]
    | command d => cases hcmd : parsed.command <;> simp [Group.apply, hcmd]
    | flag f =>
      cases hcmd : parsed.command <;>
        simp [Group.apply, hcmd, command_setFlag, setFlag_command]
    | option n v =>
      cases hcmd : parsed.command <;> cases hnumber : optionNumber parse n v <;>
        simp [Group.apply, hcmd, hnumber, assignOption_eq, command_set, set_command]
  | flag f =>
    cases b with
    | unknown => simp [Group.apply]
    | command d =>
      cases hcmd : parsed.command <;>
        simp [Group.apply, hcmd, command_setFlag, setFlag_command]
    | flag g => simp [Group.apply, setFlag_comm parsed f g]
    | option n v =>
      cases hnumber : optionNumber parse n v <;>
        simp [Group.apply, hnumber, assignOption_eq, set_setFlag]
  | option m v =>
    cases b with
    | unknown => simp [Group.apply]
    | command d =>
      cases hcmd : parsed.command <;> cases hnumber : optionNumber parse m v <;>
        simp [Group.apply, hcmd, hnumber, assignOption_eq, command_set, set_command]
    | flag g =>
      cases hnumber : optionNumber parse m v <;>
        simp [Group.apply, hnumber, assignOption_eq, set_setFlag]
    | option n w =>
      have hne : m ≠ n := fun heq => h m rfl (heq ▸ rfl)
      cases hm : optionNumber parse m v <;> cases hn : optionNumber parse n w <;>
        simp [Group.apply, hm, hn, assignOption_eq, set_comm hne]

theorem apply_separate (parse : ParseURL) (parsed : Invocation) (group : Group) :
    group.separate.apply parse parsed = group.apply parse parsed := by
  cases group <;> rfl

theorem optionName_separate (group : Group) : group.separate.optionName = group.optionName := by
  cases group <;> rfl

theorem eq_of_optionName (hnodup : (groups.filterMap Group.optionName).Nodup) (ha : a ∈ groups)
    (hb : b ∈ groups) {name : OptionName} (hname : a.optionName = some name)
    (hname' : b.optionName = some name) : a = b := by
  induction groups with
  | nil => cases ha
  | cons group groups ih =>
    have hrest : (groups.filterMap Group.optionName).Nodup :=
      hnodup.sublist ((sublist_cons_self group groups).filterMap _)
    have hnot {c : Group} (hc : c ∈ groups) (hcname : c.optionName = some name)
        (hgroup : group.optionName = some name) : False := by
      rw [filterMap_cons_some hgroup, nodup_cons] at hnodup
      exact hnodup.1 (mem_filterMap.mpr ⟨c, hc, hcname⟩)
    rcases mem_cons.mp ha with heq | hmem <;> rcases mem_cons.mp hb with heq' | hmem'
    · rw [heq, heq']
    · exact (hnot hmem' hname' (heq ▸ hname)).elim
    · exact (hnot hmem hname (heq' ▸ hname')).elim
    · exact ih hrest hmem hmem'

theorem applyAll_separate (parse : ParseURL) (groups : List Group) (state : Option Invocation) :
    applyAll parse state (groups.map Group.separate) = applyAll parse state groups := by
  unfold applyAll
  rw [foldl_map]
  simp only [apply_separate]

/-- The loop does not depend on the order of the groups, nor on how options are written. -/
theorem parseLoop_perm (parse : ParseURL) {others : List Group}
    (hnodup : (groups.filterMap Group.optionName).Nodup)
    (hperm : (groups.map Group.separate).Perm (others.map Group.separate)) :
    (parseLoop parse {} (render groups)).toOption =
      (parseLoop parse {} (render others)).toOption := by
  have hnames : ((groups.map Group.separate).filterMap Group.optionName).Nodup := by
    rw [filterMap_map]
    simpa only [Function.comp_def, optionName_separate] using hnodup
  rw [parseLoop_render, parseLoop_render, ← applyAll_separate parse groups,
    ← applyAll_separate parse others]
  apply hperm.foldl_eq'
  intro a ha b hb state
  cases state with
  | none => rfl
  | some parsed =>
    by_cases hab : a = b
    · rw [hab]
    · apply apply_comm
      intro name hname hname'
      exact hab (eq_of_optionName hnames ha hb hname hname')

theorem parseInvocation_toOption (parse : ParseURL) (arguments : List (List UInt8)) :
    (parseInvocation parse arguments).toOption =
      (parseLoop parse {} arguments).toOption.bind fun parsed =>
        (checkInvocation parsed).toOption := by
  unfold parseInvocation
  cases parseLoop parse {} arguments <;> rfl

/-! Every command line has groups -/

theorem cut_eq_some {separator : UInt8} {s k v : List UInt8}
    (h : Relay.cut separator s = some (k, v)) : s = k ++ separator :: v := by
  unfold Relay.cut at h
  split at h
  case isFalse => cases h
  case isTrue hmem =>
    obtain ⟨rfl, rfl⟩ := Prod.mk.inj (Option.some.inj h)
    obtain ⟨first, rest, hrest⟩ : ∃ first rest, s.dropWhile (· ≠ separator) = first :: rest := by
      apply exists_cons_of_ne_nil
      intro hnil
      have := dropWhile_eq_nil_iff.mp hnil separator hmem
      simp at this
    have hfirst : first = separator := by
      have := List.head?_dropWhile_not (· ≠ separator) s
      rw [hrest] at this
      simpa using this
    conv_lhs => rw [← takeWhile_append_dropWhile (p := (· ≠ separator)) (l := s)]
    rw [hrest, hfirst, tail_cons]

/-- The text that an argument has been recognized by. -/
def Argument.Recognizes (argument : List UInt8) : Argument → Prop
  | .command c => argument = c.text
  | .flag f => argument = f.text
  | .option name => argument = name.text
  | .assigned name value => argument = name.text ++ 61 :: value
  | .unknown => True

theorem classify_recognizes (argument : List UInt8) : (classify argument).Recognizes argument := by
  have found {α : Type} {text : α → List UInt8} {all : List α} {a : α} {word : List UInt8}
      (h : all.find? (fun a => text a == word) = some a) : word = text a := by
    have heq : (text a == word) = true := List.find?_some (p := fun a => text a == word) h
    exact (beq_iff_eq.mp heq).symm
  unfold classify
  split
  · rename_i h
    exact found h
  split
  · rename_i h
    exact found h
  split
  · rename_i h
    exact found h
  split
  · trivial
  · rename_i hcut
    split
    · rename_i h
      have htext := cut_eq_some hcut
      rw [found h] at htext
      exact htext
    · trivial

/-- A command line made of groups, or one with an option at its end that has no value. -/
def Grouped (arguments : List (List UInt8)) : Prop :=
  (∃ groups, arguments = render groups) ∨
    ∃ groups, ∃ name : OptionName, arguments = render groups ++ [name.text]

theorem Grouped.cons (group : Group) {arguments : List (List UInt8)} (h : Grouped arguments) :
    Grouped (group.render ++ arguments) := by
  rcases h with ⟨groups, rfl⟩ | ⟨groups, name, rfl⟩
  · exact Or.inl ⟨group :: groups, flatMap_cons.symm⟩
  · apply Or.inr
    exact ⟨group :: groups, name, by simp [render]⟩

theorem grouped (arguments : List (List UInt8)) : Grouped arguments := by
  induction hlen : arguments.length using Nat.strong_induction_on generalizing arguments with
  | _ n ih =>
    cases arguments with
    | nil => exact Or.inl ⟨[], rfl⟩
    | cons argument arguments =>
      have rest : Grouped arguments := ih _ (by rw [← hlen]; simp) arguments rfl
      have hargument := classify_recognizes argument
      cases hclassify : classify argument with
      | command c =>
        rw [hclassify] at hargument
        rw [show argument = c.text from hargument]
        exact rest.cons (.command c)
      | flag f =>
        rw [hclassify] at hargument
        rw [show argument = f.text from hargument]
        exact rest.cons (.flag f)
      | option name =>
        rw [hclassify] at hargument
        rw [show argument = name.text from hargument]
        cases arguments with
        | nil => exact Or.inr ⟨[], name, rfl⟩
        | cons value arguments =>
          have rest : Grouped arguments := by
            apply ih arguments.length _ arguments rfl
            simp only [← hlen, length_cons]
            omega
          exact rest.cons (.option name value false)
      | assigned name value =>
        rw [hclassify] at hargument
        rw [show argument = name.text ++ 61 :: value from hargument]
        exact rest.cons (.option name value true)
      | unknown => exact rest.cons (.unknown argument hclassify)

/-- A command line that is not made of groups is rejected. -/
theorem rejected_of_not_grouped (parse : ParseURL) (arguments : List (List UInt8))
    (h : ¬∃ groups, arguments = render groups) :
    (parseInvocation parse arguments).toOption = none := by
  obtain ⟨groups, name, rfl⟩ := (grouped arguments).resolve_left h
  have hmissing (parsed : Invocation) : (parseLoop parse parsed [name.text]).toOption = none := by
    simp [parseLoop, classify_option, Except.toOption]
  rw [parseInvocation_toOption, parseLoop_append]
  simp only [hmissing, Option.bind_fun_none, Option.bind_none]

/-! What an accepted command line says -/

structure Checked (parse : ParseURL) (parsed : Invocation) : Prop where
  devicePort : 1 ≤ parsed.devicePort ∧ parsed.devicePort ≤ 65535
  mtu : minimumMTU ≤ parsed.mtu ∧ parsed.mtu ≤ maximumMTU
  proxyPort : 1 ≤ parsed.proxyPort ∧ parsed.proxyPort ≤ 65535
  webPort : 1 ≤ parsed.webPort ∧ parsed.webPort ≤ 65535
  upstreamURL : validateUpstreamURL parse parsed.upstreamURL = .ok ()

theorem integerOption_ok {error : String} {value : List UInt8}
    (h : integerOption minimum maximum error value = .ok number) :
    minimum ≤ number ∧ number ≤ maximum := by
  unfold integerOption at h
  split at h
  · cases h
  · split at h
    · cases h
    · cases h
      omega

theorem Checked.setFlag (h : Checked parse parsed) (f : Flag) :
    Checked parse (parsed.setFlag f) := by
  cases f <;> exact ⟨h.devicePort, h.mtu, h.proxyPort, h.webPort, h.upstreamURL⟩

theorem toOption_eq_some {ε α : Type} {x : Except ε α} {a : α} (h : x.toOption = some a) :
    x = .ok a := by
  cases x with
  | error err => cases h
  | ok b => rw [Option.some.inj h]

theorem Checked.set (h : Checked parse parsed) {name : OptionName} {value : List UInt8}
    (hnumber : optionNumber parse name value = some number) :
    Checked parse (parsed.set name value number) := by
  obtain ⟨devicePort, mtu, proxyPort, webPort, upstreamURL⟩ := h
  unfold optionNumber at hnumber
  split at hnumber
  · cases hnumber
  cases name with
  | devicePort =>
    exact ⟨integerOption_ok (toOption_eq_some hnumber), mtu, proxyPort, webPort, upstreamURL⟩
  | mtu =>
    exact ⟨devicePort, integerOption_ok (toOption_eq_some hnumber), proxyPort, webPort, upstreamURL⟩
  | proxyPort =>
    exact ⟨devicePort, mtu, integerOption_ok (toOption_eq_some hnumber), webPort, upstreamURL⟩
  | webPort =>
    exact ⟨devicePort, mtu, proxyPort, integerOption_ok (toOption_eq_some hnumber), upstreamURL⟩
  | upstream =>
    obtain ⟨_, hvalid, _⟩ := Option.map_eq_some_iff.mp hnumber
    exact ⟨devicePort, mtu, proxyPort, webPort, toOption_eq_some hvalid⟩
  | hdc => exact ⟨devicePort, mtu, proxyPort, webPort, upstreamURL⟩
  | device => exact ⟨devicePort, mtu, proxyPort, webPort, upstreamURL⟩
  | deviceLabel => exact ⟨devicePort, mtu, proxyPort, webPort, upstreamURL⟩
  | mitmweb => exact ⟨devicePort, mtu, proxyPort, webPort, upstreamURL⟩
  | captureFile => exact ⟨devicePort, mtu, proxyPort, webPort, upstreamURL⟩

theorem Checked.apply {next : Invocation} {group : Group} (h : Checked parse parsed)
    (happly : group.apply parse parsed = some next) : Checked parse next := by
  cases group with
  | command c =>
    unfold Group.apply at happly
    dsimp only at happly
    split at happly
    · cases happly
      exact ⟨h.devicePort, h.mtu, h.proxyPort, h.webPort, h.upstreamURL⟩
    · cases happly
  | flag f =>
    cases happly
    exact h.setFlag f
  | option name value joined =>
    have hassign : (assignOption parse parsed name value).toOption = some next := happly
    rw [assignOption_eq] at hassign
    obtain ⟨number, hnumber, rfl⟩ := Option.map_eq_some_iff.mp hassign
    exact h.set hnumber
  | unknown => cases happly

theorem Checked.applyAll (h : Checked parse parsed)
    (hall : applyAll parse (some parsed) groups = some result) : Checked parse result := by
  induction groups generalizing parsed with
  | nil =>
    cases hall
    exact h
  | cons group groups ih =>
    have hrest : Cli.applyAll parse (group.apply parse parsed) groups = some result := hall
    cases happly : group.apply parse parsed with
    | none =>
      rw [happly, applyAll_none] at hrest
      cases hrest
    | some next =>
      rw [happly] at hrest
      exact ih (h.apply happly) hrest

theorem checked_default (parse : ParseURL) : Checked parse {} := by
  constructor
  · decide
  · decide
  · decide
  · decide
  · rfl

theorem checkOptions_ok (h : checkOptions parsed = .ok result) :
    result = parsed ∧ (result.command = some .proxy → result.proxyPort ≠ result.webPort) := by
  unfold checkOptions at h
  split at h
  · cases h
  dsimp only at h
  split at h
  · cases h
  split at h
  · cases h
  rename_i hdiffer
  cases h
  refine ⟨rfl, ?_⟩
  intro hproxy heq
  exact hdiffer ⟨heq, Or.inl hproxy⟩

theorem checkInvocation_ok (h : checkInvocation parsed = .ok result) :
    checkOptions parsed.withProxyMode = .ok result ∧
    (parsed.command ≠ some .daemon → parsed.proxyMode = false) := by
  unfold checkInvocation at h
  split at h
  · cases h
  split at h
  · cases h
  split at h
  · cases h
  rename_i hinternal
  refine ⟨h, ?_⟩
  intro hcmd
  rw [← Bool.not_eq_true]
  intro hmode
  exact hinternal ⟨hcmd, Or.inl hmode⟩

structure Accepted (parse : ParseURL) (parsed : Invocation) : Prop extends Checked parse parsed where
  proxyMode : parsed.command ≠ some .daemon → parsed.proxyMode = decide (parsed.command = some .proxy)
  differ : parsed.command = some .proxy → parsed.proxyPort ≠ parsed.webPort

theorem parseInvocation_accepted {arguments : List (List UInt8)}
    (h : parseInvocation parse arguments = .ok parsed) : Accepted parse parsed := by
  have hoption : (parseInvocation parse arguments).toOption = some parsed := by
    rw [h]
    rfl
  have hgroups : ∃ groups, arguments = render groups := by
    by_contra hnot
    rw [rejected_of_not_grouped parse arguments hnot] at hoption
    cases hoption
  obtain ⟨groups, rfl⟩ := hgroups
  rw [parseInvocation_toOption, parseLoop_render] at hoption
  obtain ⟨looped, hlooped, hcheck⟩ := Option.bind_eq_some_iff.mp hoption
  obtain ⟨devicePort, mtu, proxyPort, webPort, upstreamURL⟩ :=
    (checked_default parse).applyAll hlooped
  obtain ⟨hoptions, hmode⟩ := checkInvocation_ok (toOption_eq_some hcheck)
  obtain ⟨rfl, hdiffer⟩ := checkOptions_ok hoptions
  unfold Invocation.withProxyMode at hdiffer ⊢
  split
  · rename_i hproxy
    rw [if_pos hproxy] at hdiffer
    refine ⟨⟨devicePort, mtu, proxyPort, webPort, upstreamURL⟩, ?_, hdiffer⟩
    intro _
    exact (decide_eq_true hproxy).symm
  · rename_i hproxy
    rw [if_neg hproxy] at hdiffer
    refine ⟨⟨devicePort, mtu, proxyPort, webPort, upstreamURL⟩, ?_, hdiffer⟩
    intro hdaemon
    rw [hmode hdaemon]
    exact (decide_eq_false hproxy).symm

end HarmonyNetBridge.Cli
