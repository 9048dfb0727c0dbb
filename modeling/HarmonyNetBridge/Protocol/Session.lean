import Mathlib.Data.Int.Notation
import HarmonyNetBridge.State.Snapshot

/-! Session payloads of HNB/1 after JSON decoding, session tokens and the checks the Mac
makes before a connection may take part in a session. -/
namespace HarmonyNetBridge

/-- The two control modes of `Hello.Mode`. -/
inductive Mode where
  | phase1 | vpn
  deriving DecidableEq, Repr

def Mode.text : Mode → String
  | .phase1 => "phase1"
  | .vpn => "vpn"

structure Hello where
  role : String
  mode : String
  appVersion : String
  supportedVersions : List ℤ
  capabilities : List String
  message : String
  deriving DecidableEq, Repr

structure HelloAck where
  selectedVersion : ℕ
  sessionToken : String
  capabilities : List String
  mtu : ℤ
  message : String
  deriving DecidableEq, Repr

structure ErrorPayload where
  code : String
  message : String
  fatal : Bool
  deriving DecidableEq, Repr

structure DataHello where
  sessionToken : String
  role : String
  deriving DecidableEq, Repr

structure VPNStatusPayload where
  state : String
  message : String
  deriving DecidableEq, Repr

def currentVersion : ℕ := 1

def supportsVersion (versions : List ℤ) : Bool := versions.any (· == (currentVersion : ℤ))

def hasCapability (capabilities : List String) (expected : String) : Bool :=
  capabilities.any (· == expected)

/-- The payload of `sendProtocolError`: every error it reports is fatal. -/
def protocolError (code message : String) : ErrorPayload := ⟨code, message, true⟩

/-- The checks of `handleControlConnection` on a decoded HELLO, in the order it makes them.
`none` is a payload that is not valid JSON for `Hello`. -/
def checkHello : Option Hello → Except ErrorPayload Mode
  | none => .error (protocolError "INVALID_JSON" "HELLO payload is invalid")
  | some hello =>
    let mode? := [Mode.phase1, .vpn].find? fun mode => hello.mode == mode.text
    match mode? with
    | none => .error (protocolError "INVALID_HANDSHAKE"
        "HELLO does not describe a supported control session")
    | some mode =>
      if hello.role ≠ "control" ∨ hello.message ≠ "hello" then
        .error (protocolError "INVALID_HANDSHAKE"
          "HELLO does not describe a supported control session")
      else if !supportsVersion hello.supportedVersions then
        .error (protocolError "VERSION_UNSUPPORTED" "the App does not support HNB/1")
      else if !hasCapability hello.capabilities "control" ||
          (mode == .vpn && !hasCapability hello.capabilities "data") then
        .error (protocolError "CAPABILITY_MISSING"
          "HELLO is missing required control or data capability")
      else .ok mode

/-- The HELLO_ACK that answers an accepted HELLO. -/
def helloAck (mode : Mode) (token : String) (proxyEnabled : Bool) (mtu : ℤ) : HelloAck where
  selectedVersion := currentVersion
  sessionToken := token
  capabilities := ["control"] ++ (if proxyEnabled then ["proxy"] else []) ++
    (if mode = .vpn then ["data", "tcp", "udp", "dns", "heartbeat", "reconnect", "mtu"] else [])
  mtu := mtu
  message := "world"

def lowerHexDigit (n : ℕ) : Char := Char.ofNat (if n < 10 then 48 + n else 87 + n)

/-- `NewSessionToken` on the bytes `rand.Reader` returned: lowercase hexadecimal. -/
def newSessionToken (random : List UInt8) : String :=
  String.ofList (random.flatMap fun b => [lowerHexDigit (b.toNat / 16), lowerHexDigit (b.toNat % 16)])

def isLowerHex (c : Char) : Bool := ('0' ≤ c ∧ c ≤ '9') ∨ ('a' ≤ c ∧ c ≤ 'f')

def hexDecodes (text : List Char) : Bool :=
  text.length % 2 == 0 && text.all fun c => isLowerHex c || decide ('A' ≤ c ∧ c ≤ 'F')

def validSessionToken (token : String) : Bool :=
  token.utf8ByteSize == 32 && token.toList.all isLowerHex && hexDecodes token.toList

/-- The check of `handleDataConnection` on a decoded DATA_HELLO. It returns the token. -/
def checkDataHello : Option DataHello → Except ErrorPayload String
  | none => .error (protocolError "INVALID_DATA_HELLO" "DATA_HELLO payload is invalid")
  | some hello =>
    if hello.role ≠ "data" ∨ validSessionToken hello.sessionToken = false then
      .error (protocolError "INVALID_DATA_HELLO" "DATA_HELLO payload is invalid")
    else .ok hello.sessionToken

def isSpace (c : Char) : Bool :=
  let n := c.toNat
  (9 ≤ n ∧ n ≤ 13) ∨ n = 0x20 ∨ n = 0x85 ∨ n = 0xA0 ∨ n = 0x1680 ∨ (0x2000 ≤ n ∧ n ≤ 0x200A) ∨
    n = 0x2028 ∨ n = 0x2029 ∨ n = 0x202F ∨ n = 0x205F ∨ n = 0x3000

def trimSpace (text : List Char) : List Char :=
  ((text.dropWhile isSpace).reverse.dropWhile isSpace).reverse

/-- The token an Authorization header carries: what follows `Bearer `, without surrounding
white space. -/
def bearerToken (authorization : String) : Option String :=
  let scheme := "Bearer ".toList
  if scheme.isPrefixOf authorization.toList then
    some (String.ofList (trimSpace (authorization.toList.drop scheme.length)))
  else none

end HarmonyNetBridge
