import Mathlib.Data.Nat.Notation
import HarmonyNetBridge.Bytes.Text

/-! The host name that the capture proxy's dialer reads off the first bytes of a client, from a TLS
ClientHello or an HTTP request, and the CONNECT request it sends for it. -/
namespace HarmonyNetBridge.Proxy
open Bytes

def maxInitialClientBytes : ℕ := 64 * 1024

def hyphen : UInt8 := 45
def headerEnd : List UInt8 := [13, 10, 13, 10]

def isDigitByte (b : UInt8) : Bool := 48 ≤ b && b ≤ 57

def decimal (field : List UInt8) : ℕ := field.foldl (fun value b => value * 10 + (b.toNat - 48)) 0

/-- One number of an IPv4 literal: up to 255 and without a leading zero. -/
def ipv4Field (field : List UInt8) : Bool :=
  field ≠ [] && field.all isDigitByte && (field.length = 1 || field.head? ≠ some 48) &&
    decimal field ≤ 255

def isIPv4Literal (s : List UInt8) : Bool :=
  let fields := s.splitOn dot
  fields.length = 4 && fields.all ipv4Field

/-- `net.ParseIP(s) != nil`. Its first dot, colon or percent sign decides what a text is read as;
`ipv6` stands for the parser of IPv6 literals. -/
def parseIP (ipv6 : List UInt8 → Bool) (s : List UInt8) : Bool :=
  match s.find? (fun b => b == dot || b == colon || b == percent) with
  | none => false
  | some b => if b = dot then isIPv4Literal s else if b = colon then ipv6 s else false

/-- The characters that `validProxyHostname` allows in a label. A rune of several bytes is none of
them, so that the bytes can be looked at one by one. -/
def labelCharacter (b : UInt8) : Bool :=
  (97 ≤ b && b ≤ 122) || (65 ≤ b && b ≤ 90) || (48 ≤ b && b ≤ 57) || b == hyphen

def validLabel (label : List UInt8) : Bool :=
  if label.length = 0 ∨ label.length > 63 ∨ label.head? = some hyphen ∨
      label.getLast? = some hyphen then false
  else label.all labelCharacter

def validProxyHostname (ipv6 : List UInt8 → Bool) (host : List UInt8) : Bool :=
  let host := trimSuffix host [dot]
  if host.length = 0 ∨ host.length > 253 ∨ parseIP ipv6 host = true then false
  else (host.splitOn dot).all validLabel

inductive SniffResult where
  | needMore
  | resolved
  | unavailable
  deriving DecidableEq, Repr

/-- `int(bytes[offset])<<8 | int(bytes[offset+1])`. -/
def uint16At (bytes : List UInt8) (offset : ℕ) : ℕ :=
  (bytes.getD offset 0).toNat <<< 8 ||| (bytes.getD (offset + 1) 0).toNat

/-- `hostport[:i]` for `net.SplitHostPort`; `none` is its error. -/
def splitHostPort (hostport : List UInt8) : Option (List UInt8) :=
  match (hostport.reverse.idxOf? colon).map (hostport.length - 1 - ·) with
  | none => none
  | some i =>
    if hostport.head? = some 91 then
      match hostport.idxOf? 93 with
      | none => none
      | some close =>
        if close + 1 ≠ i then none
        else if 91 ∈ hostport.drop 1 ∨ 93 ∈ hostport.drop (close + 1) then none
        else some ((hostport.take close).drop 1)
    else if colon ∈ hostport.take i then none
    else if 91 ∈ hostport ∨ 93 ∈ hostport then none
    else some (hostport.take i)

section sniff
variable (u : Unicode) (ipv6 : List UInt8 → Bool) (readRequest : List UInt8 → Option (List UInt8))

/-- The loop of `serverNameFromExtension` over the entries from `offset` to `last`. -/
def serverNameEntries (extension : List UInt8) (offset last : ℕ) : Option (List UInt8) :=
  if offset + 3 ≤ last then
    let nameType := extension.getD offset 0
    let nameLength := uint16At extension (offset + 1)
    let start := offset + 3
    if nameLength > last - start then none
    else if nameType = 0 then
      let host := (extension.drop start).take nameLength
      if validProxyHostname ipv6 host then some (u.lower host) else none
    else serverNameEntries extension (start + nameLength) last
  else none
termination_by last - offset

def serverNameFromExtension (extension : List UInt8) : Option (List UInt8) :=
  if extension.length < 2 then none
  else
    let listLength := uint16At extension 0
    if listLength > extension.length - 2 then none
    else serverNameEntries u ipv6 extension 2 (2 + listLength)

/-- The loop of `clientHelloServerName` over the extensions from `offset` to `last`. -/
def helloExtensions (hello : List UInt8) (offset last : ℕ) : Option (List UInt8) :=
  if offset + 4 ≤ last then
    let extensionType := uint16At hello offset
    let extensionLength := uint16At hello (offset + 2)
    let start := offset + 4
    if extensionLength > last - start then none
    else if extensionType = 0 then
      serverNameFromExtension u ipv6 ((hello.drop start).take extensionLength)
    else helloExtensions hello (start + extensionLength) last
  else none
termination_by last - offset

def clientHelloServerName (hello : List UInt8) : Option (List UInt8) :=
  if hello.length < 35 then none
  else
    let sessionLength := (hello.getD 34 0).toNat
    if 35 + sessionLength + 2 > hello.length then none
    else
      let ciphers := 35 + sessionLength
      let cipherLength := uint16At hello ciphers
      if cipherLength = 0 ∨ ciphers + 2 + cipherLength + 1 > hello.length then none
      else
        let compression := ciphers + 2 + cipherLength
        let compressionLength := (hello.getD compression 0).toNat
        if compression + 1 + compressionLength + 2 > hello.length then none
        else
          let extensions := compression + 1 + compressionLength
          let extensionsLength := uint16At hello extensions
          if extensionsLength > hello.length - (extensions + 2) then none
          else helloExtensions u ipv6 hello (extensions + 2) (extensions + 2 + extensionsLength)

/-- The loop of `sniffTLSClientHello` over the records of the payload. -/
def sniffRecords (payload : List UInt8) (offset : ℕ) (handshake : List UInt8) :
    List UInt8 × SniffResult :=
  if payload.length < offset + 5 then ([], .needMore)
  else if payload.getD offset 0 ≠ 0x16 then ([], .unavailable)
  else
    let recordLength := uint16At payload (offset + 3)
    if recordLength = 0 ∨ recordLength > maxInitialClientBytes ∨
        handshake.length + recordLength > maxInitialClientBytes then ([], .unavailable)
    else if payload.length < offset + 5 + recordLength then ([], .needMore)
    else
      let handshake := handshake ++ (payload.drop (offset + 5)).take recordLength
      let handshakeLength :=
        (handshake.getD 1 0).toNat <<< 16 ||| (handshake.getD 2 0).toNat <<< 8 |||
          (handshake.getD 3 0).toNat
      if 4 ≤ handshake.length ∧ handshake.getD 0 0 ≠ 0x01 then ([], .unavailable)
      else if 4 ≤ handshake.length ∧ handshakeLength > maxInitialClientBytes - 4 then
        ([], .unavailable)
      else if 4 ≤ handshake.length ∧ 4 + handshakeLength ≤ handshake.length then
        match clientHelloServerName u ipv6 ((handshake.drop 4).take handshakeLength) with
        | none => ([], .unavailable)
        | some host => (host, .resolved)
      else if offset + 5 + recordLength = payload.length then ([], .needMore)
      else sniffRecords payload (offset + 5 + recordLength) handshake
termination_by payload.length - offset

def sniffTLSClientHello (payload : List UInt8) : List UInt8 × SniffResult :=
  sniffRecords u ipv6 payload 0 []

/-- `readRequest` stands for `http.ReadRequest`: the `Host` of the request, or `none` for an error. -/
def sniffHTTPHost (payload : List UInt8) : List UInt8 × SniffResult :=
  if payload.tails.all (fun rest => !(headerEnd.isPrefixOf rest)) then ([], .needMore)
  else
    match readRequest payload with
    | none => ([], .unavailable)
    | some requestHost =>
      let host := trim (fun b => b == 91 || b == 93) ((splitHostPort requestHost).getD requestHost)
      if validProxyHostname ipv6 host = false then ([], .unavailable)
      else (u.lower host, .resolved)

def sniffHostname (payload : List UInt8) (destinationPort : ℕ) : List UInt8 × SniffResult :=
  match payload with
  | [] => ([], .needMore)
  | first :: _ =>
    if first = 0x16 then sniffTLSClientHello u ipv6 payload
    else if destinationPort = 443 ∨ destinationPort = 8443 then ([], .unavailable)
    else sniffHTTPHost u ipv6 readRequest payload

end sniff

/-- `strconv.Itoa` for the numbers of ports. -/
def itoa (n : ℕ) : List UInt8 := (Nat.toDigits 10 n).map fun c => UInt8.ofNat c.toNat

theorem itoa_digits (n : ℕ) : ∀ b ∈ itoa n, isDigitByte b = true := by
  intro b hb
  obtain ⟨c, hc, rfl⟩ := List.mem_map.mp hb
  have hdigit : c.isDigit = true := Nat.isDigit_of_mem_toDigits (by decide) (by decide) hc
  have hrange : ∀ m < 58, 48 ≤ m → isDigitByte (UInt8.ofNat m) = true := by decide
  obtain ⟨hlow, hhigh⟩ := Char.isDigit_iff_toNat.mp hdigit
  exact hrange c.toNat (Nat.lt_succ_of_le hhigh) hlow

theorem decimal_itoa (n : ℕ) : decimal (itoa n) = n := by
  have hdigit : ∀ c ∈ Nat.toDigits 10 n, ∀ value : ℕ,
      value * 10 + ((UInt8.ofNat c.toNat).toNat - 48) = 10 * value + (c.toNat - '0'.toNat) := by
    intro c hc value
    have hc' : c.isDigit = true := Nat.isDigit_of_mem_toDigits (by decide) (by decide) hc
    obtain ⟨-, hhigh⟩ := Char.isDigit_iff_toNat.mp hc'
    have hlt : c.toNat < UInt8.size := Nat.lt_of_le_of_lt hhigh (by decide)
    rw [UInt8.toNat_ofNat_of_lt' hlt, Nat.mul_comm]
    rfl
  calc decimal (itoa n)
      = (Nat.toDigits 10 n).foldl
          (fun value c => value * 10 + ((UInt8.ofNat c.toNat).toNat - 48)) 0 := List.foldl_map
    _ = (Nat.toDigits 10 n).foldl (fun value c => 10 * value + (c.toNat - '0'.toNat)) 0 :=
        List.foldl_ext _ _ _ fun value c hc => hdigit c hc value
    _ = n := Nat.ofDigitChars_toDigits (by decide) (by decide)

/-- `net.JoinHostPort`. -/
def joinHostPort (host port : List UInt8) : List UInt8 :=
  if colon ∈ host then 91 :: host ++ 93 :: colon :: port
  else host ++ colon :: port

/-- The target that `Write` gives to `establish` once it need not wait for more bytes. -/
def connectTarget (u : Unicode) (ipv6 : List UInt8 → Bool)
    (readRequest : List UInt8 → Option (List UInt8)) (destination payload : List UInt8)
    (destinationPort : ℕ) : List UInt8 :=
  match sniffHostname u ipv6 readRequest payload destinationPort with
  | (hostname, .resolved) => joinHostPort hostname (itoa destinationPort)
  | _ => destination

/-- The request that `performConnect` writes. -/
def connectRequest (address : List UInt8) : List UInt8 :=
  ascii "CONNECT " ++ address ++ ascii " HTTP/1.1\r\nHost: " ++ address ++
    ascii "\r\nProxy-Connection: Keep-Alive\r\n\r\n"

end HarmonyNetBridge.Proxy
