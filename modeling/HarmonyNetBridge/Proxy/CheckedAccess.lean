import HarmonyNetBridge.Proxy.RecordStream

/-! The walk over a ClientHello once more, with the run-time checks that Go makes of every index and
every slice: none of them fails. -/
namespace HarmonyNetBridge.Proxy
open Bytes

namespace Checked

/-- `bytes[i]`; `none` is the run-time panic, here and below. -/
def index (bytes : List UInt8) (i : ℕ) : Option UInt8 := bytes[i]?

def uint16At (bytes : List UInt8) (offset : ℕ) : Option ℕ := do
  return (← index bytes offset).toNat <<< 8 ||| (← index bytes (offset + 1)).toNat

def uint24At (bytes : List UInt8) (offset : ℕ) : Option ℕ := do
  return (← index bytes offset).toNat <<< 16 ||| (← index bytes (offset + 1)).toNat <<< 8 |||
    (← index bytes (offset + 2)).toNat

def validLabel (label : List UInt8) : Option Bool :=
  if label.length = 0 ∨ label.length > 63 then some false
  else do
    if (← index label 0) = hyphen then return false
    else if (← index label (label.length - 1)) = hyphen then return false
    else return label.all labelCharacter

section
variable (u : Unicode) (ipv6 : List UInt8 → Bool)

def validProxyHostname (host : List UInt8) : Option Bool :=
  let host := trimSuffix host [dot]
  if host.length = 0 ∨ host.length > 253 ∨ parseIP ipv6 host = true then some false
  else (host.splitOn dot).allM validLabel

def serverNameEntries (extension : List UInt8) (offset last : ℕ) : Option (Option (List UInt8)) :=
  if offset + 3 ≤ last then do
    let nameType ← index extension offset
    let nameLength ← uint16At extension (offset + 1)
    let start := offset + 3
    if nameLength > last - start then return none
    else if nameType = 0 then
      let host ← slice extension start (start + nameLength)
      if ← validProxyHostname ipv6 host then return some (u.lower host) else return none
    else serverNameEntries extension (start + nameLength) last
  else some none
termination_by last - offset

def serverNameFromExtension (extension : List UInt8) : Option (Option (List UInt8)) :=
  if extension.length < 2 then some none
  else do
    let listLength ← uint16At extension 0
    if listLength > extension.length - 2 then return none
    else serverNameEntries u ipv6 extension 2 (2 + listLength)

def helloExtensions (hello : List UInt8) (offset last : ℕ) : Option (Option (List UInt8)) :=
  if offset + 4 ≤ last then do
    let extensionType ← uint16At hello offset
    let extensionLength ← uint16At hello (offset + 2)
    let start := offset + 4
    if extensionLength > last - start then return none
    else if extensionType = 0 then
      serverNameFromExtension u ipv6 (← slice hello start (start + extensionLength))
    else helloExtensions hello (start + extensionLength) last
  else some none
termination_by last - offset

def clientHelloServerName (hello : List UInt8) : Option (Option (List UInt8)) :=
  if hello.length < 35 then some none
  else do
    let sessionLength := (← index hello 34).toNat
    if 35 + sessionLength + 2 > hello.length then return none
    else
      let ciphers := 35 + sessionLength
      let cipherLength ← uint16At hello ciphers
      if cipherLength = 0 ∨ ciphers + 2 + cipherLength + 1 > hello.length then return none
      else
        let compression := ciphers + 2 + cipherLength
        let compressionLength := (← index hello compression).toNat
        if compression + 1 + compressionLength + 2 > hello.length then return none
        else
          let extensions := compression + 1 + compressionLength
          let extensionsLength ← uint16At hello extensions
          if extensionsLength > hello.length - (extensions + 2) then return none
          else helloExtensions u ipv6 hello (extensions + 2) (extensions + 2 + extensionsLength)

/-- The body of the loop of `sniffTLSClientHello` behind the `append`, up to the next record. -/
def judge (handshake : List UInt8) : Option (Option (List UInt8 × SniffResult)) :=
  if handshake.length < 4 then some none
  else do
    if (← index handshake 0) ≠ 0x01 then return some ([], .unavailable)
    else
      let handshakeLength ← uint24At handshake 1
      if handshakeLength > maxInitialClientBytes - 4 then return some ([], .unavailable)
      else if handshake.length < 4 + handshakeLength then return none
      else
        match ← clientHelloServerName u ipv6 (← slice handshake 4 (4 + handshakeLength)) with
        | none => return some ([], .unavailable)
        | some host => return some (host, .resolved)

def sniffRecords (payload : List UInt8) (offset : ℕ) (handshake : List UInt8) :
    Option (List UInt8 × SniffResult) :=
  if payload.length < offset + 5 then some ([], .needMore)
  else do
    if (← index payload offset) ≠ 0x16 then return ([], .unavailable)
    else
      let recordLength ← uint16At payload (offset + 3)
      if recordLength = 0 ∨ recordLength > maxInitialClientBytes ∨
          handshake.length + recordLength > maxInitialClientBytes then return ([], .unavailable)
      else if payload.length < offset + 5 + recordLength then return ([], .needMore)
      else
        let handshake := handshake ++ (← slice payload (offset + 5) (offset + 5 + recordLength))
        match ← judge u ipv6 handshake with
        | some result => return result
        | none =>
          if offset + 5 + recordLength = payload.length then return ([], .needMore)
          else sniffRecords payload (offset + 5 + recordLength) handshake
termination_by payload.length - offset

def sniffTLSClientHello (payload : List UInt8) : Option (List UInt8 × SniffResult) :=
  sniffRecords u ipv6 payload 0 []

end

theorem index_eq {bytes : List UInt8} {i : ℕ} (h : i < bytes.length) :
    index bytes i = some (bytes.getD i 0) := by
  rw [index, List.getD_eq_getElem _ _ h, List.getElem?_eq_getElem h]

theorem uint16At_eq {bytes : List UInt8} {offset : ℕ} (h : offset + 2 ≤ bytes.length) :
    uint16At bytes offset = some (Proxy.uint16At bytes offset) := by
  rw [uint16At, index_eq (by omega), index_eq (by omega)]
  rfl

theorem validLabel_eq (label : List UInt8) : validLabel label = some (Proxy.validLabel label) := by
  unfold validLabel Proxy.validLabel
  by_cases hsize : label.length = 0 ∨ label.length > 63
  · rw [if_pos hsize, if_pos (by tauto)]
  · have hfirst : index label 0 = label.head? := List.head?_eq_getElem?.symm
    have hlast : index label (label.length - 1) = label.getLast? := List.getLast?_eq_getElem?.symm
    have hne : label ≠ [] := by
      rw [ne_eq, ← List.length_eq_zero_iff]
      tauto
    rw [if_neg hsize, hfirst, hlast, List.head?_eq_some_head hne, List.getLast?_eq_some_getLast hne]
    dsimp only [Option.bind_eq_bind, Option.bind_some, Option.pure_def]
    simp only [Option.some.injEq, ← or_assoc, hsize, false_or]
    split_ifs <;> first | rfl | tauto

theorem allM_validLabel (labels : List (List UInt8)) :
    labels.allM validLabel = some (labels.all Proxy.validLabel) := by
  induction labels with
  | nil => rfl
  | cons label labels ih =>
    rw [List.allM, validLabel_eq, List.all_cons]
    cases Proxy.validLabel label with
    | false => rfl
    | true => exact ih

section
variable {u : Unicode} {ipv6 : List UInt8 → Bool}

theorem validProxyHostname_eq (host : List UInt8) :
    validProxyHostname ipv6 host = some (Proxy.validProxyHostname ipv6 host) := by
  unfold validProxyHostname Proxy.validProxyHostname
  dsimp only
  split
  · rfl
  · exact allM_validLabel _

theorem serverNameEntries_eq {extension : List UInt8} {offset last : ℕ}
    (hlast : last ≤ extension.length) : serverNameEntries u ipv6 extension offset last =
      some (Proxy.serverNameEntries u ipv6 extension offset last) := by
  induction hsize : last - offset using Nat.strongRecOn generalizing offset with
  | ind size ih =>
    rw [serverNameEntries, Proxy.serverNameEntries]
    split
    · rename_i hfits
      rw [index_eq (by omega), uint16At_eq (by omega)]
      dsimp only [Option.bind_eq_bind, Option.bind_some]
      generalize Proxy.uint16At extension (offset + 1) = nameLength
      by_cases hlong : nameLength > last - (offset + 3)
      · rw [if_pos hlong, if_pos hlong]
        rfl
      rw [if_neg hlong, if_neg hlong]
      by_cases hhost : extension.getD offset 0 = 0
      · rw [if_pos hhost, if_pos hhost, slice_eq (by omega), Option.bind_some,
          validProxyHostname_eq, Option.bind_some]
        split <;> rfl
      · rw [if_neg hhost, if_neg hhost]
        exact ih _ (by omega) rfl
    · rfl

theorem serverNameFromExtension_eq (extension : List UInt8) :
    serverNameFromExtension u ipv6 extension =
      some (Proxy.serverNameFromExtension u ipv6 extension) := by
  unfold serverNameFromExtension Proxy.serverNameFromExtension
  split
  · rfl
  · rw [uint16At_eq (by omega)]
    dsimp only [Option.bind_eq_bind, Option.bind_some]
    split
    · rfl
    · exact serverNameEntries_eq (by omega)

theorem helloExtensions_eq {hello : List UInt8} {offset last : ℕ} (hlast : last ≤ hello.length) :
    helloExtensions u ipv6 hello offset last =
      some (Proxy.helloExtensions u ipv6 hello offset last) := by
  induction hsize : last - offset using Nat.strongRecOn generalizing offset with
  | ind size ih =>
    rw [helloExtensions, Proxy.helloExtensions]
    split
    · rename_i hfits
      rw [uint16At_eq (by omega), uint16At_eq (by omega)]
      dsimp only [Option.bind_eq_bind, Option.bind_some]
      generalize Proxy.uint16At hello (offset + 2) = extensionLength
      by_cases hlong : extensionLength > last - (offset + 4)
      · rw [if_pos hlong, if_pos hlong]
        rfl
      rw [if_neg hlong, if_neg hlong]
      by_cases hname : Proxy.uint16At hello offset = 0
      · rw [if_pos hname, if_pos hname, slice_eq (by omega)]
        exact serverNameFromExtension_eq _
      · rw [if_neg hname, if_neg hname]
        exact ih _ (by omega) rfl
    · rfl

theorem clientHelloServerName_eq (hello : List UInt8) :
    clientHelloServerName u ipv6 hello = some (Proxy.clientHelloServerName u ipv6 hello) := by
  unfold clientHelloServerName Proxy.clientHelloServerName
  split
  · rfl
  rw [index_eq (by omega)]
  dsimp only [Option.bind_eq_bind, Option.bind_some]
  split
  · rfl
  rw [uint16At_eq (by omega)]
  dsimp only [Option.bind_eq_bind, Option.bind_some]
  split
  · rfl
  rw [index_eq (by omega)]
  dsimp only [Option.bind_eq_bind, Option.bind_some]
  split
  · rfl
  rw [uint16At_eq (by omega)]
  dsimp only [Option.bind_eq_bind, Option.bind_some]
  split
  · rfl
  exact helloExtensions_eq (by omega)

theorem uint24At_eq {handshake : List UInt8} (h : 4 ≤ handshake.length) :
    uint24At handshake 1 = some (value ((handshake.drop 1).take 3)) := by
  rw [uint24At, index_eq (by omega), index_eq (by omega), index_eq (by omega), ← uint24_eq_value h]
  rfl

theorem judge_eq (handshake : List UInt8) :
    judge u ipv6 handshake = some (Proxy.judge u ipv6 handshake) := by
  unfold judge Proxy.judge
  split
  · rfl
  rw [index_eq (by omega), uint24At_eq (by omega)]
  dsimp only [Option.bind_eq_bind, Option.bind_some]
  generalize value ((handshake.drop 1).take 3) = handshakeLength
  by_cases hfirst : handshake.getD 0 0 ≠ 0x01
  · rw [if_pos hfirst, if_pos (.inl hfirst)]
    rfl
  by_cases hlarge : handshakeLength > maxInitialClientBytes - 4
  · rw [if_neg hfirst, if_pos hlarge, if_pos (.inr hlarge)]
    rfl
  rw [if_neg hfirst, if_neg hlarge, if_neg (not_or.mpr ⟨hfirst, hlarge⟩)]
  split
  · rfl
  · rw [slice_eq (by omega), Option.bind_some, clientHelloServerName_eq, Option.bind_some]
    cases Proxy.clientHelloServerName u ipv6 ((handshake.drop 4).take handshakeLength) <;> rfl

theorem sniffRecords_eq (payload : List UInt8) (offset : ℕ) (handshake : List UInt8) :
    sniffRecords u ipv6 payload offset handshake =
      some (Proxy.sniffRecords u ipv6 payload offset handshake) := by
  induction hleft : payload.length - offset using Nat.strongRecOn
    generalizing offset handshake with
  | ind left ih =>
    rw [sniffRecords, sniffRecords_round]
    dsimp only
    split
    · rfl
    rw [index_eq (by omega), uint16At_eq (by omega)]
    dsimp only [Option.bind_eq_bind, Option.bind_some]
    generalize Proxy.uint16At payload (offset + 3) = recordLength
    split
    · rfl
    split
    · rfl
    split
    · rfl
    rw [slice_eq (by omega), Option.bind_some, judge_eq, Option.bind_some]
    cases Proxy.judge u ipv6 (handshake ++ (payload.drop (offset + 5)).take recordLength) with
    | some result => rfl
    | none =>
      dsimp only [Option.getD_none]
      split
      · rfl
      · exact ih _ (by omega) _ _ rfl

end

end Checked

/-- `sniffTLSClientHello` panics on no bytes; it finds the name of a ClientHello as soon as the records
that carry it are there, and not before; and a name that it returns is the name of such a
ClientHello. -/
theorem sniffTLSClientHello_exact (u : Unicode) (ipv6 : List UInt8 → Bool) :
    (∀ payload, Checked.sniffTLSClientHello u ipv6 payload =
      some (sniffTLSClientHello u ipv6 payload)) ∧
    (∀ (hello : ClientHello) (name : List UInt8) (records : List HandshakeRecord),
      hello.message.length ≤ 65536 → hello.ServerName name → validProxyHostname ipv6 name = true →
      records.flatMap HandshakeRecord.fragment = hello.message →
      (∀ front, front <+: records.flatMap HandshakeRecord.encode →
        front ≠ records.flatMap HandshakeRecord.encode →
        sniffTLSClientHello u ipv6 front = ([], .needMore)) ∧
      ∀ rest, sniffTLSClientHello u ipv6 (records.flatMap HandshakeRecord.encode ++ rest) =
        (u.lower name, .resolved)) ∧
    (∀ payload host, sniffTLSClientHello u ipv6 payload = (host, .resolved) →
      ∃ (records : List HandshakeRecord) (rest : List UInt8) (hello : ClientHello)
        (more name : List UInt8), payload = records.flatMap HandshakeRecord.encode ++ rest ∧
          records.flatMap HandshakeRecord.fragment = hello.message ++ more ∧
          hello.ServerName name ∧ validProxyHostname ipv6 name = true ∧ u.lower name = host) := by
  refine ⟨fun payload => Checked.sniffRecords_eq payload 0 [], ?_, ?_⟩
  · intro hello name records hlen hserver hvalid hmessage
    have hbody : hello.body.length ≤ maxInitialClientBytes - 4 := by
      rw [ClientHello.message, List.length_cons, length_vector] at hlen
      have hmax : maxInitialClientBytes = 65536 := rfl
      omega
    have hname : clientHelloServerName u ipv6 hello.body = some (u.lower name) :=
      clientHelloServerName_eq_some_iff.mpr ⟨hello, name, rfl, hserver, hvalid, rfl⟩
    have hrecords : records ≠ [] := by
      rintro rfl
      cases hmessage
    constructor
    · rintro front ⟨more, hfront⟩ hne
      apply sniffRecords_front hfront hmessage _ hbody
      rintro rfl
      exact hne (by simpa using hfront)
    · intro rest
      exact sniffRecords_message rfl hmessage hrecords hbody hname
  · intro payload host h
    obtain ⟨records, rest, body, more, hpayload, hmessage, hname⟩ := sniffRecords_resolved h
    obtain ⟨hello, name, rfl, hserver, hvalid, hhost⟩ := clientHelloServerName_eq_some_iff.mp hname
    exact ⟨records, rest, hello, more, name, hpayload, hmessage, hserver, hvalid, hhost⟩

end HarmonyNetBridge.Proxy
