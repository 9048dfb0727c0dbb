import Mathlib.Data.List.GetD
import HarmonyNetBridge.Bytes.Entries
import HarmonyNetBridge.Proxy.Hostname

/-! The ClientHello of TLS: what its bytes are, and that `clientHelloServerName` reads the name of the
first host off its first server_name extension. -/
namespace HarmonyNetBridge.Proxy
open Bytes List

/-- A ClientHello; `extensions` is the block of the extensions and `tail` what stands behind it, which
is nothing in a message that keeps to the protocol. -/
structure ClientHello where
  version : List UInt8
  random : List UInt8
  sessionId : List UInt8
  cipherSuites : List UInt8
  compressionMethods : List UInt8
  extensions : List UInt8
  tail : List UInt8 := []
  version_length : version.length = 2
  random_length : random.length = 32
  sessionId_length : sessionId.length < 256 ^ 1
  cipherSuites_length : cipherSuites.length < 256 ^ 2
  cipherSuites_ne_nil : cipherSuites ≠ []
  compressionMethods_length : compressionMethods.length < 256 ^ 1
  extensions_length : extensions.length < 256 ^ 2

namespace ClientHello

def body (hello : ClientHello) : List UInt8 :=
  hello.version ++ hello.random ++ (vector 1 hello.sessionId ++ (vector 2 hello.cipherSuites ++
    (vector 1 hello.compressionMethods ++ (vector 2 hello.extensions ++ hello.tail))))

def message (hello : ClientHello) : List UInt8 := 1 :: vector 3 hello.body

/-- The first server_name extension has the name as its first host_name entry. -/
def ServerName (hello : ClientHello) (name : List UInt8) : Prop :=
  ∃ names trailing, FirstEntry 2 [0, 0] hello.extensions (vector 2 names ++ trailing) ∧
    FirstEntry 1 [0] names name

end ClientHello

theorem shiftLeft_or_eq {a b n : ℕ} (h : b < 2 ^ n) : a <<< n ||| b = a * 2 ^ n + b := by
  rw [← Nat.shiftLeft_add_eq_or_of_lt h, Nat.shiftLeft_eq]

theorem uint16At_eq_value {bytes : List UInt8} {offset : ℕ} (h : offset + 2 ≤ bytes.length) :
    uint16At bytes offset = value ((bytes.drop offset).take 2) := by
  have hfirst : offset < bytes.length := by omega
  have hsecond : offset + 1 < bytes.length := by omega
  have hbytes : (bytes.drop offset).take 2 = [bytes[offset], bytes[offset + 1]] := by
    rw [drop_eq_getElem_cons hfirst, drop_eq_getElem_cons hsecond]
    rfl
  unfold uint16At
  rw [shiftLeft_or_eq (UInt8.toNat_lt _), hbytes]
  simp [value, hfirst, hsecond]

theorem getD_eq_value {bytes : List UInt8} {offset : ℕ} (h : offset + 1 ≤ bytes.length) :
    (bytes.getD offset 0).toNat = value ((bytes.drop offset).take 1) := by
  have hfirst : offset < bytes.length := h
  have hbytes : (bytes.drop offset).take 1 = [bytes[offset]] := by
    rw [drop_eq_getElem_cons hfirst]
    rfl
  rw [hbytes]
  simp [value, hfirst]

/-- What `serverNameFromExtension` makes of a host_name entry. -/
def checkedName (u : Unicode) (ipv6 : List UInt8 → Bool) (host : List UInt8) : Option (List UInt8) :=
  if validProxyHostname ipv6 host then some (u.lower host) else none

section
variable {u : Unicode} {ipv6 : List UInt8 → Bool}

variable {offset last : ℕ} {extension : List UInt8}

theorem tag_zero_iff {bytes : List UInt8} (h : offset < bytes.length) :
    (bytes.drop offset).take 1 = [0] ↔ bytes.getD offset 0 = 0 := by
  rw [drop_eq_getElem_cons h, getD_eq_getElem _ _ h, take_succ_cons, take_zero,
    singleton_inj]

theorem tag_zero_zero_iff {bytes : List UInt8} (h : offset + 2 ≤ bytes.length) :
    (bytes.drop offset).take 2 = [0, 0] ↔ uint16At bytes offset = 0 := by
  have hfirst : offset < bytes.length := by omega
  have hsecond : offset + 1 < bytes.length := by omega
  have hbytes : (bytes.drop offset).take 2 = [bytes[offset], bytes[offset + 1]] := by
    rw [drop_eq_getElem_cons hfirst, drop_eq_getElem_cons hsecond]
    rfl
  rw [uint16At_eq_value h, hbytes]
  simp [value, ← UInt8.toNat_inj]

theorem serverNameEntries_eq (hlast : last ≤ extension.length) :
    serverNameEntries u ipv6 extension offset last =
      (findEntry 1 [0] ((extension.take last).drop offset)).bind (checkedName u ipv6) := by
  induction hsize : last - offset using Nat.strongRecOn generalizing offset with
  | ind size ih =>
    rw [serverNameEntries]
    split
    · rename_i hfits
      rw [findEntry_slice hlast hfits, ← uint16At_eq_value (by omega)]
      simp only [tag_zero_iff (show offset < extension.length by omega)]
      split_ifs with hlong hhost hvalid
      · rfl
      · exact (if_pos hvalid).symm
      · exact (if_neg hvalid).symm
      · exact ih _ (by omega) rfl
    · rw [findEntry_short]
      · rfl
      · rw [length_drop, length_take_of_le hlast]
        omega

theorem serverNameFromExtension_eq (extension : List UInt8) :
    serverNameFromExtension u ipv6 extension =
      (takeVector 2 extension).bind fun (names, _) =>
        (findEntry 1 [0] names).bind (checkedName u ipv6) := by
  have hread := takeVector_drop 2 0 extension
  rw [drop_zero, Nat.zero_add] at hread
  unfold serverNameFromExtension
  dsimp only
  split
  · rw [hread, if_pos (by omega)]
    rfl
  · rename_i hlong
    rw [uint16At_eq_value (by omega), drop_zero, hread]
    split
    · rw [if_pos (by omega)]
      rfl
    · rw [if_neg (by omega), serverNameEntries_eq (by omega), drop_take, Nat.add_sub_cancel_left]
      rfl

theorem helloExtensions_eq {hello : List UInt8} (hlast : last ≤ hello.length) :
    helloExtensions u ipv6 hello offset last =
      (findEntry 2 [0, 0] ((hello.take last).drop offset)).bind
        (serverNameFromExtension u ipv6) := by
  induction hsize : last - offset using Nat.strongRecOn generalizing offset with
  | ind size ih =>
    rw [helloExtensions]
    split
    · rename_i hfits
      rw [findEntry_slice hlast hfits, ← uint16At_eq_value (by omega)]
      simp only [tag_zero_zero_iff (show offset + 2 ≤ hello.length by omega)]
      split_ifs with hlong hname
      · rfl
      · rfl
      · exact ih _ (by omega) rfl
    · rw [findEntry_short]
      · rfl
      · rw [length_drop, length_take_of_le hlast]
        omega

/-- The walk over the fields in front of the extensions. -/
theorem clientHelloServerName_eq (hello : List UInt8) : clientHelloServerName u ipv6 hello =
      (takeVector 1 (hello.drop 34)).bind fun (_, rest) =>
        (takeVector 2 rest).bind fun (cipherSuites, rest) =>
          if cipherSuites = [] then none
          else
            (takeVector 1 rest).bind fun (_, rest) =>
              (takeVector 2 rest).bind fun (extensions, _) =>
                (findEntry 2 [0, 0] extensions).bind (serverNameFromExtension u ipv6) := by
  unfold clientHelloServerName
  dsimp only
  by_cases hhead : hello.length < 35
  · rw [if_pos hhead, takeVector_of_short (by rw [length_drop]; omega)]
    rfl
  -- each vector is read together with the check for the length of the next
  rw [if_neg hhead, takeVector_bind (k := 2) (fun r hr => by simp [takeVector_of_short hr])
    (by omega), getD_eq_value (by omega)]
  simp only [Nat.reduceAdd]
  generalize 35 + value ((hello.drop 34).take 1) = ciphers
  by_cases hsession : ciphers + 2 > hello.length
  · rw [if_pos hsession, if_pos hsession]
  rw [if_neg hsession, if_neg hsession, uint16At_eq_value (by omega),
    takeVector_bind (k := 1) (fun r hr => by simp [takeVector_of_short hr]) (by omega)]
  generalize hsize : value ((hello.drop ciphers).take 2) = cipherLength
  by_cases hciphers : ciphers + 2 + cipherLength + 1 > hello.length
  · rw [if_pos (.inr hciphers), if_pos hciphers]
  have hempty : (hello.drop (ciphers + 2)).take cipherLength = [] ↔ cipherLength = 0 := by
    rw [← length_eq_zero_iff, length_take, length_drop]
    omega
  rw [if_neg hciphers]
  simp only [hempty, hciphers, or_false]
  by_cases hzero : cipherLength = 0
  · rw [if_pos hzero, if_pos hzero]
  rw [if_neg hzero, if_neg hzero]
  generalize ciphers + 2 + cipherLength = compression at hciphers ⊢
  rw [takeVector_bind (k := 2) (fun r hr => by simp [takeVector_of_short hr]) (by omega),
    getD_eq_value (by omega)]
  generalize compression + 1 + value ((hello.drop compression).take 1) = extensions
  by_cases hcomp : extensions + 2 > hello.length
  · rw [if_pos hcomp, if_pos hcomp]
  rw [if_neg hcomp, if_neg hcomp, uint16At_eq_value (by omega), takeVector_drop]
  generalize value ((hello.drop extensions).take 2) = extensionsLength
  by_cases hextensions : extensionsLength > hello.length - (extensions + 2)
  · rw [if_pos hextensions, if_pos (by omega)]
    rfl
  rw [if_neg hextensions, if_neg (by omega), helloExtensions_eq (by omega), drop_take,
    Nat.add_sub_cancel_left]
  rfl

theorem checkedName_eq_some_iff {host name : List UInt8} : checkedName u ipv6 host = some name ↔
      validProxyHostname ipv6 host = true ∧ u.lower host = name := by
  unfold checkedName
  split <;> simp_all

theorem serverNameFromExtension_eq_some_iff {host : List UInt8} :
    serverNameFromExtension u ipv6 extension = some host ↔
      ∃ names trailing name, extension = vector 2 names ++ trailing ∧ names.length < 256 ^ 2 ∧
        FirstEntry 1 [0] names name ∧ validProxyHostname ipv6 name = true ∧ u.lower name = host := by
  rw [serverNameFromExtension_eq]
  simp only [Option.bind_eq_some_iff, Prod.exists, takeVector_eq_some_iff, findEntry_eq_some_iff,
    checkedName_eq_some_iff]
  grind

/-- The name is returned exactly for the bytes of a ClientHello that has it. -/
theorem clientHelloServerName_eq_some_iff {bytes host : List UInt8} :
    clientHelloServerName u ipv6 bytes = some host ↔
      ∃ (hello : ClientHello) (name : List UInt8), bytes = hello.body ∧ hello.ServerName name ∧
        validProxyHostname ipv6 name = true ∧ u.lower name = host := by
  rw [clientHelloServerName_eq]
  constructor
  · intro h
    simp only [Option.bind_eq_some_iff, Prod.exists, takeVector_eq_some_iff] at h
    obtain ⟨sessionId, rest, ⟨hsession, hsessionLength⟩, cipherSuites, rest', ⟨rfl, hciphersLength⟩,
      h⟩ := h
    split_ifs at h with hempty
    simp only [Option.bind_eq_some_iff, Prod.exists, takeVector_eq_some_iff, findEntry_eq_some_iff,
      serverNameFromExtension_eq_some_iff] at h
    obtain ⟨compression, rest, ⟨rfl, hcompressionLength⟩, extensions, tail,
      ⟨rfl, hextensionsLength⟩, list, hlist, names, trailing, name, rfl, -, hname, hvalid, hhost⟩ := h
    have hlen := congrArg List.length hsession
    simp only [length_drop, length_append, length_vector] at hlen
    refine ⟨⟨bytes.take 2, (bytes.drop 2).take 32, sessionId, cipherSuites, compression, extensions,
      tail, ?_, ?_, hsessionLength, hciphersLength, hempty, hcompressionLength, hextensionsLength⟩,
      name, ?_, ⟨names, trailing, hlist, hname⟩, hvalid, hhost⟩
    · rw [length_take]
      omega
    · rw [length_take, length_drop]
      omega
    · have hhead : bytes.take 2 ++ (bytes.drop 2).take 32 = bytes.take 34 :=
        (take_add (i := 2) (j := 32)).symm
      unfold ClientHello.body
      rw [hhead, ← hsession, take_append_drop]
  · rintro ⟨hello, name, rfl, ⟨names, trailing, hlist, hname⟩, hvalid, hhost⟩
    have hhead : (hello.version ++ hello.random).length = 34 := by
      rw [length_append, hello.version_length, hello.random_length]
    have hnames : names.length < 256 ^ 2 := by
      have hlen := hlist.data_length
      rw [length_append, length_vector] at hlen
      omega
    unfold ClientHello.body
    rw [drop_left' hhead]
    simp only [takeVector_vector hello.sessionId_length, takeVector_vector hello.cipherSuites_length,
      takeVector_vector hello.compressionMethods_length, takeVector_vector hello.extensions_length,
      findEntry_eq_some_iff.mpr hlist, Option.bind_some, if_neg hello.cipherSuites_ne_nil,
      serverNameFromExtension_eq_some_iff]
    exact ⟨names, trailing, name, rfl, hnames, hname, hvalid, hhost⟩

end

end HarmonyNetBridge.Proxy
