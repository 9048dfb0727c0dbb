import HarmonyNetBridge.Bytes.BigEndian

/-! DNS over TCP in the app: the framing of a query and the decoder of the response that arrives in
chunks. -/
namespace HarmonyNetBridge.Harmony
open Bytes List

def dnsHeaderSize : ℕ := 12
def dnsTcpPrefixSize : ℕ := 2

def frameDnsOverTcp (query : List UInt8) : Except String (List UInt8) :=
  if query.length > 65535 then .error "DNS query is too large for TCP framing"
  else .ok ([.ofNat (query.length / 256), .ofNat (query.length % 256)] ++ query)

structure DnsTcpResponseDecoder where
  buffered : List UInt8 := []
  deriving DecidableEq, Repr

/-- `push`; `none` is `undefined`. Nothing is ever taken off the buffer. -/
def DnsTcpResponseDecoder.push (decoder : DnsTcpResponseDecoder) (chunk : List UInt8) :
    Except String (Option (List UInt8)) × DnsTcpResponseDecoder :=
  let buffered := decoder.buffered ++ chunk
  if buffered.length < dnsTcpPrefixSize then (.ok none, ⟨buffered⟩)
  else
    let payloadLength := (buffered.getD 0 0).toNat * 256 + (buffered.getD 1 0).toNat
    if payloadLength < dnsHeaderSize then
      (.error "DNS TCP response has an invalid length", ⟨buffered⟩)
    else
      let frameLength := dnsTcpPrefixSize + payloadLength
      if buffered.length < frameLength then (.ok none, ⟨buffered⟩)
      else (.ok (some ((buffered.take frameLength).drop dnsTcpPrefixSize)), ⟨buffered⟩)

/-- What the calls of `push` return, one after another. -/
def DnsTcpResponseDecoder.pushes : DnsTcpResponseDecoder → List (List UInt8) →
    List (Except String (Option (List UInt8)))
  | _, [] => []
  | decoder, chunk :: chunks => (decoder.push chunk).1 :: (decoder.push chunk).2.pushes chunks

/-- A message as both sides put it into a TCP stream. -/
def dnsFrame (message : List UInt8) : List UInt8 := bigEndian 2 message.length ++ message

structure Framable (message : List UInt8) : Prop where
  header : dnsHeaderSize ≤ message.length
  short : message.length ≤ 65535

section framing
variable {message rest : List UInt8}

theorem frameDnsOverTcp_eq (h : Framable message) : frameDnsOverTcp message = .ok (dnsFrame message) := by
  rw [frameDnsOverTcp, if_neg (Nat.not_lt.mpr h.short), dnsFrame]
  simp [bigEndian, ← UInt8.toNat_inj]

@[simp] theorem length_dnsFrame :
    (dnsFrame message).length = dnsTcpPrefixSize + message.length := by
  simp [dnsFrame, dnsTcpPrefixSize]

theorem DnsTcpResponseDecoder.push_buffered (decoder : DnsTcpResponseDecoder) (chunk : List UInt8) :
    (decoder.push chunk).2 = ⟨decoder.buffered ++ chunk⟩ := by
  unfold push
  dsimp only
  split_ifs <;> rfl

theorem length_of_front (h : Framable message) {b₀ b₁ : UInt8} {tail later : List UInt8}
    (hfront : b₀ :: b₁ :: tail ++ later = dnsFrame message ++ rest) :
    b₀.toNat * 256 + b₁.toNat = message.length := by
  have hshort := h.short
  have htwo : [b₀, b₁] = bigEndian 2 message.length := by
    have htake := congrArg (List.take 2) hfront
    have hlead : (dnsFrame message ++ rest).take 2 = bigEndian 2 message.length := by
      rw [dnsFrame, append_assoc]
      exact take_left' (length_bigEndian 2 _)
    exact htake.trans hlead
  have hvalue : value (bigEndian 2 message.length) = message.length :=
    value_bigEndian_of_lt (by omega)
  rw [← htwo] at hvalue
  simpa [value] using hvalue

/-- With the front of a framed message buffered, `push` waits for the rest of the message. -/
theorem DnsTcpResponseDecoder.push_front (h : Framable message) {decoder : DnsTcpResponseDecoder}
    {chunk later : List UInt8} (hfront : decoder.buffered ++ chunk ++ later = dnsFrame message ++ rest) :
    (decoder.push chunk).1 = .ok (if (decoder.buffered ++ chunk).length < (dnsFrame message).length
      then none else some message) := by
  have hsize : dnsTcpPrefixSize = 2 := rfl
  unfold push
  generalize decoder.buffered ++ chunk = buffered at hfront
  rw [length_dnsFrame]
  dsimp only
  rcases Nat.lt_or_ge buffered.length dnsTcpPrefixSize with hfew | htwo
  · rw [if_pos hfew, if_pos (by omega)]
  · obtain ⟨b₀, b₁, tail, rfl⟩ : ∃ b₀ b₁ tail, buffered = b₀ :: b₁ :: tail := by
      match buffered, htwo with
      | b₀ :: b₁ :: tail, _ => exact ⟨b₀, b₁, tail, rfl⟩
    have hlen : ((b₀ :: b₁ :: tail).getD 0 0).toNat * 256 + ((b₀ :: b₁ :: tail).getD 1 0).toNat =
        message.length := length_of_front h hfront
    rw [if_neg (Nat.not_lt.mpr htwo), hlen, if_neg (Nat.not_lt.mpr h.header)]
    rcases Nat.lt_or_ge (b₀ :: b₁ :: tail).length (dnsTcpPrefixSize + message.length) with hpart | hall
    · rw [if_pos hpart, if_pos hpart]
    · have htake : (b₀ :: b₁ :: tail).take (dnsTcpPrefixSize + message.length) = dnsFrame message := by
        have hsame := congrArg (List.take (dnsTcpPrefixSize + message.length)) hfront
        rwa [take_append_of_le_length hall, take_left' length_dnsFrame] at hsame
      rw [if_neg (Nat.not_lt.mpr hall), if_neg (Nat.not_lt.mpr hall), htake, dnsFrame,
        hsize,
        drop_left' (length_bigEndian 2 _)]

/-- In whatever chunks a framed message and what follows it arrive: `undefined` until the chunk
that completes the message, and the message from then on. -/
theorem DnsTcpResponseDecoder.pushes_eq (h : Framable message) (decoder : DnsTcpResponseDecoder)
    {chunks : List (List UInt8)}
    (hstream : decoder.buffered ++ chunks.flatten = dnsFrame message ++ rest) :
    decoder.pushes chunks = (List.range chunks.length).map fun i => .ok
      (if (decoder.buffered ++ (chunks.take (i + 1)).flatten).length < (dnsFrame message).length
        then none else some message) := by
  induction chunks generalizing decoder with
  | nil => rfl
  | cons chunk chunks ih =>
    rw [flatten_cons, ← append_assoc] at hstream
    have hnext : (decoder.push chunk).2.buffered ++ chunks.flatten = dnsFrame message ++ rest := by
      rw [push_buffered]
      exact hstream
    rw [pushes, push_front h hstream, ih _ hnext, length_cons, range_succ_eq_map,
      map_cons, map_map]
    simp [push_buffered, Function.comp_def]

end framing
end HarmonyNetBridge.Harmony
