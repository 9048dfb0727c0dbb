import HarmonyNetBridge.Daemon.Device
import HarmonyNetBridge.Relay.Engine

/-! The packet pump of the app: the filter of `PumpTunToSocket` between the TUN and the data
socket, compared with the packet check of the Mac. -/
namespace HarmonyNetBridge.Harmony
open Relay Daemon

def pumpReadUint16 (high low : UInt8) : UInt16 := high.toUInt16 <<< 8 ||| low.toUInt16

/-- What `PumpTunToSocket` does with a packet read from the TUN: the payload of the IP_PACKET frame
it sends, or `none` when it counts the packet as dropped. -/
def pumpTunToSocket (packet : List UInt8) : Option (List UInt8) :=
  if packet.length < 20 ∨ packet.getD 0 0 >>> 4 ≠ 4 then none
  else
    let totalLength := (pumpReadUint16 (packet.getD 2 0) (packet.getD 3 0)).toNat
    if totalLength < 20 ∨ totalLength > packet.length then none
    else some (packet.take totalLength)

theorem pumpReadUint16_toNat (high low : UInt8) :
    (pumpReadUint16 high low).toNat = high.toNat <<< 8 ||| low.toNat := by
  have hbyte := high.toNat_lt
  have hmod : high.toNat <<< 8 % 65536 = high.toNat <<< 8 := by
    rw [Nat.shiftLeft_eq]
    omega
  simp [pumpReadUint16, hmod]

theorem pumpTunToSocket_eq_some {packet payload : List UInt8}
    (h : pumpTunToSocket packet = some payload) :
    packet.getD 0 0 >>> 4 = 4 ∧ 20 ≤ totalLength packet ∧ totalLength packet ≤ packet.length ∧
      payload = packet.take (totalLength packet) := by
  unfold pumpTunToSocket at h
  simp only [pumpReadUint16_toNat] at h
  split_ifs at h with hpacket htotal
  push Not at hpacket htotal
  exact ⟨hpacket.2, htotal.1, htotal.2, (Option.some.inj h).symm⟩

theorem take_fields (packet : List UInt8) {n : ℕ} (h : 4 ≤ n) :
    (packet.take n).getD 0 0 = packet.getD 0 0 ∧
      headerLength (packet.take n) = headerLength packet ∧
      totalLength (packet.take n) = totalLength packet := by
  have hbyte : ∀ i < 4, (packet.take n).getD i 0 = packet.getD i 0 := by
    intro i hi
    have hin : i < n := by omega
    simp [hin]
  refine ⟨hbyte 0 (by omega), ?_, ?_⟩
  · rw [headerLength, hbyte 0 (by omega)]
    rfl
  · rw [totalLength, hbyte 2 (by omega), hbyte 3 (by omega)]
    rfl

theorem validate_forwarded {packet payload : List UInt8}
    (h : pumpTunToSocket packet = some payload) : validateIPv4Packet payload = .ok () ↔
      20 ≤ headerLength packet ∧ headerLength packet ≤ totalLength packet := by
  obtain ⟨hversion, hminimum, htotal, rfl⟩ := pumpTunToSocket_eq_some h
  have hfour : 4 ≤ totalLength packet := by omega
  obtain ⟨hfirst, hheader, hsame⟩ := take_fields packet hfour
  have hmaximum : totalLength packet ≤ 65535 := by
    rw [totalLength, ← pumpReadUint16_toNat]
    have := (pumpReadUint16 (packet.getD 2 0) (packet.getD 3 0)).toNat_lt
    omega
  rw [validateIPv4Packet_ok_iff]
  constructor
  · intro accepted
    have hmin := accepted.minimum
    have hmax := accepted.header
    rw [hheader] at hmin
    rw [hheader, hsame] at hmax
    exact ⟨hmin, hmax⟩
  · rintro ⟨hmin, hmax⟩
    refine ⟨by rw [hfirst]; exact hversion, by rw [hheader]; exact hmin,
      by rw [hheader, hsame]; exact hmax, ?_, by rw [hsame]; exact hmaximum⟩
    rw [hsame, List.length_take]
    omega

theorem inject_isOk_iff (packet : List UInt8) :
    (inject false packet).isOk = true ↔ validateIPv4Packet packet = .ok () := by
  cases hvalid : validateIPv4Packet packet with
  | error e => simp [inject, hvalid, bind, Except.bind, Except.isOk, Except.toBool]
  | ok u =>
    simp [inject, hvalid, bind, Except.bind, pure, Except.pure, Except.isOk, Except.toBool]

theorem dataLoop_ipPacket_iff (token : String) (relay : RelayId) (expectedSequence : UInt32)
    (size : ℕ) (injected : Bool) :
    dataLoop token relay expectedSequence (some (expectedSequence, .ipPacket size injected)) =
      .forwarding token relay (nextSequence expectedSequence) ↔ size ≠ 0 ∧ injected = true := by
  cases injected <;> by_cases hsize : size = 0 <;> simp [dataLoop, hsize]

/-- The Mac accepts a packet that the pump forwards, and the data session survives it, exactly if
the header length is at least that of an IPv4 header and at most the total length. The pump does
not look at the header length. -/
theorem forwarded_accepted_iff {packet payload : List UInt8}
    (h : pumpTunToSocket packet = some payload) (token : String) (relay : RelayId)
    (expectedSequence : UInt32) : (validateIPv4Packet payload = .ok () ↔
      20 ≤ headerLength packet ∧ headerLength packet ≤ totalLength packet) ∧
    (dataLoop token relay expectedSequence (some (expectedSequence,
        .ipPacket payload.length (inject false payload).isOk)) =
      .forwarding token relay (nextSequence expectedSequence) ↔
      20 ≤ headerLength packet ∧ headerLength packet ≤ totalLength packet) := by
  have hacc := validate_forwarded h
  refine ⟨hacc, ?_⟩
  obtain ⟨-, hminimum, htotal, rfl⟩ := pumpTunToSocket_eq_some h
  have hlen : (packet.take (totalLength packet)).length ≠ 0 := by
    rw [List.length_take]
    omega
  rw [dataLoop_ipPacket_iff, inject_isOk_iff, hacc]
  exact and_iff_right hlen

/-- The smallest IPv4 packet: a header of five words. -/
def plainPacket : List UInt8 := [0x45, 0, 0, 20, 0, 0, 0, 0, 64, 17, 0, 0, 10, 0, 0, 1, 10, 0, 0, 2]

theorem forwarded_accepted_plain : pumpTunToSocket plainPacket = some plainPacket ∧
    validateIPv4Packet plainPacket = .ok () := by
  have hforwarded : pumpTunToSocket plainPacket = some plainPacket := by decide
  exact ⟨hforwarded, (forwarded_accepted_iff hforwarded "" 0 2).1.mpr (by decide)⟩

/-- A header length of zero words: the pump sends the packet, the Mac rejects it and the data
session returns. -/
theorem forwarded_rejected :
    let packet : List UInt8 := [0x40, 0, 0, 20, 0, 0, 0, 0, 64, 17, 0, 0, 10, 0, 0, 1, 10, 0, 0, 2]
    pumpTunToSocket packet = some packet ∧
      validateIPv4Packet packet = .error "relay packet has an invalid IPv4 header length" ∧
      ∀ token relay expectedSequence, dataLoop token relay expectedSequence (some
          (expectedSequence, .ipPacket packet.length (inject false packet).isOk)) =
        .dataReturning token (some relay) := by
  refine ⟨by decide, rfl, ?_⟩
  intro token relay expectedSequence
  have hrejected : (inject false [0x40, 0, 0, 20, 0, 0, 0, 0, 64, 17, 0, 0, 10, 0, 0, 1, 10, 0, 0,
      2]).isOk = false := rfl
  rw [hrejected]
  simp [dataLoop]

end HarmonyNetBridge.Harmony
