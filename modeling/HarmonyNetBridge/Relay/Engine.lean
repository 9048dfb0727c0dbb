import Mathlib.Data.Nat.Notation
import Mathlib.Tactic.Common

/-! The packet check of the Mac relay: what `Engine.Inject` accepts from the device. -/
namespace HarmonyNetBridge.Relay

def ipv4MinimumSize : ℕ := 20
def maximumIPv4PacketLength : ℕ := 65535

/-- `int(packet[0]&0x0F) * 4`. -/
def headerLength (packet : List UInt8) : ℕ := (packet.getD 0 0 &&& 0x0F).toNat * 4

/-- `int(packet[2])<<8 | int(packet[3])`. -/
def totalLength (packet : List UInt8) : ℕ :=
  (packet.getD 2 0).toNat <<< 8 ||| (packet.getD 3 0).toNat

def validateIPv4Packet (packet : List UInt8) : Except String Unit :=
  if packet.length < ipv4MinimumSize then
    .error "relay packet is shorter than an IPv4 header"
  else if packet.getD 0 0 >>> 4 ≠ 4 then .error "relay accepts IPv4 packets only"
  else if headerLength packet < ipv4MinimumSize ∨ headerLength packet > packet.length then
    .error "relay packet has an invalid IPv4 header length"
  else if totalLength packet < headerLength packet ∨ totalLength packet > packet.length ∨
      totalLength packet > maximumIPv4PacketLength then
    .error "relay packet has an invalid IPv4 total length"
  else .ok ()

/-- `Inject` returns the bytes it hands to the network stack. -/
def inject (closed : Bool) (packet : List UInt8) : Except String (List UInt8) := do
  validateIPv4Packet packet
  if closed then throw "relay engine is closed"
  return packet.take (totalLength packet)

structure Accepted (packet : List UInt8) : Prop where
  version : packet.getD 0 0 >>> 4 = 4
  minimum : ipv4MinimumSize ≤ headerLength packet
  header : headerLength packet ≤ totalLength packet
  total : totalLength packet ≤ packet.length
  maximum : totalLength packet ≤ maximumIPv4PacketLength

theorem validateIPv4Packet_ok_iff (packet : List UInt8) :
    validateIPv4Packet packet = .ok () ↔ Accepted packet := by
  unfold validateIPv4Packet
  constructor
  · intro h
    split_ifs at h with hshort hversion hheader htotal
    exact ⟨not_not.mp hversion, by omega, by omega, by omega, by omega⟩
  · rintro ⟨hversion, hminimum, hheader, htotal, hmaximum⟩
    rw [if_neg (by omega), if_neg (not_not.mpr hversion), if_neg (by omega), if_neg (by omega)]

theorem inject_ok_iff {closed : Bool} {packet bytes : List UInt8} :
    inject closed packet = .ok bytes ↔
      Accepted packet ∧ closed = false ∧ bytes = packet.take (totalLength packet) := by
  rw [← validateIPv4Packet_ok_iff]
  cases hvalid : validateIPv4Packet packet with
  | error e => simp [inject, hvalid, bind, Except.bind]
  | ok u =>
    cases closed <;>
      simp [inject, hvalid, bind, Except.bind, pure, Except.pure, throw, throwThe,
        MonadExceptOf.throw, eq_comm]

end HarmonyNetBridge.Relay
