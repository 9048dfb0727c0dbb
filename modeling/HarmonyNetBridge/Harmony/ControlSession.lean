import HarmonyNetBridge.Transition.Runs
import HarmonyNetBridge.Daemon.Sequences
import HarmonyNetBridge.Harmony.FrameAgreement

/-! The app's direction of the control connection: `VpnControlSession` takes a sequence when `send` is
called and hands the frames to the socket one after another through `sendQueue`. -/
namespace HarmonyNetBridge.Harmony
open Transition Daemon

namespace HnbFrameType
def hello : ℕ := 0x01
def stopAck : ℕ := 0x05
def vpnStatus : ℕ := 0x12
def pong : ℕ := 0x31
end HnbFrameType

/-- One character of a string as `JSON.stringify` writes it. -/
def stringifyChar (c : Char) : List Char :=
  if c = '\x22' ∨ c = '\\' then ['\\', c]
  else if c = '\x08' then ['\\', 'b']
  else if c = '\x0c' then ['\\', 'f']
  else if c = '\n' then ['\\', 'n']
  else if c = '\r' then ['\\', 'r']
  else if c = '\t' then ['\\', 't']
  else if c.toNat < 0x20 then
    ['\\', 'u', '0', '0', lowerHexDigit (c.toNat / 16), lowerHexDigit (c.toNat % 16)]
  else [c]

def stringifyString (text : String) : List Char :=
  '\x22' :: text.toList.flatMap stringifyChar ++ ['\x22']

def stringifyArray (items : List (List Char)) : List Char :=
  '[' :: [','].intercalate items ++ [']']

def stringifyObject (fields : List (String × List Char)) : List Char :=
  '\x7b' :: [','].intercalate (fields.map fun field => stringifyString field.1 ++ ':' :: field.2) ++
    ['\x7d']

/-- The bytes that `encodeUtf8` stores for one code point. -/
def encodeCodePoint (codePoint : ℕ) : List UInt8 :=
  if codePoint ≤ 0x7F then [.ofNat codePoint]
  else if codePoint ≤ 0x7FF then
    [.ofNat (0xC0 ||| codePoint / 64), .ofNat (0x80 ||| codePoint % 64)]
  else if codePoint ≤ 0xFFFF then
    [.ofNat (0xE0 ||| codePoint / 4096), .ofNat (0x80 ||| codePoint / 64 % 64),
      .ofNat (0x80 ||| codePoint % 64)]
  else
    [.ofNat (0xF0 ||| codePoint / 262144), .ofNat (0x80 ||| codePoint / 4096 % 64),
      .ofNat (0x80 ||| codePoint / 64 % 64), .ofNat (0x80 ||| codePoint % 64)]

def encodeUtf8 (text : List Char) : List UInt8 := text.flatMap fun c => encodeCodePoint c.toNat

/-- `encodeJsonPayload` on the text of `JSON.stringify`. -/
def encodeJsonPayload (text : List Char) : Except String (List UInt8) :=
  let encoded := encodeUtf8 text
  if encoded.length > hnbMaxControlPayload then .error "HNB control payload exceeds 16 KiB"
  else .ok encoded

/-- The `HelloPayload` of `connect`. -/
def helloPayload : List Char :=
  stringifyObject [("role", stringifyString "control"), ("mode", stringifyString "vpn"),
    ("appVersion", stringifyString "0.4.0"), ("supportedVersions", stringifyArray [['1']]),
    ("capabilities", stringifyArray (["control", "data", "tcp", "udp", "dns", "heartbeat",
      "reconnect", "mtu", "proxy"].map stringifyString)),
    ("message", stringifyString "hello")]

def vpnStatusPayload (state message : String) : List Char :=
  stringifyObject [("state", stringifyString state), ("message", stringifyString message)]

/-- The outgoing side of `VpnControlSession`. `sendQueue` has what the queued operations have not
given to the socket; the first of them is under way. -/
structure VpnControlSession where
  client : Bool := false
  closing : Bool := false
  handshakeComplete : Bool := false
  nextOutgoingSequence : ℕ := 1
  sendQueue : List (List UInt8) := []
  wire : List UInt8 := []
  deriving DecidableEq, Repr

namespace VpnControlSession

def takeSequence (s : VpnControlSession) : ℕ × VpnControlSession :=
  let sequence := s.nextOutgoingSequence
  (sequence, { s with nextOutgoingSequence := if sequence = 0xFFFFFFFF then 1 else sequence + 1 })

/-- The part of `send` that runs before its promise: an error of `encodeFrame` comes after the
sequence was taken. -/
def send (s : VpnControlSession) (type : ℕ) (payload : List UInt8) :
    Except String Unit × VpnControlSession :=
  let (sequence, s) := s.takeSequence
  match encodeFrame type sequence payload with
  | .error message => (.error message, s)
  | .ok frame => (.ok (), { s with sendQueue := s.sendQueue ++ [frame] })

end VpnControlSession

inductive SessionEvent where
  | connect
  | handshake
  | reportStatus (state message : String)
  | stopRequest
  | ping (payload : List UInt8)
  | transmit (n : ℕ)
  | resolve
  | sendFails
  | close
  deriving DecidableEq, Repr

def SessionEvent.succeeds : SessionEvent → Bool
  | sendFails => false
  | _ => true

/-- The callbacks of the session's event loop. A session is connected once: the extension makes a new
one for each run. -/
inductive SessionStep (s : VpnControlSession) : SessionEvent → VpnControlSession → Prop
  | connect {payload : List UInt8} (fresh : s.client = false) (unused : s.closing = false)
      (encoded : encodeJsonPayload helloPayload = .ok payload) :
      SessionStep s .connect ({ s with client := true }.send HnbFrameType.hello payload).2
  /-- `handleFrame` on HELLO_ACK. -/
  | handshake (connected : s.client = true) :
      SessionStep s .handshake { s with handshakeComplete := true }
  | reportStatus {state message : String} {payload : List UInt8} (connected : s.client = true)
      (complete : s.handshakeComplete = true)
      (encoded : encodeJsonPayload (vpnStatusPayload state message) = .ok payload) :
      SessionStep s (.reportStatus state message) (s.send HnbFrameType.vpnStatus payload).2
  /-- `handleFrame` on STOP_REQUEST. -/
  | stopRequest (complete : s.handshakeComplete = true) :
      SessionStep s .stopRequest (s.send HnbFrameType.stopAck []).2
  /-- `handleFrame` on PING. -/
  | ping {payload : List UInt8} (complete : s.handshakeComplete = true) (size : payload.length = 8) :
      SessionStep s (.ping payload) (s.send HnbFrameType.pong payload).2
  /-- The socket takes some bytes of the first operation. -/
  | transmit {frame : List UInt8} {rest : List (List UInt8)} (queue : s.sendQueue = frame :: rest)
      (n : ℕ) : SessionStep s (.transmit n)
        { s with wire := s.wire ++ frame.take n, sendQueue := frame.drop n :: rest }
  /-- The first operation is done. -/
  | resolve {rest : List (List UInt8)} (queue : s.sendQueue = [] :: rest) :
      SessionStep s .resolve { s with sendQueue := rest }
  /-- The first operation is rejected; the next one goes on. -/
  | sendFails {frame : List UInt8} {rest : List (List UInt8)} (queue : s.sendQueue = frame :: rest) :
      SessionStep s .sendFails { s with sendQueue := rest }
  | close : SessionStep s .close { s with client := false, closing := true }

/-- The frames that were given a sequence are on the wire or in the queue, in their order. -/
def Queued (s : VpnControlSession) : Prop :=
  ∃ frames, Numbered frames ∧ s.nextOutgoingSequence = (sequenceAt frames.length).toNat ∧
    s.wire ++ s.sendQueue.flatten = frames.flatMap Frame.encode

theorem encodeJsonPayload_length {text : List Char} {payload : List UInt8}
    (h : encodeJsonPayload text = .ok payload) : payload.length ≤ maxControlPayload.toNat := by
  unfold encodeJsonPayload at h
  dsimp only at h
  split at h
  · cases h
  next hle =>
    cases h
    exact Nat.not_lt.mp hle

theorem takeSequence_next {s : VpnControlSession} {k : ℕ}
    (h : s.nextOutgoingSequence = (sequenceAt k).toNat) :
    s.takeSequence.2.nextOutgoingSequence = (sequenceAt (k + 1)).toNat := by
  rw [VpnControlSession.takeSequence]
  dsimp only
  rw [h, sequenceAt_toNat, sequenceAt_toNat]
  split <;> omega

namespace Queued
variable {s s' : VpnControlSession} {e : SessionEvent}

/-- `encodeFrame` does not throw, so that no sequence is lost. -/
theorem send (h : Queued s) (type : FrameType) {payload : List UInt8}
    (hknown : knownType type = true) (hlen : payload.length ≤ (payloadLimit type).toNat) :
    (s.send type.toNat payload).1 = .ok () ∧ Queued (s.send type.toNat payload).2 := by
  obtain ⟨frames, numbered, sequence, wire⟩ := h
  have hvalid : Frame.Valid ⟨type, 0, sequenceAt frames.length, payload⟩ :=
    ⟨hknown, rfl, sequenceAt_ne_zero _, hlen⟩
  have hencode := encodeFrame_eq hvalid
  have hsend : s.send type.toNat payload = (.ok (), { s.takeSequence.2 with
      sendQueue := s.sendQueue ++ [Frame.encode ⟨type, 0, sequenceAt frames.length, payload⟩] }) := by
    rw [VpnControlSession.send, VpnControlSession.takeSequence]
    dsimp only
    rw [sequence]
    simp only [hencode]
  rw [hsend]
  refine ⟨rfl, frames ++ [_], numbered.snoc hvalid rfl, ?_, ?_⟩
  · rw [List.length_append]
    exact takeSequence_next sequence
  · rw [List.flatMap_append, ← wire]
    simp [VpnControlSession.takeSequence]

theorem step (h : Queued s) (hstep : SessionStep s e s') (he : e.succeeds = true) : Queued s' := by
  cases hstep with
  | connect _ _ encoded =>
    have hclient : Queued { s with client := true } := h
    exact (hclient.send FrameType.hello rfl (encodeJsonPayload_length encoded)).2
  | reportStatus _ _ encoded =>
    exact (h.send FrameType.vpnStatus rfl (encodeJsonPayload_length encoded)).2
  | stopRequest => exact (h.send FrameType.stopAck rfl (Nat.zero_le _)).2
  | ping _ size =>
    refine (h.send FrameType.pong rfl (size.trans_le ?_)).2
    exact (by decide : 8 ≤ maxControlPayload.toNat)
  | handshake | close => exact h
  | @transmit frame rest queue n =>
    obtain ⟨frames, numbered, sequence, wire⟩ := h
    refine ⟨frames, numbered, sequence, ?_⟩
    rw [← wire, queue, List.flatten_cons, List.flatten_cons, List.append_assoc,
      ← List.append_assoc (frame.take n), List.take_append_drop]
  | resolve queue =>
    obtain ⟨frames, numbered, sequence, wire⟩ := h
    refine ⟨frames, numbered, sequence, ?_⟩
    rw [← wire, queue]
    simp
  | sendFails => cases he

theorem sequenced (h : Queued s) : Sequenced s.wire := by
  obtain ⟨frames, numbered, -, wire⟩ := h
  exact ⟨frames, numbered, s.sendQueue.flatten, wire⟩

theorem of_reachable (h : Reachable (Guarded SessionStep fun _ e => e.succeeds = true) (· = {}) s) :
    Queued s := by
  refine h.invariant ?_ ?_
  · rintro _ rfl
    exact ⟨[], .nil, rfl, rfl⟩
  · rintro s e s' ⟨hstep, he⟩ hs
    exact hs.step hstep he

end Queued

end HarmonyNetBridge.Harmony
