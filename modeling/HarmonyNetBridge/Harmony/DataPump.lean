import Mathlib.Logic.Function.Basic
import HarmonyNetBridge.Bytes.Text
import HarmonyNetBridge.Transition.Runs
import HarmonyNetBridge.Daemon.Sequences
import HarmonyNetBridge.Harmony.PacketPump

/-! The data connection of the app: what `Connect` and the two threads of the packet pump send, call
by call of `send`, and the sequence checks on what they receive. -/
namespace HarmonyNetBridge.Harmony
open Bytes Transition Daemon List Function

def pumpReadUint32 (bytes : List UInt8) : UInt32 :=
  (bytes.getD 0 0).toUInt32 <<< 24 ||| (bytes.getD 1 0).toUInt32 <<< 16 |||
    (bytes.getD 2 0).toUInt32 <<< 8 ||| (bytes.getD 3 0).toUInt32

def pumpWriteUint16 (value : UInt16) : List UInt8 := [(value >>> 8).toUInt8, value.toUInt8]

def pumpWriteUint32 (value : UInt32) : List UInt8 :=
  [(value >>> 24).toUInt8, (value >>> 16).toUInt8, (value >>> 8).toUInt8, value.toUInt8]

def kVersion : UInt8 := 1
def kTypeDataHello : UInt8 := 0x10
def kTypeIPPacket : UInt8 := 0x20
def kTypePong : UInt8 := 0x31

def makeHeader (type : UInt8) (length sequence : UInt32) : List UInt8 :=
  [0x48, 0x4E, 0x42, 0x31, kVersion, type] ++ pumpWriteUint16 0 ++ pumpWriteUint32 length ++
    pumpWriteUint32 sequence

def pumpNextSequence (sequence : UInt32) : UInt32 :=
  if sequence = 0xFFFFFFFF then 1 else sequence + 1

def validToken (token : List UInt8) : Bool :=
  token.length == 32 && token.all fun character =>
    !((character < 0x30 || character > 0x39) && (character < 0x61 || character > 0x66))

/-- The payload of DATA_HELLO that `Connect` makes. -/
def dataHelloPayload (token : List UInt8) : List UInt8 :=
  ascii "\x7b\"sessionToken\":\"" ++ token ++ ascii "\",\"role\":\"data\"\x7d"

def buffers (header payload : List UInt8) : List (List UInt8) :=
  header :: if payload.length > 0 then [payload] else []

inductive PumpThread where
  | connector | tunToSocket | socketToTun
  deriving DecidableEq, Repr

/-- Where a thread stands. In `sending` the calls of `WriteAll` have the given bytes before them. In
`awaiting` DATA_HELLO is sent and DATA_ACK is not read. -/
inductive PumpPlace where
  | off
  | looping
  | sending (rest : List (List UInt8))
  | awaiting
  | returned
  deriving DecidableEq, Repr

structure Pump where
  wire : List UInt8 := []
  closed : Bool := false
  connected : Bool := false
  outgoingSequence : UInt32
  writeMutex : Option PumpThread := none
  places : PumpThread → PumpPlace

inductive PumpEvent where
  | send (t : PumpThread) (n : ℕ)
  | fail (t : PumpThread)
  | acknowledge
  | start
  | packet (packet : List UInt8)
  | ping (payload : List UInt8)
  | leave (t : PumpThread)
  | stop
  deriving DecidableEq, Repr

def PumpEvent.succeeds : PumpEvent → Bool
  | fail _ => false
  | _ => true

namespace Pump

/-- `Connect` is about to send DATA_HELLO. `outgoingSequence_` has what the last connection left. -/
def connect (token : List UInt8) (outgoingSequence : UInt32) : Pump where
  outgoingSequence := outgoingSequence
  places := fun t => match t with
    | .connector => .sending (buffers
        (makeHeader kTypeDataHello (.ofNat (dataHelloPayload token).length) 1) (dataHelloPayload token))
    | _ => .off

/-- `Connect` refuses a token that is not valid. -/
def Initial (p : Pump) : Prop :=
  ∃ token outgoingSequence, validToken token = true ∧ p = connect token outgoingSequence

@[simps] def goto (p : Pump) (t : PumpThread) (place : PumpPlace) : Pump :=
  { p with places := update p.places t place }

@[simps] def sendFrame (p : Pump) (t : PumpThread) (type : UInt8) (payload : List UInt8) : Pump :=
  { p with
    writeMutex := some t
    places := update p.places t (.sending (buffers
      (makeHeader type (.ofNat payload.length) p.outgoingSequence) payload)) }

/-- A `send` of `WriteAll` has returned. When all is sent, `SendFrame` moves the sequence on and
returns, or `Connect` waits for DATA_ACK. -/
def advance (p : Pump) (t : PumpThread) : List (List UInt8) → Pump
  | [] =>
    if t = .connector then p.goto t .awaiting
    else { p.goto t .looping with
      outgoingSequence := pumpNextSequence p.outgoingSequence, writeMutex := none }
  | buffer :: rest => p.goto t (.sending (buffer :: rest))

end Pump

/-- What is left of the buffers after `n` bytes of the first. -/
def remaining (buffer : List UInt8) (rest : List (List UInt8)) (n : ℕ) : List (List UInt8) :=
  if n < buffer.length then buffer.drop n :: rest else rest

inductive PumpStep (p : Pump) : PumpEvent → Pump → Prop
  | send {t : PumpThread} {buffer : List UInt8} {rest : List (List UInt8)}
      (pc : p.places t = .sending (buffer :: rest)) (usable : p.closed = false) {n : ℕ}
      (positive : 0 < n) (size : n ≤ buffer.length) :
      PumpStep p (.send t n)
        ({ p with wire := p.wire ++ buffer.take n }.advance t (remaining buffer rest n))
  /-- `WriteAll` returns an error: `SendFrame` leaves the sequence as it is, and the thread or
  `Connect` returns. -/
  | fail {t : PumpThread} {rest : List (List UInt8)} (pc : p.places t = .sending rest) :
      PumpStep p (.fail t)
        { p.goto t .returned with writeMutex := if t = .connector then p.writeMutex else none }
  /-- `Connect` reads DATA_ACK. -/
  | acknowledge (pc : p.places .connector = .awaiting) :
      PumpStep p .acknowledge { p.goto .connector .returned with connected := true }
  /-- `Start`, which refuses a second start. -/
  | start (connected : p.connected = true) (first : p.places .tunToSocket = .off)
      (second : p.places .socketToTun = .off) :
      PumpStep p .start { (p.goto .tunToSocket .looping).goto .socketToTun .looping with
        outgoingSequence := 2 }
  | packet {packet payload : List UInt8} (pc : p.places .tunToSocket = .looping)
      (free : p.writeMutex = none) (forwarded : pumpTunToSocket packet = some payload) :
      PumpStep p (.packet packet) (p.sendFrame .tunToSocket kTypeIPPacket payload)
  /-- `PumpSocketToTun` answers a PING. -/
  | ping {payload : List UInt8} (pc : p.places .socketToTun = .looping) (free : p.writeMutex = none)
      (size : payload.length = 8) :
      PumpStep p (.ping payload) (p.sendFrame .socketToTun kTypePong payload)
  /-- A thread leaves its loop, or `Connect` fails. -/
  | leave {t : PumpThread} (pc : p.places t = .looping ∨ p.places t = .awaiting) :
      PumpStep p (.leave t) (p.goto t .returned)
  /-- The socket is shut down by the pump or by the Mac. -/
  | stop : PumpStep p .stop { p with closed := true }

/-- The sequence checks of `PumpSocketToTun` on the bytes received: a header has the expected
sequence as soon as it is complete. Its other checks concern other fields. -/
def pumpSocketToTun (expectedSequence : UInt32) (bytes : List UInt8) : Bool :=
  if bytes.length < 16 then true
  else
    let payloadLength := (pumpReadUint32 (bytes.drop 8)).toNat
    pumpReadUint32 (bytes.drop 12) == expectedSequence &&
      pumpSocketToTun (pumpNextSequence expectedSequence) (bytes.drop (16 + payloadLength))
termination_by bytes.length
decreasing_by
  rw [length_drop]
  omega

/-- The sequence checks on all that the data socket receives: that of `Connect` on DATA_ACK, which
has no payload, and those of `PumpSocketToTun`. -/
def pumpReceives (bytes : List UInt8) : Bool :=
  if bytes.length < 16 then true
  else pumpReadUint32 (bytes.drop 12) == 1 && pumpSocketToTun 2 (bytes.drop 16)

/-- Whatever part of `wire` has arrived at the app, it rejects no frame for its sequence. -/
def PumpAccepts (wire : List UInt8) : Prop := ∀ arrived, arrived <+: wire → pumpReceives arrived = true

section Words

theorem shiftLeft_or_shiftLeft {x y : ℕ} (n : ℕ) (h : y < 2 ^ 8) :
    x <<< (n + 8) ||| y <<< n = (x * 2 ^ 8 + y) <<< n := by
  rw [Nat.add_comm, Nat.shiftLeft_add, ← Nat.shiftLeft_or_distrib,
    ← Nat.shiftLeft_add_eq_or_of_lt h, Nat.shiftLeft_eq x]

theorem pumpReadUint32_toNat (a b c d : UInt8) (rest : List UInt8) :
    (pumpReadUint32 (a :: b :: c :: d :: rest)).toNat = value [a, b, c, d] := by
  have ha := a.toNat_lt
  have hb := b.toNat_lt
  have hc := c.toNat_lt
  have hd := d.toNat_lt
  have hor : a.toNat <<< 24 ||| b.toNat <<< 16 ||| c.toNat <<< 8 ||| d.toNat <<< 0 =
      value [a, b, c, d] := by
    rw [shiftLeft_or_shiftLeft 16 hb, shiftLeft_or_shiftLeft 8 hc, shiftLeft_or_shiftLeft 0 hd]
    simp only [value, length_cons, length_nil, Nat.shiftLeft_zero]
    omega
  have h24 : a.toNat <<< 24 % 4294967296 = a.toNat <<< 24 := by rw [Nat.shiftLeft_eq]; omega
  have h16 : b.toNat <<< 16 % 4294967296 = b.toNat <<< 16 := by rw [Nat.shiftLeft_eq]; omega
  have h8 : c.toNat <<< 8 % 4294967296 = c.toNat <<< 8 := by rw [Nat.shiftLeft_eq]; omega
  rw [← hor]
  simp [pumpReadUint32, h24, h16, h8]

theorem pumpWriteUint32_eq (word : UInt32) : pumpWriteUint32 word = bigEndian 4 word.toNat := by
  simp [pumpWriteUint32, bigEndian, ← UInt8.toNat_inj, Nat.shiftRight_eq_div_pow]

theorem pumpReadUint32_bigEndian (word : UInt32) (rest : List UInt8) :
    pumpReadUint32 (bigEndian 4 word.toNat ++ rest) = word := by
  have hword : word.toNat < 256 ^ 4 := word.toNat_lt
  rw [← UInt32.toNat_inj]
  exact (pumpReadUint32_toNat _ _ _ _ rest).trans (value_bigEndian_of_lt hword)

theorem makeHeader_eq (type : UInt8) (length sequence : UInt32) :
    makeHeader type length sequence = Header.encode ⟨type, 0, sequence, length⟩ := by
  have hflags : pumpWriteUint16 0 = bigEndian 2 0 := by decide
  rw [makeHeader, hflags, pumpWriteUint32_eq, pumpWriteUint32_eq]
  rfl

end Words

section Receiving

variable {arrived : List UInt8} {frames : List Frame}

theorem header_arrived {frame : Frame} {bytes : List UInt8} (h : arrived <+: frame.encode ++ bytes)
    (hlong : ¬ arrived.length < 16) :
    ∃ tail, arrived = frame.header.encode ++ tail ∧ tail <+: frame.payload ++ bytes := by
  rw [Frame.encode, append_assoc] at h
  have hsize : frame.header.encode.length ≤ arrived.length := by
    rw [Header.length_encode, headerSize]
    omega
  obtain ⟨tail, rfl⟩ := prefix_of_prefix_length_le (prefix_append _ _) h hsize
  exact ⟨tail, rfl, (prefix_append_right_inj _).mp h⟩

theorem pumpReadUint32_sequence (h : Header) (tail : List UInt8) :
    pumpReadUint32 ((h.encode ++ tail).drop 12) = h.sequence :=
  pumpReadUint32_bigEndian h.sequence tail

theorem pumpReadUint32_payloadLength (h : Header) (tail : List UInt8) :
    pumpReadUint32 ((h.encode ++ tail).drop 8) = h.payloadLength :=
  pumpReadUint32_bigEndian h.payloadLength (bigEndian 4 h.sequence.toNat ++ tail)

theorem pumpNextSequence_sequenceAt (k : ℕ) :
    pumpNextSequence (sequenceAt k) = sequenceAt (k + 1) :=
  (sequenceAt_succ k).symm

theorem pumpSocketToTun_sequenceAt {k : ℕ}
    (h : ∀ i frame, frames[i]? = some frame → frame.Valid ∧ frame.sequence = sequenceAt (k + i))
    (harrived : arrived <+: frames.flatMap Frame.encode) :
    pumpSocketToTun (sequenceAt k) arrived = true := by
  induction frames generalizing k arrived with
  | nil =>
    obtain rfl : arrived = [] := prefix_nil.mp harrived
    rw [pumpSocketToTun]
    rfl
  | cons frame frames ih =>
    obtain ⟨hvalid, hseq⟩ := h 0 frame rfl
    rw [pumpSocketToTun]
    split
    · rfl
    next hlong =>
      rw [flatMap_cons] at harrived
      obtain ⟨tail, rfl, htail⟩ := header_arrived harrived hlong
      have hpayload : tail.drop frame.payload.length <+: frames.flatMap Frame.encode := by
        simpa using htail.drop frame.payload.length
      have hdrop : (frame.header.encode ++ tail).drop (16 + frame.payload.length) =
          tail.drop frame.payload.length := by
        rw [← drop_drop, drop_left' (by simp [headerSize])]
      dsimp only
      rw [pumpReadUint32_sequence, pumpReadUint32_payloadLength, hvalid.payloadLength, hdrop,
        show frame.header.sequence = frame.sequence from rfl, hseq, Nat.add_zero,
        beq_self_eq_true, Bool.true_and, pumpNextSequence_sequenceAt]
      refine ih (fun i f hf => ?_) hpayload
      rw [Nat.add_right_comm]
      exact h (i + 1) f hf

/-- The app rejects no numbered frame, if the first one is a DATA_ACK. -/
theorem pumpReceives_numbered (h : Numbered frames)
    (hack : ∀ frame ∈ frames.head?, frame.payload = [])
    (harrived : arrived <+: frames.flatMap Frame.encode) : pumpReceives arrived = true := by
  unfold pumpReceives
  split
  · rfl
  next hlong =>
    cases frames with
    | nil =>
      obtain rfl : arrived = [] := prefix_nil.mp harrived
      exact absurd (by decide) hlong
    | cons frame frames =>
      obtain ⟨hvalid, hseq⟩ := h 0 frame rfl
      rw [flatMap_cons] at harrived
      obtain ⟨tail, rfl, htail⟩ := header_arrived harrived hlong
      rw [hack frame rfl, nil_append] at htail
      have hrest : pumpSocketToTun (sequenceAt 1) tail = true :=
        pumpSocketToTun_sequenceAt (fun i f hf => by
          rw [Nat.add_comm]
          exact h (i + 1) f hf) htail
      rw [pumpReadUint32_sequence, drop_left' (by simp [headerSize]),
        show frame.header.sequence = frame.sequence from rfl, hseq]
      exact hrest

end Receiving

section Sending

def dataHello (token : List UInt8) : Frame := ⟨FrameType.dataHello, 0, 1, dataHelloPayload token⟩

/-- The state of a data connection on which no `send` has failed. -/
inductive PumpTraffic (token : List UInt8) (p : Pump) : Prop
  | opening {rest : List (List UInt8)} (wire : p.wire ++ rest.flatten = (dataHello token).encode)
      (first : p.places .tunToSocket = .off) (second : p.places .socketToTun = .off)
      (lock : p.writeMutex = none)
      (stage : p.places .connector = .sending rest ∨
        rest = [] ∧ ∀ rest, p.places .connector ≠ .sending rest)
      (done : p.connected = true → ∀ rest, p.places .connector ≠ .sending rest)
  | free {sent : List Frame} (numbered : Numbered sent) (wire : p.wire = sent.flatMap Frame.encode)
      (lock : p.writeMutex = none) (sequence : p.outgoingSequence = sequenceAt sent.length)
      (quiet : ∀ t rest, p.places t ≠ .sending rest) (started : p.places .tunToSocket ≠ .off)
  | busy {sent : List Frame} {t : PumpThread} {frame : Frame} {part : List UInt8}
      {rest : List (List UInt8)} (numbered : Numbered (sent ++ [frame]))
      (pc : p.places t = .sending rest) (worker : t ≠ .connector)
      (wire : p.wire = sent.flatMap Frame.encode ++ part)
      (under : part ++ rest.flatten = frame.encode) (lock : p.writeMutex = some t)
      (sequence : p.outgoingSequence = sequenceAt sent.length)
      (quiet : ∀ t' ≠ t, ∀ rest, p.places t' ≠ .sending rest)
      (started : p.places .tunToSocket ≠ .off)

theorem flatten_remaining (buffer : List UInt8) (rest : List (List UInt8)) (n : ℕ) :
    buffer.take n ++ (remaining buffer rest n).flatten = (buffer :: rest).flatten := by
  unfold remaining
  split
  · rw [flatten_cons, ← append_assoc, take_append_drop, flatten_cons]
  next hle => rw [take_of_length_le (Nat.not_lt.mp hle), flatten_cons]

theorem flatten_buffers (frame : Frame) (hflags : frame.flags = 0) :
    (buffers (makeHeader frame.type (.ofNat frame.payload.length) frame.sequence)
      frame.payload).flatten = frame.encode := by
  obtain ⟨type, flags, sequence, payload⟩ := frame
  subst hflags
  rw [buffers, makeHeader_eq]
  cases payload <;> simp [Frame.encode, Frame.header]

theorem dataHello_valid {token : List UInt8} (h : validToken token = true) :
    (dataHello token).Valid := by
  have hlen : token.length = 32 := by
    rw [validToken, Bool.and_eq_true] at h
    exact beq_iff_eq.mp h.1
  have hpayload : (dataHelloPayload token).length = 65 := by simp [dataHelloPayload, ascii, hlen]
  refine ⟨rfl, rfl, sequenceAt_ne_zero 0, hpayload.trans_le ?_⟩
  exact (by decide : 65 ≤ maxControlPayload.toNat)

theorem forwarded_length {packet payload : List UInt8} (h : pumpTunToSocket packet = some payload) :
    payload.length ≤ maxPacketPayload.toNat := by
  obtain ⟨-, -, -, rfl⟩ := pumpTunToSocket_eq_some h
  rw [length_take, Relay.totalLength, ← pumpReadUint16_toNat]
  have hlt := (pumpReadUint16 (packet.getD 2 0) (packet.getD 3 0)).toNat_lt
  have hmax : maxPacketPayload.toNat = 65535 := rfl
  omega

namespace PumpTraffic
variable {token : List UInt8} {p p' : Pump} {t : PumpThread} {e : PumpEvent}

theorem start (token : List UInt8) (outgoingSequence : UInt32) :
    PumpTraffic token (.connect token outgoingSequence) := by
  refine .opening ?_ rfl rfl rfl (.inl rfl) Bool.noConfusion
  exact flatten_buffers (dataHello token) rfl

theorem frame (h : PumpTraffic token p) (hwire : p'.wire = p.wire)
    (hseq : p'.outgoingSequence = p.outgoingSequence) (hlock : p'.writeMutex = p.writeMutex)
    (hsending : ∀ t rest, p'.places t = .sending rest ↔ p.places t = .sending rest)
    (hoff : ∀ t, p'.places t = .off ↔ p.places t = .off)
    (hdone : p'.connected = true → p.connected = true ∨
      ∀ rest, p.places .connector ≠ .sending rest) : PumpTraffic token p' := by
  have hquiet (t : PumpThread) (rest : List (List UInt8)) :
      p'.places t ≠ .sending rest ↔ p.places t ≠ .sending rest := not_congr (hsending t rest)
  cases h with
  | opening wire first second lock stage done =>
    refine .opening (by rw [hwire]; exact wire) ((hoff _).mpr first) ((hoff _).mpr second)
      (hlock.trans lock) ?_ fun hconnected rest => (hquiet _ _).mpr ?_
    · exact stage.imp (hsending _ _).mpr fun ⟨hnil, hrest⟩ =>
        ⟨hnil, fun rest => (hquiet _ _).mpr (hrest rest)⟩
    · exact (hdone hconnected).elim (fun hc => done hc rest) fun hrest => hrest rest
  | free numbered wire lock sequence quiet started =>
    exact .free numbered (hwire.trans wire) (hlock.trans lock) (hseq.trans sequence)
      (fun t rest => (hquiet t rest).mpr (quiet t rest)) (mt (hoff _).mp started)
  | busy numbered pc worker wire under lock sequence quiet started =>
    exact .busy numbered ((hsending _ _).mpr pc) worker (hwire.trans wire) under (hlock.trans lock)
      (hseq.trans sequence) (fun t ht rest => (hquiet t rest).mpr (quiet t ht rest))
      (mt (hoff _).mp started)

theorem goto {place : PumpPlace} (h : PumpTraffic token p)
    (hpc : ∀ rest, p.places t ≠ .sending rest) (hstarted : p.places t ≠ .off)
    (hplace : ∀ rest, place ≠ .sending rest) (hon : place ≠ .off) :
    PumpTraffic token (p.goto t place) := by
  refine h.frame rfl rfl rfl (fun t' rest => ?_) (fun t' => ?_) .inl
  · by_cases ht : t' = t
    · subst ht
      simp [hpc, hplace]
    · simp [update_of_ne ht]
  · by_cases ht : t' = t
    · subst ht
      simp [hstarted, hon]
    · simp [update_of_ne ht]

theorem update_started {place : PumpPlace} (h : p.places .tunToSocket ≠ .off) (hon : place ≠ .off) :
    update p.places t place .tunToSocket ≠ .off := by
  by_cases ht : PumpThread.tunToSocket = t
  · subst ht
    simpa using hon
  · simpa [update_of_ne ht] using h

theorem begin {type : UInt8} {payload : List UInt8} (h : PumpTraffic token p)
    (worker : t ≠ .connector) (pc : p.places t = .looping) (free : p.writeMutex = none)
    (hknown : knownType type = true) (hlen : payload.length ≤ (payloadLimit type).toNat) :
    PumpTraffic token (p.sendFrame t type payload) := by
  cases h with
  | opening _ first second =>
    cases t with
    | connector => exact absurd rfl worker
    | tunToSocket => simp [first] at pc
    | socketToTun => simp [second] at pc
  | busy _ _ _ _ _ lock => simp [lock] at free
  | @free sent numbered wire _ sequence quiet started =>
    have hvalid : Frame.Valid ⟨type, 0, sequenceAt sent.length, payload⟩ :=
      ⟨hknown, rfl, sequenceAt_ne_zero _, hlen⟩
    have hpc : (p.sendFrame t type payload).places t = .sending (buffers
        (makeHeader type (.ofNat payload.length) (sequenceAt sent.length)) payload) := by
      simp [sequence]
    have hwire : (p.sendFrame t type payload).wire = sent.flatMap Frame.encode ++ [] := by
      simpa using wire
    refine .busy (numbered.snoc hvalid rfl) hpc worker hwire ?_ rfl sequence (fun t' ht rest => ?_)
      (update_started started (by simp))
    · exact flatten_buffers ⟨type, 0, sequenceAt sent.length, payload⟩ rfl
    · simpa [update_of_ne ht] using quiet t' rest

theorem sendHello {bytes : List UInt8} {rest : List (List UInt8)}
    (wire : p.wire ++ bytes ++ rest.flatten = (dataHello token).encode)
    (first : p.places .tunToSocket = .off) (second : p.places .socketToTun = .off)
    (lock : p.writeMutex = none) (unconnected : p.connected ≠ true) :
    PumpTraffic token ({ p with wire := p.wire ++ bytes }.advance .connector rest) := by
  cases rest with
  | nil =>
    refine .opening wire ?_ ?_ lock (.inr ⟨rfl, ?_⟩) (absurd · unconnected)
    all_goals simp [Pump.advance, first, second]
  | cons next others =>
    refine .opening wire ?_ ?_ lock (.inl ?_) (absurd · unconnected)
    all_goals simp [Pump.advance, first, second]

theorem sendPart {sent : List Frame} {frame : Frame} {part bytes : List UInt8}
    {rest : List (List UInt8)} (numbered : Numbered (sent ++ [frame])) (worker : t ≠ .connector)
    (wire : p.wire = sent.flatMap Frame.encode ++ part)
    (under : part ++ bytes ++ rest.flatten = frame.encode) (lock : p.writeMutex = some t)
    (sequence : p.outgoingSequence = sequenceAt sent.length)
    (quiet : ∀ t' ≠ t, ∀ rest, p.places t' ≠ .sending rest)
    (started : p.places .tunToSocket ≠ .off) :
    PumpTraffic token ({ p with wire := p.wire ++ bytes }.advance t rest) := by
  have hwire : p.wire ++ bytes = sent.flatMap Frame.encode ++ (part ++ bytes) := by
    rw [wire, append_assoc]
  cases rest with
  | nil =>
    rw [flatten_nil, append_nil] at under
    rw [Pump.advance, if_neg worker]
    refine .free numbered ?_ rfl ?_ (fun t' r => ?_) (update_started started (by simp))
    · show p.wire ++ bytes = _
      simpa [← under] using hwire
    · show pumpNextSequence p.outgoingSequence = _
      rw [sequence, pumpNextSequence_sequenceAt, length_append]
      rfl
    · by_cases ht : t' = t
      · subst ht
        simp
      · simpa [update_of_ne ht] using quiet t' ht r
  | cons next others =>
    refine .busy numbered ?_ worker hwire under lock sequence (fun t' ht r => ?_)
      (update_started started (by simp))
    · simp [Pump.advance]
    · simpa [Pump.advance, update_of_ne ht] using quiet t' ht r

theorem send {n : ℕ} (h : PumpTraffic token p) (hstep : PumpStep p (.send t n) p') :
    PumpTraffic token p' := by
  cases hstep with
  | @send _ buffer rest pc _ _ _ _ =>
    have hflatten := flatten_remaining buffer rest n
    cases h with
    | free _ _ _ _ quiet => exact absurd pc (quiet _ _)
    | opening wire first second lock stage done =>
      cases t with
      | tunToSocket => simp [first] at pc
      | socketToTun => simp [second] at pc
      | connector =>
        obtain rfl : _ = buffer :: rest := by
          rcases stage with hsending | ⟨-, hrest⟩
          · simpa [pc] using hsending.symm
          · exact absurd pc (hrest _)
        rw [← hflatten, ← append_assoc] at wire
        exact sendHello wire first second lock fun hc => done hc _ pc
    | @busy sent t' frame part _ numbered pc' worker wire under lock sequence quiet started =>
      obtain rfl : t = t' := by
        by_contra ht
        exact quiet t ht _ pc
      obtain rfl : buffer :: rest = _ := by simpa [pc] using pc'
      rw [← hflatten, ← append_assoc] at under
      exact sendPart numbered worker wire under lock sequence quiet started

theorem started (h : PumpTraffic token p) (hvalid : validToken token = true)
    (hstep : PumpStep p .start p') : PumpTraffic token p' := by
  cases hstep with
  | start connected first second =>
    cases h with
    | free _ _ _ _ _ started => exact absurd first started
    | busy _ _ _ _ _ _ _ _ started => exact absurd first started
    | @opening rest wire _ _ lock stage done =>
      obtain rfl : rest = [] := by
        rcases stage with hsending | ⟨hnil, -⟩
        · exact absurd hsending (done connected _)
        · exact hnil
      refine .free (Numbered.nil.snoc (dataHello_valid hvalid) rfl) ?_ lock rfl (fun t r => ?_) ?_
      · simpa using wire
      · cases t with
        | connector => simpa using done connected r
        | tunToSocket | socketToTun => simp
      · simp

theorem step (h : PumpTraffic token p) (hvalid : validToken token = true) (hstep : PumpStep p e p')
    (he : e.succeeds = true) : PumpTraffic token p' := by
  cases e with
  | send t n => exact h.send hstep
  | fail t => cases he
  | packet packet =>
    cases hstep with
    | packet pc free forwarded =>
      exact h.begin (by simp) pc free rfl (forwarded_length forwarded)
  | ping payload =>
    cases hstep with
    | ping pc free size =>
      refine h.begin (by simp) pc free rfl (size.trans_le ?_)
      exact (by decide : 8 ≤ maxControlPayload.toNat)
  | acknowledge =>
    cases hstep with
    | acknowledge pc =>
      have hquiet : ∀ rest, p.places .connector ≠ .sending rest := by simp [pc]
      have hret : PumpTraffic token (p.goto .connector .returned) :=
        h.goto hquiet (by simp [pc]) (by simp) (by simp)
      refine hret.frame rfl rfl rfl (fun _ _ => Iff.rfl) (fun _ => Iff.rfl) fun _ => .inr ?_
      simp
  | leave t =>
    cases hstep with
    | leave pc =>
      rcases pc with pc | pc <;> exact h.goto (by simp [pc]) (by simp [pc]) (by simp) (by simp)
  | stop =>
    cases hstep
    exact h.frame rfl rfl rfl (fun _ _ => Iff.rfl) (fun _ => Iff.rfl) .inl
  | start => exact h.started hvalid hstep

theorem sequenced (h : PumpTraffic token p) (hvalid : validToken token = true) : Sequenced p.wire := by
  cases h with
  | @opening rest wire =>
    refine ⟨[dataHello token], Numbered.nil.snoc (dataHello_valid hvalid) rfl, rest.flatten, ?_⟩
    simpa using wire
  | @free sent numbered wire =>
    refine ⟨sent, numbered, ?_⟩
    rw [wire]
  | @busy sent _ frame part rest numbered _ _ wire under =>
    refine ⟨sent ++ [frame], numbered, rest.flatten, ?_⟩
    rw [wire, append_assoc, under]
    simp

theorem of_reachable (h : Reachable (Guarded PumpStep fun _ e => e.succeeds = true) Pump.Initial p) :
    ∃ token, validToken token = true ∧ PumpTraffic token p := by
  refine h.invariant (I := fun p => ∃ token, validToken token = true ∧ PumpTraffic token p) ?_ ?_
  · rintro _ ⟨token, outgoingSequence, hvalid, rfl⟩
    exact ⟨token, hvalid, .start token outgoingSequence⟩
  · rintro p e p' ⟨hstep, he⟩ ⟨token, hvalid, hp⟩
    exact ⟨token, hvalid, hp.step hvalid hstep he⟩

end PumpTraffic

end Sending

end HarmonyNetBridge.Harmony
