import HarmonyNetBridge.Bytes.Scanner
import HarmonyNetBridge.Protocol.RoundTrip

/-! The HNB/1 codec of the app: `encodeFrame` and the incremental `HnbFrameDecoder`, compared with
the codec of the Mac. Numbers of ArkTS that come from bytes and lengths are natural numbers. -/
namespace HarmonyNetBridge.Harmony
open Bytes

/-- `HnbFrameType`: the numbers of the enumeration. -/
def hnbFrameTypes : List ℕ :=
  [0x01, 0x02, 0x03, 0x04, 0x05, 0x10, 0x11, 0x12, 0x20, 0x30, 0x31]

def ipPacketType : ℕ := 0x20

def hnbHeaderSize : ℕ := 16
def hnbVersion : ℕ := 1
def hnbMaxControlPayload : ℕ := 16 * 1024
def hnbMaxPacketPayload : ℕ := 65535

structure HnbFrame where
  type : ℕ
  flags : ℕ
  sequence : ℕ
  payload : List UInt8
  deriving DecidableEq, Repr

def isKnownType (type : ℕ) : Bool := hnbFrameTypes.contains type

def validateFrame (type flags sequence payloadLength : ℕ) : Except String Unit :=
  if !isKnownType type then .error ("Unknown HNB frame type " ++ toString type)
  else if flags ≠ 0 then .error "HNB/1 flags must be zero"
  else if sequence = 0 then .error "HNB/1 sequence zero is reserved"
  else
    let limit := if type = ipPacketType then hnbMaxPacketPayload else hnbMaxControlPayload
    if payloadLength > limit then
      .error ("HNB payload " ++ toString payloadLength ++ " exceeds " ++ toString limit)
    else .ok ()

def byteAt (bytes : List UInt8) (offset : ℕ) : ℕ := (bytes.getD offset 0).toNat

def readUint16 (bytes : List UInt8) (offset : ℕ) : ℕ :=
  byteAt bytes offset * 256 + byteAt bytes (offset + 1)

def readUint32 (bytes : List UInt8) (offset : ℕ) : ℕ :=
  byteAt bytes offset * 16777216 + byteAt bytes (offset + 1) * 65536 +
    byteAt bytes (offset + 2) * 256 + byteAt bytes (offset + 3)

def writeUint16 (value : ℕ) : List UInt8 := [.ofNat (value / 256 % 256), .ofNat (value % 256)]

def writeUint32 (value : ℕ) : List UInt8 :=
  [.ofNat (value / 16777216 % 256), .ofNat (value / 65536 % 256), .ofNat (value / 256 % 256),
    .ofNat (value % 256)]

def encodeFrame (type sequence : ℕ) (payload : List UInt8) : Except String (List UInt8) :=
  match validateFrame type 0 sequence payload.length with
  | .error message => .error message
  | .ok () =>
    .ok ([0x48, 0x4E, 0x42, 0x31, .ofNat hnbVersion, .ofNat type] ++ writeUint16 0 ++
      writeUint32 payload.length ++ writeUint32 sequence ++ payload)

def validateMagicAndVersion (pending : List UInt8) (offset : ℕ) : Except String Unit :=
  if byteAt pending offset ≠ 0x48 ∨ byteAt pending (offset + 1) ≠ 0x4E ∨
      byteAt pending (offset + 2) ≠ 0x42 ∨ byteAt pending (offset + 3) ≠ 0x31 then
    .error "HNB frame has invalid magic"
  else if byteAt pending (offset + 4) ≠ hnbVersion then
    .error ("HNB version " ++ toString (byteAt pending (offset + 4)) ++ " is unsupported")
  else .ok ()

structure HnbHeader where
  type : ℕ
  flags : ℕ
  payloadLength : ℕ
  sequence : ℕ
  deriving DecidableEq, Repr

/-- The first part of the loop body of `push`: the checks and fields of the header at `offset`. -/
def headerAt (pending : List UInt8) (offset : ℕ) : Except String HnbHeader := do
  validateMagicAndVersion pending offset
  let type := byteAt pending (offset + 5)
  let flags := readUint16 pending (offset + 6)
  let payloadLength := readUint32 pending (offset + 8)
  let sequence := readUint32 pending (offset + 12)
  validateFrame type flags sequence payloadLength
  return ⟨type, flags, payloadLength, sequence⟩

/-- The loop of `push` from `offset` on, with the frames found so far. It returns the offset after
the last complete frame. -/
def pushLoop (pending : List UInt8) (offset : ℕ) (frames : List HnbFrame) :
    Except String (List HnbFrame × ℕ) :=
  if hnbHeaderSize ≤ pending.length - offset then
    match headerAt pending offset with
    | .error message => .error message
    | .ok h =>
      let frameLength := hnbHeaderSize + h.payloadLength
      if pending.length - offset < frameLength then .ok (frames, offset)
      else
        let payload := (pending.drop (offset + hnbHeaderSize)).take h.payloadLength
        pushLoop pending (offset + frameLength)
          (frames ++ [⟨h.type, h.flags, h.sequence, payload⟩])
  else .ok (frames, offset)
termination_by pending.length - offset
decreasing_by
  simp only [frameLength, hnbHeaderSize] at *
  omega

structure HnbFrameDecoder where
  pending : List UInt8 := []
  deriving DecidableEq, Repr

/-- `push`: the frames, or the error it throws. A throw leaves everything received pending. -/
def HnbFrameDecoder.push (decoder : HnbFrameDecoder) (chunk : List UInt8) :
    Except String (List HnbFrame) × HnbFrameDecoder :=
  let combined := decoder.pending ++ chunk
  match pushLoop combined 0 [] with
  | .error message => (.error message, ⟨combined⟩)
  | .ok (frames, offset) => (.ok frames, ⟨if offset > 0 then combined.drop offset else combined⟩)

/-- Calls of `push` until one throws: all frames returned, and the decoder afterwards. -/
def HnbFrameDecoder.pushAll : HnbFrameDecoder → List (List UInt8) →
    Except String (List HnbFrame × HnbFrameDecoder)
  | decoder, [] => .ok ([], decoder)
  | decoder, chunk :: chunks =>
    match decoder.push chunk with
    | (.error message, _) => .error message
    | (.ok frames, decoder) =>
      (pushAll decoder chunks).map fun r => (frames ++ r.1, r.2)

end HarmonyNetBridge.Harmony
