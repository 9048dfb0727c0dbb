import HarmonyNetBridge.Bytes.BigEndian
import HarmonyNetBridge.Protocol.Session

/-! The HNB/1 frame codec of the Mac: `WriteFrame` over a writer that may make short writes and
`ReadFrame` over a reader that may fragment the stream. -/
namespace HarmonyNetBridge
open Bytes

/-- `protocol.Type`: any byte a peer may send. -/
abbrev FrameType := UInt8

namespace FrameType
def hello : FrameType := 0x01
def helloAck : FrameType := 0x02
def error : FrameType := 0x03
def stopRequest : FrameType := 0x04
def stopAck : FrameType := 0x05
def dataHello : FrameType := 0x10
def dataAck : FrameType := 0x11
def vpnStatus : FrameType := 0x12
def ipPacket : FrameType := 0x20
def ping : FrameType := 0x30
def pong : FrameType := 0x31
end FrameType

def knownType (frameType : FrameType) : Bool :=
  [FrameType.hello, FrameType.helloAck, FrameType.error, FrameType.stopRequest, FrameType.stopAck,
    FrameType.dataHello, FrameType.dataAck, FrameType.vpnStatus, FrameType.ipPacket,
    FrameType.ping, FrameType.pong].contains frameType

structure Frame where
  type : FrameType
  flags : UInt16
  sequence : UInt32
  payload : List UInt8
  deriving DecidableEq, Repr

structure ProtocolError where
  code : String
  message : String
  deriving DecidableEq, Repr

inductive ReadError where
  | eof | unexpectedEOF
  | other (text : String)
  deriving DecidableEq, Repr

inductive WriteError where
  | shortWrite
  | other (text : String)
  deriving DecidableEq, Repr

/-- The errors of `ReadFrame` and `WriteFrame`; `writeHeader` and `writePayload` are the wrapped
errors of the two calls of `writeAll`. -/
inductive FrameError where
  | protocol (error : ProtocolError)
  | read (error : ReadError)
  | writeHeader (error : WriteError)
  | writePayload (error : WriteError)
  deriving DecidableEq, Repr

def headerSize : ℕ := 16
def magic : List UInt8 := [0x48, 0x4E, 0x42, 0x31]
def maxControlPayload : UInt32 := 16 * 1024
def maxPacketPayload : UInt32 := 65535

/-- The limit that `validateLength` compares with. -/
def payloadLimit (frameType : FrameType) : UInt32 :=
  if frameType = FrameType.ipPacket then maxPacketPayload else maxControlPayload

def validateLength (frameType : FrameType) (length : UInt32) : Except ProtocolError Unit :=
  let limit := payloadLimit frameType
  if length > limit then
    .error ⟨"PAYLOAD_TOO_LARGE",
      "frame payload " ++ toString length ++ " exceeds limit " ++ toString limit⟩
  else .ok ()

/-- The verb `%02x`. -/
def lowerHexByte (b : UInt8) : String :=
  String.ofList [lowerHexDigit (b.toNat / 16), lowerHexDigit (b.toNat % 16)]

def validateHeader (frameType : FrameType) (flags : UInt16) (sequence payloadLength : UInt32) :
    Except ProtocolError Unit :=
  if !knownType frameType then
    .error ⟨"UNKNOWN_FRAME_TYPE", "unknown frame type 0x" ++ lowerHexByte frameType⟩
  else if flags ≠ 0 then .error ⟨"INVALID_FLAGS", "HNB/1 flags must be zero"⟩
  else if sequence = 0 then .error ⟨"INVALID_SEQUENCE", "HNB/1 sequence zero is reserved"⟩
  else validateLength frameType payloadLength

/-- `uint32(len(frame.Payload))` is the length modulo `2 ^ 32`. -/
def validateFrame (frame : Frame) : Except ProtocolError Unit :=
  validateHeader frame.type frame.flags frame.sequence (.ofNat frame.payload.length)

structure Header where
  type : FrameType
  flags : UInt16
  sequence : UInt32
  payloadLength : UInt32
  deriving DecidableEq, Repr

namespace Header

/-- What a peer may send: a known type, zero flags, a sequence other than the reserved zero and a
payload within the limit of the type. -/
structure Valid (h : Header) : Prop where
  known : knownType h.type = true
  flags : h.flags = 0
  sequence : h.sequence ≠ 0
  length : h.payloadLength ≤ payloadLimit h.type

def encode (h : Header) : List UInt8 :=
  magic ++ [.ofNat currentVersion, h.type] ++ bigEndian 2 h.flags.toNat ++
    bigEndian 4 h.payloadLength.toNat ++ bigEndian 4 h.sequence.toNat

/-- The slices of the header bytes that `ReadFrame` takes its fields from. -/
def fields (header : List UInt8) : Header where
  type := header.getD 5 0
  flags := .ofNat (value ((header.drop 6).take 2))
  sequence := .ofNat (value ((header.drop 12).take 4))
  payloadLength := .ofNat (value ((header.drop 8).take 4))

def validate (h : Header) : Except ProtocolError Unit :=
  validateHeader h.type h.flags h.sequence h.payloadLength

end Header

/-- The part of `ReadFrame` between its two calls of `io.ReadFull`. -/
def readHeader (header : List UInt8) : Except ProtocolError Header :=
  if header.take 4 ≠ magic then .error ⟨"INVALID_MAGIC", "frame magic is not HNB1"⟩
  else if header.getD 4 0 ≠ .ofNat currentVersion then
    .error ⟨"VERSION_UNSUPPORTED", "unsupported HNB version " ++ toString (header.getD 4 0)⟩
  else
    let h := Header.fields header
    h.validate.map fun _ => h

namespace Frame

def header (frame : Frame) : Header :=
  ⟨frame.type, frame.flags, frame.sequence, .ofNat frame.payload.length⟩

/-- The frames of HNB/1. The payload length is bounded as a number, not modulo `2 ^ 32`. -/
structure Valid (frame : Frame) : Prop where
  known : knownType frame.type = true
  flags : frame.flags = 0
  sequence : frame.sequence ≠ 0
  length : frame.payload.length ≤ (payloadLimit frame.type).toNat

def encode (frame : Frame) : List UInt8 := frame.header.encode ++ frame.payload

end Frame

/-- What one call of `Write` does: it takes at most `accepts` bytes and may return an error. -/
structure WriteOutcome where
  accepts : ℕ
  err : Option WriteError
  deriving DecidableEq, Repr

def WriteOutcome.Short (o : WriteOutcome) : Prop := 0 < o.accepts ∧ o.err = none

/-- What a writer got, the error returned and what its later calls of `Write` will do. -/
structure Written (ε : Type) where
  bytes : List UInt8
  err : Option ε
  outcomes : List WriteOutcome
  deriving DecidableEq, Repr

/-- A writer is the list of what its calls of `Write` do; after the list they take everything. -/
def writeAll : List WriteOutcome → List UInt8 → Written WriteError
  | outcomes, [] => ⟨[], none, outcomes⟩
  | [], payload => ⟨payload, none, []⟩
  | o :: rest, payload =>
    let written := payload.take o.accepts
    match o.err with
    | some e => ⟨written, some e, rest⟩
    | none =>
      if written.length = 0 then ⟨[], some .shortWrite, rest⟩
      else
        let after := writeAll rest (payload.drop written.length)
        { after with bytes := written ++ after.bytes }

def writeFrame (outcomes : List WriteOutcome) (frame : Frame) : Written FrameError :=
  match validateFrame frame with
  | .error e => ⟨[], some (.protocol e), outcomes⟩
  | .ok () =>
    let head := writeAll outcomes frame.header.encode
    match head.err with
    | some e => ⟨head.bytes, some (.writeHeader e), head.outcomes⟩
    | none =>
      let body := writeAll head.outcomes frame.payload
      ⟨head.bytes ++ body.bytes, body.err.map .writePayload, body.outcomes⟩

/-- Frames written one after another, until a `WriteFrame` fails. -/
def writeFrames (outcomes : List WriteOutcome) : List Frame → Written FrameError
  | [] => ⟨[], none, outcomes⟩
  | frame :: frames =>
    let head := writeFrame outcomes frame
    match head.err with
    | some e => ⟨head.bytes, some e, head.outcomes⟩
    | none =>
      let rest := writeFrames head.outcomes frames
      { rest with bytes := head.bytes ++ rest.bytes }

/-- What one call of `Read` can return when its buffer is large enough. A smaller buffer gets the
front of the bytes and no error, and the fragment stays with the others. -/
structure Fragment where
  bytes : List UInt8
  err : Option ReadError
  deriving DecidableEq, Repr

/-- A reader is the list of its fragments; after the last one it is at its end. -/
abbrev Reader := List Fragment

def Reader.bytes (reader : Reader) : List UInt8 := reader.flatMap Fragment.bytes

/-- The error of `io.ReadFull` when a `Read` failed and `got` does not fill the buffer. -/
def ReadError.after (got : List UInt8) : ReadError → ReadError
  | .eof => if got.isEmpty then .eof else .unexpectedEOF
  | e => e

/-- The loop of `io.ReadFull` with `got` in the buffer already. It makes no call of `Read` when
the buffer is full, and drops the error of the call that fills it. -/
def fill (size : ℕ) : List UInt8 → Reader → EStateM.Result FrameError Reader (List UInt8)
  | got, [] =>
    if size ≤ got.length then .ok got [] else .error (.read (ReadError.after got .eof)) []
  | got, f :: rest =>
    if size ≤ got.length then .ok got (f :: rest)
    else if size < got.length + f.bytes.length then
      .ok (got ++ f.bytes.take (size - got.length))
        ({ f with bytes := f.bytes.drop (size - got.length) } :: rest)
    else match f.err with
      | none => fill size (got ++ f.bytes) rest
      | some e =>
        if size = got.length + f.bytes.length then .ok (got ++ f.bytes) rest
        else .error (.read (e.after (got ++ f.bytes))) rest

def readFull (size : ℕ) : EStateM FrameError Reader (List UInt8) := fill size []

def liftProtocol {α : Type} : Except ProtocolError α → EStateM FrameError Reader α
  | .ok a => pure a
  | .error e => throw (.protocol e)

/-- The part of `ReadFrame` after the header has been accepted. -/
def readPayload (h : Header) : EStateM FrameError Reader Frame := do
  let payload ← readFull h.payloadLength.toNat
  let frame : Frame := ⟨h.type, h.flags, h.sequence, payload⟩
  liftProtocol (validateFrame frame)
  return frame

def readFrame : EStateM FrameError Reader Frame := do
  let header ← readFull headerSize
  let h ← liftProtocol (readHeader header)
  readPayload h

/-- `ReadFrame` called `n` times. -/
def readFrames : ℕ → EStateM FrameError Reader (List Frame)
  | 0 => return []
  | n + 1 => do
    let frame ← readFrame
    let frames ← readFrames n
    return frame :: frames

end HarmonyNetBridge
