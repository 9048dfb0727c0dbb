import Mathlib.Logic.Function.Basic
import HarmonyNetBridge.Transition.Runs
import HarmonyNetBridge.Daemon.Sequences
import HarmonyNetBridge.Protocol.Payload
import HarmonyNetBridge.Relay.Engine

/-! The Mac's direction of one device connection, call by call of `conn.Write`: the handshake frame
that the handler writes itself, and the frames its goroutines send through one `frameWriter`. -/
namespace HarmonyNetBridge.Daemon
open Transition Function

inductive Sender where
  | handler | heartbeat | relayOutput | shutdown
  deriving DecidableEq, Repr

/-- An accepted connection. That of a control session comes with the payload of its HELLO_ACK. -/
inductive Link where
  | control (mode : Mode) (payload : List UInt8)
  | data
  deriving DecidableEq, Repr

/-- The handshake frame, written without the `frameWriter`. -/
def Link.ack : Link → Frame
  | control _ payload => ⟨FrameType.helloAck, 0, 1, payload⟩
  | data => ⟨FrameType.dataAck, 0, 1, []⟩

/-- Whether the handler starts `runHeartbeat`. A data channel belongs to a session of mode `vpn`. -/
def Link.beats : Link → Bool
  | control mode _ => mode = .vpn
  | data => true

/-- The errors of `handleControlConnection` on an established connection. -/
def establishedErrors : List ErrorPayload :=
  [protocolError "INVALID_SEQUENCE" "control frame sequence is not contiguous",
    protocolError "INVALID_VPN_STATUS" "VPN_STATUS is invalid for this session",
    protocolError "UNEXPECTED_FRAME" "this frame is not valid in a control session"]

/-- `shutdown` ignores an error of `MarshalJSONPayload`. -/
def stopPayload : List UInt8 :=
  (marshalJSONPayload (StopRequest.json ⟨"user_requested"⟩)).toOption.getD []

/-- What each goroutine passes to `frameWriter.Write`. -/
inductive Link.Sends : Link → Sender → FrameType → List UInt8 → Prop
  | pong {link : Link} {payload : List UInt8} (vpn : link.beats = true) (size : payload.length = 8) :
      Sends link .handler FrameType.pong payload
  | error {mode : Mode} {ack payload : List UInt8} {error : ErrorPayload}
      (known : error ∈ establishedErrors) (encoded : marshalJSONPayload error.json = .ok payload) :
      Sends (.control mode ack) .handler FrameType.error payload
  | ping {link : Link} {payload : List UInt8} (size : payload.length = 8) :
      Sends link .heartbeat FrameType.ping payload
  /-- `copyNetstackOutput` passes on no packet that is empty or longer than an IPv4 packet. -/
  | packet {payload : List UInt8} (present : payload ≠ [])
      (size : payload.length ≤ Relay.maximumIPv4PacketLength) :
      Sends .data .relayOutput FrameType.ipPacket payload
  | stop {mode : Mode} {ack : List UInt8} :
      Sends (.control mode ack) .shutdown FrameType.stopRequest stopPayload

/-- The calls of `conn.Write` that `WriteFrame` makes. -/
def slices (frame : Frame) : List (List UInt8) :=
  frame.header.encode :: if frame.payload = [] then [] else [frame.payload]

/-- Where a goroutine stands. In `writing` it has the given calls of `conn.Write` before it; `locked`
tells whether it holds the lock of the `frameWriter`. In `leaving` it is about to close the
connection, the handler after `releaseControl` or `releaseData`. -/
inductive Place where
  | off
  | ready
  | writing (locked : Bool) (frame : Frame) (rest : List (List UInt8))
  | leaving
  | released
  | returned
  deriving DecidableEq, Repr

/-- The bytes written so far, the `frameWriter` and its goroutines. `broken` tells whether a
`WriteFrame` has failed inside a frame, `spilled` whether a byte was written after that. -/
structure Outlet where
  wire : List UInt8 := []
  closed : Bool := false
  sequence : UInt32 := 2
  holder : Option Sender := none
  places : Sender → Place
  broken : Bool := false
  spilled : Bool := false

inductive OutletEvent where
  | begin (s : Sender) (type : FrameType) (payload : List UInt8)
  | reject (s : Sender) (type : FrameType) (payload : List UInt8)
  | write (s : Sender)
  | fail (s : Sender) (n : ℕ)
  | take
  | leave (s : Sender)
  | retire
  | release
  | close (s : Sender)
  | cut
  deriving DecidableEq, Repr

/-- The goroutines that are started when the handshake frame is written. -/
def Link.started (link : Link) (places : Sender → Place) : Sender → Place
  | .handler => .ready
  | .heartbeat => if link.beats then .ready else .off
  | .relayOutput => match link with
    | .control .. => .off
    | .data => .ready
  | .shutdown => places .shutdown

theorem Link.started_congr (link : Link) {places places' : Sender → Place}
    (h : places .shutdown = places' .shutdown) : link.started places = link.started places' := by
  funext s
  cases s with
  | shutdown => exact h
  | handler | heartbeat | relayOutput => rfl

/-- What follows a `Write` without error: the handler returns after ERROR, `shutdown` goes on to
wait for STOP_ACK and to close the connection. -/
def afterWrite (s : Sender) (frame : Frame) : Place :=
  if s = .shutdown ∨ frame.type = FrameType.error then .leaving else .ready

namespace Outlet

/-- The handler has accepted HELLO or DATA_HELLO. -/
def start (link : Link) : Outlet where
  places := fun s => match s with
    | .handler => .writing false link.ack (slices link.ack)
    | _ => .off

@[simps] def goto (o : Outlet) (s : Sender) (place : Place) : Outlet :=
  { o with places := update o.places s place }

@[simps] def put (o : Outlet) (bytes : List UInt8) : Outlet :=
  { o with wire := o.wire ++ bytes, spilled := o.spilled || (o.broken && !bytes.isEmpty) }

/-- `frameWriter.Write` takes the lock and a sequence. -/
@[simps] def lock (o : Outlet) (s : Sender) (frame : Frame) : Outlet :=
  { o with
    sequence := nextSequence o.sequence
    holder := some s
    places := update o.places s (.writing true frame (slices frame)) }

theorem lock_writing (o : Outlet) (s : Sender) (frame : Frame) :
    (o.lock s frame).places s = .writing true frame (frame.header.encode ::
      if frame.payload = [] then [] else [frame.payload]) :=
  update_self _ _ _

/-- A call of `conn.Write` has returned. After the last one `WriteFrame` returns. -/
def advance (o : Outlet) (link : Link) (s : Sender) (locked : Bool) (frame : Frame) :
    List (List UInt8) → Outlet
  | [] =>
    if locked then { o.goto s (afterWrite s frame) with holder := none }
    else { o with places := link.started o.places }
  | slice :: rest => o.goto s (.writing locked frame (slice :: rest))

@[simp] theorem advance_fields (o : Outlet) (link : Link) (s : Sender) (locked : Bool)
    (frame : Frame) (rest : List (List UInt8)) :
    (o.advance link s locked frame rest).wire = o.wire ∧
      (o.advance link s locked frame rest).broken = o.broken ∧
      (o.advance link s locked frame rest).spilled = o.spilled := by
  cases rest with
  | nil => cases locked <;> exact ⟨rfl, rfl, rfl⟩
  | cons => exact ⟨rfl, rfl, rfl⟩

/-- A call of `conn.Write` has failed with `left` bytes of the frame unwritten; the lock is
released. -/
@[simps] def abandon (o : Outlet) (s : Sender) (locked : Bool) (frame : Frame) (left : ℕ) : Outlet :=
  { o with
    holder := if locked then none else o.holder
    places := update o.places s .leaving
    broken := o.broken || decide (left < frame.encode.length) }

end Outlet

def Outlet.frame (o : Outlet) (type : FrameType) (payload : List UInt8) : Frame :=
  ⟨type, 0, o.sequence, payload⟩

inductive OutletStep (link : Link) (o : Outlet) : OutletEvent → Outlet → Prop
  | begin {s : Sender} {type : FrameType} {payload : List UInt8} (pc : o.places s = .ready)
      (free : o.holder = none) (sends : link.Sends s type payload)
      (accepted : validateFrame (o.frame type payload) = .ok ()) :
      OutletStep link o (.begin s type payload) (o.lock s (o.frame type payload))
  /-- `WriteFrame` refuses the frame, which has taken its sequence already. -/
  | reject {s : Sender} {type : FrameType} {payload : List UInt8} {e : ProtocolError}
      (pc : o.places s = .ready) (free : o.holder = none) (sends : link.Sends s type payload)
      (refused : validateFrame (o.frame type payload) = .error e) :
      OutletStep link o (.reject s type payload)
        { o.goto s .leaving with sequence := nextSequence o.sequence }
  | write {s : Sender} {locked : Bool} {frame : Frame} {slice : List UInt8}
      {rest : List (List UInt8)} (pc : o.places s = .writing locked frame (slice :: rest))
      (connected : o.closed = false) :
      OutletStep link o (.write s) ((o.put slice).advance link s locked frame rest)
  /-- A call of `conn.Write` returns an error after `n` bytes; on a closed connection it writes
  nothing. -/
  | fail {s : Sender} {locked : Bool} {frame : Frame} {slice : List UInt8}
      {rest : List (List UInt8)} (pc : o.places s = .writing locked frame (slice :: rest)) {n : ℕ}
      (short : n < slice.length) (unusable : o.closed = true → n = 0) :
      OutletStep link o (.fail s n) ((o.put (slice.take n)).abandon s locked frame
        ((slice :: rest).flatten.length - n))
  /-- `shutdown` takes over the control session, which `releaseControl` has not released. -/
  | take {mode : Mode} {payload : List UInt8} (control : link = .control mode payload)
      (pc : o.places .shutdown = .off) (held : o.places .handler ≠ .released)
      (present : o.places .handler ≠ .returned) :
      OutletStep link o .take (o.goto .shutdown .ready)
  /-- The handler is done with the session, the heartbeat has expired, the relay has no more
  output. -/
  | leave {s : Sender} (pc : o.places s = .ready) (other : s ≠ .shutdown) :
      OutletStep link o (.leave s) (o.goto s .leaving)
  /-- The heartbeat ends when the daemon is stopped. -/
  | retire (pc : o.places .heartbeat = .ready) :
      OutletStep link o .retire (o.goto .heartbeat .returned)
  | release (pc : o.places .handler = .leaving) :
      OutletStep link o .release (o.goto .handler .released)
  | close {s : Sender} (pc : o.places s = if s = .handler then .released else .leaving) :
      OutletStep link o (.close s) { o.goto s .returned with closed := true }
  /-- The connection is closed by the peer or from another goroutine of the daemon. -/
  | cut : OutletStep link o .cut { o with closed := true }

theorem flatten_slices (frame : Frame) : (slices frame).flatten = frame.encode := by
  unfold slices Frame.encode
  split
  next h => simp [h]
  · simp

theorem slice_ne_nil {frame : Frame} {slice : List UInt8} (h : slice ∈ slices frame) :
    slice ≠ [] := by
  unfold slices at h
  have hheader : frame.header.encode ≠ [] := by
    intro hnil
    have hlen := Header.length_encode frame.header
    simp [hnil, headerSize] at hlen
  split at h
  · rw [List.mem_singleton] at h
    rw [h]
    exact hheader
  next hpayload =>
    rcases List.mem_cons.mp h with rfl | h
    · exact hheader
    · rw [List.mem_singleton] at h
      rw [h]
      exact hpayload

theorem stopPayload_length : stopPayload.length ≤ maxControlPayload.toNat := by
  unfold stopPayload
  cases h : marshalJSONPayload (StopRequest.json ⟨"user_requested"⟩) with
  | error e => exact Nat.zero_le _
  | ok payload => exact (marshalJSONPayload_ok h).2

/-- Every frame that a goroutine sends is one of HNB/1. -/
theorem Link.Sends.valid {link : Link} {s : Sender} {frame : Frame}
    (h : link.Sends s frame.type frame.payload) (hflags : frame.flags = 0)
    (hseq : frame.sequence ≠ 0) : frame.Valid := by
  obtain ⟨type, flags, sequence, payload⟩ := frame
  cases h with
  | pong _ size | ping size =>
    refine ⟨rfl, hflags, hseq, size.trans_le ?_⟩
    exact (by decide : 8 ≤ maxControlPayload.toNat)
  | error _ encoded => exact ⟨rfl, hflags, hseq, (marshalJSONPayload_ok encoded).2⟩
  | packet _ size => exact ⟨rfl, hflags, hseq, size⟩
  | stop => exact ⟨rfl, hflags, hseq, stopPayload_length⟩

/-- The handshake frame is on the wire and nothing else has happened. -/
def Outlet.acknowledged (link : Link) : Outlet where
  wire := link.ack.encode
  places := link.started (Outlet.start link).places

theorem acknowledged_run (link : Link) : ∃ ls, (∀ l ∈ ls, l = .write .handler) ∧
    Run (OutletStep link) (Outlet.start link) ls (Outlet.acknowledged link) := by
  have hplace : (Outlet.start link).places .handler = .writing false link.ack (slices link.ack) := rfl
  by_cases hpayload : link.ack.payload = []
  · rw [slices, if_pos hpayload] at hplace
    have hlast : ((Outlet.start link).put link.ack.header.encode).advance link .handler false
        link.ack [] = Outlet.acknowledged link := by
      simp [Outlet.advance, Outlet.put, Outlet.acknowledged, Outlet.start, Frame.encode, hpayload]
    rw [← hlast]
    exact ⟨[.write .handler], by simp, .single (.write hplace rfl)⟩
  · rw [slices, if_neg hpayload] at hplace
    have hlast : ((((Outlet.start link).put link.ack.header.encode).advance link .handler false
        link.ack [link.ack.payload]).put link.ack.payload).advance link .handler false link.ack [] =
          Outlet.acknowledged link := by
      have hstarted : link.started (update (Outlet.start link).places .handler
          (.writing false link.ack [link.ack.payload])) = link.started (Outlet.start link).places :=
        link.started_congr (update_of_ne (by decide) _ _)
      rw [Outlet.acknowledged, ← hstarted]
      simp [Outlet.advance, Outlet.put, Outlet.goto, Outlet.start, Frame.encode]
    rw [← hlast]
    exact ⟨[.write .handler, .write .handler], by simp,
      .cons (.write hplace rfl) <| .single (.write (by simp [Outlet.advance]) rfl)⟩

end HarmonyNetBridge.Daemon
