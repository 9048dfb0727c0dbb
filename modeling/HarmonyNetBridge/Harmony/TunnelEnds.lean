import HarmonyNetBridge.Harmony.SequenceAgreement

/-! The two receivers of the data connection with all their checks: the loop of
`handleDataConnection` on the Mac and `PumpSocketToTun` of the app. -/
namespace HarmonyNetBridge.Harmony
open Bytes Daemon Relay List

/-- The payloads of the frames of one type, in the order of the frames. -/
def payloadsOf (type : FrameType) (frames : List Frame) : List (List UInt8) :=
  (frames.filter (·.type == type)).map Frame.payload

section PayloadsOf
variable {type : FrameType} {frame : Frame} {frames more : List Frame}

@[simp] theorem payloadsOf_append (type : FrameType) (frames more : List Frame) :
    payloadsOf type (frames ++ more) = payloadsOf type frames ++ payloadsOf type more := by
  simp [payloadsOf]

theorem payloadsOf_cons_self (frames : List Frame) (h : frame.type = type) :
    payloadsOf type (frame :: frames) = frame.payload :: payloadsOf type frames := by
  simp [payloadsOf, h]

theorem payloadsOf_cons_ne (frames : List Frame) (h : frame.type ≠ type) :
    payloadsOf type (frame :: frames) = payloadsOf type frames := by
  simp [payloadsOf, h]

theorem payloadsOf_isFront (h : frames <+: more) : payloadsOf type frames <+: payloadsOf type more := by
  obtain ⟨rest, rfl⟩ := h
  rw [payloadsOf_append]
  exact prefix_append _ _

theorem mem_payloadsOf {payload : List UInt8} :
    payload ∈ payloadsOf type frames ↔ ∃ frame ∈ frames, frame.type = type ∧ frame.payload = payload := by
  simp [payloadsOf, and_assoc]

end PayloadsOf

/-- What the loop of `handleDataConnection` has done: the packets it passed to the network stack, the
payloads it gave to `recordHeartbeat` and the PINGs it answered. -/
structure MacReceived where
  injected : List (List UInt8) := []
  acknowledged : List (List UInt8) := []
  answered : List (List UInt8) := []
  returned : Bool := false
  deriving DecidableEq, Repr

/-- The loop of `handleDataConnection` on the frames that `ReadFrame` returns. Each comes with
whether the relay is open and the `frameWriter` usable at that time. -/
def handleDataFrames : UInt32 → List (Frame × Bool) → MacReceived
  | _, [] => {}
  | expectedSequence, (frame, usable) :: rest =>
    if frame.sequence ≠ expectedSequence then { returned := true }
    else
      let after := handleDataFrames (nextSequence expectedSequence) rest
      if frame.type = FrameType.ipPacket then
        if frame.payload.length = 0 then { returned := true }
        else match inject (!usable) frame.payload with
          | .error _ => { returned := true }
          | .ok packet => { after with injected := packet :: after.injected }
      else if frame.type = FrameType.pong then
        { after with acknowledged := frame.payload :: after.acknowledged }
      else if frame.type = FrameType.ping then
        if frame.payload.length ≠ 8 ∨ usable = false then { returned := true }
        else { after with answered := frame.payload :: after.answered }
      else { returned := true }

/-- Why `PumpSocketToTun` called `Fail`. -/
inductive PumpFault where
  | badMessage | reply | write
  deriving DecidableEq, Repr

/-- What `PumpSocketToTun` has done: the packets it wrote to the TUN and the PINGs it answered. -/
structure TunReceived where
  written : List (List UInt8) := []
  answered : List (List UInt8) := []
  fault : Option PumpFault := none
  deriving DecidableEq, Repr

def kTypeDataAck : UInt8 := 0x11
def kTypePing : UInt8 := 0x30
def kMaxPacketSize : UInt32 := 65535

/-- The conditions under which `PumpSocketToTun` rejects a header before it reads the payload. -/
def pumpRejectsHeader (expectedSequence : UInt32) (header : List UInt8) : Bool :=
  let payloadLength := pumpReadUint32 (header.drop 8)
  let frameType := header.getD 5 0
  (header.take 4 != [0x48, 0x4E, 0x42, 0x31] || header.getD 4 0 != kVersion ||
    pumpReadUint16 (header.getD 6 0) (header.getD 7 0) != 0 || payloadLength > kMaxPacketSize ||
    pumpReadUint32 (header.drop 12) != expectedSequence) ||
  ((frameType == kTypeIPPacket && payloadLength < 20) ||
    (frameType == kTypePing && payloadLength != 8) ||
    (frameType != kTypeIPPacket && frameType != kTypePing))

/-- The check of `PumpSocketToTun` on a packet before it is written. -/
def pumpRejectsPacket (packet : List UInt8) : Bool :=
  packet.getD 0 0 >>> 4 != 4 ||
    (pumpReadUint16 (packet.getD 2 0) (packet.getD 3 0)).toNat != packet.length

/-- The loop of `PumpSocketToTun` on the bytes that have arrived. Where they end inside a frame it
waits in `ReadAllBefore`. For each frame `outcomes` tells whether its reply is sent or its packet
is written as a whole, which is so for the frames after the list. -/
def pumpSocketToTunLoop (expectedSequence : UInt32) (outcomes : List Bool) (bytes : List UInt8) :
    TunReceived :=
  if bytes.length < 16 then {}
  else if pumpRejectsHeader expectedSequence bytes then { fault := some .badMessage }
  else
    let payloadLength := (pumpReadUint32 (bytes.drop 8)).toNat
    if bytes.length < 16 + payloadLength then {}
    else
      let packet := (bytes.drop 16).take payloadLength
      let after := pumpSocketToTunLoop (pumpNextSequence expectedSequence) outcomes.tail
        (bytes.drop (16 + payloadLength))
      if bytes.getD 5 0 = kTypePing then
        if outcomes.headD true then { after with answered := packet :: after.answered }
        else { fault := some .reply }
      else if pumpRejectsPacket packet then { fault := some .badMessage }
      else if outcomes.headD true then { after with written := packet :: after.written }
      else { fault := some .write }
termination_by bytes.length
decreasing_by
  rw [length_drop]
  omega

/-- The check of `Connect` on the header of DATA_ACK. -/
def connectAccepts (acknowledgement : List UInt8) : Bool :=
  acknowledgement.take 4 == [0x48, 0x4E, 0x42, 0x31] && acknowledgement.getD 4 0 == kVersion &&
    acknowledgement.getD 5 0 == kTypeDataAck &&
    pumpReadUint16 (acknowledgement.getD 6 0) (acknowledgement.getD 7 0) == 0 &&
    pumpReadUint32 (acknowledgement.drop 8) == 0 && pumpReadUint32 (acknowledgement.drop 12) == 1

/-- All that the app receives on a data connection: `Connect` reads DATA_ACK, and `Start` runs
`PumpSocketToTun` on what follows it. -/
def pumpReceivesData (outcomes : List Bool) (bytes : List UInt8) : TunReceived :=
  if bytes.length < 16 then {}
  else if !connectAccepts bytes then { fault := some .badMessage }
  else pumpSocketToTunLoop 2 outcomes (bytes.drop 16)

section Mac
variable {frames : List (Frame × Bool)}

/-- The Mac passes on a front of the packets that arrived, whatever the frames are and whatever
becomes of the relay and the writer, and so with the PONGs and the PINGs. -/
theorem handleDataFrames_front {expectedSequence : UInt32}
    (hwhole : ∀ f ∈ frames, f.1.type = FrameType.ipPacket →
      totalLength f.1.payload = f.1.payload.length) :
    (handleDataFrames expectedSequence frames).injected <+:
        payloadsOf FrameType.ipPacket (frames.map Prod.fst) ∧
      (handleDataFrames expectedSequence frames).acknowledged <+:
        payloadsOf FrameType.pong (frames.map Prod.fst) ∧
      (handleDataFrames expectedSequence frames).answered <+:
        payloadsOf FrameType.ping (frames.map Prod.fst) := by
  induction frames generalizing expectedSequence with
  | nil => exact ⟨List.nil_prefix, List.nil_prefix, List.nil_prefix⟩
  | cons head rest ih =>
    obtain ⟨frame, usable⟩ := head
    obtain ⟨hinjected, hacknowledged, hanswered⟩ :=
      @ih (nextSequence expectedSequence) fun f hf => hwhole f (by simp [hf])
    have hsize := hwhole (frame, usable) (by simp)
    rw [map_cons, handleDataFrames]
    split
    · exact ⟨List.nil_prefix, List.nil_prefix, List.nil_prefix⟩
    dsimp only
    split
    next hip =>
      rw [payloadsOf_cons_self _ hip, payloadsOf_cons_ne _ (by rw [hip]; decide),
        payloadsOf_cons_ne _ (by rw [hip]; decide)]
      split
      · exact ⟨List.nil_prefix, List.nil_prefix, List.nil_prefix⟩
      · split
        · exact ⟨List.nil_prefix, List.nil_prefix, List.nil_prefix⟩
        next packet hpacket =>
          have htake := (inject_ok_iff.mp hpacket).2.2
          rw [hsize hip, take_length] at htake
          exact ⟨htake ▸ (prefix_cons_inj _).mpr hinjected, hacknowledged, hanswered⟩
    next hip =>
      rw [payloadsOf_cons_ne _ hip]
      split
      next hpong =>
        rw [payloadsOf_cons_self _ hpong, payloadsOf_cons_ne _ (by rw [hpong]; decide)]
        exact ⟨hinjected, (prefix_cons_inj _).mpr hacknowledged, hanswered⟩
      next hpong =>
        rw [payloadsOf_cons_ne _ hpong]
        split
        next hping =>
          rw [payloadsOf_cons_self _ hping]
          split
          · exact ⟨List.nil_prefix, List.nil_prefix, List.nil_prefix⟩
          · exact ⟨hinjected, hacknowledged, (prefix_cons_inj _).mpr hanswered⟩
        · exact ⟨List.nil_prefix, List.nil_prefix, List.nil_prefix⟩

/-- With the relay open, the Mac passes on the packets up to the first one that `Inject` refuses. -/
theorem handleDataFrames_numbered {frames : List Frame} {k : ℕ}
    (hseq : ∀ i frame, frames[i]? = some frame → frame.sequence = sequenceAt (k + i))
    (htype : ∀ frame ∈ frames, frame.type = FrameType.ipPacket ∧ frame.payload ≠ [] ∧
      totalLength frame.payload = frame.payload.length ∨ frame.type = FrameType.pong) :
    (handleDataFrames (sequenceAt k) (frames.map (·, true))).injected =
      (payloadsOf FrameType.ipPacket frames).takeWhile fun packet =>
        decide (validateIPv4Packet packet = .ok ()) := by
  induction frames generalizing k with
  | nil => rfl
  | cons frame frames ih =>
    have hfirst : frame.sequence = sequenceAt k := hseq 0 frame rfl
    have hrest := ih (k := k + 1) (fun i f hf => by
      rw [Nat.add_right_comm]
      exact hseq (i + 1) f hf) fun f hf => htype f (by simp [hf])
    rw [sequenceAt_succ] at hrest
    rw [map_cons, handleDataFrames, if_neg (not_not.mpr hfirst)]
    dsimp only
    rcases htype frame (by simp) with ⟨hip, hpresent, hwhole⟩ | hpong
    · rw [payloadsOf_cons_self _ hip, if_pos hip, if_neg (by simpa using hpresent)]
      by_cases hvalid : validateIPv4Packet frame.payload = .ok ()
      · have hok : inject false frame.payload = .ok frame.payload := by
          rw [inject_ok_iff, hwhole, take_length]
          exact ⟨(validateIPv4Packet_ok_iff _).mp hvalid, rfl, rfl⟩
        rw [takeWhile_cons_of_pos (by simpa using hvalid), ← hrest]
        simp [hok]
      · cases hinject : inject false frame.payload with
        | error e => simp [hinject, hvalid]
        | ok bytes =>
          exact absurd ((validateIPv4Packet_ok_iff _).mpr (inject_ok_iff.mp hinject).1) hvalid
    · have hip : frame.type ≠ FrameType.ipPacket := by rw [hpong]; decide
      rw [payloadsOf_cons_ne _ hip, if_neg hip, if_pos hpong, ← hrest]

/-- A frame as the state machine of the daemon sees it; `beat` is what `acknowledge` makes of a
PONG. -/
def dataFrame (frame : Frame) (usable : Bool) (beat : Option (ℤ × ℤ)) : DataFrame :=
  if frame.type = FrameType.ipPacket then
    .ipPacket frame.payload.length (inject (!usable) frame.payload).isOk
  else if frame.type = FrameType.pong then .pong beat
  else if frame.type = FrameType.ping then .ping frame.payload.length usable
  else .other

/-- The handler of the daemon's state machine leaves its loop at the frame at which this one does. -/
theorem dataLoop_returns_iff (token : String) (relay : RelayId) (expectedSequence : UInt32)
    (frame : Frame) (usable : Bool) (beat : Option (ℤ × ℤ)) :
    dataLoop token relay expectedSequence (some (frame.sequence, dataFrame frame usable beat)) =
        .dataReturning token (some relay) ↔
      (handleDataFrames expectedSequence [(frame, usable)]).returned = true := by
  unfold dataLoop dataFrame handleDataFrames
  by_cases hseq : frame.sequence = expectedSequence
  · by_cases hip : frame.type = FrameType.ipPacket
    · cases inject (!usable) frame.payload <;> by_cases hsize : frame.payload = [] <;>
        simp [hseq, hip, hsize, Except.isOk, Except.toBool, handleDataFrames]
    · by_cases hpong : frame.type = FrameType.pong
      · cases beat <;> simp [hseq, hpong, FrameType.pong, FrameType.ipPacket, handleDataFrames]
      · by_cases hping : frame.type = FrameType.ping
        · by_cases hsize : frame.payload.length = 8 <;> cases usable <;>
            simp [hseq, hping, hsize, FrameType.ping, FrameType.pong, FrameType.ipPacket,
              handleDataFrames]
        · simp [hseq, hip, hpong, hping]
  · simp [hseq]

end Mac

section Device
variable {frame : Frame} {arrived bytes : List UInt8} {outcomes : List Bool}

/-- The frames that `PumpSocketToTun` reads to their end. -/
def PumpReads (frame : Frame) : Prop :=
  (frame.type = FrameType.ipPacket ∧ 20 ≤ frame.payload.length) ∨
    (frame.type = FrameType.ping ∧ frame.payload.length = 8)

instance (frame : Frame) : Decidable (PumpReads frame) :=
  inferInstanceAs (Decidable (_ ∨ _))

theorem Frame.Valid.length_le (h : frame.Valid) : frame.payload.length ≤ 65535 := by
  have hlimit : (payloadLimit frame.type).toNat ≤ 65535 := by
    unfold payloadLimit
    split <;> decide
  exact h.length.trans hlimit

/-- Of the header of a valid frame with the expected sequence only the type and the length can be
refused. -/
theorem pumpRejectsHeader_encode (hvalid : frame.Valid) (tail : List UInt8) :
    pumpRejectsHeader frame.sequence (frame.header.encode ++ tail) = !decide (PumpReads frame) := by
  have hlen := Frame.Valid.length_le hvalid
  have hsize : pumpReadUint32 ((frame.header.encode ++ tail).drop 8) =
      UInt32.ofNat frame.payload.length := pumpReadUint32_payloadLength frame.header tail
  have hseq : pumpReadUint32 ((frame.header.encode ++ tail).drop 12) = frame.sequence :=
    pumpReadUint32_sequence frame.header tail
  have hmagic : (frame.header.encode ++ tail).take 4 = [0x48, 0x4E, 0x42, 0x31] := rfl
  have hversion : (frame.header.encode ++ tail).getD 4 0 = kVersion := rfl
  have htype : (frame.header.encode ++ tail).getD 5 0 = frame.type := rfl
  have hflags : pumpReadUint16 ((frame.header.encode ++ tail).getD 6 0)
      ((frame.header.encode ++ tail).getD 7 0) = 0 := by
    simp [Header.encode, Frame.header, magic, bigEndian, hvalid.flags, pumpReadUint16]
  have hnat : (UInt32.ofNat frame.payload.length).toNat = frame.payload.length := by
    rw [UInt32.toNat_ofNat', Nat.mod_eq_of_lt (by omega)]
  have hmax : ¬ UInt32.ofNat frame.payload.length > kMaxPacketSize := by
    rw [gt_iff_lt, UInt32.lt_iff_toNat_lt, hnat]
    exact Nat.not_lt.mpr hlen
  have hmin : UInt32.ofNat frame.payload.length < 20 ↔ frame.payload.length < 20 := by
    rw [UInt32.lt_iff_toNat_lt, hnat]
    rfl
  have height : UInt32.ofNat frame.payload.length = 8 ↔ frame.payload.length = 8 := by
    rw [← UInt32.toNat_inj, hnat]
    rfl
  have hne : FrameType.ipPacket ≠ FrameType.ping := by decide
  unfold pumpRejectsHeader PumpReads
  dsimp only
  rw [hsize, hseq, hmagic, hversion, htype, hflags]
  rw [Bool.eq_iff_iff]
  simp only [bne_self_eq_false, Bool.false_or, decide_eq_false hmax, Bool.or_eq_true,
    Bool.and_eq_true, beq_iff_eq, bne_iff_ne, decide_eq_true_eq, Bool.not_eq_true',
    hmin, height, Ne]
  show (frame.type = FrameType.ipPacket ∧ _ ∨ frame.type = FrameType.ping ∧ _) ∨
    ¬ frame.type = FrameType.ipPacket ∧ ¬ frame.type = FrameType.ping ↔ _
  by_cases hip : frame.type = FrameType.ipPacket
  · simp [hip, hne]
  · by_cases hping : frame.type = FrameType.ping <;> simp [hip, hping, hne.symm]

theorem pumpSocketToTunLoop_header (hvalid : frame.Valid) (harrived : arrived <+: frame.encode ++ bytes)
    (hlong : ¬ arrived.length < 16) : pumpSocketToTunLoop frame.sequence outcomes arrived =
      if ¬ PumpReads frame then { fault := some .badMessage }
      else if arrived.length < frame.encode.length then {}
      else
        let after := pumpSocketToTunLoop (pumpNextSequence frame.sequence) outcomes.tail
          (arrived.drop frame.encode.length)
        if frame.type = FrameType.ping then
          if outcomes.headD true then { after with answered := frame.payload :: after.answered }
          else { fault := some .reply }
        else if pumpRejectsPacket frame.payload then { fault := some .badMessage }
        else if outcomes.headD true then { after with written := frame.payload :: after.written }
        else { fault := some .write } := by
  obtain ⟨tail, rfl, htail⟩ := header_arrived harrived hlong
  have hlen : frame.encode.length = 16 + frame.payload.length := by
    simp [Frame.encode, headerSize]
  have htype : (frame.header.encode ++ tail).getD 5 0 = frame.type := rfl
  have hdrop : (frame.header.encode ++ tail).drop 16 = tail :=
    drop_left' (Header.length_encode _)
  rw [pumpSocketToTunLoop, if_neg hlong, pumpRejectsHeader_encode hvalid,
    pumpReadUint32_payloadLength, hvalid.payloadLength, htype, hdrop, hlen]
  by_cases hreads : PumpReads frame
  · simp only [hreads, decide_true, Bool.not_true, Bool.false_eq_true, if_false, not_true_eq_false]
    split
    · rfl
    next hwhole =>
      have hpayload : tail.take frame.payload.length = frame.payload := by
        obtain ⟨more, hmore⟩ := htail
        have hsize : frame.payload.length ≤ tail.length := by
          simpa [headerSize] using hwhole
        have htake := congrArg (List.take frame.payload.length) hmore
        rwa [take_append_of_le_length hsize, take_left] at htake
      rw [hpayload]
      rfl
  · simp [hreads]

/-- The packets that `PumpSocketToTun` writes to the TUN. -/
def pumpDelivers (packet : List UInt8) : Bool := 20 ≤ packet.length && !pumpRejectsPacket packet

/-- `PumpSocketToTun` writes a front of the packets that were sent and answers a front of the PINGs,
wherever the bytes that have arrived end and whatever becomes of its own calls. It rejects a
message only among frames that it is not to be sent. -/
theorem pumpSocketToTunLoop_front {frames : List Frame} {k : ℕ}
    (h : ∀ i frame, frames[i]? = some frame → frame.Valid ∧ frame.sequence = sequenceAt (k + i))
    (harrived : arrived <+: frames.flatMap Frame.encode) :
    (pumpSocketToTunLoop (sequenceAt k) outcomes arrived).written <+:
        payloadsOf FrameType.ipPacket frames ∧
      (pumpSocketToTunLoop (sequenceAt k) outcomes arrived).answered <+:
        payloadsOf FrameType.ping frames ∧
      ((pumpSocketToTunLoop (sequenceAt k) outcomes arrived).fault = some .badMessage →
        ∃ frame ∈ frames, ¬ PumpReads frame ∨
          frame.type = FrameType.ipPacket ∧ pumpRejectsPacket frame.payload = true) := by
  induction frames generalizing k arrived outcomes with
  | nil =>
    obtain rfl : arrived = [] := prefix_nil.mp harrived
    rw [pumpSocketToTunLoop, if_pos (by decide)]
    exact ⟨List.nil_prefix, List.nil_prefix, nofun⟩
  | cons frame frames ih =>
    obtain ⟨hvalid, hseq⟩ := h 0 frame rfl
    rw [Nat.add_zero] at hseq
    rw [flatMap_cons] at harrived
    by_cases hshort : arrived.length < 16
    · rw [pumpSocketToTunLoop, if_pos hshort]
      exact ⟨List.nil_prefix, List.nil_prefix, nofun⟩
    have hrest : arrived.drop frame.encode.length <+: frames.flatMap Frame.encode := by
      simpa using harrived.drop frame.encode.length
    obtain ⟨hwritten, hanswered, hfault⟩ := @ih _ outcomes.tail (k + 1) (fun i f hf => by
      rw [Nat.add_right_comm]
      exact h (i + 1) f hf) hrest
    rw [← pumpNextSequence_sequenceAt, ← hseq] at hwritten hanswered hfault
    rw [← hseq, pumpSocketToTunLoop_header hvalid harrived hshort]
    split
    next hreads =>
      exact ⟨List.nil_prefix, List.nil_prefix, fun _ => ⟨frame, by simp, .inl hreads⟩⟩
    next hreads =>
    rw [not_not] at hreads
    split
    · exact ⟨List.nil_prefix, List.nil_prefix, nofun⟩
    dsimp only
    have hlater : (∃ f ∈ frames, ¬ PumpReads f ∨
        f.type = FrameType.ipPacket ∧ pumpRejectsPacket f.payload = true) →
        ∃ f ∈ frame :: frames, ¬ PumpReads f ∨
          f.type = FrameType.ipPacket ∧ pumpRejectsPacket f.payload = true :=
      fun ⟨f, hf, hbad⟩ => ⟨f, mem_cons_of_mem _ hf, hbad⟩
    split
    next hping =>
      rw [payloadsOf_cons_self _ hping, payloadsOf_cons_ne _ (by rw [hping]; decide)]
      split
      · exact ⟨hwritten, (prefix_cons_inj _).mpr hanswered, hlater ∘ hfault⟩
      · exact ⟨List.nil_prefix, List.nil_prefix, nofun⟩
    next hping =>
      have hip : frame.type = FrameType.ipPacket :=
        hreads.elim And.left fun hother => absurd hother.1 hping
      rw [payloadsOf_cons_self _ hip, payloadsOf_cons_ne _ hping]
      split
      next hbad =>
        exact ⟨List.nil_prefix, List.nil_prefix, fun _ => ⟨frame, by simp, .inr ⟨hip, hbad⟩⟩⟩
      · split
        · exact ⟨(prefix_cons_inj _).mpr hwritten, hanswered, hlater ∘ hfault⟩
        · exact ⟨List.nil_prefix, List.nil_prefix, nofun⟩

/-- When all has arrived and its own calls succeed, `PumpSocketToTun` has written the packets up to
the first one that it rejects. -/
theorem pumpSocketToTunLoop_numbered {frames : List Frame} {k : ℕ}
    (h : ∀ i frame, frames[i]? = some frame → frame.Valid ∧ frame.sequence = sequenceAt (k + i))
    (htype : ∀ frame ∈ frames, frame.type = FrameType.ipPacket ∨
      frame.type = FrameType.ping ∧ frame.payload.length = 8) :
    (pumpSocketToTunLoop (sequenceAt k) [] (frames.flatMap Frame.encode)).written =
      (payloadsOf FrameType.ipPacket frames).takeWhile pumpDelivers := by
  induction frames generalizing k with
  | nil =>
    rw [pumpSocketToTunLoop, if_pos (by decide)]
    rfl
  | cons frame frames ih =>
    obtain ⟨hvalid, hseq⟩ := h 0 frame rfl
    rw [Nat.add_zero] at hseq
    have hrest := ih (k := k + 1) (fun i f hf => by
      rw [Nat.add_right_comm]
      exact h (i + 1) f hf) fun f hf => htype f (by simp [hf])
    have hlen : frame.encode.length = 16 + frame.payload.length := by
      simp [Frame.encode, headerSize]
    rw [← pumpNextSequence_sequenceAt, ← hseq] at hrest
    rw [flatMap_cons, ← hseq, pumpSocketToTunLoop_header hvalid (prefix_refl _)
      (by rw [length_append]; omega), drop_left]
    have hwhole : ¬ (frame.encode ++ frames.flatMap Frame.encode).length < frame.encode.length := by
      rw [length_append]
      omega
    rcases htype frame (by simp) with hip | ⟨hping, hsize⟩
    · have hping : frame.type ≠ FrameType.ping := by rw [hip]; decide
      rw [payloadsOf_cons_self _ hip, takeWhile_cons, ← hrest]
      by_cases hmin : 20 ≤ frame.payload.length
      · have hreads : PumpReads frame := .inl ⟨hip, hmin⟩
        rw [if_neg (not_not.mpr hreads), if_neg hwhole]
        cases hbad : pumpRejectsPacket frame.payload <;> simp [hping, hbad, pumpDelivers, hmin]
      · have hreads : ¬ PumpReads frame := by simp [PumpReads, hmin, hping]
        rw [if_pos hreads]
        simp [pumpDelivers, hmin]
    · have hreads : PumpReads frame := .inr ⟨hping, hsize⟩
      rw [payloadsOf_cons_ne _ (by rw [hping]; decide), if_neg (not_not.mpr hreads), if_neg hwhole]
      simpa [hping] using hrest

end Device

end HarmonyNetBridge.Harmony
