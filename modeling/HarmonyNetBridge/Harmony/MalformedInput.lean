import HarmonyNetBridge.Harmony.FrameAgreement

/-! What the decoder of the app does with a stream that breaks: which frames it has returned when
it throws, and that it goes on throwing until it is reset. -/
namespace HarmonyNetBridge.Harmony
open Bytes List

/-- Calls of `push` up to the first that throws: the frames they returned, and what was thrown. The
frames that the throwing call had found are lost with it. -/
def HnbFrameDecoder.pushUntilThrow : HnbFrameDecoder → List (List UInt8) →
    List HnbFrame × Option String
  | _, [] => ([], none)
  | decoder, chunk :: chunks =>
    match decoder.push chunk with
    | (.error message, _) => ([], some message)
    | (.ok frames, decoder) =>
      let later := decoder.pushUntilThrow chunks
      (frames ++ later.1, later.2)

theorem pushUntilThrow_eq_deliver (pending : List UInt8) (chunks : List (List UInt8)) :
    HnbFrameDecoder.pushUntilThrow ⟨pending⟩ chunks = frameScanner.deliver pending chunks := by
  induction chunks generalizing pending with
  | nil => rfl
  | cons chunk chunks ih =>
    rw [HnbFrameDecoder.pushUntilThrow, Scanner.deliver, push_eq_drain]
    cases frameScanner.drain (pending ++ chunk) with
    | error message => rfl
    | ok r => simp only [ih]

/-- The bytes begin with a whole header that `ReadFrame` rejects. -/
def Malformed (bytes : List UInt8) : Prop :=
  headerSize ≤ bytes.length ∧ ∃ e, readHeader (bytes.take headerSize) = .error e

section Streams
variable {bytes : List UInt8} {frame : HnbFrame} {frames : List Frame} {size : ℕ}
  {chunks : List (List UInt8)}

theorem headerAt_front_ok_iff (hsize : headerSize ≤ bytes.length) (h : HnbHeader) :
    headerAt bytes 0 = .ok h ↔ ∃ g, readHeader (bytes.take headerSize) = .ok g ∧ h = .ofHeader g := by
  have hlen : (bytes.take headerSize).length = hnbHeaderSize := length_take_of_le hsize
  rw [headerAt_eq, drop_zero]
  exact headerAt_ok_iff hlen h

/-- The app rejects the headers that the Mac rejects. -/
theorem headerAt_front_error_iff (hsize : headerSize ≤ bytes.length) :
    (∃ message, headerAt bytes 0 = .error message) ↔
      ∃ e, readHeader (bytes.take headerSize) = .error e := by
  have hok := headerAt_front_ok_iff hsize
  cases hheader : headerAt bytes 0 with
  | ok h =>
    obtain ⟨g, hread, -⟩ := (hok h).mp hheader
    simp [hread]
  | error message =>
    cases hread : readHeader (bytes.take headerSize) with
    | error e => simp
    | ok g =>
      rw [(hok _).mpr ⟨g, hread, rfl⟩] at hheader
      cases hheader

/-- The app throws at the sixteenth byte of a malformed header. -/
theorem Malformed.failsAt (h : Malformed bytes) :
    ∃ message, frameScanner.FailsAt bytes hnbHeaderSize message := by
  obtain ⟨message, hheader⟩ := (headerAt_front_error_iff h.1).mpr h.2
  refine ⟨message, fun hfront hlt => scanFrame_short hlt, ?_⟩
  rintro front ⟨rest, rfl⟩ hle
  rw [headerAt_append hle] at hheader
  exact scanFrame_rejected hle hheader

theorem malformed_of_fail {message : String} (h : frameScanner.scan bytes = .fail message) :
    Malformed bytes := by
  obtain ⟨hsize, hheader⟩ := scanFrame_fail h
  exact ⟨hsize, (headerAt_front_error_iff hsize).mp ⟨message, hheader⟩⟩

/-- A frame that the app finds is a valid frame of the Mac, encoded at the front of the bytes. -/
theorem scan_item_encode (h : frameScanner.scan bytes = .item frame size) :
    ∃ f : Frame, f.Valid ∧ f.encode = bytes.take size := by
  obtain ⟨g, hheader, hle, rfl, rfl⟩ := scanFrame_item h
  have hsize : headerSize ≤ bytes.length := le_trans (Nat.le_add_right _ _) hle
  obtain ⟨g, hread, rfl⟩ := (headerAt_front_ok_iff hsize g).mp hheader
  obtain ⟨hv, hencode⟩ := readHeader_ok (length_take_of_le hsize) hread
  have hlimit := UInt32.le_iff_toNat_le.mp hv.length
  have hpayload : ((bytes.drop headerSize).take g.payloadLength.toNat).length =
      g.payloadLength.toNat := by
    have hle' : headerSize + g.payloadLength.toNat ≤ bytes.length := hle
    rw [length_take, length_drop, Nat.min_eq_left (by omega)]
  let f : Frame := ⟨g.type, g.flags, g.sequence,
    (bytes.drop headerSize).take g.payloadLength.toNat⟩
  have hheader : f.header = g := by
    simp only [f, Frame.header, hpayload, UInt32.ofNat_toNat]
  refine ⟨f, ⟨hv.known, hv.flags, hv.sequence, hpayload.trans_le hlimit⟩, ?_⟩
  rw [Frame.encode, hheader, hencode]
  exact take_add.symm

/-- A stream that the decoder cannot drain consists of valid frames and a malformed header. -/
theorem broken_of_drain {message : String} (h : frameScanner.drain bytes = .error message) :
    ∃ (frames : List Frame) (bad : List UInt8), (∀ f ∈ frames, f.Valid) ∧ Malformed bad ∧
      bytes = frames.flatMap Frame.encode ++ bad := by
  induction hlen : bytes.length using Nat.strongRecOn generalizing bytes with
  | ind n ih =>
    cases hscan : frameScanner.scan bytes with
    | more =>
      rw [Scanner.drain_more hscan] at h
      cases h
    | fail e => exact ⟨[], bytes, by simp, malformed_of_fail hscan, rfl⟩
    | item frame size =>
      obtain ⟨hpos, hle⟩ := frameScanner.item_size hscan
      obtain ⟨f, hf, hencode⟩ := scan_item_encode hscan
      have hrest : frameScanner.drain (bytes.drop size) = .error message := by
        rw [Scanner.drain_item hscan] at h
        cases hdrain : frameScanner.drain (bytes.drop size) with
        | error e => simpa [hdrain, Except.map] using h
        | ok r => simp [hdrain, Except.map] at h
      obtain ⟨frames, bad, hframes, hbad, hsplit⟩ :=
        ih _ (by rw [length_drop]; omega) hrest rfl
      refine ⟨f :: frames, bad, forall_mem_cons.mpr ⟨hf, hframes⟩, hbad, ?_⟩
      rw [flatMap_cons, append_assoc, ← hsplit, hencode, take_append_drop]

/-- Valid frames and a malformed header, in whatever chunks: `push` throws, and the frames have all
been returned before exactly if a chunk ended behind the last of them and inside the header. -/
theorem pushUntilThrow_broken {bad : List UInt8} (hframes : ∀ f ∈ frames, f.Valid)
    (hbad : Malformed bad) (hstream : chunks.flatten = frames.flatMap Frame.encode ++ bad) :
    (∃ message, (HnbFrameDecoder.pushUntilThrow {} chunks).2 = some message) ∧
      ((HnbFrameDecoder.pushUntilThrow {} chunks).1 = frames.map .ofFrame ↔ ∃ k,
        (frames.flatMap Frame.encode).length ≤ (chunks.take k).flatten.length ∧
        (chunks.take k).flatten.length < (frames.flatMap Frame.encode).length + headerSize) := by
  obtain ⟨message, hfails⟩ := hbad.failsAt
  rw [pushUntilThrow_eq_deliver]
  obtain ⟨hthrown, hall⟩ := Scanner.deliver_broken (fun f hf => scan_encode (hframes f hf)) hfails
    hbad.1 scan_nil hstream
  simp only [length_nil, Nat.zero_add] at hall
  exact ⟨⟨message, hthrown⟩, hall⟩

end Streams

/-- `push` throws on exactly the streams in which valid frames are followed by a malformed header.
The frames returned by then are all of these frames exactly if some chunk ended between the last of
them and the sixteenth byte of the header; the frames that came in the same chunk as the end of the
header are lost. The reader of the Mac returns all of them, in whatever fragments it reads. -/
theorem pushUntilThrow_frames_iff (chunks : List (List UInt8)) :
    ((∃ message, (HnbFrameDecoder.pushUntilThrow {} chunks).2 = some message) ↔
      ∃ (frames : List Frame) (bad : List UInt8), (∀ f ∈ frames, f.Valid) ∧ Malformed bad ∧
        chunks.flatten = frames.flatMap Frame.encode ++ bad) ∧
    ∀ (frames : List Frame) (bad : List UInt8), (∀ f ∈ frames, f.Valid) → Malformed bad →
      chunks.flatten = frames.flatMap Frame.encode ++ bad →
      ((HnbFrameDecoder.pushUntilThrow {} chunks).1 = frames.map .ofFrame ↔ ∃ k,
        (frames.flatMap Frame.encode).length ≤ (chunks.take k).flatten.length ∧
        (chunks.take k).flatten.length < (frames.flatMap Frame.encode).length + headerSize) ∧
      ∀ reader, Delivers reader chunks.flatten → ∃ reader' e reader'',
        readFrames frames.length reader = .ok frames reader' ∧
        readFrame reader' = .error (.protocol e) reader'' := by
  refine ⟨⟨?_, ?_⟩, ?_⟩
  · rintro ⟨message, hthrown⟩
    rw [pushUntilThrow_eq_deliver] at hthrown
    obtain ⟨e, hdrain⟩ := Scanner.drain_of_deliver hthrown
    exact broken_of_drain hdrain
  · rintro ⟨frames, bad, hframes, hbad, hstream⟩
    exact (pushUntilThrow_broken hframes hbad hstream).1
  · intro frames bad hframes hbad hstream
    refine ⟨(pushUntilThrow_broken hframes hbad hstream).2, fun reader hreader => ?_⟩
    rw [hstream] at hreader
    obtain ⟨reader', hread, hrest⟩ := readFrames_encode hframes hreader
    rw [← take_append_drop headerSize bad] at hrest
    obtain ⟨e, reader'', hrejected⟩ :=
      (readFrame_protocol_iff (length_take_of_le hbad.1) hrest).mpr hbad.2
    exact ⟨reader', e, reader'', hread, hrejected⟩

def stopRequestFrame : Frame := ⟨FrameType.stopRequest, 0, 1, [0x7B, 0x7D]⟩

theorem stopRequestFrame_valid : stopRequestFrame.Valid :=
  ⟨by decide, rfl, by decide, by decide⟩

theorem malformed_zeros : Malformed (List.replicate 16 0) := ⟨by decide, _, rfl⟩

/-- A STOP_REQUEST followed by sixteen zero bytes: returned when they come in a chunk of their own,
lost when they come in the same chunk. -/
theorem stopRequest_swallowed :
    (HnbFrameDecoder.pushUntilThrow {} [stopRequestFrame.encode, List.replicate 16 0]).1 =
      [.ofFrame stopRequestFrame] ∧
    (HnbFrameDecoder.pushUntilThrow {} [stopRequestFrame.encode ++ List.replicate 16 0]).1 = [] := by
  have hframes : ∀ f ∈ [stopRequestFrame], f.Valid := by simp [stopRequestFrame_valid]
  have hlength : stopRequestFrame.encode.length = 18 := rfl
  constructor
  · refine (pushUntilThrow_broken hframes malformed_zeros (by simp)).2.mpr ⟨1, ?_, ?_⟩
    · simp
    · simp [headerSize]
  · obtain ⟨message, hfails⟩ := malformed_zeros.failsAt
    have hstream : [] ++ (stopRequestFrame.encode ++ List.replicate 16 0) ++ [] =
        [stopRequestFrame].flatMap Frame.encode ++ List.replicate 16 0 := by simp
    have hdrain := Scanner.drain_broken (fun f hf => scan_encode (hframes f hf)) hfails hstream
      (by simp [hlength, hnbHeaderSize])
    rw [pushUntilThrow_eq_deliver, Scanner.deliver, hdrain]

def HnbFrameDecoder.reset (_ : HnbFrameDecoder) : HnbFrameDecoder := ⟨[]⟩

inductive DecoderCall where
  | push (chunk : List UInt8)
  | reset
  deriving DecidableEq, Repr

/-- What a call returns or throws, and the decoder afterwards. A `reset` returns no frames. -/
def HnbFrameDecoder.call (decoder : HnbFrameDecoder) :
    DecoderCall → Except String (List HnbFrame) × HnbFrameDecoder
  | .push chunk => decoder.push chunk
  | .reset => (.ok [], decoder.reset)

/-- What the calls return or throw, one after another. The caller may go on after a throw. -/
def HnbFrameDecoder.results : HnbFrameDecoder → List DecoderCall →
    List (Except String (List HnbFrame))
  | _, [] => []
  | decoder, call :: calls => (decoder.call call).1 :: (decoder.call call).2.results calls

variable {decoder : HnbFrameDecoder}

theorem push_error {chunk : List UInt8} {message : String}
    (h : (decoder.push chunk).1 = .error message) :
    frameScanner.drain (decoder.push chunk).2.pending = .error message := by
  rw [push_eq_drain] at h ⊢
  cases hdrain : frameScanner.drain (decoder.pending ++ chunk) with
  | error e =>
    rw [hdrain] at h
    cases h
    exact hdrain
  | ok r =>
    rw [hdrain] at h
    cases h

theorem push_of_broken {message : String} (h : frameScanner.drain decoder.pending = .error message)
    (chunk : List UInt8) : (decoder.push chunk).1 = .error message := by
  rw [push_eq_drain, Scanner.drain_error_append h]

/-- With what made a `push` throw still pending, every `push` up to the next `reset` throws. -/
theorem results_of_broken {message : String} {calls : List DecoderCall} {chunk : List UInt8} {j : ℕ}
    (h : frameScanner.drain decoder.pending = .error message)
    (hpush : calls[j]? = some (.push chunk)) (hreset : ∀ k < j, calls[k]? ≠ some .reset) :
    (decoder.results calls)[j]? = some (.error message) := by
  induction calls generalizing decoder j with
  | nil => cases hpush
  | cons call calls ih =>
    cases j with
    | zero =>
      obtain rfl : call = .push chunk := by simpa using hpush
      simp [HnbFrameDecoder.results, HnbFrameDecoder.call, push_of_broken h]
    | succ j =>
      cases call with
      | reset => exact absurd rfl (hreset 0 (Nat.succ_pos j))
      | push chunk' =>
        exact ih (push_error (push_of_broken h chunk')) hpush fun k hk =>
          hreset (k + 1) (Nat.succ_lt_succ hk)

/-- Once a `push` has thrown, every later `push` throws the same error until `reset` is called. -/
theorem push_throws_until_reset {decoder : HnbFrameDecoder} {calls : List DecoderCall}
    {message : String} {chunk : List UInt8} {i j : ℕ}
    (hthrown : (decoder.results calls)[i]? = some (.error message)) (hlt : i < j)
    (hpush : calls[j]? = some (.push chunk))
    (hreset : ∀ k, i < k → k < j → calls[k]? ≠ some .reset) :
    (decoder.results calls)[j]? = some (.error message) := by
  induction calls generalizing decoder i j with
  | nil => cases hthrown
  | cons call calls ih =>
    obtain ⟨j, rfl⟩ := Nat.exists_eq_add_one_of_ne_zero (Nat.ne_zero_of_lt hlt)
    cases i with
    | succ i =>
      exact ih hthrown (Nat.lt_of_succ_lt_succ hlt) hpush fun k hi hk =>
        hreset (k + 1) (Nat.succ_lt_succ hi) (Nat.succ_lt_succ hk)
    | zero =>
      cases call with
      | reset => cases hthrown
      | push chunk' =>
        have herror : (decoder.push chunk').1 = .error message := by
          simpa [HnbFrameDecoder.results, HnbFrameDecoder.call] using hthrown
        change ((decoder.push chunk').2.results calls)[j]? = some (.error message)
        exact results_of_broken (push_error herror) hpush fun k hk =>
          hreset (k + 1) (Nat.succ_pos k) (Nat.succ_lt_succ hk)

/-- Sixteen zero bytes, and then a good frame that is not returned. -/
theorem push_throws_until_reset_frame : ∃ message, (HnbFrameDecoder.results {}
      [.push (List.replicate 16 0), .push stopRequestFrame.encode])[1]? = some (.error message) := by
  obtain ⟨message, hfails⟩ := malformed_zeros.failsAt
  have hthrown : (HnbFrameDecoder.push {} (List.replicate 16 0)).1 = .error message := by
    rw [push_eq_drain, Scanner.drain_fail]
    exact hfails.after prefix_rfl (by simp [hnbHeaderSize])
  refine ⟨message, push_throws_until_reset (i := 0) ?_ Nat.zero_lt_one rfl (by omega)⟩
  simpa [HnbFrameDecoder.results, HnbFrameDecoder.call] using hthrown

end HarmonyNetBridge.Harmony
