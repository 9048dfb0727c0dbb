import HarmonyNetBridge.Harmony.HnbProtocol

/-! Both codecs of HNB/1 write the same bytes and accept the same headers, and the decoder of the
app returns the frames of a stream however it is cut into chunks. -/
namespace HarmonyNetBridge.Harmony
open Bytes List

theorem isKnownType_iff (type : FrameType) :
    isKnownType type.toNat = true ↔ knownType type = true := by
  simp [isKnownType, hnbFrameTypes, knownType, FrameType.hello, FrameType.helloAck,
    FrameType.error, FrameType.stopRequest, FrameType.stopAck, FrameType.dataHello,
    FrameType.dataAck, FrameType.vpnStatus, FrameType.ipPacket, FrameType.ping, FrameType.pong,
    ← UInt8.toNat_inj]

theorem limit_eq (type : FrameType) :
    (if type.toNat = ipPacketType then hnbMaxPacketPayload else hnbMaxControlPayload) =
      (payloadLimit type).toNat := by
  have hiff : type.toNat = ipPacketType ↔ type = FrameType.ipPacket := by
    simp [← UInt8.toNat_inj, ipPacketType, FrameType.ipPacket]
  by_cases h : type = FrameType.ipPacket
  · rw [if_pos (hiff.mpr h), payloadLimit, if_pos h]
    rfl
  · rw [if_neg (mt hiff.mp h), payloadLimit, if_neg h]
    rfl

theorem validateFrame_ok_iff (h : Header) :
    validateFrame h.type.toNat h.flags.toNat h.sequence.toNat h.payloadLength.toNat = .ok () ↔
      h.Valid := by
  unfold validateFrame
  rw [limit_eq]
  have hflags : h.flags.toNat = 0 ↔ h.flags = 0 := by simp [← UInt16.toNat_inj]
  have hseq : h.sequence.toNat = 0 ↔ h.sequence = 0 := by simp [← UInt32.toNat_inj]
  constructor
  · intro hok
    by_cases h1 : isKnownType h.type.toNat = true
    · by_cases h2 : h.flags = 0
      · by_cases h3 : h.sequence = 0
        · simp [h1, h2, h3] at hok
        · by_cases h4 : h.payloadLength.toNat > (payloadLimit h.type).toNat
          · simp [h1, h2, hseq, h3, h4] at hok
          · exact ⟨(isKnownType_iff _).mp h1, h2, h3,
              UInt32.le_iff_toNat_le.mpr (Nat.not_lt.mp h4)⟩
      · simp [h1, hflags, h2] at hok
    · simp [h1] at hok
  · rintro ⟨h1, h2, h3, h4⟩
    have h5 := Nat.not_lt.mpr (UInt32.le_iff_toNat_le.mp h4)
    simp [(isKnownType_iff _).mpr h1, h2, hseq, h3, h5]

theorem writeUint16_eq (n : ℕ) : writeUint16 n = bigEndian 2 n := by
  simp [writeUint16, bigEndian, ← UInt8.toNat_inj]

theorem writeUint32_eq (n : ℕ) : writeUint32 n = bigEndian 4 n := by
  simp [writeUint32, bigEndian, ← UInt8.toNat_inj]

/-- The bytes of a frame are the same on both sides. -/
theorem encodeFrame_eq {frame : Frame} (hv : frame.Valid) :
    encodeFrame frame.type.toNat frame.sequence.toNat frame.payload = .ok frame.encode := by
  have hok := (validateFrame_ok_iff frame.header).mpr hv.header
  rw [hv.payloadLength] at hok
  have hflags : frame.header.flags.toNat = 0 := by simp [Frame.header, hv.flags]
  rw [hflags] at hok
  unfold encodeFrame
  rw [show validateFrame frame.type.toNat 0 frame.sequence.toNat frame.payload.length = .ok () from hok]
  simp only [Frame.encode, Header.encode, writeUint16_eq, writeUint32_eq, hv.payloadLength, hflags]
  simp [magic, hnbVersion, currentVersion, Frame.header]

def HnbHeader.ofHeader (h : Header) : HnbHeader :=
  ⟨h.type.toNat, h.flags.toNat, h.payloadLength.toNat, h.sequence.toNat⟩

section Headers

theorem headerAt_eq (pending : List UInt8) (offset : ℕ) :
    headerAt pending offset = headerAt ((pending.drop offset).take hnbHeaderSize) 0 := by
  have hbyte : ∀ i < 16,
      byteAt pending (offset + i) = byteAt ((pending.drop offset).take hnbHeaderSize) i := by
    intro i hi
    simp [byteAt, List.getElem?_drop, hnbHeaderSize, hi]
  have hfirst := hbyte 0 (by omega)
  rw [Nat.add_zero] at hfirst
  simp only [headerAt, validateMagicAndVersion, readUint16, readUint32, Nat.add_assoc, Nat.reduceAdd,
    Nat.zero_add, hfirst]
  simp (disch := omega) only [hbyte]

variable {bytes : List UInt8}

/-- Both sides take the same numbers from the 16 bytes. -/
theorem ofHeader_fields (hlen : bytes.length = hnbHeaderSize) :
    HnbHeader.ofHeader (.fields bytes) = ⟨byteAt bytes 5, readUint16 bytes 6, readUint32 bytes 8,
      readUint32 bytes 12⟩ := by
  match bytes, hlen with
  | [b0, b1, b2, b3, b4, b5, b6, b7, b8, b9, b10, b11, b12, b13, b14, b15], _ =>
    have hflags : value [b6, b7] % 2 ^ 16 = value [b6, b7] := value_mod (by norm_num)
    have hlength : value [b8, b9, b10, b11] % 2 ^ 32 = value [b8, b9, b10, b11] :=
      value_mod (by norm_num)
    have hseq : value [b12, b13, b14, b15] % 2 ^ 32 = value [b12, b13, b14, b15] :=
      value_mod (by norm_num)
    simp only [HnbHeader.ofHeader, Header.fields, drop_succ_cons, drop_zero,
      take_succ_cons, take_zero, UInt16.toNat_ofNat', UInt32.toNat_ofNat', hflags, hlength,
      hseq]
    simp [value, readUint16, readUint32, byteAt]
    omega

theorem validateMagicAndVersion_ok_iff (hlen : bytes.length = hnbHeaderSize) :
    validateMagicAndVersion bytes 0 = .ok () ↔
      bytes.take 4 = magic ∧ bytes.getD 4 0 = .ofNat currentVersion := by
  match bytes, hlen with
  | [b0, b1, b2, b3, b4, b5, b6, b7, b8, b9, b10, b11, b12, b13, b14, b15], _ =>
    have hmagic : [b0, b1, b2, b3] = magic ↔ ¬ (b0.toNat ≠ 0x48 ∨ b1.toNat ≠ 0x4E ∨
        b2.toNat ≠ 0x42 ∨ b3.toNat ≠ 0x31) := by
      simp [magic, ← UInt8.toNat_inj]
    have hversion : b4 = .ofNat currentVersion ↔ b4.toNat = hnbVersion := by
      simp [← UInt8.toNat_inj, currentVersion, hnbVersion]
    show (if b0.toNat ≠ 0x48 ∨ b1.toNat ≠ 0x4E ∨ b2.toNat ≠ 0x42 ∨ b3.toNat ≠ 0x31 then _
      else if b4.toNat ≠ hnbVersion then _ else _) = _ ↔
      [b0, b1, b2, b3] = magic ∧ b4 = .ofNat currentVersion
    rw [hmagic, hversion]
    split_ifs with h1 h2
    · simp [h1]
    · simp [h2]
    · exact ⟨fun _ => ⟨h1, not_not.mp h2⟩, fun _ => rfl⟩

/-- The app accepts the headers that the Mac accepts, with the same fields. -/
theorem headerAt_ok_iff (hlen : bytes.length = hnbHeaderSize) (h : HnbHeader) :
    headerAt bytes 0 = .ok h ↔ ∃ g, readHeader bytes = .ok g ∧ h = .ofHeader g := by
  have hread : headerAt bytes 0 = (do
      validateMagicAndVersion bytes 0
      validateFrame (Header.fields bytes).type.toNat (Header.fields bytes).flags.toNat
        (Header.fields bytes).sequence.toNat (Header.fields bytes).payloadLength.toNat
      return .ofHeader (.fields bytes)) := by
    have hfields := ofHeader_fields hlen
    rw [hfields]
    simp only [HnbHeader.ofHeader, HnbHeader.mk.injEq] at hfields
    rw [hfields.1, hfields.2.1, hfields.2.2.1, hfields.2.2.2]
    rfl
  have hchecks : (∃ g, readHeader bytes = .ok g ∧ h = .ofHeader g) ↔
      validateMagicAndVersion bytes 0 = .ok () ∧
        validateFrame (Header.fields bytes).type.toNat (Header.fields bytes).flags.toNat
          (Header.fields bytes).sequence.toNat (Header.fields bytes).payloadLength.toNat = .ok () ∧
        h = .ofHeader (.fields bytes) := by
    simp only [readHeader_ok_iff, validateMagicAndVersion_ok_iff hlen, validateFrame_ok_iff]
    constructor
    · rintro ⟨g, ⟨hmagic, hversion, hv, rfl⟩, rfl⟩
      exact ⟨⟨hmagic, hversion⟩, hv, rfl⟩
    · rintro ⟨⟨hmagic, hversion⟩, hv, rfl⟩
      exact ⟨_, ⟨hmagic, hversion, hv, rfl⟩, rfl⟩
  rw [hread, hchecks]
  cases validateMagicAndVersion bytes 0 with
  | error e => simp [bind, Except.bind]
  | ok u =>
    cases validateFrame (Header.fields bytes).type.toNat (Header.fields bytes).flags.toNat
      (Header.fields bytes).sequence.toNat (Header.fields bytes).payloadLength.toNat with
    | error e => simp [bind, Except.bind]
    | ok u => simp [bind, Except.bind, pure, Except.pure, eq_comm]

end Headers

/-- The loop body of `push` as a scanner of the bytes from the offset on. -/
def scanFrame (bytes : List UInt8) : Scan HnbFrame String :=
  if hnbHeaderSize ≤ bytes.length then
    match headerAt bytes 0 with
    | .error message => .fail message
    | .ok h =>
      if bytes.length < hnbHeaderSize + h.payloadLength then .more
      else .item ⟨h.type, h.flags, h.sequence, (bytes.drop hnbHeaderSize).take h.payloadLength⟩
        (hnbHeaderSize + h.payloadLength)
  else .more

theorem headerAt_append {bytes : List UInt8} (hsize : hnbHeaderSize ≤ bytes.length)
    (later : List UInt8) : headerAt (bytes ++ later) 0 = headerAt bytes 0 := by
  rw [headerAt_eq (bytes ++ later), headerAt_eq bytes, drop_zero, drop_zero,
    take_append_of_le_length hsize]

section Scanning
variable {bytes : List UInt8} {frame : HnbFrame} {h : HnbHeader} {size : ℕ} {message : String}

theorem scanFrame_short (hsize : bytes.length < hnbHeaderSize) : scanFrame bytes = .more := by
  rw [scanFrame, if_neg (Nat.not_le.mpr hsize)]

theorem scanFrame_rejected (hsize : hnbHeaderSize ≤ bytes.length)
    (hheader : headerAt bytes 0 = .error message) : scanFrame bytes = .fail message := by
  simp only [scanFrame, if_pos hsize, hheader]

theorem scanFrame_accepted (hsize : hnbHeaderSize ≤ bytes.length)
    (hheader : headerAt bytes 0 = .ok h) : scanFrame bytes =
      if bytes.length < hnbHeaderSize + h.payloadLength then .more
      else .item ⟨h.type, h.flags, h.sequence, (bytes.drop hnbHeaderSize).take h.payloadLength⟩
        (hnbHeaderSize + h.payloadLength) := by
  simp only [scanFrame, if_pos hsize, hheader]

theorem scanFrame_item (hitem : scanFrame bytes = .item frame size) :
    ∃ h, headerAt bytes 0 = .ok h ∧ hnbHeaderSize + h.payloadLength ≤ bytes.length ∧
      size = hnbHeaderSize + h.payloadLength ∧
      frame = ⟨h.type, h.flags, h.sequence, (bytes.drop hnbHeaderSize).take h.payloadLength⟩ := by
  unfold scanFrame at hitem
  split at hitem
  · split at hitem
    · cases hitem
    · split at hitem
      · cases hitem
      · cases hitem
        exact ⟨_, by assumption, by omega, rfl, rfl⟩
  · cases hitem

theorem scanFrame_fail (hfail : scanFrame bytes = .fail message) :
    hnbHeaderSize ≤ bytes.length ∧ headerAt bytes 0 = .error message := by
  unfold scanFrame at hfail
  split at hfail
  · split at hfail
    · cases hfail
      exact ⟨by assumption, by assumption⟩
    · split at hfail <;> cases hfail
  · cases hfail

end Scanning

def frameScanner : Scanner UInt8 HnbFrame String where
  scan := scanFrame
  item_size := by
    intro bytes frame size hitem
    obtain ⟨h, -, hle, rfl, -⟩ := scanFrame_item hitem
    exact ⟨by simp [hnbHeaderSize], hle⟩
  item_append := by
    intro bytes frame size later hitem
    obtain ⟨h, hheader, hle, rfl, rfl⟩ := scanFrame_item hitem
    have hsize : hnbHeaderSize ≤ bytes.length := by omega
    have hall : ¬ (bytes ++ later).length < hnbHeaderSize + h.payloadLength := by simp; omega
    have hpayload : h.payloadLength ≤ (bytes.drop hnbHeaderSize).length := by simp; omega
    rw [scanFrame_accepted (by simp; omega) ((headerAt_append hsize later).trans hheader),
      if_neg hall, drop_append_of_le_length hsize, take_append_of_le_length hpayload]
  fail_append := by
    intro bytes message later hfail
    obtain ⟨hsize, hheader⟩ := scanFrame_fail hfail
    exact scanFrame_rejected (by simp; omega) ((headerAt_append hsize later).trans hheader)

theorem frameScanner_scan : frameScanner.scan = scanFrame := rfl

theorem scan_nil : frameScanner.scan [] = .more := rfl

/-- The loop of `push` drains the scanner from its offset on. -/
theorem pushLoop_eq_drain (pending : List UInt8) (offset : ℕ) (frames : List HnbFrame) :
    match frameScanner.drain (pending.drop offset) with
    | .error message => pushLoop pending offset frames = .error message
    | .ok (found, rest) => ∃ last, pushLoop pending offset frames = .ok (frames ++ found, last) ∧
        pending.drop last = rest := by
  have hheader : ∀ offset, headerAt pending offset = headerAt (pending.drop offset) 0 := by
    intro offset
    rw [headerAt_eq pending, headerAt_eq (pending.drop offset), drop_zero]
  fun_induction pushLoop pending offset frames with
  | case1 offset frames hsize message herror =>
    have hscan : frameScanner.scan (pending.drop offset) = .fail message :=
      scanFrame_rejected (by simpa using hsize) ((hheader offset).symm.trans herror)
    rw [Scanner.drain_fail hscan]
  | case2 offset frames hsize h hok frameLength hshort =>
    have hscan : frameScanner.scan (pending.drop offset) = .more := by
      rw [frameScanner_scan, scanFrame_accepted (by simpa using hsize) (hheader offset ▸ hok),
        if_pos (by simpa using hshort)]
    rw [Scanner.drain_more hscan]
    exact ⟨offset, by simp, rfl⟩
  | case3 offset frames hsize h hok frameLength hlong payload ih =>
    have hscan : frameScanner.scan (pending.drop offset) =
        .item ⟨h.type, h.flags, h.sequence, payload⟩ frameLength := by
      rw [frameScanner_scan, scanFrame_accepted (by simpa using hsize) (hheader offset ▸ hok),
        if_neg (by simpa using hlong), drop_drop]
    rw [Scanner.drain_item hscan, drop_drop]
    cases hrest : frameScanner.drain (pending.drop (offset + frameLength)) with
    | error message =>
      rw [hrest] at ih
      exact ih
    | ok r =>
      rw [hrest] at ih
      obtain ⟨last, hloop, hlast⟩ := ih
      exact ⟨last, by simpa using hloop, hlast⟩
  | case4 offset frames hsize =>
    have hscan : frameScanner.scan (pending.drop offset) = .more :=
      scanFrame_short (by simpa using hsize)
    rw [Scanner.drain_more hscan]
    exact ⟨offset, by simp, rfl⟩

theorem push_eq_drain (decoder : HnbFrameDecoder) (chunk : List UInt8) :
    decoder.push chunk = match frameScanner.drain (decoder.pending ++ chunk) with
      | .error message => (.error message, ⟨decoder.pending ++ chunk⟩)
      | .ok (frames, rest) => (.ok frames, ⟨rest⟩) := by
  have hloop := pushLoop_eq_drain (decoder.pending ++ chunk) 0 []
  rw [drop_zero] at hloop
  cases hdrain : frameScanner.drain (decoder.pending ++ chunk) with
  | error message =>
    rw [hdrain] at hloop
    simp only [HnbFrameDecoder.push, hloop]
  | ok r =>
    rw [hdrain] at hloop
    obtain ⟨last, hloop, hlast⟩ := hloop
    simp only [HnbFrameDecoder.push, hloop, nil_append, ← hlast]
    cases last with
    | zero => simp
    | succ last => simp

theorem pushAll_of_feed {pending rest : List UInt8} {chunks : List (List UInt8)}
    {frames : List HnbFrame} (h : frameScanner.feed pending chunks = .ok (frames, rest)) :
    HnbFrameDecoder.pushAll ⟨pending⟩ chunks = .ok (frames, ⟨rest⟩) := by
  induction chunks generalizing pending frames with
  | nil =>
    cases h
    rfl
  | cons chunk chunks ih =>
    obtain ⟨first, left, later, hfirst, hlater, rfl⟩ := Scanner.feed_cons h
    simp only [HnbFrameDecoder.pushAll, push_eq_drain, hfirst, ih hlater, Except.map]

def HnbFrame.ofFrame (frame : Frame) : HnbFrame :=
  ⟨frame.type.toNat, frame.flags.toNat, frame.sequence.toNat, frame.payload⟩

theorem scan_encode {frame : Frame} (hv : frame.Valid) (rest : List UInt8) :
    frameScanner.scan (frame.encode ++ rest) = .item (.ofFrame frame) frame.encode.length := by
  have hsplit : frame.encode ++ rest = frame.header.encode ++ (frame.payload ++ rest) := by
    simp [Frame.encode]
  have hheader : headerAt (frame.encode ++ rest) 0 = .ok (.ofHeader frame.header) := by
    rw [headerAt_eq, drop_zero, hsplit, take_left' (by simp; rfl),
      headerAt_ok_iff (by simp; rfl)]
    exact ⟨frame.header, readHeader_encode hv.header, rfl⟩
  have hlength : (HnbHeader.ofHeader frame.header).payloadLength = frame.payload.length :=
    hv.payloadLength
  have hencode : frame.encode.length = hnbHeaderSize + frame.payload.length := by
    simp [Frame.encode]; rfl
  have hall : ¬ (frame.encode ++ rest).length <
      hnbHeaderSize + (HnbHeader.ofHeader frame.header).payloadLength := by
    simp [hencode, hlength]
  have hsize : hnbHeaderSize ≤ (frame.encode ++ rest).length := by
    rw [length_append, hencode, Nat.add_assoc]
    exact Nat.le_add_right _ _
  rw [frameScanner_scan, scanFrame_accepted hsize hheader, if_neg hall, hlength, hsplit,
    drop_left' (by simp; rfl), take_left' rfl, hencode]
  rfl

/-- A chunk that is one header makes `push` throw exactly when the Mac rejects the header. -/
theorem push_header_error_iff {header : List UInt8} (hlen : header.length = hnbHeaderSize) :
    (∃ message, (HnbFrameDecoder.push {} header).1 = .error message) ↔
      ∃ e, readHeader header = .error e := by
  rw [push_eq_drain, nil_append]
  cases hheader : headerAt header 0 with
  | error message =>
    have hscan : frameScanner.scan header = .fail message := scanFrame_rejected hlen.ge hheader
    rw [Scanner.drain_fail hscan]
    refine ⟨fun _ => ?_, fun _ => ⟨message, rfl⟩⟩
    cases hread : readHeader header with
    | error e => exact ⟨e, rfl⟩
    | ok g =>
      rw [(headerAt_ok_iff hlen _).mpr ⟨g, hread, rfl⟩] at hheader
      cases hheader
  | ok h =>
    obtain ⟨g, hread, rfl⟩ := (headerAt_ok_iff hlen h).mp hheader
    have hscan := scanFrame_accepted hlen.ge hheader
    have hdrain : ∃ r, frameScanner.drain header = .ok r := by
      split at hscan
      · exact ⟨_, Scanner.drain_more hscan⟩
      · have hnil : header.drop (hnbHeaderSize + (HnbHeader.ofHeader g).payloadLength) = [] :=
          drop_eq_nil_of_le (by omega)
        rw [Scanner.drain_item hscan, hnil, Scanner.drain_more scan_nil]
        exact ⟨_, rfl⟩
    obtain ⟨r, hdrain⟩ := hdrain
    simp [hdrain, hread]

/-- Both sides write the same bytes for a frame and reject the same headers. A stream of frames
that breaks off inside one more frame is decoded by the app to the whole frames, in whatever chunks
it arrives, with the unfinished frame pending. -/
theorem codecs_agree : (∀ frame : Frame, frame.Valid → (writeFrame [] frame).err = none ∧
      encodeFrame frame.type.toNat frame.sequence.toNat frame.payload =
        .ok (writeFrame [] frame).bytes) ∧
    (∀ (header rest : List UInt8) (reader : Reader), header.length = headerSize →
      Delivers reader (header ++ rest) →
        ((∃ e reader', readFrame reader = .error (.protocol e) reader') ↔
          ∃ message, (HnbFrameDecoder.push {} header).1 = .error message)) ∧
    (∀ (frames : List Frame) (next : Frame) (unfinished : List UInt8) (chunks : List (List UInt8)),
      (∀ frame ∈ frames, frame.Valid) → next.Valid → unfinished <+: next.encode →
      unfinished ≠ next.encode → chunks.flatten = frames.flatMap Frame.encode ++ unfinished →
        HnbFrameDecoder.pushAll {} chunks = .ok (frames.map .ofFrame, ⟨unfinished⟩) ∧
        unfinished.length < 16 + 65535) := by
  refine ⟨?_, ?_, ?_⟩
  · intro frame hv
    have hshort : ∀ o ∈ ([] : List WriteOutcome), o.Short := by simp
    obtain ⟨left, hwritten, -⟩ := writeFrame_short hshort hv
    rw [hwritten]
    exact ⟨rfl, encodeFrame_eq hv⟩
  · intro header rest reader hlen hdelivers
    rw [readFrame_protocol_iff hlen hdelivers, push_header_error_iff hlen]
  · intro frames next unfinished chunks hframes hnext hbefore hne hchunks
    obtain ⟨missing, hmissing⟩ := hbefore
    have hlt : unfinished.length < next.encode.length := by
      rw [← hmissing] at hne ⊢
      have hpos : missing ≠ [] := by simpa using hne
      simpa using length_pos_of_ne_nil hpos
    have htail : frameScanner.scan unfinished = .more := by
      have hscan := scan_encode hnext []
      rw [append_nil, ← hmissing] at hscan
      exact Scanner.scan_more_of_append hscan (by rw [hmissing]; exact hlt)
    have hdrain := Scanner.drain_encoded (fun frame hf => scan_encode (hframes frame hf)) htail
    rw [← hchunks] at hdrain
    refine ⟨pushAll_of_feed (Scanner.feed_eq_drain scan_nil hdrain), ?_⟩
    have hlimit : (payloadLimit next.type).toNat ≤ 65535 := by
      unfold payloadLimit
      split <;> decide
    have hlength := hnext.length
    simp only [Frame.encode, length_append, Header.length_encode, headerSize] at hlt
    omega

end HarmonyNetBridge.Harmony
