import HarmonyNetBridge.Protocol.Frame

/-! `ReadFrame` inverts `WriteFrame` in both directions, for every way the reader fragments the
stream and every short write of the writer. -/
namespace HarmonyNetBridge
open Bytes List

theorem bigEndian_uint16 (a b : UInt8) :
    bigEndian 2 (UInt16.ofNat (value [a, b])).toNat = [a, b] := by
  rw [UInt16.toNat_ofNat', value_mod (by norm_num)]
  exact bigEndian_value [a, b]

theorem bigEndian_uint32 (a b c d : UInt8) :
    bigEndian 4 (UInt32.ofNat (value [a, b, c, d])).toNat = [a, b, c, d] := by
  rw [UInt32.toNat_ofNat', value_mod (by norm_num)]
  exact bigEndian_value [a, b, c, d]

namespace Header

theorem validate_iff (h : Header) : h.validate = .ok () ↔ h.Valid := by
  unfold validate validateHeader validateLength
  constructor
  · intro hok
    by_cases hknown : knownType h.type = true
    · by_cases hflags : h.flags = 0
      · by_cases hseq : h.sequence = 0
        · simp [hknown, hflags, hseq] at hok
        · by_cases hlength : h.payloadLength > payloadLimit h.type
          · simp [hknown, hflags, hseq, hlength] at hok
          · exact ⟨hknown, hflags, hseq, UInt32.not_lt.mp hlength⟩
      · simp [hknown, hflags] at hok
    · simp [hknown] at hok
  · rintro ⟨hknown, hflags, hseq, hlength⟩
    simp [hknown, hflags, hseq, UInt32.not_lt.mpr hlength]

@[simp] theorem length_encode (h : Header) : h.encode.length = headerSize := by
  simp [encode, magic, headerSize]

theorem encode_magic (h : Header) : h.encode[0]? = some 0x48 := rfl

theorem encode_type (h : Header) : h.encode[5]? = some h.type := rfl

theorem fields_encode (h : Header) : fields h.encode = h := by
  have hflags : (h.encode.drop 6).take 2 = bigEndian 2 h.flags.toNat := rfl
  have hlength : (h.encode.drop 8).take 4 = bigEndian 4 h.payloadLength.toNat := rfl
  have hseq : (h.encode.drop 12).take 4 = bigEndian 4 h.sequence.toNat := rfl
  unfold fields
  rw [hflags, hlength, hseq, value_bigEndian_of_lt h.flags.toNat_lt,
    value_bigEndian_of_lt h.sequence.toNat_lt, value_bigEndian_of_lt h.payloadLength.toNat_lt,
    UInt16.ofNat_toNat, UInt32.ofNat_toNat, UInt32.ofNat_toNat]
  rfl

/-- The fields of 16 bytes with the right magic and version determine the bytes. -/
theorem encode_fields {bytes : List UInt8} (hlen : bytes.length = headerSize)
    (hmagic : bytes.take 4 = magic) (hversion : bytes.getD 4 0 = .ofNat currentVersion) :
    (fields bytes).encode = bytes := by
  match bytes, hlen with
  | [b0, b1, b2, b3, b4, b5, b6, b7, b8, b9, b10, b11, b12, b13, b14, b15], _ =>
    show magic ++ [UInt8.ofNat currentVersion, b5] ++
      bigEndian 2 (UInt16.ofNat (value [b6, b7])).toNat ++
      bigEndian 4 (UInt32.ofNat (value [b8, b9, b10, b11])).toNat ++
      bigEndian 4 (UInt32.ofNat (value [b12, b13, b14, b15])).toNat = _
    rw [bigEndian_uint16, bigEndian_uint32, bigEndian_uint32, ← hmagic, ← hversion]
    rfl

end Header

theorem readHeader_ok_iff (bytes : List UInt8) (h : Header) : readHeader bytes = .ok h ↔
    bytes.take 4 = magic ∧ bytes.getD 4 0 = .ofNat currentVersion ∧
      (Header.fields bytes).Valid ∧ h = Header.fields bytes := by
  rw [← Header.validate_iff]
  unfold readHeader
  by_cases hmagic : bytes.take 4 = magic
  · by_cases hversion : bytes.getD 4 0 = .ofNat currentVersion
    · rw [if_neg (not_not.mpr hmagic), if_neg (not_not.mpr hversion)]
      cases hvalid : (Header.fields bytes).validate with
      | error e => simp [hvalid, Except.map]
      | ok u =>
        simp only [hvalid, Except.map, Except.ok.injEq, hmagic, hversion, true_and]
        exact eq_comm
    · rw [if_neg (not_not.mpr hmagic), if_pos hversion]
      simp only [reduceCtorEq, hversion, false_and, and_false]
  · simp [hmagic]

theorem readHeader_encode {h : Header} (hv : h.Valid) : readHeader h.encode = .ok h := by
  rw [readHeader_ok_iff, Header.fields_encode]
  exact ⟨rfl, rfl, hv, rfl⟩

/-- A header that `ReadFrame` lets through is valid, and encodes to the bytes it was read from. -/
theorem readHeader_ok {bytes : List UInt8} {h : Header} (hlen : bytes.length = headerSize)
    (hread : readHeader bytes = .ok h) : h.Valid ∧ h.encode = bytes := by
  obtain ⟨hmagic, hversion, hv, rfl⟩ := (readHeader_ok_iff bytes h).mp hread
  exact ⟨hv, Header.encode_fields hlen hmagic hversion⟩

theorem Frame.Valid.header {frame : Frame} (hv : frame.Valid) : frame.header.Valid := by
  refine ⟨hv.known, hv.flags, hv.sequence, ?_⟩
  have hlt := (payloadLimit frame.type).toNat_lt
  have hle := hv.length
  rw [UInt32.le_iff_toNat_le]
  show (UInt32.ofNat frame.payload.length).toNat ≤ _
  rw [UInt32.toNat_ofNat', Nat.mod_eq_of_lt (by omega)]
  exact hle

theorem Frame.Valid.payloadLength {frame : Frame} (hv : frame.Valid) :
    frame.header.payloadLength.toNat = frame.payload.length := by
  have hlt := (payloadLimit frame.type).toNat_lt
  have hle := hv.length
  show (UInt32.ofNat frame.payload.length).toNat = _
  rw [UInt32.toNat_ofNat', Nat.mod_eq_of_lt (by omega)]

section Writing
variable {outcomes : List WriteOutcome}

theorem writeAll_short (h : ∀ o ∈ outcomes, o.Short) (payload : List UInt8) :
    ∃ rest, writeAll outcomes payload = ⟨payload, none, rest⟩ ∧ ∀ o ∈ rest, o.Short := by
  induction outcomes generalizing payload with
  | nil => cases payload <;> exact ⟨[], rfl, h⟩
  | cons o outcomes ih =>
    cases payload with
    | nil => exact ⟨o :: outcomes, rfl, h⟩
    | cons b payload =>
      obtain ⟨hpos, herr⟩ := h o (by simp)
      obtain ⟨rest, heq, hrest⟩ := ih (fun o ho => h o (by simp [ho]))
        ((b :: payload).drop ((b :: payload).take o.accepts).length)
      refine ⟨rest, ?_, hrest⟩
      have hne : ((b :: payload).take o.accepts).length ≠ 0 := by simp; omega
      have hsplit := prefix_iff_eq_append.mp (List.take_prefix o.accepts (b :: payload))
      simp only [writeAll, herr, if_neg hne, heq, hsplit]

/-- A frame that passes `validateFrame` is written, whatever the length of its payload. -/
theorem writeFrame_accepted (h : ∀ o ∈ outcomes, o.Short) {frame : Frame} (hv : frame.header.Valid) :
    ∃ rest, writeFrame outcomes frame = ⟨frame.encode, none, rest⟩ ∧ ∀ o ∈ rest, o.Short := by
  obtain ⟨rest, hhead, hrest⟩ := writeAll_short h frame.header.encode
  obtain ⟨last, hbody, hlast⟩ := writeAll_short hrest frame.payload
  refine ⟨last, ?_, hlast⟩
  have hvalid : validateFrame frame = .ok () := (Header.validate_iff _).mpr hv
  simp only [writeFrame, hvalid, hhead, hbody]
  rfl

theorem writeFrame_short (h : ∀ o ∈ outcomes, o.Short) {frame : Frame} (hv : frame.Valid) :
    ∃ rest, writeFrame outcomes frame = ⟨frame.encode, none, rest⟩ ∧ ∀ o ∈ rest, o.Short :=
  writeFrame_accepted h hv.header

theorem header_valid_of_writeFrame {frame : Frame} (h : (writeFrame outcomes frame).err = none) :
    frame.header.Valid := by
  apply (Header.validate_iff frame.header).mp
  cases hvalid : validateFrame frame with
  | error e => simp [writeFrame, hvalid] at h
  | ok u => exact hvalid

theorem writeFrames_short (h : ∀ o ∈ outcomes, o.Short) {frames : List Frame}
    (hv : ∀ frame ∈ frames, frame.Valid) :
    ∃ rest, writeFrames outcomes frames = ⟨frames.flatMap Frame.encode, none, rest⟩ := by
  induction frames generalizing outcomes with
  | nil => exact ⟨outcomes, rfl⟩
  | cons frame frames ih =>
    obtain ⟨rest, hhead, hrest⟩ := writeFrame_short h (hv frame (by simp))
    obtain ⟨last, htail⟩ := ih hrest fun f hf => hv f (by simp [hf])
    exact ⟨last, by simp [writeFrames, hhead, htail]⟩

end Writing

/-- The reader returns `bytes` in some fragments and then is at its end. The end may come with the
last bytes or after them. -/
inductive Delivers : Reader → List UInt8 → Prop
  | nil : Delivers [] []
  | last (bytes : List UInt8) : Delivers [⟨bytes, some .eof⟩] bytes
  | cons (bytes : List UInt8) {reader : Reader} {rest : List UInt8} :
      Delivers reader rest → Delivers (⟨bytes, none⟩ :: reader) (bytes ++ rest)

theorem Delivers.bytes_eq {reader : Reader} {bytes : List UInt8} (h : Delivers reader bytes) :
    reader.bytes = bytes := by
  induction h with
  | nil => rfl
  | last bytes => simp [Reader.bytes]
  | cons bytes _ ih => simpa [Reader.bytes] using ih

section Reading
variable {reader reader' : Reader} {bytes got : List UInt8} {size : ℕ}

theorem fill_delivers_full (h : Delivers reader bytes) (hfull : got.length = size) :
    ∃ reader', fill size got reader = .ok (got ++ bytes.take (size - got.length)) reader' ∧
      Delivers reader' (bytes.drop (size - got.length)) := by
  refine ⟨reader, ?_, by simpa [hfull] using h⟩
  cases reader with
  | nil => simp [fill, hfull]
  | cons f rest => simp [fill, hfull]

theorem fill_delivers (h : Delivers reader bytes) (hgot : got.length ≤ size)
    (hsize : size ≤ got.length + bytes.length) :
    ∃ reader', fill size got reader = .ok (got ++ bytes.take (size - got.length)) reader' ∧
      Delivers reader' (bytes.drop (size - got.length)) := by
  induction h generalizing got with
  | nil =>
    exact fill_delivers_full .nil (by simpa using le_antisymm hgot hsize)
  | last bytes =>
    rcases Nat.eq_or_lt_of_le hgot with hfull | hlt
    · exact fill_delivers_full (.last bytes) hfull
    · rcases Nat.lt_or_eq_of_le hsize with hpart | hall
      · exact ⟨_, by rw [fill, if_neg hlt.not_ge, if_pos hpart], .last _⟩
      · refine ⟨[], ?_, ?_⟩
        · rw [fill, if_neg hlt.not_ge, if_neg hall.not_lt]
          simp [hall]
        · simpa [hall] using Delivers.nil
  | @cons bytes reader rest hrest ih =>
    rcases Nat.eq_or_lt_of_le hgot with hfull | hlt
    · exact fill_delivers_full (.cons bytes hrest) hfull
    · rcases Nat.lt_or_ge size (got.length + bytes.length) with hpart | hwhole
      · have hle : size - got.length ≤ bytes.length := by omega
        refine ⟨_, by rw [fill, if_neg hlt.not_ge, if_pos hpart, take_append_of_le_length hle],
          ?_⟩
        rw [drop_append_of_le_length hle]
        exact .cons _ hrest
      · have hgot' : (got ++ bytes).length ≤ size := by simpa using hwhole
        have hsize' : size ≤ (got ++ bytes).length + rest.length := by
          simpa [Nat.add_assoc] using hsize
        obtain ⟨reader', hfill, hdelivers⟩ := ih hgot' hsize'
        have hsub : size - got.length = bytes.length + (size - (got ++ bytes).length) := by
          simp; omega
        refine ⟨reader', ?_, ?_⟩
        · rw [fill, if_neg hlt.not_ge, if_neg hwhole.not_gt, hsub, take_length_add_append]
          simpa using hfill
        · rw [hsub, drop_length_add_append]
          exact hdelivers

/-- Whatever errors the reader returns, a full buffer holds the bytes it gave up. -/
theorem fill_ok (hgot : got.length ≤ size) (h : fill size got reader = .ok bytes reader') :
    bytes.length = size ∧ got ++ reader.bytes = bytes ++ reader'.bytes := by
  induction reader generalizing got with
  | nil =>
    rw [fill] at h
    split at h
    · cases h
      exact ⟨by omega, rfl⟩
    · cases h
  | cons f rest ih =>
    rw [fill] at h
    split at h
    · cases h
      exact ⟨by omega, rfl⟩
    · split at h
      · cases h
        rename_i hlt
        refine ⟨by simp; omega, ?_⟩
        simp only [Reader.bytes, flatMap_cons, append_assoc, append_cancel_left_eq]
        rw [← append_assoc, take_append_drop]
      · rename_i hge
        split at h
        · have hgot' : (got ++ f.bytes).length ≤ size := by simpa using hge
          simpa [Reader.bytes] using ih hgot' h
        · split at h
          · rename_i heq
            cases h
            exact ⟨by simp [heq], by simp [Reader.bytes]⟩
          · cases h

theorem fill_error {e : FrameError} (h : fill size got reader = .error e reader') :
    ∃ e', e = .read e' := by
  induction reader generalizing got with
  | nil =>
    rw [fill] at h
    split at h <;> cases h
    exact ⟨_, rfl⟩
  | cons f rest ih =>
    rw [fill] at h
    split at h
    · cases h
    · split at h
      · cases h
      · split at h
        · exact ih h
        · split at h <;> cases h
          exact ⟨_, rfl⟩

theorem readFull_delivers (h : Delivers reader bytes) (hsize : size ≤ bytes.length) :
    ∃ reader', readFull size reader = .ok (bytes.take size) reader' ∧
      Delivers reader' (bytes.drop size) :=
  fill_delivers h (Nat.zero_le size) (by simpa using hsize)

theorem readFull_ok (h : readFull size reader = .ok bytes reader') :
    bytes.length = size ∧ reader.bytes = bytes ++ reader'.bytes :=
  fill_ok (Nat.zero_le size) h

theorem readFull_end (h : Delivers reader []) (hsize : 0 < size) :
    ∃ reader', readFull size reader = .error (.read .eof) reader' := by
  generalize hbytes : ([] : List UInt8) = bytes at h
  induction h with
  | nil => exact ⟨[], by simp [readFull, fill, ReadError.after, hsize.ne']⟩
  | last bytes =>
    subst hbytes
    exact ⟨[], by simp [readFull, fill, ReadError.after, hsize.ne']⟩
  | cons bytes _ ih =>
    obtain ⟨rfl, rfl⟩ := append_eq_nil_iff.mp hbytes.symm
    obtain ⟨reader', h⟩ := ih rfl
    exact ⟨reader', by simpa [readFull, fill, hsize.ne'] using h⟩

end Reading

section Frames
variable {reader reader' middle : Reader} {frame : Frame} {h : Header} {bytes rest : List UInt8}

theorem readFrame_accepted (hread : readFull headerSize reader = .ok bytes middle)
    (hheader : readHeader bytes = .ok h) : readFrame reader = readPayload h middle := by
  simp only [readFrame, bind, EStateM.bind, hread, hheader, liftProtocol, pure, EStateM.pure]

theorem readFrame_rejected {e : ProtocolError}
    (hread : readFull headerSize reader = .ok bytes middle)
    (hheader : readHeader bytes = .error e) : readFrame reader = .error (.protocol e) middle := by
  simp only [readFrame, bind, EStateM.bind, hread, hheader, liftProtocol]
  rfl

/-- A payload of the announced length passes the second validation. -/
theorem readPayload_of_readFull (hv : h.Valid)
    (hread : readFull h.payloadLength.toNat middle = .ok bytes reader') :
    readPayload h middle = .ok ⟨h.type, h.flags, h.sequence, bytes⟩ reader' := by
  have hlength : UInt32.ofNat bytes.length = h.payloadLength := by
    rw [(readFull_ok hread).1, UInt32.ofNat_toNat]
  have hvalid : validateFrame ⟨h.type, h.flags, h.sequence, bytes⟩ = .ok () := by
    unfold validateFrame
    rw [hlength]
    exact h.validate_iff.mpr hv
  simp only [readPayload, bind, EStateM.bind, hread, hvalid, liftProtocol, pure, EStateM.pure]

theorem readPayload_ok (hv : h.Valid) (hread : readPayload h middle = .ok frame reader') :
    frame.Valid ∧ frame.header = h ∧ middle.bytes = frame.payload ++ reader'.bytes := by
  cases hfull : readFull h.payloadLength.toNat middle with
  | error e r =>
    simp only [readPayload, bind, EStateM.bind, hfull] at hread
    cases hread
  | ok payload r =>
    rw [readPayload_of_readFull hv hfull] at hread
    cases hread
    obtain ⟨hlength, hbytes⟩ := readFull_ok hfull
    have hle := UInt32.le_iff_toNat_le.mp hv.length
    refine ⟨⟨hv.known, hv.flags, hv.sequence, hlength ▸ hle⟩, ?_, hbytes⟩
    simp [Frame.header, hlength]

theorem readFrame_encode (hv : frame.Valid) (h : Delivers reader (frame.encode ++ rest)) :
    ∃ reader', readFrame reader = .ok frame reader' ∧ Delivers reader' rest := by
  have hhead : headerSize ≤ (frame.encode ++ rest).length := by simp [Frame.encode]
  obtain ⟨middle, hread, hmiddle⟩ := readFull_delivers h hhead
  have hsplit : frame.encode ++ rest = frame.header.encode ++ (frame.payload ++ rest) := by
    simp [Frame.encode]
  rw [hsplit, take_left' (by simp)] at hread
  rw [hsplit, drop_left' (by simp)] at hmiddle
  have hbody : frame.header.payloadLength.toNat ≤ (frame.payload ++ rest).length := by
    simp [hv.payloadLength]
  obtain ⟨reader', hpayload, hrest⟩ := readFull_delivers hmiddle hbody
  rw [take_left' hv.payloadLength.symm] at hpayload
  rw [drop_left' hv.payloadLength.symm] at hrest
  refine ⟨reader', ?_, hrest⟩
  rw [readFrame_accepted hread (readHeader_encode hv.header)]
  exact readPayload_of_readFull hv.header hpayload

/-- Whatever the reader returns: a frame that `ReadFrame` returns is valid and its encoding is what
was consumed. -/
theorem readFrame_ok (hread : readFrame reader = .ok frame reader') :
    frame.Valid ∧ reader.bytes = frame.encode ++ reader'.bytes := by
  cases hfull : readFull headerSize reader with
  | error e r =>
    simp only [readFrame, bind, EStateM.bind, hfull] at hread
    cases hread
  | ok bytes middle =>
    obtain ⟨hlength, hbytes⟩ := readFull_ok hfull
    cases hheader : readHeader bytes with
    | error e =>
      rw [readFrame_rejected hfull hheader] at hread
      cases hread
    | ok h =>
      rw [readFrame_accepted hfull hheader] at hread
      obtain ⟨hv, hencode⟩ := readHeader_ok hlength hheader
      obtain ⟨hframe, rfl, hmiddle⟩ := readPayload_ok hv hread
      exact ⟨hframe, by rw [hbytes, ← hencode, hmiddle, Frame.encode, append_assoc]⟩

theorem readFrame_end (h : Delivers reader []) :
    ∃ reader', readFrame reader = .error (.read .eof) reader' := by
  have hsize : 0 < headerSize := by decide
  obtain ⟨reader', hread⟩ := readFull_end h hsize
  exact ⟨reader', by simp only [readFrame, bind, EStateM.bind, hread]⟩

theorem readFrames_encode {frames : List Frame} (hv : ∀ frame ∈ frames, frame.Valid)
    (h : Delivers reader (frames.flatMap Frame.encode ++ rest)) :
    ∃ reader', readFrames frames.length reader = .ok frames reader' ∧ Delivers reader' rest := by
  induction frames generalizing reader with
  | nil => exact ⟨reader, rfl, h⟩
  | cons frame frames ih =>
    rw [flatMap_cons, append_assoc] at h
    obtain ⟨middle, hframe, hmiddle⟩ := readFrame_encode (hv frame (by simp)) h
    obtain ⟨reader', hframes, hrest⟩ := ih (fun f hf => hv f (by simp [hf])) hmiddle
    refine ⟨reader', ?_, hrest⟩
    simp only [length_cons, readFrames, bind, EStateM.bind, hframe, hframes, pure,
      EStateM.pure]

theorem readFrames_ok {n : ℕ} {frames : List Frame} (hread : readFrames n reader = .ok frames reader') :
    (∀ frame ∈ frames, frame.Valid) ∧ reader.bytes = frames.flatMap Frame.encode ++ reader'.bytes := by
  induction n generalizing reader frames with
  | zero =>
    cases hread
    exact ⟨by simp, rfl⟩
  | succ n ih =>
    simp only [readFrames, bind, EStateM.bind] at hread
    cases hframe : readFrame reader with
    | error e r => simp [hframe] at hread
    | ok frame middle =>
      simp only [hframe] at hread
      cases hrest : readFrames n middle with
      | error e r => simp [hrest] at hread
      | ok rest last =>
        simp only [hrest, pure, EStateM.pure] at hread
        cases hread
        obtain ⟨hv, hbytes⟩ := readFrame_ok hframe
        obtain ⟨hvs, hmiddle⟩ := ih hrest
        refine ⟨forall_mem_cons.mpr ⟨hv, hvs⟩, ?_⟩
        rw [hbytes, hmiddle, flatMap_cons, append_assoc]

/-- No encoding is the beginning of another one. -/
theorem Frame.Valid.encode_inj {a b : Frame} {bytes bytes' : List UInt8} (ha : a.Valid)
    (hb : b.Valid) (h : a.encode ++ bytes = b.encode ++ bytes') : a = b ∧ bytes = bytes' := by
  have hreader : Delivers [⟨a.encode ++ bytes, none⟩] (a.encode ++ bytes) := by
    simpa using Delivers.cons (a.encode ++ bytes) .nil
  obtain ⟨reader₁, hread₁, -⟩ := readFrame_encode ha hreader
  obtain ⟨reader₂, hread₂, -⟩ := readFrame_encode hb (h ▸ hreader)
  obtain rfl : a = b := by
    rw [← h, hread₁] at hread₂
    injection hread₂
  exact ⟨rfl, append_cancel_left h⟩

theorem frames_prefix {read sent : List Frame} (hread : ∀ frame ∈ read, frame.Valid)
    (hsent : ∀ frame ∈ sent, frame.Valid)
    (h : read.flatMap Frame.encode <+: sent.flatMap Frame.encode) : read <+: sent := by
  induction read generalizing sent with
  | nil => exact List.nil_prefix
  | cons frame read ih =>
    obtain ⟨rest, hrest⟩ := h
    cases sent with
    | nil =>
      have hlength := congrArg List.length hrest
      simp [Frame.encode, headerSize] at hlength
    | cons first sent =>
      simp only [flatMap_cons, append_assoc] at hrest
      obtain ⟨rfl, htail⟩ := (hread frame (by simp)).encode_inj (hsent first (by simp)) hrest
      refine prefix_cons_inj frame |>.mpr ?_
      exact ih (fun f hf => hread f (by simp [hf])) (fun f hf => hsent f (by simp [hf])) ⟨rest, htail⟩

/-- A protocol error is an error about the header. -/
theorem readFrame_protocol_iff {header : List UInt8} (hlen : header.length = headerSize)
    (hdelivers : Delivers reader (header ++ rest)) :
    (∃ e reader', readFrame reader = .error (.protocol e) reader') ↔
      ∃ e, readHeader header = .error e := by
  have hsize : headerSize ≤ (header ++ rest).length := by simp [hlen]
  obtain ⟨middle, hread, -⟩ := readFull_delivers hdelivers hsize
  rw [take_left' hlen] at hread
  cases hheader : readHeader header with
  | error e => exact ⟨fun _ => ⟨e, rfl⟩, fun _ => ⟨e, middle, readFrame_rejected hread hheader⟩⟩
  | ok h =>
    refine ⟨?_, fun ⟨e, he⟩ => by cases he⟩
    rintro ⟨e, reader', hframe⟩
    rw [readFrame_accepted hread hheader] at hframe
    cases hpayload : readFull h.payloadLength.toNat middle with
    | error e' r =>
      obtain ⟨e'', rfl⟩ := fill_error hpayload
      simp only [readPayload, bind, EStateM.bind, hpayload] at hframe
      cases hframe
    | ok payload r =>
      rw [readPayload_of_readFull (readHeader_ok hlen hheader).1 hpayload] at hframe
      cases hframe

end Frames

def IsHeader (bytes : List UInt8) : Prop :=
  ∃ frame : Frame, frame.Valid ∧ frame.header.encode = bytes

/-- `ReadFrame` lets exactly the headers of valid frames through. -/
theorem readHeader_isOk_iff {bytes : List UInt8} (hlen : bytes.length = headerSize) :
    (∃ h, readHeader bytes = .ok h) ↔ IsHeader bytes := by
  constructor
  · rintro ⟨h, hread⟩
    obtain ⟨hv, hencode⟩ := readHeader_ok hlen hread
    have hle := UInt32.le_iff_toNat_le.mp hv.length
    let frame : Frame := ⟨h.type, h.flags, h.sequence, List.replicate h.payloadLength.toNat 0⟩
    refine ⟨frame, ⟨hv.known, hv.flags, hv.sequence, by simpa [frame] using hle⟩, ?_⟩
    rw [← hencode]
    simp [frame, Frame.header]
  · rintro ⟨frame, hv, rfl⟩
    exact ⟨frame.header, readHeader_encode hv.header⟩

/-- Frames written with any short writes are read back from any fragments, and the stream is then
at its end; a frame that was read is written as the bytes consumed; 16 bytes that are no header are
all that a failing `ReadFrame` consumes. -/
theorem codec_roundTrip :
    (∀ (frames : List Frame) (outcomes : List WriteOutcome), (∀ frame ∈ frames, frame.Valid) →
      (∀ o ∈ outcomes, o.Short) → (writeFrames outcomes frames).err = none ∧
      ∀ reader, Delivers reader (writeFrames outcomes frames).bytes →
        ∃ reader' reader'', readFrames frames.length reader = .ok frames reader' ∧
          reader'.bytes = [] ∧ readFrame reader' = .error (.read .eof) reader'') ∧
    (∀ (reader reader' : Reader) (frame : Frame), readFrame reader = .ok frame reader' →
      ∀ outcomes : List WriteOutcome, (∀ o ∈ outcomes, o.Short) →
        (writeFrame outcomes frame).err = none ∧
        reader.bytes = (writeFrame outcomes frame).bytes ++ reader'.bytes) ∧
    (∀ (reader : Reader) (bytes : List UInt8), Delivers reader bytes →
      headerSize ≤ bytes.length → ¬ IsHeader (bytes.take headerSize) →
        ∃ e reader', readFrame reader = .error (.protocol e) reader' ∧
          Delivers reader' (bytes.drop headerSize)) := by
  refine ⟨?_, ?_, ?_⟩
  · intro frames outcomes hv hshort
    obtain ⟨left, hwritten⟩ := writeFrames_short hshort hv
    rw [hwritten]
    refine ⟨rfl, fun reader hdelivers => ?_⟩
    have hframes : Delivers reader (frames.flatMap Frame.encode ++ []) := by
      simpa using hdelivers
    obtain ⟨reader', hread, hrest⟩ := readFrames_encode hv hframes
    obtain ⟨reader'', hend⟩ := readFrame_end hrest
    exact ⟨reader', reader'', hread, hrest.bytes_eq, hend⟩
  · intro reader reader' frame hread outcomes hshort
    obtain ⟨hv, hbytes⟩ := readFrame_ok hread
    obtain ⟨left, hwritten, -⟩ := writeFrame_short hshort hv
    rw [hwritten]
    exact ⟨rfl, hbytes⟩
  · intro reader bytes hdelivers hsize hheader
    obtain ⟨reader', hread, hrest⟩ := readFull_delivers hdelivers hsize
    cases hparsed : readHeader (bytes.take headerSize) with
    | error e => exact ⟨_, reader', readFrame_rejected hread hparsed, hrest⟩
    | ok h => exact absurd ((readHeader_isOk_iff (by simpa using hsize)).mp ⟨h, hparsed⟩) hheader

/-- A PING in three fragments, the last with the end of the stream. -/
example : readFrame [⟨[0x48, 0x4E, 0x42, 0x31, 1, 0x30, 0, 0, 0], none⟩, ⟨[], none⟩,
      ⟨[0, 0, 2, 0, 0, 0, 7, 10, 20], some .eof⟩] =
    .ok ⟨FrameType.ping, 0, 7, [10, 20]⟩ [] := rfl

/-- A frame that is written has a payload within the limit of its type, and in its header the number
of its bytes, just when the length of the payload fits into the field. -/
theorem writeFrame_length_iff (outcomes : List WriteOutcome) (frame : Frame)
    (hshort : ∀ o ∈ outcomes, o.Short) (hok : (writeFrame outcomes frame).err = none) :
    (frame.payload.length ≤ (payloadLimit frame.type).toNat ∧
      (Header.fields ((writeFrame outcomes frame).bytes.take headerSize)).payloadLength.toNat =
        ((writeFrame outcomes frame).bytes.drop headerSize).length) ↔
      frame.payload.length < 2 ^ 32 := by
  have hvalid := header_valid_of_writeFrame hok
  obtain ⟨rest, hwritten, -⟩ := writeFrame_accepted hshort hvalid
  have hfield : frame.header.payloadLength.toNat = frame.payload.length % 2 ^ 32 :=
    UInt32.toNat_ofNat'
  have hlimit := UInt32.le_iff_toNat_le.mp hvalid.length
  rw [hfield] at hlimit
  have hsize := Header.length_encode frame.header
  rw [hwritten, Frame.encode, take_left' hsize, drop_left' hsize, Header.fields_encode, hfield]
  constructor
  · rintro ⟨-, hlength⟩
    omega
  · intro hlt
    rw [Nat.mod_eq_of_lt hlt] at hlimit ⊢
    exact ⟨hlimit, rfl⟩

theorem writeFrame_length_ping :
    (writeFrame [⟨9, none⟩] ⟨FrameType.ping, 0, 7, [10, 20]⟩).err = none ∧
      (Header.fields ((writeFrame [⟨9, none⟩] ⟨FrameType.ping, 0, 7, [10, 20]⟩).bytes.take
        headerSize)).payloadLength.toNat =
      ((writeFrame [⟨9, none⟩] ⟨FrameType.ping, 0, 7, [10, 20]⟩).bytes.drop headerSize).length := by
  have hshort : ∀ o ∈ [(⟨9, none⟩ : WriteOutcome)], o.Short := by
    intro o ho
    rw [mem_singleton.mp ho]
    exact ⟨by decide, rfl⟩
  exact ⟨rfl, ((writeFrame_length_iff _ ⟨FrameType.ping, 0, 7, [10, 20]⟩ hshort rfl).mpr
    (by decide)).2⟩

/-- A PING with a payload of 4 GiB: the length that is checked and written is zero. -/
theorem writeFrame_wraps : let frame : Frame := ⟨FrameType.ping, 0, 1, List.replicate (2 ^ 32) 0⟩
    (writeFrame [] frame).err = none ∧
      (payloadLimit frame.type).toNat < frame.payload.length ∧
      (Header.fields ((writeFrame [] frame).bytes.take headerSize)).payloadLength = 0 ∧
      ((writeFrame [] frame).bytes.drop headerSize).length = 2 ^ 32 := by
  intro frame
  have hlength : frame.payload.length = 2 ^ 32 := length_replicate
  have hfield : frame.header.payloadLength = 0 := by
    change UInt32.ofNat frame.payload.length = 0
    rw [hlength]
    rfl
  have hvalid : frame.header.Valid := by
    refine ⟨rfl, rfl, by decide, ?_⟩
    rw [hfield]
    decide
  have hshort : ∀ o ∈ ([] : List WriteOutcome), o.Short := forall_mem_nil _
  obtain ⟨rest, hwritten, -⟩ := writeFrame_accepted hshort hvalid
  have hsize := Header.length_encode frame.header
  rw [hwritten, Frame.encode, take_left' hsize, drop_left' hsize, Header.fields_encode, hlength]
  exact ⟨rfl, by decide, hfield, rfl⟩

end HarmonyNetBridge
