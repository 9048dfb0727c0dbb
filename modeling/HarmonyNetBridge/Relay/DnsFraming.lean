import HarmonyNetBridge.Harmony.DnsMessage
import HarmonyNetBridge.Protocol.RoundTrip
import HarmonyNetBridge.Relay.SystemDNS

/-! DNS over TCP on both sides: what the relay and the app write is read back by the relay from any
fragments and by the decoder of the app from any chunks. -/
namespace HarmonyNetBridge.Relay
open Bytes Harmony List

/-- `writeDNSFrame` on a writer that takes whatever it is given and has `written` so far. -/
def writeDNSFrameTo (written payload : List UInt8) : Except String (List UInt8) :=
  if payload.length < 12 ∨ payload.length > 65535 then .error "DNS TCP response length is invalid"
  else .ok (written ++ bigEndian 2 payload.length ++ payload)

/-- The result does not depend on what has been written, and is that on a connection. -/
theorem writeDNSFrame_eq {conn : Conn} (hconn : ∀ bytes, (conn.write bytes).2 = none)
    (written payload : List UInt8) :
    writeDNSFrame conn payload = (writeDNSFrameTo written payload).map fun _ => () := by
  unfold writeDNSFrame writeDNSFrameTo
  split
  · rfl
  · simp only [hconn]
    rfl

inductive DnsReadError where
  | read (error : FrameError)
  | invalid (text : String)
  deriving DecidableEq, Repr

/-- `readDNSFrame` on a reader that returns the stream in fragments. -/
def readDNSFrameFrom : EStateM DnsReadError Reader (List UInt8) := do
  let lengthBytes ← EStateM.adaptExcept .read (HarmonyNetBridge.readFull 2)
  let length := value lengthBytes
  if length < 12 then throw (.invalid "DNS TCP frame is shorter than a DNS header")
  else EStateM.adaptExcept .read (HarmonyNetBridge.readFull length)

def readDNSFramesFrom : ℕ → EStateM DnsReadError Reader (List (List UInt8))
  | 0 => return []
  | n + 1 => do
    let payload ← readDNSFrameFrom
    let payloads ← readDNSFramesFrom n
    return payload :: payloads

section reading
variable {reader reader' : Reader} {message rest bytes : List UInt8} {n : ℕ}

theorem readDNSFrameFrom_short {lengthBytes : List UInt8}
    (hread : HarmonyNetBridge.readFull 2 reader = .ok lengthBytes reader')
    (hlen : value lengthBytes < 12) : ∃ e, readDNSFrameFrom reader = .error e reader' := by
  refine ⟨.invalid "DNS TCP frame is shorter than a DNS header", ?_⟩
  simp only [readDNSFrameFrom, bind, EStateM.bind, EStateM.adaptExcept, hread, if_pos hlen]
  rfl

theorem readDNSFrameFrom_long {lengthBytes : List UInt8}
    (hread : HarmonyNetBridge.readFull 2 reader = .ok lengthBytes reader')
    (hlen : ¬ value lengthBytes < 12) : readDNSFrameFrom reader =
      EStateM.adaptExcept .read (HarmonyNetBridge.readFull (value lengthBytes)) reader' := by
  have hadapt : EStateM.adaptExcept DnsReadError.read (HarmonyNetBridge.readFull 2) reader =
      .ok lengthBytes reader' := by rw [EStateM.adaptExcept, hread]
  simp only [readDNSFrameFrom, bind, EStateM.bind, hadapt, if_neg hlen]

/-- A buffer larger than what the reader has to give is not filled. -/
theorem readFull_exceeds (h : Delivers reader bytes) (hsize : bytes.length < n) :
    ∃ e reader', HarmonyNetBridge.readFull n reader = .error e reader' := by
  cases hread : HarmonyNetBridge.readFull n reader with
  | error e reader' => exact ⟨e, reader', rfl⟩
  | ok got reader' =>
    obtain ⟨hgot, hbytes⟩ := readFull_ok hread
    rw [h.bytes_eq] at hbytes
    have hlen := congrArg List.length hbytes
    rw [length_append] at hlen
    omega

/-- The two readings of one stream, at once and in fragments, return the same message. -/
theorem readDNSFrame_iff {conn : Conn} (hconn : conn.incoming = .ok bytes)
    (hreader : Delivers reader bytes) : readDNSFrame conn = .ok message ↔
      ∃ reader', readDNSFrameFrom reader = .ok message reader' := by
  unfold readDNSFrame
  rw [hconn]
  simp only [bind, Except.bind, readFull]
  by_cases htwo : 2 ≤ bytes.length
  · obtain ⟨middle, hread, hmiddle⟩ := readFull_delivers hreader htwo
    rw [if_pos htwo]
    by_cases hlen : value (bytes.take 2) < 12
    · obtain ⟨e, hshort⟩ := readDNSFrameFrom_short hread hlen
      simp [hshort, hlen, throw, throwThe, MonadExceptOf.throw]
    · rw [readDNSFrameFrom_long hread hlen]
      simp only [if_neg hlen, pure, Except.pure]
      by_cases hrest : value (bytes.take 2) ≤ (bytes.drop 2).length
      · obtain ⟨last, hpayload, -⟩ := readFull_delivers hmiddle hrest
        simp only [EStateM.adaptExcept, hpayload, if_pos hrest]
        simp
      · obtain ⟨e, last, hpayload⟩ := readFull_exceeds hmiddle (Nat.lt_of_not_ge hrest)
        simp only [EStateM.adaptExcept, hpayload, if_neg hrest]
        split_ifs <;> simp
  · obtain ⟨e, middle, hread⟩ := readFull_exceeds hreader (Nat.lt_of_not_ge htwo)
    simp only [readDNSFrameFrom, bind, EStateM.bind, EStateM.adaptExcept, hread, if_neg htwo]
    split_ifs <;> simp

theorem readDNSFrameFrom_frame (h : Framable message)
    (hreader : Delivers reader (dnsFrame message ++ rest)) :
    ∃ reader', readDNSFrameFrom reader = .ok message reader' ∧ Delivers reader' rest := by
  have hheader : 12 ≤ message.length := h.header
  have hshort := h.short
  have hvalue : value (bigEndian 2 message.length) = message.length :=
    value_bigEndian_of_lt (by omega)
  rw [dnsFrame, append_assoc] at hreader
  have htwo : 2 ≤ (bigEndian 2 message.length ++ (message ++ rest)).length := by simp
  obtain ⟨middle, hread, hmiddle⟩ := readFull_delivers hreader htwo
  rw [take_left' (length_bigEndian 2 _)] at hread
  rw [drop_left' (length_bigEndian 2 _)] at hmiddle
  rw [readDNSFrameFrom_long hread (by omega), hvalue]
  have hall : message.length ≤ (message ++ rest).length := by simp
  obtain ⟨last, hpayload, hlast⟩ := readFull_delivers hmiddle hall
  rw [take_left' rfl] at hpayload
  rw [drop_left' rfl] at hlast
  exact ⟨last, by rw [EStateM.adaptExcept, hpayload], hlast⟩

theorem readDNSFramesFrom_frames {messages : List (List UInt8)}
    (h : ∀ message ∈ messages, Framable message)
    (hreader : Delivers reader (messages.flatMap dnsFrame)) :
    ∃ reader', readDNSFramesFrom messages.length reader = .ok messages reader' := by
  induction messages generalizing reader with
  | nil => exact ⟨reader, rfl⟩
  | cons message messages ih =>
    rw [flatMap_cons] at hreader
    obtain ⟨middle, hmessage, hmiddle⟩ := readDNSFrameFrom_frame (h message (by simp)) hreader
    obtain ⟨last, hmessages⟩ := ih (fun m hm => h m (by simp [hm])) hmiddle
    refine ⟨last, ?_⟩
    simp only [length_cons, readDNSFramesFrom, bind, EStateM.bind, hmessage, hmessages, pure,
      EStateM.pure]

end reading

theorem writeDNSFrameTo_eq {message : List UInt8} (h : Framable message) (written : List UInt8) :
    writeDNSFrameTo written message = .ok (written ++ dnsFrame message) := by
  have hheader : 12 ≤ message.length := h.header
  have hshort := h.short
  rw [writeDNSFrameTo, if_neg (by omega), dnsFrame, append_assoc]

theorem writeDNSFrames_eq {messages : List (List UInt8)} (h : ∀ message ∈ messages, Framable message)
    (written : List UInt8) :
    messages.foldlM writeDNSFrameTo written = .ok (written ++ messages.flatMap dnsFrame) := by
  induction messages generalizing written with
  | nil => simp [pure, Except.pure]
  | cons message messages ih =>
    rw [foldlM_cons, writeDNSFrameTo_eq (h message (by simp))]
    show messages.foldlM writeDNSFrameTo (written ++ dnsFrame message) = _
    rw [ih (fun m hm => h m (by simp [hm])), flatMap_cons, append_assoc]

theorem frameDnsOverTcp_each {messages : List (List UInt8)}
    (h : ∀ message ∈ messages, Framable message) :
    messages.mapM frameDnsOverTcp = .ok (messages.map dnsFrame) := by
  induction messages with
  | nil => rfl
  | cons message messages ih =>
    rw [mapM_cons, frameDnsOverTcp_eq (h message (by simp)), ih fun m hm => h m (by simp [hm])]
    rfl

/-- A message of 12 to 65535 bytes that the relay has framed, with anything behind it, in whatever
chunks: the decoder of the app returns nothing until the chunk that completes it and then the
message. Any list of such messages, framed one after another by the relay or by the app, is read
back by the relay from any fragments. -/
theorem dnsFraming_agrees :
    (∀ message, Framable message → ∃ frame, writeDNSFrameTo [] message = .ok frame ∧
      ∀ (rest : List UInt8) (chunks : List (List UInt8)), chunks.flatten = frame ++ rest →
        DnsTcpResponseDecoder.pushes {} chunks = (List.range chunks.length).map fun i => .ok
          (if (chunks.take (i + 1)).flatten.length < frame.length then none else some message)) ∧
    (∀ messages : List (List UInt8), (∀ message ∈ messages, Framable message) →
      ∃ (stream : List UInt8) (frames : List (List UInt8)),
        messages.foldlM writeDNSFrameTo [] = .ok stream ∧
        messages.mapM frameDnsOverTcp = .ok frames ∧
        ∀ reader, Delivers reader stream ∨ Delivers reader frames.flatten →
          ∃ reader', readDNSFramesFrom messages.length reader = .ok messages reader') := by
  constructor
  · intro message h
    refine ⟨dnsFrame message, writeDNSFrameTo_eq h [], fun rest chunks hstream => ?_⟩
    rw [DnsTcpResponseDecoder.pushes_eq h {} hstream]
    simp
  · intro messages h
    refine ⟨_, _, writeDNSFrames_eq h [], frameDnsOverTcp_each h, fun reader hreader => ?_⟩
    have hframes : Delivers reader (messages.flatMap dnsFrame) := by
      simpa [flatMap_def] using hreader
    exact readDNSFramesFrom_frames h hframes

end HarmonyNetBridge.Relay
