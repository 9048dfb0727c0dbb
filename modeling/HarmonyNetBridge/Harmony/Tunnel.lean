import HarmonyNetBridge.Harmony.TunnelEnds

/-! The data connection as a system: the packet pump of the app and the goroutines of the Mac send to
each other over two byte streams that may be cut anywhere. -/
namespace HarmonyNetBridge.Harmony
open Bytes Transition Daemon Relay List Function

section Streams

theorem flatMap_alone {τ : Type} {f : τ → List UInt8} {writers : List τ} {t : τ}
    (hmem : t ∈ writers) (hnodup : writers.Nodup) (hother : ∀ t' ≠ t, f t' = []) :
    writers.flatMap f = f t := by
  induction writers with
  | nil => cases hmem
  | cons first rest ih =>
    obtain ⟨hfirst, hrest⟩ := nodup_cons.mp hnodup
    rw [flatMap_cons]
    by_cases ht : first = t
    · subst ht
      have hnil : rest.flatMap f = [] := by
        rw [flatMap_eq_nil_iff]
        intro t' ht'
        exact hother t' fun heq => hfirst (heq ▸ ht')
      rw [hnil, append_nil]
    · rw [hother first ht, nil_append]
      exact ih ((mem_cons.mp hmem).resolve_left (Ne.symm ht)) hrest

/-- The bytes are `first` and the frames after it, with the sequences of their places. All of them
are frames that the sender sends: the packets `packets`, in their order, and between them the
payloads `others` in frames of type `type`. -/
structure Carries (first : Frame) (type : FrameType) (sends : Frame → Prop) (bytes : List UInt8)
    (packets others : List (List UInt8)) (frames : List Frame) : Prop where
  numbered : Numbered (first :: frames)
  bytes : bytes = (first :: frames).flatMap Frame.encode
  packets : payloadsOf FrameType.ipPacket frames = packets
  others : payloadsOf type frames = others
  sent : ∀ frame ∈ frames, sends frame

variable {first frame : Frame} {type : FrameType} {sends : Frame → Prop} {bytes : List UInt8}
  {packets others : List (List UInt8)} {frames : List Frame}

theorem Carries.snoc (h : Carries first type sends bytes packets others frames) (hvalid : frame.Valid)
    (hseq : frame.sequence = sequenceAt (frames.length + 1)) (hsends : sends frame) :
    Carries first type sends (bytes ++ frame.encode)
      (packets ++ payloadsOf FrameType.ipPacket [frame]) (others ++ payloadsOf type [frame])
      (frames ++ [frame]) where
  numbered := h.numbered.snoc hvalid hseq
  bytes := by simp [h.bytes]
  packets := by rw [payloadsOf_append, h.packets]
  others := by rw [payloadsOf_append, h.others]
  sent := by
    intro f hf
    rcases mem_append.mp hf with hf | hf
    · exact h.sent f hf
    · rw [mem_singleton.mp hf]
      exact hsends

/-- The bytes of frames determine them. -/
theorem Carries.unique {sent : List Frame} (h : Carries first type sends bytes packets others frames)
    (hsent : Numbered sent) (hbytes : bytes = sent.flatMap Frame.encode) : sent = first :: frames := by
  have hsame : sent.flatMap Frame.encode = (first :: frames).flatMap Frame.encode :=
    hbytes.symm.trans h.bytes
  have hle : sent <+: first :: frames :=
    frames_prefix hsent.valid h.numbered.valid (hsame ▸ prefix_refl _)
  have hge : first :: frames <+: sent :=
    frames_prefix h.numbered.valid hsent.valid (hsame ▸ prefix_refl _)
  exact hle.eq_of_length_le hge.length_le

/-- What is on the wire is the beginning of a stream that carries a front of what was to be sent. -/
def Fronts (first : Frame) (type : FrameType) (sends : Frame → Prop) (wire : List UInt8)
    (packets others : List (List UInt8)) : Prop :=
  ∃ bytes frames begun begun', Carries first type sends bytes begun begun' frames ∧ wire <+: bytes ∧
    begun <+: packets ∧ begun' <+: others

theorem Carries.fronts {wire rest : List UInt8}
    (h : Carries first type sends (wire ++ rest) packets others frames) :
    Fronts first type sends wire packets others :=
  ⟨_, _, _, _, h, prefix_append _ _, prefix_refl _, prefix_refl _⟩

theorem Fronts.grow {wire : List UInt8} (h : Fronts first type sends wire packets others)
    (more more' : List (List UInt8)) :
    Fronts first type sends wire (packets ++ more) (others ++ more') := by
  obtain ⟨bytes, frames, begun, begun', hcarries, hwire, hpackets, hothers⟩ := h
  exact ⟨bytes, frames, begun, begun', hcarries, hwire, hpackets.trans (prefix_append _ _),
    hothers.trans (prefix_append _ _)⟩

end Streams

section Pump

def PumpPlace.unsent : PumpPlace → List UInt8
  | .sending rest => rest.flatten
  | _ => []

/-- The bytes that `WriteAll` has yet to send. -/
def Pump.unsent (p : Pump) : List UInt8 :=
  [PumpThread.connector, .tunToSocket, .socketToTun].flatMap fun t => (p.places t).unsent

/-- The frames of the pump after DATA_HELLO. -/
def PumpSends (frame : Frame) : Prop :=
  (frame.type = FrameType.ipPacket ∧ frame.payload ≠ [] ∧
    totalLength frame.payload = frame.payload.length) ∨ frame.type = FrameType.pong

/-- What `PumpTunToSocket` passes to `SendFrame` in a step. -/
def PumpEvent.forwards : PumpEvent → List (List UInt8)
  | .packet bytes => (pumpTunToSocket bytes).toList
  | _ => []

/-- The PING that `PumpSocketToTun` answers in a step. -/
def PumpEvent.answers : PumpEvent → List (List UInt8)
  | .ping payload => [payload]
  | _ => []

variable {token : List UInt8} {p p' : Pump} {e : PumpEvent} {t : PumpThread}
  {forwarded answered : List (List UInt8)} {frames : List Frame}

theorem PumpPlace.unsent_eq_nil {place : PumpPlace} (h : ∀ rest, place ≠ .sending rest) :
    place.unsent = [] := by
  cases place with
  | sending rest => exact absurd rfl (h rest)
  | off | looping | awaiting | returned => rfl

theorem Pump.unsent_eq_nil (h : ∀ t rest, p.places t ≠ .sending rest) : p.unsent = [] := by
  rw [Pump.unsent, flatMap_eq_nil_iff]
  exact fun t _ => PumpPlace.unsent_eq_nil (h t)

theorem Pump.unsent_eq {rest : List (List UInt8)} (pc : p.places t = .sending rest)
    (quiet : ∀ t' ≠ t, ∀ rest, p.places t' ≠ .sending rest) : p.unsent = rest.flatten := by
  have hmem : t ∈ [PumpThread.connector, .tunToSocket, .socketToTun] := by cases t <;> decide
  rw [Pump.unsent, flatMap_alone hmem (by decide) fun t' ht => PumpPlace.unsent_eq_nil (quiet t' ht),
    pc]
  rfl

theorem Pump.unsent_goto {place : PumpPlace} (hpc : (p.places t).unsent = [])
    (hplace : place.unsent = []) : (p.goto t place).unsent = p.unsent := by
  have hpoint (t' : PumpThread) : ((p.goto t place).places t').unsent = (p.places t').unsent := by
    by_cases ht : t' = t
    · subst ht
      simp [Pump.goto, hplace, hpc]
    · simp [Pump.goto, update_of_ne ht]
  simp only [Pump.unsent, hpoint]

theorem Pump.advance_wire (p : Pump) (t : PumpThread) (rest : List (List UInt8)) :
    (p.advance t rest).wire = p.wire := by
  cases rest with
  | cons => rfl
  | nil =>
    unfold Pump.advance
    dsimp only
    split <;> rfl

theorem Pump.advance_places (p : Pump) (t : PumpThread) (rest : List (List UInt8)) :
    ∃ place, (p.advance t rest).places = update p.places t place ∧
      place.unsent = rest.flatten := by
  cases rest with
  | cons next others => exact ⟨_, rfl, rfl⟩
  | nil =>
    unfold Pump.advance
    dsimp only
    split
    · exact ⟨.awaiting, rfl, rfl⟩
    · exact ⟨.looping, rfl, rfl⟩

namespace PumpTraffic

theorem alone {rest : List (List UInt8)} (h : PumpTraffic token p)
    (pc : p.places t = .sending rest) : ∀ t' ≠ t, ∀ rest, p.places t' ≠ .sending rest := by
  cases h with
  | opening _ first second =>
    cases t with
    | connector =>
      intro t' ht rest
      cases t' with
      | connector => exact absurd rfl ht
      | tunToSocket => simp [first]
      | socketToTun => simp [second]
    | tunToSocket => simp [first] at pc
    | socketToTun => simp [second] at pc
  | free _ _ _ _ quiet => exact absurd pc (quiet _ _)
  | @busy _ t₀ _ _ _ _ _ _ _ _ _ _ quiet =>
    have ht : t = t₀ := by
      by_contra hne
      exact quiet t hne _ pc
    rw [ht]
    exact quiet

theorem send_whole {n : ℕ} (h : PumpTraffic token p) (hstep : PumpStep p (.send t n) p') :
    p'.wire ++ p'.unsent = p.wire ++ p.unsent := by
  cases hstep with
  | @send _ buffer rest pc _ _ _ _ =>
    have halone := h.alone pc
    obtain ⟨place, hplaces, hunsent⟩ := Pump.advance_places
      { p with wire := p.wire ++ buffer.take n } t (remaining buffer rest n)
    have hafter : ({ p with wire := p.wire ++ buffer.take n }.advance t
        (remaining buffer rest n)).unsent = (remaining buffer rest n).flatten := by
      have hmem : t ∈ [PumpThread.connector, .tunToSocket, .socketToTun] := by cases t <;> decide
      rw [Pump.unsent, hplaces, flatMap_alone hmem (by decide), update_self, hunsent]
      intro t' ht
      rw [update_of_ne ht]
      exact PumpPlace.unsent_eq_nil (halone t' ht)
    rw [hafter, Pump.advance_wire, Pump.unsent_eq pc halone, append_assoc,
      flatten_remaining buffer rest n]

theorem begin_whole (type : FrameType) (payload : List UInt8) {sends : Frame → Prop}
    (h : PumpTraffic token p) (worker : t ≠ .connector) (pc : p.places t = .looping)
    (free : p.writeMutex = none)
    (hcarries : Carries (dataHello token) FrameType.pong sends (p.wire ++ p.unsent) forwarded answered
      frames) :
    p.outgoingSequence = sequenceAt (frames.length + 1) ∧
      (p.sendFrame t type payload).wire ++ (p.sendFrame t type payload).unsent =
        p.wire ++ p.unsent ++ Frame.encode ⟨type, 0, p.outgoingSequence, payload⟩ := by
  cases h with
  | opening _ first second =>
    cases t with
    | connector => exact absurd rfl worker
    | tunToSocket => simp [first] at pc
    | socketToTun => simp [second] at pc
  | busy _ _ _ _ _ lock => simp [lock] at free
  | @free sent numbered wire _ sequence quiet started =>
    have hquiet : p.unsent = [] := Pump.unsent_eq_nil quiet
    have hsent : sent = dataHello token :: frames :=
      hcarries.unique numbered (by rw [hquiet, append_nil, wire])
    have hsending : (p.sendFrame t type payload).places t = .sending
        (buffers (makeHeader type (.ofNat payload.length) p.outgoingSequence) payload) := by simp
    have hunsent := Pump.unsent_eq hsending fun t' ht rest => by
      simpa [update_of_ne ht] using quiet t' rest
    have hframe := flatten_buffers ⟨type, 0, p.outgoingSequence, payload⟩ rfl
    refine ⟨by rw [sequence, hsent]; rfl, ?_⟩
    rw [hunsent, hquiet, append_nil]
    exact congrArg (p.wire ++ ·) hframe

theorem packet_sends {packet payload : List UInt8} (h : pumpTunToSocket packet = some payload)
    {sequence : UInt32} (hseq : sequence ≠ 0) : Frame.Valid ⟨kTypeIPPacket, 0, sequence, payload⟩ ∧
      PumpSends ⟨kTypeIPPacket, 0, sequence, payload⟩ := by
  obtain ⟨-, hmin, hmax, hpayload⟩ := pumpTunToSocket_eq_some h
  have hfour : 4 ≤ totalLength packet := by omega
  have hlen : payload.length = totalLength packet := by
    rw [hpayload, length_take]
    omega
  refine ⟨⟨rfl, rfl, hseq, forwarded_length h⟩, .inl ⟨rfl, ?_, ?_⟩⟩
  · rw [← length_pos_iff, hlen]
    omega
  · rw [hlen, hpayload]
    exact (take_fields packet hfour).2.2

/-- A step without a failing `send` carries the packet or the PONG that begins in it. -/
theorem carries (h : PumpTraffic token p) (hstep : PumpStep p e p') (he : e.succeeds = true)
    (hcarries : Carries (dataHello token) FrameType.pong PumpSends (p.wire ++ p.unsent) forwarded
      answered frames) :
    ∃ frames', Carries (dataHello token) FrameType.pong PumpSends (p'.wire ++ p'.unsent)
      (forwarded ++ e.forwards) (answered ++ e.answers) frames' := by
  have hkeep (hsame : p'.wire ++ p'.unsent = p.wire ++ p.unsent) (hforwards : e.forwards = [])
      (hanswers : e.answers = []) : ∃ frames', Carries (dataHello token) FrameType.pong PumpSends
        (p'.wire ++ p'.unsent) (forwarded ++ e.forwards) (answered ++ e.answers) frames' := by
    rw [hsame, hforwards, hanswers, append_nil, append_nil]
    exact ⟨frames, hcarries⟩
  cases e with
  | send t n => exact hkeep (h.send_whole hstep) rfl rfl
  | fail t => cases he
  | packet bytes =>
    cases hstep with
    | @packet _ payload pc free hpayload =>
      obtain ⟨hseq, hwhole⟩ :=
        h.begin_whole kTypeIPPacket payload (by decide) pc free hcarries
      obtain ⟨hvalid, hsends⟩ := packet_sends hpayload (hseq ▸ sequenceAt_ne_zero _)
      have hforwards : PumpEvent.forwards (.packet bytes) = [payload] := by
        simp [PumpEvent.forwards, hpayload]
      rw [hwhole, hforwards]
      exact ⟨_, hcarries.snoc hvalid hseq hsends⟩
  | ping payload =>
    cases hstep with
    | ping pc free size =>
      obtain ⟨hseq, hwhole⟩ := h.begin_whole kTypePong payload (by decide) pc free hcarries
      have hlimit : 8 ≤ maxControlPayload.toNat := by decide
      have hvalid : Frame.Valid ⟨kTypePong, 0, p.outgoingSequence, payload⟩ :=
        ⟨rfl, rfl, hseq ▸ sequenceAt_ne_zero _, size.trans_le hlimit⟩
      rw [hwhole]
      exact ⟨_, hcarries.snoc hvalid hseq (.inr rfl)⟩
  | acknowledge =>
    cases hstep with
    | acknowledge pc =>
      exact hkeep (congrArg (p.wire ++ ·) (Pump.unsent_goto (by rw [pc]; rfl) rfl)) rfl rfl
  | leave t =>
    cases hstep with
    | leave pc =>
      refine hkeep (congrArg (p.wire ++ ·) (Pump.unsent_goto ?_ rfl)) rfl rfl
      rcases pc with pc | pc <;> rw [pc] <;> rfl
  | stop =>
    cases hstep
    exact hkeep rfl rfl rfl
  | start =>
    cases hstep with
    | start _ first second =>
      have hfirst : (p.goto .tunToSocket .looping).unsent = p.unsent :=
        Pump.unsent_goto (by rw [first]; rfl) rfl
      have hsecond : (p.goto .tunToSocket .looping).places .socketToTun = .off := second
      exact hkeep (congrArg (p.wire ++ ·)
        ((Pump.unsent_goto (by rw [hsecond]; rfl) rfl).trans hfirst)) rfl rfl

end PumpTraffic

end Pump

section Outlet

def unwritten : Place → List UInt8
  | .writing _ _ rest => rest.flatten
  | _ => []

/-- The bytes that the calls of `WriteFrame` under way have yet to write. -/
def unsent (o : Outlet) : List UInt8 :=
  [Sender.handler, .heartbeat, .relayOutput, .shutdown].flatMap fun s => unwritten (o.places s)

/-- The frames of the Mac after DATA_ACK on a connection that brings no PING. -/
def OutletSends (frame : Frame) : Prop :=
  frame.type = FrameType.ipPacket ∨ (frame.type = FrameType.ping ∧ frame.payload.length = 8)

/-- What `writeRelayOutput` passes to the `frameWriter` in a step. -/
def relays : OutletEvent → List (List UInt8)
  | .begin .relayOutput _ payload => [payload]
  | _ => []

/-- The PING that `runHeartbeat` passes to the `frameWriter` in a step. -/
def pings : OutletEvent → List (List UInt8)
  | .begin .heartbeat _ payload => [payload]
  | _ => []

variable {o o' : Outlet} {l : OutletEvent} {s : Sender} {relayed pinged : List (List UInt8)}
  {frames : List Frame}

theorem unwritten_eq_nil {place : Place}
    (h : ∀ locked frame rest, place ≠ .writing locked frame rest) : unwritten place = [] := by
  cases place with
  | writing locked frame rest => exact absurd rfl (h locked frame rest)
  | off | ready | leaving | released | returned => rfl

theorem unsent_eq_nil (h : ∀ s locked frame rest, o.places s ≠ .writing locked frame rest) :
    unsent o = [] := by
  rw [unsent, flatMap_eq_nil_iff]
  exact fun s _ => unwritten_eq_nil (h s)

theorem unsent_eq (quiet : ∀ s' ≠ s, ∀ locked frame rest, o.places s' ≠ .writing locked frame rest) :
    unsent o = unwritten (o.places s) := by
  have hmem : s ∈ [Sender.handler, .heartbeat, .relayOutput, .shutdown] := by cases s <;> decide
  exact flatMap_alone hmem (by decide) fun s' hs => unwritten_eq_nil (quiet s' hs)

theorem unsent_calm (h : Calm o o') : unsent o' = unsent o := by
  have hplace (s : Sender) : unwritten (o'.places s) = unwritten (o.places s) := by
    cases hp : o.places s with
    | writing locked frame rest => rw [(h.writing s _ _ _).mpr hp]
    | off | ready | leaving | released | returned =>
      refine unwritten_eq_nil fun locked frame rest hwriting => ?_
      rw [h.writing, hp] at hwriting
      cases hwriting
  simp [unsent, hplace]

theorem traffic_alone {locked : Bool} {frame : Frame} {rest : List (List UInt8)}
    (h : Traffic .data o) (hoff : o.places .shutdown = .off)
    (pc : o.places s = .writing locked frame rest) :
    ∀ s' ≠ s, ∀ locked frame rest, o.places s' ≠ .writing locked frame rest := by
  cases h with
  | acknowledging handler _ heartbeat relayOutput _ =>
    cases s with
    | handler =>
      intro s' hs
      cases s' with
      | handler => exact absurd rfl hs
      | heartbeat => simp [heartbeat]
      | relayOutput => simp [relayOutput]
      | shutdown => simp [hoff]
    | heartbeat => simp [heartbeat] at pc
    | relayOutput => simp [relayOutput] at pc
    | shutdown => simp [hoff] at pc
  | free _ _ _ _ _ quiet => exact absurd pc (quiet _ _ _ _)
  | @busy _ s₀ _ _ _ _ _ _ _ _ _ _ quiet =>
    have hs : s = s₀ := by
      by_contra hne
      exact quiet s hne _ _ _ pc
    rw [hs]
    exact quiet

theorem write_whole (h : Traffic .data o) (hoff : o.places .shutdown = .off)
    (hstep : OutletStep .data o (.write s) o') : o'.wire ++ unsent o' = o.wire ++ unsent o := by
  cases hstep with
  | @write _ locked frame slice rest pc _ =>
    have halone := traffic_alone h hoff pc
    have hother {places : Sender → Place} {place : Place}
        (hplaces : places = update o.places s place) :
        ∀ s' ≠ s, ∀ locked frame rest, places s' ≠ .writing locked frame rest := by
      intro s' hs locked frame rest
      rw [hplaces, update_of_ne hs]
      exact halone s' hs locked frame rest
    have hafter : unsent ((o.put slice).advance .data s locked frame rest) = rest.flatten := by
      cases rest with
      | cons next others =>
        rw [unsent_eq (s := s) (hother rfl)]
        simp [Outlet.advance, unwritten]
      | nil =>
        refine unsent_eq_nil fun s' locked' frame' rest' => ?_
        cases locked with
        | true =>
          by_cases hs : s' = s
          · subst hs
            simpa [Outlet.advance] using afterWrite_ne s' frame locked' frame' rest'
          · exact hother rfl s' hs _ _ _
        | false => cases s' <;> simp [Outlet.advance, Link.started, Link.beats, hoff]
    rw [hafter, ((o.put slice).advance_fields .data s locked frame rest).1, unsent_eq halone, pc]
    simp [unwritten]

theorem lock_whole (type : FrameType) (payload : List UInt8) {sends : Frame → Prop}
    (h : Traffic .data o) (hoff : o.places .shutdown = .off) (pc : o.places s = .ready)
    (free : o.holder = none)
    (hcarries : Carries Link.data.ack FrameType.ping sends (o.wire ++ unsent o) relayed pinged frames) :
    o.sequence = sequenceAt (frames.length + 1) ∧
      (o.lock s (o.frame type payload)).wire ++ unsent (o.lock s (o.frame type payload)) =
        o.wire ++ unsent o ++ (o.frame type payload).encode := by
  cases h with
  | acknowledging handler _ heartbeat relayOutput _ =>
    cases s with
    | handler => simp [handler] at pc
    | heartbeat => simp [heartbeat] at pc
    | relayOutput => simp [relayOutput] at pc
    | shutdown => simp [hoff] at pc
  | busy _ _ _ _ _ lock => simp [lock] at free
  | @free sent numbered _ wire _ sequence quiet =>
    have hquiet : unsent o = [] := unsent_eq_nil quiet
    have hsent : sent = Link.data.ack :: frames :=
      hcarries.unique numbered (by rw [hquiet, append_nil, wire])
    have hlocked : unsent (o.lock s (o.frame type payload)) = (o.frame type payload).encode := by
      rw [unsent_eq (s := s) fun s' hs locked frame rest => by
        rw [Outlet.lock_places, update_of_ne hs]
        exact quiet s' locked frame rest]
      rw [Outlet.lock_places, update_self]
      exact flatten_slices _
    refine ⟨by rw [sequence, hsent]; rfl, ?_⟩
    rw [hlocked, hquiet, append_nil]
    rfl

/-- A step without a failing write carries the packet or the PING that begins in it, if it is not an
answer to a PING of the app. -/
theorem traffic_carries (h : Traffic .data o) (hoff : o.places .shutdown = .off)
    (hstep : OutletStep .data o l o') (hl : l.succeeds = true)
    (hpong : ∀ payload, l ≠ .begin .handler FrameType.pong payload)
    (hcarries : Carries Link.data.ack FrameType.ping OutletSends (o.wire ++ unsent o) relayed pinged
      frames) :
    ∃ frames', Carries Link.data.ack FrameType.ping OutletSends (o'.wire ++ unsent o')
      (relayed ++ relays l) (pinged ++ pings l) frames' := by
  rcases hstep.calm hl with hcalm | ⟨s, type, payload, rfl⟩ | ⟨s, rfl⟩
  · have hnothing : relays l = [] ∧ pings l = [] := by
      cases hstep with
      | begin pc =>
        have hlocked := (hcalm.writing _ _ _ _).mp (o.lock_writing _ (o.frame _ _))
        simp [pc] at hlocked
      | _ => exact ⟨rfl, rfl⟩
    rw [hcalm.wire, unsent_calm hcalm, hnothing.1, hnothing.2, append_nil, append_nil]
    exact ⟨frames, hcarries⟩
  · cases hstep with
    | begin pc free sends _ =>
      obtain ⟨hseq, hwhole⟩ := lock_whole type payload h hoff pc free hcarries
      have hvalid : (o.frame type payload).Valid :=
        Link.Sends.valid sends rfl h.sequence_ne_zero
      rw [hwhole]
      cases sends with
      | pong => exact absurd rfl (hpong payload)
      | ping size => exact ⟨_, hcarries.snoc hvalid hseq (.inr ⟨rfl, size⟩)⟩
      | packet => exact ⟨_, hcarries.snoc hvalid hseq (.inl rfl)⟩
  · rw [write_whole h hoff hstep]
    refine ⟨frames, ?_⟩
    rw [show relays (.write s) = [] from rfl, show pings (.write s) = [] from rfl, append_nil,
      append_nil]
    exact hcarries

end Outlet

/-- Both ends of a data connection. The lists are what was handed to the senders so far: the packets
of the TUN, the packets of the relay, the PINGs of the Mac and those that the app answers.
`pumpFailed` and `macFailed` tell whether a write of that end has failed, as one does on a closed
connection or at the write deadline, and `tainted` whether an end has sent bytes after that. -/
structure Tunnel where
  pump : Pump
  outlet : Outlet
  forwarded : List (List UInt8) := []
  relayed : List (List UInt8) := []
  pinged : List (List UInt8) := []
  answered : List (List UInt8) := []
  pumpFailed : Bool := false
  macFailed : Bool := false
  tainted : Bool := false

/-- A connection on which DATA_HELLO is about to be sent. -/
def Tunnel.Initial (t : Tunnel) : Prop :=
  ∃ token outgoingSequence, validToken token = true ∧
    t = { pump := .connect token outgoingSequence, outlet := .start .data }

inductive TunnelEvent where
  | pump (e : PumpEvent)
  | mac (l : OutletEvent)
  deriving DecidableEq, Repr

@[simps] def Tunnel.pumpTo (t : Tunnel) (e : PumpEvent) (p : Pump) : Tunnel :=
  { t with
    pump := p
    forwarded := t.forwarded ++ e.forwards
    answered := t.answered ++ e.answers
    pumpFailed := t.pumpFailed || !e.succeeds
    tainted := t.tainted || (t.pumpFailed && p.wire != t.pump.wire) }

@[simps] def Tunnel.macTo (t : Tunnel) (l : OutletEvent) (o : Outlet) : Tunnel :=
  { t with
    outlet := o
    relayed := t.relayed ++ relays l
    pinged := t.pinged ++ pings l
    macFailed := t.macFailed || !l.succeeds
    tainted := t.tainted || (t.macFailed && o.wire != t.outlet.wire) }

/-- Either end takes a step. The app answers the PINGs that it has read, in their order, and the Mac
answers a PING that it has read. -/
inductive TunnelStep (t : Tunnel) : TunnelEvent → Tunnel → Prop
  | pump {e : PumpEvent} {p : Pump} (step : PumpStep t.pump e p)
      (read : ∀ payload, e = .ping payload → ∃ arrived, arrived <+: t.outlet.wire ∧
        t.answered ++ [payload] <+: (pumpReceivesData [] arrived).answered) :
      TunnelStep t (.pump e) (t.pumpTo e p)
  | mac {l : OutletEvent} {o : Outlet} (step : OutletStep .data t.outlet l o)
      (read : ∀ payload, l = .begin .handler FrameType.pong payload → ∃ reader n frames reader',
        reader.bytes <+: t.pump.wire ∧ readFrames n reader = .ok frames reader' ∧
          payload ∈ (handleDataFrames 2 (frames.tail.map (·, true))).answered) :
      TunnelStep t (.mac l) (t.macTo l o)

section Receiving
variable {token : List UInt8} {wire arrived : List UInt8} {packets others : List (List UInt8)}

/-- The Mac gets a front of what the pump was to send. -/
theorem Fronts.mac (h : Fronts (dataHello token) FrameType.pong PumpSends wire packets others)
    {reader reader' : Reader} {n : ℕ} {read : List Frame} {received : List (Frame × Bool)}
    (harrived : reader.bytes <+: wire) (hread : readFrames n reader = .ok read reader')
    (hreceived : received.map Prod.fst = read.tail) :
    (handleDataFrames 2 received).injected <+: packets ∧
      (handleDataFrames 2 received).acknowledged <+: others ∧
      (handleDataFrames 2 received).answered = [] := by
  obtain ⟨bytes, frames, begun, begun', hcarries, hwire, hpackets, hothers⟩ := h
  obtain ⟨hvalid, hbytes⟩ := readFrames_ok hread
  have hencoded : read.flatMap Frame.encode <+: (dataHello token :: frames).flatMap Frame.encode := by
    rw [← hcarries.bytes]
    refine List.IsPrefix.trans ?_ (harrived.trans hwire)
    rw [hbytes]
    exact prefix_append _ _
  have htail : read.tail <+: frames := by
    obtain ⟨rest, hrest⟩ := frames_prefix hvalid hcarries.numbered.valid hencoded
    cases read with
    | nil => exact List.nil_prefix
    | cons first read => exact ⟨rest, (List.cons.inj hrest).2⟩
  have hmem (f : Frame × Bool) (hf : f ∈ received) : PumpSends f.1 := by
    refine hcarries.sent f.1 (htail.subset ?_)
    rw [← hreceived]
    exact mem_map_of_mem hf
  obtain ⟨hinjected, hacknowledged, hanswered⟩ :=
    @handleDataFrames_front received 2 fun f hf hip =>
      (hmem f hf).elim (fun hpacket => hpacket.2.2) fun hpong => by
        rw [hpong] at hip
        exact absurd hip (by decide)
  rw [hreceived] at hinjected hacknowledged hanswered
  have hnone : payloadsOf FrameType.ping read.tail = [] := by
    rw [eq_nil_iff_forall_not_mem]
    intro payload hpayload
    obtain ⟨f, hf, hping, -⟩ := mem_payloadsOf.mp hpayload
    rcases hcarries.sent f (htail.subset hf) with ⟨hip, -⟩ | hpong
    · rw [hip] at hping
      exact absurd hping (by decide)
    · rw [hpong] at hping
      exact absurd hping (by decide)
  refine ⟨hinjected.trans ((payloadsOf_isFront htail).trans (hcarries.packets ▸ hpackets)),
    hacknowledged.trans ((payloadsOf_isFront htail).trans (hcarries.others ▸ hothers)), ?_⟩
  exact prefix_nil.mp (hnone ▸ hanswered)

theorem connectAccepts_ack (rest : List UInt8) :
    connectAccepts (Link.data.ack.encode ++ rest) = true := by
  have hlen := pumpReadUint32_payloadLength Link.data.ack.header rest
  have hseq := pumpReadUint32_sequence Link.data.ack.header rest
  have hencode : Link.data.ack.encode = Link.data.ack.header.encode := append_nil _
  have hflags : pumpReadUint16 ((Link.data.ack.header.encode ++ rest).getD 6 0)
      ((Link.data.ack.header.encode ++ rest).getD 7 0) = 0 := by
    simp [Header.encode, Frame.header, Link.ack, magic, bigEndian, pumpReadUint16]
  rw [connectAccepts, hencode, hlen, hseq, hflags]
  rfl

theorem numbered_tail {first : Frame} {frames : List Frame} (h : Numbered (first :: frames)) :
    ∀ i frame, frames[i]? = some frame → frame.Valid ∧ frame.sequence = sequenceAt (1 + i) := by
  intro i frame hframe
  rw [Nat.add_comm]
  exact h (i + 1) frame hframe

/-- The app gets a front of what the Mac was to send, and rejects a message only if the relay made a
packet that is no IPv4 packet of the announced length. -/
theorem Fronts.device (h : Fronts Link.data.ack FrameType.ping OutletSends wire packets others)
    (harrived : arrived <+: wire) (outcomes : List Bool) :
    (pumpReceivesData outcomes arrived).written <+: packets ∧
      (pumpReceivesData outcomes arrived).answered <+: others ∧
      ((pumpReceivesData outcomes arrived).fault = some .badMessage →
        ∃ packet ∈ packets, pumpDelivers packet = false) := by
  obtain ⟨bytes, frames, begun, begun', hcarries, hwire, hpackets, hothers⟩ := h
  have hbegin : arrived <+: Link.data.ack.encode ++ frames.flatMap Frame.encode := by
    have hbytes := harrived.trans hwire
    rwa [hcarries.bytes, flatMap_cons] at hbytes
  unfold pumpReceivesData
  split
  · exact ⟨List.nil_prefix, List.nil_prefix, nofun⟩
  next hlong =>
    have hack : Link.data.ack.encode.length = 16 := rfl
    obtain ⟨tail, rfl⟩ := prefix_of_prefix_length_le (prefix_append _ _) hbegin
      (hack.trans_le (Nat.not_lt.mp hlong))
    rw [connectAccepts_ack, Bool.not_true, if_neg (by decide), drop_left' hack]
    have htail := (prefix_append_right_inj _).mp hbegin
    obtain ⟨hwritten, hanswered, hfault⟩ :=
      @pumpSocketToTunLoop_front tail outcomes frames 1 (numbered_tail hcarries.numbered) htail
    refine ⟨hwritten.trans (hcarries.packets ▸ hpackets), hanswered.trans (hcarries.others ▸ hothers),
      fun hbad => ?_⟩
    obtain ⟨frame, hframe, hrejected⟩ := hfault hbad
    have hip : frame.type = FrameType.ipPacket ∧ pumpDelivers frame.payload = false := by
      rcases hcarries.sent frame hframe with hip | hping
      · refine ⟨hip, ?_⟩
        rcases hrejected with hreads | ⟨-, hpacket⟩
        · have hshort : ¬ 20 ≤ frame.payload.length := fun hmin => hreads (.inl ⟨hip, hmin⟩)
          simp [pumpDelivers, hshort]
        · simp [pumpDelivers, hpacket]
      · rcases hrejected with hreads | ⟨hip, -⟩
        · exact absurd (.inr hping) hreads
        · rw [hping.1] at hip
          exact absurd hip (by decide)
    refine ⟨frame.payload, hpackets.subset ?_, hip.2⟩
    rw [← hcarries.packets]
    exact mem_payloadsOf.mpr ⟨frame, hframe, hip.1, rfl⟩

end Receiving

/-- What holds of both directions of a data connection. Until a write of an end fails, its stream
carries all that was handed to it; after that its wire does not change. -/
structure Ledger (token : List UInt8) (t : Tunnel) : Prop where
  pump : t.pumpFailed = false → PumpTraffic token t.pump ∧ ∃ frames, Carries (dataHello token)
    FrameType.pong PumpSends (t.pump.wire ++ t.pump.unsent) t.forwarded t.answered frames
  upstream : Fronts (dataHello token) FrameType.pong PumpSends t.pump.wire t.forwarded t.answered
  mac : t.macFailed = false → Traffic .data t.outlet ∧ ∃ frames, Carries Link.data.ack
    FrameType.ping OutletSends (t.outlet.wire ++ unsent t.outlet) t.relayed t.pinged frames
  downstream : Fronts Link.data.ack FrameType.ping OutletSends t.outlet.wire t.relayed t.pinged
  off : t.outlet.places .shutdown = .off
  echo : t.answered <+: t.pinged

theorem PumpStep.fail_wire {p p' : Pump} {e : PumpEvent} (h : PumpStep p e p')
    (he : e.succeeds = false) : p'.wire = p.wire := by
  cases h with
  | fail => rfl
  | _ => cases he

theorem fail_wire {o o' : Outlet} {l : OutletEvent} (h : Traffic .data o)
    (hoff : o.places .shutdown = .off) (hstep : OutletStep .data o l o') (hl : l.succeeds = false) :
    o'.wire <+: o.wire ++ unsent o := by
  cases hstep with
  | reject => exact prefix_append _ _
  | @fail s locked frame slice rest pc n _ _ =>
    rw [unsent_eq (traffic_alone h hoff pc), pc]
    show o.wire ++ slice.take n <+: o.wire ++ (slice :: rest).flatten
    refine (prefix_append_right_inj _).mpr ((List.take_prefix n slice).trans ?_)
    exact prefix_append _ _
  | _ => cases hl

namespace Ledger
variable {token : List UInt8} {t : Tunnel}

theorem start (token : List UInt8) (outgoingSequence : UInt32) (hvalid : validToken token = true) :
    Ledger token { pump := .connect token outgoingSequence, outlet := .start .data } := by
  have hpump : Carries (dataHello token) FrameType.pong PumpSends
      ((Pump.connect token outgoingSequence).wire ++ (Pump.connect token outgoingSequence).unsent)
      [] [] [] := by
    refine ⟨Numbered.nil.snoc (dataHello_valid hvalid) rfl, ?_, rfl, rfl, by simp⟩
    have hbytes : (buffers (makeHeader kTypeDataHello (.ofNat (dataHelloPayload token).length) 1)
        (dataHelloPayload token)).flatten = (dataHello token).encode :=
      flatten_buffers (dataHello token) rfl
    simpa [Pump.connect, Pump.unsent, PumpPlace.unsent] using hbytes
  have hmac : Carries Link.data.ack FrameType.ping OutletSends
      ((Outlet.start .data).wire ++ unsent (Outlet.start .data)) [] [] [] :=
    ⟨Numbered.nil.snoc dataAck_valid rfl, rfl, rfl, rfl, by simp⟩
  exact ⟨fun _ => ⟨.start token outgoingSequence, [], hpump⟩, hpump.fronts,
    fun _ => ⟨.start .data, [], hmac⟩, hmac.fronts, rfl, List.nil_prefix⟩

theorem pumpStep {e : PumpEvent} {p : Pump} (h : Ledger token t) (hvalid : validToken token = true)
    (step : PumpStep t.pump e p)
    (read : ∀ payload, e = .ping payload → ∃ arrived, arrived <+: t.outlet.wire ∧
      t.answered ++ [payload] <+: (pumpReceivesData [] arrived).answered)
    (hclean : t.pumpFailed = true → p.wire = t.pump.wire) : Ledger token (t.pumpTo e p) := by
  have hecho : t.answered ++ e.answers <+: t.pinged := by
    cases e with
    | ping payload =>
      obtain ⟨arrived, harrived, hread⟩ := read payload rfl
      exact hread.trans (h.downstream.device harrived []).2.1
    | _ => simpa [PumpEvent.answers] using h.echo
  by_cases hgoes : t.pumpFailed = false ∧ e.succeeds = true
  · obtain ⟨htraffic, frames, hcarries⟩ := h.pump hgoes.1
    obtain ⟨frames', hcarries'⟩ := htraffic.carries step hgoes.2 hcarries
    exact ⟨fun _ => ⟨htraffic.step hvalid step hgoes.2, frames', hcarries'⟩, hcarries'.fronts,
      h.mac, h.downstream, h.off, hecho⟩
  · have hwire : p.wire = t.pump.wire := by
      cases hfailed : t.pumpFailed with
      | true => exact hclean hfailed
      | false => exact step.fail_wire (by simpa [hfailed] using hgoes)
    refine ⟨fun hopen => ?_, ?_, h.mac, h.downstream, h.off, hecho⟩
    · rw [Tunnel.pumpTo_pumpFailed] at hopen
      exact absurd (by simpa using hopen) hgoes
    · rw [Tunnel.pumpTo_pump, hwire]
      exact h.upstream.grow _ _

theorem macStep {l : OutletEvent} {o : Outlet} (h : Ledger token t)
    (step : OutletStep .data t.outlet l o)
    (read : ∀ payload, l = .begin .handler FrameType.pong payload → ∃ reader n frames reader',
      reader.bytes <+: t.pump.wire ∧ readFrames n reader = .ok frames reader' ∧
        payload ∈ (handleDataFrames 2 (frames.tail.map (·, true))).answered)
    (hclean : t.macFailed = true → o.wire = t.outlet.wire) : Ledger token (t.macTo l o) := by
  have hecho : t.answered <+: t.pinged ++ pings l := h.echo.trans (prefix_append _ _)
  have hpong (payload : List UInt8) : l ≠ .begin .handler FrameType.pong payload := by
    intro hl
    obtain ⟨reader, n, frames, reader', harrived, hframes, hmem⟩ := read payload hl
    have hfst : (frames.tail.map (·, true)).map Prod.fst = frames.tail := by
      simp [Function.comp_def]
    rw [(h.upstream.mac harrived hframes hfst).2.2] at hmem
    cases hmem
  have hoff := shutdown_off h.off step
  by_cases hgoes : t.macFailed = false ∧ l.succeeds = true
  · obtain ⟨htraffic, frames, hcarries⟩ := h.mac hgoes.1
    have hfirst : AckFirst t.outlet l := by
      rintro rfl
      cases step with
      | write pc => simp [h.off] at pc
    obtain ⟨frames', hcarries'⟩ := traffic_carries htraffic h.off step hgoes.2 hpong hcarries
    exact ⟨h.pump, h.upstream,
      fun _ => ⟨htraffic.step dataAck_valid rfl step hgoes.2 hfirst, frames', hcarries'⟩,
      hcarries'.fronts, hoff, hecho⟩
  · refine ⟨h.pump, h.upstream, fun hopen => ?_, ?_, hoff, hecho⟩
    · rw [Tunnel.macTo_macFailed] at hopen
      exact absurd (by simpa using hopen) hgoes
    · cases hfailed : t.macFailed with
      | true =>
        rw [Tunnel.macTo_outlet, hclean hfailed]
        exact h.downstream.grow _ _
      | false =>
        obtain ⟨htraffic, frames, hcarries⟩ := h.mac hfailed
        have hwire := fail_wire htraffic h.off step (by simpa [hfailed] using hgoes)
        exact ⟨_, frames, _, _, hcarries, hwire, prefix_append _ _, prefix_append _ _⟩

/-- As long as neither end sends anything after a write of its own has failed. -/
theorem of_reachable (h : Reachable TunnelStep Tunnel.Initial t) (hclean : t.tainted = false) :
    ∃ token, Ledger token t := by
  have key : ∃ token, validToken token = true ∧ (t.tainted = false → Ledger token t) := by
    refine h.invariant
      (I := fun t => ∃ token, validToken token = true ∧ (t.tainted = false → Ledger token t)) ?_ ?_
    · rintro _ ⟨token, outgoingSequence, hvalid, rfl⟩
      exact ⟨token, hvalid, fun _ => start token outgoingSequence hvalid⟩
    · rintro t e t' hstep ⟨token, hvalid, ht⟩
      refine ⟨token, hvalid, fun hclean => ?_⟩
      cases hstep with
      | pump step read =>
        rw [Tunnel.pumpTo_tainted, Bool.or_eq_false_iff] at hclean
        exact (ht hclean.1).pumpStep hvalid step read (by simpa using hclean.2)
      | mac step read =>
        rw [Tunnel.macTo_tainted, Bool.or_eq_false_iff] at hclean
        exact (ht hclean.1).macStep step read (by simpa using hclean.2)
  obtain ⟨token, -, hledger⟩ := key
  exact ⟨token, hledger hclean⟩

end Ledger

section Runs

def plainToken : List UInt8 := List.replicate 32 0x61

theorem forwarded_run : ∃ t, Reachable TunnelStep Tunnel.Initial t ∧ t.forwarded = [plainPacket] ∧
    t.tainted = false ∧ t.pumpFailed = false ∧ (∀ thread rest, t.pump.places thread ≠ .sending rest) ∧
    t.pump.wire = [dataHello plainToken, ⟨FrameType.ipPacket, 0, 2, plainPacket⟩].flatMap
      Frame.encode := by
  refine ⟨_, ⟨_, _, ⟨plainToken, 2, by decide, rfl⟩,
    .cons (.pump (.send (t := .connector) (n := 16) rfl rfl (by decide) (by decide)) nofun) <|
    .cons (.pump (.send (t := .connector) (n := 65) rfl rfl (by decide) (by decide)) nofun) <|
    .cons (.pump (.acknowledge rfl) nofun) <|
    .cons (.pump (.start rfl rfl rfl) nofun) <|
    .cons (.pump (@PumpStep.packet _ plainPacket _ rfl rfl rfl) nofun) <|
    .cons (.pump (.send (t := .tunToSocket) (n := 16) rfl rfl (by decide) (by decide)) nofun) <|
    .cons (.pump (.send (t := .tunToSocket) (n := 20) rfl rfl (by decide) (by decide)) nofun) <|
    .nil _⟩, rfl, rfl, rfl, fun thread rest => ?_, rfl⟩
  cases thread <;> nofun

theorem relayed_run : ∃ t, Reachable TunnelStep Tunnel.Initial t ∧ t.relayed = [plainPacket] ∧
    t.tainted = false ∧ t.outlet.wire = [Link.data.ack, ⟨FrameType.ipPacket, 0, 2, plainPacket⟩].flatMap
      Frame.encode := by
  have hsends : Link.data.Sends .relayOutput FrameType.ipPacket plainPacket :=
    .packet (by decide) (by decide)
  exact ⟨_, ⟨_, _, ⟨plainToken, 2, by decide, rfl⟩,
    .cons (.mac (.write (s := .handler) rfl rfl) nofun) <|
    .cons (.mac (.begin rfl rfl hsends rfl) nofun) <|
    .cons (.mac (.write (s := .relayOutput) rfl rfl) nofun) <|
    .cons (.mac (.write (s := .relayOutput) rfl rfl) nofun) <| .nil _⟩, rfl, rfl, rfl⟩

end Runs

/-- As long as no end has sent anything after a write of its own failed, whatever part of the app's
stream has arrived at the Mac, in whatever fragments, and whatever becomes of its relay: the
network stack has got a front of the packets that the pump forwarded, unaltered and in their
order, and `recordHeartbeat` a front of the PINGs that the Mac sent. -/
theorem injected_front (t : Tunnel) (h : Reachable TunnelStep Tunnel.Initial t)
    (hclean : t.tainted = false) {reader reader' : Reader} {n : ℕ} {read : List Frame}
    {received : List (Frame × Bool)}
    (harrived : reader.bytes <+: t.pump.wire) (hread : readFrames n reader = .ok read reader')
    (hreceived : received.map Prod.fst = read.tail) :
    (handleDataFrames 2 received).injected <+: t.forwarded ∧
      (handleDataFrames 2 received).acknowledged <+: t.pinged ∧
      (handleDataFrames 2 received).answered = [] := by
  obtain ⟨token, hledger⟩ := Ledger.of_reachable h hclean
  obtain ⟨hinjected, hacknowledged, hanswered⟩ := hledger.upstream.mac harrived hread hreceived
  exact ⟨hinjected, hacknowledged.trans hledger.echo, hanswered⟩

/-- One packet on its way. -/
theorem injected_front_plain : ∃ t reader read reader', Reachable TunnelStep Tunnel.Initial t ∧
    reader.bytes = t.pump.wire ∧ readFrames 2 reader = .ok read reader' ∧
    (handleDataFrames 2 (read.tail.map (·, true))).injected = [plainPacket] ∧
    (handleDataFrames 2 (read.tail.map (·, true))).injected <+: t.forwarded := by
  obtain ⟨t, ht, -, hclean, -, -, hwire⟩ := forwarded_run
  have hnumbered : Numbered [dataHello plainToken, ⟨FrameType.ipPacket, 0, 2, plainPacket⟩] :=
    (Numbered.nil.snoc (dataHello_valid (by decide)) rfl).snoc ⟨rfl, rfl, by decide, by decide⟩ rfl
  have hdelivers : Delivers [⟨t.pump.wire, none⟩]
      ([dataHello plainToken, ⟨FrameType.ipPacket, 0, 2, plainPacket⟩].flatMap Frame.encode ++ []) := by
    rw [← hwire]
    exact .cons _ .nil
  obtain ⟨reader', hread, -⟩ := readFrames_encode hnumbered.valid hdelivers
  have harrived : Reader.bytes [⟨t.pump.wire, none⟩] = t.pump.wire := by simp [Reader.bytes]
  exact ⟨t, _, _, reader', ht, harrived, hread, rfl,
    (injected_front t ht hclean (by rw [harrived]) hread rfl).1⟩

/-- Likewise whatever part of the Mac's stream has arrived at the app and whatever becomes of its
calls: the TUN has got a front of the packets of the relay, unaltered and in their order, the
answered PINGs are a front of those that the Mac sent, and only a packet that is no IPv4 packet of
the announced length makes the app reject a message. -/
theorem written_front (t : Tunnel) (h : Reachable TunnelStep Tunnel.Initial t)
    (hclean : t.tainted = false) {arrived : List UInt8} (harrived : arrived <+: t.outlet.wire)
    (outcomes : List Bool) :
    (pumpReceivesData outcomes arrived).written <+: t.relayed ∧
      (pumpReceivesData outcomes arrived).answered <+: t.pinged ∧
      ((pumpReceivesData outcomes arrived).fault = some .badMessage →
        ∃ packet ∈ t.relayed, pumpDelivers packet = false) := by
  obtain ⟨token, hledger⟩ := Ledger.of_reachable h hclean
  exact hledger.downstream.device harrived outcomes

theorem written_front_plain : ∃ t, Reachable TunnelStep Tunnel.Initial t ∧
    (pumpReceivesData [] t.outlet.wire).written = [plainPacket] ∧
    (pumpReceivesData [] t.outlet.wire).written <+: t.relayed := by
  obtain ⟨t, ht, -, hclean, hwire⟩ := relayed_run
  refine ⟨t, ht, ?_, (written_front t ht hclean (prefix_refl _) []).1⟩
  rw [hwire]
  decide +kernel

/-- Nothing is lost: when an end none of whose writes failed has nothing left to send and all has
arrived, the network stack has got every packet that the pump forwarded and the TUN every packet
of the relay, up to the first one that the receiver refuses. -/
theorem tunnel_drains (t : Tunnel) (h : Reachable TunnelStep Tunnel.Initial t)
    (hclean : t.tainted = false) :
    (t.pumpFailed = false → (∀ thread rest, t.pump.places thread ≠ .sending rest) →
      ∀ reader, Delivers reader t.pump.wire → ∃ read reader',
        readFrames read.length reader = .ok read reader' ∧ reader'.bytes = [] ∧
        (handleDataFrames 2 (read.tail.map (·, true))).injected = t.forwarded.takeWhile fun packet =>
          decide (validateIPv4Packet packet = .ok ())) ∧
    (t.macFailed = false →
      (∀ s locked frame rest, t.outlet.places s ≠ .writing locked frame rest) →
      (pumpReceivesData [] t.outlet.wire).written = t.relayed.takeWhile pumpDelivers) := by
  obtain ⟨token, hledger⟩ := Ledger.of_reachable h hclean
  constructor
  · intro hopen hquiet reader hdelivers
    obtain ⟨-, frames, hcarries⟩ := hledger.pump hopen
    have hwire : t.pump.wire = (dataHello token :: frames).flatMap Frame.encode := by
      rw [← hcarries.bytes, Pump.unsent_eq_nil hquiet, append_nil]
    rw [hwire, ← append_nil ((dataHello token :: frames).flatMap _)] at hdelivers
    obtain ⟨reader', hread, hrest⟩ := readFrames_encode hcarries.numbered.valid hdelivers
    refine ⟨_, reader', hread, hrest.bytes_eq, ?_⟩
    have htail := numbered_tail hcarries.numbered
    rw [← hcarries.packets]
    exact handleDataFrames_numbered (k := 1) (fun i f hf => (htail i f hf).2) hcarries.sent
  · intro hopen hquiet
    obtain ⟨-, frames, hcarries⟩ := hledger.mac hopen
    have hwire : t.outlet.wire = Link.data.ack.encode ++ frames.flatMap Frame.encode := by
      rw [← flatMap_cons, ← hcarries.bytes, unsent_eq_nil hquiet, append_nil]
    have hack : Link.data.ack.encode.length = 16 := rfl
    have hlong : ¬ (Link.data.ack.encode ++ frames.flatMap Frame.encode).length < 16 := by
      rw [length_append]
      omega
    rw [hwire, pumpReceivesData, if_neg hlong, connectAccepts_ack, Bool.not_true, if_neg (by decide),
      drop_left' hack, ← hcarries.packets]
    exact pumpSocketToTunLoop_numbered (numbered_tail hcarries.numbered) hcarries.sent

theorem tunnel_drains_plain : ∃ t, Reachable TunnelStep Tunnel.Initial t ∧
    t.forwarded = [plainPacket] ∧ ∃ read reader',
      readFrames read.length [⟨t.pump.wire, none⟩] = .ok read reader' ∧
      (handleDataFrames 2 (read.tail.map (·, true))).injected = t.forwarded := by
  obtain ⟨t, ht, hforwarded, hclean, hopen, hquiet, -⟩ := forwarded_run
  have hdelivers : Delivers [⟨t.pump.wire, none⟩] t.pump.wire := by
    simpa using Delivers.cons t.pump.wire .nil
  obtain ⟨read, reader', hread, -, hinjected⟩ := (tunnel_drains t ht hclean).1 hopen hquiet _ hdelivers
  refine ⟨t, ht, hforwarded, read, reader', hread, hinjected.trans ?_⟩
  rw [hforwarded]
  rfl

end HarmonyNetBridge.Harmony
