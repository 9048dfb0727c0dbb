import HarmonyNetBridge.Daemon.Traffic

/-! The Mac's direction of a control connection. The `frameWriter` is published to `shutdown` before
HELLO_ACK is written, so STOP_REQUEST can come before it or into it. -/
namespace HarmonyNetBridge.Daemon
open Transition

/-- The wire begins like the handshake frame, as far as both go. -/
theorem Framed.compare {ack : Frame} {o : Outlet} (h : Framed ack o) (hwire : o.wire ≠ []) :
    o.wire <+: ack.encode ∨ ack.encode <+: o.wire := by
  obtain ⟨frames, part, heq, -, hfirst, hpart⟩ := h
  cases frames with
  | nil =>
    rcases hpart with rfl | ⟨-, next, -, hnext, hprefix⟩
    · exact absurd heq hwire
    · obtain rfl : next = ack := Option.some.inj hnext
      rw [heq]
      exact .inl hprefix
  | cons frame frames =>
    obtain rfl : frame = ack := hfirst frame rfl
    rw [heq, List.flatMap_cons, List.append_assoc]
    exact .inr (List.prefix_append _ _)

theorem getElem?_of_compare {a b : List UInt8} (h : a <+: b ∨ b <+: a) {i : ℕ} (ha : i < a.length)
    (hb : i < b.length) : a[i]? = b[i]? := by
  rcases h with ⟨rest, rfl⟩ | ⟨rest, rfl⟩
  · rw [List.getElem?_append_left ha]
  · rw [List.getElem?_append_left hb]

variable {payload : List UInt8} {o : Outlet}

/-- A header of STOP_REQUEST on the wire before HELLO_ACK is complete. -/
theorem not_framed_of_stop {mode : Mode} {stop : Frame} (hpayload : ∃ rest, payload = 0x7B :: rest)
    (hstop : stop.type = FrameType.stopRequest) (hwire : o.wire = stop.header.encode ∨
      o.wire = (Link.control mode payload).ack.header.encode ++ stop.header.encode) :
    ¬ Framed (Link.control mode payload).ack o := by
  intro hframed
  obtain ⟨rest, rfl⟩ := hpayload
  set ack := (Link.control mode (0x7B :: rest)).ack with hack
  have hlen := Header.length_encode stop.header
  have hlen' := Header.length_encode ack.header
  rw [headerSize] at hlen hlen'
  have hencode : ack.encode = ack.header.encode ++ 0x7B :: rest := rfl
  have hlong : 16 < ack.encode.length := by simp [hencode, hlen']
  rcases hwire with h | h
  · -- the type of the first frame tells them apart
    have hwire : o.wire ≠ [] := by
      intro hnil
      simp [h.symm.trans hnil] at hlen
    have hcompare := hframed.compare hwire
    rw [h] at hcompare
    have htype := getElem?_of_compare hcompare (i := 5) (by omega) (by omega)
    rw [hencode, List.getElem?_append_left (by omega), Header.encode_type, Header.encode_type] at htype
    simp [Frame.header, hstop, hack, Link.ack, FrameType.stopRequest, FrameType.helloAck] at htype
  · -- the magic stands where the payload of HELLO_ACK begins
    have hwire : o.wire ≠ [] := by
      intro hnil
      simp [(List.append_eq_nil_iff.mp (h.symm.trans hnil)).2] at hlen
    have hcompare := hframed.compare hwire
    rw [h] at hcompare
    have hbyte := getElem?_of_compare hcompare (i := 16) (by rw [List.length_append]; omega)
      (by omega)
    rw [hencode, List.getElem?_append_right (by omega), List.getElem?_append_right (by omega),
      hlen', Header.encode_magic] at hbyte
    simp at hbyte

theorem Outlet.writing_of_acknowledging (h : o.acknowledging = true) :
    ∃ frame rest, o.places .handler = .writing false frame rest := by
  unfold Outlet.acknowledging at h
  split at h
  next frame rest hpc => exact ⟨frame, rest, hpc⟩
  · cases h

theorem Traffic.of_acknowledging {link : Link} (h : Traffic link o)
    (hack : o.acknowledging = true) :
    (o.wire = [] ∨ o.wire = link.ack.header.encode) ∧ Waiting o := by
  obtain ⟨frame, rest, hpc⟩ := Outlet.writing_of_acknowledging hack
  cases h with
  | acknowledging _ stage _ _ waiting => exact ⟨stage.imp And.left And.left, waiting⟩
  | free _ _ _ _ _ quiet => exact absurd hpc (quiet _ _ _ _)
  | @busy _ s _ _ _ _ _ pc _ _ _ _ quiet =>
    by_cases hs : s = .handler
    · subst hs
      simp [hpc] at pc
    · exact absurd hpc (quiet _ (Ne.symm hs) _ _ _)

/-- A call of `conn.Write` by `shutdown` before HELLO_ACK is complete. -/
theorem Traffic.stop_first {mode : Mode} {o' : Outlet} (h : Traffic (.control mode payload) o)
    (hpayload : ∃ rest, payload = 0x7B :: rest)
    (hstep : OutletStep (.control mode payload) o (.write .shutdown) o')
    (hack : o.acknowledging = true) : ¬ Framed (Link.control mode payload).ack o' := by
  obtain ⟨hwire, hwaiting⟩ := h.of_acknowledging hack
  cases hstep with
  | @write _ locked frame slice rest pc _ =>
    cases hwaiting with
    | before _ _ quiet => exact absurd pc (quiet _ _ _)
    | @begun stop _ type _ pc' =>
      obtain ⟨rfl, -, hslices⟩ : locked = true ∧ frame = stop ∧ slice :: rest = slices stop := by
        simpa [pc] using pc'
      obtain ⟨rfl, -⟩ := List.cons.inj hslices
      refine not_framed_of_stop hpayload type ?_
      rw [(Outlet.advance_fields ..).1, Outlet.put_wire]
      rcases hwire with hwire | hwire
      · exact .inl (by rw [hwire, List.nil_append])
      · exact .inr (by rw [hwire])

/-- HELLO_ACK and every frame after it stand whole and numbered on the wire as long as STOP_REQUEST
is written after HELLO_ACK, and no longer. -/
theorem control_framed_iff {mode : Mode} {token : String} {proxyEnabled : Bool} {mtu : ℤ}
    {payload : List UInt8}
    (hpayload : marshalJSONPayload (helloAck mode token proxyEnabled mtu).json = .ok payload)
    {o : Outlet} (h : Reachable (Guarded (OutletStep (.control mode payload)) fun o l =>
      l.succeeds = true ∧ AckFirst o l) (· = Outlet.start (.control mode payload)) o) :
    Framed (Link.control mode payload).ack o ∧
      ∀ l o', OutletStep (.control mode payload) o l o' → l.succeeds = true →
        (Framed (Link.control mode payload).ack o' ↔ AckFirst o l) := by
  have hack : (Link.control mode payload).ack.Valid :=
    ⟨rfl, rfl, by simp [Link.ack], (marshalJSONPayload_ok hpayload).2⟩
  have hseq : (Link.control mode payload).ack.sequence = sequenceAt 0 := rfl
  have htraffic : Traffic (.control mode payload) o := by
    refine h.invariant ?_ ?_
    · rintro _ rfl
      exact .start _
    · rintro o l o' ⟨hstep, hl, hfirst⟩ ho
      exact ho.step hack hseq hstep hl hfirst
  refine ⟨htraffic.framed hack hseq, fun l o' hstep hl => ⟨fun hframed => ?_, fun hfirst => ?_⟩⟩
  · rintro rfl
    by_contra hacknowledging
    rw [Bool.not_eq_false] at hacknowledging
    exact htraffic.stop_first (marshal_object_head hpayload) hstep hacknowledging hframed
  · exact (htraffic.step hack hseq hstep hl hfirst).framed hack hseq

def sampleAck : HelloAck := helloAck .vpn (newSessionToken (List.replicate 16 7)) false 1400

theorem sampleAck_marshalled : ∃ payload, marshalJSONPayload sampleAck.json = .ok payload := by
  have hok : (marshalJSONPayload sampleAck.json).isOk = true := by decide +kernel
  cases h : marshalJSONPayload sampleAck.json with
  | ok payload => exact ⟨payload, rfl⟩
  | error e => simp [h, Except.isOk, Except.toBool] at hok

theorem shutdown_run (mode : Mode) (payload : List UInt8) (hheld : o.places .handler ≠ .released)
    (hpresent : o.places .handler ≠ .returned) (hoff : o.places .shutdown = .off)
    (hfree : o.holder = none) (hopen : o.closed = false) (hseq : o.sequence ≠ 0) : ∃ o₁ o₂,
      Run (OutletStep (.control mode payload)) o
        [.take, .begin .shutdown FrameType.stopRequest stopPayload] o₁ ∧
      OutletStep (.control mode payload) o₁ (.write .shutdown) o₂ ∧
      o₁.places .handler = o.places .handler ∧
      o₂.wire = o.wire ++ (o.frame FrameType.stopRequest stopPayload).header.encode := by
  have hsends : (Link.control mode payload).Sends .shutdown FrameType.stopRequest stopPayload := .stop
  have hvalid : (o.frame FrameType.stopRequest stopPayload).Valid :=
    Link.Sends.valid hsends rfl hseq
  have hacc := (Header.validate_iff _).mpr hvalid.header
  refine ⟨_, _, .cons (.take rfl hoff hheld hpresent) <|
    .single (.begin (by simp) hfree .stop hacc), .write (Outlet.lock_writing ..) hopen, ?_, ?_⟩
  · simp
  · simp [Outlet.frame]

theorem control_framed_stopped : ∃ payload o, marshalJSONPayload sampleAck.json = .ok payload ∧
    Reachable (Guarded (OutletStep (.control .vpn payload)) fun o l =>
      l.succeeds = true ∧ AckFirst o l) (· = Outlet.start (.control .vpn payload)) o ∧
    o.wire = (Link.control .vpn payload).ack.encode ++
      Header.encode ⟨FrameType.stopRequest, 0, 2, .ofNat stopPayload.length⟩ ∧
    Framed (Link.control .vpn payload).ack o := by
  obtain ⟨payload, hpayload⟩ := sampleAck_marshalled
  obtain ⟨ls, hls, hack⟩ := acknowledged_run (.control .vpn payload)
  obtain ⟨o₁, o₂, hstop, hstep, hhandler, hwire⟩ := shutdown_run .vpn payload
    (o := Outlet.acknowledged (.control .vpn payload)) (by simp [Outlet.acknowledged, Link.started])
    (by simp [Outlet.acknowledged, Link.started]) rfl rfl rfl (by simp [Outlet.acknowledged])
  have hreached : Reachable (Guarded (OutletStep (.control .vpn payload)) fun o l =>
      l.succeeds = true ∧ AckFirst o l) (· = Outlet.start (.control .vpn payload)) o₁ := by
    refine ⟨_, _, rfl, (hack.append hstop).guarded fun l hl o => ?_⟩
    rcases List.mem_append.mp hl with hl | hl
    · simp [hls l hl, OutletEvent.succeeds, AckFirst]
    · simp only [List.mem_cons, List.not_mem_nil, or_false] at hl
      rcases hl with rfl | rfl <;> simp [OutletEvent.succeeds, AckFirst]
  have hfirst : o₁.acknowledging = false := by
    simp [Outlet.acknowledging, hhandler, Outlet.acknowledged, Link.started]
  have hnext := hreached.next ⟨hstep, rfl, fun _ => hfirst⟩
  exact ⟨payload, o₂, hpayload, hnext, hwire, (control_framed_iff hpayload hnext).1⟩

/-- `shutdown` is called while HELLO_ACK is not on the wire: the first frame is STOP_REQUEST with
sequence 2. -/
theorem stop_before_ack : ∃ payload o, marshalJSONPayload sampleAck.json = .ok payload ∧
    Run (OutletStep (.control .vpn payload)) (Outlet.start (.control .vpn payload))
      [.take, .begin .shutdown FrameType.stopRequest stopPayload, .write .shutdown] o ∧
    o.wire = Header.encode ⟨FrameType.stopRequest, 0, 2, .ofNat stopPayload.length⟩ ∧
    ¬ Framed (Link.control .vpn payload).ack o := by
  obtain ⟨payload, hpayload⟩ := sampleAck_marshalled
  obtain ⟨o₁, o₂, hrun, hstep, -, hwire⟩ := shutdown_run .vpn payload
    (o := Outlet.start (.control .vpn payload)) (by simp [Outlet.start]) (by simp [Outlet.start])
    rfl rfl rfl (by simp [Outlet.start])
  exact ⟨payload, o₂, hpayload, hrun.snoc hstep, hwire,
    not_framed_of_stop (marshal_object_head hpayload) (by rfl) (.inl hwire)⟩

end HarmonyNetBridge.Daemon
