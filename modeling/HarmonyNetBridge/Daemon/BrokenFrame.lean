import HarmonyNetBridge.Daemon.Traffic

/-! A `WriteFrame` fails inside a frame. The `frameWriter` keeps no error, and its lock is free before
the goroutine that failed closes the connection. -/
namespace HarmonyNetBridge.Daemon
open Transition Function

/-- The failing call of `conn.Write` leaves a part of a frame on the wire. -/
def Outlet.breaks (o : Outlet) (s : Sender) (n : ℕ) : Bool :=
  match o.places s with
  | .writing _ frame rest => rest.flatten.length - n < frame.encode.length
  | _ => false

/-- After a broken frame no `WriteFrame` begins before the connection is closed, and none is under
way when the frame breaks. -/
def ClosedFirst (o : Outlet) : OutletEvent → Prop
  | .begin .. => o.broken = true → o.closed = true
  | .fail s n => o.breaks s n = true → o.closed = true ∨
      ∀ s' ≠ s, ∀ locked frame rest, o.places s' ≠ .writing locked frame rest
  | _ => True

/-- After a broken frame the connection is open only while no `WriteFrame` is under way. -/
structure Unspilled (o : Outlet) : Prop where
  spilled : o.spilled = false
  quiet : o.broken = true → o.closed = false →
    ∀ s locked frame rest, o.places s ≠ .writing locked frame rest
  pending : ∀ s locked frame rest, o.places s = .writing locked frame rest →
    rest ≠ [] ∧ ∀ slice ∈ rest, slice ≠ []

theorem slices_pending (frame : Frame) : slices frame ≠ [] ∧ ∀ slice ∈ slices frame, slice ≠ [] :=
  ⟨List.cons_ne_nil _ _, fun _ => slice_ne_nil⟩

theorem Outlet.advance_writing {o : Outlet} {link : Link} {s s' : Sender} {locked locked' : Bool}
    {frame frame' : Frame} {rest rest' : List (List UInt8)}
    (h : (o.advance link s locked frame rest).places s' = .writing locked' frame' rest') :
    (s' = s ∧ rest' = rest ∧ rest ≠ []) ∨ o.places s' = .writing locked' frame' rest' := by
  cases rest with
  | nil =>
    refine .inr ?_
    cases locked with
    | true =>
      by_cases hs : s' = s
      · subst hs
        simp [Outlet.advance, afterWrite_ne] at h
      · simpa [Outlet.advance, update_of_ne hs] using h
    | false =>
      cases s' with
      | shutdown => simpa [Outlet.advance, Link.started] using h
      | handler => simp [Outlet.advance, Link.started] at h
      | heartbeat => cases hb : link.beats <;> simp [Outlet.advance, Link.started, hb] at h
      | relayOutput => cases link <;> simp [Outlet.advance, Link.started] at h
  | cons slice rest =>
    by_cases hs : s' = s
    · subst hs
      refine .inl ⟨rfl, ?_, List.cons_ne_nil _ _⟩
      have heq : locked = locked' ∧ frame = frame' ∧ slice :: rest = rest' := by
        simpa [Outlet.advance] using h
      exact heq.2.2.symm
    · exact .inr (by simpa [Outlet.advance, update_of_ne hs] using h)

namespace Unspilled
variable {link : Link} {o o' : Outlet} {s : Sender} {l : OutletEvent}

theorem start (link : Link) : Unspilled (Outlet.start link) := by
  refine ⟨rfl, fun h => Bool.noConfusion h, fun s locked frame rest hpc => ?_⟩
  cases s with
  | handler =>
    obtain ⟨-, rfl, rfl⟩ : false = locked ∧ link.ack = frame ∧ slices link.ack = rest := by
      simpa [Outlet.start] using hpc
    exact slices_pending _
  | heartbeat | relayOutput | shutdown => simp [Outlet.start] at hpc

theorem frame (h : Unspilled o) (hspilled : o'.spilled = o.spilled) (hbroken : o'.broken = o.broken)
    (hclosed : o.closed = true → o'.closed = true)
    (hwriting : ∀ s locked frame rest, o'.places s = .writing locked frame rest →
      o.places s = .writing locked frame rest) : Unspilled o' := by
  refine ⟨hspilled.trans h.spilled, fun hb hopen s locked frame rest hpc => ?_,
    fun s locked frame rest hpc => h.pending s locked frame rest (hwriting _ _ _ _ hpc)⟩
  have hopen' : o.closed = false := by
    by_contra hc
    rw [hclosed (by simpa using hc)] at hopen
    cases hopen
  exact h.quiet (hbroken ▸ hb) hopen' s locked frame rest (hwriting _ _ _ _ hpc)

/-- A goroutine that can write finds no broken frame before it. -/
theorem sound {locked : Bool} {frame : Frame} {rest : List (List UInt8)} (h : Unspilled o)
    (pc : o.places s = .writing locked frame rest) (hopen : o.closed = false) : o.broken = false := by
  by_contra hb
  exact h.quiet (by simpa using hb) hopen s locked frame rest pc

theorem begin {frame : Frame} (h : Unspilled o) (hfirst : o.broken = true → o.closed = true) :
    Unspilled (o.lock s frame) := by
  refine ⟨h.spilled, fun hb hopen => ?_, fun s' locked frame' rest hpc => ?_⟩
  · rw [Outlet.lock_closed, hfirst hb] at hopen
    cases hopen
  · by_cases hs : s' = s
    · subst hs
      obtain ⟨-, rfl, rfl⟩ : true = locked ∧ frame = frame' ∧ slices frame = rest := by
        simpa using hpc
      exact slices_pending _
    · rw [Outlet.lock_places, update_of_ne hs] at hpc
      exact h.pending s' locked frame' rest hpc

theorem write (h : Unspilled o) (hstep : OutletStep link o (.write s) o') : Unspilled o' := by
  cases hstep with
  | @write _ locked frame slice rest pc connected =>
    have hsound := h.sound pc connected
    refine ⟨?_, fun hb => ?_, fun s' locked' frame' rest' hpc => ?_⟩
    · simp [hsound, h.spilled]
    · simp [hsound] at hb
    · rcases Outlet.advance_writing hpc with ⟨-, rfl, hne⟩ | hpc
      · exact ⟨hne, fun slice' hmem => (h.pending _ _ _ _ pc).2 slice' (List.mem_cons_of_mem _ hmem)⟩
      · exact h.pending s' locked' frame' rest' hpc

theorem fail {n : ℕ} (h : Unspilled o) (hstep : OutletStep link o (.fail s n) o')
    (hfirst : ClosedFirst o (.fail s n)) : Unspilled o' := by
  cases hstep with
  | @fail _ locked frame slice rest pc _ short unusable =>
    have hothers {s' : Sender} {locked' : Bool} {frame' : Frame} {rest' : List (List UInt8)}
        (hpc : (update o.places s .leaving) s' = .writing locked' frame' rest') :
        s' ≠ s ∧ o.places s' = .writing locked' frame' rest' := by
      by_cases hs : s' = s
      · subst hs
        simp at hpc
      · exact ⟨hs, by rwa [update_of_ne hs] at hpc⟩
    refine ⟨?_, fun hb hopen s' locked' frame' rest' hpc => ?_, fun s' locked' frame' rest' hpc =>
      h.pending s' locked' frame' rest' (hothers hpc).2⟩
    · rw [Outlet.abandon_spilled, Outlet.put_spilled, h.spilled]
      cases hclosed : o.closed with
      | true => simp [unusable hclosed]
      | false => simp [h.sound pc hclosed]
    · obtain ⟨hs, hpc⟩ := hothers hpc
      have hbreaks : o.breaks s n = true := by
        simpa [Outlet.breaks, pc, h.sound pc hopen] using hb
      rcases hfirst hbreaks with hclosed | hquiet
      · exact Bool.noConfusion (hclosed.symm.trans hopen)
      · exact hquiet s' hs locked' frame' rest' hpc

theorem step (h : Unspilled o) (hstep : OutletStep link o l o') (hfirst : ClosedFirst o l) :
    Unspilled o' := by
  by_cases hl : l.succeeds = true
  · rcases hstep.calm hl with hcalm | ⟨s, type, payload, rfl⟩ | ⟨s, rfl⟩
    · exact h.frame hcalm.spilled hcalm.broken hcalm.closed fun _ _ _ _ => (hcalm.writing _ _ _ _).mp
    · cases hstep
      exact h.begin hfirst
    · exact h.write hstep
  · cases l with
    | fail s n => exact h.fail hstep hfirst
    | reject s type payload =>
      cases hstep with
      | reject pc =>
        have hcalm : Calm o (o.goto s .leaving) := .goto (by simp [pc]) (by simp) (.inr (by simp [pc]))
        exact h.frame rfl rfl id fun _ _ _ _ => (hcalm.writing _ _ _ _).mp
    | _ => exact absurd rfl hl

end Unspilled

/-- A goroutine that is inside its `WriteFrame` writes after the broken frame. -/
theorem OutletStep.spills {link : Link} {o : Outlet} {s : Sender} {locked : Bool} {frame : Frame}
    {slice : List UInt8} {rest : List (List UInt8)}
    (pc : o.places s = .writing locked frame (slice :: rest)) (hslice : slice ≠ [])
    (hbroken : o.broken = true) (hopen : o.closed = false) :
    ∃ o', OutletStep link o (.write s) o' ∧ o'.spilled = true := by
  refine ⟨_, .write pc hopen, ?_⟩
  simp [hbroken, hslice]

/-- A step that does not wait for the connection to be closed. -/
theorem Unspilled.spills {link : Link} {o o' : Outlet} {l : OutletEvent} (h : Unspilled o)
    (hstep : OutletStep link o l o') (hfirst : ¬ ClosedFirst o l) :
    ∃ s o'', OutletStep link o' (.write s) o'' ∧ o''.spilled = true := by
  cases hstep with
  | @begin s type payload =>
    rw [ClosedFirst, Classical.not_imp, Bool.not_eq_true] at hfirst
    exact ⟨s, OutletStep.spills (Outlet.lock_writing ..)
      ((slices_pending (o.frame type payload)).2 _ List.mem_cons_self) hfirst.1 hfirst.2⟩
  | @fail s locked frame slice rest pc n short =>
    rw [ClosedFirst, Classical.not_imp, not_or, Bool.not_eq_true] at hfirst
    obtain ⟨hbreaks, hopen, hother⟩ := hfirst
    push Not at hother
    obtain ⟨s', hs, locked', frame', rest', hpc⟩ := hother
    obtain ⟨hne, hslices⟩ := h.pending s' locked' frame' rest' hpc
    obtain ⟨slice', rest', rfl⟩ := List.exists_cons_of_ne_nil hne
    have hleft : (slice :: rest).flatten.length - n < frame.encode.length := by
      simpa [Outlet.breaks, pc] using hbreaks
    have hpc' : ((o.put (slice.take n)).abandon s locked frame
        ((slice :: rest).flatten.length - n)).places s' = .writing locked' frame' (slice' :: rest') := by
      rw [Outlet.abandon_places, update_of_ne hs]
      exact hpc
    have hbroken : ((o.put (slice.take n)).abandon s locked frame
        ((slice :: rest).flatten.length - n)).broken = true := by
      rw [Outlet.abandon_broken, decide_eq_true hleft, Bool.or_true]
    exact ⟨s', OutletStep.spills hpc' (hslices slice' List.mem_cons_self) hbroken hopen⟩
  | _ => exact absurd trivial hfirst

/-- Nothing is written after a broken frame as long as the connection is closed before the next
`WriteFrame`; otherwise that `WriteFrame` can go on to write. -/
theorem broken_frame_last_iff {link : Link} {o : Outlet}
    (h : Reachable (Guarded (OutletStep link) ClosedFirst) (· = Outlet.start link) o) :
    o.spilled = false ∧ ∀ l o', OutletStep link o l o' →
      ((∀ s o'', OutletStep link o' (.write s) o'' → o''.spilled = false) ↔ ClosedFirst o l) := by
  have ho : Unspilled o := by
    refine h.invariant ?_ ?_
    · rintro _ rfl
      exact .start link
    · rintro o l o' ⟨hstep, hfirst⟩ ho
      exact ho.step hstep hfirst
  refine ⟨ho.spilled, fun l o' hstep => ⟨fun hclean => ?_, fun hfirst s o'' hwrite => ?_⟩⟩
  · by_contra hfirst
    obtain ⟨s, o'', hwrite, hspilled⟩ := ho.spills hstep hfirst
    rw [hclean s o'' hwrite] at hspilled
    cases hspilled
  · exact ((ho.step hstep hfirst).write hwrite).spilled

/-- A packet of the relay for the device. -/
def samplePacket : List UInt8 := 0x45 :: List.replicate 16 0

def truncatedWire : List UInt8 :=
  Frame.encode ⟨FrameType.dataAck, 0, 1, []⟩ ++ Header.encode ⟨FrameType.ipPacket, 0, 2, 17⟩ ++ [0x45]

theorem truncated_reached : ∃ o, Reachable (Guarded (OutletStep .data) ClosedFirst)
      (· = Outlet.start .data) o ∧
    o.wire = truncatedWire ∧ o.broken = true ∧ o.closed = false ∧ o.holder = none ∧ o.sequence = 3 ∧
    o.places .handler = .ready ∧ o.places .relayOutput = .leaving := by
  obtain ⟨ls, hls, hack⟩ := acknowledged_run .data
  have hack' : Run (Guarded (OutletStep .data) ClosedFirst) (Outlet.start .data) ls
      (Outlet.acknowledged .data) := by
    refine hack.guarded fun l hl o => ?_
    rw [hls l hl]
    trivial
  have hpacket : Run (Guarded (OutletStep .data) ClosedFirst) (Outlet.acknowledged .data)
      [.begin .relayOutput FrameType.ipPacket samplePacket, .write .relayOutput,
        .fail .relayOutput 1] _ :=
    .cons ⟨.begin rfl rfl (.packet (by simp [samplePacket]) (by decide)) rfl, Bool.noConfusion⟩ <|
    .cons ⟨.write rfl rfl, trivial⟩ <|
    .single ⟨.fail rfl (by decide) Bool.noConfusion, fun _ => .inr fun s' hs locked frame rest hpc => by
      cases s' with
      | relayOutput => exact hs rfl
      | handler | heartbeat | shutdown => cases hpc⟩
  exact ⟨_, ⟨_, _, rfl, hack'.append hpacket⟩, by decide, rfl, rfl, rfl, rfl, rfl, rfl⟩

theorem broken_frame_last_closed : ∃ o, Reachable (Guarded (OutletStep .data) ClosedFirst)
      (· = Outlet.start .data) o ∧
    o.wire = truncatedWire ∧ o.broken = true ∧ o.closed = true ∧ o.spilled = false := by
  obtain ⟨o, ho, hwire, hbroken, -, -, -, -, hplace⟩ := truncated_reached
  have hclosed := ho.next ⟨.close (s := .relayOutput) hplace, trivial⟩
  exact ⟨_, hclosed, hwire, hbroken, rfl, (broken_frame_last_iff hclosed).1⟩

def samplePing : List UInt8 := List.replicate 8 0

/-- The handler answers a PING before the connection is closed: the device reads the header of PONG
as the missing bytes of the packet. -/
theorem pong_after_truncated : ∃ o, Reachable (OutletStep .data) (· = Outlet.start .data) o ∧
    o.spilled = true ∧ o.wire = truncatedWire ++ Header.encode ⟨FrameType.pong, 0, 3, 8⟩ ∧
    readFrames 2 [⟨o.wire, none⟩] = .ok [⟨FrameType.dataAck, 0, 1, []⟩,
      ⟨FrameType.ipPacket, 0, 2, 0x45 :: Header.encode ⟨FrameType.pong, 0, 3, 8⟩⟩] [] := by
  have hread : readFrames 2 [⟨truncatedWire ++ Header.encode ⟨FrameType.pong, 0, 3, 8⟩, none⟩] =
      .ok [⟨FrameType.dataAck, 0, 1, []⟩,
        ⟨FrameType.ipPacket, 0, 2, 0x45 :: Header.encode ⟨FrameType.pong, 0, 3, 8⟩⟩] [] := rfl
  obtain ⟨o, ho, hwire, hbroken, hopen, hfree, hseq, hplace, -⟩ := truncated_reached
  have hacc : validateFrame (o.frame FrameType.pong samplePing) = .ok () := by
    rw [Outlet.frame, hseq]
    rfl
  have hbegun := (ho.mono fun _ _ _ h => h.1).next (.begin hplace hfree (.pong rfl rfl) hacc)
  obtain ⟨o', hwrite, hspilled, hwire'⟩ : ∃ o', OutletStep .data
      (o.lock .handler (o.frame FrameType.pong samplePing)) (.write .handler) o' ∧
      o'.spilled = true ∧ o'.wire = truncatedWire ++ Header.encode ⟨FrameType.pong, 0, 3, 8⟩ := by
    refine ⟨_, .write (Outlet.lock_writing ..) hopen, ?_, ?_⟩
    · have hheader := (slices_pending (o.frame FrameType.pong samplePing)).2 _
        List.mem_cons_self
      simp [hbroken, hheader]
    · simp [hwire, Outlet.frame, hseq, Frame.header, samplePing]
  exact ⟨o', hbegun.next hwrite, hspilled, hwire', by rw [hwire', hread]⟩

end HarmonyNetBridge.Daemon
