import HarmonyNetBridge.Daemon.Outlet

/-! The frames on the wire when every call of `conn.Write` succeeds. The lock of the `frameWriter`
keeps its frames apart, but the handshake frame is written without it. -/
namespace HarmonyNetBridge.Daemon
open Transition Function

def OutletEvent.succeeds : OutletEvent → Bool
  | reject .. | fail .. => false
  | _ => true

def Outlet.acknowledging (o : Outlet) : Bool :=
  match o.places .handler with
  | .writing false .. => true
  | _ => false

/-- `shutdown` writes its STOP_REQUEST only when the handshake frame is complete. -/
def AckFirst (o : Outlet) (l : OutletEvent) : Prop :=
  l = .write .shutdown → o.acknowledging = false

/-- Some `WriteFrame` has made a call of `conn.Write` and has another one to make. -/
def Outlet.Midway (o : Outlet) : Prop :=
  ∃ s locked frame rest, o.places s = .writing locked frame rest ∧ rest ≠ slices frame

/-- The wire has whole frames with the sequences of their places, the first of them `ack`, and while
a `WriteFrame` is under way the beginning of one more. -/
def Framed (ack : Frame) (o : Outlet) : Prop :=
  ∃ frames part, o.wire = frames.flatMap Frame.encode ++ part ∧ Numbered frames ∧
    (∀ f ∈ frames.head?, f = ack) ∧
    (part = [] ∨ o.Midway ∧ ∃ next, Numbered (frames ++ [next]) ∧
      (frames ++ [next]).head? = some ack ∧ part <+: next.encode)

/-- What `shutdown` may have done while the handshake frame is written: taken the lock. -/
inductive Waiting (o : Outlet) : Prop
  | before (lock : o.holder = none) (sequence : o.sequence = sequenceAt 1)
      (quiet : ∀ locked frame rest, o.places .shutdown ≠ .writing locked frame rest)
  | begun {frame : Frame} (valid : frame.Valid) (type : frame.type = FrameType.stopRequest)
      (number : frame.sequence = sequenceAt 1)
      (pc : o.places .shutdown = .writing true frame (slices frame))
      (lock : o.holder = some .shutdown) (sequence : o.sequence = sequenceAt 2)

/-- The state of a connection on which everything was written in order. -/
inductive Traffic (link : Link) (o : Outlet) : Prop
  | acknowledging {rest : List (List UInt8)}
      (handler : o.places .handler = .writing false link.ack rest)
      (stage : (o.wire = [] ∧ rest = slices link.ack) ∨
        (o.wire = link.ack.header.encode ∧ rest = [link.ack.payload] ∧ link.ack.payload ≠ []))
      (heartbeat : o.places .heartbeat = .off) (relayOutput : o.places .relayOutput = .off)
      (waiting : Waiting o)
  | free {sent : List Frame} (numbered : Numbered sent) (first : sent.head? = some link.ack)
      (wire : o.wire = sent.flatMap Frame.encode) (lock : o.holder = none)
      (sequence : o.sequence = sequenceAt sent.length)
      (quiet : ∀ s locked frame rest, o.places s ≠ .writing locked frame rest)
  | busy {sent : List Frame} {s : Sender} {frame : Frame} {part : List UInt8}
      {rest : List (List UInt8)} (numbered : Numbered (sent ++ [frame]))
      (first : sent.head? = some link.ack) (pc : o.places s = .writing true frame rest)
      (wire : o.wire = sent.flatMap Frame.encode ++ part)
      (under : part ++ rest.flatten = frame.encode) (lock : o.holder = some s)
      (sequence : o.sequence = sequenceAt (sent.length + 1))
      (quiet : ∀ s' ≠ s, ∀ locked frame rest, o.places s' ≠ .writing locked frame rest)

/-- A step that writes nothing and in which no `WriteFrame` begins or returns. -/
structure Calm (o o' : Outlet) : Prop where
  wire : o'.wire = o.wire
  sequence : o'.sequence = o.sequence
  holder : o'.holder = o.holder
  writing : ∀ s locked frame rest,
    o'.places s = .writing locked frame rest ↔ o.places s = .writing locked frame rest
  off : ∀ s ≠ .shutdown, o.places s = .off → o'.places s = .off
  broken : o'.broken = o.broken
  spilled : o'.spilled = o.spilled
  closed : o.closed = true → o'.closed = true

variable {o o' : Outlet}

theorem Calm.goto {s : Sender} {place : Place}
    (hpc : ∀ locked frame rest, o.places s ≠ .writing locked frame rest)
    (hplace : ∀ locked frame rest, place ≠ .writing locked frame rest)
    (hoff : s = .shutdown ∨ o.places s ≠ .off) : Calm o (o.goto s place) := by
  refine ⟨rfl, rfl, rfl, fun s' locked frame rest => ?_, fun s' hs' hplace' => ?_, rfl, rfl, id⟩
  · by_cases h : s' = s
    · subst h
      simp [hpc, hplace]
    · simp [update_of_ne h]
  · by_cases h : s' = s
    · subst h
      exact absurd hplace' (hoff.resolve_left hs')
    · simpa [update_of_ne h] using hplace'

theorem OutletStep.calm {link : Link} {l : OutletEvent} (h : OutletStep link o l o')
    (hl : l.succeeds = true) :
    Calm o o' ∨ (∃ s type payload, l = .begin s type payload) ∨ ∃ s, l = .write s := by
  cases h with
  | begin => exact .inr (.inl ⟨_, _, _, rfl⟩)
  | write => exact .inr (.inr ⟨_, rfl⟩)
  | reject | fail => cases hl
  | take _ pc => exact .inl (.goto (by simp [pc]) (by simp) (.inl rfl))
  | leave pc => exact .inl (.goto (by simp [pc]) (by simp) (.inr (by simp [pc])))
  | retire pc => exact .inl (.goto (by simp [pc]) (by simp) (.inr (by simp [pc])))
  | release pc => exact .inl (.goto (by simp [pc]) (by simp) (.inr (by simp [pc])))
  | @close s pc =>
    have hcalm : Calm o (o.goto s .returned) := by
      by_cases hs : s = .handler
      · rw [if_pos hs] at pc
        exact .goto (by simp [pc]) (by simp) (.inr (by simp [pc]))
      · rw [if_neg hs] at pc
        exact .goto (by simp [pc]) (by simp) (.inr (by simp [pc]))
    exact .inl { hcalm with closed := fun _ => rfl }
  | cut => exact .inl ⟨rfl, rfl, rfl, fun _ _ _ _ => Iff.rfl, fun _ _ h => h, rfl, rfl, fun _ => rfl⟩

theorem Waiting.calm (h : Waiting o) (hc : Calm o o') : Waiting o' := by
  cases h with
  | before lock sequence quiet =>
    refine .before (hc.holder.trans lock) (hc.sequence.trans sequence) fun locked frame rest hpc => ?_
    exact quiet locked frame rest ((hc.writing _ _ _ _).mp hpc)
  | begun valid type number pc lock sequence =>
    exact .begun valid type number ((hc.writing _ _ _ _).mpr pc) (hc.holder.trans lock)
      (hc.sequence.trans sequence)

theorem Waiting.frame (h : Waiting o) (hlock : o'.holder = o.holder)
    (hseq : o'.sequence = o.sequence) (hplace : o'.places .shutdown = o.places .shutdown) :
    Waiting o' := by
  cases h with
  | before lock sequence quiet =>
    exact .before (hlock.trans lock) (hseq.trans sequence) (by rwa [hplace])
  | begun valid type number pc lock sequence =>
    exact .begun valid type number (hplace.trans pc) (hlock.trans lock) (hseq.trans sequence)

theorem afterWrite_ne (s : Sender) (frame : Frame) (locked : Bool) (frame' : Frame)
    (rest : List (List UInt8)) : afterWrite s frame ≠ .writing locked frame' rest := by
  unfold afterWrite
  split <;> simp

namespace Traffic
variable {link : Link} {o o' : Outlet} {s : Sender} {type : FrameType} {payload : List UInt8}

theorem calm (h : Traffic link o) (hc : Calm o o') : Traffic link o' := by
  cases h with
  | acknowledging handler stage heartbeat relayOutput waiting =>
    refine .acknowledging ((hc.writing _ _ _ _).mpr handler) ?_ (hc.off _ (by simp) heartbeat)
      (hc.off _ (by simp) relayOutput) (waiting.calm hc)
    rw [hc.wire]
    exact stage
  | free numbered first wire lock sequence quiet =>
    refine .free numbered first (hc.wire.trans wire) (hc.holder.trans lock)
      (hc.sequence.trans sequence) fun s locked frame rest hpc => ?_
    exact quiet s locked frame rest ((hc.writing _ _ _ _).mp hpc)
  | busy numbered first pc wire under lock sequence quiet =>
    refine .busy numbered first ((hc.writing _ _ _ _).mpr pc) (hc.wire.trans wire) under
      (hc.holder.trans lock) (hc.sequence.trans sequence) fun s hs locked frame rest hpc => ?_
    exact quiet s hs locked frame rest ((hc.writing _ _ _ _).mp hpc)

/-- Before the handshake frame is complete only the handler, which writes it, and `shutdown` are
running. -/
theorem eq_shutdown {ack : Frame} {rest : List (List UInt8)}
    (handler : o.places .handler = .writing false ack rest) (heartbeat : o.places .heartbeat = .off)
    (relayOutput : o.places .relayOutput = .off) (hon : o.places s ≠ .off)
    (hlocked : ∀ frame rest, o.places s ≠ .writing false frame rest) : s = .shutdown := by
  cases s with
  | handler => exact absurd handler (hlocked _ _)
  | heartbeat => exact absurd heartbeat hon
  | relayOutput => exact absurd relayOutput hon
  | shutdown => rfl

theorem begin (h : Traffic link o) (pc : o.places s = .ready) (free : o.holder = none)
    (sends : link.Sends s type payload) : Traffic link (o.lock s (o.frame type payload)) := by
  have hvalid (k : ℕ) (hk : o.sequence = sequenceAt k) : (o.frame type payload).Valid := by
    refine Link.Sends.valid sends rfl ?_
    rw [show (o.frame type payload).sequence = o.sequence from rfl, hk]
    exact sequenceAt_ne_zero k
  cases h with
  | @acknowledging rest handler stage heartbeat relayOutput waiting =>
    obtain rfl : s = .shutdown :=
      eq_shutdown handler heartbeat relayOutput (by simp [pc]) (by simp [pc])
    cases waiting with
    | begun _ _ _ _ lock => simp [lock] at free
    | before lock sequence =>
      have htype : type = FrameType.stopRequest := by
        cases sends
        rfl
      have hhandler : (o.lock .shutdown (o.frame type payload)).places .handler =
          .writing false link.ack rest := by simpa using handler
      refine .acknowledging hhandler stage (by simpa using heartbeat) (by simpa using relayOutput)
        (.begun (hvalid 1 sequence) htype sequence (by simp) rfl ?_)
      rw [Outlet.lock_sequence, sequence, ← sequenceAt_succ]
  | @free sent numbered first wire lock sequence quiet =>
    have hpc : (o.lock s (o.frame type payload)).places s =
        .writing true (o.frame type payload) (slices (o.frame type payload)) := by simp
    have hwire : (o.lock s (o.frame type payload)).wire = sent.flatMap Frame.encode ++ [] := by
      simpa using wire
    refine .busy (numbered.snoc (hvalid _ sequence) sequence) first hpc hwire
      (flatten_slices _) rfl ?_ fun s' hs' locked frame rest => ?_
    · rw [Outlet.lock_sequence, sequence, ← sequenceAt_succ]
    · rw [Outlet.lock_places, update_of_ne hs']
      exact quiet s' locked frame rest
  | busy _ _ _ _ _ lock => simp [lock] at free

theorem unlocked {frame : Frame} {rest : List (List UInt8)} (h : Traffic link o)
    (pc : o.places s = .writing false frame rest) : s = .handler ∧ frame = link.ack := by
  cases h with
  | acknowledging handler _ heartbeat relayOutput waiting =>
    cases s with
    | handler =>
      have heq := handler.symm.trans pc
      simp only [Place.writing.injEq, true_and] at heq
      exact ⟨rfl, heq.1.symm⟩
    | heartbeat => simp [heartbeat] at pc
    | relayOutput => simp [relayOutput] at pc
    | shutdown =>
      cases waiting with
      | before _ _ quiet => exact absurd pc (quiet _ _ _)
      | begun _ _ _ pc' => simp [pc'] at pc
  | free _ _ _ _ _ quiet => exact absurd pc (quiet _ _ _ _)
  | @busy _ s' _ _ _ _ _ pc' _ _ _ _ quiet =>
    by_cases hs : s = s'
    · subst hs
      simp [pc'] at pc
    · exact absurd pc (quiet s hs _ _ _)

theorem acknowledged (waiting : Waiting o) (hack : link.ack.Valid)
    (hseq : link.ack.sequence = sequenceAt 0) (hwire : o.wire = link.ack.encode) :
    Traffic link { o with places := link.started o.places } := by
  have hnumbered : Numbered [link.ack] := Numbered.nil.snoc hack hseq
  have hothers : ∀ s ≠ .shutdown, ∀ locked frame rest,
      link.started o.places s ≠ .writing locked frame rest := by
    intro s hs locked frame rest
    cases s with
    | handler => simp [Link.started]
    | heartbeat => cases hbeats : link.beats <;> simp [Link.started, hbeats]
    | relayOutput => cases link <;> simp [Link.started]
    | shutdown => exact absurd rfl hs
  cases waiting with
  | before lock sequence quiet =>
    refine .free hnumbered rfl (by simpa using hwire) lock sequence fun s locked frame rest => ?_
    by_cases hs : s = .shutdown
    · subst hs
      exact quiet locked frame rest
    · exact hothers s hs locked frame rest
  | @begun frame valid type number pc lock sequence =>
    have hwire' : o.wire = [link.ack].flatMap Frame.encode ++ [] := by simpa using hwire
    exact .busy (s := .shutdown) (hnumbered.snoc valid number) rfl pc hwire' (flatten_slices frame)
      lock sequence hothers

theorem writeAck {slice : List UInt8} {rest : List (List UInt8)} (h : Traffic link o)
    (hack : link.ack.Valid) (hseq : link.ack.sequence = sequenceAt 0)
    (pc : o.places .handler = .writing false link.ack (slice :: rest)) :
    Traffic link ((o.put slice).advance link .handler false link.ack rest) := by
  cases h with
  | free _ _ _ _ _ quiet => exact absurd pc (quiet _ _ _ _)
  | @busy _ s _ _ _ _ _ pc' _ _ _ _ quiet =>
    by_cases hs : s = .handler
    · subst hs
      simp [pc] at pc'
    · exact absurd pc (quiet _ (Ne.symm hs) _ _ _)
  | acknowledging handler stage heartbeat relayOutput waiting =>
    have hrest := handler.symm.trans pc
    simp only [Place.writing.injEq, true_and] at hrest
    subst hrest
    have hwaiting : Waiting (o.put slice) := waiting.frame rfl rfl rfl
    rcases stage with ⟨hwire, hslices⟩ | ⟨hwire, hslices, -⟩
    · obtain ⟨rfl, hrest⟩ := List.cons.inj hslices
      by_cases hpayload : link.ack.payload = []
      · rw [if_pos hpayload] at hrest
        subst hrest
        refine acknowledged hwaiting hack hseq ?_
        simp [hwire, Frame.encode, hpayload]
      · rw [if_neg hpayload] at hrest
        subst hrest
        refine .acknowledging ?_ (.inr ⟨?_, rfl, hpayload⟩) ?_ ?_ (waiting.frame rfl rfl ?_)
        · simp [Outlet.advance]
        · simp [Outlet.advance, hwire]
        · simpa [Outlet.advance] using heartbeat
        · simpa [Outlet.advance] using relayOutput
        · simp [Outlet.advance]
    · obtain ⟨rfl, rfl⟩ := List.cons.inj hslices
      refine acknowledged hwaiting hack hseq ?_
      simp [hwire, Frame.encode]

theorem writeLocked {frame : Frame} {slice : List UInt8} {rest : List (List UInt8)}
    (h : Traffic link o) (pc : o.places s = .writing true frame (slice :: rest))
    (hfirst : s = .shutdown → o.acknowledging = false) :
    Traffic link ((o.put slice).advance link s true frame rest) := by
  cases h with
  | acknowledging handler _ heartbeat relayOutput _ =>
    have hshutdown : s = .shutdown :=
      eq_shutdown handler heartbeat relayOutput (by simp [pc]) (by simp [pc])
    have hacknowledged := hfirst hshutdown
    simp [Outlet.acknowledging, handler] at hacknowledged
  | free _ _ _ _ _ quiet => exact absurd pc (quiet _ _ _ _)
  | @busy sent s' _ part _ numbered first pc' wire under lock sequence quiet =>
    obtain rfl : s = s' := by
      by_contra hs
      exact quiet s hs _ _ _ pc
    obtain ⟨rfl, rfl⟩ : frame = _ ∧ slice :: rest = _ := by simpa [pc] using pc'
    have hwire : (o.put slice).wire = sent.flatMap Frame.encode ++ (part ++ slice) := by simp [wire]
    have hunder : (part ++ slice) ++ rest.flatten = frame.encode := by simpa using under
    cases rest with
    | nil =>
      show Traffic link { (o.put slice).goto s (afterWrite s frame) with holder := none }
      refine .free numbered (by simp [first]) ?_ rfl (by simpa using sequence) ?_
      · simpa [← hunder] using hwire
      · intro s' locked frame' rest'
        by_cases hs : s' = s
        · subst hs
          simpa using afterWrite_ne s' frame locked frame' rest'
        · simpa [update_of_ne hs] using quiet s' hs locked frame' rest'
    | cons next rest =>
      refine .busy numbered first ?_ hwire hunder lock sequence fun s' hs => ?_
      · simp [Outlet.advance]
      · simpa [Outlet.advance, update_of_ne hs] using quiet s' hs

/-- Everything stays in order when no write fails and STOP_REQUEST waits for the handshake. -/
theorem step {l : OutletEvent} (h : Traffic link o) (hack : link.ack.Valid)
    (hseq : link.ack.sequence = sequenceAt 0) (hstep : OutletStep link o l o')
    (hl : l.succeeds = true) (hfirst : AckFirst o l) : Traffic link o' := by
  rcases hstep.calm hl with hcalm | ⟨s, type, payload, rfl⟩ | ⟨s, rfl⟩
  · exact h.calm hcalm
  · cases hstep with
    | begin pc free sends _ => exact h.begin pc free sends
  · cases hstep with
    | @write _ locked frame _ _ pc _ =>
      cases locked with
      | true => exact h.writeLocked pc fun hs => hfirst (by rw [hs])
      | false =>
        obtain ⟨rfl, rfl⟩ := h.unlocked pc
        exact h.writeAck hack hseq pc

theorem start (link : Link) : Traffic link (Outlet.start link) :=
  .acknowledging rfl (.inl ⟨rfl, rfl⟩) rfl rfl (.before rfl rfl (by simp [Outlet.start]))

theorem framed (h : Traffic link o) (hack : link.ack.Valid)
    (hseq : link.ack.sequence = sequenceAt 0) : Framed link.ack o := by
  cases h with
  | acknowledging handler stage =>
    refine ⟨[], o.wire, rfl, .nil, by simp, ?_⟩
    rcases stage with ⟨hwire, -⟩ | ⟨hwire, rfl, hpayload⟩
    · exact .inl hwire
    · refine .inr ⟨⟨_, _, _, _, handler, ?_⟩, link.ack, Numbered.nil.snoc hack hseq, rfl, ?_⟩
      · simp [slices, hpayload]
      · rw [hwire]
        exact List.prefix_append _ _
  | @free sent numbered first wire =>
    refine ⟨sent, [], by simpa using wire, numbered, fun f hf => ?_, .inl rfl⟩
    rw [first] at hf
    exact (Option.some.inj hf).symm
  | @busy sent _ frame part rest numbered first pc wire under =>
    refine ⟨sent, part, wire, numbered.init, fun f hf => ?_, ?_⟩
    · rw [first] at hf
      exact (Option.some.inj hf).symm
    · by_cases hpart : part = []
      · exact .inl hpart
      · refine .inr ⟨⟨_, _, _, _, pc, ?_⟩, frame, numbered, by simp [first], ?_⟩
        · rintro rfl
          rw [flatten_slices] at under
          exact hpart (List.append_left_eq_self.mp under)
        · rw [← under]
          exact List.prefix_append _ _

end Traffic

variable {o o' : Outlet} {link : Link}

theorem shutdown_off {l : OutletEvent} (h : o.places .shutdown = .off)
    (hstep : OutletStep .data o l o') : o'.places .shutdown = .off := by
  have hother (s : Sender) {place : Place} (hs : o.places s ≠ .off) :
      update o.places s place .shutdown = .off := by
    have hne : Sender.shutdown ≠ s := by
      rintro rfl
      exact hs h
    rw [update_of_ne hne, h]
  cases hstep with
  | begin pc => exact hother _ (by simp [pc])
  | reject pc => exact hother _ (by simp [pc])
  | @write s locked frame slice rest pc =>
    cases rest with
    | cons => exact hother s (by simp [pc])
    | nil =>
      cases locked with
      | true => exact hother s (by simp [pc])
      | false => exact h
  | fail pc => exact hother _ (by simp [pc])
  | take control => cases control
  | leave pc => exact hother _ (by simp [pc])
  | retire | release => exact h
  | @close s pc =>
    refine hother s ?_
    rw [pc]
    split <;> simp
  | cut => exact h

theorem Traffic.sequence_ne_zero (h : Traffic link o) : o.sequence ≠ 0 := by
  have hne (k : ℕ) (hk : o.sequence = sequenceAt k) : o.sequence ≠ 0 := hk ▸ sequenceAt_ne_zero k
  cases h with
  | acknowledging _ _ _ _ waiting =>
    cases waiting with
    | before _ sequence => exact hne _ sequence
    | begun _ _ _ _ _ sequence => exact hne _ sequence
  | free _ _ _ _ sequence => exact hne _ sequence
  | busy _ _ _ _ _ _ sequence => exact hne _ sequence

theorem Traffic.not_rejected {s : Sender} {type : FrameType} {payload : List UInt8}
    (h : Traffic link o) : ¬ OutletStep link o (.reject s type payload) o' := by
  intro hstep
  cases hstep with
  | reject _ _ sends refused =>
    have hvalid : (o.frame type payload).Valid := Link.Sends.valid sends rfl h.sequence_ne_zero
    have hacc : validateFrame (o.frame type payload) = .ok () :=
      (Header.validate_iff _).mpr hvalid.header
    rw [hacc] at refused
    cases refused

def OutletEvent.Unfailing (l : OutletEvent) : Prop := ∀ s n, l ≠ .fail s n

theorem dataAck_valid : Link.data.ack.Valid := ⟨rfl, rfl, by simp [Link.ack], Nat.zero_le _⟩

/-- On a data connection only the handler writes before DATA_ACK is complete. -/
theorem Traffic.of_data
    (h : Reachable (Guarded (OutletStep .data) fun _ l => l.Unfailing) (· = Outlet.start .data) o) :
    Traffic .data o := by
  have key : Traffic .data o ∧ o.places .shutdown = .off := by
    refine h.invariant (I := fun o => Traffic .data o ∧ o.places .shutdown = .off) ?_ ?_
    · rintro _ rfl
      exact ⟨.start _, rfl⟩
    · rintro o l o' ⟨hstep, hl⟩ ⟨htraffic, hoff⟩
      refine ⟨htraffic.step dataAck_valid rfl hstep ?_ ?_, shutdown_off hoff hstep⟩
      · cases l with
        | fail s n => exact absurd rfl (hl s n)
        | reject s type payload => exact absurd hstep htraffic.not_rejected
        | _ => rfl
      · rintro rfl
        cases hstep with
        | write pc => simp [hoff] at pc
  exact key.1

end HarmonyNetBridge.Daemon
