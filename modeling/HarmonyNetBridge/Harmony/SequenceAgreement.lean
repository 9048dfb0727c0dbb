import HarmonyNetBridge.Daemon.Traffic
import HarmonyNetBridge.Harmony.ControlSession
import HarmonyNetBridge.Harmony.DataPump

/-! The sequences of the two directions of the data connection and of the app's direction of the
control connection: the sender and the receiver count alike. -/
namespace HarmonyNetBridge.Harmony
open Transition Daemon

/-- All that is on the wire of a connection belongs to numbered frames behind the handshake frame. -/
theorem numbered_of_framed {ack : Frame} {o : Outlet} (h : Framed ack o) :
    ∃ frames, Numbered frames ∧ (∀ f ∈ frames.head?, f = ack) ∧
      o.wire <+: frames.flatMap Frame.encode := by
  obtain ⟨frames, part, hwire, hnumbered, hfirst, hpart⟩ := h
  rcases hpart with rfl | ⟨-, next, hnext, hhead, rest, hrest⟩
  · refine ⟨frames, hnumbered, hfirst, ?_⟩
    rw [hwire, List.append_nil]
  · refine ⟨frames ++ [next], hnext, fun f hf => ?_, rest, ?_⟩
    · rw [hhead] at hf
      exact (Option.some.inj hf).symm
    · rw [hwire, List.append_assoc, hrest]
      simp

/-- As long as no write has failed, the frames of each of the three directions have the sequences of
their places, however the senders interleave, and the receiver rejects none of them for its
sequence. -/
theorem sequences_agree :
    (∀ s, Reachable (Guarded SessionStep fun _ e => e.succeeds = true) (· = {}) s →
      Sequenced s.wire ∧ MacAccepts s.wire) ∧
    (∀ p, Reachable (Guarded PumpStep fun _ e => e.succeeds = true) Pump.Initial p →
      Sequenced p.wire ∧ MacAccepts p.wire) ∧
    (∀ o, Reachable (Guarded (OutletStep .data) fun _ l => l.Unfailing) (· = Outlet.start .data) o →
      Sequenced o.wire ∧ PumpAccepts o.wire) := by
  refine ⟨fun s hs => ?_, fun p hp => ?_, fun o ho => ?_⟩
  · have hsequenced := (Queued.of_reachable hs).sequenced
    exact ⟨hsequenced, hsequenced.macAccepts⟩
  · obtain ⟨token, hvalid, htraffic⟩ := PumpTraffic.of_reachable hp
    have hsequenced := htraffic.sequenced hvalid
    exact ⟨hsequenced, hsequenced.macAccepts⟩
  · obtain ⟨frames, hnumbered, hfirst, hwire⟩ :=
      numbered_of_framed ((Traffic.of_data ho).framed dataAck_valid rfl)
    refine ⟨⟨frames, hnumbered, hwire⟩, fun arrived harrived => ?_⟩
    refine pumpReceives_numbered hnumbered (fun f hf => ?_) (harrived.trans hwire)
    rw [hfirst f hf]
    rfl

end HarmonyNetBridge.Harmony
