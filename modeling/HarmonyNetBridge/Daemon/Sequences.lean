import HarmonyNetBridge.Daemon.Machine
import HarmonyNetBridge.Protocol.RoundTrip

/-! Sequence numbers of one direction of a connection: what the sender gives to its frames and what
the receiver expects. -/
namespace HarmonyNetBridge.Daemon
open Bytes

/-- The sequence of the `k`-th frame, from `k = 0` on: 1, 2, ..., 2 ^ 32 - 1, 1, ... -/
def sequenceAt (k : ℕ) : UInt32 := .ofNat (k % 4294967295 + 1)

theorem sequenceAt_toNat (k : ℕ) : (sequenceAt k).toNat = k % 4294967295 + 1 := by
  have hlt : k % 4294967295 + 1 < 2 ^ 32 := by omega
  rw [sequenceAt, UInt32.toNat_ofNat', Nat.mod_eq_of_lt hlt]

theorem sequenceAt_ne_zero (k : ℕ) : sequenceAt k ≠ 0 := by
  rw [Ne, ← UInt32.toNat_inj, sequenceAt_toNat]
  exact Nat.succ_ne_zero _

theorem sequenceAt_succ (k : ℕ) : sequenceAt (k + 1) = nextSequence (sequenceAt k) := by
  have hk := sequenceAt_toNat k
  have hnext := sequenceAt_toNat (k + 1)
  unfold nextSequence
  split
  next hmax =>
    rw [hmax, show (0xFFFFFFFF : UInt32).toNat = 4294967295 from rfl] at hk
    rw [← UInt32.toNat_inj, hnext, show (1 : UInt32).toNat = 1 from rfl]
    omega
  next hmax =>
    rw [← UInt32.toNat_inj, hk, show (0xFFFFFFFF : UInt32).toNat = 4294967295 from rfl] at hmax
    rw [← UInt32.toNat_inj, hnext, UInt32.toNat_add, hk, show (1 : UInt32).toNat = 1 from rfl]
    omega

example : sequenceAt 4294967294 = 0xFFFFFFFF ∧ sequenceAt 4294967295 = 1 := by decide

/-- The frames of one direction: each is valid and has the sequence of its place. -/
def Numbered (frames : List Frame) : Prop :=
  ∀ k frame, frames[k]? = some frame → frame.Valid ∧ frame.sequence = sequenceAt k

theorem Numbered.nil : Numbered [] := by
  intro k frame h
  cases h

variable {frames : List Frame} {sequences : List UInt32}

theorem Numbered.snoc {frame : Frame} (h : Numbered frames) (hvalid : frame.Valid)
    (hseq : frame.sequence = sequenceAt frames.length) : Numbered (frames ++ [frame]) := by
  intro k f hf
  rcases Nat.lt_trichotomy k frames.length with hlt | rfl | hgt
  · rw [List.getElem?_append_left hlt] at hf
    exact h k f hf
  · rw [List.getElem?_concat_length] at hf
    cases hf
    exact ⟨hvalid, hseq⟩
  · rw [List.getElem?_eq_none (by simpa using hgt)] at hf
    cases hf

theorem Numbered.init {frame : Frame} (h : Numbered (frames ++ [frame])) : Numbered frames := by
  intro k f hf
  have hlt : k < frames.length := (List.getElem?_eq_some_iff.mp hf).1
  exact h k f (by rw [List.getElem?_append_left hlt, hf])

/-- The loop of a receiver: a frame is rejected unless it has the expected sequence. -/
def receives (next : UInt32 → UInt32) : UInt32 → List UInt32 → Bool
  | _, [] => true
  | expected, sequence :: rest => sequence == expected && receives next (next expected) rest

/-- All sequence checks of a receiver: the handshake frame has sequence 1, and the loop that follows
it starts with 2. -/
def receivesAll (next : UInt32 → UInt32) : List UInt32 → Bool
  | [] => true
  | first :: rest => first == 1 && receives next 2 rest

theorem receives_sequenceAt {next : UInt32 → UInt32} (hnext : ∀ s, next s = nextSequence s) {k : ℕ}
    (h : ∀ i s, sequences[i]? = some s → s = sequenceAt (k + i)) :
    receives next (sequenceAt k) sequences = true := by
  induction sequences generalizing k with
  | nil => rfl
  | cons first rest ih =>
    have hfirst : first = sequenceAt k := h 0 first rfl
    rw [receives, hfirst, hnext, ← sequenceAt_succ, beq_self_eq_true, Bool.true_and]
    refine ih fun i s hs => ?_
    rw [Nat.add_right_comm]
    exact h (i + 1) s hs

/-- A receiver that counts like `nextSequence` rejects no numbered frame. -/
theorem receivesAll_sequenceAt {next : UInt32 → UInt32} (hnext : ∀ s, next s = nextSequence s)
    (h : ∀ i s, sequences[i]? = some s → s = sequenceAt i) : receivesAll next sequences = true := by
  cases sequences with
  | nil => rfl
  | cons first rest =>
    have hfirst : first = 1 := h 0 first rfl
    have hrest : receives next (sequenceAt 1) rest = true :=
      receives_sequenceAt hnext fun i s hs => by
        rw [Nat.add_comm]
        exact h (i + 1) s hs
    rw [receivesAll, hfirst, beq_self_eq_true, Bool.true_and]
    exact hrest

/-- The bytes of one direction so far: the beginning of an encoding of numbered frames. -/
def Sequenced (wire : List UInt8) : Prop :=
  ∃ frames, Numbered frames ∧ wire <+: frames.flatMap Frame.encode

/-- Whatever part of `wire` has arrived at the Mac, and in whatever fragments, it rejects no frame
that it reads for its sequence. -/
def MacAccepts (wire : List UInt8) : Prop :=
  ∀ (reader : Reader) (n : ℕ) (frames : List Frame) (reader' : Reader), reader.bytes <+: wire →
    readFrames n reader = .ok frames reader' →
      receivesAll nextSequence (frames.map Frame.sequence) = true

theorem Numbered.valid (h : Numbered frames) : ∀ frame ∈ frames, frame.Valid := by
  intro frame hf
  obtain ⟨k, hk⟩ := List.mem_iff_getElem?.mp hf
  exact (h k frame hk).1

theorem Sequenced.macAccepts {wire : List UInt8} (h : Sequenced wire) : MacAccepts wire := by
  intro reader n read reader' harrived hread
  obtain ⟨sent, hnumbered, hwire⟩ := h
  obtain ⟨hvalid, hbytes⟩ := readFrames_ok hread
  have hencoded : read.flatMap Frame.encode <+: sent.flatMap Frame.encode := by
    refine List.IsPrefix.trans ?_ (harrived.trans hwire)
    rw [hbytes]
    exact List.prefix_append _ _
  obtain ⟨rest, rfl⟩ := frames_prefix hvalid hnumbered.valid hencoded
  refine receivesAll_sequenceAt (fun _ => rfl) fun i s hs => ?_
  rw [List.getElem?_map, Option.map_eq_some_iff] at hs
  obtain ⟨frame, hframe, rfl⟩ := hs
  have hlt : i < read.length := (List.getElem?_eq_some_iff.mp hframe).1
  exact (hnumbered i frame (by rw [List.getElem?_append_left hlt, hframe])).2

end HarmonyNetBridge.Daemon
