import HarmonyNetBridge.Relay.SplitDns

/-! What `DNSQuestionName` accepts: the names whose labels and compression pointers lead to a zero
byte inside the message. -/
namespace HarmonyNetBridge.Relay
open Bytes List

/-- `questionLoop` with Go's index and slice expressions; `none` is a panic. -/
def questionLoopIndexed (message : List UInt8) (offset jumps : ℕ) (visited : List ℕ)
    (labels : List (List UInt8)) : Option (Except String (List (List UInt8))) :=
  if offset ≥ message.length then some (.error "DNS question name is truncated")
  else match message[offset]? with
    | none => none
    | some length =>
      if length = 0 then some (.ok labels)
      else if length &&& 0xC0 = 0xC0 then
        if offset + 1 ≥ message.length then some (.error "DNS compression pointer is truncated")
        else match message[offset + 1]? with
          | none => none
          | some next =>
            let pointer := compressionPointer length next
            if pointer ≥ message.length then
              some (.error "DNS compression pointer is outside the message")
            else if pointer ∈ visited ∨ jumps ≥ maximumDNSNameJumps then
              some (.error "DNS compression pointer loop detected")
            else questionLoopIndexed message pointer (jumps + 1) (pointer :: visited) labels
      else if length &&& 0xC0 ≠ 0 then some (.error "DNS question contains an invalid label type")
      else if length > 63 then some (.error "DNS label exceeds 63 bytes")
      else if offset + 1 + length.toNat > message.length then some (.error "DNS label is truncated")
      else match slice message (offset + 1) (offset + 1 + length.toNat) with
        | none => none
        | some label =>
          if label.any unsupportedCharacter then
            some (.error "DNS label contains an unsupported character")
          else questionLoopIndexed message (offset + 1 + length.toNat) jumps visited
            (labels ++ [label])
termination_by (maximumDNSNameJumps - jumps, message.length - offset)

def dnsQuestionNameIndexed (u : Unicode) (message : List UInt8) :
    Option (Except String (List UInt8)) :=
  if message.length < 12 then some (.error "DNS message is shorter than its header")
  else match slice message 4 6 with
    | none => none
    | some count =>
      if value count = 0 then some (.error "DNS message has no question")
      else (questionLoopIndexed message 12 0 [] []).map (·.map (nameOfLabels u))

theorem byte_at {message : List UInt8} {i : ℕ} (hi : ¬ i ≥ message.length) :
    message[i]? = some (message.getD i 0) := by
  rw [getD_eq_getElem?_getD, List.getElem?_eq_getElem (Nat.lt_of_not_ge hi)]
  rfl

/-- No index or slice expression of the loop is out of range. -/
theorem questionLoopIndexed_eq (message : List UInt8) (offset jumps : ℕ) (visited : List ℕ)
    (labels : List (List UInt8)) : questionLoopIndexed message offset jumps visited labels =
      some (questionLoop message offset jumps visited labels) := by
  have hslice : ∀ i n, ¬ i + n > message.length →
      slice message i (i + n) = some ((message.drop i).take n) := by
    intro i n hn
    rw [slice, if_pos ⟨Nat.le_add_right i n, Nat.le_of_not_gt hn⟩, Nat.add_sub_cancel_left]
  -- the two loops take the same branch, with the same bytes
  fun_induction questionLoop message offset jumps visited labels <;> rw [questionLoopIndexed]
  case case1 offset jumps visited labels hend => rw [if_pos hend]
  all_goals rw [if_neg (by assumption), byte_at (by assumption)]; dsimp only
  case case2 hzero => exact if_pos hzero
  all_goals rw [if_neg (by assumption)]
  case case3 hptr hend => rw [if_pos hptr, if_pos hend]
  case case4 hptr hnext pointer houtside =>
    rw [if_pos hptr, if_neg hnext, byte_at hnext]
    exact if_pos houtside
  case case5 hptr hnext pointer hinside hloop =>
    rw [if_pos hptr, if_neg hnext, byte_at hnext]
    exact (if_neg hinside).trans (if_pos hloop)
  case case6 hptr hnext pointer hinside hfresh ih =>
    rw [if_pos hptr, if_neg hnext, byte_at hnext]
    exact ((if_neg hinside).trans (if_neg hfresh)).trans ih
  case case7 hptr htype => rw [if_neg hptr, if_pos htype]
  case case8 hptr htype hlong => rw [if_neg hptr, if_neg htype, if_pos hlong]
  case case9 hptr htype hlong hend =>
    rw [if_neg hptr, if_neg htype, if_neg hlong, if_pos hend]
  case case10 hptr htype hlong hwhole label hany =>
    rw [if_neg hptr, if_neg htype, if_neg hlong, if_neg hwhole, hslice _ _ hwhole]
    exact if_pos hany
  case case11 hptr htype hlong hwhole label hany ih =>
    rw [if_neg hptr, if_neg htype, if_neg hlong, if_neg hwhole, hslice _ _ hwhole]
    exact (if_neg hany).trans ih

theorem dnsQuestionNameIndexed_eq (u : Unicode) (message : List UInt8) :
    dnsQuestionNameIndexed u message = some (dnsQuestionName u message) := by
  unfold dnsQuestionNameIndexed dnsQuestionName questionLabels
  by_cases hshort : message.length < 12
  · rw [if_pos hshort, if_pos hshort]
    rfl
  · rw [if_neg hshort, if_neg hshort, slice, if_pos (by omega)]
    dsimp only
    split
    · rfl
    · rw [questionLoopIndexed_eq]
      rfl

/-- Following labels and compression pointers from an offset reaches a zero byte inside the
message; on the way are these pointer targets and these labels. -/
inductive Expands (message : List UInt8) : ℕ → List ℕ → List (List UInt8) → Prop
  | root {offset : ℕ} (hzero : message[offset]? = some 0) : Expands message offset [] []
  | pointer {offset : ℕ} {targets : List ℕ} {labels : List (List UInt8)} {high low : UInt8}
      (hhigh : message[offset]? = some high) (hlow : message[offset + 1]? = some low)
      (htype : 0xC0 ≤ high)
      (hrest : Expands message (high.toNat % 64 * 256 + low.toNat) targets labels) :
      Expands message offset ((high.toNat % 64 * 256 + low.toNat) :: targets) labels
  | label {offset : ℕ} {targets : List ℕ} {labels : List (List UInt8)} {label : List UInt8}
      (hacc : AcceptedLabel label)
      (hat : UInt8.ofNat label.length :: label <+: message.drop offset)
      (hrest : Expands message (offset + 1 + label.length) targets labels) :
      Expands message offset targets (label :: labels)

section bytes

theorem pointer_type_iff : ∀ b : UInt8, b &&& 0xC0 = 0xC0 ↔ 0xC0 ≤ b :=
  forall_byte (by decide +kernel)

theorem compressionPointer_eq (high low : UInt8) :
    compressionPointer high low = high.toNat % 64 * 256 + low.toNat := by
  have hmask : ∀ b : UInt8, (b &&& 0x3F).toNat = b.toNat % 64 := forall_byte (by decide +kernel)
  have hlow : low.toNat < 2 ^ 8 := low.toNat_lt
  rw [compressionPointer, ← Nat.shiftLeft_add_eq_or_of_lt hlow, hmask, Nat.shiftLeft_eq]

theorem AcceptedLabel.length_byte {label : List UInt8} (h : AcceptedLabel label) :
    (UInt8.ofNat label.length).toNat = label.length ∧ UInt8.ofNat label.length ≠ 0 ∧
      ¬ 0xC0 ≤ UInt8.ofNat label.length := by
  have hshort := h.short
  have hpos : 0 < label.length := length_pos_iff.mpr h.nonempty
  have hbyte : (UInt8.ofNat label.length).toNat = label.length := by
    rw [UInt8.toNat_ofNat', Nat.mod_eq_of_lt (by omega)]
  refine ⟨hbyte, ?_, ?_⟩
  · intro hzero
    rw [hzero] at hbyte
    exact hpos.ne hbyte
  · rw [UInt8.le_iff_toNat_le, hbyte]
    show ¬ 0xC0 ≤ label.length
    omega

theorem getElem?_of_drop {message rest : List UInt8} {offset : ℕ} {b : UInt8}
    (h : b :: rest <+: message.drop offset) : message[offset]? = some b := by
  obtain ⟨later, hlater⟩ := h
  have hhead := congrArg (·[0]?) hlater
  simpa [List.getElem?_drop] using hhead.symm

end bytes

section expansion
variable {message : List UInt8} {offset : ℕ} {targets targets' : List ℕ}
  {labels labels' : List (List UInt8)}

/-- What an offset expands to is determined by the message. -/
theorem Expands.unique (h : Expands message offset targets labels)
    (h' : Expands message offset targets' labels') : targets = targets' ∧ labels = labels' := by
  have hroot : ¬ (0xC0 : UInt8) ≤ 0 := by decide
  induction h generalizing targets' labels' with
  | root hzero =>
    cases h' with
    | root => exact ⟨rfl, rfl⟩
    | pointer hhigh _ htype =>
      rw [Option.some.inj (hhigh.symm.trans hzero)] at htype
      exact absurd htype hroot
    | label hacc hat =>
      have hbyte := (getElem?_of_drop hat).symm.trans hzero
      exact absurd (Option.some.inj hbyte) hacc.length_byte.2.1
  | pointer hhigh hlow htype hrest ih =>
    cases h' with
    | root hzero =>
      rw [Option.some.inj (hhigh.symm.trans hzero)] at htype
      exact absurd htype hroot
    | pointer hhigh' hlow' htype' hrest' =>
      rw [hhigh] at hhigh'
      rw [hlow] at hlow'
      cases hhigh'
      cases hlow'
      obtain ⟨rfl, rfl⟩ := ih hrest'
      exact ⟨rfl, rfl⟩
    | label hacc hat =>
      have hbyte := Option.some.inj (hhigh.symm.trans (getElem?_of_drop hat))
      exact absurd (hbyte ▸ htype) hacc.length_byte.2.2
  | label hacc hat hrest ih =>
    cases h' with
    | root hzero =>
      have hbyte := (getElem?_of_drop hat).symm.trans hzero
      exact absurd (Option.some.inj hbyte) hacc.length_byte.2.1
    | pointer hhigh _ htype =>
      have hbyte := Option.some.inj (hhigh.symm.trans (getElem?_of_drop hat))
      exact absurd (hbyte ▸ htype) hacc.length_byte.2.2
    | label hacc' hat' hrest' =>
      have hbyte := (getElem?_of_drop hat).symm.trans (getElem?_of_drop hat')
      have hlen := congrArg UInt8.toNat (Option.some.inj hbyte)
      rw [hacc.length_byte.1, hacc'.length_byte.1] at hlen
      have hsame := (prefix_of_prefix_length_le hat hat' (by simp [hlen])).eq_of_length
        (by simp [hlen])
      obtain ⟨-, rfl⟩ := List.cons.inj hsame
      obtain ⟨rfl, rfl⟩ := ih hrest'
      exact ⟨rfl, rfl⟩

/-- Each target on the way expands in turn, with fewer pointers. -/
theorem Expands.of_mem (h : Expands message offset targets labels) {target : ℕ}
    (hmem : target ∈ targets) : ∃ later labels', Expands message target later labels' ∧
      later.length < targets.length := by
  induction h with
  | root => simp at hmem
  | pointer hhigh hlow htype hrest ih =>
    rcases mem_cons.mp hmem with rfl | hlater
    · exact ⟨_, _, hrest, by simp⟩
    · obtain ⟨later, labels', hexp, hlt⟩ := ih hlater
      exact ⟨later, labels', hexp, hlt.trans (by simp)⟩
  | label hacc hat hrest ih => exact ih hmem

/-- No pointer of a name with a finite expansion leads to the same place twice. -/
theorem Expands.nodup (h : Expands message offset targets labels) : targets.Nodup := by
  induction h with
  | root => exact nodup_nil
  | pointer hhigh hlow htype hrest ih =>
    refine nodup_cons.mpr ⟨fun hmem => ?_, ih⟩
    obtain ⟨later, labels', hexp, hlt⟩ := hrest.of_mem hmem
    obtain ⟨rfl, -⟩ := hrest.unique hexp
    exact lt_irrefl _ hlt
  | label hacc hat hrest ih => exact ih

theorem Expands.lt_length (h : Expands message offset targets labels) : offset < message.length := by
  cases h with
  | root hzero => exact (List.getElem?_eq_some_iff.mp hzero).1
  | pointer hhigh => exact (List.getElem?_eq_some_iff.mp hhigh).1
  | label _ hat => exact (List.getElem?_eq_some_iff.mp (getElem?_of_drop hat)).1

theorem Expands.accepted (h : Expands message offset targets labels) :
    ∀ label ∈ labels, AcceptedLabel label := by
  induction h with
  | root => simp
  | pointer hhigh hlow htype hrest ih => exact ih
  | label hacc hat hrest ih => exact forall_mem_cons.mpr ⟨hacc, ih⟩

theorem getD_of_getElem? {i : ℕ} {b : UInt8} (h : message[i]? = some b) : message.getD i 0 = b := by
  rw [getD_eq_getElem?_getD, h, Option.getD_some]

theorem questionLoop_root (hzero : message[offset]? = some 0) (jumps : ℕ) (visited : List ℕ)
    (before : List (List UInt8)) :
    questionLoop message offset jumps visited before = .ok before := by
  have hlt := (List.getElem?_eq_some_iff.mp hzero).1
  rw [questionLoop, if_neg (by omega), getD_of_getElem? hzero]
  exact if_pos rfl

variable {jumps : ℕ} {visited : List ℕ}

theorem questionLoop_pointer {high low : UInt8} (hhigh : message[offset]? = some high)
    (hlow : message[offset + 1]? = some low) (htype : 0xC0 ≤ high)
    (hinside : high.toNat % 64 * 256 + low.toNat < message.length)
    (hfresh : high.toNat % 64 * 256 + low.toNat ∉ visited) (hjumps : jumps < maximumDNSNameJumps)
    (before : List (List UInt8)) : questionLoop message offset jumps visited before =
      questionLoop message (high.toNat % 64 * 256 + low.toNat) (jumps + 1)
        ((high.toNat % 64 * 256 + low.toNat) :: visited) before := by
  have hlt := (List.getElem?_eq_some_iff.mp hhigh).1
  have hnext := (List.getElem?_eq_some_iff.mp hlow).1
  have hzero : high ≠ 0 := by
    rintro rfl
    exact absurd htype (by decide)
  rw [questionLoop, if_neg (by omega), getD_of_getElem? hhigh, getD_of_getElem? hlow]
  dsimp only
  rw [if_neg hzero, if_pos ((pointer_type_iff high).mpr htype), if_neg (by omega),
    compressionPointer_eq, if_neg (by omega), if_neg (not_or.mpr ⟨hfresh, by omega⟩)]

theorem questionLoop_of_expands (h : Expands message offset targets labels)
    (before : List (List UInt8)) (hjumps : jumps + targets.length ≤ maximumDNSNameJumps)
    (hvisited : ∀ target ∈ targets, target ∉ visited) :
    questionLoop message offset jumps visited before = .ok (before ++ labels) := by
  induction h generalizing jumps visited before with
  | root hzero => rw [questionLoop_root hzero, append_nil]
  | pointer hhigh hlow htype hrest ih =>
    have hnodup := nodup_cons.mp (Expands.pointer hhigh hlow htype hrest).nodup
    rw [length_cons] at hjumps
    rw [questionLoop_pointer hhigh hlow htype hrest.lt_length (hvisited _ (by simp)) (by omega)]
    refine ih before (by omega) fun target hmem hseen => ?_
    rcases mem_cons.mp hseen with rfl | hold
    · exact hnodup.1 hmem
    · exact hvisited target (mem_cons_of_mem _ hmem) hold
  | @label offset targets labels label hacc hat hrest ih =>
    have hlt := (Expands.label hacc hat hrest).lt_length
    obtain ⟨rest, hmessage⟩ := hat
    have hfront : (message.take offset).length = offset := length_take_of_le hlt.le
    have hshape : message = message.take offset ++ UInt8.ofNat label.length :: (label ++ rest) := by
      rw [← cons_append, hmessage, take_append_drop]
    have hstep := @questionLoop_label (message.take offset) rest label hacc jumps visited before
    rw [← hshape, hfront] at hstep
    rw [hstep, ih (before ++ [label]) hjumps hvisited, append_assoc]
    rfl

theorem expands_of_questionLoop {before result : List (List UInt8)}
    (h : questionLoop message offset jumps visited before = .ok result)
    (hjumps : jumps ≤ maximumDNSNameJumps) :
    ∃ targets labels, Expands message offset targets labels ∧
      jumps + targets.length ≤ maximumDNSNameJumps ∧ result = before ++ labels := by
  fun_induction questionLoop message offset jumps visited before
  all_goals try cases h
  case case2 hoffset length hzero =>
    exact ⟨[], [], .root (hzero ▸ byte_at hoffset), hjumps, by simp⟩
  case case6 hoffset length _ htype hnext pointer _ hfresh ih =>
    obtain ⟨targets, labels, hexp, hle, rfl⟩ := ih h (by omega)
    have hptr : pointer = _ := compressionPointer_eq length _
    rw [hptr] at hexp
    refine ⟨_, labels, .pointer (byte_at hoffset) (byte_at hnext) ((pointer_type_iff _).mp htype)
      hexp, ?_, rfl⟩
    rw [length_cons]
    omega
  case case11 offset jumps visited before hoffset length hpos _ _ hmax hsize label hany ih =>
    obtain ⟨targets, labels, hexp, hle, rfl⟩ := ih h hjumps
    have hacc : AcceptedLabel label :=
      acceptedLabel_take hpos hmax (by rw [length_drop]; omega) hany
    have hlen : label.length = length.toNat := by
      rw [length_take_of_le (by rw [length_drop]; omega)]
    refine ⟨targets, label :: labels, .label hacc ?_ (hlen ▸ hexp), hle, by simp⟩
    obtain ⟨hlt, hbyte⟩ := List.getElem?_eq_some_iff.mp (byte_at hoffset)
    rw [hlen, UInt8.ofNat_toNat, drop_eq_getElem_cons hlt, hbyte]
    exact (prefix_cons_inj _).mpr (List.take_prefix _ _)

end expansion

/-- The labels in lower case with dots between them, or a dot when there are none. -/
def dottedName (labels : List (List UInt8)) : List UInt8 :=
  if labels = [] then [dot] else [dot].intercalate (labels.map lowerLabel)

theorem nameOfLabels_eq (u : Unicode) {labels : List (List UInt8)}
    (h : ∀ label ∈ labels, AcceptedLabel label) : nameOfLabels u labels = dottedName labels := by
  have hplain : ∀ b ∈ [dot].intercalate labels, isAscii b = true :=
    fun b hb => (supported_plain b (supported_joined h b hb)).1
  rw [nameOfLabels, dottedName, Unicode.lower_of_ascii hplain, map_lowerByte_joined]

/-- `DNSQuestionName` reads no byte outside the message. It returns a name exactly for a message of
at least 12 bytes with a question whose labels and pointers lead to a zero byte with at most 32
pointers, and then the name of these labels. No finite expansion passes a pointer target twice, so
the check of the visited pointers rejects none of them. -/
theorem dnsQuestionName_exact (u : Unicode) (message : List UInt8) :
    dnsQuestionNameIndexed u message = some (dnsQuestionName u message) ∧
    (∀ name, dnsQuestionName u message = .ok name ↔
      12 ≤ message.length ∧ value ((message.drop 4).take 2) ≠ 0 ∧
      ∃ targets labels, Expands message 12 targets labels ∧ targets.length ≤ 32 ∧
        name = dottedName labels) ∧
    (∀ targets labels, Expands message 12 targets labels → targets.Nodup) := by
  refine ⟨dnsQuestionNameIndexed_eq u message, fun name => ?_, fun _ _ h => h.nodup⟩
  unfold dnsQuestionName questionLabels
  by_cases hshort : message.length < 12
  · rw [if_pos hshort]
    exact iff_of_false (by simp [Except.map]) fun h => absurd h.1 (Nat.not_le.mpr hshort)
  · by_cases hcount : value ((message.drop 4).take 2) = 0
    · rw [if_neg hshort, if_pos hcount]
      exact iff_of_false (by simp [Except.map]) fun h => absurd hcount h.2.1
    · rw [if_neg hshort, if_neg hcount]
      constructor
      · intro h
        cases hloop : questionLoop message 12 0 [] [] with
        | error e =>
          rw [hloop] at h
          cases h
        | ok result =>
          rw [hloop] at h
          cases h
          obtain ⟨targets, labels, hexp, hle, hresult⟩ :=
            expands_of_questionLoop hloop (Nat.zero_le _)
          rw [Nat.zero_add] at hle
          refine ⟨by omega, hcount, targets, labels, hexp, hle, ?_⟩
          rw [hresult, nil_append, nameOfLabels_eq u hexp.accepted]
      · rintro ⟨-, -, targets, labels, hexp, hle, rfl⟩
        have hjumps : 0 + targets.length ≤ maximumDNSNameJumps := by
          rw [Nat.zero_add]
          exact hle
        rw [questionLoop_of_expands hexp [] hjumps (by simp), ← nameOfLabels_eq u hexp.accepted]
        rfl

end HarmonyNetBridge.Relay
