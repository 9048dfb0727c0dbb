import HarmonyNetBridge.Proxy.ClientHello

/-! The records of TLS that carry a handshake, and how `sniffTLSClientHello` puts the handshake
together again, however it was cut into records and however many bytes of them have arrived. -/
namespace HarmonyNetBridge.Proxy
open Bytes List

structure HandshakeRecord where
  version : List UInt8
  fragment : List UInt8
  version_length : version.length = 2
  fragment_length : fragment.length < 256 ^ 2
  fragment_ne_nil : fragment ≠ []

namespace HandshakeRecord

def encode (r : HandshakeRecord) : List UInt8 := 0x16 :: (r.version ++ vector 2 r.fragment)

variable (r : HandshakeRecord)

theorem length_encode : r.encode.length = 5 + r.fragment.length := by
  simp only [encode, length_cons, length_append, length_vector, r.version_length]
  omega

theorem size_pos : 0 < r.fragment.length := length_pos_iff.mpr r.fragment_ne_nil

end HandshakeRecord

theorem uint24_eq_value {bytes : List UInt8} (h : 4 ≤ bytes.length) :
    (bytes.getD 1 0).toNat <<< 16 ||| (bytes.getD 2 0).toNat <<< 8 ||| (bytes.getD 3 0).toNat =
      value ((bytes.drop 1).take 3) := by
  obtain ⟨a, b, c, d, rest, rfl⟩ : ∃ a b c d rest, bytes = a :: b :: c :: d :: rest := by
    match bytes, h with
    | a :: b :: c :: d :: rest, _ => exact ⟨a, b, c, d, rest, rfl⟩
  have hlow : c.toNat * 2 ^ 8 + d.toNat < 2 ^ 16 := by
    have hc := c.toNat_lt
    have hd := d.toNat_lt
    omega
  simp only [getD_cons_succ, getD_cons_zero, Nat.or_assoc]
  rw [shiftLeft_or_eq d.toNat_lt, shiftLeft_or_eq hlow]
  simp [value]

section
variable (u : Unicode) (ipv6 : List UInt8 → Bool)

/-- What the loop of `sniffTLSClientHello` makes of the handshake bytes that it has collected; `none`
if it needs another record. -/
def judge (handshake : List UInt8) : Option (List UInt8 × SniffResult) :=
  let handshakeLength := value ((handshake.drop 1).take 3)
  if handshake.length < 4 then none
  else if handshake.getD 0 0 ≠ 0x01 ∨ handshakeLength > maxInitialClientBytes - 4 then
    some ([], .unavailable)
  else if handshake.length < 4 + handshakeLength then none
  else
    match clientHelloServerName u ipv6 ((handshake.drop 4).take handshakeLength) with
    | none => some ([], .unavailable)
    | some host => some (host, .resolved)

end

section
variable {u : Unicode} {ipv6 : List UInt8 → Bool} {payload handshake rest : List UInt8} {offset : ℕ}

/-- The conditions of the loop behind the `append`, in one place; `next` is the next round. -/
theorem judge_getD (collected : List UInt8) (next : List UInt8 × SniffResult) :
    (let handshakeLength :=
      (collected.getD 1 0).toNat <<< 16 ||| (collected.getD 2 0).toNat <<< 8 |||
        (collected.getD 3 0).toNat
    if 4 ≤ collected.length ∧ collected.getD 0 0 ≠ 0x01 then ([], .unavailable)
    else if 4 ≤ collected.length ∧ handshakeLength > maxInitialClientBytes - 4 then
      ([], .unavailable)
    else if 4 ≤ collected.length ∧ 4 + handshakeLength ≤ collected.length then
      match clientHelloServerName u ipv6 ((collected.drop 4).take handshakeLength) with
      | none => ([], .unavailable)
      | some host => (host, .resolved)
    else next) = (judge u ipv6 collected).getD next := by
  unfold judge
  dsimp only
  by_cases hshort : collected.length < 4
  · simp [hshort, Nat.not_le.mpr hshort]
  have hlong : 4 ≤ collected.length := Nat.not_lt.mp hshort
  rw [if_neg hshort, uint24_eq_value hlong]
  generalize value ((collected.drop 1).take 3) = handshakeLength
  simp only [hlong, true_and]
  by_cases hfirst : collected.getD 0 0 ≠ 0x01
  · rw [if_pos hfirst, if_pos (.inl hfirst)]
    rfl
  by_cases hlarge : handshakeLength > maxInitialClientBytes - 4
  · rw [if_neg hfirst, if_pos hlarge, if_pos (.inr hlarge)]
    rfl
  rw [if_neg hfirst, if_neg hlarge, if_neg (not_or.mpr ⟨hfirst, hlarge⟩)]
  by_cases hdone : 4 + handshakeLength ≤ collected.length
  · rw [if_pos hdone, if_neg (Nat.not_lt.mpr hdone)]
    cases clientHelloServerName u ipv6 ((collected.drop 4).take handshakeLength) <;> rfl
  · rw [if_neg hdone, if_pos (Nat.not_le.mp hdone)]
    rfl

theorem sniffRecords_round (payload : List UInt8) (offset : ℕ) (handshake : List UInt8) :
    sniffRecords u ipv6 payload offset handshake =
      (let recordLength := uint16At payload (offset + 3)
      let collected := handshake ++ (payload.drop (offset + 5)).take recordLength
      if payload.length < offset + 5 then ([], .needMore)
      else if payload.getD offset 0 ≠ 0x16 then ([], .unavailable)
      else if recordLength = 0 ∨ recordLength > maxInitialClientBytes ∨
          handshake.length + recordLength > maxInitialClientBytes then ([], .unavailable)
      else if payload.length < offset + 5 + recordLength then ([], .needMore)
      else (judge u ipv6 collected).getD
        (if offset + 5 + recordLength = payload.length then ([], .needMore)
        else sniffRecords u ipv6 payload (offset + 5 + recordLength) collected)) := by
  rw [sniffRecords]
  dsimp only
  rewrite [← judge_getD]
  rfl

variable {r : HandshakeRecord} {more : List UInt8}

theorem record_header (h : payload.drop offset ++ more = r.encode ++ rest)
    (hlong : offset + 5 ≤ payload.length) :
    payload.getD offset 0 = 0x16 ∧ uint16At payload (offset + 3) = r.fragment.length := by
  have hdrop : 5 ≤ (payload.drop offset).length := by
    rw [length_drop]
    omega
  constructor
  · have hhead : (payload.drop offset ++ more)[0]? = (r.encode ++ rest)[0]? := by rw [h]
    rw [List.getElem?_append_left (by omega), List.getElem?_drop, Nat.add_zero] at hhead
    rw [getD_eq_getElem?_getD, hhead]
    rfl
  · have hsize : ((r.encode ++ rest).drop 3).take 2 = bigEndian 2 r.fragment.length := by
      have hfront : (0x16 :: r.version).length = 3 := by rw [length_cons, r.version_length]
      have hshape : r.encode ++ rest = (0x16 :: r.version) ++
          (bigEndian 2 r.fragment.length ++ (r.fragment ++ rest)) := by
        simp [HandshakeRecord.encode, vector]
      rw [hshape, drop_left' hfront, take_left' (length_bigEndian _ _)]
    rw [← h, drop_append_of_le_length (by omega), drop_drop,
      take_append_of_le_length (by rw [length_drop]; omega)] at hsize
    rw [uint16At_eq_value (by omega), hsize, value_bigEndian_of_lt r.fragment_length]

theorem sniffRecords_record (h : payload.drop offset = r.encode ++ rest)
    (hfits : handshake.length + r.fragment.length ≤ maxInitialClientBytes) :
    sniffRecords u ipv6 payload offset handshake =
      (judge u ipv6 (handshake ++ r.fragment)).getD
        (if rest = [] then ([], .needMore)
        else sniffRecords u ipv6 payload (offset + 5 + r.fragment.length)
          (handshake ++ r.fragment)) := by
  have hlen := congrArg List.length h
  rw [length_drop, length_append, r.length_encode] at hlen
  have hbytes : payload.drop offset ++ [] = r.encode ++ rest := by rw [append_nil, h]
  obtain ⟨htype, hsize⟩ := record_header hbytes (by omega)
  have hfragment : (payload.drop (offset + 5)).take r.fragment.length = r.fragment := by
    have hfront : (0x16 :: (r.version ++ bigEndian 2 r.fragment.length)).length = 5 := by
      rw [length_cons, length_append, r.version_length, length_bigEndian]
    have hshape : r.encode ++ rest = (0x16 :: (r.version ++ bigEndian 2 r.fragment.length)) ++
        (r.fragment ++ rest) := by
      simp [HandshakeRecord.encode, vector]
    rw [← drop_drop, h, hshape, drop_left' hfront, take_left]
  have hpos := r.size_pos
  have hlast : rest = [] ↔ offset + 5 + r.fragment.length = payload.length := by
    rw [← length_eq_zero_iff]
    omega
  rw [sniffRecords_round]
  dsimp only
  rw [if_neg (by omega), if_neg (not_not.mpr htype), hsize, if_neg (by omega), if_neg (by omega),
    hfragment]
  simp only [← hlast]

theorem sniffRecords_partial (h : payload.drop offset ++ more = r.encode ++ rest)
    (hpart : (payload.drop offset).length < r.encode.length)
    (hfits : handshake.length + r.fragment.length ≤ maxInitialClientBytes) :
    sniffRecords u ipv6 payload offset handshake = ([], .needMore) := by
  rw [length_drop, r.length_encode] at hpart
  rw [sniffRecords]
  by_cases hheader : payload.length < offset + 5
  · rw [if_pos hheader]
  · obtain ⟨htype, hsize⟩ := record_header h (by omega)
    have hpos := r.size_pos
    rw [if_neg hheader, if_neg (not_not.mpr htype), hsize]
    dsimp only
    rw [if_neg (by omega), if_pos (by omega)]

section handshake
variable {body more : List UInt8} {host : List UInt8}

theorem message_header (h : handshake ++ more = 1 :: (vector 3 body ++ rest))
    (hlong : 4 ≤ handshake.length) (hbody : body.length ≤ maxInitialClientBytes - 4) :
    handshake.getD 0 0 = 1 ∧ value ((handshake.drop 1).take 3) = body.length := by
  constructor
  · have hhead : (handshake ++ more)[0]? = some 1 := by rw [h, List.getElem?_cons_zero]
    rw [List.getElem?_append_left (by omega)] at hhead
    rw [getD_eq_getElem?_getD, hhead]
    rfl
  · have hsize : ((handshake ++ more).drop 1).take 3 = bigEndian 3 body.length := by
      rw [h, drop_one, tail_cons, vector, append_assoc,
        take_left' (length_bigEndian _ _)]
    rw [drop_append_of_le_length (by omega),
      take_append_of_le_length (by rw [length_drop]; omega)] at hsize
    rw [hsize, value_bigEndian_of_lt]
    exact Nat.lt_of_le_of_lt hbody (by decide)

theorem judge_front (h : handshake ++ more = 1 :: vector 3 body) (hmore : more ≠ [])
    (hbody : body.length ≤ maxInitialClientBytes - 4) : judge u ipv6 handshake = none := by
  have hlen := congrArg List.length h
  have hpos := length_pos_iff.mpr hmore
  rw [length_append, length_cons, length_vector] at hlen
  unfold judge
  dsimp only
  by_cases hshort : handshake.length < 4
  · rw [if_pos hshort]
  · have hshape : handshake ++ more = 1 :: (vector 3 body ++ []) := by rw [h, append_nil]
    obtain ⟨hfirst, hsize⟩ := message_header hshape (Nat.not_lt.mp hshort) hbody
    rw [if_neg hshort, hsize, if_neg (not_or.mpr ⟨not_not.mpr hfirst, by omega⟩), if_pos (by omega)]

theorem judge_message (hbody : body.length ≤ maxInitialClientBytes - 4)
    (hname : clientHelloServerName u ipv6 body = some host) (rest : List UInt8) :
    judge u ipv6 (1 :: (vector 3 body ++ rest)) = some (host, .resolved) := by
  have hlen : (1 :: (vector 3 body ++ rest)).length = 4 + body.length + rest.length := by
    rw [length_cons, length_append, length_vector]
    omega
  obtain ⟨hfirst, hsize⟩ := message_header (append_nil (1 :: (vector 3 body ++ rest)))
    (by omega) hbody
  have hdata : (1 :: (vector 3 body ++ rest)).drop 4 = body ++ rest := by
    rw [drop_succ_cons, vector, append_assoc, drop_left' (length_bigEndian _ _)]
  unfold judge
  dsimp only
  rw [if_neg (by omega), hsize, if_neg (not_or.mpr ⟨not_not.mpr hfirst, by omega⟩),
    if_neg (by omega), hdata, take_left, hname]

theorem judge_resolved (h : judge u ipv6 handshake = some (host, .resolved)) :
    ∃ body more, handshake = 1 :: (vector 3 body ++ more) ∧
      clientHelloServerName u ipv6 body = some host := by
  unfold judge at h
  dsimp only at h
  split at h
  · cases h
  rename_i hlong
  split at h
  · cases h
  rename_i hfirst
  split at h
  · cases h
  rename_i hdone
  split at h
  · cases h
  rename_i name hname
  cases h
  have hread := takeVector_drop 3 1 handshake
  rw [if_neg (by omega)] at hread
  obtain ⟨hshape, -⟩ := takeVector_eq_some_iff.mp hread
  have hhead : handshake = 1 :: handshake.drop 1 := by
    cases handshake with
    | nil => exact absurd hlong (by simp)
    | cons b rest =>
      have hb : b = 1 := by simpa using (not_or.mp hfirst).1
      rw [hb]
      rfl
  exact ⟨_, _, hhead.trans (congrArg (1 :: ·) hshape), hname⟩

end handshake

section message
variable {records : List HandshakeRecord} {body host : List UInt8}

theorem fragments_ne_nil (h : records ≠ []) : records.flatMap HandshakeRecord.fragment ≠ [] := by
  cases records with
  | nil => exact absurd rfl h
  | cons r records =>
    rw [flatMap_cons]
    exact append_ne_nil_of_left_ne_nil r.fragment_ne_nil _

theorem encode_ne_nil (h : records ≠ []) : records.flatMap HandshakeRecord.encode ≠ [] := by
  cases records with
  | nil => exact absurd rfl h
  | cons r records =>
    rw [flatMap_cons]
    exact append_ne_nil_of_left_ne_nil (cons_ne_nil _ _) _

/-- The records that are left carry the rest of the message: the loop goes on to the last of them. -/
theorem sniffRecords_message (h : payload.drop offset = records.flatMap HandshakeRecord.encode ++ rest)
    (hmessage : handshake ++ records.flatMap HandshakeRecord.fragment = 1 :: vector 3 body)
    (hrecords : records ≠ []) (hbody : body.length ≤ maxInitialClientBytes - 4)
    (hname : clientHelloServerName u ipv6 body = some host) :
    sniffRecords u ipv6 payload offset handshake = (host, .resolved) := by
  induction records generalizing offset handshake with
  | nil => exact absurd rfl hrecords
  | cons r records ih =>
    have hlen := congrArg List.length hmessage
    simp only [flatMap_cons, length_append, length_cons, length_vector] at hlen
    have hmax : maxInitialClientBytes = 65536 := rfl
    rw [flatMap_cons, append_assoc] at h
    rw [flatMap_cons, ← append_assoc] at hmessage
    rw [sniffRecords_record h (by omega)]
    by_cases hlast : records = []
    · rw [hlast, flatMap_nil, append_nil] at hmessage
      have hjudge := judge_message hbody hname []
      rw [append_nil] at hjudge
      rw [hmessage, hjudge]
      rfl
    · have hrest : records.flatMap HandshakeRecord.encode ++ rest ≠ [] :=
        append_ne_nil_of_left_ne_nil (encode_ne_nil hlast) _
      rw [judge_front hmessage (fragments_ne_nil hlast) hbody, Option.getD_none, if_neg hrest]
      refine ih ?_ hmessage hlast
      rw [Nat.add_assoc, ← r.length_encode, ← drop_drop, h, drop_left]

theorem sniffRecords_front {more : List UInt8}
    (h : payload.drop offset ++ more = records.flatMap HandshakeRecord.encode)
    (hmessage : handshake ++ records.flatMap HandshakeRecord.fragment = 1 :: vector 3 body)
    (hmore : more ≠ []) (hbody : body.length ≤ maxInitialClientBytes - 4) :
    sniffRecords u ipv6 payload offset handshake = ([], .needMore) := by
  induction records generalizing offset handshake with
  | nil =>
    rw [flatMap_nil, append_eq_nil_iff] at h
    exact absurd h.2 hmore
  | cons r records ih =>
    have hlen := congrArg List.length hmessage
    simp only [flatMap_cons, length_append, length_cons, length_vector] at hlen
    have hmax : maxInitialClientBytes = 65536 := rfl
    rw [flatMap_cons] at h
    rcases Nat.lt_or_ge (payload.drop offset).length r.encode.length with hpart | hall
    · exact sniffRecords_partial h hpart (by omega)
    · obtain ⟨front, hfront⟩ := prefix_of_prefix_length_le (prefix_append r.encode _)
        ⟨more, h⟩ hall
      rw [← hfront, append_assoc, append_cancel_left_eq] at h
      rw [flatMap_cons, ← append_assoc] at hmessage
      have hlast : records ≠ [] := by
        intro hnil
        rw [hnil, flatMap_nil, append_eq_nil_iff] at h
        exact hmore h.2
      rw [sniffRecords_record hfront.symm (by omega),
        judge_front hmessage (fragments_ne_nil hlast) hbody, Option.getD_none]
      split
      · rfl
      · refine ih ?_ hmessage
        rw [Nat.add_assoc, ← r.length_encode, ← drop_drop, ← hfront, drop_left, h]

end message

theorem exists_record {payload : List UInt8} {offset : ℕ} (htype : payload.getD offset 0 = 0x16)
    (hpos : uint16At payload (offset + 3) ≠ 0)
    (hwhole : offset + 5 + uint16At payload (offset + 3) ≤ payload.length) :
    ∃ (r : HandshakeRecord) (rest : List UInt8), payload.drop offset = r.encode ++ rest ∧
      r.fragment.length = uint16At payload (offset + 3) := by
  have hsize : uint16At payload (offset + 3) = value ((payload.drop (offset + 3)).take 2) :=
    uint16At_eq_value (by omega)
  have hread := takeVector_drop 2 (offset + 3) payload
  rw [← hsize, if_neg (by omega), ← drop_drop] at hread
  obtain ⟨e, hshape, htag, hdata⟩ := exists_entry hread
  have hhead : (payload.drop offset).take 3 = 0x16 :: (payload.drop (offset + 1)).take 2 := by
    have hlt : offset < payload.length := by omega
    rw [getD_eq_getElem _ _ hlt] at htype
    rw [drop_eq_getElem_cons hlt, take_succ_cons, htype]
  have hlen : e.data.length = uint16At payload (offset + 3) := by
    rw [hdata, length_take, length_drop]
    omega
  have hne : e.data ≠ [] := by
    rw [← length_pos_iff]
    omega
  have hversion : ((payload.drop (offset + 1)).take 2).length = 2 := by
    rw [length_take, length_drop]
    omega
  have hencode : e.encode = 0x16 :: ((payload.drop (offset + 1)).take 2 ++ vector 2 e.data) := by
    unfold Entry.encode
    rw [htag, hhead]
    rfl
  exact ⟨⟨(payload.drop (offset + 1)).take 2, e.data, hversion, e.data_length, hne⟩, _,
    hshape.trans (congrArg (· ++ _) hencode), hlen⟩

theorem uint16At_append {bytes : List UInt8} {i : ℕ} (more : List UInt8) (h : i + 1 < bytes.length) :
    uint16At (bytes ++ more) i = uint16At bytes i := by
  unfold uint16At
  rw [getD_append _ _ _ _ (by omega), getD_append _ _ _ _ h]

/-- Without a whole record at the offset the loop ends: it asks for more bytes, or it gives up, and
then more bytes change nothing. -/
theorem sniffRecords_cases (u : Unicode) (ipv6 : List UInt8 → Bool) (payload : List UInt8)
    (offset : ℕ) (handshake : List UInt8) :
    (∃ (r : HandshakeRecord) (rest : List UInt8), payload.drop offset = r.encode ++ rest ∧
      handshake.length + r.fragment.length ≤ maxInitialClientBytes) ∨
    sniffRecords u ipv6 payload offset handshake = ([], .needMore) ∨
    ∀ more, sniffRecords u ipv6 (payload ++ more) offset handshake = ([], .unavailable) := by
  by_cases hheader : payload.length < offset + 5
  · refine .inr (.inl ?_)
    rw [sniffRecords, if_pos hheader]
  have htypeAppend (more : List UInt8) : (payload ++ more).getD offset 0 = payload.getD offset 0 :=
    getD_append _ _ _ _ (by omega)
  by_cases htype : payload.getD offset 0 ≠ 0x16
  · refine .inr (.inr fun more => ?_)
    rw [sniffRecords, if_neg (by rw [length_append]; omega), if_pos (htypeAppend more ▸ htype)]
  by_cases hbad : uint16At payload (offset + 3) = 0 ∨
      uint16At payload (offset + 3) > maxInitialClientBytes ∨
      handshake.length + uint16At payload (offset + 3) > maxInitialClientBytes
  · refine .inr (.inr fun more => ?_)
    rw [sniffRecords, if_neg (by rw [length_append]; omega), if_neg (htypeAppend more ▸ htype)]
    dsimp only
    rw [uint16At_append more (by omega), if_pos hbad]
  by_cases hpart : payload.length < offset + 5 + uint16At payload (offset + 3)
  · refine .inr (.inl ?_)
    rw [sniffRecords, if_neg hheader, if_neg htype]
    dsimp only
    rw [if_neg hbad, if_pos hpart]
  left
  obtain ⟨r, rest, hshape, hlen⟩ := exists_record (not_not.mp htype) (by omega) (by omega)
  exact ⟨r, rest, hshape, by omega⟩

/-- The rounds of the loop as an induction: it asks for more bytes, it gives up on the header of a
record, it judges what it has collected, or it goes on to the next record. -/
theorem sniffRecords_rounds (u : Unicode) (ipv6 : List UInt8 → Bool) (payload : List UInt8)
    {motive : ℕ → List UInt8 → Prop} (waits : ∀ offset handshake,
      sniffRecords u ipv6 payload offset handshake = ([], .needMore) → motive offset handshake)
    (givesUp : ∀ offset handshake,
      (∀ more, sniffRecords u ipv6 (payload ++ more) offset handshake = ([], .unavailable)) →
      motive offset handshake)
    (judges : ∀ offset handshake (r : HandshakeRecord) rest result,
      payload.drop offset = r.encode ++ rest →
      handshake.length + r.fragment.length ≤ maxInitialClientBytes →
      judge u ipv6 (handshake ++ r.fragment) = some result → motive offset handshake)
    (goesOn : ∀ offset handshake (r : HandshakeRecord) rest,
      payload.drop offset = r.encode ++ rest →
      handshake.length + r.fragment.length ≤ maxInitialClientBytes →
      judge u ipv6 (handshake ++ r.fragment) = none → rest ≠ [] →
      motive (offset + 5 + r.fragment.length) (handshake ++ r.fragment) → motive offset handshake)
    (offset : ℕ) (handshake : List UInt8) : motive offset handshake := by
  induction hleft : payload.length - offset using Nat.strongRecOn
    generalizing offset handshake with
  | ind left ih =>
    rcases sniffRecords_cases u ipv6 payload offset handshake with
      ⟨r, rest, hrecord, hfits⟩ | hmore | hgiven
    · cases hjudge : judge u ipv6 (handshake ++ r.fragment) with
      | some result => exact judges offset handshake r rest result hrecord hfits hjudge
      | none =>
        by_cases hlast : rest = []
        · apply waits
          rw [sniffRecords_record hrecord hfits, hjudge, Option.getD_none, if_pos hlast]
        · have hlen := congrArg List.length hrecord
          rw [length_drop, length_append, r.length_encode] at hlen
          exact goesOn offset handshake r rest hrecord hfits hjudge hlast (ih _ (by omega) _ _ rfl)
    · exact waits offset handshake hmore
    · exact givesUp offset handshake hgiven

/-- A name that is returned stands in a ClientHello that begins the contents of the records. -/
theorem sniffRecords_resolved {host : List UInt8}
    (h : sniffRecords u ipv6 payload offset handshake = (host, .resolved)) :
    ∃ (records : List HandshakeRecord) (rest body more : List UInt8),
      payload.drop offset = records.flatMap HandshakeRecord.encode ++ rest ∧
      handshake ++ records.flatMap HandshakeRecord.fragment = 1 :: (vector 3 body ++ more) ∧
      clientHelloServerName u ipv6 body = some host := by
  induction offset, handshake using sniffRecords_rounds u ipv6 payload with
  | waits offset handshake hmore =>
    rw [hmore] at h
    cases h
  | givesUp offset handshake hgiven =>
    have hnow := hgiven []
    rw [append_nil, h] at hnow
    cases hnow
  | judges offset handshake r rest result hrecord hfits hjudge =>
    rw [sniffRecords_record hrecord hfits, hjudge, Option.getD_some] at h
    rw [h] at hjudge
    obtain ⟨body, more, hmessage, hname⟩ := judge_resolved hjudge
    exact ⟨[r], rest, body, more, by simpa using hrecord, by simpa using hmessage, hname⟩
  | goesOn offset handshake r rest hrecord hfits hjudge hlast ih =>
    rw [sniffRecords_record hrecord hfits, hjudge, Option.getD_none, if_neg hlast] at h
    obtain ⟨records, rest', body, more, hrest, hmessage, hname⟩ := ih h
    rw [Nat.add_assoc, ← r.length_encode, ← drop_drop, hrecord, drop_left] at hrest
    have hall : payload.drop offset = (r :: records).flatMap HandshakeRecord.encode ++ rest' := by
      rw [hrecord, hrest, flatMap_cons, append_assoc]
    have hcontents : handshake ++ (r :: records).flatMap HandshakeRecord.fragment =
        1 :: (vector 3 body ++ more) := by
      rw [← hmessage, flatMap_cons, append_assoc]
    exact ⟨r :: records, rest', body, more, hall, hcontents, hname⟩

theorem drop_append_record {r : HandshakeRecord} (h : payload.drop offset = r.encode ++ rest)
    (more : List UInt8) : (payload ++ more).drop offset = r.encode ++ (rest ++ more) := by
  have hlen := congrArg List.length h
  rw [length_drop, length_append, r.length_encode] at hlen
  rw [drop_append_of_le_length (by omega), h, append_assoc]

/-- A search in the records that has ended does not change its result when more bytes arrive. -/
theorem sniffRecords_append (more : List UInt8)
    (h : (sniffRecords u ipv6 payload offset handshake).2 ≠ .needMore) :
    sniffRecords u ipv6 (payload ++ more) offset handshake =
      sniffRecords u ipv6 payload offset handshake := by
  induction offset, handshake using sniffRecords_rounds u ipv6 payload with
  | waits offset handshake hmore =>
    rw [hmore] at h
    exact absurd rfl h
  | givesUp offset handshake hgiven =>
    have hnow := hgiven []
    rw [append_nil] at hnow
    rw [hgiven more, hnow]
  | judges offset handshake r rest result hrecord hfits hjudge =>
    rw [sniffRecords_record (drop_append_record hrecord more) hfits,
      sniffRecords_record hrecord hfits, hjudge, Option.getD_some, Option.getD_some]
  | goesOn offset handshake r rest hrecord hfits hjudge hlast ih =>
    -- More bytes do not make the record at hand the last one, so both searches go on behind it.
    have hnotLast : rest ++ more ≠ [] := append_ne_nil_of_left_ne_nil hlast more
    rw [sniffRecords_record hrecord hfits, hjudge, Option.getD_none, if_neg hlast] at h ⊢
    rw [sniffRecords_record (drop_append_record hrecord more) hfits, hjudge, Option.getD_none,
      if_neg hnotLast]
    exact ih h

end

/-- What `sniffTLSClientHello` has decided on some bytes, a name or that there is none, it decides
on every stream that begins with them. -/
theorem sniffTLSClientHello_final (u : Unicode) (ipv6 : List UInt8 → Bool) (p q : List UInt8)
    (h : (sniffTLSClientHello u ipv6 p).2 ≠ .needMore) :
    sniffTLSClientHello u ipv6 (p ++ q) = sniffTLSClientHello u ipv6 p :=
  sniffRecords_append q h

/-- A record of another type behind a handshake record that holds only half of a header. -/
theorem sniffTLSClientHello_final_wrongType : (sniffTLSClientHello ⟨id, id⟩ (fun _ => false)
      [0x16, 3, 1, 0, 2, 1, 0, 0x17, 3, 3, 0, 1]).2 ≠ .needMore ∧
    ∀ q, sniffTLSClientHello ⟨id, id⟩ (fun _ => false)
      ([0x16, 3, 1, 0, 2, 1, 0, 0x17, 3, 3, 0, 1] ++ q) = ([], .unavailable) := by
  have hgiven : sniffTLSClientHello ⟨id, id⟩ (fun _ => false)
      [0x16, 3, 1, 0, 2, 1, 0, 0x17, 3, 3, 0, 1] = ([], .unavailable) := by decide +kernel
  have hdecided : (sniffTLSClientHello ⟨id, id⟩ (fun _ => false)
      [0x16, 3, 1, 0, 2, 1, 0, 0x17, 3, 3, 0, 1]).2 ≠ .needMore := by
    rw [hgiven]
    decide
  refine ⟨hdecided, fun q => ?_⟩
  rw [sniffTLSClientHello_final _ _ _ q hdecided, hgiven]

end HarmonyNetBridge.Proxy
