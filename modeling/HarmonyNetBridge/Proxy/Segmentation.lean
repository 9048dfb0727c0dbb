import HarmonyNetBridge.Proxy.RecordStream
import HarmonyNetBridge.Proxy.WriteCalls

/-! How a client's stream is cut into calls of `Write`, and when that decides on the CONNECT target:
the host name is looked for in growing fronts of the stream, which never contradict each other, but
a call that would take the held back bytes over the limit skips the search. -/
namespace HarmonyNetBridge.Proxy
open Bytes List

/-- What `http.ReadRequest` returns depends only on the bytes up to the first blank line. -/
def ReadsHead (readRequest : List UInt8 → Option (List UInt8)) : Prop :=
  ∀ payload more, headerEnd <:+: payload → readRequest (payload ++ more) = readRequest payload

section
variable {u : Unicode} {ipv6 : List UInt8 → Bool} {readRequest : List UInt8 → Option (List UInt8)}
  {payload : List UInt8} {port : ℕ}

theorem no_headerEnd_iff (payload : List UInt8) :
    payload.tails.all (fun rest => !(headerEnd.isPrefixOf rest)) = true ↔
      ¬ headerEnd <:+: payload := by
  rw [all_eq_true]
  constructor
  · rintro h ⟨before, after, rfl⟩
    have htail := h (headerEnd ++ after) (by simp [mem_tails])
    simp [headerEnd] at htail
  · intro h rest hrest
    obtain ⟨before, rfl⟩ := mem_tails _ _ |>.mp hrest
    rw [Bool.not_eq_true', Bool.eq_false_iff, ne_eq, List.isPrefixOf_iff_prefix]
    rintro ⟨after, rfl⟩
    exact h ⟨before, after, by simp [headerEnd]⟩

theorem sniffHTTPHost_append (hread : ReadsHead readRequest) (more : List UInt8)
    (h : (sniffHTTPHost u ipv6 readRequest payload).2 ≠ .needMore) :
    sniffHTTPHost u ipv6 readRequest (payload ++ more) =
      sniffHTTPHost u ipv6 readRequest payload := by
  have hblank : headerEnd <:+: payload := by
    by_contra hnone
    unfold sniffHTTPHost at h
    rw [if_pos ((no_headerEnd_iff payload).mpr hnone)] at h
    exact h rfl
  have hmore : headerEnd <:+: payload ++ more := hblank.trans (prefix_append _ _).isInfix
  unfold sniffHTTPHost
  rw [if_neg (fun hnone => (no_headerEnd_iff _).mp hnone hmore),
    if_neg (fun hnone => (no_headerEnd_iff _).mp hnone hblank), hread payload more hblank]

/-- What has been decided on a front of the stream stays so. -/
theorem sniffHostname_append (hread : ReadsHead readRequest) (more : List UInt8)
    (h : (sniffHostname u ipv6 readRequest payload port).2 ≠ .needMore) :
    sniffHostname u ipv6 readRequest (payload ++ more) port =
      sniffHostname u ipv6 readRequest payload port := by
  cases payload with
  | nil => exact absurd rfl h
  | cons first rest =>
    unfold sniffHostname at h ⊢
    rw [cons_append]
    dsimp only at h ⊢
    split_ifs at h ⊢ with htls hport
    · exact sniffRecords_append more h
    · rfl
    · exact sniffHTTPHost_append hread more h

theorem needMore_of_append (hread : ReadsHead readRequest) (more : List UInt8)
    (h : (sniffHostname u ipv6 readRequest (payload ++ more) port).2 = .needMore) :
    (sniffHostname u ipv6 readRequest payload port).2 = .needMore := by
  by_contra hdecided
  rw [sniffHostname_append hread more hdecided] at h
  exact hdecided h

theorem connectTarget_append (hread : ReadsHead readRequest) (destination more : List UInt8)
    (h : (sniffHostname u ipv6 readRequest payload port).2 ≠ .needMore) :
    connectTarget u ipv6 readRequest destination (payload ++ more) port =
      connectTarget u ipv6 readRequest destination payload port := by
  unfold connectTarget
  rw [sniffHostname_append hread more h]

theorem decided_of_connectTarget {destination : List UInt8}
    (h : connectTarget u ipv6 readRequest destination payload port ≠ destination) :
    (sniffHostname u ipv6 readRequest payload port).2 ≠ .needMore := by
  intro hmore
  unfold connectTarget at h
  split at h
  · rename_i name hsniff
    rw [hsniff] at hmore
    cases hmore
  · exact h rfl

/-- The two targets that a stream in small payloads can lead to. -/
theorem firstDecision_cases (hread : ReadsHead readRequest)
    {destination pending stream target : List UInt8} {payloads : List (List UInt8)}
    (hsmall : ∀ payload ∈ payloads, payload.length ≤ 32 * 1024)
    (hstream : pending ++ payloads.flatten = stream)
    (hpending : (sniffHostname u ipv6 readRequest pending port).2 = .needMore)
    (h : firstDecision u ipv6 readRequest destination port pending payloads = some target) :
    target = connectTarget u ipv6 readRequest destination (stream.take (64 * 1024)) port ∨
      (target = destination ∧ 64 * 1024 < stream.length ∧
        (sniffHostname u ipv6 readRequest (stream.take (32 * 1024 + 1)) port).2 = .needMore) := by
  induction payloads generalizing pending with
  | nil => cases h
  | cons payload payloads ih =>
    have hpayload := hsmall payload mem_cons_self
    have hmax : maxInitialClientBytes = 64 * 1024 := rfl
    rw [flatten_cons, ← append_assoc] at hstream
    have hlen := congrArg List.length hstream
    rw [length_append, length_append] at hlen
    rw [firstDecision] at h
    unfold decision at h
    split_ifs at h with hlong hmore
    · -- the limit is passed: more than half of it was held back
      rw [Option.some_or, Option.some.injEq] at h
      refine .inr ⟨h.symm, by omega, ?_⟩
      have hfront : stream.take (32 * 1024 + 1) = pending.take (32 * 1024 + 1) := by
        rw [← hstream, append_assoc, take_append_of_le_length (by omega)]
      rw [hfront]
      apply needMore_of_append hread (pending.drop (32 * 1024 + 1))
      rwa [take_append_drop]
    · rw [Option.none_or] at h
      exact ih (fun p hp => hsmall p (mem_cons_of_mem payload hp)) hstream hmore h
    · rw [Option.some_or, Option.some.injEq] at h
      left
      rw [← h, ← hstream, take_append, take_of_length_le
        (by rw [length_append]; omega), connectTarget_append hread _ _ hmore]

end

/-- The stream in calls of `Write` of at most 32 KiB, as `io.Copy` makes them. -/
structure Split (stream : List UInt8) (calls : List (Outside × List UInt8)) : Prop where
  bytes : calls.flatMap Prod.snd = stream
  size : ∀ call ∈ calls, call.2.length ≤ 32 * 1024

/-- Pieces of the given sizes, and the rest byte by byte. -/
def cut : List ℕ → List UInt8 → List (List UInt8)
  | [], stream => stream.map fun b => [b]
  | n :: sizes, stream => stream.take n :: cut sizes (stream.drop n)

theorem flatten_cut (sizes : List ℕ) (stream : List UInt8) : (cut sizes stream).flatten = stream := by
  induction sizes generalizing stream with
  | nil => simp [cut, ← flatMap_def]
  | cons n sizes ih => rw [cut, flatten_cons, ih, take_append_drop]

theorem length_cut {sizes : List ℕ} (h : ∀ n ∈ sizes, n ≤ 32 * 1024) (stream : List UInt8) :
    ∀ piece ∈ cut sizes stream, piece.length ≤ 32 * 1024 := by
  induction sizes generalizing stream with
  | nil =>
    intro piece hpiece
    obtain ⟨b, -, rfl⟩ := mem_map.mp hpiece
    exact Nat.le_of_ble_eq_true rfl
  | cons n sizes ih =>
    rw [forall_mem_cons] at h
    rw [cut, forall_mem_cons]
    exact ⟨(length_take_le _ _).trans h.1, ih h.2 _⟩

theorem split_cut {sizes : List ℕ} (h : ∀ n ∈ sizes, n ≤ 32 * 1024) (stream : List UInt8) :
    Split stream ((cut sizes stream).map (steady, ·)) := by
  constructor
  · rw [flatMap_def, map_map]
    simpa [Function.comp_def] using flatten_cut sizes stream
  · intro call hcall
    obtain ⟨piece, hpiece, rfl⟩ := mem_map.mp hcall
    exact length_cut h stream piece hpiece

section
variable {u : Unicode} {ipv6 : List UInt8 → Bool} {readRequest : List UInt8 → Option (List UInt8)}
  {destination stream : List UInt8} {port : ℕ}

theorem targets_fresh (calls : List (Outside × List UInt8)) :
    SniffingConn.targets u ipv6 readRequest { destination, destinationPort := port } calls =
      (firstDecision u ipv6 readRequest destination port [] (calls.map Prod.snd)).toList :=
  SniffingConn.targets_eq (c := { destination, destinationPort := port })
    (SniffingConn.not_settled_iff.mpr ⟨rfl, rfl, rfl⟩) calls

/-- A stream that is undecided after half of the limit can go either way. -/
structure Contested (u : Unicode) (ipv6 : List UInt8 → Bool)
    (readRequest : List UInt8 → Option (List UInt8)) (destination : List UInt8) (port : ℕ)
    (stream : List UInt8) : Prop where
  long : 64 * 1024 < stream.length
  late : (sniffHostname u ipv6 readRequest (stream.take (32 * 1024 + 1)) port).2 = .needMore
  named : connectTarget u ipv6 readRequest destination (stream.take (64 * 1024)) port ≠ destination

theorem Contested.half (hread : ReadsHead readRequest)
    (h : Contested u ipv6 readRequest destination port stream) :
    (sniffHostname u ipv6 readRequest (stream.take (32 * 1024)) port).2 = .needMore := by
  apply needMore_of_append hread ((stream.drop (32 * 1024)).take 1)
  rw [← take_add]
  exact h.late

/-- In two calls of 32 KiB the name is found. -/
theorem Contested.found (hread : ReadsHead readRequest)
    (h : Contested u ipv6 readRequest destination port stream) :
    SniffingConn.targets u ipv6 readRequest { destination, destinationPort := port }
        ((cut [32 * 1024, 32 * 1024] stream).map (steady, ·)) =
      [connectTarget u ipv6 readRequest destination (stream.take (64 * 1024)) port] := by
  have hhalf := h.half hread
  have hwhole := decided_of_connectTarget h.named
  have hlong := h.long
  have hmax : maxInitialClientBytes = 64 * 1024 := rfl
  have hjoin : stream.take (32 * 1024) ++ (stream.drop (32 * 1024)).take (32 * 1024) =
      stream.take (64 * 1024) := by
    rw [← take_add]
  rw [targets_fresh, map_map]
  simp only [Function.comp_def, map_id', cut, firstDecision, nil_append, hjoin]
  unfold decision
  rw [nil_append, hjoin, if_neg (by simp; omega), if_pos hhalf, if_neg (by simp; omega),
    if_neg hwhole]
  rfl

/-- With one byte more in front of the last 32 KiB the limit is passed. -/
theorem Contested.skipped (hread : ReadsHead readRequest)
    (h : Contested u ipv6 readRequest destination port stream) :
    SniffingConn.targets u ipv6 readRequest { destination, destinationPort := port }
        ((cut [32 * 1024, 1, 32 * 1024] stream).map (steady, ·)) = [destination] := by
  have hhalf := h.half hread
  have hlate := h.late
  have hlong := h.long
  have hmax : maxInitialClientBytes = 64 * 1024 := rfl
  have hjoin : stream.take (32 * 1024) ++ (stream.drop (32 * 1024)).take 1 =
      stream.take (32 * 1024 + 1) := by
    rw [← take_add]
  rw [targets_fresh, map_map]
  simp only [Function.comp_def, map_id', cut, firstDecision, nil_append, hjoin]
  unfold decision
  rw [nil_append, hjoin, if_neg (by simp; omega), if_pos hhalf, if_neg (by simp; omega),
    if_pos hlate, if_pos (by simp; omega)]
  rfl

end

/-- Every cut of the stream into calls that decides leads to the same target, unless the stream is
undecided after half of the limit and names a host before the limit. -/
theorem target_segmentation_iff (u : Unicode) (ipv6 : List UInt8 → Bool)
    (readRequest : List UInt8 → Option (List UInt8)) (hread : ReadsHead readRequest)
    (destination : List UInt8) (port : ℕ) (stream : List UInt8) :
    (∀ calls calls', Split stream calls → Split stream calls' →
      ∀ target ∈ SniffingConn.targets u ipv6 readRequest { destination, destinationPort := port } calls,
      ∀ target' ∈ SniffingConn.targets u ipv6 readRequest { destination, destinationPort := port } calls',
        target = target') ↔
      ¬ Contested u ipv6 readRequest destination port stream := by
  constructor
  · intro h hcontested
    have htwo : Split stream ((cut [32 * 1024, 32 * 1024] stream).map (steady, ·)) :=
      split_cut (by simp) stream
    have hthree : Split stream ((cut [32 * 1024, 1, 32 * 1024] stream).map (steady, ·)) :=
      split_cut (by simp) stream
    apply hcontested.named
    apply h _ _ htwo hthree
    · rw [hcontested.found hread]
      exact mem_singleton_self _
    · rw [hcontested.skipped hread]
      exact mem_singleton_self _
  · intro hnot
    have hunique : ∀ calls, Split stream calls →
        ∀ target ∈ SniffingConn.targets u ipv6 readRequest { destination, destinationPort := port } calls,
          target = connectTarget u ipv6 readRequest destination (stream.take (64 * 1024)) port := by
      intro calls hsplit target htarget
      rw [targets_fresh, Option.mem_toList] at htarget
      have hsmall : ∀ payload ∈ calls.map Prod.snd, payload.length ≤ 32 * 1024 := by
        intro payload hpayload
        obtain ⟨call, hcall, rfl⟩ := mem_map.mp hpayload
        exact hsplit.size call hcall
      rcases firstDecision_cases hread hsmall (by simpa [flatMap_def] using hsplit.bytes) rfl
        htarget with hfound | ⟨hskipped, hlong, hlate⟩
      · exact hfound
      · by_contra hne
        exact hnot ⟨hlong, hlate, fun hsame => hne (hskipped.trans hsame.symm)⟩
    intro calls calls' hsplit hsplit' target htarget target' htarget'
    rw [hunique calls hsplit target htarget, hunique calls' hsplit' target' htarget']

theorem target_segmentation_request :
    ReadsHead (fun _ => some []) ∧ ∀ calls calls', Split plainRequest calls → Split plainRequest calls' →
      ∀ target ∈ freshConn.targets ⟨id, id⟩ (fun _ => false) (fun _ => some []) calls,
      ∀ target' ∈ freshConn.targets ⟨id, id⟩ (fun _ => false) (fun _ => some []) calls',
        target = target' := by
  have hread : ReadsHead fun _ => some [] := fun _ _ _ => rfl
  refine ⟨hread, ?_⟩
  apply (target_segmentation_iff ⟨id, id⟩ (fun _ => false) (fun _ => some []) hread
    freshConn.destination 80 plainRequest).mpr
  intro hcontested
  exact absurd hcontested.long (by decide)

/-- The name example.com as the only host_name entry. -/
def hostEntry : Entry 1 := ⟨[0], ascii "example.com", rfl, by decide⟩

def serverNameExtension : Entry 2 := ⟨[0, 0], vector 2 hostEntry.encode, rfl, by decide⟩

section padded
variable (padding : List UInt8) (hpad : padding.length = 40000)

def paddingExtension : Entry 2 := ⟨[0, 21], padding, rfl, by rw [hpad]; decide⟩

theorem length_paddedExtensions :
    ((paddingExtension padding hpad).encode ++ serverNameExtension.encode).length = 40024 := by
  have hname : serverNameExtension.encode.length = 20 := by decide
  rw [length_append, hname, Entry.encode, length_append, length_vector]
  simp only [paddingExtension, hpad, length_cons, length_nil]

/-- A ClientHello with much padding in front of its server name. -/
def paddedHello : ClientHello where
  version := [3, 3]
  random := List.replicate 32 0
  sessionId := []
  cipherSuites := [0x13, 0x01]
  compressionMethods := [0]
  extensions := (paddingExtension padding hpad).encode ++ serverNameExtension.encode
  version_length := rfl
  random_length := rfl
  sessionId_length := by decide
  cipherSuites_length := by decide
  cipherSuites_ne_nil := cons_ne_nil _ _
  compressionMethods_length := by decide
  extensions_length := by rw [length_paddedExtensions]; decide

theorem paddedHello_serverName : (paddedHello padding hpad).ServerName (ascii "example.com") := by
  refine ⟨hostEntry.encode, [], ?_, ?_⟩
  · refine ⟨[paddingExtension padding hpad], serverNameExtension, [], ?_, ?_, rfl, ?_⟩
    · simp [paddedHello]
    · simp [paddingExtension]
    · simp [serverNameExtension]
  · exact ⟨[], hostEntry, [], by simp, by simp, rfl, rfl⟩

theorem length_paddedHello : (paddedHello padding hpad).message.length = 40071 := by
  have hextensions : (paddedHello padding hpad).extensions.length = 40024 :=
    length_paddedExtensions padding hpad
  have hsession : (paddedHello padding hpad).sessionId.length = 0 := rfl
  have hciphers : (paddedHello padding hpad).cipherSuites.length = 2 := rfl
  have hcomp : (paddedHello padding hpad).compressionMethods.length = 1 := rfl
  have htail : (paddedHello padding hpad).tail.length = 0 := rfl
  simp only [ClientHello.message, ClientHello.body, length_cons, length_append,
    length_vector, hextensions, hsession, hciphers, hcomp, htail,
    (paddedHello padding hpad).version_length, (paddedHello padding hpad).random_length,
    Nat.reduceAdd]

def plainRecord (fragment : List UInt8) (hne : fragment ≠ []) (h : fragment.length ≤ 16384) :
    HandshakeRecord :=
  ⟨[3, 1], fragment, rfl, h.trans_lt (by decide), hne⟩

def paddedRecords : List HandshakeRecord :=
  let message := (paddedHello padding hpad).message
  have hlen : message.length = 40071 := length_paddedHello padding hpad
  [plainRecord (message.take 16384) (by rw [← length_pos_iff, length_take]; omega)
    (length_take_le _ _),
  plainRecord ((message.drop 16384).take 16384)
    (by rw [← length_pos_iff, length_take, length_drop]; omega)
    (length_take_le _ _),
  plainRecord (message.drop 32768) (by rw [← length_pos_iff, length_drop]; omega)
    (by rw [length_drop]; omega)]

theorem paddedRecords_fragments : (paddedRecords padding hpad).flatMap HandshakeRecord.fragment =
      (paddedHello padding hpad).message := by
  have hjoin : ∀ message : List UInt8,
      message.take 16384 ++ ((message.drop 16384).take 16384 ++ (message.drop 32768 ++ [])) =
        message := by
    intro message
    rw [append_nil, ← append_assoc, ← take_add, take_append_drop]
  exact hjoin _

theorem length_paddedRecords :
    ((paddedRecords padding hpad).flatMap HandshakeRecord.encode).length = 40086 := by
  have hlen := congrArg List.length (paddedRecords_fragments padding hpad)
  rw [length_paddedHello] at hlen
  simp only [paddedRecords, flatMap_cons, flatMap_nil, length_append, length_nil,
    HandshakeRecord.length_encode] at hlen ⊢
  omega

theorem paddedHello_body : (paddedHello padding hpad).body.length ≤ maxInitialClientBytes - 4 := by
  have hmessage := length_paddedHello padding hpad
  rw [ClientHello.message, length_cons, length_vector] at hmessage
  have hmax : maxInitialClientBytes = 65536 := rfl
  omega

theorem sniffHostname_padded (n : ℕ) (rest : List UInt8) :
    sniffHostname ⟨id, id⟩ (fun _ => false) (fun _ => none)
        (((paddedRecords padding hpad).flatMap HandshakeRecord.encode).take (n + 1) ++ rest) 443 =
      sniffTLSClientHello ⟨id, id⟩ (fun _ => false)
        (((paddedRecords padding hpad).flatMap HandshakeRecord.encode).take (n + 1) ++ rest) := by
  obtain ⟨bytes, hbytes⟩ : ∃ bytes,
      (paddedRecords padding hpad).flatMap HandshakeRecord.encode = 0x16 :: bytes := ⟨_, rfl⟩
  rw [hbytes]
  rfl

theorem padded_message : [] ++ (paddedRecords padding hpad).flatMap HandshakeRecord.fragment =
    1 :: vector 3 (paddedHello padding hpad).body := by
  rw [nil_append, paddedRecords_fragments, ClientHello.message]

theorem padded_late {n : ℕ} (h : n < 40085) :
    (sniffHostname ⟨id, id⟩ (fun _ => false) (fun _ => none)
      (((paddedRecords padding hpad).flatMap HandshakeRecord.encode).take (n + 1)) 443).2 =
        .needMore := by
  have hlen := length_paddedRecords padding hpad
  have hsniff := sniffHostname_padded padding hpad n []
  have hdrop : ((paddedRecords padding hpad).flatMap HandshakeRecord.encode).drop (n + 1) ≠ [] := by
    rw [← length_pos_iff, length_drop]
    omega
  rw [append_nil] at hsniff
  rw [hsniff, sniffTLSClientHello, sniffRecords_front _ (padded_message padding hpad) hdrop
    (paddedHello_body _ _)]
  rw [drop_zero, take_append_drop]

theorem padded_named (rest : List UInt8) :
    connectTarget ⟨id, id⟩ (fun _ => false) (fun _ => none) (ascii "192.0.2.1:443")
      ((paddedRecords padding hpad).flatMap HandshakeRecord.encode ++ rest) 443 =
        ascii "example.com:443" := by
  have hlen := length_paddedRecords padding hpad
  have hsniff := sniffHostname_padded padding hpad 40085 rest
  have hname : clientHelloServerName ⟨id, id⟩ (fun _ => false) (paddedHello padding hpad).body =
      some (ascii "example.com") :=
    clientHelloServerName_eq_some_iff.mpr
      ⟨_, _, rfl, paddedHello_serverName padding hpad, by decide, by decide⟩
  rw [take_of_length_le hlen.le, sniffTLSClientHello, sniffRecords_message (drop_zero ..)
    (padded_message padding hpad) (cons_ne_nil _ _) (paddedHello_body _ _) hname] at hsniff
  unfold connectTarget
  rw [hsniff]
  decide

theorem padded_contested {more : List UInt8} (hmore : more.length = 30000) :
    Contested ⟨id, id⟩ (fun _ => false) (fun _ => none) (ascii "192.0.2.1:443") 443
      ((paddedRecords padding hpad).flatMap HandshakeRecord.encode ++ more) := by
  have hlen := length_paddedRecords padding hpad
  constructor
  · rw [length_append]
    omega
  · rw [take_append_of_le_length (by omega)]
    exact padded_late padding hpad (by decide)
  · rw [take_append, take_of_length_le (by omega), padded_named]
    decide

end padded

/-- A client of 192.0.2.1:443 sends a ClientHello of some 40 KB for example.com in records of 16 KiB
and more bytes behind it. In calls of 32 KiB the tunnel is for example.com; with a call of one byte
after the first it is for the address. -/
theorem target_depends_on_segmentation :
    ∃ stream calls calls', Split stream calls ∧ Split stream calls' ∧
      SniffingConn.targets ⟨id, id⟩ (fun _ => false) (fun _ => none)
        { destination := ascii "192.0.2.1:443", destinationPort := 443 } calls =
          [ascii "example.com:443"] ∧
      SniffingConn.targets ⟨id, id⟩ (fun _ => false) (fun _ => none)
        { destination := ascii "192.0.2.1:443", destinationPort := 443 } calls' =
          [ascii "192.0.2.1:443"] := by
  have hread : ReadsHead fun _ => none := fun _ _ _ => rfl
  have hmore : (List.replicate 30000 (0x17 : UInt8)).length = 30000 := length_replicate
  have hcontested := padded_contested (List.replicate 40000 0) length_replicate hmore
  have hlen := length_paddedRecords (List.replicate 40000 0) length_replicate
  have hfound := hcontested.found hread
  rw [take_append, take_of_length_le (by omega), padded_named] at hfound
  exact ⟨_, _, _, split_cut (by simp) _, split_cut (by simp) _, hfound, hcontested.skipped hread⟩

end HarmonyNetBridge.Proxy
