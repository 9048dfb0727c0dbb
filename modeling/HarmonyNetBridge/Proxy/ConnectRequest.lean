import Mathlib.Tactic.Ring
import HarmonyNetBridge.Proxy.Hostname

/-! A name that was read off a client can be put into the CONNECT request: it has no byte that ends a
line or a word. -/
namespace HarmonyNetBridge.Proxy
open Bytes List

/-- The characters of a resolved name. -/
def nameCharacter (b : UInt8) : Bool :=
  (97 ≤ b && b ≤ 122) || (48 ≤ b && b ≤ 57) || b == hyphen || b == dot

structure ProxyName (ipv6 : List UInt8 → Bool) (name : List UInt8) : Prop where
  characters : ∀ b ∈ name, nameCharacter b = true
  labels : ∀ label ∈ (trimSuffix name [dot]).splitOn dot, 1 ≤ label.length ∧ label.length ≤ 63 ∧
    label.head? ≠ some hyphen ∧ label.getLast? ≠ some hyphen
  length : (trimSuffix name [dot]).length ≤ 253
  literal : parseIP ipv6 (trimSuffix name [dot]) = false

theorem labelCharacter_lowerByte : ∀ b, labelCharacter b = true →
    nameCharacter (lowerByte b) = true ∧ isAscii b = true :=
  forall_byte (by decide +kernel)

theorem labelCharacter_plain : ∀ b, b = dot ∨ labelCharacter b = true → b ≠ colon ∧ b ≠ percent :=
  forall_byte (by decide +kernel)

theorem isDigitByte_lowerByte : ∀ b, isDigitByte (lowerByte b) = isDigitByte b ∧
    (isDigitByte b = true → lowerByte b = b) :=
  forall_byte (by decide +kernel)

/-- No character of a name ends a word, a line or the host part of an address. -/
theorem nameCharacter_plain : ∀ b, nameCharacter b = true →
    b ≠ 13 ∧ b ≠ 10 ∧ b ≠ 32 ∧ b ≠ colon ∧ b ≠ percent :=
  forall_byte (by decide +kernel)

theorem lowerByte_eq_dot : ∀ b, lowerByte b = dot ↔ b = dot := lowerByte_eq_iff (by decide)

theorem ipv4Field_lower (field : List UInt8) : ipv4Field (field.map lowerByte) = ipv4Field field := by
  have hall : (field.map lowerByte).all isDigitByte = field.all isDigitByte := by
    rw [all_map]
    congr 1
    funext b
    exact (isDigitByte_lowerByte b).1
  by_cases hdigits : field.all isDigitByte = true
  · have hsame : field.map lowerByte = field := by
      calc field.map lowerByte = field.map id := by
            apply map_congr_left
            intro b hb
            exact (isDigitByte_lowerByte b).2 (all_eq_true.mp hdigits b hb)
        _ = field := map_id field
    rw [hsame]
  · unfold ipv4Field
    rw [hall]
    simp [hdigits]

theorem isIPv4Literal_lower (s : List UInt8) : isIPv4Literal (s.map lowerByte) = isIPv4Literal s := by
  unfold isIPv4Literal
  dsimp only
  rw [splitOn_map lowerByte_eq_dot, length_map, all_map]
  simp only [Function.comp_def, ipv4Field_lower]

/-- Without a colon and a percent sign only an IPv4 literal is an IP literal. -/
theorem parseIP_eq_isIPv4Literal (ipv6 : List UInt8 → Bool) {s : List UInt8} (hcolon : colon ∉ s)
    (hpercent : percent ∉ s) : parseIP ipv6 s = isIPv4Literal s := by
  unfold parseIP
  split
  · rename_i hnone
    have hdot : dot ∉ s := by
      intro hmem
      simpa using List.find?_eq_none.mp hnone dot hmem
    simp [isIPv4Literal, splitOn_eq_singleton hdot]
  · rename_i b hfound
    have hmem := mem_of_find?_eq_some hfound
    have hspecial := List.find?_some hfound
    have hb : b = dot := by
      simp only [Bool.or_eq_true, beq_iff_eq] at hspecial
      rcases hspecial with (hdot | rfl) | rfl
      · exact hdot
      · exact absurd hmem hcolon
      · exact absurd hmem hpercent
    rw [if_pos hb]

structure CheckedHost (ipv6 : List UInt8 → Bool) (host : List UInt8) : Prop where
  length : host.length ≤ 253
  literal : parseIP ipv6 host = false
  labels : ∀ label ∈ host.splitOn dot, validLabel label = true

variable {ipv6 : List UInt8 → Bool} {label : List UInt8}

theorem checkedHost_of_valid {host : List UInt8} (h : validProxyHostname ipv6 host = true) :
    CheckedHost ipv6 (trimSuffix host [dot]) := by
  unfold validProxyHostname at h
  dsimp only at h
  split_ifs at h with hbad
  push Not at hbad
  exact ⟨hbad.2.1, by simpa using hbad.2.2, all_eq_true.mp h⟩

theorem validLabel_spec (h : validLabel label = true) :
    1 ≤ label.length ∧ label.length ≤ 63 ∧ label.head? ≠ some hyphen ∧
      label.getLast? ≠ some hyphen ∧ ∀ b ∈ label, labelCharacter b = true := by
  unfold validLabel at h
  split_ifs at h with hbad
  push Not at hbad
  exact ⟨Nat.pos_of_ne_zero hbad.1, hbad.2.1, hbad.2.2.1, hbad.2.2.2, all_eq_true.mp h⟩

theorem CheckedHost.characters {host : List UInt8} (h : CheckedHost ipv6 host) :
    ∀ b ∈ host, b = dot ∨ labelCharacter b = true := by
  intro b hb
  rcases mem_splitOn_of_mem dot hb with hdot | ⟨label, hlabel, hmem⟩
  · exact .inl hdot
  · exact .inr ((validLabel_spec (h.labels label hlabel)).2.2.2.2 b hmem)

theorem nameCharacter_of_checked {b : UInt8} (h : b = dot ∨ labelCharacter b = true) :
    nameCharacter (lowerByte b) = true ∧ isAscii b = true := by
  rcases h with rfl | hlabel
  · decide
  · exact labelCharacter_lowerByte b hlabel

theorem validLabel_lower (h : validLabel label = true) :
    1 ≤ (label.map lowerByte).length ∧ (label.map lowerByte).length ≤ 63 ∧
      (label.map lowerByte).head? ≠ some hyphen ∧ (label.map lowerByte).getLast? ≠ some hyphen := by
  obtain ⟨hpos, hmax, hhead, hlast, -⟩ := validLabel_spec h
  have hkeep : ∀ first : Option UInt8, first ≠ some hyphen → first.map lowerByte ≠ some hyphen := by
    intro first hfirst hlower
    obtain ⟨b, rfl, hb⟩ := Option.map_eq_some_iff.mp hlower
    exact hfirst (by rw [(lowerByte_eq_iff (by decide) b).mp hb])
  rw [length_map, List.head?_map, List.getLast?_map]
  exact ⟨hpos, hmax, hkeep _ hhead, hkeep _ hlast⟩

/-- `validProxyHostname` looks at the host without its last dot, and what is returned is the whole
host in lower case. -/
theorem proxyName_lower {u : Unicode} {host : List UInt8}
    (h : validProxyHostname ipv6 host = true) : ProxyName ipv6 (u.lower host) := by
  have hchecked := checkedHost_of_valid h
  have hcharacters : ∀ b ∈ host, b = dot ∨ labelCharacter b = true := by
    intro b hb
    rcases mem_trimSuffix_or (x := dot) hb with hdot | hmem
    · exact .inl hdot
    · exact hchecked.characters b hmem
  have hlower : u.lower host = host.map lowerByte :=
    Unicode.lower_of_ascii fun b hb => (nameCharacter_of_checked (hcharacters b hb)).2
  have hname : ∀ b ∈ host.map lowerByte, nameCharacter b = true := by
    intro b hb
    obtain ⟨a, ha, rfl⟩ := mem_map.mp hb
    exact (nameCharacter_of_checked (hcharacters a ha)).1
  rw [hlower]
  refine ⟨hname, ?_, ?_, ?_⟩
  · rw [trimSuffix_map lowerByte_eq_dot, splitOn_map lowerByte_eq_dot]
    intro label hlabel
    obtain ⟨l, hl, rfl⟩ := mem_map.mp hlabel
    exact validLabel_lower (hchecked.labels l hl)
  · rw [trimSuffix_map lowerByte_eq_dot, length_map]
    exact hchecked.length
  · have hplain : colon ∉ trimSuffix host [dot] ∧ percent ∉ trimSuffix host [dot] := by
      constructor
      · intro hmem
        exact (labelCharacter_plain colon (hchecked.characters colon hmem)).1 rfl
      · intro hmem
        exact (labelCharacter_plain percent (hchecked.characters percent hmem)).2 rfl
    have hlowerPlain : colon ∉ (trimSuffix host [dot]).map lowerByte ∧
        percent ∉ (trimSuffix host [dot]).map lowerByte := by
      constructor <;> intro hmem <;> obtain ⟨a, ha, heq⟩ := mem_map.mp hmem
      · have hchar := (nameCharacter_of_checked (hchecked.characters a ha)).1
        exact (nameCharacter_plain _ hchar).2.2.2.1 heq
      · have hchar := (nameCharacter_of_checked (hchecked.characters a ha)).1
        exact (nameCharacter_plain _ hchar).2.2.2.2 heq
    rw [trimSuffix_map lowerByte_eq_dot, parseIP_eq_isIPv4Literal ipv6 hlowerPlain.1 hlowerPlain.2,
      isIPv4Literal_lower, ← parseIP_eq_isIPv4Literal ipv6 hplain.1 hplain.2]
    exact hchecked.literal

section sniff
variable {u : Unicode} {ipv6 : List UInt8 → Bool} {readRequest : List UInt8 → Option (List UInt8)}
  {name : List UInt8}

variable {extension payload : List UInt8} {offset last : ℕ}

theorem serverNameEntries_name (h : serverNameEntries u ipv6 extension offset last = some name) :
    ProxyName ipv6 name := by
  fun_induction serverNameEntries u ipv6 extension offset last
  all_goals try cases h
  · rename_i hvalid
    exact proxyName_lower hvalid
  · rename_i ih
    exact ih h

theorem serverNameFromExtension_name (h : serverNameFromExtension u ipv6 extension = some name) :
    ProxyName ipv6 name := by
  unfold serverNameFromExtension at h
  dsimp only at h
  split_ifs at h
  exact serverNameEntries_name h

theorem helloExtensions_name {hello : List UInt8}
    (h : helloExtensions u ipv6 hello offset last = some name) : ProxyName ipv6 name := by
  fun_induction helloExtensions u ipv6 hello offset last
  all_goals try cases h
  · exact serverNameFromExtension_name h
  · rename_i ih
    exact ih h

theorem clientHelloServerName_name {hello : List UInt8}
    (h : clientHelloServerName u ipv6 hello = some name) : ProxyName ipv6 name := by
  unfold clientHelloServerName at h
  dsimp only at h
  split_ifs at h
  exact helloExtensions_name h

theorem sniffRecords_name {handshake : List UInt8}
    (h : sniffRecords u ipv6 payload offset handshake = (name, .resolved)) :
    ProxyName ipv6 name := by
  fun_induction sniffRecords u ipv6 payload offset handshake
  all_goals try cases h
  · rename_i hserver
    exact clientHelloServerName_name hserver
  · rename_i ih
    exact ih h

theorem sniffHTTPHost_name (h : sniffHTTPHost u ipv6 readRequest payload = (name, .resolved)) :
    ProxyName ipv6 name := by
  unfold sniffHTTPHost at h
  dsimp only at h
  split at h
  · cases h
  · split at h
    · cases h
    · split at h
      · cases h
      · rename_i hvalid
        cases h
        exact proxyName_lower (by simpa using hvalid)

theorem sniffHostname_name {port : ℕ}
    (h : sniffHostname u ipv6 readRequest payload port = (name, .resolved)) :
    ProxyName ipv6 name := by
  unfold sniffHostname at h
  split at h
  · cases h
  · split_ifs at h
    · exact sniffRecords_name h
    · cases h
    · exact sniffHTTPHost_name h

end sniff

/-- A text that can stand as one word in a line. -/
def Word (text : List UInt8) : Prop := ∀ b ∈ text, b ≠ 13 ∧ b ≠ 10 ∧ b ≠ 32

theorem nameCharacter_of_digit {b : UInt8} (h : isDigitByte b = true) : nameCharacter b = true := by
  unfold isDigitByte at h
  simp [nameCharacter, h]

theorem word_nameCharacter {b : UInt8} (h : nameCharacter b = true) : b ≠ 13 ∧ b ≠ 10 ∧ b ≠ 32 := by
  obtain ⟨hcr, hlf, hspace, -, -⟩ := nameCharacter_plain b h
  exact ⟨hcr, hlf, hspace⟩

theorem word_target {ipv6 : List UInt8 → Bool} {name : List UInt8} (h : ProxyName ipv6 name)
    (port : ℕ) : joinHostPort name (itoa port) = name ++ colon :: itoa port ∧
      Word (name ++ colon :: itoa port) := by
  have hplain := fun b hb => nameCharacter_plain b (h.characters b hb)
  constructor
  · exact if_neg fun hmem => (hplain colon hmem).2.2.2.1 rfl
  · intro b hb
    rcases mem_append.mp hb with hname | hport
    · exact word_nameCharacter (h.characters b hname)
    · rcases mem_cons.mp hport with rfl | hdigit
      · decide
      · exact word_nameCharacter (nameCharacter_of_digit (itoa_digits port b hdigit))

theorem crlfLines_connectRequest {target : List UInt8} (h : Word target) :
    crlfLines (connectRequest target) = [ascii "CONNECT " ++ target ++ ascii " HTTP/1.1",
      ascii "Host: " ++ target, ascii "Proxy-Connection: Keep-Alive", [], []] := by
  have hshape : connectRequest target = (ascii "CONNECT " ++ target ++ ascii " HTTP/1.1") ++
      13 :: 10 :: ((ascii "Host: " ++ target) ++ 13 :: 10 :: (ascii "Proxy-Connection: Keep-Alive" ++
        13 :: 10 :: [13, 10])) := by
    have hmiddle : ascii " HTTP/1.1\r\nHost: " = ascii " HTTP/1.1" ++ 13 :: 10 :: ascii "Host: " := by
      decide
    have hend : ascii "\r\nProxy-Connection: Keep-Alive\r\n\r\n" =
        13 :: 10 :: (ascii "Proxy-Connection: Keep-Alive" ++ 13 :: 10 :: [13, 10]) := by
      decide
    unfold connectRequest
    rw [hmiddle, hend]
    simp only [append_assoc, cons_append]
  have hcr : 13 ∉ target := fun hmem => (h 13 hmem).1 rfl
  have hfirst : 13 ∉ ascii "CONNECT " ++ target ++ ascii " HTTP/1.1" := by
    simp only [mem_append, hcr]
    decide
  have hsecond : 13 ∉ ascii "Host: " ++ target := by
    simp only [mem_append, hcr]
    decide
  rw [hshape, crlfLines_append hfirst, crlfLines_append hsecond, crlfLines_append (by decide)]
  rfl

theorem crlfLines_plain {target : List UInt8} (h : Word target) :
    ∀ line ∈ crlfLines (connectRequest target), 13 ∉ line ∧ 10 ∉ line := by
  have hcr : 13 ∉ target := fun hmem => (h 13 hmem).1 rfl
  have hlf : 10 ∉ target := fun hmem => (h 10 hmem).2.1 rfl
  rw [crlfLines_connectRequest h]
  intro line hline
  simp only [mem_cons, not_mem_nil, or_false] at hline
  rcases hline with rfl | rfl | rfl | rfl | rfl
  · simp only [mem_append, hcr, hlf]
    decide
  · simp only [mem_append, hcr, hlf]
    decide
  all_goals decide

theorem splitOn_connectLine {target : List UInt8} (h : Word target) :
    (ascii "CONNECT " ++ target ++ ascii " HTTP/1.1").splitOn 32 =
      [ascii "CONNECT", target, ascii "HTTP/1.1"] := by
  have hline : ascii "CONNECT " ++ target ++ ascii " HTTP/1.1" =
      [32].intercalate [ascii "CONNECT", target, ascii "HTTP/1.1"] := by
    simp [intercalate_cons_cons, ascii]
  rw [hline]
  apply splitOn_intercalate
  · intro word hword
    simp only [mem_cons, not_mem_nil, or_false] at hword
    rcases hword with rfl | rfl | rfl
    · decide
    · exact fun hmem => (h 32 hmem).2.2 rfl
    · decide
  · simp

/-- A resolved name is a plain host name, and the CONNECT request for it has the lines of its template
and names it as the only target. -/
theorem sniffed_connect_request (u : Unicode) (ipv6 : List UInt8 → Bool)
    (readRequest : List UInt8 → Option (List UInt8)) (payload destination name : List UInt8)
    (port : ℕ) (h : sniffHostname u ipv6 readRequest payload port = (name, .resolved)) :
    ProxyName ipv6 name ∧
      connectTarget u ipv6 readRequest destination payload port = name ++ colon :: itoa port ∧
      crlfLines (connectRequest (name ++ colon :: itoa port)) =
        [ascii "CONNECT " ++ (name ++ colon :: itoa port) ++ ascii " HTTP/1.1",
          ascii "Host: " ++ (name ++ colon :: itoa port), ascii "Proxy-Connection: Keep-Alive",
          [], []] ∧
      (∀ line ∈ crlfLines (connectRequest (name ++ colon :: itoa port)), 13 ∉ line ∧ 10 ∉ line) ∧
      (ascii "CONNECT " ++ (name ++ colon :: itoa port) ++ ascii " HTTP/1.1").splitOn 32 =
        [ascii "CONNECT", name ++ colon :: itoa port, ascii "HTTP/1.1"] := by
  have hname := sniffHostname_name h
  obtain ⟨htarget, hword⟩ := word_target hname port
  refine ⟨hname, ?_, crlfLines_connectRequest hword, crlfLines_plain hword, splitOn_connectLine hword⟩
  unfold connectTarget
  rw [h]
  exact htarget

/-- A request on port 80 whose `Host` is read as `Example.com:80`. -/
theorem sniffed_connect_request_http : crlfLines (connectRequest (ascii "example.com:80")) =
      [ascii "CONNECT example.com:80 HTTP/1.1", ascii "Host: example.com:80",
        ascii "Proxy-Connection: Keep-Alive", [], []] :=
  (sniffed_connect_request ⟨id, id⟩ (fun _ => false) (fun _ => some (ascii "Example.com:80"))
    (ascii "GET / HTTP/1.1\r\n\r\n") (ascii "192.0.2.1:80") (ascii "example.com") 80
    (by decide)).2.2.1

end HarmonyNetBridge.Proxy
