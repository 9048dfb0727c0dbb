import HarmonyNetBridge.Bytes.WhiteSpace
import HarmonyNetBridge.Relay.Scutil

/-! Listings of `scutil --dns`: resolver blocks, and the lines in which they are written down, with
any indentation and with other lines between theirs. -/
namespace HarmonyNetBridge.Relay
open Bytes List
open Proxy (isDigitByte decimal isIPv4Literal ipv4Field itoa itoa_digits)

/-- A domain of a block. `trailing` says whether it is written with a dot at its end. -/
structure Domain where
  labels : List (List UInt8)
  trailing : Bool
  nonempty : labels ≠ []
  plain : ∀ label ∈ labels, label ≠ [] ∧ dot ∉ label ∧ NoSpace label

def Domain.name (d : Domain) : List UInt8 := [dot].intercalate d.labels

def Domain.text (d : Domain) : List UInt8 := if d.trailing = true then d.name ++ [dot] else d.name

/-- A text on one line with no white space at its ends. -/
structure Value where
  text : List UInt8
  clean : Clean whiteSpace text
  oneLine : newline ∉ text

/-- A nameserver; in an IPv6 address a colon comes before every dot and every percent sign. -/
inductive Server where
  | v4 (address : BitVec 32)
  | v6 (value : Value) (colons : value.text.find? addressMark = some colon)

def octets (address : BitVec 32) : List ℕ :=
  [address.toNat / 16777216, address.toNat / 65536 % 256, address.toNat / 256 % 256,
    address.toNat % 256]

def Server.text : Server → List UInt8
  | v4 address => [dot].intercalate ((octets address).map itoa)
  | v6 value _ => value.text

inductive Entry where
  | domain (d : Domain)
  | searchDomain (index : ℕ) (d : Domain)
  | nameserver (index : ℕ) (server : Server)
  | port (value : Value)
  | order (value : Value)

def indexed (key : List UInt8) (index : ℕ) : List UInt8 := key ++ itoa index ++ ascii "]"

def Entry.key : Entry → List UInt8
  | domain _ => domainKey
  | searchDomain index _ => indexed searchDomainKey index
  | nameserver index _ => indexed nameserverKey index
  | port _ => portKey
  | order _ => orderKey

def Entry.value : Entry → List UInt8
  | domain d => d.text
  | searchDomain _ d => d.text
  | nameserver _ server => server.text
  | port value => value.text
  | order value => value.text

structure Block where
  number : ℕ
  entries : List Entry

/-- What a listing has a line for. -/
inductive Item where
  | heading (number : ℕ)
  | entry (e : Entry)

def Block.items (b : Block) : List Item := .heading b.number :: b.entries.map .entry

/-- White space within a line. -/
def Indent (s : List UInt8) : Prop := Blank whiteSpace s ∧ newline ∉ s

def Recognised (key : List UInt8) : Prop :=
  key = domainKey ∨ searchDomainKey <+: key ∨ nameserverKey <+: key ∨ key = portKey ∨ key = orderKey

/-- A line that is not a heading and has no recognised key. -/
structure Ignored (u : Unicode) (line : List UInt8) : Prop where
  oneLine : newline ∉ line
  noHeading : ¬headingText <+: u.strip line
  noKey : ∀ key value, cut colon (u.strip line) = some (key, value) → ¬Recognised (u.strip key)

/-- The lines in which the items are written down. -/
inductive Rendered (u : Unicode) : List Item → List (List UInt8) → Prop where
  | nil : Rendered u [] []
  | other {items : List Item} {lines : List (List UInt8)} {line : List UInt8} :
      Ignored u line → Rendered u items lines → Rendered u items (line :: lines)
  | heading {items : List Item} {lines : List (List UInt8)} {l r : List UInt8} (number : ℕ) :
      Indent l → Indent r → Rendered u items lines →
      Rendered u (.heading number :: items) ((l ++ (headingText ++ itoa number) ++ r) :: lines)
  | entry {items : List Item} {lines : List (List UInt8)} {l p q r : List UInt8} (e : Entry) :
      Indent l → Indent p → Indent q → Indent r → Rendered u items lines →
      Rendered u (.entry e :: items)
        ((l ++ (e.key ++ p ++ colon :: (q ++ e.value)) ++ r) :: lines)

/-! What a block stands for -/

def Entry.domain? : Entry → Option Domain
  | domain d => some d
  | searchDomain _ d => some d
  | _ => none

def Entry.ipv4? : Entry → Option Addr
  | nameserver _ (.v4 address) => some (.v4 address)
  | _ => none

/-- The port, if it is valid and not zero. -/
def Entry.port? : Entry → Option ℕ
  | port value => (parseUint16 value.text).filter (0 < ·)
  | _ => none

def Entry.order? : Entry → Option ℤ
  | order value => atoi value.text
  | _ => none

def Block.ipv4 (b : Block) : List Addr := b.entries.filterMap Entry.ipv4?

def Block.resolver (u : Unicode) (b : Block) : Resolver where
  domains := ((b.entries.filterMap Entry.domain?).map fun d => u.lower d.name).eraseDups
  nameservers := b.ipv4
  port := ((b.entries.filterMap Entry.port?).getLast?.map UInt16.ofNat).getD 53
  order := (b.entries.filterMap Entry.order?).getLast?.getD 0

/-- The effect of an entry on the resolver that is being built. -/
def Resolver.add (u : Unicode) (r : Resolver) (e : Entry) : Resolver where
  domains := r.domains ++ (e.domain?.map fun d => u.lower d.name).toList
  nameservers := r.nameservers ++ e.ipv4?.toList
  port := (e.port?.map UInt16.ofNat).getD r.port
  order := e.order?.getD r.order

/-! The texts of the entries -/

theorem plain_of_digit : ∀ b, isDigitByte b = true → isPlainByte b = true ∧ addressMark b = false :=
  forall_byte (by decide +kernel)

variable (d : Domain)

theorem Domain.noSpace_name : NoSpace d.name :=
  NoSpace.intercalate (fun label hlabel => (d.plain label hlabel).2.2) (by decide)

theorem Domain.noSpace_text : NoSpace d.text := by
  unfold text
  split
  · exact d.noSpace_name.append_cons NoSpace.nil (by decide)
  · exact d.noSpace_name

theorem newline_not_mem {s : List UInt8} (h : NoSpace s) : newline ∉ s := by
  intro hmem
  obtain ⟨front, back, rfl⟩ := append_of_mem hmem
  exact h [newline] (by decide) ⟨front, back, by simp⟩

theorem Domain.splitOn_name : d.name.splitOn dot = d.labels :=
  splitOn_intercalate dot (fun label hlabel => (d.plain label hlabel).2.1) d.nonempty

theorem Domain.name_ne_nil : d.name ≠ [] := by
  intro hnil
  have hlabels := d.splitOn_name
  rw [hnil, splitOn_nil] at hlabels
  exact (d.plain [] (by simp [← hlabels])).1 rfl

theorem Domain.name_not_dotted : ¬[dot] <:+ d.name := by
  rintro ⟨front, hfront⟩
  have hlabels := d.splitOn_name
  rw [← hfront, splitOn_append_cons_self, splitOn_nil] at hlabels
  exact (d.plain [] (by simp [← hlabels])).1 rfl

theorem trimSuffix_of_not_suffix {s : List UInt8} (h : ¬[dot] <:+ s) : trimSuffix s [dot] = s :=
  if_neg fun hsuffix => h (List.isSuffixOf_iff_suffix.mp hsuffix)

theorem trimSuffix_append (s : List UInt8) : trimSuffix (s ++ [dot]) [dot] = s := by
  have hsuffix : [dot].isSuffixOf (s ++ [dot]) = true :=
    List.isSuffixOf_iff_suffix.mpr (suffix_append s [dot])
  simp [trimSuffix, hsuffix]

section lawful
variable (u : LawfulUnicode)

theorem strip_clean {s : List UInt8} (h : Clean whiteSpace s) : u.strip s = s := by
  simpa using u.strip_padded Blank.nil h Blank.nil

/-- The parser drops the dot at the end, and lower case. -/
theorem normalizeDomain_text (d : Domain) : normalizeDomain u.toUnicode d.text = u.lower d.name := by
  unfold normalizeDomain
  rw [strip_clean u d.noSpace_text.clean, Domain.text]
  split
  · rw [show [dot] = [46] from rfl, u.lower_append_dot]
    exact trimSuffix_append _
  · exact trimSuffix_of_not_suffix fun h => d.name_not_dotted (u.dot_of_lower _ h)

theorem normalizeDomain_lower (d : Domain) :
    normalizeDomain u.toUnicode (u.lower d.name) = u.lower d.name := by
  unfold normalizeDomain
  rw [strip_clean u (u.lower_clean _ d.noSpace_name.clean), u.lower_lower]
  exact trimSuffix_of_not_suffix fun h => d.name_not_dotted (u.dot_of_lower _ h)

theorem uniqueDomains_lower (ds : List Domain) :
    uniqueDomains u.toUnicode (ds.map fun d => u.lower d.name) =
      (ds.map fun d => u.lower d.name).eraseDups := by
  have hsame : (ds.map fun d => u.lower d.name).map (normalizeDomain u.toUnicode) =
      ds.map fun d => u.lower d.name := by
    rw [map_map]
    exact map_congr_left fun d _ => normalizeDomain_lower u d
  have hkeep : (ds.map fun d => u.lower d.name).filter (· ≠ []) = ds.map fun d => u.lower d.name := by
    rw [filter_eq_self]
    intro s hs
    obtain ⟨d, -, rfl⟩ := mem_map.mp hs
    simpa using u.lower_ne_nil _ d.name_ne_nil
  rw [uniqueDomains_eq, hsame, hkeep]

end lawful

variable (address : BitVec 32)

theorem plain_server : ∀ b ∈ (Server.v4 address).text, isPlainByte b = true := by
  intro b hb
  rcases mem_intercalate hb with rfl | ⟨field, hfield, hmem⟩
  · decide
  · obtain ⟨n, -, rfl⟩ := mem_map.mp hfield
    exact (plain_of_digit b (itoa_digits n b hmem)).1

theorem Entry.value_clean (e : Entry) : Clean whiteSpace e.value := by
  cases e with
  | domain d => exact d.noSpace_text.clean
  | searchDomain index d => exact d.noSpace_text.clean
  | nameserver index server =>
    cases server with
    | v4 address => exact (noSpace_of_plain (plain_server address)).clean
    | v6 value colons => exact value.clean
  | port value => exact value.clean
  | order value => exact value.clean

theorem Entry.newline_not_mem_value (e : Entry) : newline ∉ e.value := by
  cases e with
  | domain d => exact newline_not_mem d.noSpace_text
  | searchDomain index d => exact newline_not_mem d.noSpace_text
  | nameserver index server =>
    cases server with
    | v4 address => exact newline_not_mem (noSpace_of_plain (plain_server address))
    | v6 value colons => exact value.oneLine
  | port value => exact value.oneLine
  | order value => exact value.oneLine

/-! Addresses -/

theorem ipv4Field_itoa : ∀ n < 256, ipv4Field (itoa n) = true := by
  decide +kernel

theorem octets_lt : ∀ n ∈ octets address, n < 256 := by
  have hlt := address.isLt
  simp only [octets, forall_mem_cons, mem_nil_iff, false_implies, forall_const, and_true]
  omega

theorem splitOn_v4 : (Server.v4 address).text.splitOn dot = (octets address).map itoa := by
  apply splitOn_intercalate
  · intro field hfield hdot
    obtain ⟨n, -, rfl⟩ := mem_map.mp hfield
    exact absurd (itoa_digits n dot hdot) (by decide)
  · simp [octets]

theorem parseIPv4_text : parseIPv4 (Server.v4 address).text = some (.v4 address) := by
  have hliteral : isIPv4Literal (Server.v4 address).text = true := by
    have hfields : ((octets address).map itoa).all ipv4Field = true := by
      rw [all_map, all_eq_true]
      exact fun n hn => ipv4Field_itoa n (octets_lt address n hn)
    have hsplit : (Server.v4 address).text.splitOn dot = (octets address).map itoa :=
      splitOn_v4 address
    simp only [isIPv4Literal, hsplit, hfields, Bool.and_true]
    rfl
  have hvalue : ((octets address).map itoa).foldl (fun number field => number * 256 + decimal field)
      0 = address.toNat := by
    have hlt := address.isLt
    simp only [octets, map_cons, map_nil, foldl_cons, foldl_nil,
      Proxy.decimal_itoa]
    omega
  rw [parseIPv4, if_pos hliteral, splitOn_v4, hvalue, BitVec.ofNat_toNat]
  simp

theorem find_mark_v4 : (Server.v4 address).text.find? addressMark = some dot := by
  have hdigits : (itoa (address.toNat / 16777216)).find? addressMark = none := by
    rw [List.find?_eq_none]
    intro b hb
    simp [(plain_of_digit b (itoa_digits _ b hb)).2]
  simp only [Server.text, octets, map_cons, intercalate_cons_cons, append_assoc,
    List.find?_append, hdigits, Option.none_or, singleton_append]
  rfl

/-- Of the nameservers only the IPv4 ones are taken. -/
theorem parseAddr_server (ipv6 : List UInt8 → Option (BitVec 128 × List UInt8)) (index : ℕ)
    (server : Server) :
    (parseAddr ipv6 server.text).filter Addr.is4 = (Entry.nameserver index server).ipv4? := by
  cases server with
  | v4 address =>
    rw [parseAddr, find_mark_v4]
    simp [parseIPv4_text, Entry.ipv4?, Addr.is4]
  | v6 value colons =>
    have hcolon : ¬colon = dot := by decide
    rw [parseAddr, Server.text, colons]
    simp only [hcolon, if_false, if_true, Entry.ipv4?]
    cases ipv6 value.text <;> rfl

end HarmonyNetBridge.Relay
