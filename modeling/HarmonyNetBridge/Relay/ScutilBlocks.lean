import HarmonyNetBridge.Relay.ScutilListing

/-! What the parser makes of the listing of a list of resolver blocks. -/
namespace HarmonyNetBridge.Relay
open Bytes List
open Proxy (isDigitByte itoa itoa_digits)

/-- What the parser relies on in the key of an entry: plain ends, other than a heading's, and no
colon. -/
structure GoodKey (key : List UInt8) : Prop where
  front : ∃ first rest, key = first :: rest ∧ isPlainByte first = true ∧ first ≠ 114
  back : ∃ rest last, key = rest ++ [last] ∧ isPlainByte last = true
  noColon : colon ∉ key
  oneLine : newline ∉ key

theorem GoodKey.clean {key : List UInt8} (h : GoodKey key) : Clean whiteSpace key := by
  intro w hw
  constructor
  · obtain ⟨first, rest, rfl, hfirst, -⟩ := h.front
    exact not_prefix_of_plain hfirst rest w hw
  · obtain ⟨rest, last, rfl, hlast⟩ := h.back
    exact not_suffix_of_plain hlast rest w hw

theorem GoodKey.indexed {key : List UInt8}
    (hfront : ∃ first rest, key = first :: rest ∧ isPlainByte first = true ∧ first ≠ 114)
    (hcolon : colon ∉ key) (hnewline : newline ∉ key) (index : ℕ) :
    GoodKey (Relay.indexed key index) := by
  have hdigit : ∀ b, isDigitByte b = false → b ∉ itoa index := by
    intro b hb hmem
    rw [itoa_digits index b hmem] at hb
    contradiction
  obtain ⟨first, rest, rfl, hfirst⟩ := hfront
  refine ⟨⟨first, _, rfl, hfirst⟩, ⟨_, 93, rfl, by decide⟩, ?_, ?_⟩
  · simp only [Relay.indexed, mem_append, not_or]
    exact ⟨⟨hcolon, hdigit colon (by decide)⟩, by decide⟩
  · simp only [Relay.indexed, mem_append, not_or]
    exact ⟨⟨hnewline, hdigit newline (by decide)⟩, by decide⟩

theorem goodKey_domain : GoodKey domainKey :=
  ⟨⟨100, ascii "omain", by decide⟩, ⟨ascii "domai", 110, by decide⟩, by decide, by decide⟩

theorem goodKey_port : GoodKey portKey :=
  ⟨⟨112, ascii "ort", by decide⟩, ⟨ascii "por", 116, by decide⟩, by decide, by decide⟩

theorem goodKey_order : GoodKey orderKey :=
  ⟨⟨111, ascii "rder", by decide⟩, ⟨ascii "orde", 114, by decide⟩, by decide, by decide⟩

theorem Entry.goodKey (e : Entry) : GoodKey e.key := by
  cases e with
  | domain d => exact goodKey_domain
  | searchDomain index d =>
    exact GoodKey.indexed ⟨115, ascii "earch domain[", by decide⟩ (by decide) (by decide) index
  | nameserver index server =>
    exact GoodKey.indexed ⟨110, ascii "ameserver[", by decide⟩ (by decide) (by decide) index
  | port value => exact goodKey_port
  | order value => exact goodKey_order

section line
variable (u : LawfulUnicode) (ipv6 : List UInt8 → Option (BitVec 128 × List UInt8)) (p : Parse)

theorem attribute_domain {key : List UInt8} (r : Resolver) (d : Domain)
    (hkey : key = domainKey ∨ searchDomainKey.isPrefixOf key = true) :
    r.attribute u.toUnicode ipv6 key d.text =
      { r with domains := r.domains ++ [u.lower d.name] } := by
  unfold Resolver.attribute
  rw [if_pos hkey, normalizeDomain_text]
  exact if_pos (u.lower_ne_nil _ d.name_ne_nil)

omit u in
theorem indexed_nameserver_ne (index : ℕ) : ¬(indexed nameserverKey index = domainKey ∨
    searchDomainKey.isPrefixOf (indexed nameserverKey index) = true) := by
  rintro (heq | hfront)
  · have hhead : some (110 : UInt8) = some 100 := congrArg List.head? heq
    exact absurd hhead (by decide)
  · obtain ⟨rest, hrest⟩ := List.isPrefixOf_iff_prefix.mp hfront
    have hhead : some (115 : UInt8) = some 110 := congrArg List.head? hrest
    exact absurd hhead (by decide)

variable (r : Resolver)

theorem attribute_nameserver (index : ℕ) (server : Server) :
    r.attribute u.toUnicode ipv6 (indexed nameserverKey index) server.text =
      { r with nameservers := r.nameservers ++ (Entry.nameserver index server).ipv4?.toList } := by
  have hfront : nameserverKey.isPrefixOf (indexed nameserverKey index) = true := by
    rw [List.isPrefixOf_iff_prefix, indexed, append_assoc]
    exact prefix_append _ _
  unfold Resolver.attribute
  rw [if_neg (indexed_nameserver_ne index), if_pos hfront, ← parseAddr_server ipv6 index server]
  cases parseAddr ipv6 server.text with
  | none => simp
  | some address => cases h : address.is4 <;> simp [Option.filter, h]

theorem attribute_port (value : Value) : r.attribute u.toUnicode ipv6 portKey value.text =
      { r with port := ((Entry.port value).port?.map UInt16.ofNat).getD r.port } := by
  unfold Resolver.attribute
  rw [if_neg (by decide), if_neg (by decide), if_pos rfl, Entry.port?]
  cases parseUint16 value.text with
  | none => rfl
  | some port => by_cases h : 0 < port <;> simp [Option.filter, h]

theorem attribute_order (value : Value) : r.attribute u.toUnicode ipv6 orderKey value.text =
      { r with order := (Entry.order value).order?.getD r.order } := by
  unfold Resolver.attribute
  rw [if_neg (by decide), if_neg (by decide), if_neg (by decide), if_pos rfl, Entry.order?]
  cases atoi value.text <;> rfl

/-- The switch over the keys does to the resolver what the entry says. -/
theorem attribute_entry (e : Entry) :
    r.attribute u.toUnicode ipv6 e.key e.value = r.add u.toUnicode e := by
  cases e with
  | domain d =>
    rw [Entry.key, Entry.value, attribute_domain u ipv6 r d (.inl rfl)]
    simp [Resolver.add, Entry.domain?, Entry.ipv4?, Entry.port?, Entry.order?]
  | searchDomain index d =>
    have hfront : searchDomainKey.isPrefixOf (indexed searchDomainKey index) = true := by
      rw [List.isPrefixOf_iff_prefix, indexed, append_assoc]
      exact prefix_append _ _
    rw [Entry.key, Entry.value, attribute_domain u ipv6 r d (.inr hfront)]
    simp [Resolver.add, Entry.domain?, Entry.ipv4?, Entry.port?, Entry.order?]
  | nameserver index server =>
    rw [Entry.key, Entry.value, attribute_nameserver]
    simp [Resolver.add, Entry.domain?, Entry.port?, Entry.order?]
  | port value =>
    rw [Entry.key, Entry.value, attribute_port]
    simp [Resolver.add, Entry.domain?, Entry.ipv4?, Entry.order?]
  | order value =>
    rw [Entry.key, Entry.value, attribute_order]
    simp [Resolver.add, Entry.domain?, Entry.ipv4?, Entry.port?]

/-- The key and the value of an entry's line, with any blanks around them, are found again. -/
theorem strip_entry {key value l q r : List UInt8} (hkey : GoodKey key)
    (hvalue : Clean whiteSpace value) (hl : Blank whiteSpace l) (hq : Blank whiteSpace q)
    (hr : Blank whiteSpace r) (p : List UInt8) : ∃ q', Blank whiteSpace q' ∧
      u.strip (l ++ (key ++ p ++ colon :: (q ++ value)) ++ r) =
        key ++ p ++ colon :: (q' ++ value) := by
  have hclean : ∀ q', Blank whiteSpace q' → (value = [] → q' = []) →
      Clean whiteSpace (key ++ p ++ colon :: (q' ++ value)) := by
    intro q' hq' hnil w hw
    constructor
    · obtain ⟨first, rest, rfl, hfirst, -⟩ := hkey.front
      exact not_prefix_of_plain hfirst _ w hw
    · have hcolon : isPlainByte colon = true := by decide
      exact whiteSpace_separate.not_suffix (not_mem_whiteSpace hcolon) hq' hvalue hnil _ w hw
  by_cases hnil : value = []
  · -- nothing stands behind the colon, so that the blanks there go as well
    have hstrip := u.strip_padded hl (hclean [] Blank.nil fun _ => rfl) (hq.append hr)
    refine ⟨[], Blank.nil, ?_⟩
    rw [← hstrip, hnil]
    simp
  · exact ⟨q, hq, u.strip_padded hl (hclean q hq fun h => absurd h hnil) hr⟩

theorem flush_current (s : Parse) : (s.flush u.toUnicode).current = {} := by
  simp only [Parse.flush]
  split <;> rfl

end line

/-- What a line for an item does. -/
def Parse.item (u : Unicode) (s : Parse) : Item → Parse
  | .heading _ => { current := { seen := true }, resolvers := (s.flush u).resolvers }
  | .entry e =>
    if s.current.seen = true then { s with current.resolver := s.current.resolver.add u e } else s

section lines
variable (u : LawfulUnicode) (ipv6 : List UInt8 → Option (BitVec 128 × List UInt8)) (s : Parse)

theorem line_entry {l p q r : List UInt8} (e : Entry) (hl : Indent l) (hp : Indent p)
    (hq : Indent q) (hr : Indent r) :
    s.line u.toUnicode ipv6 (l ++ (e.key ++ p ++ colon :: (q ++ e.value)) ++ r) =
      s.item u.toUnicode (.entry e) := by
  obtain ⟨q', hq', hstrip⟩ := strip_entry u e.goodKey e.value_clean hl.1 hq.1 hr.1 p
  have hheading : ¬headingText.isPrefixOf (e.key ++ p ++ colon :: (q' ++ e.value)) = true := by
    intro hfront
    obtain ⟨rest, hrest⟩ := List.isPrefixOf_iff_prefix.mp hfront
    obtain ⟨first, middle, hkey, -, hfirst⟩ := e.goodKey.front
    rw [hkey] at hrest
    have hhead : some (114 : UInt8) = some first := congrArg List.head? hrest
    exact hfirst (Option.some.inj hhead).symm
  have hcolon : colon ∉ e.key ++ p := by
    rw [mem_append, not_or]
    exact ⟨e.goodKey.noColon, hp.1.not_mem (by decide)⟩
  have hkey : u.strip (e.key ++ p) = e.key := u.strip_padded Blank.nil e.goodKey.clean hp.1
  have hvalue : u.strip (q' ++ e.value) = e.value := by
    simpa using u.strip_padded hq' e.value_clean Blank.nil
  unfold Parse.line Parse.item
  cases hseen : s.current.seen with
  | false => simp only [hstrip, if_neg hheading, if_true, Bool.false_eq_true, if_false]
  | true =>
    simp only [hstrip, if_neg hheading, Bool.true_eq_false, if_false, cut_append hcolon, hkey,
      hvalue, attribute_entry, if_true, hseen]

theorem line_heading {l r : List UInt8} (number : ℕ) (hl : Indent l) (hr : Indent r) :
    s.line u.toUnicode ipv6 (l ++ (headingText ++ itoa number) ++ r) =
      s.item u.toUnicode (.heading number) := by
  have hclean : Clean whiteSpace (headingText ++ itoa number) := by
    intro w hw
    constructor
    · exact not_prefix_of_plain (a := 114) (by decide) _ w hw
    · have htext : headingText = ascii "resolver " ++ [35] := by decide
      have hsign : isPlainByte 35 = true := by decide
      have hdigits : Clean whiteSpace (itoa number) :=
        (noSpace_of_plain fun b hb => (plain_of_digit b (itoa_digits number b hb)).1).clean
      rw [htext, append_assoc, singleton_append]
      exact whiteSpace_separate.not_suffix (not_mem_whiteSpace hsign) Blank.nil hdigits
        (fun _ => rfl) (ascii "resolver ") w hw
  have hstrip := u.strip_padded hl.1 hclean hr.1
  have hfront : headingText.isPrefixOf (headingText ++ itoa number) = true :=
    List.isPrefixOf_iff_prefix.mpr (prefix_append _ _)
  unfold Parse.line Parse.item
  simp only [hstrip, hfront, if_true, flush_current]

theorem attribute_unrecognised {key : List UInt8} (h : ¬Recognised key) (r : Resolver)
    (value : List UInt8) : r.attribute u.toUnicode ipv6 key value = r := by
  simp only [Recognised, not_or, ← List.isPrefixOf_iff_prefix] at h
  obtain ⟨hdomain, hsearch, hnameserver, hport, horder⟩ := h
  unfold Resolver.attribute
  rw [if_neg (not_or.mpr ⟨hdomain, hsearch⟩), if_neg hnameserver, if_neg hport, if_neg horder]

theorem line_ignored {line : List UInt8} (h : Ignored u.toUnicode line) :
    s.line u.toUnicode ipv6 line = s := by
  have hheading : ¬headingText.isPrefixOf (u.strip line) = true :=
    fun hfront => h.noHeading (List.isPrefixOf_iff_prefix.mp hfront)
  unfold Parse.line
  rw [if_neg hheading]
  split
  · rfl
  · cases hcut : cut colon (u.strip line) with
    | none => rfl
    | some pair =>
      obtain ⟨key, value⟩ := pair
      have hkey := h.noKey key value hcut
      simp only [attribute_unrecognised u ipv6 hkey]

theorem lines_items {items : List Item} {lines : List (List UInt8)}
    (h : Rendered u.toUnicode items lines) :
    lines.foldl (Parse.line u.toUnicode ipv6) s = items.foldl (Parse.item u.toUnicode) s := by
  induction h generalizing s with
  | nil => rfl
  | other hline _ ih => rw [foldl_cons, line_ignored u ipv6 s hline, ih]
  | heading number hl hr _ ih =>
    rw [foldl_cons, foldl_cons, line_heading u ipv6 s number hl hr, ih]
  | entry e hl hp hq hr _ ih =>
    rw [foldl_cons, foldl_cons, line_entry u ipv6 s e hl hp hq hr, ih]

end lines

theorem Rendered.oneLine {u : Unicode} {items : List Item} {lines : List (List UInt8)}
    (h : Rendered u items lines) : ∀ line ∈ lines, newline ∉ line := by
  induction h with
  | nil => exact forall_mem_nil _
  | other hline _ ih => exact forall_mem_cons.mpr ⟨hline.oneLine, ih⟩
  | heading number hl hr _ ih =>
    have hdigits : newline ∉ itoa number := fun h => absurd (itoa_digits number _ h) (by decide)
    have htext : newline ∉ headingText := by decide
    exact forall_mem_cons.mpr ⟨by simp [hl.2, hr.2, hdigits, htext], ih⟩
  | entry e hl hp hq hr _ ih =>
    have hkey := e.goodKey.oneLine
    have hvalue := e.newline_not_mem_value
    have hcolon : newline ≠ colon := by decide
    exact forall_mem_cons.mpr ⟨by simp [hl.2, hp.2, hq.2, hr.2, hkey, hvalue, hcolon], ih⟩

/-! Blocks -/

section blocks
variable (u : Unicode)

theorem add_entries (entries : List Entry) : ∀ r : Resolver, entries.foldl (Resolver.add u) r =
    { domains := r.domains ++ (entries.filterMap Entry.domain?).map fun d => u.lower d.name
      nameservers := r.nameservers ++ entries.filterMap Entry.ipv4?
      port := ((entries.filterMap Entry.port?).getLast?.map UInt16.ofNat).getD r.port
      order := (entries.filterMap Entry.order?).getLast?.getD r.order } := by
  induction entries with
  | nil => simp
  | cons e entries ih =>
    intro r
    rw [foldl_cons, ih, Resolver.add]
    congr 1
    · cases h : e.domain? <;> simp [h]
    · cases h : e.ipv4? <;> simp [h]
    · cases h : e.port? with
      | none => simp [h]
      | some port =>
        cases hlast : (entries.filterMap Entry.port?).getLast? <;>
          simp [h, hlast, List.getLast?_cons]
    · cases h : e.order? with
      | none => simp [h]
      | some order => simp [h, List.getLast?_cons]

theorem entries_items (entries : List Entry) : ∀ s : Parse, s.current.seen = true →
    (entries.map Item.entry).foldl (Parse.item u) s =
      { s with current.resolver := entries.foldl (Resolver.add u) s.current.resolver } := by
  induction entries with
  | nil => simp
  | cons e entries ih =>
    intro s hseen
    have hitem : s.item u (.entry e) = { s with current.resolver := s.current.resolver.add u e } :=
      if_pos hseen
    rw [map_cons, foldl_cons, hitem, ih]
    · rfl
    · exact hseen

end blocks

theorem Entry.port_range {e : Entry} {port : ℕ} (h : e.port? = some port) :
    0 < port ∧ port < 2 ^ 16 := by
  cases e with
  | port value =>
    simp only [Entry.port?, Option.filter_eq_some_iff, decide_eq_true_eq] at h
    obtain ⟨hparse, hpos⟩ := h
    unfold parseUint16 at hparse
    split at hparse
    · rename_i hvalid
      rw [← Option.some.inj hparse]
      exact ⟨by rwa [Option.some.inj hparse], hvalid.2.2⟩
    · contradiction
  | domain d => contradiction
  | searchDomain index d => contradiction
  | nameserver index server => contradiction
  | order value => contradiction

/-- The default stands for a port that was not set, because no port that is set is zero. -/
theorem port_default (b : Block) :
    (if ((b.entries.filterMap Entry.port?).getLast?.map UInt16.ofNat).getD 0 = 0 then defaultDNSPort
      else ((b.entries.filterMap Entry.port?).getLast?.map UInt16.ofNat).getD 0) =
    ((b.entries.filterMap Entry.port?).getLast?.map UInt16.ofNat).getD 53 := by
  cases hlast : (b.entries.filterMap Entry.port?).getLast? with
  | none => rfl
  | some port =>
    obtain ⟨e, -, he⟩ := mem_filterMap.mp (mem_of_getLast? hlast)
    obtain ⟨hpos, hlt⟩ := Entry.port_range he
    have hne : UInt16.ofNat port ≠ 0 := by
      intro hzero
      have hnat := congrArg UInt16.toNat hzero
      rw [UInt16.toNat_ofNat_of_lt' hlt] at hnat
      exact absurd hnat (Nat.ne_of_gt hpos)
    simp [hne]

section run
variable (u : LawfulUnicode)

/-- The resolvers that the block stands for: one, or none without an IPv4 nameserver. -/
def Block.found (u : Unicode) (b : Block) : List Resolver :=
  if b.ipv4 = [] then [] else [b.resolver u]

theorem flush_block (b : Block) (s : Parse) :
    ((b.items.foldl (Parse.item u.toUnicode) s).flush u.toUnicode).resolvers =
      (s.flush u.toUnicode).resolvers ++ b.found u.toUnicode := by
  have hitems : b.items.foldl (Parse.item u.toUnicode) s =
      { current :=
          { resolver := b.entries.foldl (Resolver.add u.toUnicode) ⟨[], [], 0, 0⟩, seen := true }
        resolvers := (s.flush u.toUnicode).resolvers } :=
    entries_items u.toUnicode b.entries _ rfl
  rw [hitems, add_entries, Block.found]
  by_cases hnone : b.ipv4 = []
  · have hservers : b.entries.filterMap Entry.ipv4? = [] := hnone
    simp [Parse.flush, hservers, hnone]
  · have hservers : b.entries.filterMap Entry.ipv4? ≠ [] := hnone
    simp only [Parse.flush, nil_append, Bool.true_eq_false, false_or, if_neg hservers,
      if_neg hnone, uniqueDomains_lower, port_default]
    rfl

theorem flush_blocks (blocks : List Block) : ∀ s : Parse,
    (((blocks.flatMap Block.items).foldl (Parse.item u.toUnicode) s).flush u.toUnicode).resolvers =
      (s.flush u.toUnicode).resolvers ++ blocks.flatMap (Block.found u.toUnicode) := by
  induction blocks with
  | nil => simp
  | cons b blocks ih =>
    intro s
    rw [flatMap_cons, foldl_append, ih, flush_block, flatMap_cons, append_assoc]

theorem flatMap_found (blocks : List Block) : blocks.flatMap (Block.found u.toUnicode) =
    (blocks.filter (·.ipv4 ≠ [])).map (Block.resolver u.toUnicode) := by
  induction blocks with
  | nil => rfl
  | cons b blocks ih =>
    rw [flatMap_cons, ih, Block.found]
    by_cases hnone : b.ipv4 = []
    · simp [hnone]
    · simp [hnone]

theorem ignored_nil : Ignored u.toUnicode [] := by
  have hstrip : u.strip [] = [] := strip_clean u NoSpace.nil.clean
  constructor
  · simp
  · rw [hstrip]
    decide
  · intro key value hcut
    rw [hstrip] at hcut
    contradiction

theorem foldl_listing (ipv6 : List UInt8 → Option (BitVec 128 × List UInt8))
    {items : List Item} {lines : List (List UInt8)} (h : Rendered u.toUnicode items lines) :
    (([newline].intercalate lines).splitOn newline).foldl (Parse.line u.toUnicode ipv6) {} =
      items.foldl (Parse.item u.toUnicode) {} := by
  rw [← lines_items u ipv6 {} h]
  by_cases hnil : lines = []
  · rw [hnil, intercalate_nil, splitOn_nil, foldl_cons,
      line_ignored u ipv6 {} (ignored_nil u)]
  · rw [splitOn_intercalate newline h.oneLine hnil]

/-- The resolvers that the parser has found at the end of a listing. -/
theorem parseScutilDNS_listing (ipv6 : List UInt8 → Option (BitVec 128 × List UInt8))
    {blocks : List Block} {lines : List (List UInt8)} {found : List Resolver}
    (h : Rendered u.toUnicode (blocks.flatMap Block.items) lines)
    (hfound : (blocks.filter (·.ipv4 ≠ [])).map (Block.resolver u.toUnicode) = found) :
    parseScutilDNS u.toUnicode ipv6 ([newline].intercalate lines) =
      if found = [] then .error "scutil reported no usable IPv4 DNS resolvers"
      else .ok (found.mergeSort fun left right => left.order ≤ right.order) := by
  have hstart : (Parse.flush u.toUnicode {}).resolvers = [] := rfl
  simp only [parseScutilDNS, foldl_listing u ipv6 h, flush_blocks, flatMap_found, hstart,
    nil_append, hfound]

/-- The parser returns the blocks with an IPv4 nameserver, sorted by their order, and fails when
there is none. -/
theorem parseScutilDNS_rendered (ipv6 : List UInt8 → Option (BitVec 128 × List UInt8))
    (blocks : List Block) (lines : List (List UInt8))
    (h : Rendered u.toUnicode (blocks.flatMap Block.items) lines) :
    ((∃ message, parseScutilDNS u.toUnicode ipv6 ([newline].intercalate lines) = .error message) ↔
      ∀ b ∈ blocks, b.ipv4 = []) ∧
    ∀ resolvers, parseScutilDNS u.toUnicode ipv6 ([newline].intercalate lines) = .ok resolvers →
      StablySorted Resolver.order
        ((blocks.filter (·.ipv4 ≠ [])).map (Block.resolver u.toUnicode)) resolvers := by
  obtain ⟨found, hfound⟩ :
      ∃ found, (blocks.filter (·.ipv4 ≠ [])).map (Block.resolver u.toUnicode) = found := ⟨_, rfl⟩
  have hnone : found = [] ↔ ∀ b ∈ blocks, b.ipv4 = [] := by
    simp [← hfound, filter_eq_nil_iff]
  rw [parseScutilDNS_listing u ipv6 h hfound, hfound, ← hnone]
  by_cases hempty : found = []
  · rw [if_pos hempty]
    refine ⟨⟨fun _ => hempty, fun _ => ⟨_, rfl⟩⟩, ?_⟩
    intro resolvers hok
    contradiction
  · rw [if_neg hempty]
    refine ⟨⟨?_, fun h => absurd h hempty⟩, ?_⟩
    · rintro ⟨message, herror⟩
      contradiction
    · intro resolvers hok
      rw [← Except.ok.inj hok]
      exact mergeSort_stablySorted Resolver.order found

end run

/-! A listing with one block -/

def corpDomain : Domain where
  labels := [ascii "Corp"]
  trailing := true
  nonempty := by simp
  plain := by
    rw [forall_mem_singleton]
    exact ⟨by decide, by decide, noSpace_of_plain (all_eq_true.mp (by decide))⟩

def corpBlock : Block where
  number := 1
  entries := [.domain corpDomain, .nameserver 0 (.v4 0xC0000201)]

def corpListing : List (List UInt8) :=
  [ascii "DNS configuration", ascii "resolver #1", ascii "  domain : Corp.",
    ascii "  nameserver[0] : 192.0.2.1"]

theorem corpListing_rendered :
    Rendered asciiLetters.toUnicode ([corpBlock].flatMap Block.items) corpListing := by
  have hlines : corpListing = [ascii "DNS configuration", [] ++ (headingText ++ itoa 1) ++ [],
      ascii "  " ++ (domainKey ++ ascii " " ++ colon :: (ascii " " ++ corpDomain.text)) ++ [],
      ascii "  " ++ (indexed nameserverKey 0 ++ ascii " " ++
        colon :: (ascii " " ++ (Server.v4 0xC0000201).text)) ++ []] := by decide
  have hnone : Indent [] := ⟨Blank.nil, by decide⟩
  have hone : Indent (ascii " ") := ⟨⟨[[32]], by decide, by decide⟩, by decide⟩
  have htwo : Indent (ascii "  ") := ⟨⟨[[32], [32]], by decide, by decide⟩, by decide⟩
  have hclean : Clean whiteSpace (ascii "DNS configuration") := by
    intro w hw
    exact ⟨not_prefix_of_plain (a := 68) (by decide) (ascii "NS configuration") w hw,
      not_suffix_of_plain (b := 110) (by decide) (ascii "DNS configuratio") w hw⟩
  have hother : Ignored asciiLetters.toUnicode (ascii "DNS configuration") := by
    have hstrip := strip_clean asciiLetters hclean
    refine ⟨by decide, ?_, ?_⟩
    · rw [hstrip]
      decide
    · intro key value hcut
      rw [hstrip] at hcut
      exact absurd hcut (by simp [show cut colon (ascii "DNS configuration") = none by decide])
  rw [hlines]
  exact .other hother (.heading 1 hnone hnone (.entry (.domain corpDomain) htwo hone hone hnone
    (.entry (.nameserver 0 (.v4 0xC0000201)) htwo hone hone hnone .nil)))

theorem parseScutilDNS_rendered_corp :
    Rendered asciiLetters.toUnicode ([corpBlock].flatMap Block.items) corpListing ∧
      (¬∃ message, parseScutilDNS asciiLetters.toUnicode (fun _ => none)
        ([newline].intercalate corpListing) = .error message) ∧
      ∀ resolvers, parseScutilDNS asciiLetters.toUnicode (fun _ => none)
        ([newline].intercalate corpListing) = .ok resolvers →
        StablySorted Resolver.order [⟨[ascii "corp"], [.v4 0xC0000201], 53, 0⟩] resolvers := by
  obtain ⟨hfails, hreturns⟩ := parseScutilDNS_rendered asciiLetters (fun _ => none) [corpBlock]
    corpListing corpListing_rendered
  refine ⟨corpListing_rendered, ?_, hreturns⟩
  rw [hfails, forall_mem_singleton]
  decide

end HarmonyNetBridge.Relay
