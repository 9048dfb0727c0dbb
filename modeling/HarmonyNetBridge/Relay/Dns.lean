import Mathlib.Data.Nat.Notation
import Mathlib.Tactic.Ring
import HarmonyNetBridge.Bytes.BigEndian
import HarmonyNetBridge.Bytes.Text

/-! Split DNS: the name that a DNS message asks for and the macOS resolver that is selected for it. -/
namespace HarmonyNetBridge.Relay
open Bytes List

def maximumDNSNameJumps : ℕ := 32

/-- `character < 0x21 || character > 0x7E`. -/
def unsupportedCharacter (character : UInt8) : Bool := character < 0x21 || 0x7E < character

/-- `(length&0x3F)<<8 | int(message[offset+1])`. -/
def compressionPointer (length next : UInt8) : ℕ := (length &&& 0x3F).toNat <<< 8 ||| next.toNat

/-- The loop of `DNSQuestionName`, from `offset` on; it returns the labels. -/
def questionLoop (message : List UInt8) (offset jumps : ℕ) (visited : List ℕ)
    (labels : List (List UInt8)) : Except String (List (List UInt8)) :=
  if offset ≥ message.length then .error "DNS question name is truncated"
  else
    let length := message.getD offset 0
    if length = 0 then .ok labels
    else if length &&& 0xC0 = 0xC0 then
      if offset + 1 ≥ message.length then .error "DNS compression pointer is truncated"
      else
        let pointer := compressionPointer length (message.getD (offset + 1) 0)
        if pointer ≥ message.length then .error "DNS compression pointer is outside the message"
        else if pointer ∈ visited ∨ jumps ≥ maximumDNSNameJumps then
          .error "DNS compression pointer loop detected"
        else questionLoop message pointer (jumps + 1) (pointer :: visited) labels
    else if length &&& 0xC0 ≠ 0 then .error "DNS question contains an invalid label type"
    else if length > 63 then .error "DNS label exceeds 63 bytes"
    else if offset + 1 + length.toNat > message.length then .error "DNS label is truncated"
    else
      let label := (message.drop (offset + 1)).take length.toNat
      if label.any unsupportedCharacter then .error "DNS label contains an unsupported character"
      else questionLoop message (offset + 1 + length.toNat) jumps visited (labels ++ [label])
termination_by (maximumDNSNameJumps - jumps, message.length - offset)

/-- The labels of the first question of a message. -/
def questionLabels (message : List UInt8) : Except String (List (List UInt8)) :=
  if message.length < 12 then .error "DNS message is shorter than its header"
  else if value ((message.drop 4).take 2) = 0 then .error "DNS message has no question"
  else questionLoop message 12 0 [] []

/-- The name that `DNSQuestionName` makes of the labels. -/
def nameOfLabels (u : Unicode) (labels : List (List UInt8)) : List UInt8 :=
  if labels = [] then [dot] else u.lower ([dot].intercalate labels)

def dnsQuestionName (u : Unicode) (message : List UInt8) : Except String (List UInt8) :=
  (questionLabels message).map (nameOfLabels u)

structure AcceptedLabel (label : List UInt8) : Prop where
  nonempty : label ≠ []
  short : label.length ≤ 63
  supported : ∀ b ∈ label, unsupportedCharacter b = false

theorem acceptedLabel_take {bytes : List UInt8} {length : UInt8} (hpos : length ≠ 0)
    (hmax : ¬ length > 63) (hsize : length.toNat ≤ bytes.length)
    (hany : ¬ (bytes.take length.toNat).any unsupportedCharacter = true) :
    AcceptedLabel (bytes.take length.toNat) := by
  have hlen : (bytes.take length.toNat).length = length.toNat := by
    rw [length_take]
    omega
  have hnonzero : length.toNat ≠ 0 := fun h => hpos (UInt8.toNat_inj.mp h)
  have hle : length.toNat ≤ 63 := UInt8.le_iff_toNat_le.mp (UInt8.not_lt.mp hmax)
  constructor
  · intro h
    rw [h, length_nil] at hlen
    exact hnonzero hlen.symm
  · omega
  · intro b hb
    by_contra hbad
    exact hany (any_eq_true.mpr ⟨b, hb, by simpa using hbad⟩)

variable {labels : List (List UInt8)}

theorem questionLoop_accepted {message : List UInt8} {offset jumps : ℕ} {visited : List ℕ}
    {result : List (List UInt8)} (h : questionLoop message offset jumps visited labels = .ok result)
    (hlabels : ∀ label ∈ labels, AcceptedLabel label) : ∀ label ∈ result, AcceptedLabel label := by
  -- one case for each way through the loop body; the errors return no labels
  fun_induction questionLoop message offset jumps visited labels
  all_goals try cases h
  · exact hlabels
  · rename_i ih
    exact ih h hlabels
  · rename_i hpos _ _ hmax hsize _ hany ih
    apply ih h
    intro label hmem
    rcases mem_append.mp hmem with hold | hnew
    · exact hlabels label hold
    · rw [mem_singleton.mp hnew]
      exact acceptedLabel_take hpos hmax (by rw [length_drop]; omega) hany

theorem questionLabels_accepted {message : List UInt8} (h : questionLabels message = .ok labels) :
    ∀ label ∈ labels, AcceptedLabel label := by
  unfold questionLabels at h
  split_ifs at h
  exact questionLoop_accepted h (by simp)

/-- Labels as a message without compression has them. -/
def encodeLabels (labels : List (List UInt8)) : List UInt8 :=
  labels.flatMap fun label => UInt8.ofNat label.length :: label

theorem questionLoop_label {front rest label : List UInt8} (h : AcceptedLabel label) (jumps : ℕ)
    (visited : List ℕ) (labels : List (List UInt8)) :
    questionLoop (front ++ UInt8.ofNat label.length :: (label ++ rest)) front.length jumps visited
        labels =
      questionLoop (front ++ UInt8.ofNat label.length :: (label ++ rest))
        (front.length + 1 + label.length) jumps visited (labels ++ [label]) := by
  have hshort := h.short
  have hpos : 0 < label.length := length_pos_iff.mpr h.nonempty
  have hbyte : (UInt8.ofNat label.length).toNat = label.length := by
    rw [UInt8.toNat_ofNat', Nat.mod_eq_of_lt (by omega)]
  have hbits : ∀ n < 64, UInt8.ofNat n &&& 0xC0 = 0 := by decide
  have hmask := hbits label.length (by omega)
  have hany : ¬ label.any unsupportedCharacter = true := by
    intro hany
    obtain ⟨b, hb, hbad⟩ := any_eq_true.mp hany
    rw [h.supported b hb] at hbad
    cases hbad
  rw [questionLoop]
  have hget : (front ++ UInt8.ofNat label.length :: (label ++ rest)).getD front.length 0 =
      UInt8.ofNat label.length := by simp
  have hlabel : ((front ++ UInt8.ofNat label.length :: (label ++ rest)).drop
      (front.length + 1)).take label.length = label := by
    rw [← drop_drop, drop_left]
    simp
  simp only [hget, hbyte, hmask, hlabel]
  rw [if_neg (by simp), if_neg, if_neg (by decide), if_neg (by simp), if_neg, if_neg (by simp; omega),
    if_neg hany]
  · rw [gt_iff_lt, UInt8.lt_iff_toNat_lt, hbyte]
    show ¬ 63 < label.length
    omega
  · intro hzero
    rw [hzero] at hbyte
    simp at hbyte
    omega

/-- Labels that are written one after another are read back. -/
theorem questionLoop_encodeLabels (h : ∀ label ∈ labels, AcceptedLabel label) (front : List UInt8)
    (jumps : ℕ) (visited : List ℕ) (before : List (List UInt8)) (rest : List UInt8) :
    questionLoop (front ++ encodeLabels labels ++ 0 :: rest) front.length jumps visited before =
      .ok (before ++ labels) := by
  induction labels generalizing front before with
  | nil =>
    rw [questionLoop]
    simp [encodeLabels]
  | cons label labels ih =>
    have hlabel := h label (by simp)
    have hrest := ih (fun l hl => h l (by simp [hl])) (front ++ UInt8.ofNat label.length :: label)
      (before ++ [label])
    have hshape : front ++ encodeLabels (label :: labels) ++ 0 :: rest =
        front ++ UInt8.ofNat label.length :: (label ++ (encodeLabels labels ++ 0 :: rest)) := by
      simp [encodeLabels]
    rw [hshape, questionLoop_label hlabel]
    have hoffset : (front ++ UInt8.ofNat label.length :: label).length =
        front.length + 1 + label.length := by
      simp
      omega
    rw [hoffset] at hrest
    simpa using hrest

/-- An address of Go's `netip`. -/
inductive Addr where
  | zero
  | v4 (address : BitVec 32)
  | v6 (address : BitVec 128) (zone : List UInt8)
  deriving DecidableEq, Repr

def Addr.is4 : Addr → Bool
  | v4 _ => true
  | _ => false

structure Resolver where
  domains : List (List UInt8)
  nameservers : List Addr
  port : UInt16
  order : ℤ
  deriving DecidableEq, Repr

def domainMatches (name suffix : List UInt8) : Bool :=
  name == suffix || (dot :: suffix).isSuffixOf name

def normalizeDomain (u : Unicode) (domain : List UInt8) : List UInt8 :=
  trimSuffix (u.lower (u.strip domain)) [dot]

/-- The variables of the loop of `selectResolver`. `domain` is not one of the source: it has the
match domain because of which `bestIndex` was set last. -/
structure Best where
  bestIndex : Option ℕ := none
  bestSuffixLength : ℤ := -1
  bestOrder : ℤ := 2 ^ 63 - 1
  domain : Option (List UInt8) := none
  deriving DecidableEq, Repr

/-- The body of the loop over `resolver.Domains`. -/
def considerDomain (u : Unicode) (questionName : List UInt8) (index : ℕ) (resolver : Resolver)
    (best : Best) (domain : List UInt8) : Best :=
  let candidate := normalizeDomain u domain
  if candidate = [] ∨ domainMatches questionName candidate = false then best
  else if candidate.length > best.bestSuffixLength ∨
      candidate.length = best.bestSuffixLength ∧ resolver.order < best.bestOrder then
    { bestIndex := some index, bestSuffixLength := candidate.length, bestOrder := resolver.order,
      domain := some domain }
  else best

/-- The body of the loop over the resolvers. -/
def considerResolver (u : Unicode) (questionName : List UInt8) (best : Best)
    (entry : Resolver × ℕ) : Best :=
  let (resolver, index) := entry
  if resolver.nameservers = [] then best
  else if resolver.domains = [] then
    if best.bestIndex = none ∨ best.bestSuffixLength = 0 ∧ resolver.order < best.bestOrder then
      { bestIndex := some index, bestSuffixLength := 0, bestOrder := resolver.order, domain := none }
    else best
  else resolver.domains.foldl (considerDomain u questionName index resolver) best

def bestMatch (u : Unicode) (resolvers : List Resolver) (questionName : List UInt8) : Best :=
  resolvers.zipIdx.foldl (considerResolver u (normalizeDomain u questionName)) {}

/-- `selectResolver`; the error's text goes on with the quoted name. -/
def selectResolver (u : Unicode) (resolvers : List Resolver) (questionName : List UInt8) :
    Except String Resolver :=
  match (bestMatch u resolvers questionName).bestIndex.bind (resolvers[·]?) with
  | none => .error "macOS has no resolver for DNS name"
  | some resolver => .ok resolver

/-- `selectResolver` picks the resolver because of its match domain `domain`. -/
def PickedFor (u : Unicode) (resolvers : List Resolver) (questionName : List UInt8)
    (resolver : Resolver) (domain : List UInt8) : Prop :=
  selectResolver u resolvers questionName = .ok resolver ∧
    (bestMatch u resolvers questionName).domain = some domain

/-- What the loops know of the match domain they keep. -/
structure Matched (u : Unicode) (resolvers : List Resolver) (name : List UInt8) (best : Best)
    (domain : List UInt8) : Prop where
  listed : ∃ resolver, best.bestIndex.bind (resolvers[·]?) = some resolver ∧ domain ∈ resolver.domains
  nonempty : normalizeDomain u domain ≠ []
  fits : domainMatches name (normalizeDomain u domain) = true

section selection
variable {u : Unicode} {resolvers : List Resolver} {name : List UInt8}

theorem considerDomain_matched {index : ℕ} {resolver : Resolver} {best : Best}
    {domain : List UInt8} (hindex : resolvers[index]? = some resolver) (hmem : domain ∈ resolver.domains)
    (hbest : ∀ d, best.domain = some d → Matched u resolvers name best d) :
    ∀ d, (considerDomain u name index resolver best domain).domain = some d →
      Matched u resolvers name (considerDomain u name index resolver best domain) d := by
  intro d
  unfold considerDomain
  dsimp only
  split
  · exact hbest d
  · rename_i hfits
    split
    · intro hd
      cases hd
      push Not at hfits
      exact ⟨⟨resolver, hindex, hmem⟩, hfits.1, by simpa using hfits.2⟩
    · exact hbest d

theorem considerResolver_matched {best : Best} {entry : Resolver × ℕ}
    (hentry : resolvers[entry.2]? = some entry.1)
    (hbest : ∀ d, best.domain = some d → Matched u resolvers name best d) :
    ∀ d, (considerResolver u name best entry).domain = some d →
      Matched u resolvers name (considerResolver u name best entry) d := by
  intro d
  unfold considerResolver
  dsimp only
  split
  · exact hbest d
  · split
    · split
      · simp
      · exact hbest d
    · refine List.foldlRecOn (motive := fun best => ∀ d, best.domain = some d →
        Matched u resolvers name best d) entry.1.domains _ hbest ?_ d
      intro best hb domain hmem
      exact considerDomain_matched hentry hmem hb

theorem bestMatch_matched {domain : List UInt8}
    (h : (bestMatch u resolvers name).domain = some domain) :
    Matched u resolvers (normalizeDomain u name) (bestMatch u resolvers name) domain := by
  refine List.foldlRecOn (motive := fun best => ∀ d, best.domain = some d →
    Matched u resolvers (normalizeDomain u name) best d) resolvers.zipIdx _ ?_ ?_ domain h
  · intro d hd
    cases hd
  · intro best hbest entry hentry
    exact considerResolver_matched (mk_mem_zipIdx_iff_getElem?.mp hentry) hbest

end selection

def queryFor (labels : List (List UInt8)) : List UInt8 :=
  [0x23, 0x45, 1, 0, 0, 1, 0, 0, 0, 0, 0, 0] ++ encodeLabels labels ++ [0, 0, 1, 0, 1]

theorem questionLabels_queryFor {labels : List (List UInt8)}
    (h : ∀ label ∈ labels, AcceptedLabel label) : questionLabels (queryFor labels) = .ok labels := by
  unfold questionLabels
  rw [if_neg, if_neg]
  · exact questionLoop_encodeLabels h [0x23, 0x45, 1, 0, 0, 1, 0, 0, 0, 0, 0, 0] 0 [] [] [0, 1, 0, 1]
  · simp [queryFor, value]
  · simp [queryFor]

def plainUnicode : Unicode := ⟨id, id⟩

def corpResolver : Resolver := ⟨[ascii "corp"], [.v4 0xC0000201], 53, 0⟩

theorem acceptedLabel_of_all {label : List UInt8} (hnonempty : label ≠ [])
    (hshort : label.length ≤ 63) (hall : label.all (fun b => !unsupportedCharacter b) = true) :
    AcceptedLabel label where
  nonempty := hnonempty
  short := hshort
  supported b hb := by simpa using all_eq_true.mp hall b hb

theorem acceptedLabel_plain : ∀ label ∈ [ascii "a", ascii "corp"], AcceptedLabel label := by
  rw [forall_mem_cons, forall_mem_singleton]
  constructor
  · exact acceptedLabel_of_all (by decide) (by decide) (by decide)
  · exact acceptedLabel_of_all (by decide) (by decide) (by decide)

end HarmonyNetBridge.Relay
