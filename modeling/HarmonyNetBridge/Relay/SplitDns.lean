import HarmonyNetBridge.Relay.Dns

/-! Which names a match domain of split DNS covers. -/
namespace HarmonyNetBridge.Relay
open Bytes List

/-- The labels of a match domain, as it is compared. -/
def domainLabels (u : Unicode) (domain : List UInt8) : List (List UInt8) :=
  (normalizeDomain u domain).splitOn dot

def lowerLabel (label : List UInt8) : List UInt8 := label.map lowerByte

section names
variable {u : Unicode} {labels : List (List UInt8)}

theorem supported_lowerByte : ∀ b, unsupportedCharacter b = false →
    unsupportedCharacter (lowerByte b) = false :=
  forall_byte (by decide +kernel)

/-- A supported character is plain ASCII and no white space. -/
theorem supported_plain : ∀ b, unsupportedCharacter b = false →
    isAscii b = true ∧ isSpaceByte b = false :=
  forall_byte (by decide +kernel)

theorem dot_mem_lowerLabel {label : List UInt8} : dot ∈ lowerLabel label ↔ dot ∈ label := by
  simp [lowerLabel, lowerByte_eq_iff (x := dot) (by decide)]

theorem AcceptedLabel.lower {label : List UInt8} (h : AcceptedLabel label) :
    AcceptedLabel (lowerLabel label) := by
  constructor
  · simpa [lowerLabel] using h.nonempty
  · simpa [lowerLabel] using h.short
  · intro b hb
    obtain ⟨a, ha, rfl⟩ := mem_map.mp hb
    exact supported_lowerByte a (h.supported a ha)

theorem supported_joined (h : ∀ label ∈ labels, AcceptedLabel label) :
    ∀ b ∈ [dot].intercalate labels, unsupportedCharacter b = false := by
  intro b hb
  rcases mem_intercalate hb with rfl | ⟨label, hlabel, hmem⟩
  · rfl
  · exact (h label hlabel).supported b hmem

theorem map_lowerByte_joined :
    ([dot].intercalate labels).map lowerByte = [dot].intercalate (labels.map lowerLabel) :=
  map_intercalate lowerByte dot labels

/-- The name that `selectResolver` compares: the lowered labels with dots between them; what
`TrimSuffix` takes away can only be the end of the last label. -/
theorem normalizeDomain_nameOfLabels (hne : labels ≠ []) (h : ∀ label ∈ labels, AcceptedLabel label) :
    normalizeDomain u (nameOfLabels u labels) =
      trimSuffix ([dot].intercalate (labels.map lowerLabel)) [dot] := by
  have hlower : ∀ label ∈ labels.map lowerLabel, AcceptedLabel label := by
    intro label hmem
    obtain ⟨l, hl, rfl⟩ := mem_map.mp hmem
    exact (h l hl).lower
  have hplain : ∀ b ∈ [dot].intercalate labels, isAscii b = true :=
    fun b hb => (supported_plain b (supported_joined h b hb)).1
  have hascii : ∀ b ∈ [dot].intercalate (labels.map lowerLabel), isAscii b = true :=
    fun b hb => (supported_plain b (supported_joined hlower b hb)).1
  have hspace : ∀ b ∈ [dot].intercalate (labels.map lowerLabel), isSpaceByte b = false :=
    fun b hb => (supported_plain b (supported_joined hlower b hb)).2
  unfold normalizeDomain nameOfLabels
  rw [if_neg hne, Unicode.lower_of_ascii hplain, map_lowerByte_joined,
    Unicode.strip_of_ascii hascii hspace, Unicode.lower_of_ascii hascii, map_lowerByte_joined,
    map_map]
  have hidem : lowerLabel ∘ lowerLabel = lowerLabel := by
    funext label
    simp [lowerLabel, lowerByte_idem]
  rw [hidem]

theorem normalizeDomain_root : normalizeDomain u (nameOfLabels u []) = [] := by
  have hascii : ∀ b ∈ [dot], isAscii b := forall_mem_singleton.mpr (by decide)
  have hspace : ∀ b ∈ [dot], isSpaceByte b = false := forall_mem_singleton.mpr (by decide)
  unfold normalizeDomain nameOfLabels
  rw [if_pos rfl, Unicode.strip_of_ascii hascii hspace, Unicode.lower_of_ascii hascii]
  decide

end names

variable {back labels : List (List UInt8)}

theorem splitOn_joined (front : List (List UInt8)) (hback : back ≠ [])
    (hdots : ∀ label ∈ back, dot ∉ label) :
    ∃ first, ([dot].intercalate (front ++ back)).splitOn dot = first ++ back ∧
      (front = [] → first = []) := by
  by_cases hfront : front = []
  · refine ⟨[], ?_, fun _ => rfl⟩
    rw [hfront, nil_append, splitOn_intercalate dot hdots hback]
  · exact ⟨_, splitOn_intercalate_append hfront hback hdots, fun h => absurd h hfront⟩

theorem trimSuffix_dot {text : List UInt8} {first : List (List UInt8)}
    (hsplit : text.splitOn dot = first ++ back) (hback : back ≠ [])
    (hnonempty : ∀ label ∈ back, label ≠ []) : trimSuffix text [dot] = text := by
  apply if_neg
  intro h
  obtain ⟨front, rfl⟩ := List.isSuffixOf_iff_suffix.mp h
  rw [splitOn_append_cons_self, splitOn_nil] at hsplit
  obtain ⟨init, last, rfl⟩ := (eq_nil_or_concat back).resolve_left hback
  rw [concat_eq_append, ← append_assoc] at hsplit
  have hlast := (append_inj' hsplit rfl).2
  exact hnonempty last (by simp) (singleton_inj.mp hlast).symm

/-- A name that ends with `ending` at a dot has the labels of `ending` at its end, if none of the
labels there has a dot in it. -/
theorem splitOn_suffix_labels {ending : List UInt8} (hne : labels ≠ [])
    (hnonempty : ∀ label ∈ labels, label ≠ [])
    (hfits : domainMatches (trimSuffix ([dot].intercalate labels) [dot]) ending = true)
    (hdots : ∀ label ∈ labels.drop (labels.length - (ending.splitOn dot).length), dot ∉ label) :
    ending.splitOn dot <:+ labels := by
  have hpos : 0 < (ending.splitOn dot).length := length_pos_iff.mpr (splitOn_ne_nil dot _)
  have hlen : 0 < labels.length := length_pos_iff.mpr hne
  -- the labels in front, and the ones that `ending` covers
  obtain ⟨front, back, happend, hback, hbackLen⟩ : ∃ front back, front ++ back = labels ∧
      labels.drop (labels.length - (ending.splitOn dot).length) = back ∧
      back.length = min (ending.splitOn dot).length labels.length := by
    refine ⟨_, _, take_append_drop (labels.length - (ending.splitOn dot).length) labels, rfl, ?_⟩
    rw [length_drop]
    omega
  rw [hback] at hdots
  have hbackNe : back ≠ [] := by
    apply length_pos_iff.mp
    omega
  have hbackNonempty : ∀ label ∈ back, label ≠ [] := by
    intro label hmem
    exact hnonempty label (by simp [← happend, hmem])
  obtain ⟨first, hsplit, hfirst⟩ := splitOn_joined front hbackNe hdots
  rw [← happend, trimSuffix_dot hsplit hbackNe hbackNonempty] at hfits
  have hsuffix : ending.splitOn dot <:+ first ++ back := by
    rw [← hsplit]
    apply splitOn_suffix
    simpa [domainMatches] using hfits
  by_cases hall : front = []
  · rw [hfirst hall, nil_append] at hsuffix
    rwa [← happend, hall, nil_append]
  · have hfront : 0 < front.length := length_pos_iff.mpr hall
    have hsum : front.length + back.length = labels.length := by rw [← happend, length_append]
    obtain ⟨rest, hrest⟩ := hsuffix
    have hequal := (append_inj' hrest (by omega)).2
    rw [hequal, ← happend]
    exact suffix_append front back

/-- A match domain is a suffix of the asked labels just when none of the labels it covers has a dot
in it. -/
theorem pickedFor_labels_suffix_iff (u : Unicode) (message : List UInt8) (resolvers : List Resolver)
    (labels : List (List UInt8)) (name : List UInt8) (resolver : Resolver) (domain : List UInt8)
    (hlabels : questionLabels message = .ok labels) (hname : dnsQuestionName u message = .ok name)
    (hpicked : PickedFor u resolvers name resolver domain) :
    domainLabels u domain <:+ labels.map lowerLabel ↔
      ∀ label ∈ labels.drop (labels.length - (domainLabels u domain).length), dot ∉ label := by
  have hacc := questionLabels_accepted hlabels
  have hnameEq : name = nameOfLabels u labels := by
    unfold dnsQuestionName at hname
    rw [hlabels] at hname
    exact (Except.ok.inj hname).symm
  obtain ⟨-, hcandidate, hfits⟩ := bestMatch_matched hpicked.2
  constructor
  · rintro ⟨front, hfront⟩ label hmem hdot
    have hlength := congrArg List.length hfront
    simp only [length_append, length_map] at hlength
    have hcovered : (labels.map lowerLabel).drop (labels.length - (domainLabels u domain).length) =
        domainLabels u domain := by
      rw [← hfront]
      exact drop_left' (by omega)
    have hlower : lowerLabel label ∈ domainLabels u domain := by
      rw [← hcovered, ← map_drop]
      exact mem_map_of_mem hmem
    exact not_mem_of_mem_splitOn hlower (dot_mem_lowerLabel.mpr hdot)
  · intro hdots
    have hne : labels ≠ [] := by
      intro hroot
      rw [hnameEq, hroot, normalizeDomain_root] at hfits
      exact hcandidate (by simpa [domainMatches] using hfits)
    rw [hnameEq, normalizeDomain_nameOfLabels hne hacc] at hfits
    apply splitOn_suffix_labels (by simpa using hne) _ hfits
    · intro label hmem hdot
      rw [length_map, ← map_drop] at hmem
      obtain ⟨l, hl, rfl⟩ := mem_map.mp hmem
      exact hdots l hl (dot_mem_lowerLabel.mp hdot)
    · intro label hmem
      obtain ⟨l, hl, rfl⟩ := mem_map.mp hmem
      exact (hacc l hl).lower.nonempty

theorem pickedFor_corp (h : ∀ label ∈ labels, AcceptedLabel label)
    (hbest : bestMatch plainUnicode [corpResolver] (nameOfLabels plainUnicode labels) =
      { bestIndex := some 0, bestSuffixLength := 4, bestOrder := 0, domain := some (ascii "corp") }) :
    dnsQuestionName plainUnicode (queryFor labels) = .ok (nameOfLabels plainUnicode labels) ∧
      PickedFor plainUnicode [corpResolver] (nameOfLabels plainUnicode labels) corpResolver
        (ascii "corp") := by
  refine ⟨?_, ?_, ?_⟩
  · unfold dnsQuestionName
    rw [questionLabels_queryFor h]
    rfl
  · unfold selectResolver
    rw [hbest]
    rfl
  · rw [hbest]

theorem acceptedLabel_dotted : ∀ label ∈ [ascii "a.corp"], AcceptedLabel label := by
  intro label hmem
  rw [mem_singleton.mp hmem]
  exact acceptedLabel_of_all (by decide) (by decide) (by decide)

/-- The name `a.corp` of two labels. -/
theorem pickedFor_labels_suffix_plain :
    domainLabels plainUnicode (ascii "corp") <:+ [ascii "a", ascii "corp"].map lowerLabel := by
  have hpicked := pickedFor_corp acceptedLabel_plain (by decide)
  exact (pickedFor_labels_suffix_iff plainUnicode _ _ _ _ _ _
    (questionLabels_queryFor acceptedLabel_plain) hpicked.1 hpicked.2).mpr (by decide)

/-- The name of the single label `a.corp`, which is none of the domain corp. -/
theorem pickedFor_dotted_label : questionLabels (queryFor [ascii "a.corp"]) = .ok [ascii "a.corp"] ∧
      dnsQuestionName plainUnicode (queryFor [ascii "a.corp"]) = .ok (ascii "a.corp") ∧
      PickedFor plainUnicode [corpResolver] (ascii "a.corp") corpResolver (ascii "corp") ∧
      ¬ domainLabels plainUnicode (ascii "corp") <:+ [ascii "a.corp"].map lowerLabel := by
  refine ⟨questionLabels_queryFor acceptedLabel_dotted, ?_, ?_, by decide⟩
  · exact (pickedFor_corp acceptedLabel_dotted (by decide)).1
  · exact (pickedFor_corp acceptedLabel_dotted (by decide)).2

end HarmonyNetBridge.Relay
