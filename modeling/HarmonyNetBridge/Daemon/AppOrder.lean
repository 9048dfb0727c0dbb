import HarmonyNetBridge.Bytes.CaseMapping
import HarmonyNetBridge.Bytes.WhiteSpace
import HarmonyNetBridge.Sorting.Comparison
import HarmonyNetBridge.Daemon.InstalledApps

/-! The order of the installed applications: whether the list depends on the order in which the
device has reported them. -/
namespace HarmonyNetBridge.Daemon
open Bytes Sorting List

/-- `sort.Slice` as any comparison sort. -/
structure ComparisonSort extends SortSlice where
  sorted {α : Type} (less : α → α → Bool) (xs : List α) :
    StrictTotalOn less xs → Sorted less (sort less xs)

/-- What `sort.Slice` does with at most twelve elements. -/
def insertionSlice : ComparisonSort where
  sort := insertionSort
  perm := insertionSort_perm
  sorted _ := insertionSort_sorted

/-- The package `strings`, with the tables for the letters from U+0180 on. -/
def goStrings (tables : CaseTables) : Strings where
  toLower := tables.lowerString
  trimSpace := trimTokens whiteSpace
  equalFold := tables.equalFold

theorem equalFold_goStrings (tables : CaseTables) (s t : List UInt8) :
    (goStrings tables).equalFold s t = tables.equalFold s t := rfl

theorem lower_goStrings (tables : CaseTables) (s : List UInt8) :
    (goStrings tables).lower s = tables.lowerString s := by
  unfold Unicode.lower
  split
  · rename_i hascii
    exact (lowerString_ascii tables (all_eq_true.mp hascii)).symm
  · rfl

/-- At most 4096 applications with distinct valid names. -/
structure DistinctlyNamed (applications : List InstalledApplication) : Prop where
  length : applications.length ≤ 4096
  names : ∀ application ∈ applications, isValidBundleName application.bundleName = true
  distinct : (applications.map InstalledApplication.bundleName).Nodup

theorem DistinctlyNamed.perm {applications others : List InstalledApplication}
    (h : DistinctlyNamed applications) (hperm : others.Perm applications) : DistinctlyNamed others where
  length := hperm.length_eq ▸ h.length
  names application hmem := h.names application (hperm.mem_iff.mp hmem)
  distinct := (hperm.map _).nodup_iff.mpr h.distinct

/-- An application with a valid name, as it enters the list. -/
def normalizeEntry (strings : Strings) (application : InstalledApplication) : InstalledApplication :=
  { application with label := normalizeLabel strings application.label }

section
variable (strings : Strings)

theorem strip_of_valid {bundleName : List UInt8} (h : isValidBundleName bundleName = true) :
    strings.strip bundleName = bundleName := by
  have hcharacter : ∀ b : UInt8,
      (b = 46 ∨ isLetterByte b = true ∨ isNumberByte b = true ∨ b = 95) →
      isAscii b = true ∧ isSpaceByte b = false :=
    forall_byte (by decide +kernel)
  apply Unicode.strip_of_ascii
  · intro b hb
    exact (hcharacter b (character_of_valid h b hb)).1
  · intro b hb
    exact (hcharacter b (character_of_valid h b hb)).2

theorem normalizeLoop_append (applications : List InstalledApplication) : ∀ normalized seen,
      (∀ application ∈ applications, isValidBundleName application.bundleName = true) →
      (applications.map InstalledApplication.bundleName).Nodup →
      (∀ application ∈ applications, application.bundleName ∉ seen) →
      normalized.length + applications.length ≤ 4096 →
      normalizeLoop strings normalized seen applications =
        normalized ++ applications.map (normalizeEntry strings) := by
  induction applications with
  | nil =>
    intro normalized seen _ _ _ _
    rw [normalizeLoop, map_nil, append_nil]
  | cons application applications ih =>
    intro normalized seen hnames hdistinct hseen hlen
    rw [forall_mem_cons] at hnames hseen
    rw [map_cons, nodup_cons] at hdistinct
    rw [length_cons] at hlen
    have hentry : normalized ++ (application :: applications).map (normalizeEntry strings) =
        (normalized ++ [normalizeEntry strings application]) ++
          applications.map (normalizeEntry strings) := by
      simp
    unfold normalizeLoop
    simp only [strip_of_valid strings hnames.1, hnames.1, Bool.true_eq_false, if_false, hseen.1]
    rw [hentry]
    split
    · rename_i hfull
      rw [length_append, length_singleton] at hfull
      have hnil : applications = [] := length_eq_zero_iff.mp (by omega)
      rw [hnil, map_nil, append_nil]
      rfl
    · apply ih _ _ hnames.2 hdistinct.2
      · intro other hother
        rw [mem_cons, not_or]
        constructor
        · intro heq
          exact hdistinct.1 (heq ▸ mem_map_of_mem hother)
        · exact hseen.2 other hother
      · rw [length_append, length_singleton]
        omega

variable {strings}

theorem normalizeLoop_eq_map {applications : List InstalledApplication}
    (h : DistinctlyNamed applications) :
    normalizeLoop strings [] [] applications = applications.map (normalizeEntry strings) := by
  apply normalizeLoop_append strings applications [] [] h.names h.distinct
  · simp
  · simpa using h.length

end

theorem less_total (s t : List UInt8) : s < t ∨ s = t ∨ t < s := by
  by_cases hst : s < t
  · exact Or.inl hst
  by_cases hts : t < s
  · exact Or.inr (Or.inr hts)
  · exact Or.inr (Or.inl (List.le_antisymm (List.not_lt.mp hts) (List.not_lt.mp hst)))

section
variable (tables : CaseTables)

/-- The two texts that are compared of an application beside its name. -/
def foldedLabel (application : InstalledApplication) : List Char :=
  (runes application.sortLabel).map tables.toFold

def lowerLabel (application : InstalledApplication) : List UInt8 :=
  tables.lowerString application.sortLabel

/-- Applications whose labels have one lower case are equal under case folding, and none stands
between two that are, if these are the other way round by their names. -/
def WellOrdered (applications : List InstalledApplication) : Prop :=
  (∀ a ∈ applications, ∀ b ∈ applications, lowerLabel tables a = lowerLabel tables b →
    foldedLabel tables a = foldedLabel tables b) ∧
  ∀ a ∈ applications, ∀ b ∈ applications, ∀ c ∈ applications,
    foldedLabel tables a = foldedLabel tables b → a.bundleName < b.bundleName →
    lowerLabel tables b < lowerLabel tables c → lowerLabel tables c < lowerLabel tables a →
    foldedLabel tables b = foldedLabel tables c

variable {tables} {applications : List InstalledApplication} {a b : InstalledApplication}

theorem less_iff : InstalledApplication.less (goStrings tables) a b = true ↔
    foldedLabel tables a = foldedLabel tables b ∧ a.bundleName < b.bundleName ∨
      foldedLabel tables a ≠ foldedLabel tables b ∧ lowerLabel tables a < lowerLabel tables b := by
  have hfold : (goStrings tables).equalFold a.sortLabel b.sortLabel = true ↔
      foldedLabel tables a = foldedLabel tables b := beq_iff_eq
  unfold InstalledApplication.less
  rw [lower_goStrings, lower_goStrings]
  by_cases h : foldedLabel tables a = foldedLabel tables b
  · simp [hfold, h]
  · simp [hfold, h, lowerLabel]

theorem less_irrefl (a : InstalledApplication) :
    InstalledApplication.less (goStrings tables) a a = false := by
  rw [← Bool.not_eq_true, less_iff]
  simp

theorem less_asymm (h : InstalledApplication.less (goStrings tables) a b = true) :
    InstalledApplication.less (goStrings tables) b a = false := by
  rw [less_iff] at h
  rw [← Bool.not_eq_true, less_iff]
  rintro (⟨hfold, hname⟩ | ⟨hfold, hlower⟩)
  · rcases h with ⟨-, hname'⟩ | ⟨hfold', -⟩
    · exact List.lt_asymm hname hname'
    · exact hfold' hfold.symm
  · rcases h with ⟨hfold', -⟩ | ⟨-, hlower'⟩
    · exact hfold hfold'.symm
    · exact List.lt_asymm hlower hlower'

theorem WellOrdered.of_strictTotal
    (h : StrictTotalOn (InstalledApplication.less (goStrings tables)) applications) :
    WellOrdered tables applications := by
  refine ⟨fun a ha b hb hlower => ?_, fun a ha b hb c hc hfold hname hbc hca => ?_⟩
  · by_contra hfold
    have hne : a ≠ b := by
      rintro rfl
      exact hfold rfl
    rcases h.total a ha b hb hne with hless | hless <;> rw [less_iff] at hless
    · simp [hfold, hlower, List.lt_irrefl] at hless
    · simp [Ne.symm hfold, hlower, List.lt_irrefl] at hless
  · by_contra hother
    have hcircle := h.trans a ha b hb c hc (less_iff.mpr (.inl ⟨hfold, hname⟩))
      (less_iff.mpr (.inr ⟨hother, hbc⟩))
    have hback : InstalledApplication.less (goStrings tables) c a = true :=
      less_iff.mpr (.inr ⟨fun heq => hother (heq.trans hfold).symm, hca⟩)
    rw [less_asymm hcircle] at hback
    cases hback

/-- Then the applications with one folded label stand together. -/
theorem WellOrdered.strictTotal (h : WellOrdered tables applications)
    (hdistinct : (applications.map InstalledApplication.bundleName).Nodup) :
    StrictTotalOn (InstalledApplication.less (goStrings tables)) applications := by
  obtain ⟨hties, hbetween⟩ := h
  have hname {a b : InstalledApplication} (ha : a ∈ applications) (hb : b ∈ applications)
      (hne : a ≠ b) : a.bundleName < b.bundleName ∨ b.bundleName < a.bundleName := by
    rcases less_total a.bundleName b.bundleName with hless | heq | hless
    · exact .inl hless
    · exact absurd (inj_on_of_nodup_map hdistinct ha hb heq) hne
    · exact .inr hless
  have hlower {a b : InstalledApplication} (ha : a ∈ applications) (hb : b ∈ applications)
      (hne : foldedLabel tables a ≠ foldedLabel tables b) :
      lowerLabel tables a < lowerLabel tables b ∨ lowerLabel tables b < lowerLabel tables a := by
    rcases less_total (lowerLabel tables a) (lowerLabel tables b) with hless | heq | hless
    · exact .inl hless
    · exact absurd (hties a ha b hb heq) hne
    · exact .inr hless
  refine ⟨fun a _ => less_irrefl a, fun a ha b hb c hc hab hbc => ?_, fun a ha b hb hne => ?_⟩
  · rw [less_iff] at hab hbc ⊢
    rcases hab with ⟨hab, hless⟩ | ⟨hab, hless⟩ <;> rcases hbc with ⟨hbc, hless'⟩ | ⟨hbc, hless'⟩
    · exact .inl ⟨hab.trans hbc, List.lt_trans hless hless'⟩
    · have hac : foldedLabel tables a ≠ foldedLabel tables c := hab ▸ hbc
      refine .inr ⟨hac, (hlower ha hc hac).resolve_right fun hback => ?_⟩
      exact hbc (hbetween a ha b hb c hc hab hless hless' hback)
    · have hac : foldedLabel tables a ≠ foldedLabel tables c := hbc ▸ hab
      refine .inr ⟨hac, (hlower ha hc hac).resolve_right fun hback => ?_⟩
      exact hac (hbetween b hb c hc a ha hbc hless' hback hless).symm
    · by_cases hac : foldedLabel tables a = foldedLabel tables c
      · have hne : a ≠ c := by
          rintro rfl
          exact List.lt_asymm hless hless'
        refine .inl ⟨hac, (hname ha hc hne).resolve_right fun hback => ?_⟩
        exact hab (hbetween c hc a ha b hb hac.symm hback hless hless')
      · exact .inr ⟨hac, List.lt_trans hless hless'⟩
  · rw [less_iff, less_iff]
    by_cases hfold : foldedLabel tables a = foldedLabel tables b
    · exact (hname ha hb hne).imp (fun h => .inl ⟨hfold, h⟩) fun h => .inl ⟨hfold.symm, h⟩
    · exact (hlower ha hb hfold).imp (fun h => .inr ⟨hfold, h⟩) fun h => .inr ⟨Ne.symm hfold, h⟩

end

/-- Every comparison sort returns one list for all orders of the input if, and only if, the
applications are well ordered; and that is when the comparison is a strict total order on them. -/
theorem normalize_order_iff (tables : CaseTables) (applications : List InstalledApplication)
    (h : DistinctlyNamed applications) :
    ((∀ (slices : ComparisonSort) (others : List InstalledApplication), others.Perm applications →
        normalizeInstalledApplications (goStrings tables) slices.toSortSlice others =
          normalizeInstalledApplications (goStrings tables) slices.toSortSlice applications) ↔
      WellOrdered tables (normalizeLoop (goStrings tables) [] [] applications)) ∧
    (StrictTotalOn (InstalledApplication.less (goStrings tables))
        (normalizeLoop (goStrings tables) [] [] applications) ↔
      WellOrdered tables (normalizeLoop (goStrings tables) [] [] applications)) := by
  rw [normalizeLoop_eq_map h]
  have hdistinct : ((applications.map (normalizeEntry (goStrings tables))).map
      InstalledApplication.bundleName).Nodup := by
    rw [map_map]
    exact h.distinct
  have hsorts (slices : ComparisonSort) {others : List InstalledApplication}
      (hperm : others.Perm applications) :
      normalizeInstalledApplications (goStrings tables) slices.toSortSlice others =
        slices.sort (InstalledApplication.less (goStrings tables))
          (others.map (normalizeEntry (goStrings tables))) := by
    rw [normalizeInstalledApplications, normalizeLoop_eq_map (h.perm hperm)]
  refine ⟨⟨fun hone => ?_, fun hordered slices others hperm => ?_⟩,
    .of_strictTotal, fun hordered => hordered.strictTotal hdistinct⟩
  · apply WellOrdered.of_strictTotal
    apply strictTotalOn_of_insertionSort hdistinct.of_map less_irrefl (fun _ _ => less_asymm)
    intro entries hentries
    obtain ⟨others, rfl, hperm⟩ : ∃ others : List InstalledApplication,
        entries = others.map (normalizeEntry (goStrings tables)) ∧ others.Perm applications := by
      have hcomp := congrFun₂ (eq_map_comp_perm (normalizeEntry (goStrings tables))) entries
        applications
      exact hcomp.mpr hentries
    have heq := hone insertionSlice others hperm
    rwa [hsorts _ hperm, hsorts _ (List.Perm.refl _)] at heq
  · have htotal := hordered.strictTotal hdistinct
    have hentries : (others.map (normalizeEntry (goStrings tables))).Perm
        (applications.map (normalizeEntry (goStrings tables))) := hperm.map _
    have htotal' := htotal.mono fun a ha => hentries.mem_iff.mp ha
    rw [hsorts slices hperm, hsorts slices (List.Perm.refl _)]
    apply StrictTotalOn.eq_of_sorted _ (slices.sorted _ _ htotal') (slices.sorted _ _ htotal)
    · exact (slices.perm _ _).trans (hentries.trans (slices.perm _ _).symm)
    · exact htotal'.mono fun a ha => (slices.perm _ _).mem_iff.mp ha

/-- A long s and an s are equal under case folding, though not in lower case. -/
theorem normalize_order_long :
    DistinctlyNamed [⟨ascii "a.b.app", [0xC5, 0xBF]⟩, ⟨ascii "c.d.app", ascii "s"⟩] ∧
    normalizeInstalledApplications (goStrings ⟨id, id⟩) insertionSlice.toSortSlice
        [⟨ascii "c.d.app", ascii "s"⟩, ⟨ascii "a.b.app", [0xC5, 0xBF]⟩] =
      normalizeInstalledApplications (goStrings ⟨id, id⟩) insertionSlice.toSortSlice
        [⟨ascii "a.b.app", [0xC5, 0xBF]⟩, ⟨ascii "c.d.app", ascii "s"⟩] := by
  have hnamed :
      DistinctlyNamed [⟨ascii "a.b.app", [0xC5, 0xBF]⟩, ⟨ascii "c.d.app", ascii "s"⟩] :=
    ⟨by decide, by decide, by decide⟩
  refine ⟨hnamed, ?_⟩
  refine (normalize_order_iff ⟨id, id⟩ _ hnamed).1.mpr ?_ insertionSlice _ (List.Perm.swap _ _ _)
  unfold WellOrdered
  decide +kernel

/-- An application whose label is a capital I with a dot. -/
def dottedI : InstalledApplication := ⟨ascii "a.b.app", [0xC4, 0xB0]⟩

def smallI : InstalledApplication := ⟨ascii "c.d.app", ascii "i"⟩

variable (tables : CaseTables)

theorem dottedI_smallI : InstalledApplication.less (goStrings tables) dottedI smallI = false ∧
    InstalledApplication.less (goStrings tables) smallI dottedI = false := by
  have hdotted : runes dottedI.sortLabel = [Char.ofNat 0x130] := by decide +kernel
  have hsmall : runes smallI.sortLabel = ['i'] := by decide +kernel
  have hlower : tables.lowerString dottedI.sortLabel = tables.lowerString smallI.sortLabel := by
    rw [CaseTables.lowerString, CaseTables.lowerString, hdotted, hsmall]
    rfl
  have hfold : tables.equalFold dottedI.sortLabel smallI.sortLabel = false := by
    rw [CaseTables.equalFold, hdotted, hsmall]
    rfl
  have hfold' : tables.equalFold smallI.sortLabel dottedI.sortLabel = false := by
    rw [CaseTables.equalFold, hdotted, hsmall]
    rfl
  unfold InstalledApplication.less
  rw [equalFold_goStrings, equalFold_goStrings, hfold, hfold', lower_goStrings, lower_goStrings,
    hlower]
  simp [List.lt_irrefl]

theorem distinctlyNamed_dottedI_smallI : DistinctlyNamed [dottedI, smallI] :=
  ⟨by decide, by decide, by decide⟩

theorem normalizeEntry_dottedI : normalizeEntry (goStrings tables) dottedI = dottedI := by
  have htrim : trimTokens whiteSpace dottedI.label = dottedI.label := by decide +kernel
  have hstrip : (goStrings tables).strip dottedI.label = dottedI.label := htrim
  unfold normalizeEntry normalizeLabel
  rw [hstrip]
  rfl

theorem normalizeEntry_smallI : normalizeEntry (goStrings tables) smallI = smallI := rfl

/-- Neither of the two applications is less, and the list stays as the device has reported it. -/
theorem order_depends_on_input :
    DistinctlyNamed [dottedI, smallI] ∧ [dottedI, smallI].Perm [smallI, dottedI] ∧
    dottedI ≠ smallI ∧ ∀ tables : CaseTables,
      normalizeInstalledApplications (goStrings tables) insertionSlice.toSortSlice
        [dottedI, smallI] = [dottedI, smallI] ∧
      normalizeInstalledApplications (goStrings tables) insertionSlice.toSortSlice
        [smallI, dottedI] = [smallI, dottedI] := by
  have hperm : [dottedI, smallI].Perm [smallI, dottedI] := List.Perm.swap _ _ _
  refine ⟨distinctlyNamed_dottedI_smallI, hperm, by decide, ?_⟩
  intro tables
  obtain ⟨hless, hless'⟩ := dottedI_smallI tables
  unfold normalizeInstalledApplications
  rw [normalizeLoop_eq_map distinctlyNamed_dottedI_smallI,
    normalizeLoop_eq_map (distinctlyNamed_dottedI_smallI.perm hperm.symm)]
  simp only [map_cons, map_nil, normalizeEntry_dottedI, normalizeEntry_smallI]
  exact ⟨insertionSort_pair hless', insertionSort_pair hless⟩

end HarmonyNetBridge.Daemon
