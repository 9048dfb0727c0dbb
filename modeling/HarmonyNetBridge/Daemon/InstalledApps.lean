import Mathlib.Data.List.Nodup
import HarmonyNetBridge.Bytes.Text

/-! The list of installed applications that the daemon serves: `normalizeInstalledApplications` and
the handler of its request. -/
namespace HarmonyNetBridge.Daemon
open Bytes List

structure InstalledApplication where
  bundleName : List UInt8
  label : List UInt8
  deriving DecidableEq, Repr

def isLetterByte (character : UInt8) : Bool :=
  (65 ≤ character && character ≤ 90) || (97 ≤ character && character ≤ 122)

def isNumberByte (character : UInt8) : Bool := 48 ≤ character && character ≤ 57

/-- A round of the inner loop of `isValidBundleName` that does not return. -/
def validCharacter (segmentIndex length : ℕ) (character : UInt8) (characterIndex : ℕ) : Bool :=
  let isLetter := isLetterByte character
  let isDigit := isNumberByte character
  if characterIndex = 0 ∧ !isLetter ∧ (segmentIndex = 0 ∨ !isDigit) then false
  else if !isLetter ∧ !isDigit ∧ character ≠ 95 then false
  else if characterIndex + 1 = length ∧ !isLetter ∧ !isDigit then false
  else true

/-- A round of its outer loop. -/
def validSegment (segmentIndex : ℕ) (segment : List UInt8) : Bool :=
  !segment.isEmpty && segment.zipIdx.all fun (character, characterIndex) =>
    validCharacter segmentIndex segment.length character characterIndex

def isValidBundleName (bundleName : List UInt8) : Bool :=
  if bundleName.length < 7 ∨ bundleName.length > 128 then false
  else
    let segments := bundleName.splitOn 46
    if segments.length < 3 then false
    else segments.zipIdx.all fun (segment, segmentIndex) => validSegment segmentIndex segment

/-- `sort.Slice`: of its result it is known that it has the same elements. -/
structure SortSlice where
  sort {α : Type} : (α → α → Bool) → List α → List α
  perm {α : Type} (less : α → α → Bool) (xs : List α) : (sort less xs).Perm xs

/-- What the package `strings` does with letters of Unicode. -/
structure Strings extends Unicode where
  equalFold : List UInt8 → List UInt8 → Bool

namespace InstalledApplication

def sortLabel (application : InstalledApplication) : List UInt8 :=
  if application.label = [] then application.bundleName else application.label

def less (strings : Strings) (left right : InstalledApplication) : Bool :=
  if strings.equalFold left.sortLabel right.sortLabel then
    decide (left.bundleName < right.bundleName)
  else decide (strings.lower left.sortLabel < strings.lower right.sortLabel)

end InstalledApplication

section
variable (strings : Strings)

def normalizeLabel (label : List UInt8) : List UInt8 :=
  let label := strings.strip label
  if label.length > 256 ∨ label.any fun b => b == 13 || b == 10 || b == 0 then [] else label

/-- The loop of `normalizeInstalledApplications`; `seen` has the names of `normalized`. -/
def normalizeLoop (normalized : List InstalledApplication) (seen : List (List UInt8)) :
    List InstalledApplication → List InstalledApplication
  | [] => normalized
  | application :: applications =>
    let bundleName := strings.strip application.bundleName
    if isValidBundleName bundleName = false then normalizeLoop normalized seen applications
    else if bundleName ∈ seen then normalizeLoop normalized seen applications
    else
      let normalized := normalized ++ [{ bundleName, label := normalizeLabel strings application.label }]
      if normalized.length = 4096 then normalized
      else normalizeLoop normalized (bundleName :: seen) applications

def normalizeInstalledApplications (slices : SortSlice) (applications : List InstalledApplication) :
    List InstalledApplication :=
  slices.sort (InstalledApplication.less strings) (normalizeLoop strings [] [] applications)

end

def maxInstalledAppsBytes : ℕ := 1024 * 1024

/-- `handleInstalledAppsRequest`: the status and the body of the answer. `listed` is `none` without an
`AppLister` and has what the lister returns otherwise. -/
def handleInstalledAppsRequest (marshal : List InstalledApplication → List UInt8) (authorized : Bool)
    (listed : Option (Except String (List InstalledApplication))) : ℕ × List UInt8 :=
  if authorized then
    match listed with
    | none | some (.error _) | some (.ok []) => (503, [])
    | some (.ok applications) =>
      let payload := marshal applications
      if payload.length = 0 ∨ payload.length > maxInstalledAppsBytes then (500, []) else (200, payload)
  else (401, [])

variable {applications : List InstalledApplication} {segmentIndex : ℕ}

theorem handleInstalledAppsRequest_served {marshal : List InstalledApplication → List UInt8}
    {authorized : Bool} {payload : List UInt8}
    (h : handleInstalledAppsRequest marshal authorized (some (.ok applications)) = (200, payload)) :
    payload = marshal applications ∧ payload.length ≤ maxInstalledAppsBytes := by
  unfold handleInstalledAppsRequest at h
  split_ifs at h
  · split at h
    · cases h
    · cases h
    · cases h
    · rename_i heq
      cases heq
      dsimp only at h
      split_ifs at h with hsize
      · cases h
      · obtain ⟨-, hpayload⟩ := Prod.mk.inj h
        rw [← hpayload]
        exact ⟨rfl, Nat.le_of_not_lt fun hlong => hsize (.inr hlong)⟩
  · cases h

theorem validCharacter_iff {length characterIndex : ℕ} {character : UInt8} :
    validCharacter segmentIndex length character characterIndex = true ↔
      (characterIndex = 0 → isLetterByte character = true ∨
        segmentIndex ≠ 0 ∧ isNumberByte character = true) ∧
      (isLetterByte character = true ∨ isNumberByte character = true ∨ character = 95) ∧
      (characterIndex + 1 = length → isLetterByte character = true ∨ isNumberByte character = true) := by
  unfold validCharacter
  cases isLetterByte character <;> cases isNumberByte character <;> simp [imp_iff_not_or]

theorem validSegment_iff {segment : List UInt8} :
    validSegment segmentIndex segment = true ↔ segment ≠ [] ∧
      (∀ first ∈ segment.head?, isLetterByte first = true ∨
        segmentIndex ≠ 0 ∧ isNumberByte first = true) ∧
      (∀ last ∈ segment.getLast?, isLetterByte last = true ∨ isNumberByte last = true) ∧
      ∀ character ∈ segment,
        isLetterByte character = true ∨ isNumberByte character = true ∨ character = 95 := by
  have hall : (segment.zipIdx.all fun (character, characterIndex) =>
      validCharacter segmentIndex segment.length character characterIndex) = true ↔
      ∀ index character, segment[index]? = some character →
        validCharacter segmentIndex segment.length character index = true := by
    rw [all_eq_true]
    constructor
    · intro h index character hget
      exact h (character, index) (mk_mem_zipIdx_iff_getElem?.mpr hget)
    · rintro h ⟨character, index⟩ hmem
      exact h index character (mk_mem_zipIdx_iff_getElem?.mp hmem)
  rw [validSegment, Bool.and_eq_true, hall]
  simp only [validCharacter_iff, Bool.not_eq_true', isEmpty_eq_false_iff]
  constructor
  · rintro ⟨hne, h⟩
    refine ⟨hne, ?_, ?_, ?_⟩
    · intro first hfirst
      rw [List.head?_eq_getElem?] at hfirst
      exact (h 0 first hfirst).1 rfl
    · intro last hlast
      rw [List.getLast?_eq_getElem?] at hlast
      have hpos := length_pos_iff.mpr hne
      exact (h _ last hlast).2.2 (by omega)
    · intro character hmem
      obtain ⟨index, hget⟩ := mem_iff_getElem?.mp hmem
      exact (h index character hget).2.1
  · rintro ⟨hne, hfirst, hlast, hcharacters⟩
    refine ⟨hne, ?_⟩
    intro index character hget
    refine ⟨?_, hcharacters character (mem_of_getElem? hget), ?_⟩
    · rintro rfl
      apply hfirst
      rwa [List.head?_eq_getElem?]
    · intro hend
      apply hlast
      rw [List.getLast?_eq_getElem?, ← hend, Nat.add_sub_cancel]
      exact hget

theorem character_of_valid {bundleName : List UInt8} (h : isValidBundleName bundleName = true) :
    ∀ b ∈ bundleName, b = 46 ∨ isLetterByte b = true ∨ isNumberByte b = true ∨ b = 95 := by
  unfold isValidBundleName at h
  dsimp only at h
  split_ifs at h
  intro b hb
  rcases mem_splitOn_of_mem 46 hb with hdot | ⟨segment, hsegment, hmem⟩
  · exact .inl hdot
  · obtain ⟨index, hindex⟩ := mem_iff_getElem?.mp hsegment
    have hvalid := all_eq_true.mp h (segment, index) (mk_mem_zipIdx_iff_getElem?.mpr hindex)
    exact .inr ((validSegment_iff.mp hvalid).2.2.2 b hmem)

structure Normalized (applications : List InstalledApplication) : Prop where
  names : ∀ application ∈ applications, isValidBundleName application.bundleName = true
  labels : ∀ application ∈ applications, application.label.length ≤ 256
  distinct : (applications.map InstalledApplication.bundleName).Nodup

theorem length_normalizeLabel (strings : Strings) (label : List UInt8) :
    (normalizeLabel strings label).length ≤ 256 := by
  unfold normalizeLabel
  dsimp only
  split_ifs with hbad
  · exact Nat.zero_le _
  · exact Nat.le_of_not_lt fun hlong => hbad (.inl hlong)

theorem Normalized.snoc {last : InstalledApplication} (h : Normalized applications)
    (hname : isValidBundleName last.bundleName = true) (hlabel : last.label.length ≤ 256)
    (hnew : last.bundleName ∉ applications.map InstalledApplication.bundleName) :
    Normalized (applications ++ [last]) := by
  refine ⟨?_, ?_, ?_⟩
  · intro application happlication
    rcases mem_append.mp happlication with hbefore | hlast
    · exact h.names application hbefore
    · rw [mem_singleton.mp hlast]
      exact hname
  · intro application happlication
    rcases mem_append.mp happlication with hbefore | hlast
    · exact h.labels application hbefore
    · rw [mem_singleton.mp hlast]
      exact hlabel
  · rw [map_append, map_singleton]
    exact h.distinct.append (nodup_singleton _) (by simpa using hnew)

theorem Normalized.tail {first : InstalledApplication} (h : Normalized (first :: applications)) :
    Normalized applications where
  names application hmem := h.names application (mem_cons_of_mem _ hmem)
  labels application hmem := h.labels application (mem_cons_of_mem _ hmem)
  distinct := (nodup_cons.mp h.distinct).2

theorem normalizeLoop_normalized (strings : Strings) (applications : List InstalledApplication) :
    ∀ normalized seen, Normalized normalized →
      (∀ name, name ∈ seen ↔ name ∈ normalized.map InstalledApplication.bundleName) →
      Normalized (normalizeLoop strings normalized seen applications) := by
  induction applications with
  | nil =>
    intro normalized seen h _
    exact h
  | cons application applications ih =>
    intro normalized seen h hseen
    unfold normalizeLoop
    dsimp only
    split_ifs with hinvalid hold hfull
    · exact ih normalized seen h hseen
    · exact ih normalized seen h hseen
    · apply h.snoc (by simpa using hinvalid) (length_normalizeLabel _ _)
      rwa [← hseen]
    · apply ih
      · apply h.snoc (by simpa using hinvalid) (length_normalizeLabel _ _)
        rwa [← hseen]
      · intro name
        rw [map_append, map_singleton, mem_append, mem_singleton, mem_cons,
          hseen]
        exact or_comm

theorem Normalized.perm {sorted : List InstalledApplication} (h : Normalized applications)
    (hperm : sorted.Perm applications) : Normalized sorted where
  names application hmem := h.names application (hperm.mem_iff.mp hmem)
  labels application hmem := h.labels application (hperm.mem_iff.mp hmem)
  distinct := (hperm.map _).nodup_iff.mpr h.distinct

theorem normalizeInstalledApplications_normalized (strings : Strings) (slices : SortSlice)
    (applications : List InstalledApplication) :
    Normalized (normalizeInstalledApplications strings slices applications) := by
  have hloop : Normalized (normalizeLoop strings [] [] applications) := by
    apply normalizeLoop_normalized
    · exact ⟨nofun, nofun, nodup_nil⟩
    · intro name
      exact Iff.rfl
  exact hloop.perm (slices.perm _ _)

end HarmonyNetBridge.Daemon
