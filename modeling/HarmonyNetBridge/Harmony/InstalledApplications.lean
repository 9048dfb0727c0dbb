import HarmonyNetBridge.Daemon.AppOrder
import HarmonyNetBridge.Harmony.Utf8Codec

/-! The list of installed applications on its way to the device: `decodeInstalledApplications` finds
the names that the daemon has put into the JSON. -/
namespace HarmonyNetBridge.Harmony
open Bytes HnbProtocol List
open Daemon (InstalledApplication Normalized)

/-- The text that is read from bytes by a reader that puts U+FFFD in the place of a byte that begins
no character, as `json.Marshal` does. -/
def readText (bytes : List UInt8) : JsString :=
  match bytes with
  | [] => []
  | first :: rest =>
    match decodeRound first rest with
    | .ok (text, continuationCount) => text ++ readText (rest.drop continuationCount)
    | .error _ => 0xFFFD :: readText rest
termination_by bytes.length
decreasing_by
  · simp only [length_cons, length_drop]
    omega
  · simp

/-- A value of JSON, as `JSON.parse` returns it. -/
inductive JsJson where
  | null
  | bool (value : Bool)
  | number
  | string (value : JsString)
  | array (items : List JsJson)
  | object (fields : List (JsString × JsJson))

/-- A property of a value other than `null`; `none` is `undefined`. -/
def JsJson.get (key : JsString) : JsJson → Option JsJson
  | .object fields => (fields.find? fun field => field.1 == key).map Prod.snd
  | _ => none

structure DeviceApplication where
  bundleName : JsString
  label : JsString
  deriving DecidableEq, Repr

def maxResponseCharacters : ℕ := 1024 * 1024
def maxLabelLength : ℕ := 256

/-- The body of the loop of `decodeInstalledApplications`, with `applications` and `seenBundleNames`;
a property of `null` throws. -/
def pushApplication (state : List DeviceApplication × List JsString) :
    JsJson → Option (List DeviceApplication × List JsString)
  | .null => none
  | candidate =>
    match candidate.get (jsString "bundleName"), candidate.get (jsString "label") with
    | some (.string bundleName), some (.string label) =>
      let bundleName := normalizeBundleName bundleName
      let label := trim isWhiteSpace label
      if isValidBundleName bundleName = false ∨ bundleName = alwaysTunneledBundleName ∨
          label.length > maxLabelLength ∨ state.2.contains bundleName then some state
      else some (state.1 ++ [{ bundleName, label := label }], state.2 ++ [bundleName])
    | _, _ => some state

/-- `parse` is `JSON.parse`, and `none` its exception. -/
def decodeInstalledApplications (parse : JsString → Option JsJson) (encoded : JsString) :
    List DeviceApplication :=
  if encoded.length = 0 ∨ encoded.length > maxResponseCharacters then []
  else
    match parse encoded with
    | none => []
    | some response =>
      match response.get (jsString "applications") with
      | some (.array items) => ((items.foldlM pushApplication ([], [])).map Prod.fst).getD []
      | _ => []

/-- The value that the JSON of an application stands for. -/
def applicationJson (application : InstalledApplication) : JsJson :=
  .object [(jsString "bundleName", .string (readText application.bundleName)),
    (jsString "label", .string (readText application.label))]

def applicationsJson (applications : List InstalledApplication) : JsJson :=
  .object [(jsString "applications", .array (applications.map applicationJson))]

/-- The encoder of the daemon and the parser of the device. -/
structure Json where
  marshal : List InstalledApplication → List UInt8
  parse : JsString → Option JsJson
  parse_nil : parse [] = none

section readText
variable {first : UInt8} {rest : List UInt8}

theorem readText_ok {text : JsString} {count : ℕ} (h : decodeRound first rest = .ok (text, count)) :
    readText (first :: rest) = text ++ readText (rest.drop count) := by
  rw [readText, h]

theorem readText_error {message : String} (h : decodeRound first rest = .error message) :
    readText (first :: rest) = 0xFFFD :: readText rest := by
  rw [readText, h]

theorem length_units_le (c : Char) : (Utf16.units c).length ≤ (String.utf8EncodeChar c).length := by
  have hvalues := (utf8EncodeChar_eq_iff c _).mp rfl
  have hlen := congrArg List.length hvalues
  rw [length_map] at hlen
  rw [hlen]
  unfold Utf16.units utf8Values
  split_ifs <;> simp only [length_cons, length_nil] <;> omega

theorem length_readText_le (bytes : List UInt8) : (readText bytes).length ≤ bytes.length := by
  induction bytes using readText.induct with
  | case1 => rw [readText]; exact Nat.le_refl _
  | case2 first rest text count hround ih =>
    obtain ⟨c, hbytes, rfl⟩ := utf8EncodeChar_of_decodeRound hround
    have hunits := length_units_le c
    rw [hbytes, length_cons, length_take] at hunits
    rw [length_drop] at ih
    rw [readText_ok hround, length_append, length_cons]
    omega
  | case3 first rest message hround ih =>
    rw [readText_error hround, length_cons, length_cons]
    omega

def byteUnit (b : UInt8) : UInt16 := .ofNat b.toNat

theorem decodeRound_ascii (h : isAscii first = true) :
    decodeRound first rest = .ok ([byteUnit first], 0) := by
  have hlt : first.toNat < 0x80 := by simpa [isAscii, UInt8.lt_iff_toNat_lt] using h
  have hlead : leadByte first.toNat = .ok (first.toNat, 0, 0) := if_pos (by omega)
  have hread : readContinuations first.toNat (rest.take 0) = .ok first.toNat := rfl
  have hround := decodeRound_of_read hlead (Nat.zero_le _) hread (Nat.zero_le _)
    ⟨by omega, by omega⟩
  rw [hround, fromCodePoint, if_pos (by omega)]
  rfl

theorem readText_ascii {bytes : List UInt8} (h : ∀ b ∈ bytes, isAscii b = true) :
    readText bytes = bytes.map byteUnit := by
  induction bytes with
  | nil => rw [readText]; rfl
  | cons b bytes ih =>
    rw [readText_ok (decodeRound_ascii (h b mem_cons_self)), drop_zero,
      ih fun b hb => h b (mem_cons_of_mem _ hb)]
    rfl

theorem toNat_lt_of_units {c : Char} (h : ∀ u ∈ Utf16.units c, u < 0x80) : c.toNat < 0x80 := by
  have hvalid : c.toNat < 0xD800 ∨ (0xDFFF < c.toNat ∧ c.toNat < 0x110000) := c.valid
  by_cases hle : c.toNat ≤ 0xFFFF
  · rw [Utf16.units_of_le hle] at h
    have hunit := h _ (mem_singleton_self _)
    simp only [UInt16.lt_iff_toNat_lt, UInt16.toNat_ofNat', UInt16.reduceToNat] at hunit
    omega
  · rw [Utf16.units_of_gt (by omega)] at h
    have hunit := h _ mem_cons_self
    simp only [UInt16.lt_iff_toNat_lt, UInt16.toNat_ofNat', UInt16.reduceToNat] at hunit
    omega

/-- A byte beyond ASCII leaves a code unit beyond it. -/
theorem ascii_of_readText {bytes : List UInt8} (h : ∀ u ∈ readText bytes, u < 0x80) :
    ∀ b ∈ bytes, isAscii b = true := by
  induction bytes using readText.induct with
  | case1 => exact forall_mem_nil _
  | case2 first rest text count hround ih =>
    obtain ⟨c, hbytes, rfl⟩ := utf8EncodeChar_of_decodeRound hround
    rw [readText_ok hround, forall_mem_append] at h
    have hc := toNat_lt_of_units h.1
    have hvalues := (utf8EncodeChar_eq_iff c _).mp hbytes
    rw [utf8Values, if_pos (by omega), map_cons, List.cons.injEq, map_eq_nil_iff] at hvalues
    have hrest : rest.drop count = rest := by
      conv_rhs => rw [← take_append_drop count rest, hvalues.2, nil_append]
    rw [hrest] at ih h
    refine forall_mem_cons.mpr ⟨?_, ih h.2⟩
    simp only [isAscii, decide_eq_true_eq, UInt8.lt_iff_toNat_lt, UInt8.reduceToNat]
    omega
  | case3 first rest message hround ih =>
    rw [readText_error hround] at h
    exact absurd (h 0xFFFD mem_cons_self) (by decide)

end readText

theorem byteUnit_letter : ∀ b, isAsciiLetter (byteUnit b) = Daemon.isLetterByte b :=
  forall_byte (by decide +kernel)

theorem byteUnit_digit : ∀ b, isAsciiDigit (byteUnit b) = Daemon.isNumberByte b :=
  forall_byte (by decide +kernel)

theorem byteUnit_eq_iff {b x : UInt8} : byteUnit b = byteUnit x ↔ b = x := by
  constructor
  · intro h
    have hnat := congrArg UInt16.toNat h
    rw [byteUnit, byteUnit, UInt16.toNat_ofNat', UInt16.toNat_ofNat'] at hnat
    have hb := b.toNat_lt
    have hx := x.toNat_lt
    apply UInt8.toNat_inj.mp
    omega
  · exact congrArg byteUnit

theorem isBundleSegmentCharacter_iff {code : UInt16} : isBundleSegmentCharacter code = true ↔
    isAsciiLetter code = true ∨ isAsciiDigit code = true ∨ code = 95 := by
  simp [isBundleSegmentCharacter, or_assoc]

theorem isValidSegment_iff {segmentIndex : ℕ} {segment : JsString} :
    isValidSegment segmentIndex segment = true ↔ segment ≠ [] ∧
      (∀ first ∈ segment.head?, isAsciiLetter first = true ∨
        segmentIndex ≠ 0 ∧ isAsciiDigit first = true) ∧
      (∀ last ∈ segment.getLast?, isAsciiLetter last = true ∨ isAsciiDigit last = true) ∧
      ∀ code ∈ segment, isAsciiLetter code = true ∨ isAsciiDigit code = true ∨ code = 95 := by
  cases segment with
  | nil => simp [isValidSegment]
  | cons a segment =>
    obtain ⟨last, hlast⟩ : ∃ last, (a :: segment).getLast? = some last :=
      ⟨_, List.getLast?_eq_some_getLast (cons_ne_nil _ _)⟩
    unfold isValidSegment
    rw [hlast, List.head?_cons]
    simp [isBundleSegmentCharacter_iff, and_assoc]

/-- The loops of the two sides check the same of a segment. -/
theorem isValidSegment_bytes (segmentIndex : ℕ) (segment : List UInt8) :
    isValidSegment segmentIndex (segment.map byteUnit) =
      Daemon.validSegment segmentIndex segment := by
  have hunderscore : ∀ b, byteUnit b = 95 ↔ b = 95 := fun b => byteUnit_eq_iff (b := b) (x := 95)
  rw [Bool.eq_iff_iff, isValidSegment_iff, Daemon.validSegment_iff]
  simp [byteUnit_letter, byteUnit_digit, hunderscore]

theorem isValidBundleName_bytes {name : List UInt8}
    (h : normalizeBundleName (name.map byteUnit) = name.map byteUnit) :
    isValidBundleName (name.map byteUnit) = Daemon.isValidBundleName name := by
  have hdot : ∀ b, byteUnit b = 46 ↔ b = 46 := fun b => byteUnit_eq_iff (b := b) (x := 46)
  unfold isValidBundleName Daemon.isValidBundleName
  rw [h]
  dsimp only
  rw [length_map, splitOn_map hdot, length_map, zipIdx_map, all_map]
  simp [Function.comp_def, isValidSegment_bytes, minBundleNameLength, maxBundleNameLength]

theorem ascii_of_character : ∀ b, b = 46 ∨ Daemon.isLetterByte b = true ∨
    Daemon.isNumberByte b = true ∨ b = 95 → isAscii b = true ∧ isWhiteSpace (byteUnit b) = false :=
  forall_byte (by decide +kernel)

theorem unit_lt_of_valid {name : JsString} (htrim : normalizeBundleName name = name)
    (h : isValidBundleName name = true) : ∀ u ∈ name, u < 0x80 := by
  unfold isValidBundleName at h
  rw [htrim] at h
  dsimp only at h
  split_ifs at h
  intro u hu
  rcases mem_splitOn_of_mem 46 hu with hdot | ⟨segment, hsegment, hmem⟩
  · rw [hdot]
    decide
  · obtain ⟨index, hindex⟩ := mem_iff_getElem?.mp hsegment
    have hvalid := all_eq_true.mp h (segment, index) (mk_mem_zipIdx_iff_getElem?.mpr hindex)
    have hcode := (isValidSegment_iff.mp hvalid).2.2.2 u hmem
    simp only [isAsciiLetter, isAsciiDigit, Bool.or_eq_true, Bool.and_eq_true, decide_eq_true_eq,
      UInt16.le_iff_toNat_le, UInt16.reduceToNat, ← UInt16.toNat_inj] at hcode
    simp only [UInt16.lt_iff_toNat_lt, UInt16.reduceToNat]
    omega

theorem readText_valid {name : List UInt8} (h : Daemon.isValidBundleName name = true) :
    readText name = name.map byteUnit :=
  readText_ascii fun b hb => (ascii_of_character b (Daemon.character_of_valid h b hb)).1

theorem normalize_valid {name : List UInt8} (h : Daemon.isValidBundleName name = true) :
    normalizeBundleName (readText name) = readText name := by
  rw [readText_valid h]
  apply trim_of_forall
  intro u hu
  obtain ⟨b, hb, rfl⟩ := mem_map.mp hu
  exact (ascii_of_character b (Daemon.character_of_valid h b hb)).2

/-- The two sides agree on the names that have no white space around them. -/
theorem isValidBundleName_readText {name : List UInt8}
    (htrim : normalizeBundleName (readText name) = readText name) :
    isValidBundleName (readText name) = Daemon.isValidBundleName name := by
  by_cases hascii : ∀ b ∈ name, isAscii b = true
  · rw [readText_ascii hascii] at htrim ⊢
    exact isValidBundleName_bytes htrim
  · have hdevice : isValidBundleName (readText name) = false := by
      rw [Bool.eq_false_iff]
      intro hvalid
      exact hascii (ascii_of_readText (unit_lt_of_valid htrim hvalid))
    have hdaemon : Daemon.isValidBundleName name = false := by
      rw [Bool.eq_false_iff]
      intro hvalid
      apply hascii
      intro b hb
      exact (ascii_of_character b (Daemon.character_of_valid hvalid b hb)).1
    rw [hdevice, hdaemon]

-- A byte order mark is white space for `trim` alone.
example : isValidBundleName (readText ([0xEF, 0xBB, 0xBF] ++ Bytes.ascii "com.a.b")) = true ∧
    Daemon.isValidBundleName ([0xEF, 0xBB, 0xBF] ++ Bytes.ascii "com.a.b") = false := by
  decide +kernel

theorem readText_inj_of_valid {name other : List UInt8} (hname : Daemon.isValidBundleName name = true)
    (hother : Daemon.isValidBundleName other = true) : readText name = readText other ↔ name = other := by
  have hinjective : Function.Injective byteUnit := fun _ _ => byteUnit_eq_iff.mp
  rw [readText_valid hname, readText_valid hother, (map_injective_iff.mpr hinjective).eq_iff]

def deviceApplication (application : InstalledApplication) : DeviceApplication where
  bundleName := readText application.bundleName
  label := trim isWhiteSpace (readText application.label)

variable {application : InstalledApplication} {xs : List InstalledApplication}

theorem length_label_le (h : application.label.length ≤ 256) :
    (deviceApplication application).label.length ≤ maxLabelLength := by
  have htrim := length_trim_le isWhiteSpace (readText application.label)
  have htext := length_readText_le application.label
  unfold deviceApplication maxLabelLength
  dsimp only
  omega

theorem pushApplication_application (applications : List DeviceApplication) {seen : List JsString}
    (hname : Daemon.isValidBundleName application.bundleName = true)
    (hlabel : application.label.length ≤ 256) (hnew : readText application.bundleName ∉ seen) :
    pushApplication (applications, seen) (applicationJson application) =
      if readText application.bundleName = alwaysTunneledBundleName then some (applications, seen)
      else some (applications ++ [deviceApplication application],
        seen ++ [readText application.bundleName]) := by
  have hgetName : (applicationJson application).get (jsString "bundleName") =
      some (.string (readText application.bundleName)) := rfl
  have hgetLabel : (applicationJson application).get (jsString "label") =
      some (.string (readText application.label)) := rfl
  have htrim := normalize_valid hname
  have hvalid := (isValidBundleName_readText htrim).trans hname
  have hshort := Nat.not_lt.mpr (length_label_le hlabel)
  have hround : pushApplication (applications, seen) (applicationJson application) =
      if isValidBundleName (readText application.bundleName) = false ∨
          readText application.bundleName = alwaysTunneledBundleName ∨
          (deviceApplication application).label.length > maxLabelLength ∨
          seen.contains (readText application.bundleName) then some (applications, seen)
      else some (applications ++ [deviceApplication application],
        seen ++ [readText application.bundleName]) := by
    rw [pushApplication, hgetName, hgetLabel]
    · dsimp only
      rw [htrim]
      rfl
    · exact nofun
  rw [hround]
  simp [hvalid, hshort, hnew]

/-- The loop takes every application of the daemon but the app's own. -/
theorem foldlM_pushApplication (h : Normalized xs) :
    ∀ applications seen, (∀ x ∈ xs, readText x.bundleName ∉ seen) →
      ∃ seen', (xs.map applicationJson).foldlM pushApplication (applications, seen) =
        some (applications ++ (xs.map deviceApplication).filter
          (·.bundleName ≠ alwaysTunneledBundleName), seen') := by
  induction xs with
  | nil =>
    intro applications seen _
    exact ⟨seen, by simp⟩
  | cons x xs ih =>
    intro applications seen hnew
    obtain ⟨hx, hxs⟩ := forall_mem_cons.mp hnew
    have hpush := pushApplication_application applications
      (h.names x mem_cons_self) (h.labels x mem_cons_self) hx
    rw [map_cons, foldlM_cons, hpush, map_cons]
    by_cases hown : readText x.bundleName = alwaysTunneledBundleName
    · obtain ⟨seen', hrest⟩ := ih h.tail applications seen hxs
      rw [if_pos hown, filter_cons_of_neg (by rw [decide_eq_true_eq]; exact not_not.mpr hown)]
      exact ⟨seen', hrest⟩
    · have hlater : ∀ y ∈ xs, readText y.bundleName ∉ seen ++ [readText x.bundleName] := by
        intro y hy hmem
        rcases mem_append.mp hmem with hseen | hsame
        · exact hxs y hy hseen
        · have heq := (readText_inj_of_valid (h.names y (mem_cons_of_mem _ hy))
            (h.names x mem_cons_self)).mp (mem_singleton.mp hsame)
          apply (nodup_cons.mp h.distinct).1
          rw [← heq]
          exact mem_map_of_mem hy
      obtain ⟨seen', hrest⟩ := ih h.tail (applications ++ [deviceApplication x]) _ hlater
      rw [if_neg hown, filter_cons_of_pos (by rw [decide_eq_true_eq]; exact hown)]
      rw [append_assoc, singleton_append] at hrest
      exact ⟨seen', hrest⟩

/-- What the device reads from the JSON of a list of the daemon. -/
theorem decodeInstalledApplications_marshal {json : Json} (h : Normalized xs)
    (hparse : json.parse (readText (json.marshal xs)) = some (applicationsJson xs))
    (hsize : (json.marshal xs).length ≤ Daemon.maxInstalledAppsBytes) :
    decodeInstalledApplications json.parse (readText (json.marshal xs)) =
      (xs.map deviceApplication).filter (·.bundleName ≠ alwaysTunneledBundleName) := by
  have hlen := length_readText_le (json.marshal xs)
  have hne : (readText (json.marshal xs)).length ≠ 0 := by
    intro hempty
    rw [eq_nil_of_length_eq_zero hempty, json.parse_nil] at hparse
    cases hparse
  have hbound : ¬ (readText (json.marshal xs)).length > maxResponseCharacters :=
    Nat.not_lt.mpr (Nat.le_trans hlen hsize)
  have hget : (applicationsJson xs).get (jsString "applications") =
      some (.array (xs.map applicationJson)) := rfl
  obtain ⟨seen, hloop⟩ := foldlM_pushApplication h [] [] fun _ _ => not_mem_nil
  unfold decodeInstalledApplications
  rw [if_neg (not_or.mpr ⟨hne, hbound⟩), hparse]
  dsimp only
  rw [hget]
  dsimp only
  rw [hloop, nil_append]
  rfl

theorem bundleName_deviceApplications (xs : List InstalledApplication) :
    ((xs.map deviceApplication).filter (·.bundleName ≠ alwaysTunneledBundleName)).map
        DeviceApplication.bundleName =
      (xs.map fun x => readText x.bundleName).filter (· ≠ alwaysTunneledBundleName) := by
  rw [filter_map, filter_map, map_map]
  rfl

/-- The body of a response with the list gives the device the applications of the daemon. -/
theorem decodeInstalledApplications_served {strings : Daemon.Strings} {slices : Daemon.SortSlice}
    {json : Json} {applications : List InstalledApplication} {payload : List UInt8}
    (happlications : applications = Daemon.normalizeInstalledApplications strings slices xs)
    (hparse : json.parse (readText (json.marshal applications)) = some (applicationsJson applications))
    {authorized : Bool} (hserved : Daemon.handleInstalledAppsRequest json.marshal authorized
      (some (.ok applications)) = (200, payload)) :
    decodeInstalledApplications json.parse (readText payload) =
      (applications.map deviceApplication).filter (·.bundleName ≠ alwaysTunneledBundleName) := by
  obtain ⟨hpayload, hsize⟩ := Daemon.handleInstalledAppsRequest_served hserved
  have hnormalized := Daemon.normalizeInstalledApplications_normalized strings slices xs
  rw [← happlications] at hnormalized
  rw [hpayload] at hsize ⊢
  exact decodeInstalledApplications_marshal hnormalized hparse hsize

/-- The list survives the trip to the device: its names arrive in their order, except the app's own.
The validators of the two sides agree on the names that `trim` leaves as they are, and no label that
the daemon keeps is too long for the device. -/
theorem installedApplications_survive (strings : Daemon.Strings) (slices : Daemon.SortSlice)
    (json : Json) :
    (∀ xs applications, applications = Daemon.normalizeInstalledApplications strings slices xs →
      json.parse (readText (json.marshal applications)) = some (applicationsJson applications) →
      (json.marshal applications).length ≤ 1024 * 1024 →
      (decodeInstalledApplications json.parse (readText (json.marshal applications))).map
          DeviceApplication.bundleName =
        (applications.map fun application => readText application.bundleName).filter
          (· ≠ alwaysTunneledBundleName)) ∧
    (∀ name : List UInt8, trim isWhiteSpace (readText name) = readText name →
      isValidBundleName (readText name) = Daemon.isValidBundleName name) ∧
    (∀ xs, ∀ application ∈ Daemon.normalizeInstalledApplications strings slices xs,
      (trim isWhiteSpace (readText application.label)).length ≤ maxLabelLength) := by
  refine ⟨?_, fun name => isValidBundleName_readText, ?_⟩
  · intro xs applications happlications hparse hsize
    have hnormalized := Daemon.normalizeInstalledApplications_normalized strings slices xs
    rw [← happlications] at hnormalized
    rw [decodeInstalledApplications_marshal hnormalized hparse hsize, bundleName_deviceApplications]
  · intro xs application happlication
    have hnormalized := Daemon.normalizeInstalledApplications_normalized strings slices xs
    exact length_label_le (hnormalized.labels application happlication)

/-- A daemon with one application beside the app's own, and the JSON of its list. -/
theorem installedApplications_survive_one : let xs : List InstalledApplication :=
      [⟨Bytes.ascii "com.example.mail", Bytes.ascii "Mail"⟩,
        ⟨Bytes.ascii "io.github.realskyrin.harmonynetbridge", []⟩]
    let strings := Daemon.goStrings ⟨id, id⟩
    let slices := Daemon.insertionSlice.toSortSlice
    let json : Json :=
      { marshal := fun _ => Bytes.ascii ("\x7b\"applications\":[" ++
          "\x7b\"bundleName\":\"io.github.realskyrin.harmonynetbridge\",\"label\":\"\"\x7d," ++
          "\x7b\"bundleName\":\"com.example.mail\",\"label\":\"Mail\"\x7d]\x7d")
        parse := fun encoded => if encoded = [] then none else some (applicationsJson xs.reverse)
        parse_nil := rfl }
    let applications := Daemon.normalizeInstalledApplications strings slices xs
    (decodeInstalledApplications json.parse (readText (json.marshal applications))).map
      DeviceApplication.bundleName = [jsString "com.example.mail"] := by
  intro xs strings slices json applications
  have hsame : applications = xs.reverse := by decide +kernel
  have hparse : json.parse (readText (json.marshal applications)) =
      some (applicationsJson applications) := by
    rw [hsame]
    exact if_neg (by decide +kernel)
  have hsize : (json.marshal applications).length ≤ 1024 * 1024 := by decide +kernel
  rw [(installedApplications_survive strings slices json).1 xs applications rfl hparse hsize]
  decide +kernel

end HarmonyNetBridge.Harmony
