import HarmonyNetBridge.Bytes.Utf16
import HarmonyNetBridge.Harmony.AppWhitelist
import HarmonyNetBridge.Harmony.ControlSession

/-! The UTF-8 codec of the app's `HnbProtocol`: `encodeUtf8` counts the bytes in one pass over the
code units and stores them in a second one; `decodeUtf8` rejects what is not well formed. -/
namespace HarmonyNetBridge.Harmony.HnbProtocol
open Bytes.Utf16 List

/-- `codePointAt` at a code unit, with what follows it. -/
def codePointAt (first : UInt16) (rest : JsString) : ℕ :=
  let single := if 0xD800 ≤ first ∧ first ≤ 0xDFFF then 0xFFFD else first.toNat
  if 0xD800 ≤ first ∧ first ≤ 0xDBFF then
    match rest with
    | [] => single
    | second :: _ =>
      if 0xDC00 ≤ second ∧ second ≤ 0xDFFF then
        0x10000 + (first.toNat - 0xD800) * 1024 + (second.toNat - 0xDC00)
      else single
  else single

/-- The code points that a pass over the text meets. One that takes two code units lets the index
skip the second. -/
def codePoints : JsString → List ℕ
  | [] => []
  | [first] => [codePointAt first []]
  | first :: second :: rest =>
    let codePoint := codePointAt first (second :: rest)
    codePoint :: if codePoint > 0xFFFF then codePoints rest else codePoints (second :: rest)

def encodedLength (codePoint : ℕ) : ℕ :=
  if codePoint ≤ 0x7F then 1
  else if codePoint ≤ 0x7FF then 2
  else if codePoint ≤ 0xFFFF then 3
  else 4

/-- The first pass. -/
def byteLength (text : JsString) : ℕ :=
  (codePoints text).foldl (fun byteLength codePoint => byteLength + encodedLength codePoint) 0

/-- `result[output++] = b`. A store behind the end of the array is lost. -/
def store (state : List UInt8 × ℕ) (b : UInt8) : List UInt8 × ℕ :=
  (state.1.set state.2 b, state.2 + 1)

/-- The second pass, with the final value of `output`. -/
def storeAll (text : JsString) : List UInt8 × ℕ :=
  (codePoints text).foldl (fun state codePoint => (encodeCodePoint codePoint).foldl store state)
    (List.replicate (byteLength text) 0, 0)

def encodeUtf8 (text : JsString) : List UInt8 := (storeAll text).1

/-- The bits of the code point in the first byte, `continuationCount` and `minimum`. -/
def leadByte (first : ℕ) : Except String (ℕ × ℕ × ℕ) :=
  if first ≤ 0x7F then .ok (first, 0, 0)
  else if first ≥ 0xC2 ∧ first ≤ 0xDF then .ok (first &&& 0x1F, 1, 0x80)
  else if first ≥ 0xE0 ∧ first ≤ 0xEF then .ok (first &&& 0x0F, 2, 0x800)
  else if first ≥ 0xF0 ∧ first ≤ 0xF4 then .ok (first &&& 0x07, 3, 0x10000)
  else .error "HNB payload is not valid UTF-8"

def readContinuations (codePoint : ℕ) (bytes : List UInt8) : Except String ℕ :=
  bytes.foldlM (fun codePoint next =>
    if next.toNat &&& 0xC0 ≠ 0x80 then .error "HNB payload is not valid UTF-8"
    else .ok (codePoint * 64 + (next.toNat &&& 0x3F))) codePoint

def fromCodePoint (codePoint : ℕ) : JsString :=
  if codePoint ≤ 0xFFFF then [.ofNat codePoint]
  else
    let adjusted := codePoint - 0x10000
    [.ofNat (0xD800 + adjusted / 1024), .ofNat (0xDC00 + adjusted % 1024)]

/-- One round of `decodeUtf8`: what it appends to the result, and `continuationCount`. -/
def decodeRound (first : UInt8) (rest : List UInt8) : Except String (JsString × ℕ) := do
  let (codePoint, continuationCount, minimum) ← leadByte first.toNat
  if rest.length < continuationCount then
    throw "HNB payload contains truncated UTF-8"
  let codePoint ← readContinuations codePoint (rest.take continuationCount)
  if codePoint < minimum ∨ codePoint > 0x10FFFF ∨ (codePoint ≥ 0xD800 ∧ codePoint ≤ 0xDFFF) then
    throw "HNB payload contains an invalid Unicode code point"
  pure (fromCodePoint codePoint, continuationCount)

def decodeLoop (bytes : List UInt8) (result : JsString) : Except String JsString :=
  match bytes with
  | [] => .ok result
  | first :: rest =>
    match decodeRound first rest with
    | .error message => .error message
    | .ok (text, continuationCount) => decodeLoop (rest.drop continuationCount) (result ++ text)
termination_by bytes.length
decreasing_by simp only [length_cons, length_drop]; omega

def decodeUtf8 (bytes : List UInt8) : Except String JsString := decodeLoop bytes []

/-! The code points of a text are those of the characters of its repaired form. -/

section codePointAt
variable {first second : UInt16} {rest : JsString}

theorem codePointAt_pair (hfirst : isHigh first = true) (hsecond : isLow second = true) :
    codePointAt first (second :: rest) =
      0x10000 + (first.toNat - 0xD800) * 1024 + (second.toNat - 0xDC00) := by
  simp only [codePointAt, high_range, low_range, hfirst, hsecond, if_true]

theorem codePointAt_high (hfirst : isHigh first = true) (hright : rest.head?.any isLow = false) :
    codePointAt first rest = 0xFFFD := by
  cases rest with
  | nil => simp [codePointAt, high_range, surrogate_range, hfirst]
  | cons second rest =>
    have hsecond : isLow second = false := by simpa using hright
    simp [codePointAt, high_range, low_range, surrogate_range, hfirst, hsecond]

theorem codePointAt_low (hfirst : isLow first = true) : codePointAt first rest = 0xFFFD := by
  simp [codePointAt, high_range, surrogate_range, hfirst, not_isHigh_of_isLow hfirst]

theorem codePointAt_plain (hhigh : isHigh first = false) (hlow : isLow first = false) :
    codePointAt first rest = first.toNat := by
  simp [codePointAt, high_range, surrogate_range, hhigh, hlow]

theorem codePoints_pair (hfirst : isHigh first = true) (hsecond : isLow second = true) :
    codePoints (first :: second :: rest) =
      (0x10000 + (first.toNat - 0xD800) * 1024 + (second.toNat - 0xDC00)) :: codePoints rest := by
  rw [codePoints, codePointAt_pair hfirst hsecond]
  have hlarge : 0x10000 + (first.toNat - 0xD800) * 1024 + (second.toNat - 0xDC00) > 0xFFFF := by
    omega
  rw [if_pos hlarge]

theorem codePoints_single (h : codePointAt first rest ≤ 0xFFFF) :
    codePoints (first :: rest) = codePointAt first rest :: codePoints rest := by
  cases rest with
  | nil => rfl
  | cons second rest => rw [codePoints, if_neg (Nat.not_lt_of_ge h)]

end codePointAt

/-- A scan of the text reads the characters that spell its repaired form. -/
theorem codePoints_repair (s : JsString) :
    ∃ cs : List Char, codePoints s = cs.map Char.toNat ∧ repair s = cs.flatMap units := by
  suffices h : ∀ left, Apart left s →
      ∃ cs : List Char, codePoints s = cs.map Char.toNat ∧ repairFrom left s = cs.flatMap units by
    apply h none
    intro hnone
    contradiction
  induction s using scanInduction with
  | nil =>
    intro left _
    exact ⟨[], rfl, rfl⟩
  | pair u v rest hu hv ih =>
    intro left _
    have hv' : isHigh v = false := not_isHigh_of_isLow hv
    obtain ⟨cs, hcs, hrepair⟩ := ih (some v) (apart_of_not_isHigh hv' rest)
    rw [codePoints_pair hu hv, repairFrom_pair hu hv, hcs, hrepair]
    rw [isHigh_iff] at hu
    rw [isLow_iff] at hv
    obtain ⟨c, hc⟩ := exists_char
      (n := 0x10000 + (u.toNat - 0xD800) * 1024 + (v.toNat - 0xDC00)) (by omega)
    refine ⟨c :: cs, by rw [map_cons, hc], ?_⟩
    have hhigh : 0xD800 + (c.toNat - 0x10000) / 1024 = u.toNat := by omega
    have hlow : 0xDC00 + (c.toNat - 0x10000) % 1024 = v.toNat := by omega
    rw [flatMap_cons, units_of_gt (by omega), hhigh, hlow, UInt16.ofNat_toNat,
      UInt16.ofNat_toNat]
    rfl
  | high u rest hu hright ih =>
    intro left _
    have hpoint : codePointAt u rest = 0xFFFD := codePointAt_high hu hright
    obtain ⟨cs, hcs, hrepair⟩ := ih (some u) fun _ => hright
    rw [codePoints_single (by omega), hpoint, repairFrom_high hu hright, hcs, hrepair]
    exact ⟨'\uFFFD' :: cs, rfl, rfl⟩
  | low u rest hu ih =>
    intro left hleft
    have hpoint : codePointAt u rest = 0xFFFD := codePointAt_low hu
    obtain ⟨cs, hcs, hrepair⟩ := ih (some u) (apart_of_not_isHigh (not_isHigh_of_isLow hu) rest)
    rw [codePoints_single (by omega), hpoint, repairFrom_low hu hleft, hcs, hrepair]
    exact ⟨'\uFFFD' :: cs, rfl, rfl⟩
  | plain u rest hhigh hlow ih =>
    intro left _
    have hpoint : codePointAt u rest = u.toNat := codePointAt_plain hhigh hlow
    have hu : u.toNat < 65536 := u.toNat_lt
    obtain ⟨cs, hcs, hrepair⟩ := ih (some u) (apart_of_not_isHigh hhigh rest)
    rw [codePoints_single (by omega), hpoint, repairFrom_plain hhigh hlow, hcs, hrepair]
    rw [Bool.eq_false_iff, ne_eq, isHigh_iff] at hhigh
    rw [Bool.eq_false_iff, ne_eq, isLow_iff] at hlow
    obtain ⟨c, hc⟩ := exists_char (n := u.toNat) (by omega)
    refine ⟨c :: cs, by rw [map_cons, hc], ?_⟩
    rw [flatMap_cons, units_of_le (by omega), hc, UInt16.ofNat_toNat]
    rfl

theorem codePoints_units (c : Char) (s : JsString) :
    codePoints (units c ++ s) = c.toNat :: codePoints s := by
  have hvalid : c.toNat < 0xD800 ∨ (0xDFFF < c.toNat ∧ c.toNat < 0x110000) := c.valid
  by_cases hsmall : c.toNat ≤ 0xFFFF
  · have hunit : (UInt16.ofNat c.toNat).toNat = c.toNat :=
      UInt16.toNat_ofNat_of_lt' (Nat.lt_succ_of_le hsmall)
    have hhigh : isHigh (.ofNat c.toNat) = false := by
      rw [Bool.eq_false_iff, ne_eq, isHigh_iff, hunit]
      omega
    have hlow : isLow (.ofNat c.toNat) = false := by
      rw [Bool.eq_false_iff, ne_eq, isLow_iff, hunit]
      omega
    have hpoint : codePointAt (.ofNat c.toNat) s = c.toNat := by
      rw [codePointAt_plain hhigh hlow, hunit]
    rw [units_of_le hsmall, singleton_append, codePoints_single (by omega), hpoint]
  · obtain ⟨high, hhigh⟩ : ∃ n, n = 0xD800 + (c.toNat - 0x10000) / 1024 := ⟨_, rfl⟩
    obtain ⟨low, hlow⟩ : ∃ n, n = 0xDC00 + (c.toNat - 0x10000) % 1024 := ⟨_, rfl⟩
    have hhigh' : (UInt16.ofNat high).toNat = high :=
      UInt16.toNat_ofNat_of_lt' (show high < 65536 by omega)
    have hlow' : (UInt16.ofNat low).toNat = low :=
      UInt16.toNat_ofNat_of_lt' (show low < 65536 by omega)
    have hpoint : 0x10000 + (high - 0xD800) * 1024 + (low - 0xDC00) = c.toNat := by omega
    rw [units_of_gt (by omega), ← hhigh, ← hlow]
    simp only [cons_append, nil_append]
    rw [codePoints_pair, hhigh', hlow', hpoint]
    · rw [isHigh_iff, hhigh']
      omega
    · rw [isLow_iff, hlow']
      omega

variable (cs : List Char)

theorem codePoints_flatMap_units : codePoints (cs.flatMap units) = cs.map Char.toNat := by
  induction cs with
  | nil => rfl
  | cons c cs ih => rw [flatMap_cons, codePoints_units, ih, map_cons]

/-! The second pass stores the encodings one after the other and fills the array. -/

theorem store_foldl (bs : List UInt8) : ∀ done free : List UInt8, bs.length ≤ free.length →
    bs.foldl store (done ++ free, done.length) =
      ((done ++ bs) ++ free.drop bs.length, (done ++ bs).length) := by
  induction bs with
  | nil => simp
  | cons b bs ih =>
    intro done free hfits
    cases free with
    | nil => simp at hfits
    | cons old free =>
      have hstore : store (done ++ old :: free, done.length) b =
          ((done ++ [b]) ++ free, (done ++ [b]).length) := by
        simp [store, set_append_right]
      rw [foldl_cons, hstore, ih (done ++ [b]) free (by simpa using hfits)]
      simp

theorem storeAll_foldl (points : List ℕ) (done free : List UInt8)
    (hfits : (points.flatMap encodeCodePoint).length ≤ free.length) :
    points.foldl (fun state codePoint => (encodeCodePoint codePoint).foldl store state)
        (done ++ free, done.length) =
      ((done ++ points.flatMap encodeCodePoint) ++
          free.drop (points.flatMap encodeCodePoint).length,
        (done ++ points.flatMap encodeCodePoint).length) := by
  rw [← store_foldl _ done free hfits, foldl_flatMap]

theorem encodeCodePoint_length (codePoint : ℕ) :
    (encodeCodePoint codePoint).length = encodedLength codePoint := by
  simp only [encodeCodePoint, encodedLength]
  split_ifs <;> rfl

theorem byteLength_eq (text : JsString) :
    byteLength text = ((codePoints text).flatMap encodeCodePoint).length := by
  have key : ∀ (points : List ℕ) (start : ℕ),
      points.foldl (fun byteLength codePoint => byteLength + encodedLength codePoint) start =
        start + (points.flatMap encodeCodePoint).length := by
    intro points
    induction points with
    | nil => simp
    | cons point points ih =>
      intro start
      rw [foldl_cons, ih, flatMap_cons, length_append, encodeCodePoint_length]
      omega
  rw [byteLength, key, Nat.zero_add]

theorem storeAll_eq (text : JsString) :
    storeAll text = ((codePoints text).flatMap encodeCodePoint, byteLength text) := by
  have hlen := byteLength_eq text
  have h := storeAll_foldl (codePoints text) [] (List.replicate (byteLength text) 0)
    (by simp [hlen])
  simpa [storeAll, hlen] using h

theorem encodeCodePoint_toNat (c : Char) : encodeCodePoint c.toNat = String.utf8EncodeChar c := by
  have hvalid : c.toNat < 0xD800 ∨ (0xDFFF < c.toNat ∧ c.toNat < 0x110000) := c.valid
  have hor (i k b : ℕ) (hb : b < 2 ^ i) : 2 ^ i * k ||| b = b + 2 ^ i * k := by
    rw [← Nat.two_pow_add_eq_or_of_lt hb, Nat.add_comm]
  have hcont (b : ℕ) : 0x80 ||| b % 64 = b % 64 + 128 := hor 6 2 _ (Nat.mod_lt _ (by decide))
  have hlead2 (b : ℕ) (hb : b < 32) : 0xC0 ||| b = b % 32 + 192 := by
    rw [Nat.mod_eq_of_lt hb]
    exact hor 5 6 b hb
  have hlead3 (b : ℕ) (hb : b < 16) : 0xE0 ||| b = b % 16 + 224 := by
    rw [Nat.mod_eq_of_lt hb]
    exact hor 4 14 b hb
  have hlead4 (b : ℕ) (hb : b < 8) : 0xF0 ||| b = b % 8 + 240 := by
    rw [Nat.mod_eq_of_lt hb]
    exact hor 3 30 b hb
  simp only [encodeCodePoint, String.utf8EncodeChar]
  rw [show c.val.toNat = c.toNat from rfl]
  split_ifs with h1 h2 h3
  · rfl
  · rw [hlead2 _ (by omega), hcont]
  · rw [hlead3 _ (by omega), hcont, hcont]
  · rw [hlead4 _ (by omega), hcont, hcont, hcont]

/-- The encoder at the code units writes the UTF-8 of the characters of the repaired text. -/
theorem encodeUtf8_eq (s : JsString) : ∃ cs : List Char, repair s = cs.flatMap units ∧
      encodeUtf8 s = cs.flatMap String.utf8EncodeChar := by
  obtain ⟨cs, hpoints, hrepair⟩ := codePoints_repair s
  refine ⟨cs, hrepair, ?_⟩
  rw [encodeUtf8, storeAll_eq, hpoints, flatMap_map]
  simp only [encodeCodePoint_toNat]

/-- On a text without unpaired surrogates the encoder is the one of the control session. -/
theorem encodeUtf8_units : encodeUtf8 (cs.flatMap units) = Harmony.encodeUtf8 cs := by
  rw [encodeUtf8, storeAll_eq, codePoints_flatMap_units, flatMap_map]
  rfl

theorem encodeUtf8_flatMap_units :
    encodeUtf8 (cs.flatMap units) = cs.flatMap String.utf8EncodeChar := by
  rw [encodeUtf8_units, Harmony.encodeUtf8]
  simp only [encodeCodePoint_toNat]

/-! The decoder takes the bytes of one character in each round. -/

theorem isContinuation_iff : ∀ b : UInt8,
    b.toNat &&& 0xC0 = 0x80 ↔ 0x80 ≤ b.toNat ∧ b.toNat ≤ 0xBF :=
  Bytes.forall_byte (by decide +kernel)

theorem and_sixBits (n : ℕ) : n &&& 0x3F = n % 64 := Nat.and_two_pow_sub_one_eq_mod n 6

variable {codePoint n bits count minimum : ℕ} {first : UInt8} {continuations : List UInt8}

theorem readContinuations_ok {bytes : List UInt8} : readContinuations codePoint bytes = .ok n ↔
      (∀ b ∈ bytes, 0x80 ≤ b.toNat ∧ b.toNat ≤ 0xBF) ∧
        n = bytes.foldl (fun codePoint next => codePoint * 64 + next.toNat % 64) codePoint := by
  induction bytes generalizing codePoint with
  | nil =>
    simp [readContinuations, pure, Except.pure, eq_comm]
  | cons b bytes ih =>
    by_cases hb : b.toNat &&& 0xC0 = 0x80
    · have hstep : readContinuations codePoint (b :: bytes) =
          readContinuations (codePoint * 64 + (b.toNat &&& 0x3F)) bytes := by
        simp [readContinuations, hb, bind, Except.bind]
      rw [hstep, ih, and_sixBits, forall_mem_cons, foldl_cons]
      simp [(isContinuation_iff b).mp hb]
    · have hstep : readContinuations codePoint (b :: bytes) =
          .error "HNB payload is not valid UTF-8" := by
        simp [readContinuations, hb, bind, Except.bind]
      rw [hstep, forall_mem_cons, ← isContinuation_iff]
      simp [hb]

theorem leadByte_ok {first : ℕ} : leadByte first = .ok (bits, count, minimum) ↔
      (first ≤ 0x7F ∧ bits = first ∧ count = 0 ∧ minimum = 0) ∨
      ((0xC2 ≤ first ∧ first ≤ 0xDF) ∧ bits = first % 32 ∧ count = 1 ∧ minimum = 0x80) ∨
      ((0xE0 ≤ first ∧ first ≤ 0xEF) ∧ bits = first % 16 ∧ count = 2 ∧ minimum = 0x800) ∨
      ((0xF0 ≤ first ∧ first ≤ 0xF4) ∧ bits = first % 8 ∧ count = 3 ∧ minimum = 0x10000) := by
  have hfive : first &&& 0x1F = first % 32 := Nat.and_two_pow_sub_one_eq_mod first 5
  have hfour : first &&& 0x0F = first % 16 := Nat.and_two_pow_sub_one_eq_mod first 4
  have hthree : first &&& 0x07 = first % 8 := Nat.and_two_pow_sub_one_eq_mod first 3
  unfold leadByte
  rw [hfive, hfour, hthree]
  constructor
  · intro h
    split_ifs at h with h1 h2 h3 h4 <;>
      simp only [Except.ok.injEq, Prod.mk.injEq] at h <;> obtain ⟨rfl, rfl, rfl⟩ := h
    · exact .inl ⟨h1, rfl, rfl, rfl⟩
    · exact .inr (.inl ⟨h2, rfl, rfl, rfl⟩)
    · exact .inr (.inr (.inl ⟨h3, rfl, rfl, rfl⟩))
    · exact .inr (.inr (.inr ⟨h4, rfl, rfl, rfl⟩))
  · rintro (⟨h, rfl, rfl, rfl⟩ | ⟨h, rfl, rfl, rfl⟩ | ⟨h, rfl, rfl, rfl⟩ | ⟨h, rfl, rfl, rfl⟩)
    · rw [if_pos h]
    · rw [if_neg (by omega), if_pos h]
    · rw [if_neg (by omega), if_neg (by omega), if_pos h]
    · rw [if_neg (by omega), if_neg (by omega), if_neg (by omega), if_pos h]

def IsScalar (codePoint : ℕ) : Prop :=
  codePoint ≤ 0x10FFFF ∧ ¬(0xD800 ≤ codePoint ∧ codePoint ≤ 0xDFFF)

theorem decodeRound_of_read {rest : List UInt8}
    (hlead : leadByte first.toNat = .ok (bits, count, minimum)) (hlen : count ≤ rest.length)
    (hread : readContinuations bits (rest.take count) = .ok codePoint)
    (hminimum : minimum ≤ codePoint) (hscalar : IsScalar codePoint) :
    decodeRound first rest = .ok (fromCodePoint codePoint, count) := by
  have hvalid : ¬(codePoint < minimum ∨ codePoint > 0x10FFFF ∨
      (codePoint ≥ 0xD800 ∧ codePoint ≤ 0xDFFF)) := by
    unfold IsScalar at hscalar
    omega
  simp only [decodeRound, hlead, hread, bind, Except.bind, if_neg (Nat.not_lt_of_ge hlen),
    if_neg hvalid, pure, Except.pure]

theorem read_of_decodeRound {rest : List UInt8} {text : JsString}
    (h : decodeRound first rest = .ok (text, count)) : ∃ bits minimum codePoint : ℕ,
      leadByte first.toNat = .ok (bits, count, minimum) ∧ count ≤ rest.length ∧
      readContinuations bits (rest.take count) = .ok codePoint ∧
      minimum ≤ codePoint ∧ IsScalar codePoint ∧ text = fromCodePoint codePoint := by
  unfold decodeRound at h
  cases hlead : leadByte first.toNat with
  | error message => simp [hlead, bind, Except.bind] at h
  | ok lead =>
    obtain ⟨bits, found, minimum⟩ := lead
    simp only [hlead, bind, Except.bind] at h
    split_ifs at h with hshort
    cases hread : readContinuations bits (rest.take found) with
    | error message => simp [hread] at h
    | ok codePoint =>
      simp only [hread, pure, Except.pure] at h
      split_ifs at h with hinvalid
      obtain ⟨rfl, rfl⟩ := Prod.mk.inj (Except.ok.inj h)
      refine ⟨bits, minimum, codePoint, rfl, Nat.le_of_not_lt hshort, hread, by omega, ?_, rfl⟩
      unfold IsScalar
      omega

def utf8Values (n : ℕ) : List ℕ :=
  if n ≤ 0x7F then [n]
  else if n ≤ 0x7FF then [n / 64 + 0xC0, n % 64 + 0x80]
  else if n ≤ 0xFFFF then [n / 4096 + 0xE0, n / 64 % 64 + 0x80, n % 64 + 0x80]
  else [n / 262144 + 0xF0, n / 4096 % 64 + 0x80, n / 64 % 64 + 0x80, n % 64 + 0x80]

theorem utf8EncodeChar_eq_iff (c : Char) (bs : List UInt8) :
    String.utf8EncodeChar c = bs ↔ bs.map UInt8.toNat = utf8Values c.toNat := by
  have hvalid : c.toNat < 0xD800 ∨ (0xDFFF < c.toNat ∧ c.toNat < 0x110000) := c.valid
  have hvalues : (String.utf8EncodeChar c).map UInt8.toNat = utf8Values c.toNat := by
    rw [String.utf8EncodeChar, show c.val.toNat = c.toNat from rfl, utf8Values]
    split_ifs <;>
      simp only [map_cons, map_nil, UInt8.toNat_ofNat', List.cons.injEq, and_true] <;>
      omega
  rw [← hvalues]
  constructor
  · rintro rfl
    rfl
  · intro h
    exact (map_injective_iff.mpr (fun _ _ => UInt8.toNat_inj.mp) h).symm

theorem read_of_utf8Values {first : ℕ} (hn : n ≤ 0x10FFFF)
    (h : first :: continuations.map UInt8.toNat = utf8Values n) :
    ∃ bits minimum, leadByte first = .ok (bits, continuations.length, minimum) ∧
      readContinuations bits continuations = .ok n ∧ minimum ≤ n := by
  simp only [leadByte_ok, readContinuations_ok]
  rw [utf8Values] at h
  split_ifs at h with h1 h2 h3 <;>
    simp only [List.cons.injEq, map_eq_cons_iff, map_eq_nil_iff] at h
  · obtain ⟨rfl, rfl⟩ := h
    exact ⟨first, 0, .inl ⟨h1, rfl, rfl, rfl⟩, by simp, by omega⟩
  · obtain ⟨rfl, x, _, rfl, hx, rfl⟩ := h
    refine ⟨_, 0x80, .inr (.inl ⟨by omega, rfl, rfl, rfl⟩), ?_, by omega⟩
    simp only [forall_mem_cons, mem_nil_iff, false_implies, forall_const, and_true,
      foldl_cons, foldl_nil, hx]
    omega
  · obtain ⟨rfl, x, _, rfl, hx, y, _, rfl, hy, rfl⟩ := h
    refine ⟨_, 0x800, .inr (.inr (.inl ⟨by omega, rfl, rfl, rfl⟩)), ?_, by omega⟩
    simp only [forall_mem_cons, mem_nil_iff, false_implies, forall_const, and_true,
      foldl_cons, foldl_nil, hx, hy]
    omega
  · obtain ⟨rfl, x, _, rfl, hx, y, _, rfl, hy, z, _, rfl, hz, rfl⟩ := h
    refine ⟨_, 0x10000, .inr (.inr (.inr ⟨by omega, rfl, rfl, rfl⟩)), ?_, by omega⟩
    simp only [forall_mem_cons, mem_nil_iff, false_implies, forall_const, and_true,
      foldl_cons, foldl_nil, hx, hy, hz]
    omega

theorem utf8Values_of_read {first : ℕ}
    (hlead : leadByte first = .ok (bits, continuations.length, minimum))
    (hread : readContinuations bits continuations = .ok n) (hminimum : minimum ≤ n) :
    first :: continuations.map UInt8.toNat = utf8Values n := by
  obtain ⟨hrange, hn⟩ := readContinuations_ok.mp hread
  unfold utf8Values
  rcases leadByte_ok.mp hlead with ⟨hfirst, rfl, hlen, rfl⟩ | ⟨hfirst, rfl, hlen, rfl⟩ |
    ⟨hfirst, rfl, hlen, rfl⟩ | ⟨hfirst, rfl, hlen, rfl⟩
  · obtain rfl := length_eq_zero_iff.mp hlen
    rw [foldl_nil] at hn
    rw [if_pos (by omega), hn, map_nil]
  · obtain ⟨x, rfl⟩ := length_eq_one_iff.mp hlen
    simp only [forall_mem_cons, foldl_cons, foldl_nil] at hrange hn
    rw [if_neg (by omega), if_pos (by omega)]
    simp only [map_cons, map_nil, List.cons.injEq, and_true]
    omega
  · obtain ⟨x, y, rfl⟩ := length_eq_two.mp hlen
    simp only [forall_mem_cons, foldl_cons, foldl_nil] at hrange hn
    rw [if_neg (by omega), if_neg (by omega), if_pos (by omega)]
    simp only [map_cons, map_nil, List.cons.injEq, and_true]
    omega
  · obtain ⟨x, y, z, rfl⟩ := length_eq_three.mp hlen
    simp only [forall_mem_cons, foldl_cons, foldl_nil] at hrange hn
    rw [if_neg (by omega), if_neg (by omega), if_neg (by omega)]
    simp only [map_cons, map_nil, List.cons.injEq, and_true]
    omega

/-- A round succeeds on the bytes of a character, and appends its code units. -/
theorem decodeRound_utf8EncodeChar {c : Char} (h : String.utf8EncodeChar c = first :: continuations)
    (rest : List UInt8) :
    decodeRound first (continuations ++ rest) = .ok (units c, continuations.length) := by
  have hvalid : c.toNat < 0xD800 ∨ (0xDFFF < c.toNat ∧ c.toNat < 0x110000) := c.valid
  rw [utf8EncodeChar_eq_iff, map_cons] at h
  obtain ⟨bits, minimum, hlead, hread, hminimum⟩ := read_of_utf8Values (by omega) h
  apply decodeRound_of_read hlead
  · simp
  · rwa [take_left]
  · exact hminimum
  · unfold IsScalar
    omega

/-- A round that succeeds has read the bytes of a character. -/
theorem utf8EncodeChar_of_decodeRound {rest : List UInt8} {text : JsString}
    (h : decodeRound first rest = .ok (text, count)) :
    ∃ c, String.utf8EncodeChar c = first :: rest.take count ∧ text = units c := by
  obtain ⟨bits, minimum, codePoint, hlead, hlen, hread, hminimum, hscalar, rfl⟩ :=
    read_of_decodeRound h
  unfold IsScalar at hscalar
  obtain ⟨c, rfl⟩ := exists_char (n := codePoint) (by omega)
  refine ⟨c, ?_, rfl⟩
  rw [utf8EncodeChar_eq_iff, map_cons]
  apply utf8Values_of_read _ hread hminimum
  rw [hlead, length_take_of_le hlen]

theorem decodeLoop_chars : ∀ result : JsString,
    decodeLoop (cs.flatMap String.utf8EncodeChar) result = .ok (result ++ cs.flatMap units) := by
  induction cs with
  | nil =>
    intro result
    rw [flatMap_nil, flatMap_nil, append_nil, decodeLoop]
  | cons c cs ih =>
    intro result
    cases hbytes : String.utf8EncodeChar c with
    | nil => exact absurd hbytes String.utf8EncodeChar_ne_nil
    | cons first continuations =>
      rw [flatMap_cons, hbytes, cons_append, decodeLoop,
        decodeRound_utf8EncodeChar hbytes]
      simp only [drop_left, ih, flatMap_cons, append_assoc]

/-- The decoder accepts only the UTF-8 of characters, and returns their code units. -/
theorem chars_of_decodeLoop (bytes : List UInt8) (result s : JsString)
    (h : decodeLoop bytes result = .ok s) :
    ∃ cs : List Char, bytes = cs.flatMap String.utf8EncodeChar ∧
      s = result ++ cs.flatMap units := by
  induction bytes, result using decodeLoop.induct with
  | case1 result =>
    rw [decodeLoop] at h
    exact ⟨[], rfl, by simpa using (Except.ok.inj h).symm⟩
  | case2 result first rest message hround =>
    rw [decodeLoop, hround] at h
    contradiction
  | case3 result first rest text count hround ih =>
    rw [decodeLoop, hround] at h
    obtain ⟨cs, hbytes, hs⟩ := ih h
    obtain ⟨c, hc, rfl⟩ := utf8EncodeChar_of_decodeRound hround
    refine ⟨c :: cs, ?_, ?_⟩
    · rw [flatMap_cons, hc, ← hbytes, cons_append, take_append_drop]
    · rw [hs, flatMap_cons, append_assoc]

theorem decodeUtf8_eq_ok (b : List UInt8) (s : JsString) : decodeUtf8 b = .ok s ↔
      ∃ cs : List Char, b = cs.flatMap String.utf8EncodeChar ∧ s = cs.flatMap units := by
  constructor
  · intro h
    exact chars_of_decodeLoop b [] s h
  · rintro ⟨cs, rfl, rfl⟩
    exact decodeLoop_chars cs []

/-- The codec: texts come back, unpaired surrogates are written as U+FFFD, exactly the well-formed
UTF-8 is accepted and comes back, and the two passes of the encoder agree on the length. -/
theorem utf8_codec : (∀ s, WellFormed s → decodeUtf8 (encodeUtf8 s) = .ok s) ∧
    (∀ s, encodeUtf8 s = encodeUtf8 (repair s) ∧
      ∃ cs : List Char, repair s = cs.flatMap units ∧
        encodeUtf8 s = cs.flatMap String.utf8EncodeChar) ∧
    (∀ b, (∃ s, decodeUtf8 b = .ok s) ↔
      ∃ cs : List Char, b = cs.flatMap String.utf8EncodeChar) ∧
    (∀ b s, decodeUtf8 b = .ok s → encodeUtf8 s = b) ∧
    (∀ s, (storeAll s).2 = byteLength s ∧ (encodeUtf8 s).length = byteLength s) := by
  refine ⟨?_, ?_, ?_, ?_, ?_⟩
  · intro s hs
    obtain ⟨cs, hrepair, hencode⟩ := encodeUtf8_eq s
    rw [repair_of_wellFormed hs] at hrepair
    exact (decodeUtf8_eq_ok _ s).mpr ⟨cs, hencode, hrepair⟩
  · intro s
    obtain ⟨cs, hrepair, hencode⟩ := encodeUtf8_eq s
    refine ⟨?_, cs, hrepair, hencode⟩
    rw [hrepair, hencode, encodeUtf8_flatMap_units]
  · intro b
    simp only [decodeUtf8_eq_ok]
    constructor
    · rintro ⟨s, cs, hb, -⟩
      exact ⟨cs, hb⟩
    · rintro ⟨cs, hb⟩
      exact ⟨_, cs, hb, rfl⟩
  · intro b s h
    obtain ⟨cs, rfl, rfl⟩ := (decodeUtf8_eq_ok b s).mp h
    exact encodeUtf8_flatMap_units cs
  · intro s
    rw [encodeUtf8, storeAll_eq]
    exact ⟨rfl, (byteLength_eq s).symm⟩

end HarmonyNetBridge.Harmony.HnbProtocol
