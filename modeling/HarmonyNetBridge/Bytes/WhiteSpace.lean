import HarmonyNetBridge.Bytes.Text

/-! Trimming by tokens of several elements, and the white space of Unicode as such tokens. -/
namespace Bytes
open List

section tokens
variable {α : Type*} [DecidableEq α] {tokens : List (List α)}

/-- Drops a token from the front as long as there is one. -/
def dropTokens (tokens : List (List α)) (s : List α) : List α :=
  match _h : tokens.find? fun w => !w.isEmpty && w.isPrefixOf s with
  | none => s
  | some w => dropTokens tokens (s.drop w.length)
termination_by s.length
decreasing_by
  have hw := List.find?_some _h
  simp only [Bool.and_eq_true, Bool.not_eq_true', isEmpty_eq_false_iff,
    List.isPrefixOf_iff_prefix] at hw
  have hpos := length_pos_iff.mpr hw.1
  have hle := hw.2.length_le
  rw [length_drop]
  omega

theorem length_dropTokens_le (tokens : List (List α)) (s : List α) :
    (dropTokens tokens s).length ≤ s.length := by
  fun_induction dropTokens tokens s with
  | case1 s hnone => exact Nat.le_refl _
  | case2 s w hfound ih =>
    rw [length_drop] at ih
    omega

def takeField (tokens : List (List α)) : List α → List α
  | [] => []
  | a :: s =>
    if tokens.any fun w => !w.isEmpty && w.isPrefixOf (a :: s) then [] else a :: takeField tokens s

/-- The fields of a text that tokens separate. -/
def fields (tokens : List (List α)) (s : List α) : List (List α) :=
  match _h : dropTokens tokens s with
  | [] => []
  | a :: rest =>
    (a :: takeField tokens rest) :: fields tokens (rest.drop (takeField tokens rest).length)
termination_by s.length
decreasing_by
  have hle := length_dropTokens_le tokens s
  rw [_h, length_cons] at hle
  rw [length_drop]
  omega

theorem fields_ne_nil (tokens : List (List α)) (s : List α) :
    ∀ field ∈ fields tokens s, field ≠ [] := by
  fun_induction fields tokens s with
  | case1 s hnil => simp
  | case2 s a rest hcons ih =>
    intro field hfield
    rcases mem_cons.mp hfield with rfl | hrest
    · exact cons_ne_nil a _
    · exact ih field hrest

def trimTokens (tokens : List (List α)) (s : List α) : List α :=
  (dropTokens (tokens.map List.reverse) (dropTokens tokens s).reverse).reverse

def Blank (tokens : List (List α)) (s : List α) : Prop :=
  ∃ ws : List (List α), (∀ w ∈ ws, w ∈ tokens) ∧ s = ws.flatten

/-- There is no token at either end. -/
def Clean (tokens : List (List α)) (s : List α) : Prop := ∀ w ∈ tokens, ¬w <+: s ∧ ¬w <:+ s

def PrefixCode (tokens : List (List α)) : Prop :=
  ∀ w ∈ tokens, w ≠ [] ∧ ∀ w' ∈ tokens, w <+: w' → w = w'

/-- Tokens that cannot be taken for others at either end, or where two of them meet. -/
structure Separate (tokens : List (List α)) : Prop where
  front : PrefixCode tokens
  back : PrefixCode (tokens.map List.reverse)
  inner : ∀ w ∈ tokens, ∀ i < w.length, 0 < i → ∀ w' ∈ tokens,
    (¬w' <:+ w.take i ∧ ¬w.take i <:+ w') ∧ ¬w' <+: w.drop i ∧ ¬w.drop i <+: w'

theorem dropTokens_eq_self {s : List α} (h : ∀ w ∈ tokens, w ≠ [] → ¬w <+: s) :
    dropTokens tokens s = s := by
  have hnone : tokens.find? (fun w => !w.isEmpty && w.isPrefixOf s) = none := by
    rw [List.find?_eq_none]
    intro w hw hfound
    simp only [Bool.and_eq_true, Bool.not_eq_true', isEmpty_eq_false_iff,
      List.isPrefixOf_iff_prefix] at hfound
    exact h w hw hfound.1 hfound.2
  rw [dropTokens]
  split
  · rfl
  · simp_all

theorem dropTokens_append {w : List α} (hcode : PrefixCode tokens) (hw : w ∈ tokens) (s : List α) :
    dropTokens tokens (w ++ s) = dropTokens tokens s := by
  have hfound : tokens.find? (fun v => !v.isEmpty && v.isPrefixOf (w ++ s)) = some w := by
    cases hfind : tokens.find? (fun v => !v.isEmpty && v.isPrefixOf (w ++ s)) with
    | none =>
      have hnone := List.find?_eq_none.mp hfind w hw
      simp [(hcode w hw).1] at hnone
    | some v =>
      have hv := List.find?_some hfind
      simp only [Bool.and_eq_true, Bool.not_eq_true', isEmpty_eq_false_iff,
        List.isPrefixOf_iff_prefix] at hv
      have hmem := mem_of_find?_eq_some hfind
      rcases List.prefix_or_prefix_of_prefix hv.2 (prefix_append w s) with hle | hle
      · rw [(hcode v hmem).2 w hw hle]
      · rw [(hcode w hw).2 v hmem hle]
  rw [dropTokens]
  split
  · simp_all
  · rename_i v hv
    rw [hfound] at hv
    rw [← Option.some.inj hv, drop_left]

theorem dropTokens_blank {l : List α} (hcode : PrefixCode tokens) (hl : Blank tokens l)
    (s : List α) : dropTokens tokens (l ++ s) = dropTokens tokens s := by
  obtain ⟨ws, hws, rfl⟩ := hl
  induction ws with
  | nil => rfl
  | cons w ws ih =>
    rw [flatten_cons, append_assoc, dropTokens_append hcode (hws w mem_cons_self)]
    exact ih fun v hv => hws v (mem_cons_of_mem w hv)

omit [DecidableEq α] in
theorem Blank.append {l r : List α} (hl : Blank tokens l) (hr : Blank tokens r) :
    Blank tokens (l ++ r) := by
  obtain ⟨vs, hvs, rfl⟩ := hl
  obtain ⟨ws, hws, rfl⟩ := hr
  refine ⟨vs ++ ws, ?_, flatten_append.symm⟩
  intro w hw
  rcases mem_append.mp hw with h | h
  · exact hvs w h
  · exact hws w h

omit [DecidableEq α] in
theorem Blank.reverse {l : List α} (h : Blank tokens l) :
    Blank (tokens.map List.reverse) l.reverse := by
  obtain ⟨ws, hws, rfl⟩ := h
  refine ⟨(ws.map List.reverse).reverse, ?_, reverse_flatten⟩
  intro w hw
  obtain ⟨v, hv, rfl⟩ := mem_map.mp (mem_reverse.mp hw)
  exact mem_map_of_mem (hws v hv)

omit [DecidableEq α] in
/-- A token that begins in a text does not end in the blank behind it. -/
theorem Separate.not_front (h : Separate tokens) {t r : List α} (ht : Clean tokens t)
    (hne : t ≠ []) (hr : Blank tokens r) : ∀ w ∈ tokens, ¬w <+: t ++ r := by
  intro w hw hfront
  rcases List.prefix_or_prefix_of_prefix hfront (prefix_append t r) with hle | hle
  · exact (ht w hw).1 hle
  · obtain ⟨y, rfl⟩ := hle
    have hy : y ≠ [] := fun hnil => (ht _ hw).1 (by simp [hnil])
    rw [prefix_append_right_inj] at hfront
    obtain ⟨ws, hws, rfl⟩ := hr
    cases ws with
    | nil => exact hy (prefix_nil.mp hfront)
    | cons v ws =>
      have hinner := (h.inner _ hw t.length (by simpa using length_pos_iff.mpr hy)
        (length_pos_iff.mpr hne) v (hws v mem_cons_self)).2
      rw [drop_left] at hinner
      rcases List.prefix_or_prefix_of_prefix hfront (prefix_append v ws.flatten) with hle | hle
      · exact hinner.2 hle
      · exact hinner.1 hle

theorem trimTokens_padded (h : Separate tokens) {l t r : List α} (hl : Blank tokens l)
    (ht : Clean tokens t) (hr : Blank tokens r) : trimTokens tokens (l ++ t ++ r) = t := by
  unfold trimTokens
  rw [append_assoc, dropTokens_blank h.front hl]
  by_cases hne : t = []
  · have hnil : dropTokens tokens ([] : List α) = [] :=
      dropTokens_eq_self fun w _ hw hfront => hw (prefix_nil.mp hfront)
    have hnil' : dropTokens (tokens.map List.reverse) ([] : List α) = [] :=
      dropTokens_eq_self fun w _ hw hfront => hw (prefix_nil.mp hfront)
    have hall := dropTokens_blank h.front hr []
    rw [append_nil] at hall
    rw [hne, nil_append, hall, hnil, reverse_nil, hnil', reverse_nil]
  · rw [dropTokens_eq_self fun w hw _ => h.not_front ht hne hr w hw, reverse_append,
      dropTokens_blank h.back hr.reverse, dropTokens_eq_self, reverse_reverse]
    intro w hw _ hfront
    obtain ⟨v, hv, rfl⟩ := mem_map.mp hw
    exact (ht v hv).2 (List.reverse_prefix.mp hfront)

omit [DecidableEq α] in
/-- A token that ends in a text does not begin in the blank in front of it. -/
theorem Separate.not_suffix (h : Separate tokens) {p t : List α} {x : α}
    (hx : ∀ w ∈ tokens, x ∉ w) (hp : Blank tokens p) (ht : Clean tokens t)
    (hnil : t = [] → p = []) (front : List α) : ∀ w ∈ tokens, ¬w <:+ front ++ x :: (p ++ t) := by
  intro w hw hsuffix
  rw [← cons_append, ← append_assoc] at hsuffix
  rcases List.suffix_or_suffix_of_suffix hsuffix (suffix_append _ t) with hle | hle
  · exact (ht w hw).2 hle
  obtain ⟨z, rfl⟩ := hle
  have hz : z ≠ [] := fun hnil => (ht _ hw).2 (by simp [hnil])
  rw [suffix_append_self_iff] at hsuffix
  obtain ⟨ws, hws, rfl⟩ := hp
  rcases eq_nil_or_concat ws with rfl | ⟨init, v, rfl⟩
  · -- the token would have the separator in it
    obtain ⟨y, rfl, -⟩ := (suffix_concat_iff.mp hsuffix).resolve_left hz
    exact hx _ hw (by simp)
  · have hv : v ∈ tokens := hws v (by simp)
    have hne : t ≠ [] := by
      intro ht
      have hblank := hnil ht
      simp only [concat_eq_append, flatten_append, flatten_singleton,
        append_eq_nil_iff] at hblank
      exact (h.front v hv).1 hblank.2
    have hinner := (h.inner _ hw z.length (by simpa using length_pos_iff.mpr hne)
      (length_pos_iff.mpr hz) v hv).1
    rw [take_left] at hinner
    have hend : v <:+ front ++ x :: (init.concat v).flatten :=
      ⟨front ++ x :: init.flatten, by simp⟩
    rcases List.suffix_or_suffix_of_suffix hsuffix hend with hle | hle
    · exact hinner.2 hle
    · exact hinner.1 hle

end tokens

/-! The white space of Unicode -/

/-- The encodings of the characters with the property `White_Space`. -/
def whiteSpace : List (List UInt8) :=
  [[9], [10], [11], [12], [13], [32], [0xC2, 0x85], [0xC2, 0xA0], [0xE1, 0x9A, 0x80],
    [0xE2, 0x80, 0x80], [0xE2, 0x80, 0x81], [0xE2, 0x80, 0x82], [0xE2, 0x80, 0x83],
    [0xE2, 0x80, 0x84], [0xE2, 0x80, 0x85], [0xE2, 0x80, 0x86], [0xE2, 0x80, 0x87],
    [0xE2, 0x80, 0x88], [0xE2, 0x80, 0x89], [0xE2, 0x80, 0x8A], [0xE2, 0x80, 0xA8],
    [0xE2, 0x80, 0xA9], [0xE2, 0x80, 0xAF], [0xE2, 0x81, 0x9F], [0xE3, 0x80, 0x80]]

theorem whiteSpace_separate : Separate whiteSpace where
  front := by
    unfold PrefixCode
    decide
  back := by
    unfold PrefixCode
    decide
  inner := by decide

/-- A printable character of ASCII. -/
def isPlainByte (b : UInt8) : Bool := 0x21 ≤ b && b ≤ 0x7E

variable {b x : UInt8} {s : List UInt8} {α : Type*}

theorem not_mem_whiteSpace (hb : isPlainByte b = true) : ∀ w ∈ whiteSpace, b ∉ w := by
  have hall : whiteSpace.all (fun w => w.all fun b => !isPlainByte b) = true := by decide
  intro w hw hmem
  have hnot := all_eq_true.mp (all_eq_true.mp hall w hw) b hmem
  simp [hb] at hnot

theorem Blank.not_mem (h : Blank whiteSpace s) (hb : isPlainByte b = true) : b ∉ s := by
  obtain ⟨ws, hws, rfl⟩ := h
  intro hmem
  obtain ⟨w, hw, hbw⟩ := mem_flatten.mp hmem
  exact not_mem_whiteSpace hb w (hws w hw) hbw

theorem Blank.nil : Blank whiteSpace [] := ⟨[], forall_mem_nil _, rfl⟩

/-- No white space anywhere in the text. -/
def NoSpace (s : List UInt8) : Prop := ∀ w ∈ whiteSpace, ¬w <:+: s

theorem NoSpace.clean (h : NoSpace s) : Clean whiteSpace s :=
  fun w hw => ⟨fun hfront => h w hw hfront.isInfix, fun hback => h w hw hback.isInfix⟩

theorem NoSpace.nil : NoSpace [] := by
  intro w hw hinfix
  exact (whiteSpace_separate.front w hw).1 (infix_nil.mp hinfix)

theorem prefix_of_not_mem {w a b : List α} {x : α} (hx : x ∉ w) (h : w <+: a ++ x :: b) :
    w <+: a := by
  rcases List.prefix_or_prefix_of_prefix h (prefix_append a (x :: b)) with hle | ⟨y, rfl⟩
  · exact hle
  · rw [prefix_append_right_inj] at h
    cases y with
    | nil => simp
    | cons y ys =>
      obtain ⟨rest, hrest⟩ := h
      obtain ⟨rfl, -⟩ := List.cons.inj hrest
      simp at hx

theorem infix_of_not_mem {w a b : List α} {x : α} (hx : x ∉ w) (h : w <:+: a ++ x :: b) :
    w <:+: a ∨ w <:+: b := by
  induction a with
  | nil =>
    rcases infix_cons_iff.mp h with hfront | hrest
    · exact .inl (prefix_of_not_mem (a := []) hx hfront).isInfix
    · exact .inr hrest
  | cons a as ih =>
    rcases infix_cons_iff.mp h with hfront | hrest
    · exact .inl (prefix_of_not_mem (a := a :: as) hx hfront).isInfix
    · rcases ih hrest with hleft | hright
      · exact .inl (infix_cons_iff.mpr (.inr hleft))
      · exact .inr hright

theorem NoSpace.append_cons {a b : List UInt8} (ha : NoSpace a) (hb : NoSpace b)
    (hx : isPlainByte x = true) : NoSpace (a ++ x :: b) := by
  intro w hw hinfix
  rcases infix_of_not_mem (not_mem_whiteSpace hx w hw) hinfix with hleft | hright
  · exact ha w hw hleft
  · exact hb w hw hright

theorem NoSpace.intercalate {fields : List (List UInt8)} (h : ∀ field ∈ fields, NoSpace field)
    (hx : isPlainByte x = true) : NoSpace ([x].intercalate fields) := by
  induction fields with
  | nil => exact NoSpace.nil
  | cons field fields ih =>
    have hfield := h field mem_cons_self
    cases fields with
    | nil => simpa using hfield
    | cons next fields =>
      have hrest := ih fun f hf => h f (mem_cons_of_mem field hf)
      rw [intercalate_cons_cons, append_assoc, singleton_append]
      exact hfield.append_cons hrest hx

theorem noSpace_of_plain (h : ∀ b ∈ s, isPlainByte b = true) : NoSpace s := by
  induction s with
  | nil => exact NoSpace.nil
  | cons b s ih =>
    exact NoSpace.nil.append_cons (ih fun c hc => h c (mem_cons_of_mem b hc))
      (h b mem_cons_self)

theorem not_prefix_of_plain {a : UInt8} (ha : isPlainByte a = true) (s : List UInt8) :
    ∀ w ∈ whiteSpace, ¬w <+: a :: s := by
  intro w hw hfront
  apply (whiteSpace_separate.front w hw).1
  exact prefix_nil.mp (prefix_of_not_mem (a := []) (not_mem_whiteSpace ha w hw) hfront)

theorem not_suffix_of_plain (hb : isPlainByte b = true) (s : List UInt8) :
    ∀ w ∈ whiteSpace, ¬w <:+ s ++ [b] := by
  intro w hw hback
  have hne := (whiteSpace_separate.front w hw).1
  obtain ⟨y, rfl, -⟩ := (suffix_concat_iff.mp hback).resolve_left hne
  exact not_mem_whiteSpace hb _ hw (by simp)

theorem dropTokens_ascii {tokens : List (List UInt8)} (hcode : PrefixCode tokens)
    (hspace : ∀ b, isSpaceByte b = true → [b] ∈ tokens)
    (hascii : ∀ w ∈ tokens, w.all isAscii = true → w.length = 1 ∧ w.all isSpaceByte = true)
    (hs : ∀ b ∈ s, isAscii b = true) : dropTokens tokens s = s.dropWhile isSpaceByte := by
  induction s with
  | nil => exact dropTokens_eq_self fun w _ hw hfront => hw (prefix_nil.mp hfront)
  | cons b s ih =>
    cases hb : isSpaceByte b with
    | true =>
      rw [dropWhile_cons_of_pos hb, ← ih fun c hc => hs c (mem_cons_of_mem b hc)]
      exact dropTokens_append hcode (hspace b hb) s
    | false =>
      rw [dropWhile_cons_of_neg (by simp [hb])]
      apply dropTokens_eq_self
      intro w hw _ hfront
      have hall : w.all isAscii = true :=
        all_eq_true.mpr fun c hc => hs c (hfront.subset hc)
      obtain ⟨hlen, hspaces⟩ := hascii w hw hall
      obtain ⟨c, rfl⟩ := length_eq_one_iff.mp hlen
      obtain ⟨rest, hrest⟩ := hfront
      obtain rfl : c = b := (List.cons.inj hrest).1
      simp [hb] at hspaces

theorem trimTokens_ascii (hs : ∀ b ∈ s, isAscii b = true) :
    trimTokens whiteSpace s = trim isSpaceByte s := by
  have hfront : ∀ b, isSpaceByte b = true → [b] ∈ whiteSpace := forall_byte (by decide +kernel)
  have hback : ∀ b, isSpaceByte b = true → [b] ∈ whiteSpace.map List.reverse :=
    fun b hb => mem_map_of_mem (f := List.reverse) (hfront b hb)
  unfold trimTokens trim
  rw [dropTokens_ascii whiteSpace_separate.front hfront (by decide) hs,
    dropTokens_ascii whiteSpace_separate.back hback (by decide)]
  intro b hb
  exact hs b ((dropWhile_sublist _).subset (mem_reverse.mp hb))

/-- A library whose `trimSpace` drops the white space of Unicode and whose lower case works
character by character: it keeps what is a dot or white space apart from the rest. -/
structure LawfulUnicode extends Unicode where
  trimSpace_eq : ∀ s, trimSpace s = trimTokens whiteSpace s
  lower_lower : ∀ s, toUnicode.lower (toUnicode.lower s) = toUnicode.lower s
  lower_ne_nil : ∀ s, s ≠ [] → toUnicode.lower s ≠ []
  lower_append_dot : ∀ s, toUnicode.lower (s ++ [46]) = toUnicode.lower s ++ [46]
  dot_of_lower : ∀ s, [46] <:+ toUnicode.lower s → [46] <:+ s
  lower_clean : ∀ s, Clean whiteSpace s → Clean whiteSpace (toUnicode.lower s)

theorem LawfulUnicode.strip_padded (u : LawfulUnicode) {l t r : List UInt8}
    (hl : Blank whiteSpace l) (ht : Clean whiteSpace t) (hr : Blank whiteSpace r) :
    u.strip (l ++ t ++ r) = t := by
  have hstrip : ∀ s, u.strip s = trimTokens whiteSpace s := by
    intro s
    unfold Unicode.strip
    split
    · rename_i hascii
      exact (trimTokens_ascii (all_eq_true.mp hascii)).symm
    · exact u.trimSpace_eq s
  rw [hstrip, trimTokens_padded whiteSpace_separate hl ht hr]

theorem lowerByte_of_not_plain : ∀ b, isPlainByte (lowerByte b) = false → lowerByte b = b :=
  forall_byte (by decide +kernel)

theorem map_lowerByte_eq_token {w : List UInt8} (hw : w ∈ whiteSpace) (h : s.map lowerByte = w) :
    s = w := by
  have hsame : s.map lowerByte = s.map id := by
    apply map_congr_left
    intro b hb
    apply lowerByte_of_not_plain
    by_contra hplain
    exact not_mem_whiteSpace (Bool.not_eq_false _ ▸ hplain) w hw (h ▸ mem_map_of_mem hb)
  rw [← h, hsame, map_id]

/-- The library that knows no letters outside ASCII. -/
def asciiLetters : LawfulUnicode where
  toLower := List.map lowerByte
  trimSpace := trimTokens whiteSpace
  trimSpace_eq s := rfl
  lower_lower s := by simp [Unicode.lower, lowerByte_idem]
  lower_ne_nil s hs := by simpa [Unicode.lower] using hs
  lower_append_dot s := by
    simp only [Unicode.lower, ite_self, map_append]
    rfl
  dot_of_lower s h := by
    simp only [Unicode.lower, ite_self] at h
    have hsuffix := singleton_isSuffixOf_map (lowerByte_eq_iff (x := 46) (by decide)) s
    rw [← List.isSuffixOf_iff_suffix, hsuffix, List.isSuffixOf_iff_suffix] at h
    exact h
  lower_clean s hs := by
    simp only [Unicode.lower, ite_self]
    intro w hw
    constructor
    · intro hfront
      obtain ⟨t, ht, heq⟩ := prefix_map_iff.mp hfront
      exact (hs w hw).1 (map_lowerByte_eq_token hw heq.symm ▸ ht)
    · intro hback
      obtain ⟨t, ht, heq⟩ := suffix_map_iff.mp hback
      exact (hs w hw).2 (map_lowerByte_eq_token hw heq.symm ▸ ht)

end Bytes
