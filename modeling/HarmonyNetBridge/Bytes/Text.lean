import Mathlib.Data.List.Basic
import Mathlib.Data.List.DropRight
import Mathlib.Tactic.Common

/-! Byte strings: ASCII case and white space, and texts that are cut at a separator. -/
namespace Bytes
open List

/-- The bytes of a text of ASCII characters. -/
def ascii (text : String) : List UInt8 := text.toList.map fun c => UInt8.ofNat c.toNat

def dot : UInt8 := 46
def colon : UInt8 := 58
def percent : UInt8 := 37

/-- `s[low:high]`; `none` is the panic of a slice out of range. -/
def slice (s : List UInt8) (low high : ℕ) : Option (List UInt8) :=
  if low ≤ high ∧ high ≤ s.length then some ((s.drop low).take (high - low)) else none

theorem slice_eq {s : List UInt8} {low size : ℕ} (h : low + size ≤ s.length) :
    slice s low (low + size) = some ((s.drop low).take size) := by
  rw [slice, if_pos ⟨by omega, h⟩, Nat.add_sub_cancel_left]

def isAscii (b : UInt8) : Bool := b < 0x80

def lowerByte (b : UInt8) : UInt8 := if 65 ≤ b ∧ b ≤ 90 then b + 32 else b

def isSpaceByte (b : UInt8) : Bool := (9 ≤ b && b ≤ 13) || b == 32

/-- How a library treats the strings that have a byte outside ASCII. -/
structure Unicode where
  toLower : List UInt8 → List UInt8
  trimSpace : List UInt8 → List UInt8

theorem forall_byte {p : UInt8 → Prop} (h : ∀ n < 256, p (UInt8.ofNat n)) (b : UInt8) : p b := by
  have hb := h b.toNat b.toNat_lt
  rwa [UInt8.ofNat_toNat] at hb

theorem lowerByte_idem : ∀ b, lowerByte (lowerByte b) = lowerByte b :=
  forall_byte (by decide +kernel)

theorem lowerByte_eq_iff {x : UInt8} (hx : x < 65) (b : UInt8) : lowerByte b = x ↔ b = x := by
  unfold lowerByte
  split
  · rename_i hletter
    rw [UInt8.le_iff_toNat_le, UInt8.le_iff_toNat_le] at hletter
    rw [UInt8.lt_iff_toNat_lt] at hx
    simp only [← UInt8.toNat_inj, UInt8.toNat_add, UInt8.reduceToNat] at hletter hx ⊢
    omega
  · rfl

section trim
variable {α : Type*} (p : α → Bool)

/-- Drops the elements with `p` from both ends. -/
def trim (xs : List α) : List α := ((xs.dropWhile p).reverse.dropWhile p).reverse

theorem length_trim_le (xs : List α) : (trim p xs).length ≤ xs.length := by
  have hfront := (dropWhile_sublist (l := xs) p).length_le
  have hback := (dropWhile_sublist (l := (xs.dropWhile p).reverse) p).length_le
  rw [length_reverse] at hback
  rw [trim, length_reverse]
  omega

theorem trim_of_forall {xs : List α} (h : ∀ x ∈ xs, p x = false) : trim p xs = xs := by
  have hkeep : ∀ ys : List α, (∀ y ∈ ys, p y = false) → ys.dropWhile p = ys := by
    intro ys hys
    cases ys with
    | nil => rfl
    | cons y ys => exact dropWhile_cons_of_neg (by simp [hys y (by simp)])
  unfold trim
  rw [hkeep xs h, hkeep xs.reverse fun y hy => h y (mem_reverse.mp hy), reverse_reverse]

theorem trim_trim (xs : List α) : trim p (trim p xs) = trim p xs := by
  have hfront : (trim p xs).dropWhile p = trim p xs := by
    apply dropWhile_eq_self_iff.mpr
    intro hpos
    have hinit : trim p xs <+: xs.dropWhile p := List.rdropWhile_prefix p _
    rw [hinit.getElem hpos]
    exact dropWhile_get_zero_not p xs (Nat.lt_of_lt_of_le hpos hinit.length_le)
  have hback : (trim p xs).rdropWhile p = trim p xs := rdropWhile_idempotent p _
  calc trim p (trim p xs) = ((trim p xs).dropWhile p).rdropWhile p := rfl
    _ = trim p xs := by rw [hfront, hback]

end trim

def trimSuffix (s suffix : List UInt8) : List UInt8 :=
  if suffix.isSuffixOf s then s.take (s.length - suffix.length) else s

namespace Unicode
variable (u : Unicode)

def lower (s : List UInt8) : List UInt8 := if s.all isAscii then s.map lowerByte else u.toLower s

def strip (s : List UInt8) : List UInt8 :=
  if s.all isAscii then trim isSpaceByte s else u.trimSpace s

variable {u}

theorem lower_of_ascii {s : List UInt8} (h : ∀ b ∈ s, isAscii b) : u.lower s = s.map lowerByte :=
  if_pos (all_eq_true.mpr h)

theorem strip_of_ascii {s : List UInt8} (h : ∀ b ∈ s, isAscii b)
    (hs : ∀ b ∈ s, isSpaceByte b = false) : u.strip s = s := by
  unfold strip
  rw [if_pos (all_eq_true.mpr h), trim_of_forall isSpaceByte hs]

end Unicode

section separator
variable {α : Type*} {x : α}

variable {as bs : List (List α)} {β : Type*}

theorem intercalate_append (ha : as ≠ []) (hb : bs ≠ []) :
    [x].intercalate (as ++ bs) = [x].intercalate as ++ x :: [x].intercalate bs := by
  induction as with
  | nil => exact absurd rfl ha
  | cons a as ih =>
    cases as with
    | nil =>
      cases bs with
      | nil => exact absurd rfl hb
      | cons b bs => simp [intercalate_cons_cons]
    | cons a' as =>
      have hrest := ih (cons_ne_nil a' as)
      rw [cons_append, cons_append, intercalate_cons_cons, ← cons_append, hrest,
        intercalate_cons_cons]
      simp

/-- Neighbouring fields are also next to each other in the text. -/
theorem infix_intercalate (ha : as ≠ []) (h : as <:+: bs) :
    [x].intercalate as <:+: [x].intercalate bs := by
  obtain ⟨front, back, rfl⟩ := h
  have hfront : [x].intercalate as <:+ [x].intercalate (front ++ as) := by
    cases front with
    | nil => exact suffix_refl _
    | cons field front =>
      rw [intercalate_append (cons_ne_nil field front) ha, append_cons]
      exact suffix_append _ _
  have hback : [x].intercalate (front ++ as) <+: [x].intercalate (front ++ as ++ back) := by
    cases back with
    | nil =>
      rewrite [append_nil]
      exact prefix_refl _
    | cons field back =>
      rw [intercalate_append (append_ne_nil_of_right_ne_nil front ha) (cons_ne_nil field back)]
      exact prefix_append _ _
  exact hfront.isInfix.trans hback.isInfix

theorem mem_intercalate {fields : List (List α)} {a : α} (h : a ∈ [x].intercalate fields) :
    a = x ∨ ∃ field ∈ fields, a ∈ field := by
  induction fields with
  | nil => simp at h
  | cons field fields ih =>
    cases fields with
    | nil => exact .inr ⟨field, by simp, by simpa using h⟩
    | cons next fields =>
      rw [intercalate_cons_cons, mem_append, mem_append, mem_singleton] at h
      rcases h with (hfield | hx) | hrest
      · exact .inr ⟨field, by simp, hfield⟩
      · exact .inl hx
      · rcases ih hrest with hx | ⟨other, hother, ha⟩
        · exact .inl hx
        · exact .inr ⟨other, mem_cons_of_mem field hother, ha⟩

theorem map_intercalate (f : α → β) (x : α) (fields : List (List α)) :
    ([x].intercalate fields).map f = [f x].intercalate (fields.map (List.map f)) := by
  induction fields with
  | nil => rfl
  | cons field fields ih =>
    cases fields with
    | nil => simp
    | cons next fields =>
      rw [intercalate_cons_cons, map_append, map_append, ih]
      simp only [map_cons, map_nil, intercalate_cons_cons]

variable [BEq α] [LawfulBEq α]

/-- Fields without the separator at the end of a joined text are found again. -/
theorem splitOn_intercalate_append (ha : as ≠ []) (hb : bs ≠ []) (hx : ∀ b ∈ bs, x ∉ b) :
    ([x].intercalate (as ++ bs)).splitOn x = ([x].intercalate as).splitOn x ++ bs := by
  rw [intercalate_append ha hb, splitOn_append_cons_self, splitOn_intercalate x hx hb]

/-- A text that ends with another one, at a separator, ends with its fields. -/
theorem splitOn_suffix {text ending : List α} (h : text = ending ∨ x :: ending <:+ text) :
    ending.splitOn x <:+ text.splitOn x := by
  rcases h with rfl | ⟨front, rfl⟩
  · exact suffix_rfl
  · rw [splitOn_append_cons_self]
    exact suffix_append _ _

theorem mem_splitOn_of_mem {text : List α} {a : α} (x : α) (h : a ∈ text) :
    a = x ∨ ∃ field ∈ text.splitOn x, a ∈ field := by
  apply mem_intercalate
  rwa [intercalate_splitOn]

theorem not_mem_of_mem_splitOn {text field : List α} (h : field ∈ text.splitOn x) : x ∉ field := by
  induction text generalizing field with
  | nil => simp_all
  | cons a text ih =>
    rw [splitOn_cons_eq_if_modifyHead] at h
    split at h
    · rcases mem_cons.mp h with rfl | htail
      · simp
      · exact ih htail
    · rename_i hne
      obtain ⟨first, rest, hsplit⟩ := exists_cons_of_ne_nil (splitOn_ne_nil x text)
      rw [hsplit, modifyHead_cons] at h
      rcases mem_cons.mp h with rfl | htail
      · intro hmem
        rcases mem_cons.mp hmem with rfl | hmem
        · simp at hne
        · exact ih (by simp [hsplit]) hmem
      · exact ih (by simp [hsplit, htail])

/-- A map that keeps the separator apart from everything else maps the fields. -/
theorem splitOn_map [DecidableEq β] {f : α → β} {y : β} (hf : ∀ a, f a = y ↔ a = x)
    (text : List α) : (text.map f).splitOn y = (text.splitOn x).map (List.map f) := by
  induction text with
  | nil => simp
  | cons a text ih =>
    have hsame : (f a == y) = (a == x) := by
      rw [Bool.eq_iff_iff, beq_iff_eq, beq_iff_eq]
      exact hf a
    rw [map_cons, splitOn_cons_eq_if_modifyHead, splitOn_cons_eq_if_modifyHead, hsame,
      ih]
    split
    · rfl
    · cases text.splitOn x <;> rfl

end separator

variable {f : UInt8 → UInt8} {x : UInt8}

theorem singleton_isSuffixOf_map (hf : ∀ a, f a = x ↔ a = x) (s : List UInt8) :
    [x].isSuffixOf (s.map f) = [x].isSuffixOf s := by
  rw [Bool.eq_iff_iff, List.isSuffixOf_iff_suffix, List.isSuffixOf_iff_suffix]
  rcases eq_nil_or_concat s with rfl | ⟨init, last, rfl⟩
  · rfl
  · simp only [concat_eq_append, map_append, map_cons, map_nil]
    constructor
    · rintro ⟨front, hfront⟩
      have hlast := singleton_inj.mp (append_inj' hfront rfl).2
      rw [(hf last).mp hlast.symm]
      exact suffix_append init [x]
    · rintro ⟨front, hfront⟩
      have hlast := singleton_inj.mp (append_inj' hfront rfl).2
      rw [(hf last).mpr hlast.symm]
      exact suffix_append _ [x]

theorem trimSuffix_map (hf : ∀ a, f a = x ↔ a = x) (s : List UInt8) :
    trimSuffix (s.map f) [x] = (trimSuffix s [x]).map f := by
  unfold trimSuffix
  rw [singleton_isSuffixOf_map hf, length_map]
  split
  · rw [map_take]
  · rfl

theorem mem_trimSuffix_or {s : List UInt8} {b : UInt8} (h : b ∈ s) :
    b = x ∨ b ∈ trimSuffix s [x] := by
  unfold trimSuffix
  split
  · rename_i hsuffix
    obtain ⟨front, rfl⟩ := List.isSuffixOf_iff_suffix.mp hsuffix
    rcases mem_append.mp h with hfront | hlast
    · exact .inr (by simpa using hfront)
    · exact .inl (mem_singleton.mp hlast)
  · exact .inr h

/-- A text cut at the line ends CR LF. -/
def crlfLines : List UInt8 → List (List UInt8)
  | [] => [[]]
  | 13 :: 10 :: rest => [] :: crlfLines rest
  | b :: rest => (crlfLines rest).modifyHead (b :: ·)

theorem crlfLines_append {line : List UInt8} (h : 13 ∉ line) (rest : List UInt8) :
    crlfLines (line ++ 13 :: 10 :: rest) = line :: crlfLines rest := by
  induction line with
  | nil => rfl
  | cons b line ih =>
    have hb : b ≠ 13 := fun heq => h (by simp [heq])
    have hline := ih fun hmem => h (mem_cons_of_mem b hmem)
    rw [cons_append, crlfLines, hline]
    · rfl
    · intro rest' hcr
      exact absurd hcr hb

end Bytes
