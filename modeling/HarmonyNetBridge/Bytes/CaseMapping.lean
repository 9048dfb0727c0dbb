import HarmonyNetBridge.Bytes.Text

/-! Lower case and simple case folding of UTF-8 texts, rune by rune. The letters below U+0180 are
known; the tables for the others are a parameter. -/
namespace Bytes
open List

/-- The mappings of the letters from U+0180 on. -/
structure CaseTables where
  lower : Char → Char
  fold : Char → Char

/-- The simple lower case of a code point below U+0180. -/
def latinLower (n : ℕ) : ℕ :=
  if (65 ≤ n ∧ n ≤ 90) ∨ (0xC0 ≤ n ∧ n ≤ 0xDE ∧ n ≠ 0xD7) then n + 32
  else if ((0x100 ≤ n ∧ n ≤ 0x12F) ∨ (0x132 ≤ n ∧ n ≤ 0x137) ∨ (0x14A ≤ n ∧ n ≤ 0x177)) ∧
      n % 2 = 0 then n + 1
  else if ((0x139 ≤ n ∧ n ≤ 0x148) ∨ (0x179 ≤ n ∧ n ≤ 0x17E)) ∧ n % 2 = 1 then n + 1
  else if n = 0x130 then 0x69
  else if n = 0x178 then 0xFF
  else n

/-- Its simple case folding. The micro sign folds with the Greek letter and the long s with s; the
capital I with a dot folds with no other letter. -/
def latinFold (n : ℕ) : ℕ :=
  if n = 0xB5 then 0x3BC
  else if n = 0x130 then 0x130
  else if n = 0x17F then 0x73
  else latinLower n

def runeError : Char := Char.ofNat 0xFFFD

/-- The rune at the front of a text and the number of bytes that it has beside the first one. A byte
that does not begin a rune stands for an error. -/
def decodeRune (first : UInt8) (rest : List UInt8) : Char × ℕ :=
  if first < 0x80 then (Char.ofNat first.toNat, 0)
  else
    let (lead, count, minimum) :=
      if first < 0xE0 then (first.toNat - 0xC0, 1, 0x80)
      else if first < 0xF0 then (first.toNat - 0xE0, 2, 0x800)
      else (first.toNat - 0xF0, 3, 0x10000)
    let bytes := rest.take count
    let n := bytes.foldl (fun n b => n * 64 + (b.toNat - 0x80)) lead
    if 0xC2 ≤ first ∧ first ≤ 0xF4 ∧ bytes.length = count ∧
        bytes.all (fun b => 0x80 ≤ b && b ≤ 0xBF) ∧ minimum ≤ n ∧ n.isValidChar then
      (Char.ofNat n, count)
    else (runeError, 0)

def runes : List UInt8 → List Char
  | [] => []
  | first :: rest => (decodeRune first rest).1 :: runes (rest.drop (decodeRune first rest).2)
termination_by s => s.length
decreasing_by
  rw [length_drop, length_cons]
  omega

def encodeRunes (cs : List Char) : List UInt8 := cs.flatMap String.utf8EncodeChar

namespace CaseTables
variable (tables : CaseTables)

def toLower (c : Char) : Char :=
  if c.toNat < 0x180 then Char.ofNat (latinLower c.toNat) else tables.lower c

def toFold (c : Char) : Char :=
  if c.toNat < 0x180 then Char.ofNat (latinFold c.toNat) else tables.fold c

def lowerString (s : List UInt8) : List UInt8 := encodeRunes ((runes s).map tables.toLower)

def equalFold (s t : List UInt8) : Bool := (runes s).map tables.toFold == (runes t).map tables.toFold

end CaseTables

theorem runes_ascii {s : List UInt8} (h : ∀ b ∈ s, isAscii b = true) :
    runes s = s.map fun b => Char.ofNat b.toNat := by
  induction s with
  | nil => rw [runes, map_nil]
  | cons b s ih =>
    rw [forall_mem_cons] at h
    have hb : b < 0x80 := of_decide_eq_true h.1
    have hdecode : decodeRune b s = (Char.ofNat b.toNat, 0) := if_pos hb
    rw [runes, hdecode, drop_zero, ih h.2, map_cons]

theorem lowerString_ascii (tables : CaseTables) {s : List UInt8} (h : ∀ b ∈ s, isAscii b = true) :
    tables.lowerString s = s.map lowerByte := by
  have hbyte : ∀ b : UInt8, isAscii b = true →
      (Char.ofNat b.toNat).toNat < 0x180 ∧
      String.utf8EncodeChar (Char.ofNat (latinLower (Char.ofNat b.toNat).toNat)) = [lowerByte b] :=
    forall_byte (by decide +kernel)
  unfold CaseTables.lowerString
  rw [runes_ascii h]
  induction s with
  | nil => rfl
  | cons b s ih =>
    rw [forall_mem_cons] at h
    obtain ⟨hlatin, hencode⟩ := hbyte b h.1
    have hlower : tables.toLower (Char.ofNat b.toNat) =
        Char.ofNat (latinLower (Char.ofNat b.toNat).toNat) := if_pos hlatin
    have hrest := ih h.2
    unfold encodeRunes at hrest ⊢
    rw [map_cons, map_cons, flatMap_cons, hlower, hencode, hrest, map_cons,
      singleton_append]

end Bytes
