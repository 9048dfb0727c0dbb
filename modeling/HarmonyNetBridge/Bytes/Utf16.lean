import Mathlib.Data.List.Induction
import Mathlib.Tactic.Common

/-! UTF-16 code units: surrogates with and without a partner, and the units of a character. -/
namespace Bytes.Utf16

def isHigh (u : UInt16) : Bool := 0xD800 ≤ u && u ≤ 0xDBFF

def isLow (u : UInt16) : Bool := 0xDC00 ≤ u && u ≤ 0xDFFF

/-- A surrogate that makes no pair with its neighbour. -/
def unpaired (left : Option UInt16) (u : UInt16) (right : Option UInt16) : Bool :=
  (isHigh u && !right.any isLow) || (isLow u && !left.any isHigh)

def WellFormed (s : List UInt16) : Prop :=
  ∀ before u after, s = before ++ u :: after →
    unpaired before.getLast? u after.head? = false

/-- Puts U+FFFD in the place of each unpaired surrogate of a text that follows `left`. -/
def repairFrom (left : Option UInt16) : List UInt16 → List UInt16
  | [] => []
  | u :: rest => (if unpaired left u rest.head? then 0xFFFD else u) :: repairFrom (some u) rest

def repair (s : List UInt16) : List UInt16 := repairFrom none s

/-- The code units of a character. -/
def units (c : Char) : List UInt16 :=
  if c.toNat ≤ 0xFFFF then [.ofNat c.toNat]
  else [.ofNat (0xD800 + (c.toNat - 0x10000) / 1024), .ofNat (0xDC00 + (c.toNat - 0x10000) % 1024)]

theorem isHigh_iff (u : UInt16) : isHigh u = true ↔ 0xD800 ≤ u.toNat ∧ u.toNat ≤ 0xDBFF := by
  simp [isHigh, UInt16.le_iff_toNat_le]

theorem isLow_iff (u : UInt16) : isLow u = true ↔ 0xDC00 ≤ u.toNat ∧ u.toNat ≤ 0xDFFF := by
  simp [isLow, UInt16.le_iff_toNat_le]

variable {u : UInt16}

theorem high_range : 0xD800 ≤ u ∧ u ≤ 0xDBFF ↔ isHigh u = true := by
  simp [isHigh]

theorem low_range : 0xDC00 ≤ u ∧ u ≤ 0xDFFF ↔ isLow u = true := by
  simp [isLow]

theorem surrogate_range : 0xD800 ≤ u ∧ u ≤ 0xDFFF ↔ isHigh u = true ∨ isLow u = true := by
  rw [isHigh_iff, isLow_iff, UInt16.le_iff_toNat_le, UInt16.le_iff_toNat_le]
  simp only [UInt16.reduceToNat]
  omega

theorem repair_of_wellFormed {s : List UInt16} (h : WellFormed s) : repair s = s := by
  have key : ∀ (rest before : List UInt16), WellFormed (before ++ rest) →
      repairFrom before.getLast? rest = rest := by
    intro rest
    induction rest with
    | nil =>
      intro before _
      rfl
    | cons u rest ih =>
      intro before hwell
      have hpaired := hwell before u rest rfl
      have hrest := ih (before ++ [u]) (by simpa using hwell)
      rw [List.getLast?_append, List.getLast?_singleton, Option.some_or] at hrest
      rw [repairFrom, hpaired, hrest]
      rfl
  exact key s [] h

theorem exists_char {n : ℕ} (h : n < 0xD800 ∨ (0xDFFF < n ∧ n < 0x110000)) :
    ∃ c : Char, c.toNat = n :=
  ⟨Char.ofNatAux n h, rfl⟩

theorem not_isLow_of_isHigh (h : isHigh u = true) : isLow u = false := by
  rw [isHigh_iff] at h
  rw [Bool.eq_false_iff, ne_eq, isLow_iff]
  omega

theorem not_isHigh_of_isLow (h : isLow u = true) : isHigh u = false := by
  rw [isLow_iff] at h
  rw [Bool.eq_false_iff, ne_eq, isHigh_iff]
  omega

section repairFrom
variable {left : Option UInt16} {u v : UInt16} {rest : List UInt16}

/-- The first unit does not belong to a pair that began before. -/
def Apart (left : Option UInt16) (s : List UInt16) : Prop :=
  left.any isHigh = true → s.head?.any isLow = false

theorem apart_of_not_isHigh (h : isHigh u = false) (s : List UInt16) : Apart (some u) s := by
  intro hleft
  simp [h] at hleft

theorem repairFrom_pair (hu : isHigh u = true) (hv : isLow v = true) :
    repairFrom left (u :: v :: rest) = u :: v :: repairFrom (some v) rest := by
  simp [repairFrom, unpaired, hu, hv, not_isHigh_of_isLow hv, not_isLow_of_isHigh hu]

theorem repairFrom_high (hu : isHigh u = true) (hright : rest.head?.any isLow = false) :
    repairFrom left (u :: rest) = 0xFFFD :: repairFrom (some u) rest := by
  simp [repairFrom, unpaired, hu, hright]

theorem repairFrom_low (hu : isLow u = true) (hleft : Apart left (u :: rest)) :
    repairFrom left (u :: rest) = 0xFFFD :: repairFrom (some u) rest := by
  have hleft' : left.any isHigh = false := by
    by_contra h
    have hlow := hleft (Bool.not_eq_false _ ▸ h)
    simp [hu] at hlow
  simp [repairFrom, unpaired, hu, hleft']

theorem repairFrom_plain (hhigh : isHigh u = false) (hlow : isLow u = false) :
    repairFrom left (u :: rest) = u :: repairFrom (some u) rest := by
  simp [repairFrom, unpaired, hhigh, hlow]

end repairFrom

/-- Induction along a scan of the text, which takes a pair as a whole. -/
theorem scanInduction {motive : List UInt16 → Prop} (nil : motive [])
    (pair : ∀ u v rest, isHigh u = true → isLow v = true → motive rest → motive (u :: v :: rest))
    (high : ∀ u rest, isHigh u = true → rest.head?.any isLow = false → motive rest →
      motive (u :: rest))
    (low : ∀ u rest, isLow u = true → motive rest → motive (u :: rest))
    (plain : ∀ u rest, isHigh u = false → isLow u = false → motive rest → motive (u :: rest)) :
    ∀ s, motive s := by
  intro s
  induction s using List.twoStepInduction with
  | nil => exact nil
  | singleton u =>
    cases hhigh : isHigh u with
    | true => exact high u [] hhigh rfl nil
    | false =>
      cases hlow : isLow u with
      | true => exact low u [] hlow nil
      | false => exact plain u [] hhigh hlow nil
  | cons_cons u v rest ih ih' =>
    cases hhigh : isHigh u with
    | true =>
      cases hv : isLow v with
      | true => exact pair u v rest hhigh hv ih
      | false => exact high u (v :: rest) hhigh (by simpa using hv) (ih' v)
    | false =>
      cases hlow : isLow u with
      | true => exact low u (v :: rest) hlow (ih' v)
      | false => exact plain u (v :: rest) hhigh hlow (ih' v)

theorem units_of_le {c : Char} (h : c.toNat ≤ 0xFFFF) : units c = [.ofNat c.toNat] := if_pos h

theorem units_of_gt {c : Char} (h : 0xFFFF < c.toNat) : units c =
    [.ofNat (0xD800 + (c.toNat - 0x10000) / 1024), .ofNat (0xDC00 + (c.toNat - 0x10000) % 1024)] :=
  if_neg (Nat.not_le_of_gt h)

end Bytes.Utf16
