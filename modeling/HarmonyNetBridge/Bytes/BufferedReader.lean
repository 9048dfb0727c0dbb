import Mathlib.Data.List.Basic

/-! A reader with a buffer, over a source that gives its elements in portions of its own choice. -/
namespace Bytes
open List
variable {α : Type*}

/-- What the reads of a source return one after another if they have room for it. When the portions
are used up every read fails. -/
structure Source (α : Type*) where
  portions : List (List α)
  nonempty : ∀ portion ∈ portions, portion ≠ []

namespace Source

def bytes (s : Source α) : List α := s.portions.flatten

/-- A read with room for `n` elements; what does not fit is left for the next one. -/
def read (n : ℕ) : Source α → Option (List α × Source α)
  | ⟨[], _⟩ => none
  | ⟨portion :: portions, h⟩ =>
    if hfits : portion.length ≤ n then
      some (portion, ⟨portions, fun p hp => h p (mem_cons_of_mem _ hp)⟩)
    else
      some (portion.take n, ⟨portion.drop n :: portions, by
        intro p hp
        rcases mem_cons.mp hp with rfl | hp
        · exact mt drop_eq_nil_iff.mp hfits
        · exact h p (mem_cons_of_mem _ hp)⟩)

variable {s t : Source α} {n : ℕ} {front : List α}

theorem read_append (h : s.read n = some (front, t)) : front ++ t.bytes = s.bytes := by
  obtain ⟨_ | ⟨portion, portions⟩, hs⟩ := s
  · cases h
  · simp only [read] at h
    split_ifs at h
    · cases h
      rfl
    · cases h
      rw [bytes, bytes, flatten_cons, flatten_cons, ← append_assoc,
        take_append_drop]

theorem read_nonempty (h : s.read n = some (front, t)) (hn : 0 < n) :
    front ≠ [] ∧ front.length ≤ n := by
  obtain ⟨_ | ⟨portion, portions⟩, hs⟩ := s
  · cases h
  · have hportion := length_pos_iff.mpr (hs portion mem_cons_self)
    simp only [read] at h
    split_ifs at h with hfits
    · cases h
      exact ⟨hs _ mem_cons_self, hfits⟩
    · cases h
      rw [← length_pos_iff, length_take]
      omega

theorem exists_read (h : s.bytes ≠ []) (n : ℕ) : ∃ front t, s.read n = some (front, t) := by
  obtain ⟨_ | ⟨portion, portions⟩, hs⟩ := s
  · exact absurd rfl h
  · simp only [read]
    split_ifs
    · exact ⟨_, _, rfl⟩
    · exact ⟨_, _, rfl⟩

end Source

/-- A reader whose buffer has room for `size` elements. -/
structure BufferedReader (α : Type*) (size : ℕ) where
  buffer : List α := []
  source : Source α

namespace BufferedReader
variable {size : ℕ} {r t : BufferedReader α size} {n : ℕ} {b : α} {bs front : List α}

/-- What the reader has not given out yet. -/
def rest (r : BufferedReader α size) : List α := r.buffer ++ r.source.bytes

/-- The next element; an empty buffer is filled by one read of the source. -/
def readByte (r : BufferedReader α size) : Option (α × BufferedReader α size) :=
  match r.buffer with
  | b :: buffer => some (b, { r with buffer })
  | [] =>
    match r.source.read size with
    | some (b :: buffer, source) => some (b, { buffer, source })
    | _ => none

/-- A read with room for `n` elements. An empty buffer is passed over if there is room for as many
elements as it holds. -/
def read (n : ℕ) (r : BufferedReader α size) : Option (List α × BufferedReader α size) :=
  if n = 0 then some ([], r)
  else
    match r.buffer with
    | [] =>
      if size ≤ n then
        (r.source.read n).map fun (front, source) => (front, { source })
      else
        (r.source.read size).map fun (front, source) => (front.take n, { buffer := front.drop n, source })
    | buffer => some (buffer.take n, { r with buffer := buffer.drop n })

/-- What reads of these sizes give together, up to the first that fails. -/
def reads (r : BufferedReader α size) : List ℕ → List α × BufferedReader α size
  | [] => ([], r)
  | n :: sizes =>
    match r.read n with
    | none => ([], r)
    | some (front, t) => ((front ++ (t.reads sizes).1), (t.reads sizes).2)

theorem readByte_cons (h : r.readByte = some (b, t)) : b :: t.rest = r.rest := by
  unfold readByte at h
  unfold rest
  split at h
  · rename_i c buffer hbuffer
    cases h
    rw [hbuffer]
    rfl
  · rename_i hbuffer
    split at h
    · rename_i c buffer source hread
      cases h
      rw [hbuffer, nil_append, ← Source.read_append hread]
      rfl
    · cases h

theorem readByte_of_cons (hsize : 0 < size) (h : r.rest = b :: bs) :
    ∃ t : BufferedReader α size, r.readByte = some (b, t) ∧ t.rest = bs := by
  unfold rest at h
  unfold readByte
  cases hbuffer : r.buffer with
  | cons c buffer =>
    rw [hbuffer, cons_append, List.cons.injEq] at h
    obtain ⟨rfl, rfl⟩ := h
    exact ⟨_, rfl, rfl⟩
  | nil =>
    rw [hbuffer, nil_append] at h
    obtain ⟨front, source, hread⟩ := Source.exists_read (s := r.source) (by simp [h]) size
    have happend := Source.read_append hread
    cases front with
    | nil => exact absurd rfl (Source.read_nonempty hread hsize).1
    | cons c front =>
      rw [h, cons_append, List.cons.injEq] at happend
      obtain ⟨rfl, rfl⟩ := happend
      rw [hread]
      exact ⟨_, rfl, rfl⟩

theorem read_append (h : r.read n = some (front, t)) : front ++ t.rest = r.rest := by
  unfold read at h
  split at h
  · cases h
    rfl
  · unfold rest
    split at h
    · rename_i hbuffer
      rw [hbuffer, nil_append]
      split_ifs at h
      · obtain ⟨⟨bytes, source⟩, hread, heq⟩ := Option.map_eq_some_iff.mp h
        cases heq
        exact Source.read_append hread
      · obtain ⟨⟨bytes, source⟩, hread, heq⟩ := Option.map_eq_some_iff.mp h
        cases heq
        rw [← append_assoc, take_append_drop]
        exact Source.read_append hread
    · cases h
      rw [← append_assoc, take_append_drop]

theorem exists_read (hsize : 0 < size) (hn : 0 < n) (h : r.rest ≠ []) :
    ∃ front t, r.read n = some (front, t) ∧ front ≠ [] := by
  unfold read
  rw [if_neg (Nat.ne_of_gt hn)]
  split
  · rename_i hbuffer
    rw [rest, hbuffer, nil_append] at h
    split_ifs
    · obtain ⟨front, source, hread⟩ := Source.exists_read h n
      rw [hread]
      exact ⟨_, _, rfl, (Source.read_nonempty hread hn).1⟩
    · obtain ⟨front, source, hread⟩ := Source.exists_read h size
      have hfront := length_pos_iff.mpr (Source.read_nonempty hread hsize).1
      rw [hread]
      refine ⟨_, _, rfl, ?_⟩
      rw [← length_pos_iff, length_take]
      omega
  · rename_i hbuffer
    have hpos := length_pos_iff.mpr hbuffer
    refine ⟨_, _, rfl, ?_⟩
    rw [← length_pos_iff, length_take]
    omega

/-- Nothing is lost or repeated. -/
theorem reads_append (r : BufferedReader α size) (sizes : List ℕ) :
    (r.reads sizes).1 ++ (r.reads sizes).2.rest = r.rest := by
  induction sizes generalizing r with
  | nil => rfl
  | cons n sizes ih =>
    unfold reads
    split
    · rfl
    · rename_i front t hread
      rw [append_assoc, ih t, read_append hread]

theorem reads_all (hsize : 0 < size) (r : BufferedReader α size) {sizes : List ℕ}
    (hpos : ∀ n ∈ sizes, 0 < n) (hmany : r.rest.length ≤ sizes.length) :
    (r.reads sizes).1 = r.rest := by
  induction sizes generalizing r with
  | nil => exact (length_eq_zero_iff.mp (Nat.le_zero.mp hmany)).symm
  | cons n sizes ih =>
    by_cases hnil : r.rest = []
    · have happend := r.reads_append (n :: sizes)
      rw [hnil] at happend ⊢
      exact (append_eq_nil_iff.mp happend).1
    · obtain ⟨front, t, hread, hfront⟩ := exists_read hsize (hpos n mem_cons_self) hnil
      have happend := read_append hread
      have hlen := congrArg List.length happend
      have hfront := length_pos_iff.mpr hfront
      rw [length_append] at hlen
      rw [length_cons] at hmany
      have hall := ih t (fun m hm => hpos m (mem_cons_of_mem n hm)) (by omega)
      rw [reads, hread]
      dsimp only
      rw [hall, happend]

end BufferedReader
end Bytes
