import HarmonyNetBridge.Bytes.BigEndian

/-! Data behind its own length, and sequences of entries that have a tag in front of such data. -/
namespace Bytes
open List

/-- The data with its length in front, in `width` bytes. -/
def vector (width : ℕ) (data : List UInt8) : List UInt8 := bigEndian width data.length ++ data

@[simp] theorem length_vector (width : ℕ) (data : List UInt8) :
    (vector width data).length = width + data.length := by
  simp [vector]

/-- Reads a length of `width` bytes and the data behind it; returns the data with what is left. -/
def takeVector (width : ℕ) (bs : List UInt8) : Option (List UInt8 × List UInt8) :=
  let size := value (bs.take width)
  if bs.length < width + size then none
  else some ((bs.drop width).take size, bs.drop (width + size))

variable {width offset : ℕ} {bs : List UInt8}

theorem takeVector_vector {data : List UInt8} (h : data.length < 256 ^ width) (rest : List UInt8) :
    takeVector width (vector width data ++ rest) = some (data, rest) := by
  have hlen : (bigEndian width data.length).length = width := length_bigEndian _ _
  have hsize : value ((vector width data ++ rest).take width) = data.length := by
    rw [vector, append_assoc, take_left' hlen, value_bigEndian_of_lt h]
  have hdrop : (vector width data ++ rest).drop width = data ++ rest := by
    rw [vector, append_assoc, drop_left' hlen]
  have hlong : ¬(vector width data ++ rest).length < width + data.length := by
    rw [length_append, length_vector]
    omega
  unfold takeVector
  dsimp only
  rw [hsize, if_neg hlong, hdrop, ← drop_drop, hdrop, take_left, drop_left]

theorem takeVector_drop (width offset : ℕ) (bs : List UInt8) : takeVector width (bs.drop offset) =
      if bs.length - offset < width + value ((bs.drop offset).take width) then none
      else some ((bs.drop (offset + width)).take (value ((bs.drop offset).take width)),
        bs.drop (offset + width + value ((bs.drop offset).take width))) := by
  unfold takeVector
  dsimp only
  rw [length_drop, drop_drop, drop_drop, Nat.add_assoc]

theorem takeVector_of_short (h : bs.length < width) : takeVector width bs = none := by
  unfold takeVector
  dsimp only
  rw [if_pos (by omega)]

/-- What goes on with `k` bytes behind the data needs to look once only at what is left. -/
theorem takeVector_bind {β : Type*} {k : ℕ} {f : List UInt8 × List UInt8 → Option β}
    (hf : ∀ r, r.2.length < k → f r = none) (h : offset + width ≤ bs.length) :
    (takeVector width (bs.drop offset)).bind f =
      if offset + width + value ((bs.drop offset).take width) + k > bs.length then none
      else f ((bs.drop (offset + width)).take (value ((bs.drop offset).take width)),
        bs.drop (offset + width + value ((bs.drop offset).take width))) := by
  rw [takeVector_drop]
  by_cases hdata : bs.length - offset < width + value ((bs.drop offset).take width)
  · rw [if_pos hdata, if_pos (by omega)]
    rfl
  rw [if_neg hdata, Option.bind_some]
  by_cases hnext : offset + width + value ((bs.drop offset).take width) + k > bs.length
  · rw [if_pos hnext, hf]
    rw [length_drop]
    omega
  · rw [if_neg hnext]

theorem takeVector_eq_some_iff {data rest : List UInt8} : takeVector width bs = some (data, rest) ↔
      bs = vector width data ++ rest ∧ data.length < 256 ^ width := by
  constructor
  · intro h
    unfold takeVector at h
    dsimp only at h
    split at h
    · cases h
    rename_i hlong
    have hwidth : (bs.take width).length = width := length_take_of_le (by omega)
    simp only [Option.some.injEq, Prod.mk.injEq] at h
    obtain ⟨rfl, rfl⟩ := h
    have hsize : ((bs.drop width).take (value (bs.take width))).length = value (bs.take width) := by
      rw [length_take_of_le]
      rw [length_drop]
      omega
    have hbytes : bigEndian width (value (bs.take width)) = bs.take width := by
      have hback := bigEndian_value (bs.take width)
      rwa [hwidth] at hback
    rw [vector, hsize, hbytes]
    constructor
    · rw [append_assoc, ← drop_drop, take_append_drop, take_append_drop]
    · have hlt := value_lt (bs.take width)
      rwa [hwidth] at hlt
  · rintro ⟨rfl, h⟩
    exact takeVector_vector h rest

theorem takeVector_slice {last : ℕ} (hlast : last ≤ bs.length) (h : offset + width ≤ last) :
    takeVector width ((bs.take last).drop offset) =
      if value ((bs.drop offset).take width) > last - (offset + width) then none
      else some ((bs.drop (offset + width)).take (value ((bs.drop offset).take width)),
        (bs.take last).drop (offset + width + value ((bs.drop offset).take width))) := by
  have hfront : ((bs.take last).drop offset).take width = (bs.drop offset).take width := by
    rw [drop_take, take_take, Nat.min_eq_left (by omega)]
  rw [takeVector_drop, hfront, length_take_of_le hlast]
  by_cases hsize : value ((bs.drop offset).take width) > last - (offset + width)
  · rw [if_pos (by omega), if_pos hsize]
  · rw [if_neg (by omega), if_neg hsize, drop_take, take_take,
      Nat.min_eq_left (by omega)]

/-- A tag of a fixed width and the data behind it, whose length takes two bytes. -/
structure Entry (width : ℕ) where
  tag : List UInt8
  data : List UInt8
  tag_length : tag.length = width
  data_length : data.length < 256 ^ 2

section entries
variable {width : ℕ} {tag data bs : List UInt8}

def Entry.encode (e : Entry width) : List UInt8 := e.tag ++ vector 2 e.data

/-- The data of the first entry with the tag. -/
def findEntry (width : ℕ) (tag bs : List UInt8) : Option (List UInt8) :=
  match _h : takeVector 2 (bs.drop width) with
  | none => none
  | some (data, rest) => if bs.take width = tag then some data else findEntry width tag rest
termination_by bs.length
decreasing_by
  have hlen := congrArg List.length (takeVector_eq_some_iff.mp _h).1
  simp only [length_drop, length_append, length_vector] at hlen
  omega

/-- The first entry of `bs` with the tag has the data; nothing is asked of what follows it. -/
def FirstEntry (width : ℕ) (tag bs data : List UInt8) : Prop :=
  ∃ (before : List (Entry width)) (e : Entry width) (after : List UInt8),
    bs = before.flatMap Entry.encode ++ (e.encode ++ after) ∧ (∀ b ∈ before, b.tag ≠ tag) ∧
      e.tag = tag ∧ e.data = data

theorem FirstEntry.data_length (h : FirstEntry width tag bs data) : data.length < 256 ^ 2 := by
  obtain ⟨before, e, after, -, -, -, rfl⟩ := h
  exact e.data_length

theorem findEntry_of_none (h : takeVector 2 (bs.drop width) = none) :
    findEntry width tag bs = none := by
  rw [findEntry]
  split <;> simp_all

theorem findEntry_of_some {rest : List UInt8}
    (h : takeVector 2 (bs.drop width) = some (data, rest)) :
    findEntry width tag bs = if bs.take width = tag then some data else findEntry width tag rest := by
  rw [findEntry]
  split <;> simp_all

theorem findEntry_encode (e : Entry width) (tag rest : List UInt8) :
    findEntry width tag (e.encode ++ rest) =
      if e.tag = tag then some e.data else findEntry width tag rest := by
  have hshape : e.encode ++ rest = e.tag ++ (vector 2 e.data ++ rest) := append_assoc _ _ _
  have hread : takeVector 2 ((e.encode ++ rest).drop width) = some (e.data, rest) := by
    rw [hshape, drop_left' e.tag_length, takeVector_vector e.data_length rest]
  rw [findEntry_of_some hread, hshape, take_left' e.tag_length]

theorem findEntry_slice {offset last : ℕ} (hlast : last ≤ bs.length)
    (h : offset + width + 2 ≤ last) : findEntry width tag ((bs.take last).drop offset) =
      if value ((bs.drop (offset + width)).take 2) > last - (offset + width + 2) then none
      else if (bs.drop offset).take width = tag then
        some ((bs.drop (offset + width + 2)).take (value ((bs.drop (offset + width)).take 2)))
      else findEntry width tag ((bs.take last).drop
        (offset + width + 2 + value ((bs.drop (offset + width)).take 2))) := by
  have hread := takeVector_slice hlast h
  have htag : ((bs.take last).drop offset).take width = (bs.drop offset).take width := by
    rw [drop_take, take_take, Nat.min_eq_left (by omega)]
  rw [← drop_drop] at hread
  split_ifs at hread with hsize
  · rw [findEntry_of_none hread, if_pos hsize]
  · rw [findEntry_of_some hread, if_neg hsize, htag]

theorem findEntry_short (h : bs.length < width + 2) : findEntry width tag bs = none := by
  apply findEntry_of_none
  apply takeVector_of_short
  rw [length_drop]
  omega

theorem exists_entry {rest : List UInt8} (h : takeVector 2 (bs.drop width) = some (data, rest)) :
    ∃ e : Entry width, bs = e.encode ++ rest ∧ e.tag = bs.take width ∧ e.data = data := by
  obtain ⟨hbytes, hlt⟩ := takeVector_eq_some_iff.mp h
  have hlen := congrArg List.length hbytes
  simp only [length_drop, length_append, length_vector] at hlen
  refine ⟨⟨bs.take width, data, length_take_of_le (by omega), hlt⟩, ?_, rfl, rfl⟩
  unfold Entry.encode
  rw [append_assoc, ← hbytes, take_append_drop]

theorem findEntry_eq_some_iff :
    findEntry width tag bs = some data ↔ FirstEntry width tag bs data := by
  constructor
  · intro h
    fun_induction findEntry width tag bs with
    | case1 => cases h
    | case2 bs found rest hread htag =>
      cases h
      obtain ⟨e, hbs, he, hdata⟩ := exists_entry hread
      exact ⟨[], e, rest, hbs, by simp, he.trans htag, hdata⟩
    | case3 bs found rest hread htag ih =>
      obtain ⟨b, hbs, hb, -⟩ := exists_entry hread
      obtain ⟨before, e, after, rfl, hbefore, he, hdata⟩ := ih h
      refine ⟨b :: before, e, after, ?_, ?_, he, hdata⟩
      · rw [hbs, flatMap_cons, append_assoc]
      · rw [forall_mem_cons]
        exact ⟨fun htag' => htag (hb.symm.trans htag'), hbefore⟩
  · rintro ⟨before, e, after, rfl, hbefore, rfl, rfl⟩
    induction before with
    | nil => rw [flatMap_nil, nil_append, findEntry_encode, if_pos rfl]
    | cons b before ih =>
      rw [flatMap_cons, append_assoc, findEntry_encode,
        if_neg (hbefore b mem_cons_self)]
      exact ih fun c hc => hbefore c (mem_cons_of_mem b hc)

end entries

end Bytes
