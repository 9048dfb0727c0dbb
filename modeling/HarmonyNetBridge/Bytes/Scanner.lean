import Mathlib.Data.List.Basic
import Mathlib.Tactic.Common

/-! Incremental decoding of a stream that arrives in chunks. A scanner looks at the front of the
elements received so far; what it has found once must not change when more arrive. -/
namespace Bytes
open List
variable {α β ε : Type*}

/-- What stands at the front of the elements received so far. -/
inductive Scan (α ε : Type*) where
  | more
  | fail (error : ε)
  | item (a : α) (size : ℕ)

structure Scanner (β α ε : Type*) where
  scan : List β → Scan α ε
  item_size : ∀ {bs a size}, scan bs = .item a size → 0 < size ∧ size ≤ bs.length
  item_append : ∀ {bs a size} (cs), scan bs = .item a size → scan (bs ++ cs) = .item a size
  fail_append : ∀ {bs e} (cs), scan bs = .fail e → scan (bs ++ cs) = .fail e

namespace Scanner

/-- Takes items off the front until the scanner needs more; returns them with what is left. -/
def drain (s : Scanner β α ε) (bs : List β) : Except ε (List α × List β) :=
  match _h : s.scan bs with
  | .more => .ok ([], bs)
  | .fail e => .error e
  | .item a size => (s.drain (bs.drop size)).map fun r => (a :: r.1, r.2)
termination_by bs.length
decreasing_by
  have hsize := s.item_size _h
  simp only [length_drop]
  omega

variable {s : Scanner β α ε} {bs cs tail : List β} {a : α} {size : ℕ} {e : ε} {items : List α}

theorem drain_more (h : s.scan bs = .more) : s.drain bs = .ok ([], bs) := by
  rw [drain]
  split <;> simp_all

theorem drain_fail (h : s.scan bs = .fail e) : s.drain bs = .error e := by
  rw [drain]
  split <;> simp_all

theorem drain_item (h : s.scan bs = .item a size) :
    s.drain bs = (s.drain (bs.drop size)).map fun r => (a :: r.1, r.2) := by
  rw [drain]
  split <;> simp_all

/-- A drain of `bs ++ cs` that succeeds can stop after `bs` and go on with what was left. -/
theorem drain_append (h : s.drain (bs ++ cs) = .ok (items, tail)) :
    ∃ first left later, s.drain bs = .ok (first, left) ∧ s.scan left = .more ∧
      s.drain (left ++ cs) = .ok (later, tail) ∧ items = first ++ later := by
  induction hlen : bs.length using Nat.strongRecOn generalizing bs items with
  | ind n ih =>
    cases hscan : s.scan bs with
    | more => exact ⟨[], bs, items, drain_more hscan, hscan, h, rfl⟩
    | fail e =>
      rw [drain_fail (s.fail_append cs hscan)] at h
      cases h
    | item a size =>
      obtain ⟨hpos, hle⟩ := s.item_size hscan
      rw [drain_item (s.item_append cs hscan), drop_append_of_le_length hle] at h
      cases hrest : s.drain (bs.drop size ++ cs) with
      | error e => simp [hrest, Except.map] at h
      | ok r =>
        obtain ⟨others, tail'⟩ := r
        simp only [hrest, Except.map, Except.ok.injEq, Prod.mk.injEq] at h
        obtain ⟨rfl, rfl⟩ := h
        obtain ⟨first, left, later, hfirst, hleft, hlater, rfl⟩ :=
          ih _ (by simp only [length_drop]; omega) hrest rfl
        refine ⟨a :: first, left, later, ?_, hleft, hlater, rfl⟩
        rw [drain_item hscan, hfirst]
        rfl

/-- The chunks are drained one after another, each behind what the ones before have left. -/
def feed (s : Scanner β α ε) : List β → List (List β) → Except ε (List α × List β)
  | pending, [] => .ok ([], pending)
  | pending, chunk :: chunks => do
    let (items, pending) ← s.drain (pending ++ chunk)
    let (later, pending) ← s.feed pending chunks
    return (items ++ later, pending)

variable {chunks : List (List β)}

theorem feed_cons {pending chunk : List β}
    (h : s.feed pending (chunk :: chunks) = .ok (items, tail)) :
    ∃ first left later, s.drain (pending ++ chunk) = .ok (first, left) ∧
      s.feed left chunks = .ok (later, tail) ∧ items = first ++ later := by
  cases hfirst : s.drain (pending ++ chunk) with
  | error e => simp [feed, hfirst, bind, Except.bind] at h
  | ok r =>
    cases hlater : s.feed r.2 chunks with
    | error e => simp [feed, hfirst, hlater, bind, Except.bind] at h
    | ok r' =>
      simp only [feed, hfirst, hlater, bind, Except.bind, pure, Except.pure, Except.ok.injEq,
        Prod.mk.injEq] at h
      obtain ⟨rfl, rfl⟩ := h
      exact ⟨r.1, r.2, r'.1, rfl, hlater, rfl⟩

/-- How the stream is cut into chunks does not matter. -/
theorem feed_eq_drain (hbs : s.scan bs = .more)
    (h : s.drain (bs ++ chunks.flatten) = .ok (items, tail)) :
    s.feed bs chunks = .ok (items, tail) := by
  induction chunks generalizing bs items with
  | nil =>
    rw [flatten_nil, append_nil, drain_more hbs] at h
    exact h
  | cons chunk chunks ih =>
    rw [flatten_cons, ← append_assoc] at h
    obtain ⟨first, left, later, hfirst, hleft, hlater, rfl⟩ := drain_append h
    simp only [feed, hfirst, bind, Except.bind, ih hleft hlater, pure, Except.pure]

theorem scan_more_of_append (h : s.scan (bs ++ cs) = .item a size) (hlt : bs.length < size) :
    s.scan bs = .more := by
  cases hscan : s.scan bs with
  | more => rfl
  | fail e =>
    rw [s.fail_append cs hscan] at h
    cases h
  | item b n =>
    rw [s.item_append cs hscan] at h
    cases h
    exact absurd (s.item_size hscan).2 (by omega)

/-- Encoded items followed by something unfinished: the items come out, the rest is left. -/
theorem drain_encoded {γ : Type*} {encode : γ → List β} {decoded : γ → α} {xs : List γ}
    (hxs : ∀ x ∈ xs, ∀ rest, s.scan (encode x ++ rest) = .item (decoded x) (encode x).length)
    (htail : s.scan tail = .more) :
    s.drain (xs.flatMap encode ++ tail) = .ok (xs.map decoded, tail) := by
  induction xs with
  | nil => exact drain_more htail
  | cons x xs ih =>
    rw [flatMap_cons, append_assoc, drain_item (hxs x (by simp) _), drop_left,
      ih fun y hy => hxs y (by simp [hy])]
    rfl

/-- What failed once fails again, whatever arrives behind it. -/
theorem drain_error_append (h : s.drain bs = .error e) (cs : List β) :
    s.drain (bs ++ cs) = .error e := by
  induction hlen : bs.length using Nat.strongRecOn generalizing bs with
  | ind n ih =>
    cases hscan : s.scan bs with
    | more =>
      rw [drain_more hscan] at h
      cases h
    | fail e' =>
      rw [drain_fail hscan] at h
      cases h
      exact drain_fail (s.fail_append cs hscan)
    | item a size =>
      obtain ⟨hpos, hle⟩ := s.item_size hscan
      rw [drain_item hscan] at h
      rw [drain_item (s.item_append cs hscan), drop_append_of_le_length hle]
      cases hrest : s.drain (bs.drop size) with
      | ok r => simp [hrest, Except.map] at h
      | error e' =>
        obtain rfl : e' = e := by simpa [hrest, Except.map] using h
        rw [ih _ (by simp only [length_drop]; omega) hrest rfl]
        rfl

/-- The items that come out of the chunks up to the first drain that fails, and its error. -/
def deliver (s : Scanner β α ε) : List β → List (List β) → List α × Option ε
  | _, [] => ([], none)
  | pending, chunk :: chunks =>
    match s.drain (pending ++ chunk) with
    | .error e => ([], some e)
    | .ok (items, pending) =>
      let later := s.deliver pending chunks
      (items ++ later.1, later.2)

/-- A drain that fails on the way leaves a stream that cannot be drained at once either. -/
theorem drain_of_deliver {pending : List β} (h : (s.deliver pending chunks).2 = some e) :
    ∃ e', s.drain (pending ++ chunks.flatten) = .error e' := by
  induction chunks generalizing pending with
  | nil => cases h
  | cons chunk chunks ih =>
    rw [flatten_cons, ← append_assoc]
    cases hdrain : s.drain (pending ++ chunk) with
    | error e' => exact ⟨e', drain_error_append hdrain _⟩
    | ok r =>
      simp only [deliver, hdrain] at h
      obtain ⟨e', hlater⟩ := ih h
      cases hall : s.drain (pending ++ chunk ++ chunks.flatten) with
      | error e'' => exact ⟨e'', rfl⟩
      | ok all =>
        obtain ⟨first, left, later, hfirst, -, hleft, -⟩ := drain_append hall
        rw [hdrain] at hfirst
        cases hfirst
        rw [hlater] at hleft
        cases hleft

/-- A scanner fails on `bs` as soon as `n` elements of it have arrived, and not before. -/
structure FailsAt (s : Scanner β α ε) (bs : List β) (n : ℕ) (e : ε) : Prop where
  before : ∀ {front}, front <+: bs → front.length < n → s.scan front = .more
  after : ∀ {front}, front <+: bs → n ≤ front.length → s.scan front = .fail e

section Encoded
variable {γ : Type*} {encode : γ → List β} {decoded : γ → α} {xs : List γ} {bad : List β} {n : ℕ}

theorem exists_rest {front stream : List β} (h : bs ++ cs = front ++ stream)
    (hle : front.length ≤ bs.length) : ∃ rest, bs = front ++ rest ∧ rest ++ cs = stream := by
  obtain ⟨rest, rfl⟩ := prefix_of_prefix_length_le (prefix_append front stream) ⟨cs, h⟩ hle
  rw [append_assoc, append_cancel_left_eq] at h
  exact ⟨rest, rfl, h⟩

/-- A front of encoded items and a broken end that does not reach the failure: the whole items
come out, and what is left is the front of the remaining stream. -/
theorem drain_front
    (hxs : ∀ x ∈ xs, ∀ rest, s.scan (encode x ++ rest) = .item (decoded x) (encode x).length)
    (hbad : s.FailsAt bad n e) (hfront : bs ++ cs = xs.flatMap encode ++ bad)
    (hlt : bs.length < (xs.flatMap encode).length + n) :
    ∃ whole others left, xs = whole ++ others ∧ bs = whole.flatMap encode ++ left ∧
      s.drain bs = .ok (whole.map decoded, left) ∧ s.scan left = .more ∧
      left ++ cs = others.flatMap encode ++ bad := by
  induction xs generalizing bs with
  | nil =>
    have hmore : s.scan bs = .more := hbad.before ⟨cs, by simpa using hfront⟩ (by simpa using hlt)
    exact ⟨[], [], bs, rfl, rfl, drain_more hmore, hmore, hfront⟩
  | cons x xs ih =>
    have hscan := hxs x (by simp)
    rw [flatMap_cons, append_assoc] at hfront
    rw [flatMap_cons, length_append] at hlt
    rcases Nat.lt_or_ge bs.length (encode x).length with hpart | hall
    · have hmore : s.scan bs = .more :=
        scan_more_of_append (hfront.symm ▸ hscan _) hpart
      exact ⟨[], x :: xs, bs, rfl, rfl, drain_more hmore, hmore, by simpa using hfront⟩
    · obtain ⟨rest, rfl, hrest⟩ := exists_rest hfront hall
      rw [length_append] at hlt
      obtain ⟨whole, others, left, rfl, rfl, hdrain, hmore, hleft⟩ :=
        ih (fun y hy => hxs y (by simp [hy])) hrest (by omega)
      refine ⟨x :: whole, others, left, rfl, by simp, ?_, hmore, hleft⟩
      rw [drain_item (hscan _), drop_left, hdrain]
      rfl

/-- Encoded items with a broken end fail once enough of the end has arrived. -/
theorem drain_broken
    (hxs : ∀ x ∈ xs, ∀ rest, s.scan (encode x ++ rest) = .item (decoded x) (encode x).length)
    (hbad : s.FailsAt bad n e) (hfront : bs ++ cs = xs.flatMap encode ++ bad)
    (hle : (xs.flatMap encode).length + n ≤ bs.length) : s.drain bs = .error e := by
  induction xs generalizing bs with
  | nil => exact drain_fail (hbad.after ⟨cs, by simpa using hfront⟩ (by simpa using hle))
  | cons x xs ih =>
    rw [flatMap_cons, append_assoc] at hfront
    rw [flatMap_cons, length_append] at hle
    obtain ⟨rest, rfl, hrest⟩ := exists_rest hfront (by omega)
    rw [length_append] at hle
    rw [drain_item (hxs x (by simp) _), drop_left,
      ih (fun y hy => hxs y (by simp [hy])) hrest (by omega)]
    rfl

theorem pending_lt
    (hxs : ∀ x ∈ xs, ∀ rest, s.scan (encode x ++ rest) = .item (decoded x) (encode x).length)
    (hbad : s.FailsAt bad n e) (hmore : s.scan bs = .more)
    (hfront : bs ++ cs = xs.flatMap encode ++ bad) :
    bs.length < n ∧ xs = [] ∨ bs.length < (xs.flatMap encode).length := by
  cases xs with
  | nil =>
    refine .inl ⟨Nat.lt_of_not_le fun hle => ?_, rfl⟩
    rw [hbad.after ⟨cs, by simpa using hfront⟩ hle] at hmore
    cases hmore
  | cons x xs =>
    rw [flatMap_cons, append_assoc] at hfront
    have hlt : bs.length < (encode x).length := Nat.lt_of_not_le fun hle => by
      obtain ⟨rest, rfl, -⟩ := exists_rest hfront hle
      rw [hxs x (by simp) rest] at hmore
      cases hmore
    exact .inr (by rw [flatMap_cons, length_append]; omega)

theorem exists_take_cons (P : ℕ → Prop) (chunk : List β) (chunks : List (List β)) :
    (∃ k, P ((chunk :: chunks).take k).flatten.length) ↔
      P 0 ∨ ∃ k, P (chunk.length + (chunks.take k).flatten.length) := by
  constructor
  · rintro ⟨k, h⟩
    cases k with
    | zero => exact .inl h
    | succ k => exact .inr ⟨k, by simpa using h⟩
  · rintro (h | ⟨k, h⟩)
    · exact ⟨0, h⟩
    · exact ⟨k + 1, by simpa using h⟩

/-- The chunks of encoded items with a broken end, fed one after another: a drain fails, and all
the items have come out before exactly if some chunk ended between the last item and the failure. -/
theorem deliver_broken {pending : List β} {chunks : List (List β)}
    (hxs : ∀ x ∈ xs, ∀ rest, s.scan (encode x ++ rest) = .item (decoded x) (encode x).length)
    (hbad : s.FailsAt bad n e) (hn : n ≤ bad.length) (hpending : s.scan pending = .more)
    (hstream : pending ++ chunks.flatten = xs.flatMap encode ++ bad) :
    (s.deliver pending chunks).2 = some e ∧
      ((s.deliver pending chunks).1 = xs.map decoded ↔ ∃ k,
        (xs.flatMap encode).length ≤ pending.length + (chunks.take k).flatten.length ∧
        pending.length + (chunks.take k).flatten.length < (xs.flatMap encode).length + n) := by
  induction chunks generalizing pending xs with
  | nil =>
    have hlength := congrArg List.length hstream
    simp only [flatten_nil, append_nil, length_append] at hlength
    rcases pending_lt hxs hbad hpending hstream with ⟨hlt, rfl⟩ | hlt
    · simp only [flatMap_nil, length_nil] at hlength
      omega
    · omega
  | cons chunk chunks ih =>
    rw [exists_take_cons fun size => (xs.flatMap encode).length ≤ pending.length + size ∧
      pending.length + size < (xs.flatMap encode).length + n]
    rw [flatten_cons, ← append_assoc] at hstream
    rcases Nat.lt_or_ge (pending ++ chunk).length ((xs.flatMap encode).length + n) with hlt | hge
    · obtain ⟨whole, others, left, rfl, hbs, hdrain, hmore, hleft⟩ :=
        drain_front hxs hbad hstream hlt
      obtain ⟨hfailed, hall⟩ := ih (fun x hx => hxs x (by simp [hx])) hmore hleft
      have hlength := congrArg List.length hbs
      simp only [deliver, hdrain, hfailed, map_append, append_cancel_left_eq, hall,
        flatMap_append, length_append, true_and] at hlength hlt ⊢
      constructor
      · rintro ⟨k, hlow, hhigh⟩
        exact .inr ⟨k, by omega, by omega⟩
      · rintro (⟨hlow, hhigh⟩ | ⟨k, hlow, hhigh⟩)
        · refine ⟨0, ?_⟩
          simp only [take_zero, flatten_nil, length_nil]
          omega
        · exact ⟨k, by omega, by omega⟩
    · simp only [deliver, drain_broken hxs hbad hstream hge, true_and]
      rw [length_append] at hge
      rw [append_assoc] at hstream
      constructor
      · intro hnil
        obtain rfl : xs = [] := by simpa using hnil.symm
        have hlt : pending.length < n := by
          simpa using pending_lt hxs hbad hpending hstream
        exact .inl ⟨by simp, by simpa using hlt⟩
      · rintro (⟨hlow, -⟩ | ⟨k, -, hhigh⟩)
        · rcases pending_lt hxs hbad hpending hstream with ⟨-, rfl⟩ | hlt
          · rfl
          · omega
        · -- the first chunk reaches the failure
          omega

end Encoded
end Scanner
end Bytes
