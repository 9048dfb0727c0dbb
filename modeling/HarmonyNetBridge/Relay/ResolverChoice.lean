import Mathlib.Data.List.Pairwise
import Mathlib.Data.List.Perm.Basic
import HarmonyNetBridge.Relay.Dns

/-! `selectResolver` as an optimum: the loop over the resolvers and their domains picks the longest
match, among equal ones the lowest order, among these the first. -/
namespace HarmonyNetBridge.Relay
open Bytes List

/-- The lengths of the domains that match the normalised name. -/
def matchingLengths (u : Unicode) (name : List UInt8) (domains : List (List UInt8)) : List ℕ :=
  ((domains.map (normalizeDomain u)).filter fun candidate =>
    candidate ≠ [] ∧ domainMatches name candidate = true).map List.length

/-- The length of the longest match; `none` when the resolver is not eligible. A resolver without
domains counts as a match of length 0. -/
def matchLength (u : Unicode) (name : List UInt8) (resolver : Resolver) : Option ℕ :=
  if resolver.nameservers = [] then none
  else if resolver.domains = [] then some 0
  else (matchingLengths u name resolver.domains).max?

/-- The resolver at `i` is eligible and preferred to every other eligible one: by a longer match,
else by a lower order, else by its position. -/
def Preferred (u : Unicode) (name : List UInt8) (resolvers : List Resolver) (i : ℕ) : Prop :=
  ∃ r n, resolvers[i]? = some r ∧ matchLength u name r = some n ∧
    ∀ j r' m, j ≠ i → resolvers[j]? = some r' → matchLength u name r' = some m →
      m < n ∨ m = n ∧ (r.order < r'.order ∨ r.order = r'.order ∧ i < j)

structure Choice where
  index : Option ℕ
  length : ℤ
  order : ℤ

def Best.choice (best : Best) : Choice := ⟨best.bestIndex, best.bestSuffixLength, best.bestOrder⟩

/-- A match replaces the choice when it is longer, or as long with a lower order. -/
def Choice.improve (c : Choice) (index : ℕ) (order : ℤ) (length : ℕ) : Choice :=
  if length > c.length ∨ length = c.length ∧ order < c.order then ⟨some index, length, order⟩ else c

section domains
variable {u : Unicode} {name : List UInt8} {index : ℕ} {resolver : Resolver}

theorem Choice.improve_improve (c : Choice) (order : ℤ) (a b : ℕ) :
    (c.improve index order a).improve index order b = c.improve index order (max a b) := by
  unfold improve
  rcases Nat.le_total a b with h | h
  · rw [Nat.max_eq_right h]
    split_ifs <;> simp_all <;> omega
  · rw [Nat.max_eq_left h]
    split_ifs <;> simp_all <;> omega

theorem choice_considerDomain (best : Best) (domain : List UInt8) :
    (considerDomain u name index resolver best domain).choice =
      if normalizeDomain u domain ≠ [] ∧ domainMatches name (normalizeDomain u domain) = true then
        best.choice.improve index resolver.order (normalizeDomain u domain).length
      else best.choice := by
  unfold considerDomain Choice.improve
  by_cases hempty : normalizeDomain u domain = []
  · simp [hempty]
  · by_cases hfits : domainMatches name (normalizeDomain u domain) = true
    · simp only [hempty, hfits, false_or, Bool.true_eq_false, if_false, ne_eq, not_false_eq_true,
        and_self, if_true]
      split
      · rename_i hbetter
        exact (if_pos hbetter).symm
      · rename_i hbetter
        exact (if_neg hbetter).symm
    · simp [hempty, hfits]

/-- The loop over the domains has the effect of the longest match. -/
theorem choice_domains (best : Best) (domains : List (List UInt8)) :
    (domains.foldl (considerDomain u name index resolver) best).choice =
      match (matchingLengths u name domains).max? with
      | none => best.choice
      | some n => best.choice.improve index resolver.order n := by
  induction domains generalizing best with
  | nil => rfl
  | cons domain domains ih =>
    rw [foldl_cons, ih, choice_considerDomain]
    by_cases hfits : normalizeDomain u domain ≠ [] ∧
        domainMatches name (normalizeDomain u domain) = true
    · have hlengths : matchingLengths u name (domain :: domains) =
          (normalizeDomain u domain).length :: matchingLengths u name domains := by
        simp [matchingLengths, hfits]
      rw [hlengths, List.max?_cons, if_pos hfits]
      cases (matchingLengths u name domains).max? with
      | none => rfl
      | some n => exact Choice.improve_improve _ _ _ _
    · have hlengths : matchingLengths u name (domain :: domains) = matchingLengths u name domains := by
        simp only [matchingLengths, map_cons]
        rw [filter_cons_of_neg (by simpa using hfits)]
      rw [hlengths, if_neg hfits]

end domains

section resolvers
variable {u : Unicode} {name : List UInt8} {resolvers : List Resolver} {resolver : Resolver}

/-- What the choice says about the resolvers so far: the length -1 stands for no eligible one. -/
inductive Leads (u : Unicode) (name : List UInt8) (resolvers : List Resolver) : Choice → Prop
  | nobody {order : ℤ} (h : ∀ r ∈ resolvers, matchLength u name r = none) :
      Leads u name resolvers ⟨none, -1, order⟩
  | leader {i n : ℕ} {r : Resolver} (hr : resolvers[i]? = some r) (hn : matchLength u name r = some n)
      (hbest : ∀ j r' m, j ≠ i → resolvers[j]? = some r' → matchLength u name r' = some m →
        m < n ∨ m = n ∧ (r.order < r'.order ∨ r.order = r'.order ∧ i < j)) :
      Leads u name resolvers ⟨some i, n, r.order⟩

theorem choice_considerResolver {best : Best} (h : Leads u name resolvers best.choice) (index : ℕ) :
    (considerResolver u name best (resolver, index)).choice =
      match matchLength u name resolver with
      | none => best.choice
      | some n => best.choice.improve index resolver.order n := by
  -- a resolver without domains is taken when nothing has been found, or over one of length 0
  have hzero : best.bestIndex = none ∨ best.bestSuffixLength = 0 ∧ resolver.order < best.bestOrder ↔
      ((0 : ℕ) : ℤ) > best.bestSuffixLength ∨
        ((0 : ℕ) : ℤ) = best.bestSuffixLength ∧ resolver.order < best.bestOrder := by
    obtain ⟨i, length, order, domain⟩ := best
    cases h with
    | nobody => simp
    | leader => simp [eq_comm]
  unfold considerResolver matchLength
  dsimp only
  split
  · rfl
  · split
    · split
      · rename_i htake
        exact (if_pos (hzero.mp htake)).symm
      · rename_i hkeep
        exact (if_neg (mt hzero.mpr hkeep)).symm
    · exact choice_domains best resolver.domains

theorem getElem?_snoc {j : ℕ} {r : Resolver} : (resolvers ++ [resolver])[j]? = some r ↔
    resolvers[j]? = some r ∨ j = resolvers.length ∧ r = resolver := by
  rcases Nat.lt_trichotomy j resolvers.length with hlt | rfl | hgt
  · simp [List.getElem?_append_left hlt, hlt.ne]
  · simp [eq_comm]
  · simp [List.getElem?_eq_none (l := resolvers ++ [resolver]) (i := j) (by simp; omega),
      List.getElem?_eq_none hgt.le, hgt.ne']

theorem Leads.keep {i n : ℕ} {r : Resolver} (hr : resolvers[i]? = some r)
    (hn : matchLength u name r = some n)
    (hbest : ∀ j r' m, j ≠ i → resolvers[j]? = some r' → matchLength u name r' = some m →
      m < n ∨ m = n ∧ (r.order < r'.order ∨ r.order = r'.order ∧ i < j))
    (hlast : ∀ m, matchLength u name resolver = some m → m < n ∨ m = n ∧ r.order ≤ resolver.order) :
    Leads u name (resolvers ++ [resolver]) ⟨some i, n, r.order⟩ := by
  have hi := (List.getElem?_eq_some_iff.mp hr).1
  refine .leader (getElem?_snoc.mpr (.inl hr)) hn fun j r' m hj hr' hm => ?_
  rcases getElem?_snoc.mp hr' with hold | ⟨rfl, rfl⟩
  · exact hbest j r' m hj hold hm
  · have := hlast m hm
    omega

theorem Leads.skip {c : Choice} (h : Leads u name resolvers c)
    (hr : matchLength u name resolver = none) : Leads u name (resolvers ++ [resolver]) c := by
  cases h with
  | nobody h => exact .nobody (by simpa [or_imp, forall_and, hr] using h)
  | leader hi hn hbest => exact .keep hi hn hbest (by simp [hr])

theorem Leads.improve {c : Choice} {n : ℕ} (h : Leads u name resolvers c)
    (hr : matchLength u name resolver = some n) :
    Leads u name (resolvers ++ [resolver]) (c.improve resolvers.length resolver.order n) := by
  have hnew : (resolvers ++ [resolver])[resolvers.length]? = some resolver := by simp
  unfold Choice.improve
  split
  · -- the new one leads: whatever was eligible before is worse than the leader before it, if any
    rename_i hbetter
    refine .leader hnew hr fun j r' m hj hr' hm => ?_
    have hold := (getElem?_snoc.mp hr').resolve_right fun hlast => hj hlast.1
    cases h with
    | nobody hnone =>
      rw [hnone r' (mem_of_getElem? hold)] at hm
      cases hm
    | @leader i n' r hi hn hbest =>
      dsimp only at hbetter
      by_cases hji : j = i
      · subst hji
        obtain rfl : r' = r := Option.some.inj (hold.symm.trans hi)
        obtain rfl : m = n' := Option.some.inj (hm.symm.trans hn)
        omega
      · have := hbest j r' m hji hold hm
        omega
  · rename_i hworse
    cases h with
    | nobody hnone =>
      exact absurd (.inl (by simp; omega)) hworse
    | leader hi hn hbest =>
      refine .keep hi hn hbest fun m hm => ?_
      obtain rfl : m = n := Option.some.inj (hm.symm.trans hr)
      dsimp only at hworse
      omega

theorem leads_bestMatch (u : Unicode) (name : List UInt8) (resolvers : List Resolver) :
    Leads u name resolvers (resolvers.zipIdx.foldl (considerResolver u name) {}).choice := by
  induction resolvers using List.reverseRecOn with
  | nil => exact .nobody (by simp)
  | append_singleton resolvers resolver ih =>
    rw [zipIdx_append, foldl_append]
    simp only [zipIdx_singleton, foldl_cons, foldl_nil, Nat.zero_add]
    rw [choice_considerResolver ih]
    cases hr : matchLength u name resolver with
    | none => exact ih.skip hr
    | some n => exact ih.improve hr

end resolvers

section selection
variable {u : Unicode} {questionName : List UInt8} {resolvers resolvers' : List Resolver}

theorem selectResolver_cases (u : Unicode) (resolvers : List Resolver) (questionName : List UInt8) :
    (selectResolver u resolvers questionName = .error "macOS has no resolver for DNS name" ∧
      ∀ r ∈ resolvers, matchLength u (normalizeDomain u questionName) r = none) ∨
    ∃ i r, selectResolver u resolvers questionName = .ok r ∧ resolvers[i]? = some r ∧
      Preferred u (normalizeDomain u questionName) resolvers i := by
  have hleads := leads_bestMatch u (normalizeDomain u questionName) resolvers
  generalize hbest : (resolvers.zipIdx.foldl
    (considerResolver u (normalizeDomain u questionName)) {}) = best at hleads
  obtain ⟨index, length, order, domain⟩ := best
  unfold selectResolver bestMatch
  rw [hbest]
  cases hleads with
  | nobody hnone => exact .inl ⟨rfl, hnone⟩
  | @leader i n r hr hn hbetter =>
    refine .inr ⟨i, r, ?_, hr, r, n, hr, hn, hbetter⟩
    simp [hr]

theorem Preferred.unique {name : List UInt8} {i j : ℕ} (hi : Preferred u name resolvers i)
    (hj : Preferred u name resolvers j) : i = j := by
  obtain ⟨r, n, hr, hn, hbest⟩ := hi
  obtain ⟨r', m, hr', hm, hbest'⟩ := hj
  by_contra hne
  have h := hbest j r' m (Ne.symm hne) hr' hm
  have h' := hbest' i r n hne hr hn
  omega

theorem selectResolver_ok_iff (r : Resolver) : selectResolver u resolvers questionName = .ok r ↔
    ∃ i, resolvers[i]? = some r ∧ Preferred u (normalizeDomain u questionName) resolvers i := by
  rcases selectResolver_cases u resolvers questionName with ⟨herror, hnone⟩ | ⟨i, r', hok, hr', hi⟩
  · refine iff_of_false (by simp [herror]) ?_
    rintro ⟨i, hr, r', n, hr', hn, -⟩
    rw [hnone r' (mem_of_getElem? hr')] at hn
    cases hn
  · rw [hok, Except.ok.injEq]
    constructor
    · rintro rfl
      exact ⟨i, hr', hi⟩
    · rintro ⟨j, hr, hj⟩
      rw [hi.unique hj, hr] at hr'
      exact (Option.some.inj hr').symm

theorem selectResolver_error_iff : (∃ e, selectResolver u resolvers questionName = .error e) ↔
    ∀ r ∈ resolvers, matchLength u (normalizeDomain u questionName) r = none := by
  rcases selectResolver_cases u resolvers questionName with ⟨herror, hnone⟩ | ⟨i, r, hok, hr, hi⟩
  · exact iff_of_true ⟨_, herror⟩ hnone
  · refine iff_of_false (by simp [hok]) fun hnone => ?_
    obtain ⟨r', n, hr', hn, -⟩ := hi
    rw [hnone r' (mem_of_getElem? hr')] at hn
    cases hn

/-- The two do not tie on the length of their match and their order. -/
def Apart (u : Unicode) (name : List UInt8) (r r' : Resolver) : Prop :=
  ∀ n, matchLength u name r = some n → matchLength u name r' = some n → r.order ≠ r'.order

instance (u : Unicode) (name : List UInt8) : Std.Symm (Apart u name) where
  symm _ _ h n hr' hr := (h n hr hr').symm

/-- No other member of the list has a longer match, or one as long with a lower order. -/
theorem Preferred.member {name : List UInt8} {i : ℕ} {r : Resolver} (h : Preferred u name resolvers i)
    (hr : resolvers[i]? = some r) : ∃ n, matchLength u name r = some n ∧
      ∀ r' ∈ resolvers, ∀ m, matchLength u name r' = some m →
        m < n ∨ m = n ∧ r.order ≤ r'.order := by
  obtain ⟨r₀, n, hr₀, hn, hbest⟩ := h
  obtain rfl : r₀ = r := Option.some.inj (hr₀.symm.trans hr)
  refine ⟨n, hn, fun r' hmem m hm => ?_⟩
  obtain ⟨j, hj⟩ := List.getElem?_of_mem hmem
  by_cases hji : j = i
  · subst hji
    obtain rfl : r' = r₀ := Option.some.inj (hj.symm.trans hr)
    obtain rfl : m = n := Option.some.inj (hm.symm.trans hn)
    exact .inr ⟨rfl, le_rfl⟩
  · have := hbest j r' m hji hj hm
    omega

theorem selectResolver_perm (hperm : resolvers'.Perm resolvers)
    (hties : resolvers.Pairwise (Apart u (normalizeDomain u questionName))) :
    selectResolver u resolvers' questionName = selectResolver u resolvers questionName := by
  rcases selectResolver_cases u resolvers questionName with ⟨herror, hnone⟩ | ⟨i, r, hok, hr, hi⟩
  · rcases selectResolver_cases u resolvers' questionName with
      ⟨herror', -⟩ | ⟨i', r', -, hr', r₀, n, hr₀, hn, -⟩
    · rw [herror, herror']
    · rw [hnone r₀ (hperm.mem_iff.mp (mem_of_getElem? hr₀))] at hn
      cases hn
  · obtain ⟨n, hn, hbest⟩ := hi.member hr
    have hmem := mem_of_getElem? hr
    rcases selectResolver_cases u resolvers' questionName with
      ⟨-, hnone'⟩ | ⟨i', r', hok', hr', hi'⟩
    · rw [hnone' r (hperm.mem_iff.mpr hmem)] at hn
      cases hn
    · obtain ⟨m, hm, hbest'⟩ := hi'.member hr'
      have hmem' := hperm.mem_iff.mp (mem_of_getElem? hr')
      -- neither beats the other, so they tie unless they are one resolver
      have hle := hbest r' hmem' m hm
      have hge := hbest' r (hperm.mem_iff.mpr hmem) n hn
      obtain rfl : m = n := by omega
      have horder : r.order = r'.order := by omega
      have hsame : r = r' := by
        by_contra hne
        exact hties.forall hmem hmem' hne m hn hm horder
      rw [hok, hok', hsame]

end selection

/-- `selectResolver` returns the preferred resolver, fails exactly when none is eligible, and does
not depend on the order of the list when no two eligible resolvers tie. -/
theorem selectResolver_optimal (u : Unicode) (resolvers : List Resolver) (questionName : List UInt8) :
    (∀ r, selectResolver u resolvers questionName = .ok r ↔
      ∃ i, resolvers[i]? = some r ∧ Preferred u (normalizeDomain u questionName) resolvers i) ∧
    ((∃ e, selectResolver u resolvers questionName = .error e) ↔
      ∀ r ∈ resolvers, matchLength u (normalizeDomain u questionName) r = none) ∧
    (∀ resolvers' : List Resolver, resolvers'.Perm resolvers →
      resolvers.Pairwise (Apart u (normalizeDomain u questionName)) →
      selectResolver u resolvers' questionName = selectResolver u resolvers questionName) :=
  ⟨selectResolver_ok_iff, selectResolver_error_iff, fun _ => selectResolver_perm⟩

end HarmonyNetBridge.Relay
