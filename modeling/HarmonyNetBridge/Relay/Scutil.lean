import Mathlib.Data.List.Perm.Basic
import HarmonyNetBridge.Relay.Dns
import HarmonyNetBridge.Proxy.Hostname

/-! `ParseScutilDNS`: the resolver blocks that macOS lists. -/
namespace HarmonyNetBridge.Relay
open Bytes List
open Proxy (isDigitByte decimal isIPv4Literal)

def newline : UInt8 := 10

def defaultDNSPort : UInt16 := 53

/-- `strings.Cut` at a single byte. -/
def cut (separator : UInt8) (s : List UInt8) : Option (List UInt8 × List UInt8) :=
  if separator ∈ s then
    some (s.takeWhile (· ≠ separator), (s.dropWhile (· ≠ separator)).tail)
  else none

theorem cut_append {separator : UInt8} {k v : List UInt8} (h : separator ∉ k) :
    cut separator (k ++ separator :: v) = some (k, v) := by
  have hk : ∀ b ∈ k, decide (b ≠ separator) = true := by
    intro b hb
    simp only [decide_eq_true_eq]
    rintro rfl
    exact h hb
  have htake : (k ++ separator :: v).takeWhile (· ≠ separator) = k := by
    rw [takeWhile_append_of_pos hk, takeWhile_cons_of_neg (by simp), append_nil]
  have hdrop : (k ++ separator :: v).dropWhile (· ≠ separator) = separator :: v := by
    rw [dropWhile_append_of_pos hk, dropWhile_cons_of_neg (by simp)]
  rw [cut, if_pos (by simp), htake, hdrop, tail_cons]

/-- `strconv.ParseUint(value, 10, 16)`. -/
def parseUint16 (value : List UInt8) : Option ℕ :=
  if value ≠ [] ∧ value.all isDigitByte = true ∧ decimal value < 2 ^ 16 then some (decimal value)
  else none

/-- `strconv.Atoi` with an `int` of 64 bits. -/
def atoi (value : List UInt8) : Option ℤ :=
  let negative := value.head? == some 45
  let digits := if negative || value.head? == some 43 then value.tail else value
  let number : ℤ := if negative then -(decimal digits) else decimal digits
  if digits ≠ [] ∧ digits.all isDigitByte = true ∧ -2 ^ 63 ≤ number ∧ number < 2 ^ 63 then
    some number
  else none

/-- Whether `netip.ParseAddr` decides by this byte what it reads. -/
def addressMark (b : UInt8) : Bool := b == dot || b == colon || b == percent

def parseIPv4 (s : List UInt8) : Option Addr :=
  if isIPv4Literal s = true then
    some (.v4 (.ofNat 32
      ((s.splitOn dot).foldl (fun number field => number * 256 + decimal field) 0)))
  else none

/-- `netip.ParseAddr`; `ipv6` stands for its parser of IPv6 literals. -/
def parseAddr (ipv6 : List UInt8 → Option (BitVec 128 × List UInt8)) (s : List UInt8) :
    Option Addr :=
  match s.find? addressMark with
  | none => none
  | some b =>
    if b = dot then parseIPv4 s
    else if b = colon then (ipv6 s).map fun (address, zone) => .v6 address zone
    else none

/-- The body of the loop of `uniqueDomains`, with `seen` and `result`. -/
def uniqueDomain (u : Unicode) (state : List (List UInt8) × List (List UInt8))
    (domain : List UInt8) : List (List UInt8) × List (List UInt8) :=
  let domain := normalizeDomain u domain
  if domain = [] then state
  else if state.1.contains domain then state
  else (domain :: state.1, state.2 ++ [domain])

def uniqueDomains (u : Unicode) (domains : List (List UInt8)) : List (List UInt8) :=
  (domains.foldl (uniqueDomain u) ([], [])).2

structure Builder where
  resolver : Resolver := ⟨[], [], 0, 0⟩
  seen : Bool := false
  deriving DecidableEq, Repr

structure Parse where
  current : Builder := {}
  resolvers : List Resolver := []
  deriving DecidableEq, Repr

def headingText : List UInt8 := ascii "resolver #"
def domainKey : List UInt8 := ascii "domain"
def searchDomainKey : List UInt8 := ascii "search domain["
def nameserverKey : List UInt8 := ascii "nameserver["
def portKey : List UInt8 := ascii "port"
def orderKey : List UInt8 := ascii "order"

section parse
variable (u : Unicode) (ipv6 : List UInt8 → Option (BitVec 128 × List UInt8))

def Parse.flush (p : Parse) : Parse :=
  let resolver := p.current.resolver
  if p.current.seen = false ∨ resolver.nameservers = [] then { p with current := {} }
  else
    let port := if resolver.port = 0 then defaultDNSPort else resolver.port
    { current := {}
      resolvers := p.resolvers ++
        [{ resolver with port := port, domains := uniqueDomains u resolver.domains }] }

/-- The `switch` over the key of a line. -/
def Resolver.attribute (resolver : Resolver) (key value : List UInt8) : Resolver :=
  if key = domainKey ∨ searchDomainKey.isPrefixOf key = true then
    let domain := normalizeDomain u value
    if domain ≠ [] then { resolver with domains := resolver.domains ++ [domain] } else resolver
  else if nameserverKey.isPrefixOf key = true then
    match parseAddr ipv6 value with
    | some address =>
      if address.is4 = true then
        { resolver with nameservers := resolver.nameservers ++ [address] }
      else resolver
    | none => resolver
  else if key = portKey then
    match parseUint16 value with
    | some port => if port > 0 then { resolver with port := .ofNat port } else resolver
    | none => resolver
  else if key = orderKey then
    match atoi value with
    | some order => { resolver with order := order }
    | none => resolver
  else resolver

/-- The body of the loop over the lines. -/
def Parse.line (p : Parse) (rawLine : List UInt8) : Parse :=
  let line := u.strip rawLine
  if headingText.isPrefixOf line = true then
    let flushed := p.flush u
    { flushed with current := { flushed.current with seen := true } }
  else if p.current.seen = false then p
  else
    match cut colon line with
    | none => p
    | some (key, value) =>
      { p with
        current.resolver := p.current.resolver.attribute u ipv6 (u.strip key) (u.strip value) }

/-- `ParseScutilDNS`. `sort.SliceStable` is a stable sort by `Order`. -/
def parseScutilDNS (output : List UInt8) : Except String (List Resolver) :=
  let resolvers := (((output.splitOn newline).foldl (Parse.line u ipv6) {}).flush u).resolvers
  if resolvers = [] then .error "scutil reported no usable IPv4 DNS resolvers"
  else .ok (resolvers.mergeSort fun left right => left.order ≤ right.order)

end parse

theorem uniqueDomains_eq (u : Unicode) (domains : List (List UInt8)) :
    uniqueDomains u domains = ((domains.map (normalizeDomain u)).filter (· ≠ [])).eraseDups := by
  have key : ∀ (domains seen result : List (List UInt8)),
      (domains.foldl (uniqueDomain u) (seen, result)).2 = result ++
        ((domains.map (normalizeDomain u)).filter fun d => d ≠ [] ∧ d ∉ seen).eraseDups := by
    intro domains
    induction domains with
    | nil => simp
    | cons domain domains ih =>
      intro seen result
      rw [foldl_cons, map_cons]
      by_cases hskip : normalizeDomain u domain ≠ [] ∧ normalizeDomain u domain ∉ seen
      · have hstep : uniqueDomain u (seen, result) domain =
            (normalizeDomain u domain :: seen, result ++ [normalizeDomain u domain]) := by
          simp [uniqueDomain, hskip]
        rw [filter_cons_of_pos (by simpa using hskip), eraseDups_cons, hstep, ih,
          filter_filter, append_assoc, singleton_append]
        congr 3
        apply filter_congr
        intro d _
        rw [Bool.eq_iff_iff]
        simp only [mem_cons, not_or, decide_eq_true_eq, Bool.and_eq_true, Bool.not_eq_true',
          beq_eq_false_iff_ne, ne_eq]
        tauto
      · have hstep : uniqueDomain u (seen, result) domain = (seen, result) := by
          simp [uniqueDomain]
          tauto
        rw [filter_cons_of_neg (by simpa using hskip), hstep, ih]
  have hall := key domains [] []
  simpa [uniqueDomains] using hall

/-- A list sorted by a key that keeps the order of the elements with the same key. -/
structure StablySorted {α : Type} (key : α → ℤ) (input output : List α) : Prop where
  sorted : output.Pairwise fun a b => key a ≤ key b
  stable : ∀ k, output.filter (key · = k) = input.filter (key · = k)

theorem mergeSort_stablySorted {α : Type} (key : α → ℤ) (input : List α) :
    StablySorted key input (input.mergeSort fun a b => key a ≤ key b) := by
  have htrans : ∀ a b c : α, decide (key a ≤ key b) = true → decide (key b ≤ key c) = true →
      decide (key a ≤ key c) = true := by
    intro a b c hab hbc
    simp only [decide_eq_true_eq] at hab hbc ⊢
    omega
  have htotal : ∀ a b : α, (decide (key a ≤ key b) || decide (key b ≤ key a)) = true := by
    intro a b
    simp only [Bool.or_eq_true, decide_eq_true_eq]
    omega
  constructor
  · have hsorted := pairwise_mergeSort htrans htotal input
    simpa using hsorted
  · intro k
    have hequal : (input.filter (key · = k)).Pairwise fun a b => decide (key a ≤ key b) = true := by
      apply pairwise_of_forall_mem_list
      intro a ha b hb
      have hka := of_mem_filter ha
      have hkb := of_mem_filter hb
      simp only [decide_eq_true_eq] at hka hkb ⊢
      omega
    have hsub :=
      (sublist_mergeSort htrans htotal hequal filter_sublist).filter (key · = k)
    rw [filter_filter] at hsub
    simp only [Bool.and_self] at hsub
    have hperm := (mergeSort_perm input fun a b => key a ≤ key b).filter (key · = k)
    exact (hsub.eq_of_length hperm.length_eq.symm).symm

end HarmonyNetBridge.Relay
