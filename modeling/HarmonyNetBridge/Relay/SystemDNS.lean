import HarmonyNetBridge.Transition.Runs
import HarmonyNetBridge.Relay.Dns

/-! `SystemDNS`: any number of exchanges that share the cached resolver list. Each exchange asks the
nameservers of the selected resolver one after another, and once more after a failure. -/
namespace HarmonyNetBridge.Relay
open Transition Bytes List

inductive Network where
  | udp
  | tcp
  deriving DecidableEq, Repr

def Network.ofString (network : String) : Option Network :=
  if network = "udp" then some .udp else if network = "tcp" then some .tcp else none

/-- The network and the address of one call of `dial`. -/
structure Connection where
  network : Network
  server : Addr
  port : UInt16
  deriving DecidableEq, Repr

/-- A dialed connection: what its `Write` returns, and what arrives on it; for UDP one datagram. -/
structure Conn where
  write : List UInt8 → ℕ × Option String
  incoming : Except String (List UInt8)

def dnsResponseTruncated (response : List UInt8) : Bool :=
  decide (4 ≤ response.length) && response.getD 2 0 &&& 0x02 != 0

def validateDNSResponse (query response : List UInt8) : Except String (List UInt8) :=
  if response.length < 12 then .error "DNS response is shorter than its header"
  else if query.take 2 ≠ response.take 2 then
    .error "DNS transaction ID does not match the query"
  else if response.getD 2 0 &&& 0x80 = 0 then .error "DNS message from resolver is not a response"
  else .ok response

def writeDNSFrame (conn : Conn) (payload : List UInt8) : Except String Unit :=
  if payload.length < 12 ∨ payload.length > 65535 then .error "DNS TCP response length is invalid"
  else
    match (conn.write (bigEndian 2 payload.length)).2 with
    | some err => .error err
    | none =>
      match (conn.write payload).2 with
      | some err => .error err
      | none => .ok ()

/-- `io.ReadFull` for `n` bytes; it returns them with the rest of the stream. -/
def readFull (stream : List UInt8) (n : ℕ) : Except String (List UInt8 × List UInt8) :=
  if n ≤ stream.length then .ok (stream.take n, stream.drop n)
  else if stream = [] then .error "EOF"
  else .error "unexpected EOF"

def readDNSFrame (conn : Conn) : Except String (List UInt8) := do
  let stream ← conn.incoming
  let (lengthBytes, stream) ← readFull stream 2
  let length := value lengthBytes
  if length < 12 then throw "DNS TCP frame is shorter than a DNS header"
  let (payload, _) ← readFull stream length
  return payload

/-- `exchangeOne` on the outcome of its `dial`. -/
def exchangeOne (dialed : Except String Conn) (network : Network) (query : List UInt8) :
    Except String (List UInt8) := do
  let conn ← dialed
  match network with
  | .tcp =>
    writeDNSFrame conn query
    let response ← readDNSFrame conn
    validateDNSResponse query response
  | .udp =>
    match conn.write query with
    | (_, some err) => throw err
    | (written, none) =>
      if written ≠ query.length then throw "short write"
      else
        let datagram ← conn.incoming
        validateDNSResponse query (datagram.take 65535)

/-- One nameserver of the loop of `exchangeSelected`: the connections it opens, the first of them
dialed by call number `calls`, and the outcome. -/
def exchangeServer (dial : ℕ → Except String Conn) (network : Network) (query : List UInt8)
    (port : UInt16) (calls : ℕ) (server : Addr) : List Connection × Except String (List UInt8) :=
  match exchangeOne (dial calls) network query with
  | .error err => ([⟨network, server, port⟩], .error err)
  | .ok response =>
    if network = .udp ∧ dnsResponseTruncated response then
      ([⟨network, server, port⟩, ⟨.tcp, server, port⟩], exchangeOne (dial (calls + 1)) .tcp query)
    else ([⟨network, server, port⟩], .ok response)

/-- The loop of `exchangeSelected`. -/
def exchangeServers (dial : ℕ → Except String Conn) (network : Network) (query : List UInt8)
    (port : UInt16) (opened : List Connection) (lastError : Option String) :
    List Addr → List Connection × Except String (List UInt8)
  | [] => (opened, .error ("all selected macOS DNS resolvers failed: " ++
      lastError.getD "selected macOS resolver has no IPv4 nameserver"))
  | server :: servers =>
    if server.is4 = false then exchangeServers dial network query port opened lastError servers
    else
      let (attempts, outcome) := exchangeServer dial network query port opened.length server
      match outcome with
      | .ok response => (opened ++ attempts, .ok response)
      | .error err =>
        exchangeServers dial network query port (opened ++ attempts) (some err) servers

def exchangeSelected (u : Unicode) (dial : ℕ → Except String Conn) (network : Network)
    (name query : List UInt8) (resolvers : List Resolver) :
    List Connection × Except String (List UInt8) :=
  match selectResolver u resolvers name with
  | .error err => ([], .error err)
  | .ok resolver => exchangeServers dial network query resolver.port [] none resolver.nameservers

/-- The fields of `SystemDNS` behind its mutex. -/
structure Cache where
  loadedAt : Option ℕ := none
  resolvers : List Resolver := []
  deriving DecidableEq, Repr

/-- `len(d.resolvers) > 0 && time.Since(d.loadedAt) < d.reloadInterval`. -/
def Cache.fresh (d : Cache) (reloadInterval now : ℕ) : Bool :=
  match d.loadedAt with
  | none => false
  | some loadedAt => decide (d.resolvers ≠ []) && decide (now - loadedAt < reloadInterval)

def Cache.invalidateResolvers (d : Cache) : Cache := { d with loadedAt := none }

/-- `currentResolvers`, where `loaded` is what `d.source.Load` returns if it is called; `none`
stands for a missing source. -/
def Cache.currentResolvers (d : Cache) (reloadInterval now : ℕ)
    (loaded : Option (Except String (List Resolver))) : Except String (List Resolver) × Cache :=
  if d.fresh reloadInterval now then (.ok d.resolvers, d)
  else
    match loaded with
    | none => (.error "macOS resolver source is unavailable", d)
    | some (.error err) =>
      if d.resolvers ≠ [] then (.ok d.resolvers, d)
      else (.error ("load macOS DNS resolvers: " ++ err), d)
    | some (.ok resolvers) =>
      if resolvers = [] then (.error "macOS reported no usable IPv4 DNS resolver", d)
      else (.ok resolvers, ⟨some now, resolvers⟩)

/-- What `d.source.Load` has returned to the call, if it was called. -/
def Cache.called (d : Cache) (reloadInterval now : ℕ)
    (loaded : Option (Except String (List Resolver))) : Option (Except String (List Resolver)) :=
  if d.fresh reloadInterval now then none else loaded

/-- The outcome of `currentResolvers`: the list that the cache had, what the source returned and the
list that the exchange goes on with. -/
structure Listing where
  cached : List Resolver
  loaded : Option (Except String (List Resolver))
  resolvers : List Resolver

/-- One round of an exchange: the outcomes of its calls of `dial`, the connections it opened and its
outcome. -/
structure Round extends Listing where
  dial : ℕ → Except String Conn
  opened : List Connection
  outcome : Except String (List UInt8)

/-- Where a call of `Exchange` stands. `first` is the error of the first round, in the second. -/
inductive Phase where
  | resolving (first : Option String)
  | asking (first : Option String) (listing : Listing)
  | failed (err : String)
  | returned (result : Except String (List UInt8))

/-- A call of `Exchange` that has passed its checks. -/
structure Flight where
  network : Network
  query : List UInt8
  name : List UInt8
  rounds : List Round := []
  phase : Phase := .resolving none

/-- The checks at the start of `Exchange`. -/
def beginExchange (u : Unicode) (network : String) (query : List UInt8) : Except String Flight :=
  match Network.ofString network with
  | none => .error ("unsupported DNS transport " ++ network)
  | some network =>
    if query.length < 12 then .error "DNS query is shorter than its header"
    else (dnsQuestionName u query).map fun name => { network, query, name }

/-- What `Exchange` does after `currentResolvers`. -/
def Flight.resolved (f : Flight) (first : Option String) (listing : Listing) :
    Except String (List Resolver) → Flight
  | .ok resolvers => { f with phase := .asking first { listing with resolvers } }
  | .error err => { f with phase := .returned (.error (first.getD err)) }

/-- What `Exchange` does after `exchangeSelected`; `alive` says that `ctx.Err()` is nil. -/
def Flight.answered (f : Flight) (alive : Bool) (first : Option String) (round : Round) : Flight :=
  let rounds := f.rounds ++ [round]
  match round.outcome, first, alive with
  | .error err, none, true => { f with rounds, phase := .failed err }
  | outcome, _, _ => { f with rounds, phase := .returned outcome }

/-- The calls of `Exchange` and what they share; `returned` has every list that the source has
returned. -/
structure SystemDNS where
  cache : Cache := {}
  now : ℕ := 0
  returned : List (List Resolver) := []
  flights : List Flight := []

def SystemDNS.Initial (s : SystemDNS) : Prop := s = {}

def recordLoad (returned : List (List Resolver)) :
    Option (Except String (List Resolver)) → List (List Resolver)
  | some (.ok resolvers) => resolvers :: returned
  | _ => returned

/-- The round that asks the nameservers of the resolver selected from a listing. -/
def Flight.round (u : Unicode) (f : Flight) (listing : Listing) (dial : ℕ → Except String Conn) :
    Round :=
  let (opened, outcome) := exchangeSelected u dial f.network f.name f.query listing.resolvers
  { listing with dial, opened, outcome }

inductive DnsEvent where
  | tick
  | exchange (network : String) (query : List UInt8)
  | resolve (i : ℕ) (loaded : Option (Except String (List Resolver)))
  | ask (i : ℕ) (dial : ℕ → Except String Conn) (alive : Bool)
  | invalidate (i : ℕ)

/-- The steps of the exchanges in any interleaving. What the source, the dialer, the nameservers and
the context do is data of the steps. -/
inductive DnsStep (u : Unicode) (reloadInterval : ℕ) (s : SystemDNS) : DnsEvent → SystemDNS → Prop
  | tick : DnsStep u reloadInterval s .tick { s with now := s.now + 1 }
  | exchange {network : String} {query : List UInt8} {f : Flight}
      (begun : beginExchange u network query = .ok f) :
      DnsStep u reloadInterval s (.exchange network query) { s with flights := s.flights ++ [f] }
  | resolve {i : ℕ} {f : Flight} {first : Option String} {cache : Cache}
      {loaded called : Option (Except String (List Resolver))}
      {result : Except String (List Resolver)} (flight : s.flights[i]? = some f)
      (phase : f.phase = .resolving first)
      (current : s.cache.currentResolvers reloadInterval s.now loaded = (result, cache))
      (calls : s.cache.called reloadInterval s.now loaded = called) :
      DnsStep u reloadInterval s (.resolve i loaded)
        { s with cache, returned := recordLoad s.returned called,
                 flights := s.flights.set i (f.resolved first ⟨s.cache.resolvers, called, []⟩ result) }
  | ask {i : ℕ} {f : Flight} {first : Option String} {listing : Listing}
      {dial : ℕ → Except String Conn} {alive : Bool} (flight : s.flights[i]? = some f)
      (phase : f.phase = .asking first listing) :
      DnsStep u reloadInterval s (.ask i dial alive)
        { s with flights := s.flights.set i (f.answered alive first (f.round u listing dial)) }
  | invalidate {i : ℕ} {f : Flight} {err : String} (flight : s.flights[i]? = some f)
      (phase : f.phase = .failed err) :
      DnsStep u reloadInterval s (.invalidate i)
        { s with cache := s.cache.invalidateResolvers,
                 flights := s.flights.set i { f with phase := .resolving (some err) } }

/-- The connections opened to some nameservers, over the network of the query and, where marked, once
more over TCP. -/
def connectionsOf (network : Network) (port : UInt16) (tried : List (Addr × Bool)) :
    List Connection :=
  tried.flatMap fun t => ⟨network, t.1, port⟩ :: if t.2 then [⟨.tcp, t.1, port⟩] else []

/-- The connections of one round: the first of the resolver's IPv4 nameservers, in list order. -/
def OpenedInOrder (network : Network) (resolver : Resolver) (opened : List Connection) : Prop :=
  ∃ tried : List (Addr × Bool), tried.map Prod.fst <+: resolver.nameservers.filter Addr.is4 ∧
    (∀ t ∈ tried, t.2 = true → network = .udp) ∧
    opened = connectionsOf network resolver.port tried

/-- What an exchange may return as a response that came over `network`. -/
structure GoodResponse (network : Network) (query response : List UInt8) : Prop where
  header : 12 ≤ response.length
  transaction : response.take 2 = query.take 2
  reply : response.getD 2 0 &&& 0x80 ≠ 0
  complete : network = .udp → dnsResponseTruncated response = false

theorem validateDNSResponse_ok {query response result : List UInt8}
    (h : validateDNSResponse query response = .ok result) :
    12 ≤ result.length ∧ result.take 2 = query.take 2 ∧ result.getD 2 0 &&& 0x80 ≠ 0 := by
  unfold validateDNSResponse at h
  split_ifs at h with hshort hid hreply
  cases h
  exact ⟨Nat.le_of_not_lt hshort, (not_not.mp hid).symm, hreply⟩

theorem bind_eq_ok {α β : Type} {x : Except String α} {k : α → Except String β} {b : β}
    (h : x >>= k = .ok b) : ∃ a, x = .ok a ∧ k a = .ok b := by
  cases x with
  | error err => cases h
  | ok a => exact ⟨a, rfl, h⟩

theorem exchangeOne_ok {dialed : Except String Conn} {network : Network} {query response : List UInt8}
    (h : exchangeOne dialed network query = .ok response) :
    12 ≤ response.length ∧ response.take 2 = query.take 2 ∧ response.getD 2 0 &&& 0x80 ≠ 0 := by
  unfold exchangeOne at h
  obtain ⟨conn, -, h⟩ := bind_eq_ok h
  cases network with
  | tcp =>
    obtain ⟨-, -, h⟩ := bind_eq_ok h
    obtain ⟨frame, -, h⟩ := bind_eq_ok h
    exact validateDNSResponse_ok h
  | udp =>
    dsimp only at h
    split at h
    · cases h
    · split at h
      · cases h
      · obtain ⟨datagram, -, h⟩ := bind_eq_ok h
        exact validateDNSResponse_ok h

section servers
variable {dial : ℕ → Except String Conn} {network : Network} {query : List UInt8} {port : UInt16}

variable {outcome : Except String (List UInt8)}

theorem exchangeServer_spec {calls : ℕ} {server : Addr} {attempts : List Connection}
    (h : exchangeServer dial network query port calls server = (attempts, outcome)) :
    ∃ again : Bool, (again = true → network = .udp) ∧
      attempts = ⟨network, server, port⟩ :: (if again then [⟨.tcp, server, port⟩] else []) ∧
      ∀ response, outcome = .ok response → ∃ last, attempts.getLast? = some last ∧
        exchangeOne (dial (calls + attempts.length - 1)) last.network query = .ok response ∧
        GoodResponse last.network query response := by
  unfold exchangeServer at h
  split at h
  · cases h
    exact ⟨false, by simp, rfl, by simp⟩
  · rename_i reply hreply
    obtain ⟨hheader, hid, hbit⟩ := exchangeOne_ok hreply
    split at h
    · rename_i htruncated
      cases h
      refine ⟨true, fun _ => htruncated.1, rfl, ?_⟩
      intro response hresp
      obtain ⟨hheader, hid, hbit⟩ := exchangeOne_ok hresp
      exact ⟨⟨.tcp, server, port⟩, rfl, hresp, hheader, hid, hbit, nofun⟩
    · rename_i hdone
      cases h
      refine ⟨false, by simp, rfl, ?_⟩
      intro response hresp
      cases hresp
      refine ⟨⟨network, server, port⟩, rfl, hreply, hheader, hid, hbit, ?_⟩
      intro hudp
      by_contra htruncated
      exact hdone ⟨hudp, by simpa using htruncated⟩

theorem exchangeServers_spec {servers : List Addr} {opened result : List Connection}
    {lastError : Option String}
    (h : exchangeServers dial network query port opened lastError servers = (result, outcome)) :
    ∃ tried : List (Addr × Bool), tried.map Prod.fst <+: servers.filter Addr.is4 ∧
      (∀ t ∈ tried, t.2 = true → network = .udp) ∧
      result = opened ++ connectionsOf network port tried ∧
      ∀ response, outcome = .ok response → ∃ last, result.getLast? = some last ∧
        exchangeOne (dial (result.length - 1)) last.network query = .ok response ∧
        GoodResponse last.network query response := by
  induction servers generalizing opened lastError with
  | nil =>
    cases h
    exact ⟨[], by simp, by simp, by simp [connectionsOf], by simp⟩
  | cons server servers ih =>
    unfold exchangeServers at h
    by_cases hfour : server.is4 = true
    · rw [if_neg (by simp [hfour])] at h
      rcases hserver : exchangeServer dial network query port opened.length server with
        ⟨attempts, reply⟩
      obtain ⟨again, hagain, hattempts, hreply⟩ := exchangeServer_spec hserver
      rw [hserver] at h
      dsimp only at h
      cases reply with
      | ok response =>
        cases h
        refine ⟨[(server, again)], ?_, by simpa using hagain, ?_, ?_⟩
        · simp [hfour]
        · simp [connectionsOf, hattempts]
        · intro reply hok
          cases hok
          obtain ⟨last, hlast, hone, hgood⟩ := hreply response rfl
          refine ⟨last, ?_, ?_, hgood⟩
          · rw [List.getLast?_append, hlast]
            rfl
          · rwa [length_append]
      | error err =>
        obtain ⟨tried, hprefix, hretries, hresult, hresp⟩ := ih h
        refine ⟨(server, again) :: tried, ?_, ?_, ?_, hresp⟩
        · simpa [hfour] using hprefix
        · intro t ht
          rcases mem_cons.mp ht with rfl | ht
          · exact hagain
          · exact hretries t ht
        · rw [hresult, hattempts]
          simp [connectionsOf]
    · rw [if_pos (by simpa using hfour)] at h
      obtain ⟨tried, hprefix, hrest⟩ := ih h
      exact ⟨tried, by simpa [hfour] using hprefix, hrest⟩

end servers

/-- A list that an exchange works with: one that the source has returned, and either the one in the
cache or the one just loaded. -/
structure Listing.FromSource (returned : List (List Resolver)) (l : Listing) : Prop where
  listed : l.resolvers ∈ returned
  origin : l.resolvers = l.cached ∨ l.loaded = some (.ok l.resolvers)

/-- A round keeps to the resolver selected for the name. -/
structure RoundStays (u : Unicode) (returned : List (List Resolver)) (network : Network)
    (name query : List UInt8) (round : Round) : Prop where
  source : round.toListing.FromSource returned
  selected : round.opened = [] ∨ ∃ resolver,
    selectResolver u round.resolvers name = .ok resolver ∧
      OpenedInOrder network resolver round.opened
  answer : ∀ response, round.outcome = .ok response → ∃ last, round.opened.getLast? = some last ∧
    exchangeOne (round.dial (round.opened.length - 1)) last.network query = .ok response ∧
    GoodResponse last.network query response

variable {u : Unicode} {f : Flight} {first : Option String} {rounds : List Round}
  {listing : Listing} {d cache : Cache} {reloadInterval now : ℕ}
  {loaded : Option (Except String (List Resolver))}

theorem round_stays {returned : List (List Resolver)} {l : Listing} (h : l.FromSource returned)
    (dial : ℕ → Except String Conn) :
    RoundStays u returned f.network f.name f.query (f.round u l dial) := by
  unfold Flight.round
  rcases hround : exchangeSelected u dial f.network f.name f.query l.resolvers with ⟨opened, outcome⟩
  unfold exchangeSelected at hround
  split at hround
  · cases hround
    exact ⟨h, .inl rfl, by simp⟩
  · rename_i resolver hselect
    obtain ⟨tried, hprefix, hretries, hopened, hanswer⟩ := exchangeServers_spec hround
    rw [nil_append] at hopened
    exact ⟨h, .inr ⟨resolver, hselect, tried, hprefix, hretries, hopened⟩, hanswer⟩

/-- The rounds before the present one: none, or the first one with its error. -/
def RoundsBefore : Option String → List Round → Prop
  | none, rounds => rounds = []
  | some err, rounds => ∃ round, rounds = [round] ∧ round.outcome = .error err

structure Finished (result : Except String (List UInt8)) (rounds : List Round) : Prop where
  two : rounds.length ≤ 2
  failure : ∀ a b, rounds = [a, b] → ∃ err, a.outcome = .error err
  last : ∀ response, result = .ok response →
    ∃ round, rounds.getLast? = some round ∧ round.outcome = .ok response

def PhaseHistory : Phase → List Round → Prop
  | .resolving first, rounds => RoundsBefore first rounds
  | .asking first _, rounds => RoundsBefore first rounds
  | .failed err, rounds => RoundsBefore (some err) rounds
  | .returned result, rounds => Finished result rounds

theorem finished_error (h : RoundsBefore first rounds) (err : String) :
    Finished (.error err) rounds := by
  cases first with
  | none =>
    cases h
    exact ⟨by simp, by simp, nofun⟩
  | some e =>
    obtain ⟨round, rfl, -⟩ := h
    exact ⟨by simp, by simp, nofun⟩

theorem finished_answered (h : RoundsBefore first rounds) (round : Round) :
    Finished round.outcome (rounds ++ [round]) := by
  cases first with
  | none =>
    cases h
    exact ⟨by simp, by simp, fun response hresp => ⟨round, by simp, hresp⟩⟩
  | some err =>
    obtain ⟨before, rfl, herror⟩ := h
    refine ⟨by simp, ?_, fun response hresp => ⟨round, by simp, hresp⟩⟩
    intro a b hrounds
    simp only [cons_append, nil_append, List.cons.injEq, and_true] at hrounds
    exact ⟨err, hrounds.1 ▸ herror⟩

theorem history_finished {phase : Phase} (h : PhaseHistory phase rounds) :
    rounds.length ≤ 2 ∧ ∀ a b, rounds = [a, b] → ∃ err, a.outcome = .error err := by
  have hbefore : ∀ first, RoundsBefore first rounds →
      rounds.length ≤ 2 ∧ ∀ a b, rounds = [a, b] → ∃ err, a.outcome = .error err := by
    intro first hfirst
    have hfinished := finished_error hfirst ""
    exact ⟨hfinished.two, hfinished.failure⟩
  cases phase with
  | resolving first => exact hbefore first h
  | asking first listing => exact hbefore first h
  | failed err => exact hbefore (some err) h
  | returned result => exact ⟨h.two, h.failure⟩

structure Flight.Stays (u : Unicode) (returned : List (List Resolver)) (f : Flight) : Prop where
  name : dnsQuestionName u f.query = .ok f.name
  rounds : ∀ round ∈ f.rounds, RoundStays u returned f.network f.name f.query round
  listing : ∀ first l, f.phase = .asking first l → l.FromSource returned
  history : PhaseHistory f.phase f.rounds

theorem Flight.Stays.mono {returned later : List (List Resolver)} (h : f.Stays u returned)
    (hle : returned ⊆ later) : f.Stays u later := by
  refine ⟨h.name, ?_, ?_, h.history⟩
  · intro round hround
    have hstays := h.rounds round hround
    exact ⟨⟨hle hstays.source.listed, hstays.source.origin⟩, hstays.selected, hstays.answer⟩
  · intro first l hl
    have hsource := h.listing first l hl
    exact ⟨hle hsource.listed, hsource.origin⟩

theorem beginExchange_stays {network : String} {query : List UInt8}
    (h : beginExchange u network query = .ok f) (returned : List (List Resolver)) :
    f.Stays u returned := by
  unfold beginExchange at h
  split at h
  · cases h
  · split_ifs at h
    cases hname : dnsQuestionName u query with
    | error err => simp [hname, Except.map] at h
    | ok name =>
      simp only [hname, Except.map, Except.ok.injEq] at h
      rw [← h]
      exact ⟨hname, by simp, nofun, rfl⟩

theorem subset_recordLoad (returned : List (List Resolver))
    (called : Option (Except String (List Resolver))) : returned ⊆ recordLoad returned called := by
  unfold recordLoad
  split <;> simp

theorem resolved_stays {returned : List (List Resolver)} {result : Except String (List Resolver)}
    (h : f.Stays u returned) (hphase : f.phase = .resolving first)
    (hsource : ∀ resolvers, result = .ok resolvers →
      { listing with resolvers : Listing }.FromSource returned) :
    (f.resolved first listing result).Stays u returned := by
  have hhistory : RoundsBefore first f.rounds := by simpa [hphase, PhaseHistory] using h.history
  cases result with
  | ok resolvers =>
    refine ⟨h.name, h.rounds, ?_, hhistory⟩
    intro first' l hl
    cases hl
    exact hsource resolvers rfl
  | error err => exact ⟨h.name, h.rounds, nofun, finished_error hhistory _⟩

theorem answered_stays {returned : List (List Resolver)} (h : f.Stays u returned)
    (hphase : f.phase = .asking first listing) (alive : Bool) (dial : ℕ → Except String Conn) :
    (f.answered alive first (f.round u listing dial)).Stays u returned := by
  have hhistory : RoundsBefore first f.rounds := by simpa [hphase, PhaseHistory] using h.history
  have hrounds : ∀ round ∈ f.rounds ++ [f.round u listing dial],
      RoundStays u returned f.network f.name f.query round := by
    intro round hround
    rcases mem_append.mp hround with hold | hnew
    · exact h.rounds round hold
    · rw [mem_singleton.mp hnew]
      exact round_stays (h.listing first listing hphase) dial
  unfold Flight.answered
  dsimp only
  split
  · rename_i err houtcome
    have hnone : f.rounds = [] := hhistory
    refine ⟨h.name, hrounds, nofun, f.round u listing dial, ?_, houtcome⟩
    show f.rounds ++ [f.round u listing dial] = [f.round u listing dial]
    rw [hnone, nil_append]
  · exact ⟨h.name, hrounds, nofun, finished_answered hhistory _⟩

/-- `currentResolvers` returns the cached list or the one it has loaded, and caches what it returns. -/
theorem currentResolvers_ok {resolvers : List Resolver}
    (h : d.currentResolvers reloadInterval now loaded = (.ok resolvers, cache)) :
    (resolvers = d.resolvers ∧ d.resolvers ≠ [] ∨
      d.called reloadInterval now loaded = some (.ok resolvers)) ∧ cache.resolvers = resolvers := by
  unfold Cache.currentResolvers at h
  unfold Cache.called
  split at h
  · rename_i hfresh
    cases h
    refine ⟨.inl ⟨rfl, ?_⟩, rfl⟩
    intro hempty
    unfold Cache.fresh at hfresh
    split at hfresh
    · cases hfresh
    · simp [hempty] at hfresh
  · rename_i hstale
    rw [if_neg hstale]
    split at h
    · cases h
    · split at h
      · rename_i hne
        cases h
        exact ⟨.inl ⟨rfl, hne⟩, rfl⟩
      · cases h
    · split at h
      · cases h
      · cases h
        exact ⟨.inr rfl, rfl⟩

theorem currentResolvers_error {err : String}
    (h : d.currentResolvers reloadInterval now loaded = (.error err, cache)) : cache = d := by
  unfold Cache.currentResolvers at h
  split at h
  · cases h
  · split at h
    · cases h
      rfl
    · split at h <;> cases h
      rfl
    · split at h <;> cases h
      rfl

structure SystemDNS.Sound (u : Unicode) (s : SystemDNS) : Prop where
  cached : s.cache.resolvers ≠ [] → s.cache.resolvers ∈ s.returned
  flights : ∀ f ∈ s.flights, f.Stays u s.returned

section steps
variable {u : Unicode} {reloadInterval : ℕ} {s t : SystemDNS}

theorem mem_recordLoad {returned : List (List Resolver)} {resolvers : List Resolver}
    {called : Option (Except String (List Resolver))} (h : called = some (.ok resolvers)) :
    resolvers ∈ recordLoad returned called := by
  rw [h]
  exact mem_cons_self

theorem flights_set {returned : List (List Resolver)} {flights : List Flight} {f : Flight} {i : ℕ}
    (h : ∀ g ∈ flights, g.Stays u returned) (hf : f.Stays u returned) :
    ∀ g ∈ flights.set i f, g.Stays u returned := by
  intro g hg
  rcases mem_or_eq_of_mem_set hg with hold | rfl
  · exact h g hold
  · exact hf

theorem step_sound {l : DnsEvent} (h : DnsStep u reloadInterval s l t) (hs : s.Sound u) : t.Sound u := by
  cases h with
  | tick => exact ⟨hs.cached, hs.flights⟩
  | exchange begun =>
    refine ⟨hs.cached, fun g hg => ?_⟩
    rcases mem_append.mp hg with hold | hnew
    · exact hs.flights g hold
    · rw [mem_singleton.mp hnew]
      exact beginExchange_stays begun s.returned
  | @resolve i f first cache loaded called result flight phase current calls =>
    have hsub := subset_recordLoad s.returned called
    have hflights : ∀ g ∈ s.flights, g.Stays u (recordLoad s.returned called) :=
      fun g hg => (hs.flights g hg).mono hsub
    have hlisted : ∀ resolvers, result = .ok resolvers →
        (resolvers = s.cache.resolvers ∨ called = some (.ok resolvers)) ∧
          resolvers ∈ recordLoad s.returned called := by
      rintro resolvers rfl
      rcases (currentResolvers_ok current).1 with ⟨rfl, hne⟩ | hloaded
      · exact ⟨.inl rfl, hsub (hs.cached hne)⟩
      · rw [calls] at hloaded
        exact ⟨.inr hloaded, mem_recordLoad hloaded⟩
    constructor
    · show cache.resolvers ≠ [] → cache.resolvers ∈ recordLoad s.returned called
      intro hne
      cases result with
      | ok resolvers =>
        rw [(currentResolvers_ok current).2]
        exact (hlisted resolvers rfl).2
      | error err =>
        rw [currentResolvers_error current] at hne ⊢
        exact hsub (hs.cached hne)
    · apply flights_set hflights
      apply resolved_stays (hflights f (mem_of_getElem? flight)) phase
      intro resolvers hresult
      obtain ⟨horigin, hmem⟩ := hlisted resolvers hresult
      exact ⟨hmem, horigin⟩
  | @ask i f first listing dial alive flight phase =>
    refine ⟨hs.cached, flights_set hs.flights ?_⟩
    exact answered_stays (hs.flights f (mem_of_getElem? flight)) phase alive dial
  | @invalidate i f err flight phase =>
    have hf := hs.flights f (mem_of_getElem? flight)
    refine ⟨hs.cached, flights_set hs.flights ⟨hf.name, hf.rounds, nofun, ?_⟩⟩
    simpa [phase, PhaseHistory] using hf.history

theorem reachable_sound (h : Reachable (DnsStep u reloadInterval) SystemDNS.Initial s) : s.Sound u := by
  apply h.invariant (I := fun s => s.Sound u)
  · rintro s rfl
    exact ⟨by simp, by simp⟩
  · intro s l t hstep hs
    exact step_sound hstep hs

end steps

/-- Every connection of every exchange goes to the resolver that is selected for the name of the query
from a list of the source, in at most two rounds, and what is returned is a response to the query that
came over the connection opened last. -/
theorem exchange_stays_selected (u : Unicode) (reloadInterval : ℕ) (s : SystemDNS)
    (h : Reachable (DnsStep u reloadInterval) SystemDNS.Initial s) (f : Flight) (hf : f ∈ s.flights) :
    dnsQuestionName u f.query = .ok f.name ∧ f.rounds.length ≤ 2 ∧
      (∀ a b, f.rounds = [a, b] → ∃ err, a.outcome = .error err) ∧
      (∀ round ∈ f.rounds, RoundStays u s.returned f.network f.name f.query round) ∧
      ∀ response, f.phase = .returned (.ok response) → ∃ round last, round ∈ f.rounds ∧
        round.opened.getLast? = some last ∧
        exchangeOne (round.dial (round.opened.length - 1)) last.network f.query = .ok response ∧
        GoodResponse last.network f.query response := by
  have hstays := (reachable_sound h).flights f hf
  obtain ⟨htwo, hfailure⟩ := history_finished hstays.history
  refine ⟨hstays.name, htwo, hfailure, hstays.rounds, ?_⟩
  intro response hphase
  have hfinished : Finished (.ok response) f.rounds := by
    simpa [hphase, PhaseHistory] using hstays.history
  obtain ⟨round, hlast, houtcome⟩ := hfinished.last response rfl
  have hround := mem_of_getLast? hlast
  obtain ⟨last, hopened, hone, hgood⟩ := (hstays.rounds round hround).answer response houtcome
  exact ⟨round, last, hround, hopened, hone, hgood⟩

/-- A reply to the query with these flags in its third byte. -/
def replyTo (query : List UInt8) (flags : UInt8) : List UInt8 := query.set 2 flags

def corpQuery : List UInt8 := queryFor [ascii "a", ascii "corp"]

def corpDial (call : ℕ) : Except String Conn :=
  if call = 0 then .ok ⟨fun payload => (payload.length, none), .ok (replyTo corpQuery 0x82)⟩
  else
    .ok ⟨fun payload => (payload.length, none),
      .ok (bigEndian 2 corpQuery.length ++ replyTo corpQuery 0x80)⟩

def corpFlight : Flight := { network := .udp, query := corpQuery, name := ascii "a.corp" }

def corpAsking : Flight :=
  { corpFlight with phase := .asking none ⟨[], some (.ok [corpResolver]), [corpResolver]⟩ }

def corpLoaded : SystemDNS :=
  { cache := ⟨some 0, [corpResolver]⟩, returned := [[corpResolver]], flights := [corpAsking] }

def corpAnswered : Flight :=
  corpAsking.answered true none
    (corpAsking.round plainUnicode ⟨[], some (.ok [corpResolver]), [corpResolver]⟩ corpDial)

theorem corp_beginExchange : beginExchange plainUnicode "udp" corpQuery = .ok corpFlight := by
  have hname : dnsQuestionName plainUnicode corpQuery = .ok (ascii "a.corp") := by
    unfold dnsQuestionName corpQuery
    rw [questionLabels_queryFor acceptedLabel_plain]
    rfl
  unfold beginExchange
  rw [hname]
  rfl

theorem corp_reachable : Reachable (DnsStep plainUnicode 30) SystemDNS.Initial
    { corpLoaded with flights := [corpAnswered] } := by
  have hcall : Reachable (DnsStep plainUnicode 30) SystemDNS.Initial { flights := [corpFlight] } :=
    Reachable.next (.start rfl) (DnsStep.exchange corp_beginExchange)
  have hload : DnsStep plainUnicode 30 { flights := [corpFlight] }
      (.resolve 0 (some (.ok [corpResolver]))) corpLoaded :=
    .resolve (f := corpFlight) rfl rfl rfl rfl
  have hask : DnsStep plainUnicode 30 corpLoaded (.ask 0 corpDial true)
      { corpLoaded with flights := [corpAnswered] } :=
    .ask (f := corpAsking) rfl rfl
  exact (hcall.next hload).next hask

/-- The truncated reply is not returned. -/
theorem exchange_stays_selected_truncated :
    corpAnswered.phase = .returned (.ok (replyTo corpQuery 0x80)) ∧
      ∃ round last, round ∈ corpAnswered.rounds ∧ round.opened.getLast? = some last ∧
        exchangeOne (round.dial (round.opened.length - 1)) last.network corpQuery =
          .ok (replyTo corpQuery 0x80) ∧
        GoodResponse last.network corpQuery (replyTo corpQuery 0x80) := by
  have hphase : corpAnswered.phase = .returned (.ok (replyTo corpQuery 0x80)) := by rfl
  exact ⟨hphase, (exchange_stays_selected plainUnicode 30 _ corp_reachable corpAnswered
    (by simp)).2.2.2.2 _ hphase⟩

end HarmonyNetBridge.Relay
