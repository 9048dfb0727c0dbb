import HarmonyNetBridge.Transition.Runs
import HarmonyNetBridge.Proxy.WriteCalls

/-! The calls on one `hostnameSniffingConn`, in any interleaving: a section under `mu` is one step,
and one call of `Write` at a time holds `writeMu`. -/
namespace HarmonyNetBridge.Proxy
open Transition Bytes Function

inductive ProxyConn where
  | absent
  | opened
  | closed
  deriving DecidableEq, Repr

/-- Where the call of `Write` stands that holds `writeMu`. The connections to the proxy have the
numbers of their dials. -/
inductive Writer where
  | locked (payload : List UInt8)
  | forwarding (k : ℕ)
  | dialing (target : List UInt8)
  | connecting (k : ℕ) (target : List UInt8)
  | refused (k : ℕ) (err : String)
  | settling (outcome : Except String ℕ)
  | flushing (k : ℕ)

namespace Writer

/-- `c.direct` has returned to `establish`. -/
def dialed : Writer → Bool
  | connecting .. | refused .. | settling _ => true
  | _ => false

def establishing : Writer → Bool
  | dialing _ => true
  | w => w.dialed

/-- The call will close the connection or hand it over. -/
def Holds (k : ℕ) : Writer → Prop
  | connecting j _ | refused j _ | settling (.ok j) => j = k
  | _ => False

end Writer

inductive Reader where
  | waiting
  | released
  | reading (k : ℕ)
  deriving DecidableEq, Repr

/-- A call of `Close`, before its section or with the connection that it closes. -/
inductive Closer where
  | entering
  | closing (k : ℕ)
  deriving DecidableEq, Repr

/-- The connection with the calls in flight; `writes` are those that wait for `writeMu` and `halves`
those of `CloseRead` and `CloseWrite`. `established` says that a call of `establish` has finished. -/
structure Lifecycle where
  destination : List UInt8
  destinationPort : ℕ
  connection : Option ℕ := none
  pending : List UInt8 := []
  initErr : Option String := none
  closed : Bool := false
  ready : Bool := false
  writer : Option Writer := none
  writes : List (List UInt8) := []
  reads : List Reader := []
  closes : List Closer := []
  halves : List Closer := []
  dials : ℕ := 0
  proxy : ℕ → ProxyConn := fun _ => .absent
  established : Bool := false

namespace Lifecycle

def hangUp (s : Lifecycle) (k : ℕ) : Lifecycle :=
  { s with proxy := update s.proxy k .closed }

/-- The section of `Write`. -/
def writeSection (u : Unicode) (ipv6 : List UInt8 → Bool)
    (readRequest : List UInt8 → Option (List UInt8)) (s : Lifecycle) (payload : List UInt8) :
    Lifecycle :=
  match s.connection with
  | some k => { s with writer := some (.forwarding k) }
  | none =>
    if s.closed ∨ s.initErr.isSome then { s with writer := none }
    else
      match decision u ipv6 readRequest s.destination s.destinationPort s.pending payload with
      | none => { s with pending := s.pending ++ payload, writer := none }
      | some target => { s with pending := [], writer := some (.dialing target) }

/-- The section of `establish`. -/
def settle (s : Lifecycle) (outcome : Except String ℕ) : Lifecycle :=
  let s := { s with established := true, ready := true }
  match outcome with
  | .ok k =>
    if s.closed then { s.hangUp k with initErr := some errClosed, writer := none }
    else { s with connection := some k, writer := some (.flushing k) }
  | .error err =>
    { s with initErr := some (if s.closed then errClosed else err), writer := none }

/-- The section of `Close`, for a call that stands between the others. -/
def closeSection (s : Lifecycle) (before after : List Closer) : Lifecycle :=
  if s.closed then { s with closes := before ++ after }
  else
    { s with
      closed := true
      initErr := some (s.initErr.getD errClosed)
      ready := true
      closes := before ++ (s.connection.map Closer.closing).toList ++ after }

/-- The section of `CloseRead` and `CloseWrite`; without a connection they call `Close`. -/
def halfSection (s : Lifecycle) (before after : List Closer) : Lifecycle :=
  match s.connection with
  | none => { s with halves := before ++ after, closes := .entering :: s.closes }
  | some k => { s with halves := before ++ .closing k :: after }

end Lifecycle

inductive LifeEvent where
  | call
  | writer
  | reader
  | closer
  deriving DecidableEq, Repr

inductive LifeStep (u : Unicode) (ipv6 : List UInt8 → Bool)
    (readRequest : List UInt8 → Option (List UInt8)) (s : Lifecycle) :
    LifeEvent → Lifecycle → Prop
  | write (payload : List UInt8) :
      LifeStep u ipv6 readRequest s .call { s with writes := payload :: s.writes }
  | read : LifeStep u ipv6 readRequest s .call { s with reads := .waiting :: s.reads }
  | close : LifeStep u ipv6 readRequest s .call { s with closes := .entering :: s.closes }
  | closeHalf : LifeStep u ipv6 readRequest s .call { s with halves := .entering :: s.halves }
  | lock {before after : List (List UInt8)} {payload : List UInt8}
      (queue : s.writes = before ++ payload :: after) (free : s.writer = none) :
      LifeStep u ipv6 readRequest s .writer
        { s with writes := before ++ after, writer := some (.locked payload) }
  | writeSection {payload : List UInt8} (stage : s.writer = some (.locked payload)) :
      LifeStep u ipv6 readRequest s .writer (s.writeSection u ipv6 readRequest payload)
  /-- `connection.Write` and `writeAllConnection` return, and `Write` with them. -/
  | written {k : ℕ} (stage : s.writer = some (.forwarding k) ∨ s.writer = some (.flushing k)) :
      LifeStep u ipv6 readRequest s .writer { s with writer := none }
  | dialFails {target : List UInt8} (err : String) (stage : s.writer = some (.dialing target)) :
      LifeStep u ipv6 readRequest s .writer
        { s with writer := some (.settling (.error err)), dials := s.dials + 1 }
  | dialed {target : List UInt8} (stage : s.writer = some (.dialing target)) :
      LifeStep u ipv6 readRequest s .writer
        { s with
          writer := some (.connecting s.dials target)
          dials := s.dials + 1
          proxy := update s.proxy s.dials .opened }
  | connectFails {k : ℕ} {target : List UInt8} (err : String)
      (stage : s.writer = some (.connecting k target)) :
      LifeStep u ipv6 readRequest s .writer { s with writer := some (.refused k err) }
  | refused {k : ℕ} {err : String} (stage : s.writer = some (.refused k err)) :
      LifeStep u ipv6 readRequest s .writer
        { s.hangUp k with writer := some (.settling (.error err)) }
  | connected {k : ℕ} {target : List UInt8} (stage : s.writer = some (.connecting k target)) :
      LifeStep u ipv6 readRequest s .writer { s with writer := some (.settling (.ok k)) }
  | settle {outcome : Except String ℕ} (stage : s.writer = some (.settling outcome)) :
      LifeStep u ipv6 readRequest s .writer (s.settle outcome)
  /-- The receive from `ready` returns. -/
  | released {before after : List Reader} (queue : s.reads = before ++ .waiting :: after)
      (ready : s.ready = true) :
      LifeStep u ipv6 readRequest s .reader { s with reads := before ++ .released :: after }
  | readSection {before after : List Reader} (queue : s.reads = before ++ .released :: after) :
      LifeStep u ipv6 readRequest s .reader
        { s with reads := before ++ (s.connection.map Reader.reading).toList ++ after }
  | readReturns {before after : List Reader} {k : ℕ}
      (queue : s.reads = before ++ .reading k :: after) :
      LifeStep u ipv6 readRequest s .reader { s with reads := before ++ after }
  | closeSection {before after : List Closer} (queue : s.closes = before ++ .entering :: after) :
      LifeStep u ipv6 readRequest s .closer (s.closeSection before after)
  | closes {before after : List Closer} {k : ℕ} (queue : s.closes = before ++ .closing k :: after) :
      LifeStep u ipv6 readRequest s .closer { s.hangUp k with closes := before ++ after }
  | halfSection {before after : List Closer} (queue : s.halves = before ++ .entering :: after) :
      LifeStep u ipv6 readRequest s .closer (s.halfSection before after)
  | halfCloses {before after : List Closer} {k : ℕ}
      (queue : s.halves = before ++ .closing k :: after) :
      LifeStep u ipv6 readRequest s .closer { s with halves := before ++ after }

namespace Lifecycle

def Fresh (s : Lifecycle) : Prop :=
  ∃ destination destinationPort, s = { destination, destinationPort }

/-- The invariant of the establishment: it happens once at most, and its stage says whether the proxy
has been dialed. -/
structure Established (s : Lifecycle) : Prop where
  ready : s.ready = true ↔ s.established = true ∨ s.closed = true
  settled : s.established = true → s.connection.isSome = true ∨ s.initErr.isSome = true
  connected : s.connection.isSome = true → s.established = true
  establishing : s.writer.any Writer.establishing = true → s.established = false
  dials : s.dials = s.established.toNat + (s.writer.any Writer.dialed).toNat

/-- Somebody will close every connection that is open, unless it is the one in use. -/
def Attended (s : Lifecycle) : Prop :=
  ∀ k, s.proxy k = .opened →
    (s.connection = some k ∧ (s.closed = true → .closing k ∈ s.closes)) ∨
      ∃ w, s.writer = some w ∧ w.Holds k

section
variable {u : Unicode} {ipv6 : List UInt8 → Bool} {readRequest : List UInt8 → Option (List UInt8)}
  {s t : Lifecycle} {e : LifeEvent}

variable {w : Writer} {payload : List UInt8} {outcome : Except String ℕ} {k : ℕ}

theorem Established.dials_eq (h : s.Established) (stage : s.writer = some w) :
    s.dials = s.established.toNat + w.dialed.toNat := by
  have hdials := h.dials
  rwa [stage] at hdials

theorem Established.not_established (h : s.Established) (stage : s.writer = some w)
    (hw : w.establishing = true) : s.established = false := h.establishing (by rw [stage]; exact hw)

theorem Established.writeSection (h : s.Established) (stage : s.writer = some (.locked payload)) :
    (s.writeSection u ipv6 readRequest payload).Established := by
  have hdials : s.dials = s.established.toNat := h.dials_eq stage
  unfold Lifecycle.writeSection
  split
  · exact ⟨h.ready, h.settled, h.connected, fun hpending => absurd hpending Bool.false_ne_true, hdials⟩
  rename_i hnone
  split
  · exact ⟨h.ready, h.settled, h.connected, fun hpending => absurd hpending Bool.false_ne_true, hdials⟩
  rename_i hopen
  split
  · exact ⟨h.ready, h.settled, h.connected, fun hpending => absurd hpending Bool.false_ne_true, hdials⟩
  · have hfalse : s.established = false := by
      rw [Bool.eq_false_iff]
      intro hest
      rcases h.settled hest with hsome | herr
      · rw [hnone] at hsome
        cases hsome
      · exact hopen (.inr herr)
    exact ⟨h.ready, h.settled, h.connected, fun _ => hfalse, hdials⟩

theorem Established.settle (h : s.Established) (stage : s.writer = some (.settling outcome)) :
    (s.settle outcome).Established := by
  have hdials := h.dials_eq stage
  rw [h.not_established stage rfl] at hdials
  unfold Lifecycle.settle
  cases outcome with
  | error err =>
    exact ⟨by simp, fun _ => .inr rfl, fun _ => rfl, nofun, hdials⟩
  | ok k =>
    dsimp only
    split
    · exact ⟨by simp [hangUp], fun _ => .inr rfl, fun _ => rfl, nofun, hdials⟩
    · exact ⟨by simp, fun _ => .inl rfl, fun _ => rfl, nofun, hdials⟩

theorem Established.closeSection (h : s.Established) (before after : List Closer) :
    (s.closeSection before after).Established := by
  unfold Lifecycle.closeSection
  split
  · exact ⟨h.ready, h.settled, h.connected, h.establishing, h.dials⟩
  · exact ⟨by simp, fun _ => .inr rfl, h.connected, h.establishing, h.dials⟩

theorem Established.halfSection (h : s.Established) (before after : List Closer) :
    (s.halfSection before after).Established := by
  unfold Lifecycle.halfSection
  split <;> exact ⟨h.ready, h.settled, h.connected, h.establishing, h.dials⟩

theorem Established.step (h : s.Established) (hstep : LifeStep u ipv6 readRequest s e t) :
    t.Established := by
  cases hstep with
  | write | read | close | closeHalf | released | readSection | readReturns | closes | halfCloses =>
    exact ⟨h.ready, h.settled, h.connected, h.establishing, h.dials⟩
  | lock queue free =>
    have hdials := h.dials
    rw [free] at hdials
    exact ⟨h.ready, h.settled, h.connected, nofun, hdials⟩
  | writeSection stage => exact h.writeSection stage
  | written stage =>
    refine ⟨h.ready, h.settled, h.connected, nofun, ?_⟩
    rcases stage with stage | stage <;> exact h.dials_eq stage
  | dialFails err stage | dialed stage =>
    refine ⟨h.ready, h.settled, h.connected, fun _ => h.not_established stage rfl, ?_⟩
    exact congrArg (· + 1) (h.dials_eq stage)
  | connectFails err stage | refused stage | connected stage =>
    exact ⟨h.ready, h.settled, h.connected, fun _ => h.not_established stage rfl, h.dials_eq stage⟩
  | settle stage => exact h.settle stage
  | closeSection queue => exact h.closeSection _ _
  | halfSection queue => exact h.halfSection _ _

/-- Once the proxy has been dialed nobody dials again. -/
theorem Established.dials_le (h : s.Established) : s.dials ≤ 1 := by
  have hdials := h.dials
  cases hwriter : s.writer with
  | none =>
    rw [hwriter] at hdials
    exact hdials.trans_le (Bool.toNat_le _)
  | some w =>
    rw [hwriter] at hdials
    cases hdialed : w.dialed with
    | false =>
      rw [Option.any_some, hdialed] at hdials
      exact hdials.trans_le (Bool.toNat_le _)
    | true =>
      have hestablishing : w.establishing = true := by cases w <;> first | rfl | cases hdialed
      rw [Option.any_some, hdialed, h.not_established hwriter hestablishing] at hdials
      exact hdials.le

theorem opened_of_hangUp {j : ℕ} (h : (s.hangUp k).proxy j = .opened) :
    j ≠ k ∧ s.proxy j = .opened := by
  change update s.proxy k .closed j = .opened at h
  by_cases hjk : j = k
  · rw [hjk, update_self] at h
    cases h
  · rw [update_of_ne hjk] at h
    exact ⟨hjk, h⟩

theorem Attended.in_use (h : s.Attended) (hk : s.proxy k = .opened)
    (hwriter : ∀ w, s.writer = some w → ¬ w.Holds k) :
    s.connection = some k ∧ (s.closed = true → .closing k ∈ s.closes) := by
  rcases h k hk with huse | ⟨w, hw, hheld⟩
  · exact huse
  · exact absurd hheld (hwriter w hw)

theorem not_holds_of_stage (stage : s.writer = some w) (hfree : ¬ w.Holds k) :
    ∀ w', s.writer = some w' → ¬ w'.Holds k := by
  intro w' hw'
  rw [stage] at hw'
  cases hw'
  exact hfree

theorem Attended.of_in_use (h : s.Attended) (hproxy : t.proxy = s.proxy)
    (hconn : t.connection = s.connection) (hclosed : t.closed = s.closed)
    (hcloses : t.closes = s.closes) (hwriter : ∀ w, s.writer = some w → ∀ k, ¬ w.Holds k) :
    t.Attended := by
  intro k hk
  rw [hproxy] at hk
  rw [hconn, hclosed, hcloses]
  exact .inl (h.in_use hk fun w hw => hwriter w hw k)

theorem Attended.writeSection (h : s.Attended) (stage : s.writer = some (.locked payload)) :
    (s.writeSection u ipv6 readRequest payload).Attended := by
  have hwriter : ∀ w, s.writer = some w → ∀ k, ¬ w.Holds k :=
    fun w hw k => not_holds_of_stage stage id w hw
  unfold Lifecycle.writeSection
  split
  · exact h.of_in_use rfl rfl rfl rfl hwriter
  split
  · exact h.of_in_use rfl rfl rfl rfl hwriter
  split <;> exact h.of_in_use rfl rfl rfl rfl hwriter

theorem Attended.settle (h : s.Attended) (hs : s.Established)
    (stage : s.writer = some (.settling outcome)) : (s.settle outcome).Attended := by
  have hunused : ∀ k, s.connection ≠ some k := by
    intro k hsome
    have hfalse := hs.not_established stage rfl
    rw [hs.connected (Option.isSome_of_eq_some hsome)] at hfalse
    cases hfalse
  intro k hk
  unfold Lifecycle.settle at hk ⊢
  cases outcome with
  | error err =>
    exact absurd (h.in_use hk (not_holds_of_stage stage id)).1 (hunused k)
  | ok j =>
    dsimp only at hk ⊢
    split at hk
    · obtain ⟨hkj, hopened⟩ := opened_of_hangUp hk
      exact absurd (h.in_use hopened (not_holds_of_stage stage hkj.symm)).1 (hunused k)
    · rename_i hopen
      rw [if_neg hopen]
      rcases h k hk with huse | ⟨w, hw, hheld⟩
      · exact absurd huse.1 (hunused k)
      · rw [stage] at hw
        cases hw
        cases hheld
        exact .inl ⟨rfl, fun hclosed => absurd hclosed hopen⟩

theorem Attended.closeSection (h : s.Attended) {before after : List Closer}
    (queue : s.closes = before ++ .entering :: after) : (s.closeSection before after).Attended := by
  intro k hk
  unfold Lifecycle.closeSection at hk ⊢
  split
  · rename_i hclosed
    rw [if_pos hclosed] at hk
    rcases h k hk with ⟨huse, hclosing⟩ | hheld
    · refine .inl ⟨huse, fun _ => ?_⟩
      have hmem := hclosing hclosed
      rw [queue] at hmem
      simpa using hmem
    · exact .inr hheld
  · rename_i hopen
    rw [if_neg hopen] at hk
    rcases h k hk with ⟨huse, -⟩ | hheld
    · refine .inl ⟨huse, fun _ => ?_⟩
      simp [huse]
    · exact .inr hheld

theorem Attended.step (h : s.Attended) (hs : s.Established)
    (hstep : LifeStep u ipv6 readRequest s e t) : t.Attended := by
  cases hstep with
  | write | read | closeHalf | released | readSection | readReturns | halfCloses => exact h
  | close =>
    intro k hk
    exact (h k hk).imp_left fun huse =>
      ⟨huse.1, fun hclosed => List.mem_cons_of_mem _ (huse.2 hclosed)⟩
  | lock queue free =>
    exact h.of_in_use rfl rfl rfl rfl (fun w hw => by rw [free] at hw; cases hw)
  | writeSection stage => exact h.writeSection stage
  | written stage =>
    refine h.of_in_use rfl rfl rfl rfl ?_
    intro w hw k
    rcases stage with stage | stage
    · exact not_holds_of_stage stage id w hw
    · exact not_holds_of_stage stage id w hw
  | dialFails err stage =>
    exact h.of_in_use rfl rfl rfl rfl fun w hw k => not_holds_of_stage stage id w hw
  | dialed stage =>
    intro k hk
    by_cases hnew : k = s.dials
    · exact .inr ⟨_, rfl, hnew.symm⟩
    · change update s.proxy s.dials .opened k = .opened at hk
      rw [update_of_ne hnew] at hk
      exact .inl (h.in_use hk (not_holds_of_stage stage id))
  | connectFails err stage | connected stage =>
    intro k hk
    rcases h k hk with huse | ⟨w, hw, hheld⟩
    · exact .inl huse
    · rw [stage] at hw
      cases hw
      exact .inr ⟨_, rfl, hheld⟩
  | refused stage =>
    intro k hk
    obtain ⟨hkj, hopened⟩ := opened_of_hangUp hk
    exact .inl (h.in_use hopened (not_holds_of_stage stage hkj.symm))
  | settle stage => exact h.settle hs stage
  | closeSection queue => exact h.closeSection queue
  | closes queue =>
    intro k hk
    obtain ⟨hkj, hopened⟩ := opened_of_hangUp hk
    rcases h k hopened with ⟨huse, hclosing⟩ | hheld
    · refine .inl ⟨huse, fun hclosed => ?_⟩
      have hmem := hclosing hclosed
      rw [queue] at hmem
      simpa [hkj] using hmem
    · exact .inr hheld
  | halfSection queue =>
    intro k hk
    unfold Lifecycle.halfSection at hk ⊢
    split at hk
    · exact (h k hk).imp_left fun huse =>
        ⟨huse.1, fun hclosed => List.mem_cons_of_mem _ (huse.2 hclosed)⟩
    · exact h k hk

theorem reachable_invariant (h : Reachable (LifeStep u ipv6 readRequest) Fresh s) :
    s.Established ∧ s.Attended := by
  apply h.invariant (I := fun s => s.Established ∧ s.Attended)
  · rintro s ⟨destination, destinationPort, rfl⟩
    exact ⟨⟨by simp, nofun, nofun, nofun, rfl⟩, nofun⟩
  · rintro s e t hstep ⟨hest, hattended⟩
    exact ⟨hest.step hstep, hattended.step hest hstep⟩

/-- Once `ready` is closed a call of `Read` comes to its end by steps of its own. -/
theorem read_returns (u : Unicode) (ipv6 : List UInt8 → Bool)
    (readRequest : List UInt8 → Option (List UInt8)) {r : Reader} {before after : List Reader}
    (hready : s.ready = true) (queue : s.reads = before ++ r :: after) :
    ∃ ls t, Run (Guarded (LifeStep u ipv6 readRequest) fun _ e => e = .reader) s ls t ∧
      t.reads = before ++ after := by
  have hreading : ∀ (t : Lifecycle) (k : ℕ), t.reads = before ++ .reading k :: after →
      ∃ ls t', Run (Guarded (LifeStep u ipv6 readRequest) fun _ e => e = .reader) t ls t' ∧
        t'.reads = before ++ after :=
    fun t k hqueue => ⟨_, _, .single ⟨.readReturns hqueue, rfl⟩, rfl⟩
  have hreleased : ∀ t : Lifecycle, t.reads = before ++ .released :: after →
      ∃ ls t', Run (Guarded (LifeStep u ipv6 readRequest) fun _ e => e = .reader) t ls t' ∧
        t'.reads = before ++ after := by
    intro t hqueue
    have hsection : LifeStep u ipv6 readRequest t .reader
        { t with reads := before ++ (t.connection.map Reader.reading).toList ++ after } :=
      .readSection hqueue
    cases hconn : t.connection with
    | none => exact ⟨_, _, .single ⟨hsection, rfl⟩, by simp [hconn]⟩
    | some k =>
      obtain ⟨ls, t', hrun, hreads⟩ := hreading
        { t with reads := before ++ (t.connection.map Reader.reading).toList ++ after } k
        (by simp [hconn])
      exact ⟨_, t', .cons ⟨hsection, rfl⟩ hrun, hreads⟩
  cases r with
  | reading k => exact hreading s k queue
  | released => exact hreleased s queue
  | waiting =>
    obtain ⟨ls, t, hrun, hreads⟩ := hreleased { s with reads := before ++ .released :: after } rfl
    exact ⟨_, t, .cons ⟨.released queue hready, rfl⟩ hrun, hreads⟩

/-- The fields of a connection that the calls of `Write` share with `SniffingConn`. -/
structure Shows (s : Lifecycle) (c : SniffingConn) : Prop where
  destination : s.destination = c.destination
  destinationPort : s.destinationPort = c.destinationPort
  connection : s.connection.isSome = c.connection.isSome
  pending : s.pending = c.pending
  initErr : s.initErr = c.initErr
  closed : s.closed = c.closed

/-- `establish` for the call that decides, from its dial to its section. -/
theorem Shows.establish {c : SniffingConn} {target : List UInt8} (h : s.Shows c)
    (hopen : s.closed = false) (stage : s.writer = some (.dialing target)) (out : Outside)
    (tunnel : Tunnel) : ∃ ls t, Run (LifeStep u ipv6 readRequest) s ls t ∧ t.writer = none ∧
      t.Shows (match out.connectError with
        | some err => { c with initErr := some err }
        | none => { c with connection := some tunnel }) := by
  cases out.connectError with
  | some err =>
    have hfails : LifeStep u ipv6 readRequest s .writer _ := .dialFails err stage
    refine ⟨_, _, .cons hfails <| .single (.settle rfl), rfl, ?_⟩
    refine ⟨h.destination, h.destinationPort, h.connection, h.pending, ?_, h.closed⟩
    simp [Lifecycle.settle, hopen]
  | none =>
    have hdialed : LifeStep u ipv6 readRequest s .writer _ := .dialed stage
    have hsettled : Lifecycle.settle
        { s with
          writer := some (.settling (.ok s.dials))
          dials := s.dials + 1
          proxy := update s.proxy s.dials .opened } (.ok s.dials) =
        { s with
          connection := some s.dials
          writer := some (.flushing s.dials)
          dials := s.dials + 1
          proxy := update s.proxy s.dials .opened
          established := true
          ready := true } := by
      simp [Lifecycle.settle, hopen]
    have hsettle : LifeStep u ipv6 readRequest
        { s with
          writer := some (.settling (.ok s.dials))
          dials := s.dials + 1
          proxy := update s.proxy s.dials .opened } .writer _ := .settle rfl
    rw [hsettled] at hsettle
    refine ⟨_, _, .cons hdialed <| .cons (.connected rfl) <| .cons hsettle <|
      .single (.written (.inr rfl)), rfl, ?_⟩
    exact ⟨h.destination, h.destinationPort, rfl, h.pending, h.initErr, h.closed⟩

/-- A call of `Write` that nobody interrupts does what `SniffingConn.write` says. -/
theorem Shows.write {c : SniffingConn} {payload : List UInt8} (h : s.Shows c)
    (stage : s.writer = some (.locked payload)) (out : Outside) :
    ∃ ls t, Run (LifeStep u ipv6 readRequest) s ls t ∧ t.writer = none ∧
      t.Shows (c.write u ipv6 readRequest out payload).2 := by
  have hsection : LifeStep u ipv6 readRequest s .writer _ := .writeSection stage
  unfold Lifecycle.writeSection at hsection
  split at hsection
  · rename_i k hconn
    obtain ⟨tunnel, htunnel⟩ : ∃ tunnel, c.connection = some tunnel := by
      have hsome := h.connection
      rw [hconn] at hsome
      exact Option.isSome_iff_exists.mp hsome.symm
    refine ⟨_, _, .cons hsection <| .single (.written (.inl rfl)), rfl, ?_⟩
    unfold SniffingConn.write
    rw [htunnel]
    refine ⟨h.destination, h.destinationPort, ?_, h.pending, h.initErr, h.closed⟩
    exact congrArg Option.isSome hconn
  rename_i hconn
  have hnone : c.connection = none := by simpa [hconn] using h.connection.symm
  split at hsection
  · rename_i hrefused
    rw [h.closed, h.initErr] at hrefused
    refine ⟨_, _, .single hsection, rfl, ?_⟩
    unfold SniffingConn.write
    rw [hnone]
    dsimp only
    rw [if_pos hrefused]
    exact ⟨h.destination, h.destinationPort, h.connection, h.pending, h.initErr, h.closed⟩
  rename_i hopen
  rw [h.closed, h.initErr] at hopen
  have hsettled : ¬c.Settled := by simpa [SniffingConn.Settled, hnone] using hopen
  have hdecision : decision u ipv6 readRequest s.destination s.destinationPort s.pending payload =
      c.establishes u ipv6 readRequest payload := by
    rw [SniffingConn.establishes, if_neg hsettled, h.destination, h.destinationPort, h.pending]
  rw [hdecision] at hsection
  cases hestablishes : c.establishes u ipv6 readRequest payload with
  | none =>
    rw [hestablishes] at hsection
    refine ⟨_, _, .single hsection, rfl, ?_⟩
    rw [SniffingConn.write_waits hsettled hestablishes]
    refine ⟨h.destination, h.destinationPort, h.connection, ?_, h.initErr, h.closed⟩
    exact congrArg (· ++ payload) h.pending
  | some target =>
    rw [hestablishes] at hsection
    obtain ⟨tunnel, -, hafter⟩ := SniffingConn.write_decides out hestablishes
    have hfalse : s.closed = false := h.closed.trans (SniffingConn.not_settled_iff.mp hsettled).2.1
    have hshows : Shows { s with pending := [], writer := some (.dialing target) }
        { c with pending := [] } :=
      ⟨h.destination, h.destinationPort, h.connection, rfl, h.initErr, h.closed⟩
    obtain ⟨ls, t, hrun, hwriter, ht⟩ := hshows.establish hfalse rfl out tunnel
    rw [hafter]
    exact ⟨_, t, .cons hsection hrun, hwriter, ht⟩

end
end Lifecycle

/-- In every interleaving of the calls the proxy is dialed once at most, `ready` is closed just when an
`establish` has finished or `Close` was called, and after `Close` the other calls leave no connection
open when they have returned, and every call of `Read` can end by steps of the readers alone. -/
theorem lifecycle_safe (u : Unicode) (ipv6 : List UInt8 → Bool)
    (readRequest : List UInt8 → Option (List UInt8)) (s : Lifecycle)
    (h : Reachable (LifeStep u ipv6 readRequest) Lifecycle.Fresh s) :
    s.dials ≤ 1 ∧ (s.ready = true ↔ s.established = true ∨ s.closed = true) ∧
      (s.closed = true → s.writer = none → s.writes = [] → s.closes = [] → s.halves = [] →
        (∀ k, s.proxy k ≠ .opened) ∧
        ∀ before r after, s.reads = before ++ r :: after →
          ∃ ls t, Run (Guarded (LifeStep u ipv6 readRequest) fun _ e => e = .reader) s ls t ∧
            t.reads = before ++ after) := by
  obtain ⟨hest, hattended⟩ := Lifecycle.reachable_invariant h
  refine ⟨hest.dials_le, hest.ready, ?_⟩
  intro hclosed hwriter _ hcloses _
  constructor
  · intro k hk
    rcases hattended k hk with ⟨-, hclosing⟩ | ⟨w, hw, -⟩
    · have hmem := hclosing hclosed
      rw [hcloses] at hmem
      cases hmem
    · rw [hwriter] at hw
      cases hw
  · intro before r after queue
    exact Lifecycle.read_returns u ipv6 readRequest (hest.ready.mpr (.inr hclosed)) queue

/-- `Close` comes while `establish` waits for the proxy. -/
theorem lifecycle_safe_closed :
    ∃ s, Reachable (LifeStep ⟨id, id⟩ (fun _ => false) fun _ => none) Lifecycle.Fresh s ∧
      s.closed = true ∧ s.dials = 1 ∧ ∀ k, s.proxy k ≠ .opened := by
  have hwrites : [[0x17]] = [] ++ [(0x17 : UInt8)] :: [] := rfl
  have hcloses : [Closer.entering] = [] ++ .entering :: [] := rfl
  have hreachable : Reachable (LifeStep ⟨id, id⟩ (fun _ => false) fun _ => none) Lifecycle.Fresh _ :=
    ⟨_, _, ⟨ascii "192.0.2.1:443", 443, rfl⟩,
      .cons (.write [0x17]) <| .cons (.lock hwrites rfl) <| .cons (.writeSection rfl) <|
      .cons (.dialed rfl) <| .cons .close <| .cons (.closeSection hcloses) <|
      .cons (.connected rfl) <| .single (.settle rfl)⟩
  exact ⟨_, hreachable, rfl, rfl, ((lifecycle_safe ⟨id, id⟩ (fun _ => false) (fun _ => none) _
    hreachable).2.2 rfl rfl rfl rfl rfl).1⟩

end HarmonyNetBridge.Proxy
