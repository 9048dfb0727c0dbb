import HarmonyNetBridge.Transition.Runs
import HarmonyNetBridge.Proxy.Hostname

/-! `hostnameSniffingConn`: the first bytes of a client are held back until the host name is decided,
and only then is the tunnel to the capture proxy opened. -/
namespace HarmonyNetBridge.Proxy
open Transition Bytes List

/-- An open tunnel: its CONNECT target, what the proxy has received on it and whether the stream has
ended. -/
structure Tunnel where
  target : List UInt8
  received : List UInt8 := []
  ended : Bool := false
  deriving DecidableEq, Repr

/-- `connection.Write(payload)`, when the network takes `accepted` bytes of it. -/
def Tunnel.write (t : Tunnel) (outcome : ℕ × Option String) (payload : List UInt8) :
    (ℕ × Option String) × Tunnel :=
  let written := min outcome.1 payload.length
  ((written, outcome.2), { t with received := t.received ++ payload.take written })

/-- `writeAllConnection`; `outcome call` is what the network does in the call of that number. -/
def writeAllConnection (outcome : ℕ → ℕ × Option String) (t : Tunnel) (total call : ℕ)
    (payload : List UInt8) : (ℕ × Option String) × Tunnel :=
  if _h : payload = [] then ((total, none), t)
  else
    match _hwrite : t.write (outcome call) payload with
    | ((written, some err), t) => ((total + written, some err), t)
    | ((written, none), t) =>
      if _hzero : written = 0 then ((total + written, some "short write"), t)
      else writeAllConnection outcome t (total + written) (call + 1) (payload.drop written)
termination_by payload.length
decreasing_by
  have hlen : 0 < payload.length := length_pos_iff.mpr _h
  rw [length_drop]
  omega

/-- What happens outside in one call of `Write`: the error of `establish`, if it fails, and the
outcomes of the writes to the connection. -/
structure Outside where
  connectError : Option String
  outcome : ℕ → ℕ × Option String

structure SniffingConn where
  destination : List UInt8
  destinationPort : ℕ
  connection : Option Tunnel := none
  pending : List UInt8 := []
  initErr : Option String := none
  closed : Bool := false
  deriving DecidableEq, Repr

def errClosed : String := "use of closed network connection"

namespace SniffingConn

/-- `establish`: the tunnel, or the error that is kept in `initErr`. -/
def establish (c : SniffingConn) (connectError : Option String) (target : List UInt8) :
    Except String Tunnel × SniffingConn :=
  match if c.closed then some errClosed else connectError with
  | some err => (.error err, { c with initErr := some err })
  | none => (.ok { target }, { c with connection := some { target } })

section
variable (u : Unicode) (ipv6 : List UInt8 → Bool) (readRequest : List UInt8 → Option (List UInt8))

def write (c : SniffingConn) (out : Outside) (payload : List UInt8) :
    (ℕ × Option String) × SniffingConn :=
  match c.connection with
  | some t =>
    let (result, t) := t.write (out.outcome 0) payload
    (result, { c with connection := some t })
  | none =>
    if c.closed ∨ c.initErr.isSome then ((0, some (c.initErr.getD errClosed)), c)
    else if payload.length + c.pending.length > maxInitialClientBytes then
      match { c with pending := [] }.establish out.connectError c.destination with
      | (.error err, c) => ((0, some err), c)
      | (.ok t, d) =>
        match writeAllConnection out.outcome t 0 0 c.pending with
        | ((_, some err), t) => ((0, some err), { d with connection := some t })
        | ((_, none), t) =>
          let (result, t) := t.write (out.outcome c.pending.length) payload
          (result, { d with connection := some t })
    else
      let pending := c.pending ++ payload
      if (sniffHostname u ipv6 readRequest pending c.destinationPort).2 = .needMore then
        ((payload.length, none), { c with pending })
      else
        let target := connectTarget u ipv6 readRequest c.destination pending c.destinationPort
        match { c with pending := [] }.establish out.connectError target with
        | (.error err, c) => ((0, some err), c)
        | (.ok t, d) =>
          let ((written, err), t) := writeAllConnection out.outcome t 0 0 pending
          ((min (written - c.pending.length) payload.length, err), { d with connection := some t })

end

def close (c : SniffingConn) : SniffingConn :=
  if c.closed then c
  else
    { c with
      closed := true
      initErr := some (c.initErr.getD errClosed)
      connection := c.connection.map fun t => { t with ended := true } }

/-- `CloseWrite`; the connections of the dialer can be closed on one side. -/
def closeWrite (c : SniffingConn) : SniffingConn :=
  match c.connection with
  | none => c.close
  | some t => { c with connection := some { t with ended := true } }

def delivered (c : SniffingConn) : List UInt8 :=
  match c.connection with
  | none => []
  | some t => t.received

end SniffingConn

variable {t t' : Tunnel} {payload : List UInt8}

theorem writeAllConnection_ok {outcome : ℕ → ℕ × Option String} {total call n : ℕ}
    (h : writeAllConnection outcome t total call payload = ((n, none), t')) :
    t' = { t with received := t.received ++ payload } := by
  fun_induction writeAllConnection outcome t total call payload with
  | case1 t total call =>
    cases h
    simp
  | case2 => cases h
  | case3 => cases h
  | case4 t total call payload hne written t₁ hwrite hpos ih =>
    have ht := ih h
    unfold Tunnel.write at hwrite
    simp only [Prod.mk.injEq] at hwrite
    obtain ⟨⟨rfl, -⟩, rfl⟩ := hwrite
    rw [ht]
    simp

theorem Tunnel.write_ok {outcome : ℕ × Option String}
    (h : t.write outcome payload = ((payload.length, none), t')) :
    t' = { t with received := t.received ++ payload } := by
  unfold Tunnel.write at h
  simp only [Prod.mk.injEq] at h
  obtain ⟨⟨hall, -⟩, rfl⟩ := h
  rw [hall, take_length]

theorem establish_ok {c d : SniffingConn} {connectError : Option String} {target : List UInt8}
    (h : c.establish connectError target = (.ok t, d)) :
    t = { target } ∧ d = { c with connection := some { target } } := by
  unfold SniffingConn.establish at h
  split at h
  · cases h
  · cases h
    exact ⟨rfl, rfl⟩

section
variable (u : Unicode) (ipv6 : List UInt8 → Bool) (readRequest : List UInt8 → Option (List UInt8))

/-- A call of `Write` that returned `(len(p), nil)`. -/
def AcceptedWrite (c : SniffingConn) (payload : List UInt8) (d : SniffingConn) : Prop :=
  ∃ out, c.write u ipv6 readRequest out payload = ((payload.length, none), d)

/-- Bytes after which the connection still waits for more. -/
def Waiting (port : ℕ) (bytes : List UInt8) : Prop :=
  bytes.length ≤ maxInitialClientBytes ∧ (sniffHostname u ipv6 readRequest bytes port).2 = .needMore

/-- No call of `Write` has decided on a host name. -/
def Undecided (port : ℕ) (payloads : List (List UInt8)) : Prop :=
  ∀ front, front <+: payloads → front ≠ [] → Waiting u ipv6 readRequest port front.flatten

end

section
variable {u : Unicode} {ipv6 : List UInt8 → Bool} {readRequest : List UInt8 → Option (List UInt8)}

variable {port : ℕ} {payloads : List (List UInt8)} {payload : List UInt8} {c d : SniffingConn}

theorem undecided_nil : Undecided u ipv6 readRequest port [] := by
  intro front hbegins hne
  exact absurd (prefix_nil.mp hbegins) hne

theorem undecided_snoc : Undecided u ipv6 readRequest port (payloads ++ [payload]) ↔
      Undecided u ipv6 readRequest port payloads ∧
        Waiting u ipv6 readRequest port (payloads.flatten ++ payload) := by
  constructor
  · intro h
    constructor
    · intro front hbegins
      exact h front (hbegins.trans (prefix_append _ _))
    · have hall := h (payloads ++ [payload]) prefix_rfl (by simp)
      simpa using hall
  · rintro ⟨hbefore, hlast⟩ front hbegins hne
    rcases prefix_concat_iff.mp hbegins with rfl | hfront
    · simpa using hlast
    · exact hbefore front hfront hne

theorem acceptedWrite_cases (h : AcceptedWrite u ipv6 readRequest c payload d) :
    (∃ t, c.connection = some t ∧
      d = { c with connection := some { t with received := t.received ++ payload } }) ∨
    (c.connection = none ∧ Waiting u ipv6 readRequest c.destinationPort (c.pending ++ payload) ∧
      d = { c with pending := c.pending ++ payload }) ∨
    (c.connection = none ∧ ¬ Waiting u ipv6 readRequest c.destinationPort (c.pending ++ payload) ∧
      ∃ target, d = { c with
        pending := []
        connection := some { target, received := c.pending ++ payload } }) := by
  obtain ⟨out, h⟩ := h
  unfold SniffingConn.write at h
  cases hconn : c.connection with
  | some t =>
    rw [hconn] at h
    dsimp only at h
    rcases hwrite : t.write (out.outcome 0) payload with ⟨result, t'⟩
    rw [hwrite] at h
    cases h
    rw [Tunnel.write_ok hwrite]
    exact .inl ⟨t, rfl, rfl⟩
  | none =>
    rw [hconn] at h
    dsimp only at h
    split_ifs at h with hclosed hlong hmore
    · simp at h
    · -- the bytes are too many to wait: the tunnel goes to the original destination
      have hnot : ¬ Waiting u ipv6 readRequest c.destinationPort (c.pending ++ payload) := by
        intro hwaiting
        have hlen := hwaiting.1
        rw [length_append] at hlen
        omega
      refine .inr (.inr ⟨rfl, hnot, c.destination, ?_⟩)
      split at h
      · simp at h
      · rename_i t d' hestablish
        obtain ⟨rfl, rfl⟩ := establish_ok hestablish
        split at h
        · simp at h
        · rename_i n t' hall
          rw [writeAllConnection_ok hall] at h
          rcases hwrite : Tunnel.write { target := c.destination, received := [] ++ c.pending }
            (out.outcome c.pending.length) payload with ⟨result, t''⟩
          rw [hwrite] at h
          cases h
          rw [Tunnel.write_ok hwrite]
          rfl
    · have hwaiting : Waiting u ipv6 readRequest c.destinationPort (c.pending ++ payload) := by
        refine ⟨?_, hmore⟩
        rw [length_append]
        omega
      cases h
      exact .inr (.inl ⟨rfl, hwaiting, rfl⟩)
    · have hnot : ¬ Waiting u ipv6 readRequest c.destinationPort (c.pending ++ payload) :=
        fun hwaiting => hmore hwaiting.2
      refine .inr (.inr ⟨rfl, hnot, connectTarget u ipv6 readRequest c.destination
        (c.pending ++ payload) c.destinationPort, ?_⟩)
      split at h
      · simp at h
      · rename_i t d' hestablish
        obtain ⟨rfl, rfl⟩ := establish_ok hestablish
        simp only [Prod.mk.injEq] at h
        obtain ⟨⟨-, herr⟩, rfl⟩ := h
        simp only [SniffingConn.mk.injEq, Option.some.injEq, true_and, and_true]
        exact writeAllConnection_ok (Prod.ext (Prod.ext rfl herr) rfl)

/-- The invariant of a connection that has accepted `payloads`: they wait in `pending`, or they have
all gone into the tunnel. -/
structure Holds (u : Unicode) (ipv6 : List UInt8 → Bool)
    (readRequest : List UInt8 → Option (List UInt8)) (port : ℕ) (payloads : List (List UInt8))
    (c : SniffingConn) : Prop where
  destinationPort : c.destinationPort = port
  waiting : c.connection = none → Undecided u ipv6 readRequest port payloads ∧
    c.pending = payloads.flatten ∧ c.closed = false
  tunnel : ∀ t, c.connection = some t → ¬ Undecided u ipv6 readRequest port payloads ∧
    t.received = payloads.flatten

theorem acceptedWrite_holds (hc : Holds u ipv6 readRequest port payloads c)
    (h : AcceptedWrite u ipv6 readRequest c payload d) :
    Holds u ipv6 readRequest port (payloads ++ [payload]) d := by
  have hport := hc.destinationPort
  rcases acceptedWrite_cases h with ⟨t, hconn, rfl⟩ | ⟨hconn, hwaiting, rfl⟩ |
    ⟨hconn, hdecided, target, rfl⟩
  · obtain ⟨hundecided, hreceived⟩ := hc.tunnel t hconn
    refine ⟨hport, nofun, ?_⟩
    intro t' ht'
    cases ht'
    refine ⟨fun hsnoc => hundecided (undecided_snoc.mp hsnoc).1, ?_⟩
    simp [hreceived]
  · obtain ⟨hundecided, hpending, hopen⟩ := hc.waiting hconn
    rw [hport, hpending] at hwaiting
    refine ⟨hport, fun _ => ⟨undecided_snoc.mpr ⟨hundecided, hwaiting⟩, ?_, hopen⟩, ?_⟩
    · simp [hpending]
    · intro t ht
      rw [hconn] at ht
      cases ht
  · obtain ⟨hundecided, hpending, hopen⟩ := hc.waiting hconn
    rw [hport, hpending] at hdecided
    refine ⟨hport, nofun, ?_⟩
    intro t ht
    cases ht
    exact ⟨fun hsnoc => hdecided (undecided_snoc.mp hsnoc).2, by simp [hpending]⟩

theorem run_holds {destination : List UInt8} (h : Run (AcceptedWrite u ipv6 readRequest)
      { destination, destinationPort := port } payloads c) :
    Holds u ipv6 readRequest port payloads c := by
  apply h.snocInduction (motive := fun payloads c => Holds u ipv6 readRequest port payloads c)
  · exact ⟨rfl, fun _ => ⟨undecided_nil, rfl, rfl⟩, nofun⟩
  · intro payloads c payload d _ hc hstep
    exact acceptedWrite_holds hc hstep

end

/-- After a half close the proxy has received the accepted bytes and the end of the stream just when
some call of `Write` has reached a decision, or there were no bytes at all. -/
theorem closeWrite_delivers_iff (u : Unicode) (ipv6 : List UInt8 → Bool)
    (readRequest : List UInt8 → Option (List UInt8)) (destination : List UInt8) (port : ℕ)
    (payloads : List (List UInt8)) (c : SniffingConn)
    (h : Run (AcceptedWrite u ipv6 readRequest) { destination, destinationPort := port } payloads c) :
    (c.closeWrite.delivered = payloads.flatten ↔
      ¬ Undecided u ipv6 readRequest port payloads ∨ payloads.flatten = []) ∧
    (¬ Undecided u ipv6 readRequest port payloads →
      ∃ t, c.closeWrite.connection = some t ∧ t.ended = true) := by
  have hc := run_holds h
  cases hconn : c.connection with
  | none =>
    obtain ⟨hundecided, -, hopen⟩ := hc.waiting hconn
    have hlost : c.closeWrite.delivered = [] := by
      simp [SniffingConn.closeWrite, SniffingConn.close, SniffingConn.delivered, hconn, hopen]
    rw [hlost]
    refine ⟨?_, fun hdecided => absurd hundecided hdecided⟩
    constructor
    · intro hnil
      exact .inr hnil.symm
    · rintro (hdecided | hnil)
      · exact absurd hundecided hdecided
      · exact hnil.symm
  | some t =>
    obtain ⟨hdecided, hreceived⟩ := hc.tunnel t hconn
    have hclose : c.closeWrite.connection = some { t with ended := true } := by
      simp [SniffingConn.closeWrite, hconn]
    have hdelivered : c.closeWrite.delivered = payloads.flatten := by
      simp [SniffingConn.delivered, hclose, hreceived]
    refine ⟨⟨fun _ => .inl hdecided, fun _ => hdelivered⟩, fun _ => ⟨_, hclose, rfl⟩⟩

theorem writeAllConnection_whole {outcome : ℕ → ℕ × Option String} {t : Tunnel} {payload : List UInt8}
    (h : ∀ call, payload.length ≤ (outcome call).1 ∧ (outcome call).2 = none) :
    writeAllConnection outcome t 0 0 payload =
      ((payload.length, none), { t with received := t.received ++ payload }) := by
  have hwrite : t.write (outcome 0) payload =
      ((payload.length, none), { t with received := t.received ++ payload }) := by
    simp [Tunnel.write, Nat.min_eq_right (h 0).1, (h 0).2]
  rw [writeAllConnection]
  split
  · rename_i hnil
    simp [hnil]
  · rename_i hne
    split
    · simp_all
    · rename_i written t' hout
      have hsame : ((written, none), t') = ((payload.length, none), _) := hout.symm.trans hwrite
      cases hsame
      rw [dif_neg (length_pos_iff.mpr hne).ne', drop_length, writeAllConnection]
      simp

def steady : Outside := ⟨none, fun _ => (maxInitialClientBytes, none)⟩

/-- On such a network the call that decides is accepted and sends what was held back. -/
theorem write_steady {u : Unicode} {ipv6 : List UInt8 → Bool}
    {readRequest : List UInt8 → Option (List UInt8)} {destination payload : List UInt8} {port : ℕ}
    (hfits : payload.length ≤ maxInitialClientBytes)
    (hdecided : (sniffHostname u ipv6 readRequest payload port).2 ≠ .needMore) :
    AcceptedWrite u ipv6 readRequest { destination, destinationPort := port } payload
      { destination, destinationPort := port,
        connection := some { target := connectTarget u ipv6 readRequest destination payload port,
                             received := payload } } := by
  refine ⟨steady, ?_⟩
  unfold SniffingConn.write
  dsimp only
  rw [if_neg (by simp), if_neg (by simpa using hfits), nil_append, if_neg hdecided]
  have hall : writeAllConnection (fun _ => (maxInitialClientBytes, none))
      { target := connectTarget u ipv6 readRequest destination payload port } 0 0 payload = _ :=
    writeAllConnection_whole fun _ => ⟨hfits, rfl⟩
  simp [SniffingConn.establish, steady, hall]

/-- The calls of `Write` on a fresh connection with a reader of requests that finds no host. -/
def AcceptedPlain : SniffingConn → List UInt8 → SniffingConn → Prop :=
  AcceptedWrite ⟨id, id⟩ (fun _ => false) fun _ => some []

def freshConn : SniffingConn := { destination := ascii "192.0.2.1:80", destinationPort := 80 }

def plainRequest : List UInt8 := ascii "GET / HTTP/1.1\r\n\r\n"

def requestedConn : SniffingConn :=
  { freshConn with
    connection := some ⟨connectTarget ⟨id, id⟩ (fun _ => false) (fun _ => some [])
      freshConn.destination plainRequest 80, plainRequest, false⟩ }

theorem closeWrite_delivers_request : Run AcceptedPlain freshConn [plainRequest] requestedConn ∧
      requestedConn.closeWrite.delivered = plainRequest := by
  have hdecided : (sniffHostname ⟨id, id⟩ (fun _ => false) (fun _ => some []) plainRequest 80).2 ≠
      .needMore := by decide
  have hstep : AcceptedPlain freshConn plainRequest requestedConn :=
    write_steady (by decide) hdecided
  refine ⟨.single hstep, ?_⟩
  have hdelivers := (closeWrite_delivers_iff ⟨id, id⟩ (fun _ => false) (fun _ => some [])
    freshConn.destination 80 [plainRequest] requestedConn (.single hstep)).1.mpr
  rw [flatten_singleton] at hdelivers
  apply hdelivers
  left
  intro hundecided
  exact hdecided (hundecided [plainRequest] prefix_rfl (by simp)).2

/-- A client on port 80 sends a line that is no HTTP request and closes its side. -/
theorem closeWrite_loses_pending :
    ∃ c, Run AcceptedPlain freshConn [ascii "PING\r\n"] c ∧ c.closeWrite.closed = true ∧
      c.closeWrite.delivered ≠ ascii "PING\r\n" := by
  refine ⟨{ freshConn with pending := ascii "PING\r\n" }, .single ⟨steady, ?_⟩, rfl, by decide⟩
  decide

end HarmonyNetBridge.Proxy
