import HarmonyNetBridge.Proxy.ConnectResponse
import HarmonyNetBridge.Proxy.WriteCalls
import HarmonyNetBridge.Relay.Scutil

/-! The dialer of the capture proxy in time: what the deadline of the dial context means for a
connection that dials the proxy only when the first bytes of the client have come. -/
namespace HarmonyNetBridge.Proxy
open Transition Bytes
open Relay (atoi)

/-- Times are nanoseconds; the zero time of Go is 0. -/
def second : ℕ := 1000000000

/-- A context, as far as a dial looks at it. -/
structure Context where
  deadline : Option ℕ := none
  deriving DecidableEq, Repr

namespace Context

def Expired (ctx : Context) (now : ℕ) : Prop := ∃ deadline, ctx.deadline = some deadline ∧ deadline ≤ now

def withTimeout (ctx : Context) (now timeout : ℕ) : Context :=
  { deadline := some (min (ctx.deadline.getD (now + timeout)) (now + timeout)) }

end Context

/-- A moment and what a direct dial does then; it fails under a context that has expired. -/
structure Moment where
  now : ℕ
  direct : Context → List UInt8 → List UInt8 → Except String ProxyStream
  expired_fails : ∀ ctx network address, ctx.Expired now →
    ∃ err, direct ctx network address = .error err

/-- `performConnect` under the deadline that it sets on the connection. -/
def performConnectBy (ctx : Context) (now : ℕ) (connection : ProxyStream) (address : List UInt8) :
    Except String BufferedConn :=
  let deadline := ctx.deadline.getD (now + 15 * second)
  performConnect { connection with writable := connection.writable && decide (now < deadline) } address

/-- A `hostnameSniffingConn` with the fields that `establish` reads. -/
structure HostnameConn where
  proxyAddress : List UInt8
  connectDeadline : ℕ
  conn : SniffingConn

def newHostnameSniffingConn (ctx : Context) (proxyAddress destination : List UInt8)
    (destinationPort : ℕ) : HostnameConn :=
  { proxyAddress
    connectDeadline := ctx.deadline.getD 0
    conn := { destination, destinationPort } }

/-- The part of an address behind its last colon. -/
def portText (address : List UInt8) : List UInt8 :=
  (address.reverse.takeWhile (· != colon)).reverse

structure ConnectDialer where
  proxyAddress : List UInt8
  ports : List ℕ
  valid : ∀ port ∈ ports, 1 ≤ port ∧ port ≤ 65535

inductive DialedConn where
  | plain (connection : ProxyStream)
  | sniffing (c : HostnameConn)
  | tunnel (connection : BufferedConn)

namespace ConnectDialer

def intercepts (d : ConnectDialer) (port : ℤ) : Bool := d.ports.any fun p => (p : ℤ) == port

def dialContext (ipv6 : List UInt8 → Bool) (d : ConnectDialer) (m : Moment) (ctx : Context)
    (network address : List UInt8) : Except String DialedConn :=
  if network ≠ ascii "tcp" ∧ network ≠ ascii "tcp4" then
    (m.direct ctx network address).map .plain
  else
    match splitHostPort address with
    | none => .error "parse TCP destination"
    | some host =>
      match (atoi (portText address)).filter d.intercepts with
      | none => (m.direct ctx network address).map .plain
      | some port =>
        if parseIP ipv6 (trim (fun b => b == 91 || b == 93) host) then
          .ok (.sniffing (newHostnameSniffingConn ctx d.proxyAddress address port.toNat))
        else
          match m.direct ctx (ascii "tcp4") d.proxyAddress with
          | .error err => .error ("connect to local capture proxy: " ++ err)
          | .ok connection => (performConnectBy ctx m.now connection address).map .tunnel

end ConnectDialer

namespace HostnameConn

def connectContext (c : HostnameConn) (now : ℕ) : Context :=
  if c.connectDeadline = 0 then Context.withTimeout {} now (15 * second)
  else { deadline := some c.connectDeadline }

/-- The error of the dial or of CONNECT in `establish`. -/
def connectError (c : HostnameConn) (m : Moment) (target : List UInt8) : Option String :=
  match m.direct (c.connectContext m.now) (ascii "tcp4") c.proxyAddress with
  | .error err => some err
  | .ok connection =>
    match performConnectBy (c.connectContext m.now) m.now connection target with
    | .error err => some err
    | .ok _ => none

section
variable (u : Unicode) (ipv6 : List UInt8 → Bool) (readRequest : List UInt8 → Option (List UInt8))

/-- `Write` at a moment; `outcome` is what the writes to the connection do. -/
def write (c : HostnameConn) (m : Moment) (outcome : ℕ → ℕ × Option String) (payload : List UInt8) :
    (ℕ × Option String) × HostnameConn :=
  let connectError := (c.conn.establishes u ipv6 readRequest payload).bind (c.connectError m)
  let (result, conn) := c.conn.write u ipv6 readRequest { connectError, outcome } payload
  (result, { c with conn })

/-- A call of `Write` with its moment, the outcomes and the payload. -/
def WriteStep (c : HostnameConn) (call : Moment × (ℕ → ℕ × Option String) × List UInt8)
    (d : HostnameConn) : Prop :=
  d = (c.write u ipv6 readRequest call.1 call.2.1 call.2.2).2

end
end HostnameConn

/-- The proxy takes connections at the moment and accepts CONNECT for the target. -/
def Moment.Accepts (m : Moment) (proxyAddress target : List UInt8) : Prop :=
  ∀ ctx : Context, ¬ctx.Expired m.now → ∃ connection,
    m.direct ctx (ascii "tcp4") proxyAddress = .ok connection ∧
      ∃ tunnel, performConnect connection target = .ok tunnel

section
variable {u : Unicode} {ipv6 : List UInt8 → Bool} {readRequest : List UInt8 → Option (List UInt8)}
  {d : ConnectDialer} {c : HostnameConn} {m : Moment} {ctx : Context}

theorem dialContext_sniffing {network address : List UInt8}
    (h : d.dialContext ipv6 m ctx network address = .ok (.sniffing c)) :
    ∃ port, c = newHostnameSniffingConn ctx d.proxyAddress address port := by
  unfold ConnectDialer.dialContext at h
  split_ifs at h
  · cases hdirect : m.direct ctx network address <;> rw [hdirect] at h <;> cases h
  · split at h
    · cases h
    · split at h
      · cases hdirect : m.direct ctx network address <;> rw [hdirect] at h <;> cases h
      · split_ifs at h
        · cases h
          exact ⟨_, rfl⟩
        · split at h
          · cases h
          · rename_i connection _
            cases htunnel : performConnectBy ctx m.now connection address <;> rw [htunnel] at h <;>
              cases h

theorem performConnectBy_of_live {connection : ProxyStream} {address : List UInt8}
    (h : m.now < ctx.deadline.getD (m.now + 15 * second)) :
    performConnectBy ctx m.now connection address = performConnect connection address := by
  unfold performConnectBy
  simp [h]

theorem connectContext_deadline {now : ℕ} : (c.connectContext now).deadline =
    some (if c.connectDeadline = 0 then now + 15 * second else c.connectDeadline) := by
  unfold HostnameConn.connectContext
  split_ifs
  · simp [Context.withTimeout]
  · rfl

theorem connectError_none_iff {target : List UInt8} (haccepts : m.Accepts c.proxyAddress target) :
    c.connectError m target = none ↔ c.connectDeadline = 0 ∨ m.now < c.connectDeadline := by
  have hsecond : 0 < second := by decide
  have hdeadline : (c.connectContext m.now).deadline = some _ := connectContext_deadline
  by_cases hlive : c.connectDeadline = 0 ∨ m.now < c.connectDeadline
  · have hbefore : m.now < if c.connectDeadline = 0 then m.now + 15 * second
        else c.connectDeadline := by
      split_ifs <;> omega
    have hnot : ¬(c.connectContext m.now).Expired m.now := by
      rintro ⟨deadline, hsome, hover⟩
      rw [hdeadline, Option.some.injEq] at hsome
      omega
    obtain ⟨connection, hdirect, tunnel, htunnel⟩ := haccepts _ hnot
    have hconnect : performConnectBy (c.connectContext m.now) m.now connection target = .ok tunnel := by
      rw [performConnectBy_of_live (by rwa [hdeadline]), htunnel]
    unfold HostnameConn.connectError
    rw [hdirect]
    dsimp only
    rw [hconnect]
    exact iff_of_true rfl hlive
  · have hexpired : (c.connectContext m.now).Expired m.now := by
      refine ⟨_, hdeadline, ?_⟩
      split_ifs <;> omega
    obtain ⟨err, herr⟩ := m.expired_fails _ (ascii "tcp4") c.proxyAddress hexpired
    unfold HostnameConn.connectError
    rw [herr]
    exact iff_of_false (by simp) hlive

theorem write_connects_iff {outcome : ℕ → ℕ × Option String} {payload target : List UInt8}
    (h : c.conn.establishes u ipv6 readRequest payload = some target) :
    (c.write u ipv6 readRequest m outcome payload).2.conn.connection.isSome = true ↔
      c.connectError m target = none := by
  unfold HostnameConn.write
  rw [h, Option.bind_some]
  obtain ⟨tunnel, -, hafter⟩ := SniffingConn.write_decides ⟨c.connectError m target, outcome⟩ h
  have hnone : c.conn.connection = none := by
    by_contra hsome
    have hsettled : c.conn.Settled := .inl (Option.isSome_iff_ne_none.mpr hsome)
    rw [SniffingConn.establishes, if_pos hsettled] at h
    cases h
  dsimp only
  rw [hafter]
  cases herr : c.connectError m target with
  | none => simp
  | some err => simp [hnone]

theorem run_connectDeadline {e : HostnameConn}
    {calls : List (Moment × (ℕ → ℕ × Option String) × List UInt8)}
    (h : Run (HostnameConn.WriteStep u ipv6 readRequest) c calls e) :
    e.proxyAddress = c.proxyAddress ∧ e.connectDeadline = c.connectDeadline := by
  induction h with
  | nil => exact ⟨rfl, rfl⟩
  | cons hstep _ ih =>
    rw [hstep] at ih
    exact ih

end

/-- The first bytes that decide find a proxy that accepts connections and CONNECT: the connection is
established just when the dial context had no deadline or it is not over. -/
theorem establish_idle_iff (u : Unicode) (ipv6 : List UInt8 → Bool)
    (readRequest : List UInt8 → Option (List UInt8)) (dialer : ConnectDialer) (dialed : Moment)
    (ctx : Context) (network address : List UInt8) (c d : HostnameConn)
    (hdial : dialer.dialContext ipv6 dialed ctx network address = .ok (.sniffing c))
    (calls : List (Moment × (ℕ → ℕ × Option String) × List UInt8))
    (hrun : Run (HostnameConn.WriteStep u ipv6 readRequest) c calls d)
    (m : Moment) (outcome : ℕ → ℕ × Option String) (payload target : List UInt8)
    (hdecides : d.conn.establishes u ipv6 readRequest payload = some target)
    (haccepts : m.Accepts dialer.proxyAddress target) :
    (d.write u ipv6 readRequest m outcome payload).2.conn.connection.isSome = true ↔
      ctx.deadline.getD 0 = 0 ∨ m.now < ctx.deadline.getD 0 := by
  obtain ⟨port, rfl⟩ := dialContext_sniffing hdial
  obtain ⟨hproxy, hdeadline⟩ := run_connectDeadline hrun
  rw [write_connects_iff hdecides, connectError_none_iff (by rw [hproxy]; exact haccepts), hdeadline]
  rfl

/-- A proxy that answers every CONNECT with `200`. -/
def answer : ProxyStream where
  incoming := ⟨[ascii "HTTP/1.1 200 OK\r\n", ascii "\r\n"], by decide⟩

theorem performConnect_answer (address : List UInt8) :
    ∃ tunnel, performConnect answer address = .ok tunnel := by
  have hok : (performConnect answer []).isOk = true := by decide +kernel
  have hsome : ∃ tunnel, performConnect answer [] = .ok tunnel := by
    cases h : performConnect answer [] with
    | ok tunnel => exact ⟨tunnel, rfl⟩
    | error err =>
      rw [h] at hok
      cases hok
  -- the answer does not depend on the address
  exact performConnect_ok_iff.mpr (performConnect_ok_iff.mp hsome)

def answering (now : ℕ) : Moment where
  now
  direct ctx _ _ := if ctx.deadline.any (· ≤ now) then .error "i/o timeout" else .ok answer
  expired_fails := by
    rintro ctx network address ⟨deadline, hdeadline, hover⟩
    exact ⟨"i/o timeout", by simp [hdeadline, hover]⟩

theorem answering_accepts (now : ℕ) (proxyAddress target : List UInt8) :
    (answering now).Accepts proxyAddress target := by
  intro ctx hlive
  refine ⟨answer, ?_, performConnect_answer target⟩
  have hnot : ¬ctx.deadline.any (· ≤ now) = true := by
    intro hany
    cases hdeadline : ctx.deadline with
    | none => simp [hdeadline] at hany
    | some deadline =>
      have hover : deadline ≤ now := by simpa [hdeadline] using hany
      exact hlive ⟨deadline, hdeadline, hover⟩
  exact if_neg hnot

def captureDialer : ConnectDialer where
  proxyAddress := ascii "127.0.0.1:8080"
  ports := [80, 443, 8080, 8443]
  valid := by decide

def defaultDialTimeout : ℕ := 15 * second

def relayDial (ipv6 : List UInt8 → Bool) (dialer : ConnectDialer) (m : Moment) (ctx : Context)
    (address : List UInt8) : Except String DialedConn :=
  dialer.dialContext ipv6 m (ctx.withTimeout m.now defaultDialTimeout) (ascii "tcp4") address

def idleConn (now : ℕ) : HostnameConn :=
  newHostnameSniffingConn (Context.withTimeout {} now defaultDialTimeout) captureDialer.proxyAddress
    (ascii "192.0.2.1:443") 443

theorem relayDial_idleConn (now : ℕ) :
    relayDial (fun _ => false) captureDialer (answering now) {} (ascii "192.0.2.1:443") =
      .ok (.sniffing (idleConn now)) := by
  have hhost : splitHostPort (ascii "192.0.2.1:443") = some (ascii "192.0.2.1") := by decide
  have hport : (atoi (portText (ascii "192.0.2.1:443"))).filter captureDialer.intercepts =
      some 443 := by decide
  have hliteral : parseIP (fun _ => false)
      (trim (fun b => b == 91 || b == 93) (ascii "192.0.2.1")) = true := by decide
  unfold relayDial ConnectDialer.dialContext
  rw [if_neg (by simp), hhost, hport]
  dsimp only
  rw [if_pos hliteral]
  rfl

theorem establish_idle_prompt :
    (HostnameConn.write ⟨id, id⟩ (fun _ => false) (fun _ => none) (idleConn second)
      (answering (2 * second)) steady.outcome [0x17]).2.conn.connection.isSome = true := by
  apply (establish_idle_iff ⟨id, id⟩ (fun _ => false) (fun _ => none) captureDialer (answering second)
    (Context.withTimeout {} second defaultDialTimeout) (ascii "tcp4") (ascii "192.0.2.1:443")
    (idleConn second) (idleConn second) (relayDial_idleConn second) [] (.nil _) (answering (2 * second))
    steady.outcome [0x17] (ascii "192.0.2.1:443") (by decide)
    (answering_accepts _ _ _)).mpr
  right
  decide

/-- A client of the relay waits for 16 seconds before its first byte. -/
theorem establish_fails_after_idle :
    relayDial (fun _ => false) captureDialer (answering second) {} (ascii "192.0.2.1:443") =
        .ok (.sniffing (idleConn second)) ∧
      (answering (17 * second)).Accepts captureDialer.proxyAddress (ascii "192.0.2.1:443") ∧
      (idleConn second).conn.establishes ⟨id, id⟩ (fun _ => false) (fun _ => none) [0x17] =
        some (ascii "192.0.2.1:443") ∧
      (HostnameConn.write ⟨id, id⟩ (fun _ => false) (fun _ => none) (idleConn second)
        (answering (17 * second)) steady.outcome [0x17]).1 = (0, some "i/o timeout") := by
  refine ⟨relayDial_idleConn second, answering_accepts _ _ _, by decide, by decide⟩

end HarmonyNetBridge.Proxy
