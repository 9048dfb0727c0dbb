import HarmonyNetBridge.Cli.StartCommand
import HarmonyNetBridge.Proxy.ConnectDeadline
import HarmonyNetBridge.Proxy.ConnectRequest
import HarmonyNetBridge.Relay.Flows
import HarmonyNetBridge.Relay.ScutilListing

/-! The relay of a capture session: `newRelay` gives it the dialer of the proxy, and the flows of the
device take the ways that the two decide on. -/
namespace HarmonyNetBridge.Proxy
open Bytes Transition Relay

def endpointAddress (id : FlowID) : List UInt8 :=
  joinHostPort (Server.v4 id.localAddress).text (itoa id.localPort.toNat)

/-- The configuration that `newRelay` passes to `New`; `interceptPorts` are those of the proxy
session, if there is one. -/
def newRelayConfig (mtu : ℕ) (interceptPorts : Option (List ℤ)) : RelayConfig :=
  match interceptPorts with
  | none => { dns := true, mtu }
  | some ports => { dns := true, mtu, proxyTCPPorts := ports, blockUDP443 := true }

/-- The network that the handler of a flow dials. -/
def dialNetwork : Transport → List UInt8
  | .tcp => ascii "tcp4"
  | .udp => ascii "udp4"

/-! Addresses of flows -/

/-- The bytes of an address without its colons. -/
def numeric (b : UInt8) : Bool := isDigitByte b || b == dot

theorem numeric_ne {b c : UInt8} (hb : numeric b = true) (hc : numeric c = false) : b ≠ c := by
  rintro rfl
  rw [hb] at hc
  cases hc

theorem numeric_text (address : BitVec 32) : ∀ b ∈ (Server.v4 address).text, numeric b = true := by
  intro b hb
  rcases mem_intercalate hb with rfl | ⟨field, hfield, hmem⟩
  · decide
  · obtain ⟨n, -, rfl⟩ := List.mem_map.mp hfield
    simp [numeric, itoa_digits n b hmem]

theorem numeric_itoa (n : ℕ) : ∀ b ∈ itoa n, numeric b = true := fun b hb => by
  simp [numeric, itoa_digits n b hb]

section
variable {host port : List UInt8}

theorem not_mem_of_numeric {c : UInt8} (h : ∀ b ∈ host, numeric b = true) (hc : numeric c = false) :
    c ∉ host := fun hmem => numeric_ne (h c hmem) hc rfl

theorem splitHostPort_numeric (hhost : ∀ b ∈ host, numeric b = true)
    (hport : ∀ b ∈ port, numeric b = true) : splitHostPort (host ++ colon :: port) = some host := by
  have hlast : (host ++ colon :: port).reverse.idxOf? colon = some port.length := by
    have hnone : port.reverse.findIdx? (· == colon) = none := by
      rw [List.findIdx?_eq_none_iff]
      intro b hb
      simpa using numeric_ne (hport b (by simpa using hb)) (by decide)
    simp [List.idxOf?, List.findIdx?_append, hnone, List.findIdx?_cons]
  have hbracket (c : UInt8) (hc : numeric c = false) (hne : c ≠ colon) : c ∉ host ++ colon :: port := by
    simp [not_mem_of_numeric hhost hc, not_mem_of_numeric hport hc, hne]
  have hhead : (host ++ colon :: port).head? ≠ some 91 := fun hhead =>
    hbracket 91 (by decide) (by decide) (List.mem_of_mem_head? hhead)
  have hindex : (host ++ colon :: port).length - 1 - port.length = host.length := by simp
  simp only [splitHostPort, hlast, Option.map_some, hindex, List.take_left']
  rw [if_neg hhead, if_neg (not_mem_of_numeric hhost (by decide)), if_neg]
  simp only [not_or]
  exact ⟨hbracket 91 (by decide) (by decide), hbracket 93 (by decide) (by decide)⟩

theorem portText_numeric (hport : ∀ b ∈ port, numeric b = true) :
    portText (host ++ colon :: port) = port := by
  have hall : ∀ b ∈ port.reverse, (b != colon) = true := by
    intro b hb
    simpa using numeric_ne (hport b (by simpa using hb)) (by decide)
  simp [portText, List.takeWhile_append_of_pos hall]

end

theorem endpointAddress_eq (id : FlowID) :
    endpointAddress id = (Server.v4 id.localAddress).text ++ colon :: itoa id.localPort.toNat := by
  have hcolon := not_mem_of_numeric (numeric_text id.localAddress) (c := colon) (by decide)
  simp [endpointAddress, joinHostPort, hcolon]

theorem parseIP_text (ipv6 : List UInt8 → Bool) (address : BitVec 32) :
    parseIP ipv6 (trim (fun b => b == 91 || b == 93) (Server.v4 address).text) = true := by
  have htrim : trim (fun b => b == 91 || b == 93) (Server.v4 address).text =
      (Server.v4 address).text := by
    apply trim_of_forall
    intro b hb
    have h91 := numeric_ne (numeric_text address b hb) (show numeric 91 = false by decide)
    have h93 := numeric_ne (numeric_text address b hb) (show numeric 93 = false by decide)
    simp [h91, h93]
  rw [htrim, parseIP_eq_isIPv4Literal ipv6
    (not_mem_of_numeric (numeric_text address) (by decide))
    (not_mem_of_numeric (numeric_text address) (by decide))]
  have hparsed := parseIPv4_text address
  unfold parseIPv4 at hparsed
  by_contra hnot
  rw [if_neg hnot] at hparsed
  cases hparsed

theorem atoi_port (id : FlowID) :
    atoi (portText (endpointAddress id)) = some (id.localPort.toNat : ℤ) := by
  have hlt : id.localPort.toNat < 2 ^ 16 := id.localPort.toNat_lt
  rw [endpointAddress_eq, portText_numeric (numeric_itoa _)]
  exact Cli.atoi_itoaInt (n := id.localPort.toNat) (by omega) (by omega)

/-! The ways of a dial -/

section
variable (ipv6 : List UInt8 → Bool) (d : ConnectDialer) (m : Moment) (ctx : Context) (id : FlowID)

theorem dialContext_intercepted (h : d.intercepts id.localPort.toNat = true) :
    d.dialContext ipv6 m ctx (dialNetwork .tcp) (endpointAddress id) =
      .ok (.sniffing (newHostnameSniffingConn ctx d.proxyAddress (endpointAddress id)
        id.localPort.toNat)) := by
  have hsplit : splitHostPort (endpointAddress id) = some (Server.v4 id.localAddress).text := by
    rw [endpointAddress_eq]
    exact splitHostPort_numeric (numeric_text _) (numeric_itoa _)
  unfold ConnectDialer.dialContext
  rw [if_neg (by simp [dialNetwork]), hsplit, atoi_port]
  simp only [Option.filter_some, h, if_true, parseIP_text, Int.toNat_natCast]

theorem dialContext_direct (h : d.intercepts id.localPort.toNat = false) :
    d.dialContext ipv6 m ctx (dialNetwork .tcp) (endpointAddress id) =
      (m.direct ctx (dialNetwork .tcp) (endpointAddress id)).map .plain := by
  have hsplit : splitHostPort (endpointAddress id) = some (Server.v4 id.localAddress).text := by
    rw [endpointAddress_eq]
    exact splitHostPort_numeric (numeric_text _) (numeric_itoa _)
  unfold ConnectDialer.dialContext
  rw [if_neg (by simp [dialNetwork]), hsplit, atoi_port]
  simp [Option.filter_some, h]

theorem dialContext_udp : d.dialContext ipv6 m ctx (dialNetwork .udp) (endpointAddress id) =
    (m.direct ctx (dialNetwork .udp) (endpointAddress id)).map .plain := by
  unfold ConnectDialer.dialContext
  rw [if_pos (by decide)]

end

variable {d : ConnectDialer} {s : EngineSettings}

theorem newEngine_ports {mtu : ℕ}
    (h : newEngine (newRelayConfig mtu (some (d.ports.map Int.ofNat))) = .ok s) :
    s.dns = true ∧ s.virtualDNS = defaultVirtualDNS ∧ s.blockUDP443 = true ∧
      s.proxyTCPPorts = d.ports.map UInt16.ofNat := by
  have hvalid : (d.ports.map Int.ofNat).find? (fun port => port < 1 || 65535 < port) = none := by
    rw [List.find?_eq_none]
    intro port hport
    obtain ⟨p, hp, rfl⟩ := List.mem_map.mp hport
    have := d.valid p hp
    simp only [Bool.or_eq_true, decide_eq_true_eq, Int.ofNat_eq_natCast]
    omega
  unfold newEngine newRelayConfig at h
  simp only [pure_bind, hvalid] at h
  generalize (if mtu = 0 then 1400 else mtu) = size at h
  by_cases hrange : size < ipv4MinimumMTU ∨ maximumIPv4PacketLength < size
  · rw [if_pos hrange] at h
    cases h
  · rw [if_neg hrange] at h
    cases h
    simp [Function.comp_def]

theorem isProxied_eq (h : s.proxyTCPPorts = d.ports.map UInt16.ofNat) (id : FlowID) :
    s.isProxied id = d.intercepts id.localPort.toNat := by
  rw [EngineSettings.isProxied, h, Bool.eq_iff_iff, ConnectDialer.intercepts, List.any_eq_true]
  simp only [List.contains_iff_mem, List.mem_map, beq_iff_eq, Nat.cast_inj]
  constructor
  · rintro ⟨port, hport, hid⟩
    have := d.valid port hport
    refine ⟨port, hport, ?_⟩
    rw [← hid, UInt16.toNat_ofNat_of_lt' (by simp only [UInt16.size]; omega)]
  · rintro ⟨port, hport, rfl⟩
    exact ⟨_, hport, UInt16.ofNat_toNat⟩

/-- What a handler dials is neither the virtual name server nor a blocked port. -/
theorem dialed_dials {e : Engine} (h : Reachable (EngineStep s) Engine.Initial e)
    {target : Transport × FlowID} (hmem : target ∈ e.dialed) :
    s.isDNS target.2 = false ∧ s.isBlocked target.1 target.2 = false := by
  have hcount := (Engine.ok_of_reachable h).dialed target
  have hpos : 0 < e.dialed.count target := List.count_pos_iff.mpr hmem
  rw [hcount, List.countP_pos_iff] at hpos
  obtain ⟨f, -, hf⟩ := hpos
  obtain ⟨hdialed, htarget⟩ := Bool.and_eq_true_iff.mp hf
  obtain rfl := of_decide_eq_true htarget
  simp only [Flow.hasDialed, EngineSettings.dials, Bool.and_eq_true, Bool.not_eq_true'] at hdialed
  obtain ⟨⟨hdns, hblocked⟩, -⟩ := hdialed
  exact ⟨hdns, hblocked⟩

/-- In a capture session every TCP flow to a port of the proxy goes to the proxy, and no flow
bypasses it: no flow of UDP goes to port 443, and whatever else is dialed is dialed directly. No
query to the virtual name server is dialed, and `proxyTCPFlows` counts the flows that the proxy
has got. -/
theorem capture_routes (ipv6 : List UInt8 → Bool) {mtu : ℕ} {d : ConnectDialer} {s : EngineSettings}
    (hnew : newEngine (newRelayConfig mtu (some (d.ports.map Int.ofNat))) = .ok s) {e : Engine}
    (h : Reachable (EngineStep s) Engine.Initial e) (m : Moment) (ctx : Context) :
    (∀ target ∈ e.dialed,
      ¬(target.2.localAddress = defaultVirtualDNS ∧ target.2.localPort = 53) ∧
      ¬(target.1 = .udp ∧ target.2.localPort = 443) ∧
      d.dialContext ipv6 m ctx (dialNetwork target.1) (endpointAddress target.2) =
        if target.1 = .tcp ∧ d.intercepts target.2.localPort.toNat = true then
          .ok (.sniffing (newHostnameSniffingConn ctx d.proxyAddress (endpointAddress target.2)
            target.2.localPort.toNat))
        else (m.direct ctx (dialNetwork target.1) (endpointAddress target.2)).map .plain) ∧
    e.counters .proxyTCPFlows = UInt64.ofNat (e.flows.countP fun f =>
      f.transport = .tcp && s.dials .tcp f.id && d.intercepts f.id.localPort.toNat &&
        Flow.past f.stage) := by
  obtain ⟨hdns, hvirtual, hblock, hports⟩ := newEngine_ports hnew
  refine ⟨?_, ?_⟩
  · rintro ⟨transport, id⟩ hmem
    obtain ⟨hnotDNS, hnotBlocked⟩ := dialed_dials h hmem
    dsimp only at hnotDNS hnotBlocked ⊢
    refine ⟨?_, ?_, ?_⟩
    · rintro ⟨haddress, hport⟩
      simp [EngineSettings.isDNS, hdns, hvirtual, haddress, hport] at hnotDNS
    · rintro ⟨htransport, hport⟩
      simp [EngineSettings.isBlocked, hblock, htransport, hport, hnotDNS] at hnotBlocked
    · cases transport with
      | tcp =>
        cases hintercepts : d.intercepts id.localPort.toNat with
        | true => simpa using dialContext_intercepted ipv6 d m ctx id hintercepts
        | false => simpa using dialContext_direct ipv6 d m ctx id hintercepts
      | udp => simpa using dialContext_udp ipv6 d m ctx id
  · rw [(Engine.ok_of_reachable h).counters]
    congr 2
    funext f
    simp only [Flow.counts, isProxied_eq hports]
    cases f.transport <;> simp

/-- A flow to port 443 of 192.0.2.1. -/
theorem capture_routes_https : ∃ s e, Reachable (EngineStep s) Engine.Initial e ∧
    (Transport.tcp, ⟨0xC0000201#32, 443⟩) ∈ e.dialed ∧
      captureDialer.dialContext (fun _ => false) (answering second) {} (ascii "tcp4")
        (endpointAddress ⟨0xC0000201#32, 443⟩) =
          .ok (.sniffing (newHostnameSniffingConn {} captureDialer.proxyAddress
            (endpointAddress ⟨0xC0000201#32, 443⟩) 443)) := by
  obtain ⟨s, hnew⟩ : ∃ s, newEngine (newRelayConfig 1400 (some (captureDialer.ports.map Int.ofNat))) =
      .ok s := ⟨_, rfl⟩
  have hdials : s.dials .tcp ⟨0xC0000201#32, 443⟩ = true := by
    cases hnew
    decide
  have hreach : Reachable (EngineStep s) Engine.Initial
      { flows := [{ transport := .tcp, id := ⟨0xC0000201#32, 443⟩, stage := .dialing }],
        dialed := [(.tcp, ⟨0xC0000201#32, 443⟩)] } :=
    ⟨_, [.environment, .code], rfl,
      .cons (@EngineStep.arrive _ _ .tcp ⟨0xC0000201#32, 443⟩) <|
      .cons (@EngineStep.flow _ _ [] [] _ _ _ rfl (.dial rfl hdials)) <| .nil _⟩
  exact ⟨s, _, hreach, by simp, ((capture_routes (fun _ => false) hnew hreach (answering second) {}).1
    (.tcp, ⟨0xC0000201#32, 443⟩) (by simp)).2.2.trans (if_pos ⟨rfl, by decide⟩)⟩

end HarmonyNetBridge.Proxy
