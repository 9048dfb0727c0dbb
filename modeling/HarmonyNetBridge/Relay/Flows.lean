import HarmonyNetBridge.Relay.Bridging
import HarmonyNetBridge.Relay.Dns
import HarmonyNetBridge.Relay.Engine

/-! The relay engine as a whole: the handlers of the TCP and UDP flows of the device, the goroutines
they start, the goroutine that reads the packets of the network stack, and `Close`. -/
namespace HarmonyNetBridge.Relay
open Transition List

/-- `relay.Config`; `dns` says whether a `DNSExchanger` is given. Durations are nanoseconds. -/
structure RelayConfig where
  dns : Bool := false
  virtualDNS : Addr := .zero
  mtu : ℕ := 0
  packetQueue : ℤ := 0
  maxTCPInFlight : ℤ := 0
  dialTimeout : ℤ := 0
  udpIdleTimeout : ℤ := 0
  proxyTCPPorts : List ℤ := []
  blockUDP443 : Bool := false
  deriving DecidableEq, Repr

/-- The fields of an `Engine` that `New` sets and nothing changes. -/
structure EngineSettings where
  dns : Bool
  virtualDNS : BitVec 32
  mtu : ℕ
  packetQueue : ℕ
  maxTCPInFlight : ℕ
  dialTimeout : ℕ
  udpIdleTimeout : ℕ
  proxyTCPPorts : List UInt16
  blockUDP443 : Bool
  deriving DecidableEq, Repr

def defaultVirtualDNS : BitVec 32 := 0xC6120001#32
def ipv4MinimumMTU : ℕ := 68

def positiveOr (value : ℤ) (default : ℕ) : ℕ := if value ≤ 0 then default else value.toNat

/-- `New`, up to the calls of the network stack. -/
def newEngine (config : RelayConfig) : Except String EngineSettings := do
  let virtualDNS ← match config.virtualDNS with
    | .zero => pure defaultVirtualDNS
    | .v4 address => pure address
    | .v6 .. => throw "relay virtual DNS address must be IPv4"
  let mtu := if config.mtu = 0 then 1400 else config.mtu
  if mtu < ipv4MinimumMTU ∨ maximumIPv4PacketLength < mtu then
    throw s!"relay MTU {mtu} is outside the IPv4 range"
  if let some port := config.proxyTCPPorts.find? fun port => port < 1 || 65535 < port then
    throw s!"proxy TCP port {port} is outside 1...65535"
  return {
    dns := config.dns
    virtualDNS
    mtu
    packetQueue := positiveOr config.packetQueue 1024
    maxTCPInFlight := positiveOr config.maxTCPInFlight 1024
    dialTimeout := positiveOr config.dialTimeout 15000000000
    udpIdleTimeout := positiveOr config.udpIdleTimeout 120000000000
    proxyTCPPorts := config.proxyTCPPorts.map fun port => UInt16.ofNat port.toNat
    blockUDP443 := config.blockUDP443 }

/-- The destination of a flow, as `request.ID()` gives it. -/
structure FlowID where
  localAddress : BitVec 32
  localPort : UInt16
  deriving DecidableEq, Repr

namespace EngineSettings

def isDNS (s : EngineSettings) (id : FlowID) : Bool :=
  id.localAddress == s.virtualDNS && id.localPort == 53 && s.dns

def isProxied (s : EngineSettings) (id : FlowID) : Bool := s.proxyTCPPorts.contains id.localPort

/-- The flows that `handleUDP` turns down. -/
def isBlocked (s : EngineSettings) (transport : Transport) (id : FlowID) : Bool :=
  transport = .udp && !s.isDNS id && (s.blockUDP443 && id.localPort == 443)

/-- The flows for which a handler dials. -/
def dials (s : EngineSettings) (transport : Transport) (id : FlowID) : Bool :=
  !s.isDNS id && !s.isBlocked transport id

end EngineSettings

/-- Where `handleTCP`, `acceptDNSTCP` or `handleUDP` stands, or the goroutine it has started. -/
inductive FlowStage where
  | called
  | dialing
  | dialed
  | closingHost
  | accepting
  | created
  | counted
  | registering
  | bridging (b : Bridging) (released : Bool)
  | serving
  | exchanging
  | served (released : Bool)
  | refused
  deriving DecidableEq, Repr

/-- `hostOpen` and `deviceOpen` are the connections while the handler holds them; a bridge has them
for itself. `late` says that the goroutine was started after `Close` had returned. -/
structure Flow where
  transport : Transport
  id : FlowID
  stage : FlowStage := .called
  hostOpen : Bool := false
  deviceOpen : Bool := false
  late : Bool := false
  deriving DecidableEq, Repr

inductive ClosingStage where
  | running
  | cancelled
  | linkClosed
  | stackClosed
  | stackWaited
  | returned
  deriving DecidableEq, Repr

def ClosingStage.isCancelled : ClosingStage → Bool
  | .running => false
  | _ => true

/-- The link takes no more packets. -/
def ClosingStage.isLinkClosed : ClosingStage → Bool
  | .running | .cancelled => false
  | _ => true

/-- `stack.Close` has aborted the endpoints. -/
def ClosingStage.isAborted : ClosingStage → Bool
  | .running | .cancelled | .linkClosed => false
  | _ => true

inductive Counter where
  | tcpFlows
  | udpFlows
  | proxyTCPFlows
  | blockedQUICFlows
  deriving DecidableEq, Repr

/-- What a step does to the engine, and whether the code takes it or waits for it; `deadline` is the
return of a call that `Close` does not interrupt and that a deadline of its own ends. -/
inductive EngineEffect where
  | environment
  | deadline
  | code
  | dial
  | count (c : Counter)
  | register
  | release
  deriving DecidableEq, Repr

def EngineEffect.ofBridging : BridgingEvent → EngineEffect
  | .code => .code
  | .proxy => .deadline
  | .peer | .timer => .environment

/-- A step of one flow. A dial returns when its context is cancelled, and a read of an aborted
endpoint fails; `Exchange` waits for the resolver until its deadline. -/
inductive FlowStep (s : EngineSettings) (closing : ClosingStage) (f : Flow) :
    EngineEffect → Flow → Prop
  | dns (stage : f.stage = .called) (isDNS : s.isDNS f.id = true) :
      FlowStep s closing f .code { f with stage := .accepting }
  | block (stage : f.stage = .called) (blocked : s.isBlocked f.transport f.id = true) :
      FlowStep s closing f (.count .blockedQUICFlows) { f with stage := .refused }
  | dial (stage : f.stage = .called) (dials : s.dials f.transport f.id = true) :
      FlowStep s closing f .dial { f with stage := .dialing }
  | dialFails (stage : f.stage = .dialing) :
      FlowStep s closing f .environment { f with stage := .refused }
  | dialCancelled (stage : f.stage = .dialing) (cancelled : closing.isCancelled = true) :
      FlowStep s closing f .code { f with stage := .refused }
  | dialed (stage : f.stage = .dialing) :
      FlowStep s closing f .environment { f with stage := .dialed, hostOpen := true }
  | endpointFails (stage : f.stage = .dialed) :
      FlowStep s closing f .code { f with stage := .closingHost }
  | closeHost (stage : f.stage = .closingHost) :
      FlowStep s closing f .code { f with stage := .refused, hostOpen := false }
  | endpoint (stage : f.stage = .dialed) :
      FlowStep s closing f .code { f with stage := .created, deviceOpen := true }
  | dnsEndpointFails (stage : f.stage = .accepting) :
      FlowStep s closing f .code { f with stage := .refused }
  | dnsEndpoint (stage : f.stage = .accepting) :
      FlowStep s closing f .code { f with stage := .created, deviceOpen := true }
  | countTCP (stage : f.stage = .created) (tcp : f.transport = .tcp) :
      FlowStep s closing f (.count .tcpFlows)
        { f with stage := if s.isDNS f.id then .registering else .counted }
  | countUDP (stage : f.stage = .created) (udp : f.transport = .udp) :
      FlowStep s closing f (.count .udpFlows) { f with stage := .registering }
  | countProxied (stage : f.stage = .counted) (proxied : s.isProxied f.id = true) :
      FlowStep s closing f (.count .proxyTCPFlows) { f with stage := .registering }
  | unproxied (stage : f.stage = .counted) (proxied : s.isProxied f.id = false) :
      FlowStep s closing f .code { f with stage := .registering }
  | registerDNS (stage : f.stage = .registering) (isDNS : s.isDNS f.id = true) :
      FlowStep s closing f .register
        { f with stage := .serving, late := decide (closing = .returned) }
  | register {sniffing : Bool} (stage : f.stage = .registering) (isDNS : s.isDNS f.id = false) :
      FlowStep s closing f .register
        { f with
          stage := .bridging { transport := f.transport, sniffing } false
          late := decide (closing = .returned) }
  | bridge {b c : Bridging} {released : Bool} {e : BridgingEvent}
      (stage : f.stage = .bridging b released)
      (step : BridgingStep closing.isCancelled b e c) :
      FlowStep s closing f (.ofBridging e) { f with stage := .bridging c released }
  | bridged {b : Bridging} (stage : f.stage = .bridging b false) (returned : b.main = .returned) :
      FlowStep s closing f .release { f with stage := .bridging b true }
  | query (stage : f.stage = .serving) :
      FlowStep s closing f .environment { f with stage := .exchanging }
  | exchanged (stage : f.stage = .exchanging) :
      FlowStep s closing f .deadline { f with stage := .serving }
  /-- A failed exchange ends the goroutine of a TCP connection. -/
  | exchangeFails (stage : f.stage = .exchanging) (tcp : f.transport = .tcp) :
      FlowStep s closing f .deadline { f with stage := .served false, deviceOpen := false }
  | dnsEnds (stage : f.stage = .serving) :
      FlowStep s closing f .environment { f with stage := .served false, deviceOpen := false }
  | dnsAborted (stage : f.stage = .serving) (aborted : closing.isAborted = true) :
      FlowStep s closing f .code { f with stage := .served false, deviceOpen := false }
  | dnsDone (stage : f.stage = .served false) :
      FlowStep s closing f .release { f with stage := .served true }

/-- Where `copyNetstackOutput` stands. The deferred calls close the channel first. -/
inductive CopierStage where
  | reading
  | sending (packet : List UInt8)
  | closing
  | releasing
  | done
  deriving DecidableEq, Repr

/-- `queued` are the packets in the link's queue, `output` is the channel and `received` what its
reader has got. `offered` are all packets of the network stack, with whether the link took them,
`taken` those that were read, `drained` the number of those that `link.Close` has discarded, and
`dropped` the one that was given up. -/
structure Copier where
  stage : CopierStage := .reading
  offered : List (List UInt8 × Bool) := []
  queued : List (List UInt8) := []
  drained : ℕ := 0
  taken : List (List UInt8) := []
  packetsToDevice : UInt64 := 0
  bytesToDevice : UInt64 := 0
  output : List (List UInt8) := []
  outputClosed : Bool := false
  received : List (List UInt8) := []
  dropped : List (List UInt8) := []
  deriving DecidableEq, Repr

/-- The packets that `copyNetstackOutput` does not skip. -/
def sendable (packet : List UInt8) : Bool :=
  packet.length != 0 && decide (packet.length ≤ maximumIPv4PacketLength)

/-- The packets that the link took. -/
def accepted (offered : List (List UInt8 × Bool)) : List (List UInt8) :=
  (offered.filter Prod.snd).map Prod.fst

/-- The link is open and its queue is not full. -/
def Copier.hasRoom (s : EngineSettings) (closing : ClosingStage) (c : Copier) : Bool :=
  !closing.isLinkClosed && decide (c.queued.length < s.packetQueue)

/-- `copyNetstackOutput`, the network stack in front of it and the reader behind it. -/
inductive CopierStep (s : EngineSettings) (closing : ClosingStage) (c : Copier) :
    EngineEffect → Copier → Prop
  | generate {packet : List UInt8} (room : c.hasRoom s closing = true) :
      CopierStep s closing c .environment
        { c with offered := c.offered ++ [(packet, true)], queued := c.queued ++ [packet] }
  | refuse {packet : List UInt8} (full : c.hasRoom s closing = false) :
      CopierStep s closing c .environment { c with offered := c.offered ++ [(packet, false)] }
  | drain {packet : List UInt8} {rest : List (List UInt8)} (link : closing.isLinkClosed = true)
      (next : c.queued = packet :: rest) :
      CopierStep s closing c .code { c with queued := rest, drained := c.drained + 1 }
  | skip {packet : List UInt8} {rest : List (List UInt8)} (stage : c.stage = .reading)
      (next : c.queued = packet :: rest) (empty : sendable packet = false) :
      CopierStep s closing c .code { c with queued := rest, taken := c.taken ++ [packet] }
  | read {packet : List UInt8} {rest : List (List UInt8)} (stage : c.stage = .reading)
      (next : c.queued = packet :: rest) (good : sendable packet = true) :
      CopierStep s closing c .code
        { c with
          queued := rest
          taken := c.taken ++ [packet]
          packetsToDevice := c.packetsToDevice + 1
          bytesToDevice := c.bytesToDevice + UInt64.ofNat packet.length
          stage := .sending packet }
  | readNil (stage : c.stage = .reading) (cancelled : closing.isCancelled = true) :
      CopierStep s closing c .code { c with stage := .closing }
  | send {packet : List UInt8} (stage : c.stage = .sending packet)
      (room : c.output.length < s.packetQueue) :
      CopierStep s closing c .code { c with output := c.output ++ [packet], stage := .reading }
  | giveUp {packet : List UInt8} (stage : c.stage = .sending packet)
      (cancelled : closing.isCancelled = true) :
      CopierStep s closing c .code { c with dropped := [packet], stage := .closing }
  | close (stage : c.stage = .closing) :
      CopierStep s closing c .code { c with outputClosed := true, stage := .releasing }
  | release (stage : c.stage = .releasing) :
      CopierStep s closing c .release { c with stage := .done }
  | receive {packet : List UInt8} {rest : List (List UInt8)} (next : c.output = packet :: rest) :
      CopierStep s closing c .environment
        { c with output := rest, received := c.received ++ [packet] }

/-- An engine. `flows` are all flows that a handler was called for and `dialed` the dials. -/
structure Engine where
  closing : ClosingStage := .running
  wg : ℕ := 1
  flows : List Flow := []
  copier : Copier := {}
  counters : Counter → UInt64 := fun _ => 0
  dialed : List (Transport × FlowID) := []

def Engine.apply (e : Engine) (target : Transport × FlowID) : EngineEffect → Engine
  | .environment | .deadline | .code => e
  | .dial => { e with dialed := e.dialed ++ [target] }
  | .count c => { e with counters := Function.update e.counters c (e.counters c + 1) }
  | .register => { e with wg := e.wg + 1 }
  | .release => { e with wg := e.wg - 1 }

def Flow.target (f : Flow) : Transport × FlowID := (f.transport, f.id)

inductive EngineEvent where
  | environment
  | deadline
  | code
  deriving DecidableEq, Repr

def EngineEffect.event : EngineEffect → EngineEvent
  | .environment => .environment
  | .deadline => .deadline
  | _ => .code

inductive EngineStep (s : EngineSettings) (e : Engine) : EngineEvent → Engine → Prop
  /-- The network stack calls a handler for a new flow. -/
  | arrive {transport : Transport} {id : FlowID} :
      EngineStep s e .environment { e with flows := e.flows ++ [{ transport, id }] }
  | flow {before after : List Flow} {f g : Flow} {effect : EngineEffect}
      (here : e.flows = before ++ f :: after) (step : FlowStep s e.closing f effect g) :
      EngineStep s e effect.event
        (Engine.apply { e with flows := before ++ g :: after } f.target effect)
  | copier {c : Copier} {effect : EngineEffect} (target : Transport × FlowID)
      (step : CopierStep s e.closing e.copier effect c) :
      EngineStep s e effect.event (Engine.apply { e with copier := c } target effect)
  /-- `Close` is called: `cancel`. -/
  | close (stage : e.closing = .running) :
      EngineStep s e .environment { e with closing := .cancelled }
  | closeLink (stage : e.closing = .cancelled) :
      EngineStep s e .code { e with closing := .linkClosed }
  | closeStack (stage : e.closing = .linkClosed) (drained : e.copier.queued = []) :
      EngineStep s e .code { e with closing := .stackClosed }
  | waitStack (stage : e.closing = .stackClosed) :
      EngineStep s e .code { e with closing := .stackWaited }
  | wait (stage : e.closing = .stackWaited) (zero : e.wg = 0) :
      EngineStep s e .code { e with closing := .returned }

def Engine.Initial (e : Engine) : Prop := e = {}

namespace Flow

/-- The connections that are open, whoever holds them. -/
def host (f : Flow) : Bool :=
  match f.stage with
  | .bridging b _ => b.hostOpen
  | _ => f.hostOpen

def device (f : Flow) : Bool :=
  match f.stage with
  | .bridging b _ => b.deviceOpen
  | _ => f.deviceOpen

/-- The handler has turned the flow down, or no goroutine of it is left. -/
def Over (f : Flow) : Prop :=
  match f.stage with
  | .refused | .served true => True
  | .bridging b true => b.Over
  | _ => False

/-- Whether the flow holds one of the engine's `wg`. -/
def registered (f : Flow) : Bool :=
  match f.stage with
  | .bridging _ false | .serving | .exchanging | .served false => true
  | _ => false

/-- Whether the handler has neither turned the flow down nor started its goroutine. -/
def handling (f : Flow) : Bool :=
  match f.stage with
  | .bridging _ _ | .serving | .exchanging | .served _ | .refused => false
  | _ => true

/-- Whether the handler has come past its counters. -/
def past : FlowStage → Bool
  | .registering | .bridging _ _ | .serving | .exchanging | .served _ => true
  | _ => false

/-- Whether the flow is one that the counter has counted. -/
def counts (s : EngineSettings) (f : Flow) : Counter → Bool
  | .tcpFlows => f.transport = .tcp && (f.stage = .counted || past f.stage)
  | .udpFlows => f.transport = .udp && past f.stage
  | .proxyTCPFlows =>
    f.transport = .tcp && s.dials f.transport f.id && s.isProxied f.id && past f.stage
  | .blockedQUICFlows => s.isBlocked f.transport f.id && f.stage = .refused

def hasDialed (s : EngineSettings) (f : Flow) : Bool :=
  s.dials f.transport f.id && f.stage ≠ .called

/-- What holds of a flow at each stage. -/
def Ok (s : EngineSettings) (f : Flow) : Prop :=
  match f.stage with
  | .called | .refused => f.hostOpen = false ∧ f.deviceOpen = false
  | .dialing => s.dials f.transport f.id = true ∧ f.hostOpen = false ∧ f.deviceOpen = false
  | .dialed | .closingHost => s.dials f.transport f.id = true ∧ f.deviceOpen = false
  | .accepting => s.isDNS f.id = true ∧ f.hostOpen = false ∧ f.deviceOpen = false
  | .created | .registering =>
    s.isDNS f.id = true ∧ f.hostOpen = false ∨ s.dials f.transport f.id = true
  | .counted => s.dials f.transport f.id = true ∧ f.transport = .tcp
  | .bridging b released =>
    s.dials f.transport f.id = true ∧ b.Sound ∧ (released = true → b.main = .returned)
  | .serving | .exchanging => s.isDNS f.id = true ∧ f.hostOpen = false
  | .served _ => s.isDNS f.id = true ∧ f.hostOpen = false ∧ f.deviceOpen = false

/-- The steps that are left to the code and to the calls with a deadline. -/
def work (f : Flow) : ℕ :=
  match f.stage with
  | .called => 24
  | .dialing => 23
  | .dialed => 22
  | .closingHost => 1
  | .accepting => 22
  | .created => 21
  | .counted => 20
  | .registering => 19
  | .bridging b released => b.work + if released then 0 else 1
  | .exchanging => 4
  | .serving => 3
  | .served released => if released then 0 else 1
  | .refused => 0

section
variable {s : EngineSettings} {closing : ClosingStage} {f g : Flow} {effect : EngineEffect}

theorem dials_of_not_dns (h : s.isDNS f.id = true ∧ f.hostOpen = false ∨
    s.dials f.transport f.id = true) (hdns : s.isDNS f.id = false) :
    s.dials f.transport f.id = true := by
  rcases h with ⟨h, -⟩ | h
  · simp [hdns] at h
  · exact h

theorem Ok.step (h : f.Ok s) (hstep : FlowStep s closing f effect g) : g.Ok s := by
  unfold Ok at h ⊢
  cases hstep with
  | countTCP stage tcp =>
    simp only [stage] at h
    cases hdns : s.isDNS f.id with
    | true => simpa [hdns] using h
    | false => simpa [hdns, tcp] using dials_of_not_dns h hdns
  | registerDNS stage isDNS =>
    simp only [stage] at h
    refine ⟨isDNS, ?_⟩
    rcases h with ⟨-, h⟩ | h
    · exact h
    · simp [EngineSettings.dials, isDNS] at h
  | register stage isDNS =>
    simp only [stage] at h
    exact ⟨dials_of_not_dns h isDNS, .fresh _ _, nofun⟩
  | countProxied stage | unproxied stage => simp only [stage] at h; exact .inr h.1
  | bridge stage step =>
    simp only [stage] at h
    exact ⟨h.1, h.2.1.step step, fun hreleased => Bridging.main_returned step (h.2.2 hreleased)⟩
  | _ => simp_all

theorem Ok.counts_step (h : f.Ok s) (hstep : FlowStep s closing f effect g) (c : Counter) :
    g.counts s c = (f.counts s c || effect = .count c) ∧
      (effect = .count c → f.counts s c = false) := by
  unfold Ok at h
  cases hstep with
  | dialFails stage | dialCancelled stage | closeHost stage =>
    simp only [stage] at h
    have hopen := h.1
    simp only [EngineSettings.dials, Bool.and_eq_true, Bool.not_eq_true'] at hopen
    cases c <;> simp [counts, past, stage, hopen.2]
  | dnsEndpointFails stage =>
    simp only [stage] at h
    cases c <;> simp [counts, past, stage, EngineSettings.isBlocked, h.1]
  | countTCP stage tcp =>
    cases hdns : s.isDNS f.id <;> cases c <;>
      simp [counts, past, stage, tcp, hdns, EngineSettings.dials]
  | countProxied stage proxied =>
    simp only [stage] at h
    have hdials : s.dials .tcp f.id = true := h.2 ▸ h.1
    cases c <;> simp [counts, past, stage, h.2, hdials, proxied]
  | unproxied stage proxied =>
    simp only [stage] at h
    cases c <;> simp [counts, past, stage, h.2, proxied]
  | @bridge b b' released e stage step =>
    cases e <;> cases c <;> simp [counts, past, stage, EngineEffect.ofBridging]
  | _ => cases c <;> simp_all [counts, past]

theorem hasDialed_step (hstep : FlowStep s closing f effect g) :
    g.target = f.target ∧ g.hasDialed s = (f.hasDialed s || effect = .dial) ∧
      (effect = .dial → f.hasDialed s = false) := by
  cases hstep with
  | dns stage isDNS => simp [target, hasDialed, stage, EngineSettings.dials, isDNS]
  | block stage blocked => simp [target, hasDialed, stage, EngineSettings.dials, blocked]
  | dial stage dials => simp [target, hasDialed, stage, dials]
  | countTCP stage =>
    cases hdns : s.isDNS f.id <;> simp [target, hasDialed, stage]
  | @bridge b b' released e stage step =>
    cases e <;> simp [target, hasDialed, stage, EngineEffect.ofBridging]
  | _ => simp_all [target, hasDialed]

theorem registered_step (hstep : FlowStep s closing f effect g) :
    (if g.registered then 1 else 0) + (if effect = .release then 1 else 0) =
      (if f.registered then 1 else 0) + if effect = .register then 1 else 0 := by
  cases hstep with
  | countTCP stage =>
    cases hdns : s.isDNS f.id <;> simp [registered, stage]
  | @bridge b b' released e stage step =>
    cases e <;> cases released <;> simp [registered, stage, EngineEffect.ofBridging]
  | _ => simp_all [registered]

/-- A goroutine that is started when `Close` has returned is late, and stays so. -/
theorem late_step (hstep : FlowStep s closing f effect g) (hret : closing = .returned)
    (hf : f.registered = true → f.late = true) (hg : g.registered = true) : g.late = true := by
  cases hstep with
  | registerDNS | register => simpa using hret
  | countTCP stage =>
    cases hdns : s.isDNS f.id <;> simp [registered, hdns] at hg
  | @bridge b b' released e stage step =>
    cases released with
    | true => simp [registered] at hg
    | false => exact hf (by simp [registered, stage])
  | query stage | exchanged stage | exchangeFails stage | dnsEnds stage | dnsAborted stage =>
    exact hf (by simp [registered, stage])
  | _ => simp [registered] at hg

theorem work_lt (hstep : FlowStep s closing f effect g) (hcode : effect ≠ .environment) :
    g.work < f.work := by
  cases hstep with
  | dialFails | dialed | query | dnsEnds => exact absurd rfl hcode
  | countTCP stage => cases hdns : s.isDNS f.id <;> simp [work, stage]
  | @bridge b b' released e stage step =>
    cases e with
    | code | proxy =>
      have := Bridging.work_lt step (by simp)
      simpa [work, stage] using this
    | peer | timer => exact absurd rfl hcode
  | @register sniffing stage =>
    cases sniffing <;> simp [work, stage, Bridging.work, Bridging.copyWork, Bridging.closerWork,
      Bridging.mainWork]
  | _ => simp_all [work]

end
end Flow

namespace Copier

def held (c : Copier) : List (List UInt8) :=
  match c.stage with
  | .sending packet => [packet]
  | _ => []

def holds (c : Copier) : ℕ := if c.stage = .done then 0 else 1

/-- What has become of the packets that the link took. -/
structure Queued (s : EngineSettings) (closing : ClosingStage) (c : Copier) : Prop where
  order : (c.taken ++ c.queued).Sublist (accepted c.offered)
  count : (accepted c.offered).length = c.taken.length + c.queued.length + c.drained
  room : c.queued.length + c.drained ≤ s.packetQueue
  link : closing.isLinkClosed = false → c.drained = 0

structure Ok (closing : ClosingStage) (c : Copier) : Prop where
  stream : c.received ++ c.output ++ c.held ++ c.dropped = c.taken.filter sendable
  dropped : c.dropped = [] ∨
    c.dropped.length = 1 ∧ closing.isCancelled = true ∧
      (c.stage = .closing ∨ c.stage = .releasing ∨ c.stage = .done)
  packets : c.packetsToDevice = UInt64.ofNat (c.taken.filter sendable).length
  bytes : c.bytesToDevice = UInt64.ofNat ((c.taken.filter sendable).map List.length).sum
  closed : c.outputClosed = true ↔ c.stage = .releasing ∨ c.stage = .done
  cancelled : c.stage = .closing ∨ c.outputClosed = true → closing.isCancelled = true

def stageWork : CopierStage → ℕ
  | .sending _ => 4
  | .reading => 3
  | .closing => 2
  | .releasing => 1
  | .done => 0

def work (c : Copier) : ℕ := 2 * c.queued.length + stageWork c.stage

section
variable {s : EngineSettings} {closing : ClosingStage} {c d : Copier} {effect : EngineEffect}

@[simp] theorem accepted_append (offered : List (List UInt8 × Bool)) (packet : List UInt8)
    (ok : Bool) : accepted (offered ++ [(packet, ok)]) =
      accepted offered ++ if ok then [packet] else [] := by
  cases ok <;> simp [accepted]

theorem Queued.step (h : c.Queued s closing) (hstep : CopierStep s closing c effect d) :
    d.Queued s closing := by
  obtain ⟨horder, hcount, hroom, hlink⟩ := h
  cases hstep with
  | generate room =>
    simp only [hasRoom, Bool.and_eq_true, Bool.not_eq_true', decide_eq_true_eq] at room
    have hdrained := hlink room.1
    refine ⟨?_, ?_, ?_, hlink⟩
    · simpa using horder.append (.refl _)
    · simp [hcount, hdrained]
      omega
    · simp [hdrained]
      omega
  | refuse => exact ⟨by simpa using horder, by simpa using hcount, hroom, hlink⟩
  | drain link next =>
    rw [next] at horder hcount hroom
    simp only [length_cons] at hcount hroom
    refine ⟨.trans ((List.Sublist.refl _).append (sublist_cons_self _ _)) horder, ?_, ?_, ?_⟩
    · dsimp only
      omega
    · dsimp only
      omega
    · simp [link]
  | skip stage next | read stage next =>
    rw [next] at horder hcount hroom
    simp only [length_cons] at hcount hroom
    refine ⟨by simpa using horder, ?_, ?_, hlink⟩
    · simp only [length_append, length_singleton]
      omega
    · dsimp only
      omega
  | _ => exact ⟨horder, hcount, hroom, hlink⟩

/-- What is read in the end falls short of what was taken by what was in the queue. -/
theorem Queued.countP (h : c.Queued s closing) : ((accepted c.offered).filter sendable).length ≤
      (c.taken.filter sendable).length + s.packetQueue := by
  have hcount := h.order.le_countP sendable
  have hlen := h.count
  have hroom := h.room
  have hqueued : c.queued.countP sendable ≤ c.queued.length := countP_le_length
  simp only [countP_append, length_append] at hcount
  simp only [← countP_eq_length_filter]
  omega

theorem Queued.mono (h : c.Queued s closing) {later : ClosingStage}
    (hle : later.isLinkClosed = false → closing.isLinkClosed = false) : c.Queued s later :=
  { h with link := fun hopen => h.link (hle hopen) }

theorem Ok.step (h : c.Ok closing) (hstep : CopierStep s closing c effect d) : d.Ok closing := by
  have hstream := h.stream
  have hclosed := h.closed
  have hdropped := h.dropped
  have hcancel := h.cancelled
  cases hstep with
  | generate | refuse | drain => exact { h with }
  | skip stage next bad =>
    exact { h with
      stream := by simpa [held, bad] using hstream
      packets := by simpa [bad] using h.packets
      bytes := by simpa [bad] using h.bytes }
  | read stage next good =>
    simp only [stage, held, reduceCtorEq, or_self, iff_false, and_false, or_false] at *
    exact {
      stream := by simp_all [held]
      dropped := .inl hdropped
      packets := by simp [h.packets, good, UInt64.ofNat_add]
      bytes := by simp [h.bytes, good, UInt64.ofNat_add]
      closed := by simpa using hclosed
      cancelled := by simp [hclosed] }
  | readNil stage cancelled =>
    exact { h with
      stream := by simpa [held, stage] using hstream
      dropped := .inl (by simpa [stage] using hdropped)
      closed := by simpa [stage] using hclosed
      cancelled := fun _ => cancelled }
  | send stage room =>
    simp only [stage, held, reduceCtorEq, or_self, iff_false, and_false, or_false] at *
    exact { h with
      stream := by simpa [held] using hstream
      dropped := .inl hdropped
      closed := by simpa using hclosed
      cancelled := by simp [hclosed] }
  | giveUp stage cancelled =>
    simp only [stage, held, reduceCtorEq, or_self, iff_false, and_false, or_false] at *
    exact { h with
      stream := by simpa [held, hdropped] using hstream
      dropped := .inr ⟨rfl, cancelled, .inl rfl⟩
      closed := by simpa using hclosed
      cancelled := fun _ => cancelled }
  | close stage =>
    exact { h with
      stream := by simpa [held, stage] using hstream
      dropped := by simpa [stage] using hdropped
      closed := by simp
      cancelled := fun _ => hcancel (.inl stage) }
  | release stage =>
    exact { h with
      stream := by simpa [held, stage] using hstream
      dropped := by simpa [stage] using hdropped
      closed := by simpa [stage] using hclosed
      cancelled := by simpa [stage] using hcancel }
  | receive next =>
    exact { h with stream := by simpa [held, next] using hstream }

theorem Ok.mono (h : c.Ok closing) {later : ClosingStage}
    (hle : closing.isCancelled = true → later.isCancelled = true) : c.Ok later :=
  { h with
    dropped := h.dropped.imp id fun ⟨hone, hcancel, hstage⟩ => ⟨hone, hle hcancel, hstage⟩
    cancelled := fun hstage => hle (h.cancelled hstage) }

theorem holds_step (hstep : CopierStep s closing c effect d) :
    d.holds + (if effect = .release then 1 else 0) = c.holds ∧
      (effect = .environment ∨ effect = .code ∨ effect = .release) := by
  cases hstep with
  | generate | refuse | drain | receive => simp [holds]
  | skip stage | read stage | readNil stage | send stage | giveUp stage | close stage
  | release stage => simp [holds, stage]

theorem work_lt (hstep : CopierStep s closing c effect d) (hcode : effect ≠ .environment) :
    d.work < c.work := by
  cases hstep with
  | generate | refuse | receive => exact absurd rfl hcode
  | drain link next =>
    simp only [work, next, length_cons]
    omega
  | skip stage next | read stage next =>
    simp only [work, next, stage, stageWork, length_cons]
    omega
  | readNil stage | send stage | giveUp stage | close stage | release stage =>
    simp [work, stage, stageWork]

end
end Copier

namespace Engine

structure Ok (s : EngineSettings) (e : Engine) : Prop where
  flows : ∀ f ∈ e.flows, f.Ok s
  copier : e.copier.Ok e.closing
  queue : e.copier.Queued s e.closing
  counters : ∀ c, e.counters c = UInt64.ofNat (e.flows.countP (·.counts s c))
  dialed : ∀ target, e.dialed.count target =
    e.flows.countP fun f => f.hasDialed s && decide (f.target = target)
  group : e.wg = e.copier.holds + e.flows.countP Flow.registered
  returned : e.closing = .returned →
    e.copier.stage = .done ∧ ∀ f ∈ e.flows, f.registered = true → f.late = true

section
variable {s : EngineSettings} {e e' : Engine} {event : EngineEvent}

@[simp] theorem apply_flows (e : Engine) (target : Transport × FlowID) (effect : EngineEffect) :
    (e.apply target effect).flows = e.flows := by cases effect <;> rfl

@[simp] theorem apply_copier (e : Engine) (target : Transport × FlowID) (effect : EngineEffect) :
    (e.apply target effect).copier = e.copier := by cases effect <;> rfl

@[simp] theorem apply_closing (e : Engine) (target : Transport × FlowID) (effect : EngineEffect) :
    (e.apply target effect).closing = e.closing := by cases effect <;> rfl

theorem Ok.initial : Ok s {} := by
  constructor <;> simp [Copier.holds]
  · constructor <;> simp [Copier.held]
  · constructor <;> simp [accepted]

theorem apply_counters (e : Engine) (target : Transport × FlowID) (effect : EngineEffect)
    (c : Counter) : (e.apply target effect).counters c =
      e.counters c + if effect = .count c then 1 else 0 := by
  cases effect with
  | count d =>
    by_cases hc : d = c
    · simp [apply, hc]
    · simp [apply, hc, Function.update_of_ne (Ne.symm hc)]
  | environment | deadline | code | dial | register | release => simp [apply]

theorem apply_dialed (e : Engine) (target t : Transport × FlowID) (effect : EngineEffect) :
    (e.apply target effect).dialed.count t =
      e.dialed.count t + if effect = .dial ∧ target = t then 1 else 0 := by
  cases effect with
  | dial => simp [apply, count_singleton]
  | environment | deadline | code | count | register | release => simp [apply]

theorem apply_wg (e : Engine) (target : Transport × FlowID) (effect : EngineEffect) :
    (e.apply target effect).wg =
      e.wg + (if effect = .register then 1 else 0) - if effect = .release then 1 else 0 := by
  cases effect <;> simp [apply]

/-- One element of a list is replaced by one that a predicate holds of if it held before, or now. -/
theorem countP_replace {α : Type} {p : α → Bool} {x y : α} (before after : List α) {now : Bool}
    (hy : p y = (p x || now)) (hx : now = true → p x = false) : (before ++ y :: after).countP p =
      (before ++ x :: after).countP p + if now = true then 1 else 0 := by
  simp only [countP_append, countP_cons, hy]
  cases now with
  | true => simp [hx rfl]; omega
  | false => simp

theorem Ok.flow (h : e.Ok s) {before after : List Flow} {f g : Flow} {effect : EngineEffect}
    (here : e.flows = before ++ f :: after) (step : FlowStep s e.closing f effect g) :
    Ok s (apply { e with flows := before ++ g :: after } f.target effect) := by
  have hf : f ∈ e.flows := by simp [here]
  have hok := h.flows f hf
  obtain ⟨htarget, hdials, hdialing⟩ := Flow.hasDialed_step step
  have hregistered := Flow.registered_step step
  have hmem {p : Flow → Prop} (hp : ∀ k ∈ e.flows, p k) (hg : p g) :
      ∀ k ∈ before ++ g :: after, p k := by
    intro k hk
    rcases mem_append.mp hk with hk | hk
    · exact hp k (by simp [here, hk])
    rcases mem_cons.mp hk with rfl | hk
    · exact hg
    · exact hp k (by simp [here, hk])
  constructor
  · simpa using hmem h.flows (hok.step step)
  · simpa using h.copier
  · simpa using h.queue
  · intro c
    obtain ⟨hg, hnew⟩ := hok.counts_step step c
    rw [apply_counters, apply_flows, countP_replace before after hg (by simpa using hnew), ← here]
    simp only [h.counters c, decide_eq_true_eq]
    split <;> simp [UInt64.ofNat_add]
  · intro t
    rw [apply_dialed, apply_flows, h.dialed t, here]
    have hcount := @countP_replace Flow (fun f => f.hasDialed s && decide (f.target = t)) f g before
      after (decide (effect = .dial ∧ f.target = t))
      (by rw [htarget, hdials, Bool.and_or_distrib_right, Bool.decide_and])
      (by intro hnow; simp [hdialing (of_decide_eq_true hnow).1])
    simpa using hcount.symm
  · have hgroup := h.group
    rw [apply_wg, apply_flows, apply_copier]
    simp only [here, countP_append, countP_cons] at hgroup ⊢
    omega
  · intro hret
    simp only [apply_closing, apply_copier, apply_flows] at hret ⊢
    obtain ⟨hdone, hlate⟩ := h.returned hret
    exact ⟨hdone, hmem hlate (Flow.late_step step hret (hlate f hf))⟩

theorem Ok.output (h : e.Ok s) {c : Copier} {effect : EngineEffect} {target : Transport × FlowID}
    (step : CopierStep s e.closing e.copier effect c) :
    Ok s (apply { e with copier := c } target effect) := by
  obtain ⟨hholds, heffect⟩ := Copier.holds_step step
  have hgroup := h.group
  have hdone : e.closing = .returned → c.stage = .done := by
    intro hret
    have hstage := (h.returned hret).1
    cases step with
    | generate | refuse | drain | receive => exact hstage
    | skip stage | read stage | readNil stage | send stage | giveUp stage | close stage
    | release stage => simp [hstage] at stage
  constructor
  · simpa using h.flows
  · simpa using h.copier.step step
  · simpa using h.queue.step step
  · intro c'
    rw [apply_counters, apply_flows]
    rcases heffect with rfl | rfl | rfl <;> simpa using h.counters c'
  · intro t
    rw [apply_dialed, apply_flows]
    rcases heffect with rfl | rfl | rfl <;> simpa using h.dialed t
  · rw [apply_wg, apply_flows, apply_copier]
    rcases heffect with rfl | rfl | rfl <;> simp at hholds ⊢ <;> omega
  · simpa using fun hret => ⟨hdone hret, (h.returned hret).2⟩

theorem Ok.closing (h : e.Ok s) {later : ClosingStage} (hlater : later.isCancelled = true)
    (hlink : later.isLinkClosed = false → e.closing.isLinkClosed = false)
    (hret : later = .returned → e.copier.stage = .done ∧
      ∀ f ∈ e.flows, f.registered = true → f.late = true) : Ok s { e with closing := later } :=
  { h with
    copier := h.copier.mono fun _ => hlater
    queue := h.queue.mono hlink
    returned := hret }

theorem Ok.step (h : e.Ok s) (hstep : EngineStep s e event e') : e'.Ok s := by
  cases hstep with
  | @arrive transport id =>
    have hcalled : Flow.Ok s { transport, id } := ⟨rfl, rfl⟩
    exact { h with
      flows := by simpa [or_imp, forall_and] using ⟨h.flows, hcalled⟩
      counters := fun c => by
        rw [h.counters c, countP_append]
        cases c <;> simp [Flow.counts, Flow.past]
      dialed := fun t => by
        rw [h.dialed t, countP_append]
        simp [Flow.hasDialed]
      group := by
        rw [h.group, countP_append]
        simp [Flow.registered]
      returned := fun hret => by
        obtain ⟨hdone, hlate⟩ := h.returned hret
        refine ⟨hdone, ?_⟩
        simpa [or_imp, forall_and, Flow.registered] using hlate }
  | flow here step => exact h.flow here step
  | copier _ step => exact h.output step
  | close stage => exact h.closing rfl (fun _ => by rw [stage]; rfl) nofun
  | closeLink | closeStack | waitStack => exact h.closing rfl nofun nofun
  | wait stage zero =>
    -- nobody holds the group, so nothing that was registered in time is left
    have hgroup := h.group
    rw [zero] at hgroup
    refine h.closing rfl nofun fun _ => ⟨?_, fun f hf hregistered => ?_⟩
    · by_contra hstage
      simp only [Copier.holds, hstage, if_false] at hgroup
      omega
    · have hpos := countP_pos_iff.mpr ⟨f, hf, hregistered⟩
      omega

theorem ok_of_reachable (h : Reachable (EngineStep s) Initial e) : e.Ok s :=
  h.invariant (fun _ hinit => hinit ▸ .initial) fun _ _ _ hstep h => h.step hstep

def closingWork : ClosingStage → ℕ
  | .running => 5
  | .cancelled => 4
  | .linkClosed => 3
  | .stackClosed => 2
  | .stackWaited => 1
  | .returned => 0

/-- The steps that are left to the code and to the calls with a deadline. -/
def work (e : Engine) : ℕ := (e.flows.map Flow.work).sum + e.copier.work + closingWork e.closing

theorem work_lt (hstep : EngineStep s e event e') (hevent : event ≠ .environment) :
    e'.work < e.work := by
  cases hstep with
  | arrive | close => exact absurd rfl hevent
  | @flow before after f g effect here step =>
    have hlt := Flow.work_lt step (by rintro rfl; exact hevent rfl)
    simp only [work, apply_flows, apply_copier, apply_closing, here, map_append, map_cons,
      sum_append, sum_cons]
    omega
  | @copier c effect target step =>
    have hlt := Copier.work_lt step (by rintro rfl; exact hevent rfl)
    simp only [work, apply_flows, apply_copier, apply_closing]
    omega
  | closeLink stage | closeStack stage | waitStack stage | wait stage =>
    simp [work, closingWork, stage]

/-- `Close` has returned, the channel of the output is closed and every flow is over. -/
structure Over (e : Engine) : Prop where
  closing : e.closing = .returned
  output : e.copier.outputClosed = true
  flows : ∀ f ∈ e.flows, f.Over ∧ f.host = false ∧ f.device = false

end
end Engine

section
variable {s : EngineSettings} {e : Engine}

/-- Each counter counts its flows in every order of the goroutines, and no flow is dialed twice. -/
theorem flows_counted (h : Reachable (EngineStep s) Engine.Initial e) :
    (∀ c, e.counters c = UInt64.ofNat (e.flows.countP (·.counts s c))) ∧
    ∀ target, e.dialed.count target = e.flows.countP fun f =>
      f.hasDialed s && decide (f.target = target) :=
  ⟨(Engine.ok_of_reachable h).counters, (Engine.ok_of_reachable h).dialed⟩

theorem flows_counted_blocked : ∃ s e, Reachable (EngineStep s) Engine.Initial e ∧
    e.counters .blockedQUICFlows = 1 := by
  obtain ⟨s, hs⟩ : ∃ s, newEngine { blockUDP443 := true } = .ok s := ⟨_, rfl⟩
  have hblocked : s.isBlocked .udp ⟨0#32, 443⟩ = true := by
    cases hs
    decide
  have hreach : Reachable (EngineStep s) Engine.Initial _ :=
    ⟨_, [.environment, .code], rfl, .cons (@EngineStep.arrive _ _ .udp ⟨0#32, 443⟩) <|
      .cons (@EngineStep.flow _ _ [] [] _ _ _ rfl (.block rfl hblocked)) <| .nil _⟩
  exact ⟨s, _, hreach, ((flows_counted hreach).1 _).trans (by simp [Flow.counts, hblocked])⟩

/-- The packets that the link takes from the network stack reach the reader of the output in their
order, none of them altered or doubled. As long as the engine runs, none is lost: it is in the queue
of the link, in the hands of the loop, in the channel or with the reader. `Close` may cost those that
are in the queue then and the one in the hands of the loop. The counters count what was read. -/
theorem output_kept (h : Reachable (EngineStep s) Engine.Initial e) : (e.closing = .running →
      e.copier.received ++ e.copier.output ++ e.copier.held ++ e.copier.queued.filter sendable =
        (accepted e.copier.offered).filter sendable) ∧
    (e.copier.received ++ e.copier.output).Sublist ((accepted e.copier.offered).filter sendable) ∧
    ((accepted e.copier.offered).filter sendable).length ≤
      (e.copier.received ++ e.copier.output).length + 1 + s.packetQueue ∧
    (e.copier.outputClosed = true → e.closing ≠ .running) ∧
    e.copier.packetsToDevice = UInt64.ofNat (e.copier.taken.filter sendable).length ∧
    e.copier.bytesToDevice =
      UInt64.ofNat ((e.copier.taken.filter sendable).map List.length).sum := by
  have hok := (Engine.ok_of_reachable h).copier
  have hqueue := (Engine.ok_of_reachable h).queue
  have hrunning (hcancel : e.closing.isCancelled = true) : e.closing ≠ .running := by
    intro hrunning
    rw [hrunning] at hcancel
    cases hcancel
  have hlast : (e.copier.held ++ e.copier.dropped).length ≤ 1 := by
    rcases hok.dropped with hdropped | ⟨hone, -, hstage⟩
    · simp only [hdropped, append_nil, Copier.held]
      split <;> simp
    · rcases hstage with hstage | hstage | hstage <;> simp [Copier.held, hstage, hone]
  have hstream : e.copier.received ++ e.copier.output ++ (e.copier.held ++ e.copier.dropped) =
      e.copier.taken.filter sendable := by simpa using hok.stream
  refine ⟨fun hclosing => ?_, ?_, ?_, fun hclosed => hrunning (hok.cancelled (.inr hclosed)),
    hok.packets, hok.bytes⟩
  · have hdropped : e.copier.dropped = [] :=
      hok.dropped.resolve_right fun ⟨_, hcancel, _⟩ => hrunning hcancel hclosing
    have hdrained := hqueue.link (by rw [hclosing]; rfl)
    have hlen : (e.copier.taken ++ e.copier.queued).length = (accepted e.copier.offered).length := by
      rw [hqueue.count, hdrained, length_append, Nat.add_zero]
    rw [← hqueue.order.eq_of_length hlen, filter_append, ← hok.stream, hdropped,
      append_nil]
  · have htaken : (e.copier.taken.filter sendable).Sublist
        ((accepted e.copier.offered).filter sendable) :=
      ((sublist_append_left _ _).trans hqueue.order).filter _
    rw [← hstream] at htaken
    exact (sublist_append_left _ _).trans htaken
  · have hcount := hqueue.countP
    rw [← hstream, length_append] at hcount
    omega

theorem output_kept_one : ∃ s e, Reachable (EngineStep s) Engine.Initial e ∧
    accepted e.copier.offered = [[0x45]] ∧ e.copier.received = [[0x45]] ∧
    e.copier.packetsToDevice = 1 := by
  obtain ⟨s, hs⟩ : ∃ s, newEngine {} = .ok s := ⟨_, rfl⟩
  have hroom : 0 < s.packetQueue := by
    cases hs
    decide
  have hreach : Reachable (EngineStep s) Engine.Initial
      { copier := { offered := [([0x45], true)], taken := [[0x45]], packetsToDevice := 1,
                    bytesToDevice := 1, received := [[0x45]] } } :=
    ⟨_, [.environment, .code, .code, .environment], rfl,
      .cons (.copier (.tcp, ⟨0, 0⟩) (@CopierStep.generate _ _ _ [0x45]
        (by simpa [Copier.hasRoom, ClosingStage.isLinkClosed] using hroom))) <|
      .cons (.copier (.tcp, ⟨0, 0⟩) (.read rfl rfl (by decide))) <|
      .cons (.copier (.tcp, ⟨0, 0⟩) (.send rfl (by simpa using hroom))) <|
      .cons (.copier (.tcp, ⟨0, 0⟩) (.receive rfl)) <| .nil _⟩
  exact ⟨s, _, hreach, rfl, rfl, (output_kept hreach).2.2.2.2.1⟩

end

end HarmonyNetBridge.Relay
