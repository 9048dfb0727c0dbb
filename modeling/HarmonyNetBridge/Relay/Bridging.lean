import HarmonyNetBridge.Relay.Bridge
import HarmonyNetBridge.Transition.Settling

/-! The goroutines of `bridgeTCPWithDrainTimeout` and `bridgeDatagrams`: the two copies, the closer
that waits for the context, and the function itself. -/
namespace HarmonyNetBridge.Relay
open Transition

inductive Transport where
  | tcp
  | udp
  deriving DecidableEq, Repr

/-- A copy goroutine: it waits for its source or for its destination, has left the loop, or has sent
its message. It is `establishing` inside of the first `Write` that a `hostnameSniffingConn` does not
keep back, which `Close` of that connection does not interrupt. -/
inductive CopyStage where
  | reading
  | writing
  | establishing
  | ended
  | reported
  deriving DecidableEq, Repr

/-- The goroutine that selects on the context and on `stopCloser`. -/
inductive CloserStage where
  | armed
  | closesDevice
  | closesHost
  | gone
  deriving DecidableEq, Repr

/-- The function. The deferred calls close the host first. -/
inductive BridgingStage where
  | waiting
  | draining
  | closesDevice
  | closesHost
  | lastWait
  | stopping
  | defersHost
  | defersDevice
  | returned
  deriving DecidableEq, Repr

/-- `messages` is the number of messages in the channel `completed` or `result`; `sniffing` says that
the host is a `hostnameSniffingConn` without a connection to the proxy. -/
structure Bridging where
  transport : Transport
  sniffing : Bool := false
  toHost : CopyStage := .reading
  toDevice : CopyStage := .reading
  messages : ℕ := 0
  main : BridgingStage := .waiting
  closer : CloserStage := .armed
  stopCloser : Bool := false
  deviceOpen : Bool := true
  hostOpen : Bool := true
  deriving DecidableEq, Repr

namespace Bridging

def copy (b : Bridging) : Direction → CopyStage
  | .toHost => b.toHost
  | .toDevice => b.toDevice

def setCopy (b : Bridging) : Direction → CopyStage → Bridging
  | .toHost, c => { b with toHost := c }
  | .toDevice, c => { b with toDevice := c }

def sourceOpen (b : Bridging) : Direction → Bool
  | .toHost => b.deviceOpen
  | .toDevice => b.hostOpen

def destinationOpen (b : Bridging) : Direction → Bool
  | .toHost => b.hostOpen
  | .toDevice => b.deviceOpen

/-- What the function does when the first copy has ended: TCP waits for the other one. -/
def afterFirst : Transport → BridgingStage
  | .tcp => .draining
  | .udp => .closesDevice

end Bridging

/-- Who takes a step: the two peers and the drain timer, the proxy with its answer to CONNECT or the
deadline for it, or the code itself. -/
inductive BridgingEvent where
  | peer
  | timer
  | proxy
  | code
  deriving DecidableEq, Repr

inductive BridgingStep (cancelled : Bool) (b : Bridging) : BridgingEvent → Bridging → Prop
  | read {d : Direction} (stage : b.copy d = .reading) (isOpen : b.sourceOpen d = true) :
      BridgingStep cancelled b .peer (b.setCopy d .writing)
  | write {d : Direction} (stage : b.copy d = .writing) (isOpen : b.destinationOpen d = true) :
      BridgingStep cancelled b .peer (b.setCopy d .reading)
  /-- The source has come to its end or the read has failed. -/
  | readEnds {d : Direction} (stage : b.copy d = .reading) :
      BridgingStep cancelled b .peer (b.setCopy d .ended)
  | writeFails {d : Direction} (stage : b.copy d = .writing) :
      BridgingStep cancelled b .peer (b.setCopy d .ended)
  | enter (stage : b.toHost = .writing) (sniffs : b.sniffing = true) (isOpen : b.hostOpen = true) :
      BridgingStep cancelled b .code { b with toHost := .establishing, sniffing := false }
  | established (stage : b.toHost = .establishing) (isOpen : b.hostOpen = true) :
      BridgingStep cancelled b .proxy { b with toHost := .writing }
  /-- `establish` fails, or it finds that the connection was closed. -/
  | establishFails (stage : b.toHost = .establishing) :
      BridgingStep cancelled b .proxy { b with toHost := .ended }
  | readClosed {d : Direction} (stage : b.copy d = .reading) (closed : b.sourceOpen d = false) :
      BridgingStep cancelled b .code (b.setCopy d .ended)
  | writeClosed {d : Direction} (stage : b.copy d = .writing)
      (closed : b.destinationOpen d = false) :
      BridgingStep cancelled b .code (b.setCopy d .ended)
  | report {d : Direction} (stage : b.copy d = .ended) :
      BridgingStep cancelled b .code { b.setCopy d .reported with messages := b.messages + 1 }
  | closerFires (stage : b.closer = .armed) (done : cancelled = true) :
      BridgingStep cancelled b .code { b with closer := .closesDevice }
  | closerStops (stage : b.closer = .armed) (stop : b.stopCloser = true) :
      BridgingStep cancelled b .code { b with closer := .gone }
  | closerDevice (stage : b.closer = .closesDevice) :
      BridgingStep cancelled b .code { b with deviceOpen := false, closer := .closesHost }
  | closerHost (stage : b.closer = .closesHost) :
      BridgingStep cancelled b .code { b with hostOpen := false, closer := .gone }
  | first {n : ℕ} (stage : b.main = .waiting) (message : b.messages = n + 1) :
      BridgingStep cancelled b .code
        { b with messages := n, main := Bridging.afterFirst b.transport }
  | second {n : ℕ} (stage : b.main = .draining) (message : b.messages = n + 1) :
      BridgingStep cancelled b .code { b with messages := n, main := .stopping }
  | fire (stage : b.main = .draining) :
      BridgingStep cancelled b .timer { b with main := .closesDevice }
  | device (stage : b.main = .closesDevice) :
      BridgingStep cancelled b .code { b with deviceOpen := false, main := .closesHost }
  | host (stage : b.main = .closesHost) :
      BridgingStep cancelled b .code { b with hostOpen := false, main := .lastWait }
  | last {n : ℕ} (stage : b.main = .lastWait) (message : b.messages = n + 1) :
      BridgingStep cancelled b .code { b with messages := n, main := .stopping }
  | stop (stage : b.main = .stopping) :
      BridgingStep cancelled b .code { b with stopCloser := true, main := .defersHost }
  | deferHost (stage : b.main = .defersHost) :
      BridgingStep cancelled b .code { b with hostOpen := false, main := .defersDevice }
  | deferDevice (stage : b.main = .defersDevice) :
      BridgingStep cancelled b .code { b with deviceOpen := false, main := .returned }

/-- A step under a context that may be cancelled at any time. -/
inductive ContextStep : Bridging × Bool → Option BridgingEvent → Bridging × Bool → Prop
  | cancel {b : Bridging} {cancelled : Bool} : ContextStep (b, cancelled) none (b, true)
  | step {b c : Bridging} {cancelled : Bool} {e : BridgingEvent} (h : BridgingStep cancelled b e c) :
      ContextStep (b, cancelled) (some e) (c, cancelled)

namespace Bridging

/-- The messages that the function has taken from the channel. -/
def taken : BridgingStage → ℕ
  | .waiting => 0
  | .draining | .closesDevice | .closesHost | .lastWait => 1
  | .stopping | .defersHost | .defersDevice | .returned => 2

def sent : CopyStage → ℕ
  | .reported => 1
  | _ => 0

/-- Whether the function has closed `stopCloser`. -/
def stopped : BridgingStage → Bool
  | .defersHost | .defersDevice | .returned => true
  | _ => false

/-- Whether the function has closed nothing yet. -/
def opened : BridgingStage → Bool
  | .waiting | .draining | .closesDevice => true
  | _ => false

@[simp] theorem taken_afterFirst (transport : Transport) : taken (afterFirst transport) = 1 := by
  cases transport <;> rfl

@[simp] theorem stopped_afterFirst (transport : Transport) :
    stopped (afterFirst transport) = stopped .waiting := by
  cases transport <;> rfl

structure Sound (b : Bridging) : Prop where
  messages : b.messages + taken b.main = sent b.toHost + sent b.toDevice
  stop : b.stopCloser = stopped b.main
  closing : b.main = .closesHost → b.deviceOpen = false
  closed : b.main = .lastWait ∨ b.main = .returned → b.deviceOpen = false ∧ b.hostOpen = false
  deferring : b.main = .defersDevice → b.hostOpen = false
  closerHost : b.closer = .closesHost → b.deviceOpen = false
  closerGone : b.closer = .gone →
    b.stopCloser = true ∨ b.deviceOpen = false ∧ b.hostOpen = false
  opened : b.closer = .armed → opened b.main = true → b.deviceOpen = true ∧ b.hostOpen = true
  udp : b.transport = .udp → b.main ≠ .draining
  establishing : b.toDevice ≠ .establishing

def Over (b : Bridging) : Prop := b.main = .returned ∧ b.closer = .gone

/-- The steps that are left to the code and the proxy. -/
def copyWork : CopyStage → ℕ
  | .establishing => 3
  | .reading | .writing => 2
  | .ended => 1
  | .reported => 0

def closerWork : CloserStage → ℕ
  | .armed => 3
  | .closesDevice => 2
  | .closesHost => 1
  | .gone => 0

def mainWork : BridgingStage → ℕ
  | .waiting => 8
  | .draining => 7
  | .closesDevice => 6
  | .closesHost => 5
  | .lastWait => 4
  | .stopping => 3
  | .defersHost => 2
  | .defersDevice => 1
  | .returned => 0

def work (b : Bridging) : ℕ :=
  copyWork b.toHost + copyWork b.toDevice + closerWork b.closer + mainWork b.main +
    2 * b.sniffing.toNat

section
variable {b c : Bridging} {cancelled : Bool} {e : BridgingEvent}

theorem Sound.fresh (transport : Transport) (sniffing : Bool) : Sound { transport, sniffing } := by
  constructor <;> simp [taken, sent, stopped]

theorem Sound.setCopy (h : b.Sound) {d : Direction} {stage : CopyStage}
    (hbefore : sent (b.copy d) = 0) (hafter : sent stage = 0)
    (hstage : d = .toDevice → stage ≠ .establishing) : (b.setCopy d stage).Sound := by
  have hm := h.messages
  cases d with
  | toHost =>
    have hbefore : sent b.toHost = 0 := hbefore
    exact { h with messages := by simp only [Bridging.setCopy]; omega }
  | toDevice =>
    have hbefore : sent b.toDevice = 0 := hbefore
    exact { h with
      messages := by simp only [Bridging.setCopy]; omega
      establishing := hstage rfl }

theorem Sound.main (h : b.Sound) (stage : BridgingStage) {n : ℕ} {device host stop : Bool}
    (hmessages : n + taken stage = b.messages + taken b.main)
    (hdevice : device = b.deviceOpen ∨ device = false) (hhost : host = b.hostOpen ∨ host = false)
    (hstop : stop = stopped stage) (hstays : b.stopCloser = true → stop = true)
    (hclosing : stage = .closesHost → device = false)
    (hclosed : stage = .lastWait ∨ stage = .returned → device = false ∧ host = false)
    (hdeferring : stage = .defersDevice → host = false) (hopened : Bridging.opened stage = true →
      Bridging.opened b.main = true ∧ device = b.deviceOpen ∧ host = b.hostOpen)
    (hudp : b.transport = .udp → stage ≠ .draining) :
    Sound { b with
      messages := n, main := stage, deviceOpen := device, hostOpen := host, stopCloser := stop } where
  messages := hmessages.trans h.messages
  stop := hstop
  closing := hclosing
  closed := hclosed
  deferring := hdeferring
  closerHost hc := hdevice.elim (·.trans (h.closerHost hc)) id
  closerGone hc := by
    refine (h.closerGone hc).imp hstays fun hboth => ⟨?_, ?_⟩
    · exact hdevice.elim (·.trans hboth.1) id
    · exact hhost.elim (·.trans hboth.2) id
  opened hc hs := by
    obtain ⟨hmain, rfl, rfl⟩ := hopened hs
    exact h.opened hc hmain
  udp := hudp
  establishing := h.establishing

theorem Sound.step (h : b.Sound) (hstep : BridgingStep cancelled b e c) : c.Sound := by
  have hm := h.messages
  have hstop := h.stop
  cases hstep with
  | read stage | write stage | readEnds stage | writeFails stage | readClosed stage
  | writeClosed stage => exact h.setCopy (by simp [stage, sent]) rfl fun _ => nofun
  | enter stage | established stage | establishFails stage =>
    rw [stage] at hm
    exact { h with messages := hm }
  | @report d stage =>
    cases d with
    | toHost =>
      have hsent : sent b.toHost = 0 := by rw [show b.toHost = .ended from stage]; rfl
      refine { h with messages := ?_ }
      show b.messages + 1 + taken b.main = 1 + sent b.toDevice
      omega
    | toDevice =>
      have hsent : sent b.toDevice = 0 := by rw [show b.toDevice = .ended from stage]; rfl
      refine { h with messages := ?_, establishing := nofun }
      show b.messages + 1 + taken b.main = sent b.toHost + 1
      omega
  | closerFires => exact { h with closerHost := nofun, closerGone := nofun, opened := nofun }
  | closerStops _ stop =>
    exact { h with closerHost := nofun, closerGone := fun _ => .inl stop, opened := nofun }
  | closerDevice =>
    exact { h with
      closing := fun _ => rfl
      closed := fun hmain => ⟨rfl, (h.closed hmain).2⟩
      closerHost := fun _ => rfl
      closerGone := nofun
      opened := nofun }
  | closerHost stage =>
    exact { h with
      closed := fun hmain => ⟨(h.closed hmain).1, rfl⟩
      deferring := fun _ => rfl
      closerHost := nofun
      closerGone := fun _ => .inr ⟨h.closerHost stage, rfl⟩
      opened := nofun }
  | first stage message =>
    rw [stage] at hstop
    exact h.main (afterFirst b.transport) (by simp [stage, message, show taken .waiting = 0 from rfl])
      (.inl rfl) (.inl rfl) (by simpa using hstop) id (by cases b.transport <;> nofun)
      (by cases b.transport <;> simp [afterFirst]) (by cases b.transport <;> nofun)
      (fun _ => ⟨by rw [stage]; rfl, rfl, rfl⟩) (by intro hudp; simp [hudp, afterFirst])
  | second stage message | last stage message =>
    rw [stage] at hstop
    exact h.main _ (by simp [stage, message, taken]) (.inl rfl) (.inl rfl) hstop id nofun (by simp)
      nofun nofun nofun
  | fire stage =>
    rw [stage] at hstop
    exact h.main _ (by simp [stage, taken]) (.inl rfl) (.inl rfl) hstop id nofun (by simp) nofun
      (fun _ => ⟨by rw [stage]; rfl, rfl, rfl⟩) nofun
  | device stage =>
    rw [stage] at hstop
    exact h.main _ (by simp [stage, taken]) (.inr rfl) (.inl rfl) hstop id (fun _ => rfl) (by simp)
      nofun nofun nofun
  | host stage =>
    rw [stage] at hstop
    exact h.main _ (by simp [stage, taken]) (.inl rfl) (.inr rfl) hstop id nofun
      (fun _ => ⟨h.closing stage, rfl⟩) nofun nofun nofun
  | stop stage =>
    exact h.main _ (by simp [stage, taken]) (.inl rfl) (.inl rfl) rfl (fun _ => rfl) nofun (by simp)
      nofun nofun nofun
  | deferHost stage =>
    rw [stage] at hstop
    exact h.main _ (by simp [stage, taken]) (.inl rfl) (.inr rfl) hstop id nofun (by simp)
      (fun _ => rfl) nofun nofun
  | deferDevice stage =>
    rw [stage] at hstop
    exact h.main _ (by simp [stage, taken]) (.inr rfl) (.inl rfl) hstop id nofun
      (fun _ => ⟨rfl, h.deferring stage⟩) nofun nofun nofun

theorem main_returned (h : BridgingStep cancelled b e c) (hmain : b.main = .returned) :
    c.main = .returned := by
  cases h with
  | @read d | @write d | @readEnds d | @writeFails d | @readClosed d | @writeClosed d | @report d =>
    cases d <;> exact hmain
  | enter | established | establishFails | closerFires | closerStops | closerDevice | closerHost =>
    exact hmain
  | first stage | second stage | fire stage | device stage | host stage | last stage | stop stage
  | deferHost stage | deferDevice stage => simp [hmain] at stage

theorem work_lt (h : BridgingStep cancelled b e c) (he : e = .code ∨ e = .proxy) :
    c.work < b.work := by
  cases h with
  | read | write | readEnds | writeFails | fire => simp at he
  | enter stage sniffs => simp [work, copyWork, stage, sniffs]; omega
  | established stage | establishFails stage => simp [work, copyWork, stage]
  | @readClosed d stage | @writeClosed d stage | @report d stage =>
    cases d <;> simp only [copy] at stage <;> simp [work, setCopy, copyWork, stage]
  | closerFires stage | closerStops stage | closerDevice stage | closerHost stage =>
    simp [work, closerWork, stage]
  | first stage =>
    cases b.transport <;> simp [work, mainWork, afterFirst, stage]
  | second stage | device stage | host stage | last stage | stop stage | deferHost stage
  | deferDevice stage => simp [work, mainWork, stage]

def Idle (cancelled : Bool) (b : Bridging) : Prop := ∀ c, ¬ BridgingStep cancelled b .code c

theorem Idle.closer (h : b.Idle cancelled) :
    b.closer = .gone ∨ b.closer = .armed ∧ cancelled = false ∧ b.stopCloser = false := by
  cases hc : b.closer with
  | armed =>
    refine .inr ⟨rfl, ?_, ?_⟩
    · exact Bool.eq_false_iff.mpr fun hdone => h _ (.closerFires hc hdone)
    · exact Bool.eq_false_iff.mpr fun hstop => h _ (.closerStops hc hstop)
  | closesDevice => exact absurd (.closerDevice hc) (h _)
  | closesHost => exact absurd (.closerHost hc) (h _)
  | gone => exact .inl rfl

theorem Idle.copy (h : b.Idle cancelled) {d : Direction} (hstage : b.copy d ≠ .establishing) :
    b.copy d = .reported ∨ b.copy d = .reading ∧ b.sourceOpen d = true ∨
      b.copy d = .writing ∧ b.destinationOpen d = true := by
  cases hc : b.copy d with
  | reading =>
    refine .inr (.inl ⟨rfl, ?_⟩)
    exact (Bool.not_eq_false _).mp fun hclosed => h _ (.readClosed hc hclosed)
  | writing =>
    refine .inr (.inr ⟨rfl, ?_⟩)
    exact (Bool.not_eq_false _).mp fun hclosed => h _ (.writeClosed hc hclosed)
  | establishing => exact absurd hc hstage
  | ended => exact absurd (.report hc) (h _)
  | reported => exact .inl rfl

theorem Idle.main (h : b.Idle cancelled) : b.main = .returned ∨
    (b.main = .waiting ∨ b.main = .draining ∨ b.main = .lastWait) ∧ b.messages = 0 := by
  have hmessages (hnext : ∀ n, b.messages = n + 1 → False) : b.messages = 0 := by
    cases hm : b.messages with
    | zero => rfl
    | succ n => exact absurd hm (hnext n)
  cases hmain : b.main with
  | waiting => exact .inr ⟨by simp, hmessages fun n hn => h _ (.first hmain hn)⟩
  | draining => exact .inr ⟨by simp, hmessages fun n hn => h _ (.second hmain hn)⟩
  | lastWait => exact .inr ⟨by simp, hmessages fun n hn => h _ (.last hmain hn)⟩
  | closesDevice => exact absurd (.device hmain) (h _)
  | closesHost => exact absurd (.host hmain) (h _)
  | stopping => exact absurd (.stop hmain) (h _)
  | defersHost => exact absurd (.deferHost hmain) (h _)
  | defersDevice => exact absurd (.deferDevice hmain) (h _)
  | returned => exact .inl rfl

theorem Idle.reported (h : b.Idle cancelled) (hdevice : b.deviceOpen = false)
    (hhost : b.hostOpen = false) {d : Direction} (hstage : b.copy d ≠ .establishing) :
    b.copy d = .reported := by
  rcases h.copy hstage with hc | ⟨-, hopen⟩ | ⟨-, hopen⟩
  · exact hc
  all_goals cases d <;> simp [sourceOpen, destinationOpen, hdevice, hhost] at hopen

/-- The flow waits for a peer: neither copy has ended, or a TCP flow drains the second one. -/
def WaitsForPeer (b : Bridging) : Prop :=
  b.closer = .armed ∧ b.deviceOpen = true ∧ b.hostOpen = true ∧
    ((b.main = .waiting ∧ ∀ d, b.copy d = .reading ∨ b.copy d = .writing) ∨
      b.transport = .tcp ∧ b.main = .draining ∧
        ∃ d, b.copy d = .reported ∧ ∀ d' ≠ d, b.copy d' = .reading ∨ b.copy d' = .writing)

theorem Sound.returned (h : b.Sound) (hmain : b.main = .returned) :
    b.deviceOpen = false ∧ b.hostOpen = false ∧ b.messages = 0 ∧ ∀ d, b.copy d = .reported := by
  have hm := h.messages
  rw [hmain] at hm
  obtain ⟨hdevice, hhost⟩ := h.closed (.inr hmain)
  have hle (c : CopyStage) : sent c ≤ 1 ∧ (sent c = 1 → c = .reported) := by
    cases c <;> simp [sent]
  have hboth : b.messages = 0 ∧ sent b.toHost = 1 ∧ sent b.toDevice = 1 := by
    have := (hle b.toHost).1
    have := (hle b.toDevice).1
    simp only [taken] at hm
    omega
  refine ⟨hdevice, hhost, hboth.1, fun d => ?_⟩
  cases d with
  | toHost => exact (hle _).2 hboth.2.1
  | toDevice => exact (hle _).2 hboth.2.2

theorem Sound.over_of_closed (h : b.Sound) (hidle : b.Idle cancelled)
    (hstage : b.toHost ≠ .establishing) (hdevice : b.deviceOpen = false)
    (hhost : b.hostOpen = false) (hgone : b.closer = .gone) : b.Over := by
  have hto : b.toHost = .reported := hidle.reported (d := .toHost) hdevice hhost hstage
  have hfrom : b.toDevice = .reported :=
    hidle.reported (d := .toDevice) hdevice hhost h.establishing
  have hm := h.messages
  rw [hto, hfrom] at hm
  refine ⟨?_, hgone⟩
  rcases hidle.main with hmain | ⟨hmain | hmain | hmain, hnone⟩
  · exact hmain
  all_goals simp [hmain, hnone, taken, sent] at hm

theorem Sound.over_of_gone (h : b.Sound) (hidle : b.Idle cancelled)
    (hstage : b.toHost ≠ .establishing) (hgone : b.closer = .gone) : b.Over := by
  rcases h.closerGone hgone with hstop | ⟨hdevice, hhost⟩
  · rw [h.stop] at hstop
    rcases hidle.main with hmain | ⟨hmain | hmain | hmain, -⟩
    · exact ⟨hmain, hgone⟩
    all_goals simp [hmain, stopped] at hstop
  · exact h.over_of_closed hidle hstage hdevice hhost hgone

/-- After the context was cancelled the code stops only for the proxy or when it is over. -/
theorem Sound.over_of_cancelled (h : b.Sound) (hidle : b.Idle true)
    (hstage : b.toHost ≠ .establishing) : b.Over := by
  rcases hidle.closer with hgone | ⟨-, hdone, -⟩
  · exact h.over_of_gone hidle hstage hgone
  · cases hdone

/-- An idle flow that is not over waits for a peer. -/
theorem Sound.waits (h : b.Sound) (hidle : b.Idle cancelled) (hstage : b.toHost ≠ .establishing)
    (hnot : ¬ b.Over) : cancelled = false ∧ b.WaitsForPeer := by
  rcases hidle.closer with hgone | ⟨harmed, hdone, hstop⟩
  · exact absurd (h.over_of_gone hidle hstage hgone) hnot
  have hbusy (d : Direction) : b.copy d ≠ .establishing := by
    cases d with
    | toHost => exact hstage
    | toDevice => exact h.establishing
  have hm := h.messages
  have hcopy (d : Direction) : b.copy d = .reported ∧ sent (b.copy d) = 1 ∨
      (b.copy d = .reading ∨ b.copy d = .writing) ∧ sent (b.copy d) = 0 := by
    rcases hidle.copy (hbusy d) with hc | ⟨hc, -⟩ | ⟨hc, -⟩ <;> simp [hc, sent]
  refine ⟨hdone, harmed, ?_⟩
  rcases hidle.main with hmain | ⟨hmain | hmain | hmain, hnone⟩
  · -- the function has stopped the closer before it returned
    rw [h.stop, hmain] at hstop
    cases hstop
  · obtain ⟨hdevice, hhost⟩ := h.opened harmed (by rw [hmain]; rfl)
    simp only [hmain, hnone, taken] at hm
    refine ⟨hdevice, hhost, .inl ⟨hmain, fun d => ?_⟩⟩
    rcases hcopy d with ⟨-, hsent⟩ | ⟨hbusy, -⟩
    · cases d <;> simp only [copy] at hsent <;> omega
    · exact hbusy
  · obtain ⟨hdevice, hhost⟩ := h.opened harmed (by rw [hmain]; rfl)
    have htcp : b.transport = .tcp := by
      cases ht : b.transport with
      | tcp => rfl
      | udp => exact absurd hmain (h.udp ht)
    simp only [hmain, hnone, taken] at hm
    refine ⟨hdevice, hhost, .inr ⟨htcp, hmain, ?_⟩⟩
    rcases hcopy .toHost with ⟨hto, hone⟩ | ⟨hto, hzero⟩ <;>
      rcases hcopy .toDevice with ⟨hfrom, hone'⟩ | ⟨hfrom, hzero'⟩ <;>
      simp only [copy] at *
    · omega
    · exact ⟨.toHost, hto, fun d hd => by cases d; exacts [absurd rfl hd, hfrom]⟩
    · exact ⟨.toDevice, hfrom, fun d hd => by cases d; exacts [hto, absurd rfl hd]⟩
    · omega
  · obtain ⟨hdevice, hhost⟩ := h.closed (.inl hmain)
    have hto : b.toHost = .reported := hidle.reported hdevice hhost (hbusy .toHost)
    have hfrom : b.toDevice = .reported := hidle.reported hdevice hhost (hbusy .toDevice)
    simp [hto, hfrom, hmain, hnone, taken, sent] at hm

end

def Fresh (p : Bridging × Bool) : Prop :=
  ∃ transport sniffing, p = ({ transport, sniffing }, false)

theorem sound_of_reachable {p : Bridging × Bool} (h : Reachable ContextStep Fresh p) : p.1.Sound :=
  h.invariant (I := fun p => p.1.Sound) (by rintro _ ⟨_, _, rfl⟩; exact .fresh _ _)
    fun _ _ _ hstep hs => by
      cases hstep with
      | cancel => exact hs
      | step hstep => exact hs.step hstep

end Bridging

open Bridging in
/-- A bridge that has returned has closed both connections and has no copy left. In whatever order
its goroutines run, they stop only for the proxy that a host name is sent to, for a peer that neither
sends nor closes, or at their end; and once the context is cancelled, they come to their end within
`work` steps of their own and of the proxy, whose answer has a deadline. -/
theorem bridge_released {b : Bridging} {cancelled : Bool}
    (h : Reachable ContextStep Fresh (b, cancelled)) : (b.main = .returned →
      b.deviceOpen = false ∧ b.hostOpen = false ∧ ∀ d, b.copy d = .reported) ∧
    (b.Idle cancelled → b.Over ∨ b.toHost = .establishing ∨ cancelled = false ∧ b.WaitsForPeer) ∧
    Settles (Guarded (BridgingStep true) fun _ e => e = .code ∨ e = .proxy) Over b.work b := by
  have hsound : b.Sound := sound_of_reachable h
  refine ⟨fun hmain => ?_, fun hidle => ?_, ?_⟩
  · obtain ⟨hdevice, hhost, -, hcopies⟩ := hsound.returned hmain
    exact ⟨hdevice, hhost, hcopies⟩
  · by_cases hover : b.Over
    · exact .inl hover
    by_cases hstage : b.toHost = .establishing
    · exact .inr (.inl hstage)
    · exact .inr (.inr (hsound.waits hidle hstage hover))
  · refine settles_of_decreasing (I := Sound) work (fun _ _ _ hstep hs => hs.step hstep.1) ?_ ?_ hsound
    · rintro _ _ _ ⟨hstep, he⟩ -
      exact work_lt hstep he
    · intro c hc hrest
      refine hc.over_of_cancelled (fun d hstep => hrest .code d ⟨hstep, .inl rfl⟩) fun hstage => ?_
      exact hrest .proxy _ ⟨.establishFails hstage, .inr rfl⟩

/-- A flow of a capture session is cancelled while the proxy has not answered CONNECT. -/
theorem bridge_released_connecting : ∃ b : Bridging,
    Reachable ContextStep Bridging.Fresh (b, true) ∧ b.toHost = .establishing ∧
    ∃ ls c, Run (Guarded (BridgingStep true) fun _ e => e = .code ∨ e = .proxy) b ls c ∧ c.Over := by
  have hreach : Reachable ContextStep Bridging.Fresh
      ({ transport := .tcp, toHost := .establishing }, true) :=
    ⟨_, [some .peer, some .code, none], ⟨.tcp, true, rfl⟩,
      .cons (.step (.read (d := .toHost) rfl rfl)) <| .cons (.step (.enter rfl rfl rfl)) <|
      .cons .cancel <| .nil _⟩
  obtain ⟨ls, c, hrun, -, hover⟩ := (bridge_released hreach).2.2.exists_done
  exact ⟨_, hreach, rfl, ls, c, hrun, hover⟩

end HarmonyNetBridge.Relay
