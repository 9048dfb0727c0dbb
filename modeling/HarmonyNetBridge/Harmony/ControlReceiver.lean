import HarmonyNetBridge.Harmony.AppWhitelist

/-! The Mac's direction of the control connection: `VpnControlSession` reads the frames of a chunk one
after another and settles the promises that `connect` and `waitForStop` have handed out. -/
namespace HarmonyNetBridge.Harmony

/-- A frame with the next sequence, or `invalid` with the error that its decoding throws. A payload
`null` of a `STOP_REQUEST` has no reason. -/
inductive ControlFrame where
  | helloAck
  | stopRequest (reason : Option JsValue)
  | ping
  | error (code : JsString)
  | unexpected (type : ℕ)
  | invalid (message : JsString)
  deriving DecidableEq, Repr

inductive FrameAwait where
  | socketFd
  | stopAck (reason : Option JsValue)
  | pong
  deriving DecidableEq, Repr

/-- A session whose `connect` has been called. Its client is defined until `close` sets `closing`;
`handshakeResolve` says that the handshake has its resolvers, `frames` is what is left of the chunk.
`lost` and `stopped` record that `fail` had an effect and that `STOPPED` was reported before `close`. -/
structure ControlSession where
  closing : Bool := false
  handshakeComplete : Bool := false
  handshakeResolve : Bool := true
  handshake : Option Bool := none
  stop : Option JsValue := none
  awaiting : Option FrameAwait := none
  frames : List ControlFrame := []
  lost : Bool := false
  stopped : Bool := false
  deriving DecidableEq, Repr

namespace ControlSession

def resolveStop (reason : JsValue) (c : ControlSession) : ControlSession :=
  { c with stop := c.stop.or (some reason) }

def fail (message : JsString) (c : ControlSession) : ControlSession :=
  if c.closing then c
  else
    let rejected :=
      if c.handshakeComplete then c
      else
        { c with
          handshakeResolve := false
          handshake := if c.handshakeResolve then some false else c.handshake }
    { rejected.resolveStop (.string (jsString "transport_lost:" ++ message)) with lost := true }

def close (c : ControlSession) : ControlSession :=
  { c.resolveStop (.string (jsString "local_stop")) with closing := true }

/-- The call `reportStatus('STOPPED', …)`. -/
def reportStopped (c : ControlSession) : ControlSession :=
  { c with stopped := c.stopped || !c.closing }

/-- Whether `reportStatus` sends a frame and does not return at once. -/
def sends (c : ControlSession) : Bool := !c.closing && c.handshakeComplete

def abort (message : JsString) (c : ControlSession) : ControlSession :=
  { c.fail message with awaiting := none, frames := [] }

/-- The loop of `onMessage` until `handleFrame` waits. -/
def handleFrames : List ControlFrame → ControlSession → ControlSession
  | [], c => { c with awaiting := none, frames := [] }
  | .invalid message :: _, c => c.abort message
  | .helloAck :: rest, c =>
    if c.handshakeComplete then
      handleFrames rest (c.fail (jsString "Unexpected VPN control frame 2"))
    else if c.handshakeResolve then
      { c with
        handshakeComplete := true
        handshakeResolve := false
        awaiting := some .socketFd
        frames := rest }
    else handleFrames rest { c with handshakeComplete := true }
  | .stopRequest reason :: rest, c =>
    if c.handshakeComplete then { c with awaiting := some (.stopAck reason), frames := rest }
    else c.abort (jsString "VPN control received an invalid HELLO_ACK")
  | .ping :: rest, c =>
    if c.handshakeComplete then { c with awaiting := some .pong, frames := rest }
    else c.abort (jsString "VPN control received an invalid HELLO_ACK")
  | .error code :: rest, c =>
    if c.handshakeComplete then handleFrames rest (c.fail (jsString "Mac protocol error " ++ code))
    else c.abort (jsString "VPN control received an invalid HELLO_ACK")
  | .unexpected type :: rest, c =>
    if c.handshakeComplete then
      handleFrames rest
        (c.fail (jsString "Unexpected VPN control frame " ++ jsString (toString type)))
    else c.abort (jsString "VPN control received an invalid HELLO_ACK")

end ControlSession

/-- What the socket and the timers of a session do. The label is the reason of a `STOP_REQUEST` whose
`STOP_ACK` has been sent. -/
inductive ControlStep (c : ControlSession) : Option JsValue → ControlSession → Prop
  | chunk (frames : List ControlFrame) (opened : c.closing = false) (idle : c.awaiting = none) :
      ControlStep c none (c.handleFrames frames)
  | socketFd (waiting : c.awaiting = some .socketFd) :
      ControlStep c none
        (ControlSession.handleFrames c.frames { c with handshake := c.handshake.or (some true) })
  | acked {reason : JsValue} (waiting : c.awaiting = some (.stopAck (some reason))) :
      ControlStep c (some reason) ((c.resolveStop reason).handleFrames c.frames)
  | ponged (waiting : c.awaiting = some .pong) : ControlStep c none (c.handleFrames c.frames)
  /-- `getSocketFd` or `send` fails, or a stop without a reason was acknowledged: `request.reason`
  throws. -/
  | callFails (message : JsString) (waiting : c.awaiting.isSome) :
      ControlStep c none (c.abort message)
  /-- The socket reports an error or its end, or a timer of the session fires. -/
  | socketFails (message : JsString) (opened : c.closing = false) :
      ControlStep c none (c.fail message)

namespace ControlSession

/-- A resolver that is still there belongs to a handshake that nothing has settled, and the first call
that a frame waits for has taken it. -/
structure Ok (c : ControlSession) : Prop where
  resolve : c.handshakeResolve = true → c.handshakeComplete = false ∧ c.handshake = none
  socketFd : c.awaiting = some .socketFd → c.handshakeResolve = false
  stopAck : ∀ reason, c.awaiting = some (.stopAck reason) → c.handshakeComplete = true

/-- The handshake has lost its resolvers and nothing is left that could settle it. -/
def Hung (c : ControlSession) : Prop :=
  c.handshake = none ∧ c.handshakeResolve = false ∧ c.awaiting ≠ some .socketFd

instance (c : ControlSession) : Decidable c.Hung := inferInstanceAs (Decidable (_ ∧ _ ∧ _))

structure Grows (c d : ControlSession) : Prop where
  closing : d.closing = c.closing
  stopped : d.stopped = c.stopped
  ok : c.Ok → d.Ok
  hung : c.Hung → d.Hung
  handshakeComplete : c.handshakeComplete = true → d.handshakeComplete = true
  handshake : c.Ok → ∀ settled, c.handshake = some settled → d.handshake = some settled
  stop : ∀ reason, c.stop = some reason → d.stop = some reason

theorem Grows.trans {c d e : ControlSession} (h : Grows c d) (k : Grows d e) : Grows c e where
  closing := k.closing.trans h.closing
  stopped := k.stopped.trans h.stopped
  ok hc := k.ok (h.ok hc)
  hung hc := k.hung (h.hung hc)
  handshakeComplete hc := k.handshakeComplete (h.handshakeComplete hc)
  handshake hc settled hs := k.handshake (h.ok hc) settled (h.handshake hc settled hs)
  stop reason hr := k.stop reason (h.stop reason hr)

theorem grows_awaiting (c : ControlSession) (awaiting : Option FrameAwait)
    (frames : List ControlFrame) (hsocket : awaiting ≠ some .socketFd)
    (hack : ∀ reason, awaiting = some (.stopAck reason) → c.handshakeComplete = true) :
    Grows c { c with awaiting, frames } where
  closing := rfl
  stopped := rfl
  ok h := ⟨h.resolve, fun hw => absurd hw hsocket, hack⟩
  hung h := ⟨h.1, h.2.1, hsocket⟩
  handshakeComplete := id
  handshake _ _ := id
  stop _ := id

theorem fail_grows (message : JsString) (c : ControlSession) : Grows c (c.fail message) := by
  unfold fail resolveStop
  split_ifs with hclosing hdone hres
  · exact ⟨rfl, rfl, id, id, id, fun _ _ => id, fun _ => id⟩
  · exact ⟨rfl, rfl, fun h => ⟨h.resolve, h.socketFd, h.stopAck⟩, id, id, fun _ _ => id,
      by simp +contextual⟩
  · -- a handshake with its resolvers is not settled and not hung
    exact ⟨rfl, rfl, fun h => ⟨by simp, fun _ => rfl, h.stopAck⟩,
      fun h => absurd hres (by simp [h.2.1]), id,
      fun h settled hs => absurd hs (by simp [(h.resolve hres).2]), by simp +contextual⟩
  · exact ⟨rfl, rfl, fun h => ⟨by simp, fun _ => rfl, h.stopAck⟩, fun h => ⟨h.1, rfl, h.2.2⟩, id,
      fun _ _ => id, by simp +contextual⟩

theorem abort_grows (message : JsString) (c : ControlSession) : Grows c (c.abort message) :=
  (fail_grows message c).trans (grows_awaiting _ none [] (by simp) (by simp))

theorem handleFrames_grows (frames : List ControlFrame) (c : ControlSession) :
    Grows c (c.handleFrames frames) := by
  fun_induction handleFrames frames c with
  | case1 c => exact grows_awaiting c none [] (by simp) (by simp)
  | case2 c message => exact abort_grows _ _
  | case3 rest c hdone ih => exact (fail_grows _ c).trans ih
  | case4 rest c hdone hres =>
    -- the only case that takes the resolvers: the handshake is neither settled nor hung
    exact ⟨rfl, rfl, fun _ => ⟨by simp, fun _ => rfl, by simp⟩,
      fun h => absurd h.2.1 (by simp [hres]), fun _ => rfl, fun _ _ => id, fun _ => id⟩
  | case5 rest c hdone hres ih =>
    refine Grows.trans ?_ ih
    have hfalse : c.handshakeResolve = false := by simpa using hres
    exact ⟨rfl, rfl, fun h => ⟨by simp [hfalse], h.socketFd, fun _ _ => rfl⟩, id, fun _ => rfl,
      fun _ _ => id, fun _ => id⟩
  | case6 reason rest c hdone =>
    exact grows_awaiting c _ rest (by simp) (fun _ _ => hdone)
  | case7 => exact abort_grows _ _
  | case8 rest c hdone => exact grows_awaiting c _ rest (by simp) (by simp)
  | case9 => exact abort_grows _ _
  | case10 code rest c hdone ih => exact (fail_grows _ c).trans ih
  | case11 => exact abort_grows _ _
  | case12 type rest c hdone ih => exact (fail_grows _ c).trans ih
  | case13 => exact abort_grows _ _

theorem resolveStop_grows (reason : JsValue) (c : ControlSession) :
    Grows c (c.resolveStop reason) :=
  ⟨rfl, rfl, fun h => ⟨h.resolve, h.socketFd, h.stopAck⟩, id, id, fun _ _ => id,
    by simp +contextual [resolveStop]⟩

end ControlSession

open ControlSession

variable {c d : ControlSession} {reason : JsValue}

theorem ControlStep.grows {l : Option JsValue} (h : ControlStep c l d) : Grows c d := by
  cases h with
  | chunk frames _ _ => exact handleFrames_grows frames c
  | socketFd hwaiting =>
    refine Grows.trans ?_ (handleFrames_grows _ _)
    exact ⟨rfl, rfl,
      fun h => ⟨fun hr => absurd hr (by simp [h.socketFd hwaiting]), h.socketFd, h.stopAck⟩,
      fun h => absurd hwaiting h.2.2, id, by simp +contextual, fun _ => id⟩
  | acked _ => exact (resolveStop_grows _ c).trans (handleFrames_grows _ _)
  | ponged _ => exact handleFrames_grows _ c
  | callFails message _ => exact abort_grows message c
  | socketFails message _ => exact fail_grows message c

/-- An acknowledged stop is the reason of the session unless it had one. -/
theorem ControlStep.acked_stop (h : ControlStep c (some reason) d) (hnone : c.stop = none) :
    d.stop = some reason := by
  cases h with
  | acked _ =>
    apply (handleFrames_grows _ _).stop
    simp [resolveStop, hnone]

/-- An acknowledgement is sent after the handshake, which it leaves as it is. -/
theorem ControlStep.acked_hung (h : ControlStep c (some reason) d) (hok : c.Ok) :
    d.Hung ↔ c.Hung := by
  constructor
  · intro hd
    have hnone : c.handshake = none := by
      cases hc : c.handshake with
      | none => rfl
      | some settled => exact absurd (h.grows.handshake hok settled hc) (by simp [hd.1])
    cases h with
    | acked hwaiting =>
      have hdone := hok.stopAck _ hwaiting
      have hres : c.handshakeResolve = false := by
        by_contra hne
        have hfalse := (hok.resolve (by simpa using hne)).1
        simp [hdone] at hfalse
      exact ⟨hnone, hres, by simp [hwaiting]⟩
  · exact h.grows.hung

end HarmonyNetBridge.Harmony
