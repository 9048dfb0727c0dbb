import HarmonyNetBridge.Transition.Runs
import HarmonyNetBridge.Harmony.ControlReceiver

/-! The handshake of `VpnControlSession`: `connect` sends HELLO and waits for a promise that a frame,
the socket or a timer settles, while another task may close the session. -/
namespace HarmonyNetBridge.Harmony
open Transition

namespace ControlSession

/-- Whether the loop of `onMessage` calls `clearHandshakeTimer` before `handleFrame` waits. -/
def clearsTimer : List ControlFrame → ControlSession → Bool
  | [], _ => false
  | .invalid _ :: _, c => !c.closing
  | .helloAck :: rest, c =>
    if c.handshakeComplete then
      !c.closing || clearsTimer rest (c.fail (jsString "Unexpected VPN control frame 2"))
    else true
  | .stopRequest _ :: _, c => !c.handshakeComplete && !c.closing
  | .ping :: _, c => !c.handshakeComplete && !c.closing
  | .error code :: rest, c =>
    if c.handshakeComplete then
      !c.closing || clearsTimer rest (c.fail (jsString "Mac protocol error " ++ code))
    else !c.closing
  | .unexpected type :: rest, c =>
    if c.handshakeComplete then
      !c.closing || clearsTimer rest
        (c.fail (jsString "Unexpected VPN control frame " ++ jsString (toString type)))
    else !c.closing

end ControlSession

inductive ConnectStage where
  | connecting
  | configuring
  | sending
  | waiting
  | returned
  deriving DecidableEq, Repr

/-- A session with the call of `connect`. `timer` says that the handshake timer is armed, and
`fdFailed` that a call of `getSocketFd` has failed. `heard` says that a frame, an error of the socket
or the timer has reached the session, and `closedFirst` that `close` was called before that. -/
structure Handshake where
  session : ControlSession := {}
  stage : ConnectStage := .connecting
  helloSent : Bool := false
  timer : Bool := false
  fdFailed : Bool := false
  heard : Bool := false
  closedFirst : Bool := false
  deriving DecidableEq, Repr

namespace Handshake

def close (s : Handshake) : Handshake :=
  { s with
    session := s.session.close
    timer := false
    closedFirst := s.closedFirst || !s.heard }

def fail (message : JsString) (s : Handshake) : Handshake :=
  { s with session := s.session.fail message, timer := s.timer && s.session.closing }

def abort (message : JsString) (s : Handshake) : Handshake :=
  { s with session := s.session.abort message, timer := s.timer && s.session.closing }

def handleFrames (frames : List ControlFrame) (s : Handshake) : Handshake :=
  { s with
    session := s.session.handleFrames frames
    timer := s.timer && !s.session.clearsTimer frames }

def Fresh (s : Handshake) : Prop := s = {}

end Handshake

inductive HandshakeEvent where
  | connect
  | frames
  | socket
  | timer
  | close
  deriving DecidableEq, Repr

inductive HandshakeStep (s : Handshake) : HandshakeEvent → Handshake → Prop
  | connected (stage : s.stage = .connecting) :
      HandshakeStep s .connect { s with stage := .configuring }
  /-- `setExtraOptions` has returned; the timer is set and HELLO is sent. -/
  | configured (stage : s.stage = .configuring) :
      HandshakeStep s .connect { s with stage := .sending, timer := true }
  | helloSent (stage : s.stage = .sending) :
      HandshakeStep s .connect { s with stage := .waiting, helloSent := true }
  /-- One of the three calls fails, and the catch block closes the session. -/
  | setupFails (stage : s.stage = .connecting ∨ s.stage = .configuring ∨ s.stage = .sending) :
      HandshakeStep s .connect { s.close with stage := .returned }
  | resolved (stage : s.stage = .waiting) (settled : s.session.handshake = some true) :
      HandshakeStep s .connect { s with stage := .returned }
  | rejected (stage : s.stage = .waiting) (settled : s.session.handshake = some false) :
      HandshakeStep s .connect { s.close with stage := .returned }
  | chunk (frames : List ControlFrame) (opened : s.session.closing = false)
      (idle : s.session.awaiting = none) :
      HandshakeStep s .frames { s.handleFrames frames with heard := s.heard || !frames.isEmpty }
  | socketFd (waiting : s.session.awaiting = some .socketFd) :
      HandshakeStep s .frames
        (Handshake.handleFrames s.session.frames
          { s with session := { s.session with handshake := s.session.handshake.or (some true) } })
  | socketFdFails (message : JsString) (waiting : s.session.awaiting = some .socketFd) :
      HandshakeStep s .frames { s.abort message with fdFailed := true }
  | acked {reason : JsValue} (waiting : s.session.awaiting = some (.stopAck (some reason))) :
      HandshakeStep s .frames
        (Handshake.handleFrames s.session.frames { s with session := s.session.resolveStop reason })
  | ponged (waiting : s.session.awaiting = some .pong) :
      HandshakeStep s .frames (s.handleFrames s.session.frames)
  | sendFails (message : JsString) (waiting : s.session.awaiting.isSome)
      (send : s.session.awaiting ≠ some .socketFd) :
      HandshakeStep s .frames (s.abort message)
  | socketFails (message : JsString) (opened : s.session.closing = false) :
      HandshakeStep s .socket { s.fail message with heard := true }
  | timeout (armed : s.timer = true) :
      HandshakeStep s .timer
        { s.fail (jsString "VPN control HELLO_ACK timed out") with timer := false, heard := true }
  /-- Another task calls `close`. -/
  | close : HandshakeStep s .close s.close

/-- What the frames and the socket do to the session are the steps of a `ControlSession`. -/
theorem HandshakeStep.controlStep {s t : Handshake} {e : HandshakeEvent} (h : HandshakeStep s e t)
    (he : e = .frames ∨ e = .socket) : ∃ l, ControlStep s.session l t.session := by
  cases h with
  | chunk frames opened idle => exact ⟨_, .chunk frames opened idle⟩
  | socketFd waiting => exact ⟨_, .socketFd waiting⟩
  | socketFdFails message waiting => exact ⟨_, .callFails message (by rw [waiting]; rfl)⟩
  | acked waiting => exact ⟨_, .acked waiting⟩
  | ponged waiting => exact ⟨_, .ponged waiting⟩
  | sendFails message waiting send => exact ⟨_, .callFails message waiting⟩
  | socketFails message opened => exact ⟨_, .socketFails message opened⟩
  | _ => simp at he

namespace ControlSession

/-- No callback is left that could settle the promise, and nothing has settled it. -/
def Lost (c : ControlSession) : Prop := c.handshake = none ∧ c.handshakeResolve = false

section
variable {c : ControlSession} {message : JsString} {frames : List ControlFrame}

theorem fail_lost (h : (c.fail message).Lost) : c.Lost := by
  unfold fail at h
  split_ifs at h with hclosing hdone hres
  · exact h
  · exact h
  · cases h.1
  · exact ⟨h.1, by simpa using hres⟩

/-- A `fail` that leaves the callbacks in place has had no effect. -/
theorem fail_resolve (h : (c.fail message).handshakeResolve = true)
    (hdone : c.handshakeComplete = false) : c.handshakeResolve = true ∧ c.closing = true := by
  unfold fail at h
  split_ifs at h with hclosing htrue hres
  · exact ⟨h, hclosing⟩
  · rw [hdone] at htrue
    cases htrue
  · cases h
  · cases h

theorem fail_keeps_resolve (h : (c.fail message).handshakeResolve = true) :
    c.handshakeResolve = true := by
  unfold fail at h
  split_ifs at h with hclosing htrue hres
  · exact h
  · exact h
  · cases h
  · cases h

theorem handleFrames_lost (h : (c.handleFrames frames).Hung) : c.Lost := by
  fun_induction handleFrames frames c with
  | case1 c => exact ⟨h.1, h.2.1⟩
  | case2 c message rest => exact fail_lost ⟨h.1, h.2.1⟩
  | case3 rest c hdone ih => exact fail_lost (ih h)
  | case4 rest c hdone hres => exact absurd rfl h.2.2
  | case5 rest c hdone hres ih => exact ih h
  | case6 reason rest c hdone => exact ⟨h.1, h.2.1⟩
  | case7 => exact fail_lost ⟨h.1, h.2.1⟩
  | case8 rest c hdone => exact ⟨h.1, h.2.1⟩
  | case9 => exact fail_lost ⟨h.1, h.2.1⟩
  | case10 code rest c hdone ih => exact fail_lost (ih h)
  | case11 => exact fail_lost ⟨h.1, h.2.1⟩
  | case12 type rest c hdone ih => exact fail_lost (ih h)
  | case13 => exact fail_lost ⟨h.1, h.2.1⟩

theorem handleFrames_keeps_resolve (h : (c.handleFrames frames).handshakeResolve = true) :
    c.handshakeResolve = true := by
  fun_induction handleFrames frames c with
  | case1 c => exact h
  | case4 rest c hdone hres => cases h
  | case5 rest c hdone hres ih => exact ih h
  | case6 reason rest c hdone => exact h
  | case8 rest c hdone => exact h
  | case2 | case7 | case9 | case11 | case13 => exact fail_keeps_resolve h
  | case3 rest c hdone ih => exact fail_keeps_resolve (ih h)
  | case10 code rest c hdone ih => exact fail_keeps_resolve (ih h)
  | case12 type rest c hdone ih => exact fail_keeps_resolve (ih h)

/-- Frames that leave the callbacks in place leave the timer alone. -/
theorem clearsTimer_of_resolve (hok : c.Ok) (h : (c.handleFrames frames).handshakeResolve = true) :
    c.clearsTimer frames = false := by
  have hdone := (hok.resolve (handleFrames_keeps_resolve h)).1
  cases frames with
  | nil => rfl
  | cons frame rest =>
    cases frame with
    | helloAck =>
      have hres := handleFrames_keeps_resolve h
      simp [handleFrames, hdone, hres] at h
    | invalid message =>
      have hclosing := (fail_resolve h hdone).2
      simp [clearsTimer, hclosing]
    | stopRequest reason | ping | error code | unexpected type =>
      simp only [handleFrames, hdone, Bool.false_eq_true, ↓reduceIte] at h
      have hclosing := (fail_resolve h hdone).2
      simp [clearsTimer, hclosing, hdone]

/-- The first frame takes the callbacks, unless the session is being closed. -/
theorem handleFrames_takes_resolve (hok : c.Ok) (hopen : c.closing = false) (hframes : frames ≠ []) :
    (c.handleFrames frames).handshakeResolve = false := by
  by_contra hleft
  have hres : (c.handleFrames frames).handshakeResolve = true := by simpa using hleft
  have hdone := (hok.resolve (handleFrames_keeps_resolve hres)).1
  have hclears := clearsTimer_of_resolve hok hres
  cases frames with
  | nil => exact hframes rfl
  | cons frame rest => cases frame <;> simp [clearsTimer, hopen, hdone] at hclears

/-- The call of `getSocketFd` comes after the handshake is complete and before it is settled. -/
def FdPending (c : ControlSession) : Prop :=
  c.awaiting = some .socketFd → c.handshakeComplete = true ∧ c.handshake = none

theorem handleFrames_fdPending (hok : c.Ok) : (c.handleFrames frames).FdPending := by
  fun_induction handleFrames frames c with
  | case4 rest c hdone hres => exact fun _ => ⟨rfl, (hok.resolve hres).2⟩
  | case3 rest c hdone ih => exact ih ((fail_grows _ c).ok hok)
  | case10 code rest c hdone ih => exact ih ((fail_grows _ c).ok hok)
  | case12 type rest c hdone ih => exact ih ((fail_grows _ c).ok hok)
  | case5 rest c hdone hres ih =>
    apply ih
    have hfalse : c.handshakeResolve = false := by simpa using hres
    exact ⟨by simp [hfalse], hok.socketFd, fun _ _ => rfl⟩
  | case1 | case2 | case6 | case7 | case8 | case9 | case11 | case13 =>
    intro hpending
    cases hpending

@[simp] theorem fail_awaiting (c : ControlSession) (message : JsString) :
    (c.fail message).awaiting = c.awaiting := by
  unfold fail
  split_ifs <;> rfl

theorem fail_fdPending (h : c.FdPending) : (c.fail message).FdPending := by
  unfold fail
  split_ifs with hclosing hdone hres
  · exact h
  · exact h
  · exact fun hw => absurd (h hw).1 hdone
  · exact fun hw => absurd (h hw).1 hdone

theorem fail_hung_iff : (c.fail message).Hung ↔ c.Hung := by
  constructor
  · intro h
    have hlost : c.Lost := fail_lost ⟨h.1, h.2.1⟩
    have hawaiting := h.2.2
    rw [fail_awaiting] at hawaiting
    exact ⟨hlost.1, hlost.2, hawaiting⟩
  · exact (fail_grows message c).hung

theorem abort_hung_iff (hawaiting : c.awaiting ≠ some .socketFd) :
    (c.abort message).Hung ↔ c.Hung := by
  constructor
  · intro h
    have hlost : c.Lost := fail_lost ⟨h.1, h.2.1⟩
    exact ⟨hlost.1, hlost.2, hawaiting⟩
  · exact (abort_grows message c).hung

theorem handleFrames_hung_iff (hawaiting : c.awaiting ≠ some .socketFd) :
    (c.handleFrames frames).Hung ↔ c.Hung := by
  constructor
  · intro h
    have hlost := handleFrames_lost h
    exact ⟨hlost.1, hlost.2, hawaiting⟩
  · exact (handleFrames_grows frames c).hung

/-- When `getSocketFd` fails the callbacks are gone, and `fail` does not reject the promise. -/
theorem abort_hung (hok : c.Ok) (hfd : c.FdPending) (hawaiting : c.awaiting = some .socketFd) :
    (c.abort message).Hung := by
  obtain ⟨hdone, hnone⟩ := hfd hawaiting
  have hres := hok.socketFd hawaiting
  unfold abort fail
  split_ifs
  · exact ⟨hnone, hres, nofun⟩
  · exact ⟨hnone, hres, nofun⟩

end
end ControlSession

namespace Handshake
open ControlSession

structure Sound (s : Handshake) : Prop where
  ok : s.session.Ok
  fd : s.session.FdPending
  timer : s.helloSent = true ∨ s.stage = .sending → s.timer = false →
    s.session.handshakeResolve = true → s.session.closing = true
  lost : s.session.Hung ↔ s.fdFailed = true

variable {s t : Handshake} {e : HandshakeEvent}

variable {d : ControlSession} {timer fdFailed : Bool}

/-- A change of the session that takes the callbacks or leaves them and the timer alone, unless the
session is being closed. -/
theorem Sound.update (h : s.Sound) {heard closedFirst : Bool} (hok : d.Ok) (hfd : d.FdPending)
    (hclosing : s.session.closing = true → d.closing = true) (htimer : d.handshakeResolve = true →
      d.closing = true ∨ s.session.handshakeResolve = true ∧ timer = s.timer)
    (hlost : d.Hung ↔ fdFailed = true) :
    Sound { s with session := d, timer, fdFailed, heard, closedFirst } := by
  refine ⟨hok, hfd, ?_, hlost⟩
  intro hsent hoff hres
  rcases htimer hres with hclosed | ⟨hbefore, hsame⟩
  · exact hclosed
  · exact hclosing (h.timer hsent (hsame.symm.trans hoff) hbefore)

theorem Sound.handleFrames (h : s.Sound) {c : ControlSession} (frames : List ControlFrame)
    (hok : c.Ok) (hclosing : c.closing = s.session.closing)
    (hres : c.handshakeResolve = s.session.handshakeResolve)
    (hlost : (c.handleFrames frames).Hung ↔ s.session.Hung) :
    (Handshake.handleFrames frames { s with session := c }).Sound := by
  have hgrows := handleFrames_grows frames c
  refine h.update (hgrows.ok hok) (handleFrames_fdPending hok) ?_ ?_ (hlost.trans h.lost)
  · intro hclosed
    rw [hgrows.closing, hclosing, hclosed]
  · intro hleft
    refine .inr ⟨?_, ?_⟩
    · rw [← hres]
      exact handleFrames_keeps_resolve hleft
    · simp [clearsTimer_of_resolve hok hleft]

/-- A `fail` takes the callbacks unless the session is being closed. -/
theorem Sound.fail_timer (h : s.Sound) {message : JsString}
    (hleft : (s.session.fail message).handshakeResolve = true) :
    (s.session.fail message).closing = true ∨ s.session.handshakeResolve = true ∧ timer = s.timer := by
  have hdone := (h.ok.resolve (fail_keeps_resolve hleft)).1
  have hclosing := (fail_resolve hleft hdone).2
  rw [(fail_grows message s.session).closing]
  exact .inl hclosing

theorem Sound.close (h : s.Sound) : s.close.Sound :=
  h.update ⟨h.ok.resolve, h.ok.socketFd, h.ok.stopAck⟩ h.fd (fun _ => rfl) (fun _ => .inl rfl) h.lost

theorem Sound.fail (h : s.Sound) (message : JsString) (timer : Bool) :
    Sound { s with session := s.session.fail message, timer, heard := true } := by
  have hgrows := fail_grows message s.session
  exact h.update (hgrows.ok h.ok) (fail_fdPending h.fd) hgrows.closing.trans h.fail_timer
    (fail_hung_iff.trans h.lost)

theorem Sound.step (h : s.Sound) (hstep : HandshakeStep s e t) : t.Sound := by
  cases hstep with
  | connected stage | resolved stage settled =>
    refine ⟨h.ok, h.fd, ?_, h.lost⟩
    rintro (hsent | hsending)
    · exact h.timer (.inl hsent)
    · cases hsending
  | configured stage => exact ⟨h.ok, h.fd, nofun, h.lost⟩
  | helloSent stage => exact ⟨h.ok, h.fd, fun _ => h.timer (.inr stage), h.lost⟩
  | setupFails stage | rejected stage settled =>
    exact ⟨h.close.ok, h.close.fd, fun _ _ _ => rfl, h.close.lost⟩
  | chunk frames opened idle =>
    have hs := h.handleFrames frames h.ok rfl rfl (handleFrames_hung_iff (by simp [idle]))
    exact ⟨hs.ok, hs.fd, hs.timer, hs.lost⟩
  | socketFd waiting =>
    refine h.handleFrames s.session.frames ⟨?_, h.ok.socketFd, h.ok.stopAck⟩ rfl rfl ?_
    · intro hres
      rw [h.ok.socketFd waiting] at hres
      cases hres
    · apply iff_of_false
      · intro hhung
        have hnone := (handleFrames_lost hhung).1
        simp at hnone
      · exact fun hhung => hhung.2.2 waiting
  | socketFdFails message waiting =>
    have hgrows := abort_grows message s.session
    refine h.update (hgrows.ok h.ok) nofun ?_ h.fail_timer ?_
    · exact hgrows.closing.trans
    · exact iff_of_true (abort_hung h.ok h.fd waiting) rfl
  | @acked reason waiting =>
    have hgrows := resolveStop_grows reason s.session
    refine h.handleFrames s.session.frames (hgrows.ok h.ok) rfl rfl ?_
    rw [handleFrames_hung_iff]
    · exact Iff.rfl
    · change s.session.awaiting ≠ some .socketFd
      simp [waiting]
  | ponged waiting =>
    exact h.handleFrames s.session.frames h.ok rfl rfl (handleFrames_hung_iff (by simp [waiting]))
  | sendFails message waiting send =>
    have hgrows := abort_grows message s.session
    exact h.update (hgrows.ok h.ok) nofun hgrows.closing.trans h.fail_timer
      ((abort_hung_iff send).trans h.lost)
  | socketFails message opened => exact h.fail message _
  | timeout armed => exact h.fail (jsString "VPN control HELLO_ACK timed out") false
  | close => exact h.close

/-- What the record of `close` and of the frames says about the callbacks. -/
structure Recorded (s : Handshake) : Prop where
  quiet : s.heard = false ∨ s.closedFirst = true →
    s.session.awaiting = none ∧ s.session.handshakeResolve = true
  left : s.session.handshakeResolve = true → s.heard = false ∨ s.closedFirst = true
  first : s.closedFirst = true → s.session.closing = true
  closing : s.session.closing = true → s.heard = true ∨ s.closedFirst = true

theorem Recorded.close (h : s.Recorded) : s.close.Recorded := by
  have hrecord : s.heard = false ∨ s.close.closedFirst = true ↔
      s.heard = false ∨ s.closedFirst = true := by
    simp only [Handshake.close]
    cases s.heard <;> simp
  refine ⟨fun hquiet => h.quiet (hrecord.mp hquiet), fun hleft => hrecord.mpr (h.left hleft),
    fun _ => rfl, fun _ => ?_⟩
  simp only [Handshake.close]
  cases s.heard <;> simp

theorem Recorded.resume (h : s.Recorded) (waiting : s.session.awaiting.isSome)
    (hkeeps : d.handshakeResolve = true → s.session.handshakeResolve = true) :
    Recorded { s with session := d, timer, fdFailed } := by
  have hheard : ¬(s.heard = false ∨ s.closedFirst = true) := by
    intro hquiet
    rw [(h.quiet hquiet).1] at waiting
    cases waiting
  refine ⟨fun hquiet => absurd hquiet hheard, fun hleft => h.left (hkeeps hleft),
    fun hfirst => absurd (.inr hfirst) hheard, fun _ => .inl ?_⟩
  by_contra hnot
  exact hheard (.inl (by simpa using hnot))

theorem Recorded.fail (h : s.Recorded) (hok : s.session.Ok) (message : JsString) (timer : Bool) :
    Recorded { s with session := s.session.fail message, timer, heard := true } := by
  have hclosing := (fail_grows message s.session).closing
  refine ⟨?_, ?_, ?_, fun _ => .inl rfl⟩
  · rintro (hheard | hfirst)
    · cases hheard
    · obtain ⟨hawaiting, hres⟩ := h.quiet (.inr hfirst)
      have hsame : s.session.fail message = s.session := by
        simp [ControlSession.fail, h.first hfirst]
      exact ⟨by rw [hsame, hawaiting], by rw [hsame, hres]⟩
  · intro hleft
    have hres := fail_keeps_resolve hleft
    have hclosed := (fail_resolve hleft (hok.resolve hres).1).2
    rcases h.left hres with hheard | hfirst
    · rcases h.closing hclosed with hnot | hfirst
      · rw [hheard] at hnot
        cases hnot
      · exact .inr hfirst
    · exact .inr hfirst
  · intro hfirst
    exact hclosing.trans (h.first hfirst)

theorem Recorded.chunk (h : s.Recorded) (hok : s.session.Ok) (opened : s.session.closing = false)
    (frames : List ControlFrame) :
    Recorded { s.handleFrames frames with heard := s.heard || !frames.isEmpty } := by
  have hfirst : s.closedFirst = false := by
    by_contra hnot
    have hclosed := h.first (by simpa using hnot)
    rw [opened] at hclosed
    cases hclosed
  cases frames with
  | nil =>
    rw [List.isEmpty_nil, Bool.not_true, Bool.or_false]
    exact ⟨fun hquiet => ⟨rfl, (h.quiet hquiet).2⟩, h.left, h.first, h.closing⟩
  | cons frame rest =>
    have htaken := handleFrames_takes_resolve hok opened (List.cons_ne_nil frame rest)
    refine ⟨?_, ?_, ?_, ?_⟩
    · simp [handleFrames, hfirst]
    · intro hleft
      rw [handleFrames, htaken] at hleft
      cases hleft
    · simp [handleFrames, hfirst]
    · simp [handleFrames]

theorem Recorded.step (h : s.Recorded) (hok : s.session.Ok) (hstep : HandshakeStep s e t) :
    t.Recorded := by
  cases hstep with
  | connected | configured | helloSent | resolved => exact ⟨h.quiet, h.left, h.first, h.closing⟩
  | setupFails | rejected => exact ⟨h.close.quiet, h.close.left, h.close.first, h.close.closing⟩
  | close => exact h.close
  | chunk frames opened idle => exact h.chunk hok opened frames
  | socketFd waiting => exact h.resume (by simp [waiting]) handleFrames_keeps_resolve
  | acked waiting => exact h.resume (by simp [waiting]) handleFrames_keeps_resolve
  | ponged waiting => exact h.resume (by simp [waiting]) handleFrames_keeps_resolve
  | socketFdFails message waiting => exact h.resume (by simp [waiting]) fail_keeps_resolve
  | sendFails message waiting send => exact h.resume waiting fail_keeps_resolve
  | socketFails message opened => exact h.fail hok message _
  | timeout armed => exact h.fail hok _ false

theorem reachable_sound (h : Reachable HandshakeStep Fresh s) : s.Sound ∧ s.Recorded := by
  apply h.invariant
  · rintro s rfl
    refine ⟨⟨⟨fun _ => ⟨rfl, rfl⟩, nofun, nofun⟩, nofun, ?_, ?_⟩, fun _ => ⟨rfl, rfl⟩,
      fun _ => .inl rfl, nofun, nofun⟩
    · rintro (hsent | hsending)
      · cases hsent
      · cases hsending
    · decide
  · intro s e t hstep hs
    exact ⟨hs.1.step hstep, hs.2.step hs.1.ok hstep⟩

end Handshake

/-- When HELLO has been sent, the timer is not armed and no call of `getSocketFd` is pending, the
promise is settled unless such a call has failed, or `close` was called before a frame, an error of the
socket or the timer had reached the session. -/
theorem handshake_settled_iff (s : Handshake) (h : Reachable HandshakeStep Handshake.Fresh s)
    (hsent : s.helloSent = true) (htimer : s.timer = false)
    (hfd : s.session.awaiting ≠ some .socketFd) :
    s.session.handshake.isSome = true ↔ s.fdFailed = false ∧ s.closedFirst = false := by
  obtain ⟨hs, hrecord⟩ := Handshake.reachable_sound h
  constructor
  · intro hsettled
    obtain ⟨settled, hsome⟩ := Option.isSome_iff_exists.mp hsettled
    constructor
    · by_contra hfailed
      have hnone := (hs.lost.mpr (by simpa using hfailed)).1
      rw [hsome] at hnone
      cases hnone
    · by_contra hfirst
      have hres := (hrecord.quiet (.inr (by simpa using hfirst))).2
      have hnone := (hs.ok.resolve hres).2
      rw [hsome] at hnone
      cases hnone
  · rintro ⟨hfailed, hfirst⟩
    by_contra hnot
    have hnone : s.session.handshake = none := by simpa using hnot
    cases hres : s.session.handshakeResolve with
    | true =>
      have hheard := hrecord.closing (hs.timer (.inl hsent) htimer hres)
      have hleft := hrecord.left hres
      simp [hfirst] at hheard hleft
      rw [hleft] at hheard
      cases hheard
    | false =>
      have hlost := hs.lost.mp ⟨hnone, hres, hfd⟩
      rw [hfailed] at hlost
      cases hlost

theorem helloSent_reachable :
    Reachable HandshakeStep Handshake.Fresh { stage := .waiting, helloSent := true, timer := true } :=
  ⟨{}, _, rfl, .cons (.connected rfl) <| .cons (.configured rfl) <| .single (.helloSent rfl)⟩

/-- The acknowledgement comes and `getSocketFd` succeeds. -/
theorem handshake_settled_acknowledged :
    ∃ s, Reachable HandshakeStep Handshake.Fresh s ∧ s.helloSent = true ∧ s.timer = false ∧
      s.session.handshake.isSome = true := by
  have hrun : Run HandshakeStep { stage := .waiting, helloSent := true, timer := true } _ _ :=
    .cons (.chunk [.helloAck] rfl rfl) <| .single (.socketFd rfl)
  have hreachable := helloSent_reachable.run hrun
  exact ⟨_, hreachable, rfl, rfl,
    (handshake_settled_iff _ hreachable rfl rfl nofun).mpr ⟨rfl, rfl⟩⟩

/-- The acknowledgement comes and `getSocketFd` fails; or another task closes the session while HELLO
is not answered. -/
theorem handshake_hangs :
    (∃ s, Reachable HandshakeStep Handshake.Fresh s ∧ s.stage = .waiting ∧ s.helloSent = true ∧
      s.timer = false ∧ s.session.awaiting = none ∧ s.session.closing = false ∧
      s.session.handshake = none) ∧
    ∃ s, Reachable HandshakeStep Handshake.Fresh s ∧ s.stage = .waiting ∧ s.helloSent = true ∧
      s.timer = false ∧ s.session.awaiting = none ∧ s.fdFailed = false ∧
      s.session.handshake = none := by
  constructor
  · have hrun : Run HandshakeStep { stage := .waiting, helloSent := true, timer := true } _ _ :=
      .cons (.chunk [.helloAck] rfl rfl) <| .single (.socketFdFails (jsString "2301001") rfl)
    exact ⟨_, helloSent_reachable.run hrun, rfl, rfl, rfl, rfl, rfl, rfl⟩
  · have hrun : Run HandshakeStep { stage := .waiting, helloSent := true, timer := true } _ _ :=
      .single .close
    exact ⟨_, helloSent_reachable.run hrun, rfl, rfl, rfl, rfl, rfl, rfl⟩

end HarmonyNetBridge.Harmony
