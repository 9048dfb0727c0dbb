import HarmonyNetBridge.Transition.Runs
import HarmonyNetBridge.Harmony.AppWhitelist

/-! `BridgeSession`, the control connection of the app: its methods run up to an await, and what comes
after it is a task that any event may precede. -/
namespace HarmonyNetBridge.Harmony
open Transition

inductive BridgeConnectionState where
  | idle
  | connecting
  | connected
  | disconnected
  | error
  deriving DecidableEq, Repr

structure BridgeSnapshot where
  state : BridgeConnectionState
  title : JsString
  detail : JsValue
  proxyEnabled : Bool := false
  deriving DecidableEq, Repr

/-- The payload of a HELLO_ACK; without `capabilities` their use throws. -/
structure BridgeAck where
  selectedVersion : ℤ
  message : JsString
  sessionToken : JsString
  capabilities : Option (List JsString)
  deriving DecidableEq, Repr

/-- A decoded frame. The payload of a STOP_REQUEST may be `null`, which has no reason, and `malformed`
has the error that the decoding of a payload throws. -/
inductive BridgeFrame where
  | helloAck (sequence : ℕ) (ack : BridgeAck)
  | stopRequest (reason : Option JsValue)
  | error (code : JsString) (message : JsValue)
  | unsupported (type : ℕ)
  | malformed (message : JsString)
  deriving DecidableEq, Repr

/-- What is done after an await. The clients have the numbers of their construction, and `frames` is
what is left of a chunk. -/
inductive BridgeTask where
  | connecting (client : ℕ)
  | configuring (client : ℕ)
  | sendingHello (client : ℕ)
  | dropping
  | failing
  | disconnecting
  | acking (client : ℕ) (reason : Option JsValue) (frames : List BridgeFrame)
  | closing (client : ℕ) (frames : List BridgeFrame)
  | handling (client : ℕ) (frames : List BridgeFrame)
  | throwing (client : ℕ) (message : JsString)
  deriving DecidableEq, Repr

def idleSnapshot : BridgeSnapshot where
  state := .idle
  title := jsString "等待 Mac 服务"
  detail := .string (jsString "先在 Mac 运行 harmony-netbridge start")

/-- The session with the awaits that are pending. -/
structure BridgeSession where
  client : Option ℕ := none
  constructed : ℕ := 0
  current : BridgeSnapshot := idleSnapshot
  manualClosing : Bool := false
  currentSessionToken : JsString := []
  autoReconnectEnabled : Bool := false
  reconnectAttempt : ℕ := 0
  reconnectTimer : Option ℕ := none
  tasks : List BridgeTask := []
  deriving DecidableEq, Repr

/-- In milliseconds. -/
def bridgeReconnectDelay (attempt : ℕ) : ℕ :=
  if attempt ≤ 1 then 500 else (fun delay => min (delay * 2) 4000)^[attempt - 1] 500

def shouldScheduleBridgeReconnect (autoReconnectEnabled hasClient : Bool)
    (connectionState : BridgeConnectionState) : Bool :=
  autoReconnectEnabled && !hasClient && connectionState != .connecting && connectionState != .connected

/-- The test of a token against 32 hexadecimal digits. -/
def isSessionToken (token : JsString) : Bool :=
  token.length == 32 && token.all fun code => isAsciiDigit code || (97 ≤ code && code ≤ 102)

def BridgeAck.valid (sequence : ℕ) (ack : BridgeAck) : Bool :=
  sequence == 1 && ack.selectedVersion == 1 && ack.message == jsString "world" &&
    isSessionToken ack.sessionToken

def codeText : Option ℤ → JsString
  | none => jsString "undefined"
  | some code => jsString (toString code)

def safeBusinessError : Option ℤ → JsString
  | none => jsString "无法建立 USB 连接；请检查 Mac 服务，App 将自动重试"
  | some code => jsString "无法建立 USB 连接；请检查 Mac 服务，App 将自动重试（错误 " ++
      jsString (toString code) ++ jsString "）"

def typeError : JsString := jsString "Cannot read property of null or undefined"

namespace BridgeSession

def publish (state : BridgeConnectionState) (title : JsString) (detail : JsValue)
    (s : BridgeSession) : BridgeSession := { s with current := { state, title, detail } }

def await (task : BridgeTask) (s : BridgeSession) : BridgeSession :=
  { s with tasks := task :: s.tasks }

/-- `closeClient` up to its await. -/
def closeClient (client : ℕ) (s : BridgeSession) : BridgeSession :=
  if s.client = some client then { s with client := none, currentSessionToken := [] } else s

def scheduleReconnect (immediate : Bool) (s : BridgeSession) : BridgeSession :=
  if s.reconnectTimer.isSome || !shouldScheduleBridgeReconnect s.autoReconnectEnabled
      s.client.isSome s.current.state then s
  else if immediate then { s with reconnectTimer := some 0 }
  else
    { s with
      reconnectAttempt := s.reconnectAttempt + 1
      reconnectTimer := some (bridgeReconnectDelay (s.reconnectAttempt + 1)) }

def resumeAutoReconnect (s : BridgeSession) : BridgeSession :=
  if s.autoReconnectEnabled then s.scheduleReconnect true
  else { s with autoReconnectEnabled := true, reconnectAttempt := 0 }.scheduleReconnect true

def pauseAutoReconnect (s : BridgeSession) : BridgeSession :=
  { s with autoReconnectEnabled := false, reconnectAttempt := 0, reconnectTimer := none }

/-- `connect` up to the await of the socket's connection. -/
def connect (s : BridgeSession) : BridgeSession :=
  if s.client.isSome || s.current.state == .connecting then s
  else
    { s with
      client := some s.constructed
      constructed := s.constructed + 1
      manualClosing := false
      currentSessionToken := []
      reconnectTimer := none
      current :=
        { state := .connecting
          title := jsString "正在连接 Mac"
          detail := .string (jsString "设备回环地址 127.0.0.1:27183") }
      tasks := .connecting s.constructed :: s.tasks }

/-- A call in `connect` has returned; `next` is done unless the client has been replaced or is being
closed. -/
def continueConnect (client : ℕ) (next : BridgeSession → BridgeSession) (s : BridgeSession) :
    BridgeSession :=
  if s.client ≠ some client ∨ s.manualClosing then (s.closeClient client).await .dropping else next s

/-- The catch block of `connect`. -/
def connectFails (client : ℕ) (code : Option ℤ) (s : BridgeSession) : BridgeSession :=
  if s.client ≠ some client then s
  else
    ((s.publish .error (jsString "无法连接 Mac") (.string (safeBusinessError code))).closeClient
      client).await .failing

def publishClosed : BridgeSession → BridgeSession :=
  publish .disconnected (jsString "连接已关闭") (.string (jsString "可以点击重新连接"))

def disconnect (s : BridgeSession) : BridgeSession :=
  let s := { s with manualClosing := true, reconnectTimer := none }
  match s.client with
  | some client => (s.closeClient client).await .disconnecting
  | none => s.publishClosed

/-- The catch block of `onMessage`. -/
def protocolError (client : ℕ) (message : JsString) (s : BridgeSession) : BridgeSession :=
  ((s.publish .error (jsString "协议错误") (.string message)).closeClient client).await .failing

/-- `handleFrame` up to its first await or its end; an exception reaches `onMessage` later. -/
def handleFrame (client : ℕ) (rest : List BridgeFrame) : BridgeFrame → BridgeSession → BridgeSession
  | .helloAck sequence ack, s =>
    if ack.valid sequence then
      let s := { s with currentSessionToken := ack.sessionToken, reconnectAttempt := 0 }
      match ack.capabilities with
      | none => s.await (.throwing client typeError)
      | some capabilities =>
        { s with
          current :=
            { state := .connected
              title := jsString "Mac 服务已连接"
              detail := .string (jsString "USB 通信正常，可以开始使用 VPN Tunnel")
              proxyEnabled := capabilities.contains (jsString "proxy") } }.await (.handling client rest)
    else s.await (.throwing client (jsString "Mac returned an invalid HELLO_ACK"))
  | .stopRequest reason, s => s.await (.acking client reason rest)
  | .error code message, s =>
    ((s.publish .error (jsString "Mac 协议错误：" ++ code) message).closeClient client).await
      (.closing client rest)
  | .unsupported type, s =>
    s.await (.throwing client (jsString "控制通道收到不支持的消息类型：" ++ jsString (toString type)))
  | .malformed message, s => s.await (.throwing client message)

/-- The loop of `onMessage` up to its next await. -/
def nextFrame (client : ℕ) : List BridgeFrame → BridgeSession → BridgeSession
  | [], s => s
  | frame :: rest, s => s.handleFrame client rest frame

/-- `onMessage`, with what `decoder.push` gives or throws. -/
def onMessage (client : ℕ) (decoded : Except JsString (List BridgeFrame)) (s : BridgeSession) :
    BridgeSession :=
  if s.client ≠ some client then s
  else
    match decoded with
    | .error message => s.protocolError client message
    | .ok frames => s.nextFrame client frames

/-- The rest of a STOP_REQUEST when STOP_ACK has been sent. -/
def stopAcked (client : ℕ) (reason : Option JsValue) (rest : List BridgeFrame) (s : BridgeSession) :
    BridgeSession :=
  let s := { s with manualClosing := true }
  match reason with
  | none => s.await (.throwing client typeError)
  | some reason =>
    ((s.publish .disconnected (jsString "Mac 已停止服务") reason).closeClient client).await
      (.closing client rest)

def onClosed (client : ℕ) (s : BridgeSession) : BridgeSession :=
  if s.client ≠ some client then s
  else
    let s := { s with client := none, currentSessionToken := [] }
    if s.manualClosing then s
    else
      (s.publish .disconnected (jsString "Mac 连接已断开")
        (.string (jsString "请检查 USB 与 Mac 服务，连接将在后台自动重试"))).scheduleReconnect false

def onSocketError (client : ℕ) (code : Option ℤ) (s : BridgeSession) : BridgeSession :=
  if s.client ≠ some client ∨ s.manualClosing then s
  else
    ((s.publish .error (jsString "Socket 错误") (.string (safeBusinessError code))).closeClient
      client).await .failing

/-- What follows an await. `failure` is the code of the error if the call has failed; a close never
fails. -/
def finish (failure : Option (Option ℤ)) : BridgeTask → BridgeSession → BridgeSession
  | .connecting client, s =>
    match failure with
    | some code => s.connectFails client code
    | none => s.continueConnect client (·.await (.configuring client))
  | .configuring client, s =>
    match failure with
    | some code => s.connectFails client code
    | none => s.continueConnect client fun s =>
        (s.publish .connecting (jsString "已连接，等待 world")
          (.string (jsString "正在通过 USB 控制通道发送 HELLO"))).await (.sendingHello client)
  | .sendingHello client, s => if failure.isSome then s.connectFails client none else s
  | .dropping, s => s
  | .failing, s => s.scheduleReconnect false
  | .disconnecting, s => s.publishClosed
  | .acking client reason rest, s =>
    match failure with
    | some code => s.await (.throwing client (jsString "Socket send failed: " ++ codeText code))
    | none => s.stopAcked client reason rest
  | .closing client rest, s => (s.scheduleReconnect false).await (.handling client rest)
  | .handling client rest, s => s.nextFrame client rest
  | .throwing client message, s => s.protocolError client message

end BridgeSession

inductive BridgeInput where
  | connect
  | disconnect
  | resumeAutoReconnect
  | pauseAutoReconnect
  | reconnect
  | message (client : ℕ) (decoded : Except JsString (List BridgeFrame))
  | closed (client : ℕ)
  | failed (client : ℕ) (code : Option ℤ)
  | finish (task : BridgeTask) (failure : Option (Option ℤ))

inductive BridgeSessionStep (s : BridgeSession) : BridgeInput → BridgeSession → Prop
  | connect : BridgeSessionStep s .connect s.connect
  | disconnect : BridgeSessionStep s .disconnect s.disconnect
  | resumeAutoReconnect : BridgeSessionStep s .resumeAutoReconnect s.resumeAutoReconnect
  | pauseAutoReconnect : BridgeSessionStep s .pauseAutoReconnect s.pauseAutoReconnect
  | reconnect {delay : ℕ} (armed : s.reconnectTimer = some delay) :
      BridgeSessionStep s .reconnect { s with reconnectTimer := none }.connect
  | message (client : ℕ) (decoded : Except JsString (List BridgeFrame)) :
      BridgeSessionStep s (.message client decoded) (s.onMessage client decoded)
  | closed (client : ℕ) : BridgeSessionStep s (.closed client) (s.onClosed client)
  | failed (client : ℕ) (code : Option ℤ) :
      BridgeSessionStep s (.failed client code) (s.onSocketError client code)
  | finish {task : BridgeTask} {before after : List BridgeTask} (failure : Option (Option ℤ))
      (queue : s.tasks = before ++ task :: after) :
      BridgeSessionStep s (.finish task failure)
        (BridgeSession.finish failure task { s with tasks := before ++ after })

/-- The next frame is a HELLO_ACK that will be accepted. -/
def acknowledges : List BridgeFrame → Bool
  | .helloAck sequence ack :: _ => ack.valid sequence
  | _ => false

namespace BridgeSession

/-- No HELLO_ACK is accepted when there is no client, and no STOP_REQUEST of an old client goes on
when there is another. -/
def Timely (s : BridgeSession) : BridgeInput → Prop
  | .finish (.handling _ frames) _ => acknowledges frames = true → s.client.isSome = true
  | .finish (.acking client _ _) none => ∀ other, s.client = some other → other = client
  | _ => True

def Fresh (s : BridgeSession) : Prop := s = {}

/-- A task is pending that will publish a state of its own. -/
def Overruled (s : BridgeSession) : Prop :=
  .disconnecting ∈ s.tasks ∨ ∃ client message, .throwing client message ∈ s.tasks

structure Linked (s : BridgeSession) : Prop where
  token : s.currentSessionToken ≠ [] → s.client.isSome = true
  opened : ∀ client, s.client = some client → s.manualClosing = false ∨
    ∃ message, .throwing client message ∈ s.tasks
  connected : s.current.state = .connected → s.client.isSome = true ∨ s.Overruled

section
variable {s t : BridgeSession} {client : ℕ} {state : BridgeConnectionState} {title : JsString}
  {detail : JsValue} {input : BridgeInput}

theorem Linked.publish (h : s.Linked) (hstate : state ≠ .connected) :
    (s.publish state title detail).Linked :=
  ⟨h.token, h.opened, fun hconnected => absurd hconnected hstate⟩

theorem Overruled.await (h : s.Overruled) (task : BridgeTask) : (s.await task).Overruled := by
  rcases h with hpending | ⟨client, message, hpending⟩
  · exact .inl (List.mem_cons_of_mem _ hpending)
  · exact .inr ⟨client, message, List.mem_cons_of_mem _ hpending⟩

theorem Linked.await (h : s.Linked) (task : BridgeTask) : (s.await task).Linked := by
  refine ⟨h.token, ?_, ?_⟩
  · intro client hclient
    rcases h.opened client hclient with hfalse | ⟨message, hpending⟩
    · exact .inl hfalse
    · exact .inr ⟨message, List.mem_cons_of_mem _ hpending⟩
  · intro hconnected
    exact (h.connected hconnected).imp_right fun hover => hover.await task

theorem Linked.closeClient (h : s.Linked) (client : ℕ)
    (hstate : s.current.state = .connected → s.Overruled) : (s.closeClient client).Linked := by
  unfold BridgeSession.closeClient
  split_ifs
  · exact ⟨fun htoken => absurd rfl htoken, nofun, fun hconnected => .inr (hstate hconnected)⟩
  · exact h

theorem Linked.drop (h : s.Linked) (client : ℕ) (task : BridgeTask) (hstate : state ≠ .connected) :
    (((s.publish state title detail).closeClient client).await task).Linked := by
  apply Linked.await
  apply (h.publish hstate).closeClient
  exact fun hconnected => absurd hconnected hstate

theorem Linked.scheduleReconnect (h : s.Linked) (immediate : Bool) :
    (s.scheduleReconnect immediate).Linked := by
  unfold BridgeSession.scheduleReconnect
  split_ifs
  · exact h
  · exact ⟨h.token, h.opened, h.connected⟩
  · exact ⟨h.token, h.opened, h.connected⟩

theorem Linked.connect (h : s.Linked) : s.connect.Linked := by
  unfold BridgeSession.connect
  split_ifs
  · exact h
  · exact ⟨fun _ => rfl, fun _ _ => .inl rfl, fun _ => .inl rfl⟩

theorem Linked.continueConnect (h : s.Linked) {next : BridgeSession → BridgeSession}
    (hnext : (next s).Linked) : (s.continueConnect client next).Linked := by
  unfold BridgeSession.continueConnect
  split_ifs with hstale
  · apply Linked.await
    by_cases hclient : s.client = some client
    · -- only a task that will throw has left `manualClosing` set with the client in place
      apply h.closeClient
      intro _
      rcases h.opened client hclient with hfalse | ⟨message, hpending⟩
      · simp [hclient, hfalse] at hstale
      · exact .inr ⟨client, message, hpending⟩
    · rw [BridgeSession.closeClient, if_neg hclient]
      exact h
  · exact hnext

theorem Linked.connectFails (h : s.Linked) (code : Option ℤ) : (s.connectFails client code).Linked := by
  unfold BridgeSession.connectFails
  split_ifs
  · exact h
  · exact h.drop client .failing nofun

theorem Linked.disconnect (h : s.Linked) : s.disconnect.Linked := by
  unfold BridgeSession.disconnect
  dsimp only
  split
  · rename_i client hclient
    rw [BridgeSession.closeClient, if_pos hclient]
    exact ⟨fun htoken => absurd rfl htoken, fun _ hsome => (by cases hsome),
      fun _ => .inr (.inl List.mem_cons_self)⟩
  · rename_i hclient
    refine ⟨h.token, ?_, fun hconnected => by cases hconnected⟩
    intro client hsome
    rw [show s.client = some client from hsome] at hclient
    cases hclient

theorem Linked.protocolError (h : s.Linked) (message : JsString) :
    (s.protocolError client message).Linked := h.drop client .failing nofun

theorem Linked.handleFrame (h : s.Linked) {frame : BridgeFrame} {rest : List BridgeFrame}
    (htimely : acknowledges (frame :: rest) = true → s.client.isSome = true) :
    (s.handleFrame client rest frame).Linked := by
  cases frame with
  | helloAck sequence ack =>
    unfold BridgeSession.handleFrame
    dsimp only
    split_ifs with hvalid
    · have hsome := htimely hvalid
      split
      · apply Linked.await
        exact ⟨fun _ => hsome, h.opened, h.connected⟩
      · apply Linked.await
        exact ⟨fun _ => hsome, h.opened, fun _ => .inl hsome⟩
    · exact h.await _
  | error code message => exact h.drop client _ nofun
  | stopRequest reason | unsupported type | malformed message => exact h.await _

theorem Linked.nextFrame (h : s.Linked) {frames : List BridgeFrame}
    (htimely : acknowledges frames = true → s.client.isSome = true) :
    (s.nextFrame client frames).Linked := by
  cases frames with
  | nil => exact h
  | cons frame rest => exact h.handleFrame htimely

theorem Linked.onMessage (h : s.Linked) (decoded : Except JsString (List BridgeFrame)) :
    (s.onMessage client decoded).Linked := by
  unfold BridgeSession.onMessage
  split_ifs with hother
  · exact h
  · split
    · exact h.protocolError _
    · apply h.nextFrame
      intro _
      rw [not_not.mp hother]
      rfl

theorem Linked.stopAcked (h : s.Linked) {reason : Option JsValue} {rest : List BridgeFrame}
    (htimely : ∀ other, s.client = some other → other = client) :
    (s.stopAcked client reason rest).Linked := by
  unfold BridgeSession.stopAcked
  cases reason with
  | none =>
    refine ⟨h.token, ?_, ?_⟩
    · intro other hother
      rw [htimely other hother]
      exact .inr ⟨_, List.mem_cons_self⟩
    · intro _
      exact .inr (.inr ⟨_, _, List.mem_cons_self⟩)
  | some reason =>
    apply Linked.await
    unfold BridgeSession.closeClient
    split_ifs with hclient
    · exact ⟨fun htoken => absurd rfl htoken, nofun, nofun⟩
    · refine ⟨h.token, ?_, nofun⟩
      intro other hother
      rw [htimely other hother] at hother
      exact absurd hother hclient

theorem Linked.onClosed (h : s.Linked) : (s.onClosed client).Linked := by
  unfold BridgeSession.onClosed
  dsimp only
  split_ifs with hother hmanual
  · exact h
  · refine ⟨fun htoken => absurd rfl htoken, nofun, ?_⟩
    intro _
    rcases h.opened client (not_not.mp hother) with hfalse | ⟨message, hpending⟩
    · rw [hfalse] at hmanual
      cases hmanual
    · exact .inr (.inr ⟨client, message, hpending⟩)
  · apply Linked.scheduleReconnect
    exact ⟨fun htoken => absurd rfl htoken, nofun, nofun⟩

theorem Linked.onSocketError (h : s.Linked) (code : Option ℤ) :
    (s.onSocketError client code).Linked := by
  unfold BridgeSession.onSocketError
  split_ifs
  · exact h
  · exact h.drop client .failing nofun

theorem mem_rest {task other : BridgeTask} {before after : List BridgeTask}
    (queue : s.tasks = before ++ task :: after) (hne : other ≠ task) (hmem : other ∈ s.tasks) :
    other ∈ before ++ after := by
  rw [queue] at hmem
  simpa [hne] using hmem

theorem Linked.remove (h : s.Linked) {task : BridgeTask} {before after : List BridgeTask}
    (queue : s.tasks = before ++ task :: after) (hdisconnecting : task ≠ .disconnecting)
    (hthrowing : ∀ client message, task ≠ .throwing client message) :
    Linked { s with tasks := before ++ after } := by
  refine ⟨h.token, ?_, ?_⟩
  · intro client hclient
    rcases h.opened client hclient with hfalse | ⟨message, hpending⟩
    · exact .inl hfalse
    · exact .inr ⟨message, mem_rest queue (hthrowing client message).symm hpending⟩
  · intro hconnected
    rcases h.connected hconnected with hsome | hpending | ⟨client, message, hpending⟩
    · exact .inl hsome
    · exact .inr (.inl (mem_rest queue hdisconnecting.symm hpending))
    · exact .inr (.inr ⟨client, message, mem_rest queue (hthrowing client message).symm hpending⟩)

theorem Linked.finish (h : s.Linked) {task : BridgeTask} {before after : List BridgeTask}
    {failure : Option (Option ℤ)} (queue : s.tasks = before ++ task :: after)
    (htimely : s.Timely (.finish task failure)) :
    (BridgeSession.finish failure task { s with tasks := before ++ after }).Linked := by
  cases task with
  | disconnecting =>
    refine ⟨h.token, ?_, nofun⟩
    intro client hclient
    rcases h.opened client hclient with hfalse | ⟨message, hpending⟩
    · exact .inl hfalse
    · exact .inr ⟨message, mem_rest queue nofun hpending⟩
  | throwing client message =>
    apply Linked.await
    unfold BridgeSession.closeClient
    split_ifs with hclient
    · exact ⟨fun htoken => absurd rfl htoken, nofun, nofun⟩
    · refine ⟨h.token, ?_, nofun⟩
      intro other hother
      rcases h.opened other hother with hfalse | ⟨message', hpending⟩
      · exact .inl hfalse
      · refine .inr ⟨message', mem_rest queue ?_ hpending⟩
        intro hsame
        cases hsame
        exact hclient hother
  | connecting client =>
    have hrest := h.remove queue nofun nofun
    cases failure with
    | none => exact hrest.continueConnect (hrest.await _)
    | some code => exact hrest.connectFails code
  | configuring client =>
    have hrest := h.remove queue nofun nofun
    cases failure with
    | none =>
      dsimp only [BridgeSession.finish]
      apply hrest.continueConnect
      apply Linked.await
      exact hrest.publish nofun
    | some code => exact hrest.connectFails code
  | sendingHello client =>
    have hrest := h.remove queue nofun nofun
    unfold BridgeSession.finish
    split_ifs
    · exact hrest.connectFails none
    · exact hrest
  | dropping => exact h.remove queue nofun nofun
  | failing => exact (h.remove queue nofun nofun).scheduleReconnect false
  | acking client reason rest =>
    have hrest := h.remove queue nofun nofun
    cases failure with
    | none => exact hrest.stopAcked htimely
    | some code => exact hrest.await _
  | closing client rest => exact ((h.remove queue nofun nofun).scheduleReconnect false).await _
  | handling client rest => exact (h.remove queue nofun nofun).nextFrame htimely

theorem Linked.step (h : s.Linked) (hstep : BridgeSessionStep s input t) (htimely : s.Timely input) :
    t.Linked := by
  cases hstep with
  | connect => exact h.connect
  | disconnect => exact h.disconnect
  | resumeAutoReconnect =>
    unfold BridgeSession.resumeAutoReconnect
    split_ifs
    · exact h.scheduleReconnect true
    · apply Linked.scheduleReconnect
      exact ⟨h.token, h.opened, h.connected⟩
  | pauseAutoReconnect => exact ⟨h.token, h.opened, h.connected⟩
  | reconnect armed => exact Linked.connect ⟨h.token, h.opened, h.connected⟩
  | message client decoded => exact h.onMessage decoded
  | closed client => exact h.onClosed
  | failed client code => exact h.onSocketError code
  | finish failure queue => exact h.finish queue htimely

theorem reachable_linked (h : Reachable (Guarded BridgeSessionStep Timely) Fresh s) : s.Linked := by
  apply h.invariant
  · rintro s rfl
    exact ⟨fun htoken => absurd rfl htoken, nofun, nofun⟩
  · rintro s input t ⟨hstep, htimely⟩ hs
    exact hs.step hstep htimely

end
end BridgeSession

/-- If no HELLO_ACK is accepted without a client and no STOP_REQUEST of an old client goes on after a
new one is there: when nothing is pending, CONNECTED is shown and a token kept only with a client. -/
theorem connected_has_client (s : BridgeSession)
    (h : Reachable (Guarded BridgeSessionStep BridgeSession.Timely) BridgeSession.Fresh s)
    (hidle : s.tasks = []) : (s.current.state = .connected → s.client.isSome = true) ∧
      (s.currentSessionToken ≠ [] → s.client.isSome = true) := by
  have hs := BridgeSession.reachable_linked h
  refine ⟨?_, hs.token⟩
  intro hconnected
  rcases hs.connected hconnected with hsome | hpending | ⟨client, message, hpending⟩
  · exact hsome
  · rw [hidle] at hpending
    cases hpending
  · rw [hidle] at hpending
    cases hpending

def sampleAck : BridgeFrame :=
  .helloAck 1
    { selectedVersion := 1
      message := jsString "world"
      sessionToken := jsString "0123456789abcdef0123456789abcdef"
      capabilities := some [jsString "control"] }

/-- The first client has connected and sent its HELLO. -/
def greeted : BridgeSession where
  client := some 0
  constructed := 1
  current :=
    { state := .connecting
      title := jsString "已连接，等待 world"
      detail := .string (jsString "正在通过 USB 控制通道发送 HELLO") }

theorem greeted_reachable :
    Reachable (Guarded BridgeSessionStep BridgeSession.Timely) BridgeSession.Fresh greeted := by
  have hfirst : [BridgeTask.connecting 0] = [] ++ .connecting 0 :: [] := rfl
  have hsecond : [BridgeTask.configuring 0] = [] ++ .configuring 0 :: [] := rfl
  have hthird : [BridgeTask.sendingHello 0] = [] ++ .sendingHello 0 :: [] := rfl
  have hrun : Run (Guarded BridgeSessionStep BridgeSession.Timely) {} _ _ :=
    .cons ⟨.connect, trivial⟩ <| .cons ⟨.finish none hfirst, trivial⟩ <|
    .cons ⟨.finish none hsecond, trivial⟩ <| .single ⟨.finish none hthird, trivial⟩
  exact ⟨{}, _, rfl, hrun⟩

theorem connected_has_client_acknowledged :
    ∃ s, Reachable (Guarded BridgeSessionStep BridgeSession.Timely) BridgeSession.Fresh s ∧
      s.tasks = [] ∧ s.current.state = .connected ∧ s.client.isSome = true := by
  have hrest : [BridgeTask.handling 0 []] = [] ++ .handling 0 [] :: [] := rfl
  have hrun : Run (Guarded BridgeSessionStep BridgeSession.Timely) greeted _ _ :=
    .cons ⟨.message 0 (.ok [sampleAck]), trivial⟩ <|
    .single ⟨.finish none hrest, fun hack => by cases hack⟩
  have hreachable := greeted_reachable.run hrun
  exact ⟨_, hreachable, rfl, rfl, (connected_has_client _ hreachable rfl).1 rfl⟩

/-- A chunk with an ERROR and a HELLO_ACK; and a STOP_REQUEST whose STOP_ACK is sent when its client
has been replaced by one that is then acknowledged and closed. -/
theorem connected_without_client :
    (∃ s, Reachable BridgeSessionStep BridgeSession.Fresh s ∧ s.tasks = [] ∧ s.client = none ∧
      s.current.state = .connected ∧ s.currentSessionToken ≠ []) ∧
    ∃ s, Reachable BridgeSessionStep BridgeSession.Fresh s ∧ s.tasks = [] ∧ s.client = none ∧
      s.current.state = .connected ∧ s.currentSessionToken = [] := by
  have hgreeted : Reachable BridgeSessionStep BridgeSession.Fresh greeted :=
    greeted_reachable.mono fun _ _ _ hstep => hstep.1
  have hhead : ∀ (task : BridgeTask) (tasks : List BridgeTask), task :: tasks = [] ++ task :: tasks :=
    fun _ _ => rfl
  constructor
  · have hrun : Run BridgeSessionStep greeted _ _ :=
      .cons (.message 0 (.ok [.error (jsString "BUSY") .other, sampleAck])) <|
      .cons (.finish none (hhead (.closing 0 [sampleAck]) [])) <|
      .cons (.finish none (hhead (.handling 0 [sampleAck]) [])) <|
      .single (.finish none (hhead (.handling 0 []) []))
    exact ⟨_, hgreeted.run hrun, rfl, rfl, rfl, by decide⟩
  · have hrun : Run BridgeSessionStep greeted _ _ :=
      .cons (.message 0 (.ok [.stopRequest (some .other)])) <| .cons (.closed 0) <| .cons .connect <|
      .cons (.finish none (hhead (.connecting 1) [.acking 0 (some .other) []])) <|
      .cons (.finish none (hhead (.configuring 1) [.acking 0 (some .other) []])) <|
      .cons (.finish none (hhead (.sendingHello 1) [.acking 0 (some .other) []])) <|
      .cons (.finish none (hhead (.acking 0 (some .other) []) [])) <|
      .cons (.finish none (hhead (.closing 0 []) [])) <|
      .cons (.finish none (hhead (.handling 0 []) [])) <| .cons (.message 1 (.ok [sampleAck])) <|
      .cons (.finish none (hhead (.handling 1 []) [])) <| .single (.closed 1)
    exact ⟨_, hgreeted.run hrun, rfl, rfl, rfl, rfl⟩

end HarmonyNetBridge.Harmony
