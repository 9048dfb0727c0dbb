import HarmonyNetBridge.Transition.SharedStore
import HarmonyNetBridge.Daemon.Effect

/-! Several daemons with the same `Paths`. A daemon takes the control socket as its sign of being
the only one: it judges the socket it finds in one step and removes it in a later one. -/
namespace HarmonyNetBridge.Daemon
open Transition

/-- How far a daemon has got with the control socket. After `cleaning`, in which it still removes
the path by name, it leaves the path alone. -/
inductive Stage where
  | looking | probing | judged | bound | cleaning | retired
  deriving DecidableEq, Repr

def Main.stage : Main → Stage
  | ensuringPaths | listeningDevice | inspecting | binding => .looking
  | probing => .probing
  | removingStale => .judged
  | removingUnprotected | closingDeviceUnpersisted | removingUnpersisted | closingProxy _
  | publishingProxyFailure | failingProxy | checkingProxy | publishingProxyOff | removingMapping
  | failingMapping | removingSocket => .cleaning
  | closingDeviceUnbound | checkingFailure | removingState | finished | exited => .retired
  | _ => .bound

/-- What a step of the daemon `pid` can do to its stage, to the control path and to the open
listeners. -/
inductive SocketEffect (pid : ℕ) (a : Stage) (f : Files) : Stage → Files → Prop
  | keep {b : Stage} {g : Files} (stage : b = a ∨ (a ≠ .bound ∧ a ≠ .cleaning ∧ b = .retired))
      (control : g.control = f.control) (listening : g.listening = f.listening) :
      SocketEffect pid a f b g
  | look {owner : ℕ} (stage : a = .looking) (found : f.control = .socket owner) :
      SocketEffect pid a f .probing f
  | judge (stage : a = .probing) (possible : f.stale = true ∨ f.control = .absent) :
      SocketEffect pid a f .judged f
  | clear (stage : a = .judged) : SocketEffect pid a f .looking f.removeControl
  | bind (stage : a = .looking) (free : f.control = .absent) :
      SocketEffect pid a f .bound (f.bind pid)
  | close (stage : a = .bound) : SocketEffect pid a f .cleaning (f.closeListener pid)
  | remove (stage : a = .cleaning) : SocketEffect pid a f .retired f.removeControl

@[simp] theorem Files.writeState_control (f : Files) (pid : ℕ) (x : Snapshot) :
    (f.writeState pid x).control = f.control := by
  unfold Files.writeState
  split <;> rfl

@[simp] theorem Files.writeState_listening (f : Files) (pid : ℕ) (x : Snapshot) :
    (f.writeState pid x).listening = f.listening := by
  unfold Files.writeState
  split <;> rfl

/-- The goroutines beside `Run` touch no file but the state file, by writing it. -/
def WritesOnly (s t : State) : Prop :=
  t.pid = s.pid ∧ t.main = s.main ∧
    (t.files = s.files ∨ ∃ x, t.files = s.files.writeState s.pid x)

variable {s t : State}

theorem DeviceStep.writesOnly {c : Conn} {e : DeviceEvent} (h : DeviceStep c s e t) :
    WritesOnly s t := by
  refine ⟨?_, h.main, ?_⟩
  · cases h with
    | publishRelayStats pc stats =>
      simp only [State.goto_pid, publishFinalStats]
      split <;> rfl
    | _ => rfl
  · cases h with
    | publishAccepted | publishHeartbeat | publishStatus | publishControlLoss | attachRelay
    | publishDataHeartbeat | publishDataLoss => exact .inr ⟨_, rfl⟩
    | publishRelayStats pc stats =>
      simp only [State.goto_files, publishFinalStats]
      split
      · exact .inr ⟨_, rfl⟩
      · exact .inl rfl
    | _ => exact .inl rfl

theorem MonitorStep.writesOnly {e : MonitorEvent} (h : MonitorStep s e t) : WritesOnly s t := by
  cases h with
  | publish => exact ⟨rfl, rfl, .inr ⟨_, rfl⟩⟩
  | _ => exact ⟨rfl, rfl, .inl rfl⟩

theorem RequestStep.writesOnly {i : ℕ} {e : RequestEvent} (h : RequestStep i s e t) :
    WritesOnly s t := by
  cases h with
  | publishStats | publishStop => exact ⟨rfl, rfl, .inr ⟨_, rfl⟩⟩
  | _ => exact ⟨rfl, rfl, .inl rfl⟩

theorem WritesOnly.socket (h : WritesOnly s t) :
    SocketEffect s.pid s.main.stage s.files t.main.stage t.files := by
  obtain ⟨-, hmain, hfiles | ⟨x, hfiles⟩⟩ := h
  · exact .keep (.inl (by rw [hmain])) (by rw [hfiles]) (by rw [hfiles])
  · exact .keep (.inl (by rw [hmain])) (by simp [hfiles]) (by simp [hfiles])

theorem MainStep.pid {e : MainEvent} (h : MainStep s e t) : t.pid = s.pid := by
  cases h <;> rfl

theorem MainStep.socket {s t : State} {e : MainEvent} (h : MainStep s e t) :
    SocketEffect s.pid s.main.stage s.files t.main.stage t.files := by
  cases h with
  | lstat pc ok =>
    rw [pc]
    cases ok with
    | false => exact .keep (.inr ⟨by simp [Main.stage], by simp [Main.stage], rfl⟩) rfl rfl
    | true =>
      simp only [State.withMain_main, ↓reduceIte, State.withMain_files]
      cases hfound : s.files.control with
      | absent => exact .keep (.inl rfl) rfl rfl
      | file => exact .keep (.inr ⟨by simp [Main.stage], by simp [Main.stage], rfl⟩) rfl rfl
      | socket owner => exact .look rfl hfound
  | probe pc result possible =>
    rw [pc]
    cases result with
    | accepted | failed =>
      exact .keep (.inr ⟨by simp [Main.stage], by simp [Main.stage], rfl⟩) rfl rfl
    | refused => exact .judge rfl (.inl possible)
    | absent => exact .judge rfl (.inr (by simpa [Files.probes] using possible))
  | removeStale pc found => rw [pc]; exact .clear rfl
  | bind pc free => rw [pc]; exact .bind rfl free
  | closeUnprotected pc | closeUnpersisted pc | closeControlListener pc => rw [pc]; exact .close rfl
  | removeUnprotected pc | removeUnpersisted pc | removeSocket pc =>
    rw [pc]; exact .remove rfl
  | ensurePaths pc ok | chmod pc ok | recoverProxy pc _ ok | closeProxy pc _ ok
  | removeMapping pc _ ok =>
    rw [pc]
    cases ok <;>
      first
        | exact .keep (.inl rfl) rfl rfl
        | exact .keep (.inr ⟨by simp [Main.stage], by simp [Main.stage], rfl⟩) rfl rfl
  | serveError pc | proxyDone pc _ =>
    rw [pc]
    refine .keep (.inl ?_) rfl rfl
    simp only [State.withMain_main, unlessStopping]
    split <;> rfl
  | checkProxy pc | checkFailure pc =>
    rw [pc]
    refine .keep (.inl ?_) rfl rfl
    simp only [State.withMain_main]
    split <;> rfl
  | persist pc _ | publishRecoveryFailure pc | publishStartFailure pc | publishProxy pc
  | publishRunning pc | publishProxyExit pc | fail pc | publishStopping pc
  | publishProxyFailure pc | failProxy pc | publishProxyOff pc | failMapping pc =>
    rw [pc]
    exact .keep (.inl rfl) (by simp) (by simp)
  | _ pc =>
    rw [pc]
    first
      | exact .keep (.inl rfl) rfl rfl
      | exact .keep (.inr ⟨by simp [Main.stage], by simp [Main.stage], rfl⟩) rfl rfl

theorem Step.socket {l : Label} (h : Step s l t) :
    t.pid = s.pid ∧ SocketEffect s.pid s.main.stage s.files t.main.stage t.files := by
  cases h with
  | device _ h => exact ⟨h.writesOnly.1, h.writesOnly.socket⟩
  | monitor _ h => exact ⟨h.writesOnly.1, h.writesOnly.socket⟩
  | request _ h => exact ⟨h.writesOnly.1, h.writesOnly.socket⟩
  | main h => exact ⟨h.pid, h.socket⟩
  | surroundings e => cases e <;> exact ⟨rfl, .keep (.inl rfl) rfl rfl⟩

end HarmonyNetBridge.Daemon
