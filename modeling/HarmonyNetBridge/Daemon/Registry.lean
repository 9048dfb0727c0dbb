import Mathlib.Tactic.Simps.Basic
import HarmonyNetBridge.Protocol.Session

/-! The session fields of `Server` that `s.mu` guards, and the critical sections of the
device handlers and of `shutdown` on them. A section either changes the fields as a whole
or, where the source unlocks and gives up, returns `none`. -/
namespace HarmonyNetBridge.Daemon

abbrev Conn := ℕ

abbrev RelayId := ℕ

/-- A frame writer and a stop-acknowledgement channel are identified by the connection they
were made for. `controlMode = none` is the empty string of the source. -/
structure Registry where
  controlConnection : Option Conn := none
  controlWriter : Option Conn := none
  controlMode : Option Mode := none
  controlToken : String := ""
  controlStopAck : Option Conn := none
  dataConnection : Option Conn := none
  dataWriter : Option Conn := none
  dataRelay : Option RelayId := none
  reconnectPending : Bool := false
  stopping : Bool := false
  deriving DecidableEq, Repr

/-- What `releaseControl` keeps in local variables after its section. -/
structure ControlRelease where
  mode : Option Mode
  data : Option Conn
  relay : Option RelayId
  stopping : Bool
  deriving DecidableEq, Repr

/-- What `releaseData` keeps in local variables after its section. -/
structure DataRelease where
  relay : Option RelayId
  controlConnected : Bool
  stopping : Bool
  deriving DecidableEq, Repr

namespace Registry

@[simps] def withControl (r : Registry) (connection : Conn) (mode : Mode) (token : String) :
    Registry :=
  { r with
    controlConnection := some connection
    controlWriter := some connection
    controlMode := some mode
    controlToken := token
    reconnectPending := if mode = .vpn then false else r.reconnectPending
    controlStopAck := some connection }

/-- The section of `handleControlConnection`. The Boolean is `isReconnect`. -/
def registerControl (r : Registry) (connection : Conn) (mode : Mode) (token : String) :
    Option (Registry × Bool) :=
  if r.controlConnection ≠ none ∨ r.stopping = true then none
  else some (r.withControl connection mode token, mode == .vpn && r.reconnectPending)

@[simps] def withData (r : Registry) (connection : Conn) : Registry :=
  { r with dataConnection := some connection, dataWriter := some connection }

/-- The first section of `handleDataConnection`. -/
def bindData (r : Registry) (connection : Conn) (token : String) : Option Registry :=
  if r.stopping = true ∨ r.controlConnection = none ∨ r.controlMode ≠ some .vpn ∨
      r.controlToken ≠ token ∨ r.dataConnection ≠ none then none
  else some (r.withData connection)

@[simps] def withRelay (r : Registry) (relay : RelayId) : Registry :=
  { r with dataRelay := some relay }

/-- The second section of `handleDataConnection`, without the publication it makes before it
unlocks. -/
def attachRelay (r : Registry) (connection : Conn) (relay : RelayId) : Option Registry :=
  if r.dataConnection ≠ some connection ∨ r.controlConnection = none ∨ r.stopping = true then none
  else some (r.withRelay relay)

/-- `dataWriter` stays as it is. -/
@[simps] def withoutControl (r : Registry) (previous : VPNStatus) : Registry :=
  { r with
    controlConnection := none
    controlWriter := none
    controlMode := none
    controlToken := ""
    controlStopAck := none
    dataConnection := none
    dataRelay := none
    reconnectPending := if r.controlMode = some .vpn ∧ r.stopping = false ∧ previous ≠ .stopped
      then true else r.reconnectPending }

/-- The section of `releaseControl`; `previous` is the VPN status read before it. -/
def releaseControl (r : Registry) (connection : Conn) (previous : VPNStatus) :
    Option (Registry × ControlRelease) :=
  if r.controlConnection ≠ some connection then none
  else some (r.withoutControl previous,
    ⟨r.controlMode, r.dataConnection, r.dataRelay, r.stopping⟩)

@[simps] def withoutData (r : Registry) : Registry :=
  { r with dataConnection := none, dataWriter := none, dataRelay := none }

def releaseData (r : Registry) (connection : Conn) : Option (Registry × DataRelease) :=
  if r.dataConnection ≠ some connection then none
  else some (r.withoutData,
    ⟨r.dataRelay, r.controlConnection.isSome && r.controlMode == some .vpn, r.stopping⟩)

/-- What the first section of `shutdown` leaves behind. -/
@[simps] def cleared (r : Registry) : Registry :=
  { r with
    stopping := true
    controlConnection := none
    controlWriter := none
    controlMode := none
    controlToken := ""
    controlStopAck := none
    dataConnection := none
    dataWriter := none
    dataRelay := none }

/-- The section of `applyVPNStatus`: whether the connection is the registered VPN control
connection, and whether a data connection is registered. -/
def statusContext (r : Registry) (connection : Conn) : Bool × Bool :=
  (r.controlConnection == some connection && r.controlMode == some .vpn, r.dataConnection.isSome)

/-- `validControlAuthorization`; the section reads the token and the connection. -/
def validControlAuthorization (r : Registry) (authorization : String) : Bool :=
  match bearerToken authorization with
  | none => false
  | some token =>
    validSessionToken token && r.controlConnection.isSome && token == r.controlToken

variable {r r' : Registry} {c : Conn} {token authorization : String}

theorem registerControl_eq_some {mode : Mode} {isReconnect : Bool}
    (h : r.registerControl c mode token = some (r', isReconnect)) :
    r.controlConnection = none ∧ r.stopping = false ∧ r' = r.withControl c mode token ∧
      isReconnect = (mode == .vpn && r.reconnectPending) := by
  unfold registerControl at h
  split at h
  · cases h
  next hn =>
    simp only [not_or, ne_eq, not_not, Bool.not_eq_true] at hn
    simp only [Option.some.injEq, Prod.mk.injEq] at h
    exact ⟨hn.1, hn.2, h.1.symm, h.2.symm⟩

theorem bindData_eq_some (h : r.bindData c token = some r') :
    r.stopping = false ∧ r.controlConnection ≠ none ∧ r.controlMode = some .vpn ∧
      r.controlToken = token ∧ r.dataConnection = none ∧ r' = r.withData c := by
  unfold bindData at h
  split at h
  · cases h
  next hn =>
    simp only [not_or, ne_eq, not_not, Bool.not_eq_true] at hn
    obtain ⟨h₁, h₂, h₃, h₄, h₅⟩ := hn
    exact ⟨h₁, h₂, h₃, h₄, h₅, (Option.some.inj h).symm⟩

theorem attachRelay_eq_some {relay : RelayId} (h : r.attachRelay c relay = some r') :
    r.dataConnection = some c ∧ r.controlConnection ≠ none ∧ r.stopping = false ∧
      r' = r.withRelay relay := by
  unfold attachRelay at h
  split at h
  · cases h
  next hn =>
    simp only [not_or, ne_eq, not_not, Bool.not_eq_true] at hn
    exact ⟨hn.1, hn.2.1, hn.2.2, (Option.some.inj h).symm⟩

theorem attachRelay_eq_none {relay : RelayId} (h : r.attachRelay c relay = none) :
    r.dataConnection ≠ some c ∨ r.controlConnection = none ∨ r.stopping = true := by
  unfold attachRelay at h
  split at h
  next hn => exact hn
  · cases h

theorem releaseControl_eq_some {previous : VPNStatus} {release : ControlRelease}
    (h : r.releaseControl c previous = some (r', release)) :
    r.controlConnection = some c ∧ r' = r.withoutControl previous ∧
      release = ⟨r.controlMode, r.dataConnection, r.dataRelay, r.stopping⟩ := by
  unfold releaseControl at h
  split at h
  · cases h
  next hn =>
    simp only [Option.some.injEq, Prod.mk.injEq] at h
    exact ⟨not_not.mp hn, h.1.symm, h.2.symm⟩

theorem releaseControl_eq_none {previous : VPNStatus} (h : r.releaseControl c previous = none) :
    r.controlConnection ≠ some c := by
  unfold releaseControl at h
  split at h
  next hn => exact hn
  · cases h

theorem releaseData_eq_some {release : DataRelease} (h : r.releaseData c = some (r', release)) :
    r.dataConnection = some c ∧ r' = r.withoutData ∧
      release = ⟨r.dataRelay, r.controlConnection.isSome && r.controlMode == some .vpn,
        r.stopping⟩ := by
  unfold releaseData at h
  split at h
  · cases h
  next hn =>
    simp only [Option.some.injEq, Prod.mk.injEq] at h
    exact ⟨not_not.mp hn, h.1.symm, h.2.symm⟩

theorem releaseData_eq_none (h : r.releaseData c = none) : r.dataConnection ≠ some c := by
  unfold releaseData at h
  split at h
  next hn => exact hn
  · cases h

/-- A header passes only if it carries the token of a session that is registered now. -/
theorem validControlAuthorization_current (h : r.validControlAuthorization authorization = true) :
    r.controlConnection ≠ none ∧ bearerToken authorization = some r.controlToken := by
  unfold validControlAuthorization at h
  split at h
  · cases h
  next token ht =>
    simp only [Bool.and_eq_true, beq_iff_eq] at h
    obtain ⟨⟨-, hc⟩, rfl⟩ := h
    exact ⟨Option.isSome_iff_ne_none.mp hc, ht⟩

end Registry
end HarmonyNetBridge.Daemon
