import HarmonyNetBridge.Proxy.SniffingConn

/-! The calls of `Write` on one connection, one after another: which of them calls `establish` and for
which target, and where the bytes are after each of them. -/
namespace HarmonyNetBridge.Proxy
open Bytes List

section
variable (u : Unicode) (ipv6 : List UInt8 → Bool) (readRequest : List UInt8 → Option (List UInt8))

/-- The target that `Write` gives to `establish` when `pending` is held back and `payload` comes to
it; `none` if the payload is held back as well. -/
def decision (destination : List UInt8) (port : ℕ) (pending payload : List UInt8) :
    Option (List UInt8) :=
  if payload.length + pending.length > maxInitialClientBytes then some destination
  else if (sniffHostname u ipv6 readRequest (pending ++ payload) port).2 = .needMore then none
  else some (connectTarget u ipv6 readRequest destination (pending ++ payload) port)

namespace SniffingConn

def Settled (c : SniffingConn) : Prop :=
  c.connection.isSome = true ∨ c.closed = true ∨ c.initErr.isSome = true

instance (c : SniffingConn) : Decidable c.Settled := inferInstanceAs (Decidable (_ ∨ _ ∨ _))

/-- The target for which a call of `Write` calls `establish`, if it does. -/
def establishes (c : SniffingConn) (payload : List UInt8) : Option (List UInt8) :=
  if c.Settled then none
  else decision u ipv6 readRequest c.destination c.destinationPort c.pending payload

/-- What the calls return, and the connection after them. -/
def writes (c : SniffingConn) :
    List (Outside × List UInt8) → List (ℕ × Option String) × SniffingConn
  | [] => ([], c)
  | (out, payload) :: calls =>
    let (result, d) := c.write u ipv6 readRequest out payload
    let (results, e) := d.writes calls
    (result :: results, e)

/-- The targets for which the calls have called `establish`. -/
def targets (c : SniffingConn) : List (Outside × List UInt8) → List (List UInt8)
  | [] => []
  | (out, payload) :: calls =>
    (c.establishes u ipv6 readRequest payload).toList ++
      targets (c.write u ipv6 readRequest out payload).2 calls

end SniffingConn

/-- The decision on payloads that come one after another. -/
def firstDecision (destination : List UInt8) (port : ℕ) :
    List UInt8 → List (List UInt8) → Option (List UInt8)
  | _, [] => none
  | pending, payload :: payloads =>
    (decision u ipv6 readRequest destination port pending payload).or
      (firstDecision destination port (pending ++ payload) payloads)

end

section
variable {u : Unicode} {ipv6 : List UInt8 → Bool} {readRequest : List UInt8 → Option (List UInt8)}
  {c : SniffingConn} {out : Outside} {payload target : List UInt8}

theorem writeAllConnection_target (outcome : ℕ → ℕ × Option String) (t : Tunnel) (total call : ℕ)
    (payload : List UInt8) :
    (writeAllConnection outcome t total call payload).2.target = t.target := by
  fun_induction writeAllConnection outcome t total call payload with
  | case1 => rfl
  | case2 t total call payload hne written err t' hwrite =>
    exact congrArg (fun r => r.2.target) hwrite.symm
  | case3 t total call payload hne t' hwrite => exact congrArg (fun r => r.2.target) hwrite.symm
  | case4 t total call payload hne written t' hwrite hpos ih =>
    exact ih.trans (congrArg (fun r => r.2.target) hwrite.symm)

namespace SniffingConn

theorem not_settled_iff :
    ¬c.Settled ↔ c.connection = none ∧ c.closed = false ∧ c.initErr = none := by
  simp [Settled]

theorem establish_of_open (connectError : Option String) (hopen : c.closed = false) :
    c.establish connectError target =
      match connectError with
      | some err => (.error err, { c with initErr := some err })
      | none => (.ok { target }, { c with connection := some { target } }) := by
  unfold establish
  rw [hopen]
  rfl

/-- A call that decides makes a tunnel to the target or leaves the error of `establish`. -/
theorem write_decides (out : Outside) (h : c.establishes u ipv6 readRequest payload = some target) :
    ∃ t : Tunnel, t.target = target ∧ (c.write u ipv6 readRequest out payload).2 =
      match out.connectError with
      | some err => { c with pending := [], initErr := some err }
      | none => { c with pending := [], connection := some t } := by
  unfold establishes at h
  split_ifs at h with hsettled
  obtain ⟨hconn, hopen, herr⟩ := not_settled_iff.mp hsettled
  unfold decision at h
  unfold write
  simp only [hconn]
  rw [if_neg (by simp [hopen, herr])]
  split_ifs at h with hlong hmore
  · cases h
    rw [if_pos hlong, establish_of_open _ (by exact hopen)]
    cases hout : out.connectError with
    | some err => exact ⟨{ target := c.destination }, rfl, rfl⟩
    | none =>
      dsimp only
      have htarget := writeAllConnection_target out.outcome { target := c.destination } 0 0 c.pending
      generalize writeAllConnection out.outcome { target := c.destination } 0 0 c.pending = sent
        at htarget ⊢
      obtain ⟨⟨n, _ | err⟩, t⟩ := sent
      · exact ⟨(t.write (out.outcome c.pending.length) payload).2, htarget, rfl⟩
      · exact ⟨t, htarget, rfl⟩
  · cases h
    rw [if_neg hlong, if_neg hmore, establish_of_open _ (by exact hopen)]
    cases hout : out.connectError with
    | some err => exact ⟨{ target := _ }, rfl, rfl⟩
    | none => exact ⟨_, writeAllConnection_target _ _ _ _ _, rfl⟩

theorem write_waits (hc : ¬c.Settled) (h : c.establishes u ipv6 readRequest payload = none) :
    c.write u ipv6 readRequest out payload =
      ((payload.length, none), { c with pending := c.pending ++ payload }) := by
  obtain ⟨hconn, hopen, herr⟩ := not_settled_iff.mp hc
  unfold establishes at h
  rw [if_neg hc] at h
  unfold decision at h
  split_ifs at h with hlong hmore
  unfold write
  simp only [hconn]
  rw [if_neg (by simp [hopen, herr]), if_neg hlong, if_pos hmore]

theorem write_settled (hc : c.Settled) : (c.write u ipv6 readRequest out payload).2.Settled := by
  unfold write
  cases hconn : c.connection with
  | some t => exact .inl rfl
  | none =>
    have hrefused : c.closed = true ∨ c.initErr.isSome = true := by
      simpa [Settled, hconn] using hc
    dsimp only
    rw [if_pos hrefused]
    exact hc

theorem targets_settled (hc : c.Settled) (calls : List (Outside × List UInt8)) :
    c.targets u ipv6 readRequest calls = [] := by
  induction calls generalizing c with
  | nil => rfl
  | cons call calls ih =>
    rw [targets, establishes, if_pos hc, ih (write_settled hc)]
    rfl

/-- There is one call of `establish` at most, for the first decision. -/
theorem targets_eq (hc : ¬c.Settled) (calls : List (Outside × List UInt8)) :
    c.targets u ipv6 readRequest calls =
      (firstDecision u ipv6 readRequest c.destination c.destinationPort c.pending
        (calls.map Prod.snd)).toList := by
  induction calls generalizing c with
  | nil => rfl
  | cons call calls ih =>
    obtain ⟨out, payload⟩ := call
    have hdecision : c.establishes u ipv6 readRequest payload =
        decision u ipv6 readRequest c.destination c.destinationPort c.pending payload := if_neg hc
    rw [targets, map_cons, firstDecision, ← hdecision]
    cases hestablishes : c.establishes u ipv6 readRequest payload with
    | none =>
      have hnext : ¬{ c with pending := c.pending ++ payload }.Settled := hc
      rw [write_waits hc hestablishes, ih hnext]
      rfl
    | some target =>
      have hsettled : (c.write u ipv6 readRequest out payload).2.Settled := by
        obtain ⟨t, -, hafter⟩ := write_decides out hestablishes
        rw [hafter]
        cases out.connectError with
        | none => exact .inl rfl
        | some err => exact .inr (.inr rfl)
      rw [targets_settled hsettled]
      rfl

end SniffingConn

/-- The tunnel is opened, and every write of up to `size` bytes takes them all. -/
def Outside.Succeeds (out : Outside) (size : ℕ) : Prop :=
  out.connectError = none ∧ ∀ call, size ≤ (out.outcome call).1 ∧ (out.outcome call).2 = none

theorem Outside.Succeeds.mono {m n : ℕ} (h : out.Succeeds n) (hle : m ≤ n) : out.Succeeds m :=
  ⟨h.1, fun call => ⟨hle.trans (h.2 call).1, (h.2 call).2⟩⟩

theorem Tunnel.write_whole {t : Tunnel} {outcome : ℕ × Option String}
    (h : payload.length ≤ outcome.1 ∧ outcome.2 = none) : t.write outcome payload =
      ((payload.length, none), { t with received := t.received ++ payload }) := by
  simp [Tunnel.write, Nat.min_eq_right h.1, h.2]

theorem write_succeeds (hopen : c.closed = false) (herr : c.initErr = none)
    (hout : out.Succeeds (c.pending.length + payload.length)) :
    (c.write u ipv6 readRequest out payload).1 = (payload.length, none) := by
  have hpending := (hout.mono (Nat.le_add_right _ _)).2
  have hpayload := (hout.mono (Nat.le_add_left _ _)).2
  unfold SniffingConn.write
  cases hconn : c.connection with
  | some t =>
    dsimp only
    rw [Tunnel.write_whole (hpayload 0)]
  | none =>
    dsimp only
    rw [if_neg (by simp [hopen, herr])]
    split
    · rw [SniffingConn.establish_of_open _ (by exact hopen), hout.1]
      dsimp only
      rw [writeAllConnection_whole hpending]
      dsimp only
      rw [Tunnel.write_whole (hpayload _)]
    · split
      · rfl
      · have hall : ∀ call, (c.pending ++ payload).length ≤ (out.outcome call).1 ∧
            (out.outcome call).2 = none := by
          intro call
          rw [length_append]
          exact hout.2 call
        rw [SniffingConn.establish_of_open _ (by exact hopen), hout.1]
        dsimp only
        rw [writeAllConnection_whole hall]
        simp

/-- Where the bytes of a connection are that has accepted `sent`. -/
structure SniffingConn.Keeps (c : SniffingConn) (sent : List UInt8) : Prop where
  opened : c.closed = false ∧ c.initErr = none
  bytes : c.delivered ++ c.pending = sent
  bound : c.pending.length ≤ maxInitialClientBytes
  flushed : c.connection.isSome = true → c.pending = []

variable (u ipv6 readRequest)

theorem SniffingConn.Keeps.write {sent : List UInt8} (hc : c.Keeps sent)
    (hout : out.Succeeds (sent.length + payload.length)) :
    (c.write u ipv6 readRequest out payload).1 = (payload.length, none) ∧
      (c.write u ipv6 readRequest out payload).2.Keeps (sent ++ payload) := by
  have hpending : c.pending.length ≤ sent.length := by
    rw [← hc.bytes, length_append]
    omega
  have hresult : (c.write u ipv6 readRequest out payload).1 = (payload.length, none) :=
    write_succeeds hc.opened.1 hc.opened.2
      (hout.mono (Nat.add_le_add_right hpending payload.length))
  refine ⟨hresult, ?_⟩
  have hacc : AcceptedWrite u ipv6 readRequest c payload
      (c.write u ipv6 readRequest out payload).2 := ⟨out, Prod.ext hresult rfl⟩
  rw [← hc.bytes]
  rcases acceptedWrite_cases hacc with ⟨t, hconn, hd⟩ | ⟨hconn, hwaiting, hd⟩ |
    ⟨hconn, -, target, hd⟩
  · have hempty := hc.flushed (by rw [hconn]; rfl)
    rw [hd]
    refine ⟨hc.opened, ?_, hc.bound, fun _ => hempty⟩
    simp [SniffingConn.delivered, hconn, hempty]
  · rw [hd]
    refine ⟨hc.opened, ?_, hwaiting.1, fun hsome => ?_⟩
    · simp [SniffingConn.delivered, hconn]
    · rw [hconn] at hsome
      cases hsome
  · rw [hd]
    refine ⟨hc.opened, ?_, Nat.zero_le _, fun _ => rfl⟩
    simp [SniffingConn.delivered, hconn]

theorem SniffingConn.Keeps.writes {sent : List UInt8} (hc : c.Keeps sent)
    (calls : List (Outside × List UInt8))
    (h : ∀ call ∈ calls, call.1.Succeeds (sent.length + (calls.flatMap Prod.snd).length)) :
    (c.writes u ipv6 readRequest calls).1 = calls.map (fun call => (call.2.length, none)) ∧
      (c.writes u ipv6 readRequest calls).2.Keeps (sent ++ calls.flatMap Prod.snd) := by
  induction calls generalizing c sent with
  | nil =>
    rw [flatMap_nil, append_nil]
    exact ⟨rfl, hc⟩
  | cons call calls ih =>
    obtain ⟨out, payload⟩ := call
    rw [flatMap_cons, length_append] at h
    obtain ⟨hresult, hnext⟩ := hc.write u ipv6 readRequest
      ((h _ mem_cons_self).mono (Nat.add_le_add_left (Nat.le_add_right _ _) _))
    obtain ⟨hresults, hlast⟩ := ih hnext (fun call hcall => by
      rw [length_append, Nat.add_assoc]
      exact h call (mem_cons_of_mem _ hcall))
    rw [flatMap_cons, ← append_assoc]
    exact ⟨congrArg₂ List.cons hresult hresults, hlast⟩

end

/-- After any calls of `Write` on a network that takes every write, what has gone into the tunnel and
what is held back are the payloads of the calls, each of which has returned its length. -/
theorem writes_keep_stream (u : Unicode) (ipv6 : List UInt8 → Bool)
    (readRequest : List UInt8 → Option (List UInt8)) (destination : List UInt8) (port : ℕ)
    (calls : List (Outside × List UInt8))
    (h : ∀ call ∈ calls, call.1.Succeeds (calls.flatMap Prod.snd).length) :
    let after := SniffingConn.writes u ipv6 readRequest { destination, destinationPort := port } calls
    after.1 = calls.map (fun call => (call.2.length, none)) ∧
      after.2.delivered ++ after.2.pending = calls.flatMap Prod.snd ∧
      after.2.pending.length ≤ 64 * 1024 ∧
      (after.2.connection.isSome = true → after.2.pending = []) := by
  have hfresh : SniffingConn.Keeps { destination, destinationPort := port } [] :=
    ⟨⟨rfl, rfl⟩, rfl, Nat.zero_le _, nofun⟩
  obtain ⟨hresults, hkeeps⟩ := hfresh.writes u ipv6 readRequest calls (by simpa using h)
  exact ⟨hresults, hkeeps.bytes, hkeeps.bound, hkeeps.flushed⟩

/-- A request in two calls: the first is held back. -/
theorem writes_keep_stream_request :
    let after := SniffingConn.writes ⟨id, id⟩ (fun _ => false) (fun _ => some []) freshConn
      [(steady, ascii "GET / HTTP/1.1\r\n"), (steady, ascii "\r\n")]
    after.1 = [(16, none), (2, none)] ∧
      after.2.delivered ++ after.2.pending = ascii "GET / HTTP/1.1\r\n\r\n" := by
  have hkeep := writes_keep_stream ⟨id, id⟩ (fun _ => false) (fun _ => some []) freshConn.destination 80
    [(steady, ascii "GET / HTTP/1.1\r\n"), (steady, ascii "\r\n")] (by
      intro call hcall
      simp only [mem_cons, not_mem_nil, or_false] at hcall
      have hfits : 18 ≤ maxInitialClientBytes := by decide
      rcases hcall with rfl | rfl <;> exact ⟨rfl, fun _ => ⟨hfits, rfl⟩⟩)
  exact ⟨hkeep.1, hkeep.2.1⟩

end HarmonyNetBridge.Proxy
