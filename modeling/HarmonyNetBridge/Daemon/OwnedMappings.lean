import HarmonyNetBridge.Daemon.MappingCalls
import HarmonyNetBridge.Daemon.Publications

/-! Which mappings a daemon removes. A run removes the mapping it has added and the one it finds
recorded, so the record that one run leaves has to name a mapping that was added. -/
namespace HarmonyNetBridge.Daemon
open Transition

/-- A snapshot of this run names its device, and no host port but that of an added mapping. -/
structure Claimed (s : State) (x : Snapshot) : Prop where
  device : x.device = s.config.deviceLabel
  devicePort : x.devicePort = s.config.devicePort
  added : x.hostPort = 0 ∨
    .addReverse s.config.deviceID ⟨x.devicePort, x.hostPort⟩ true ∈ s.calls

theorem Claimed.next {s t : State} {l : Label} {x y : Snapshot} (h : Claimed s x)
    (hstep : Step s l t) (hports : ports y = ports x) : Claimed t y := by
  obtain ⟨hdevice, hport, hhost⟩ : y.device = x.device ∧ y.devicePort = x.devicePort ∧
      y.hostPort = x.hostPort := by simpa [ports] using hports
  refine ⟨?_, ?_, ?_⟩
  · rw [hdevice, h.device, hstep.config]
  · rw [hport, h.devicePort, hstep.config]
  · rw [hport, hhost, hstep.config]
    exact h.added.imp id fun hadded => hstep.calls hadded

theorem initialSnapshot_ports (config : Config) (previous : Option Snapshot) :
    ports (initialSnapshot config previous) = (config.deviceLabel, config.devicePort, 0) := by
  simp only [initialSnapshot]
  repeat' split
  all_goals rfl

/-- `Run` has not opened the device listener, or will not go on. -/
def Main.portless : Main → Bool
  | ensuringPaths | listeningDevice | finished | exited => true
  | _ => false

/-- What a run that found the record `found` has in its store, in the state file, and in what it
remembers of the record. -/
structure Provenance (found : Option StateRecord) (s : State) : Prop where
  store : Claimed s s.snapshot
  file : ∀ record, s.files.stateFile = some record → found = some record ∨ Claimed s record.snapshot
  previous : ∀ x, s.previous = some x →
    (∃ record, found = some record ∧ record.snapshot = x) ∨ x.hostPort = 0
  port : s.main.portless = true ∨ s.mapping.devicePort = s.config.devicePort

theorem CallsInOrder.calls_reading {s : State} (h : CallsInOrder s) (pc : s.main = .reading) :
    s.calls = [] := by
  obtain ⟨d, -, hl⟩ := h
  cases hl with
  | fresh _ calls => exact calls
  | cleared _ place => simp [pc] at place
  | refused _ place => simp [pc, Main.ending] at place
  | added _ place =>
    rw [pc] at place
    exact place.elim
  | removed place => simp [pc, Main.phase] at place

theorem CallsInOrder.added_publishing {s : State} (h : CallsInOrder s)
    (pc : s.main = .publishingRunning) :
    .addReverse s.config.deviceID s.mapping true ∈ s.calls := by
  obtain ⟨d, hd, hl⟩ := h
  have hshape := Shape.of_ledger hd
  generalize s.calls = calls at hshape ⊢
  cases hl with
  | fresh _ _ place => simp [pc, Main.phase] at place
  | cleared _ place => simp [pc] at place
  | refused _ place => simp [pc, Main.ending] at place
  | added =>
    cases hshape
    simp
  | removed place => simp [pc, Main.phase] at place

theorem MainStep.portless {s t : State} {e : MainEvent} (h : MainStep s e t)
    (ht : t.main.portless = false) :
    t.mapping.devicePort = t.config.devicePort ∨ (s.main.portless = false ∧ t.mapping = s.mapping) := by
  cases h with
  | listenDevice pc port => exact .inl rfl
  | ensurePaths pc ok => cases ok <;> cases ht
  | notListening pc | exit pc => cases ht
  | _ pc => exact .inr ⟨by rw [pc]; rfl, rfl⟩

namespace Provenance
variable {found : Option StateRecord} {s t : State} {l : Label}

theorem write (hs : Provenance found s) (hstep : Step s l t) (hrecorded : Recorded s t)
    (hstore : Claimed t t.snapshot) :
    ∀ record, t.files.stateFile = some record → found = some record ∨ Claimed t record.snapshot := by
  intro record hrecord
  rcases hrecorded.stateFile with hkept | hnew
  · exact (hs.file record (hkept.symm.trans hrecord)).imp id fun h => h.next hstep rfl
  · obtain rfl := Option.some.inj (hnew.symm.trans hrecord)
    exact .inr hstore

theorem beside (hs : Provenance found s) (hstep : Step s l t) (hrecorded : Recorded s t)
    (hports : ports t.snapshot = ports s.snapshot) (hprev : t.previous = s.previous)
    (hmapping : t.mapping = s.mapping) (hmain : t.main = s.main) : Provenance found t := by
  have hstore := hs.store.next hstep hports
  refine ⟨hstore, hs.write hstep hrecorded hstore, ?_, ?_⟩
  · rw [hprev]
    exact hs.previous
  · rw [hmain, hmapping, hstep.config]
    exact hs.port

theorem mainStore {e : MainEvent} (hs : Provenance found s) (hcalls : CallsInOrder s)
    (h : MainStep s e t) (hreading : s.main ≠ .reading) : Claimed t t.snapshot := by
  have hstep : Step s (.main e) t := .main h
  rcases h.ports hreading with hports | ⟨pc, hports⟩
  · exact hs.store.next hstep hports
  · obtain ⟨hdevice, hport, hhost⟩ : t.snapshot.device = s.snapshot.device ∧
        t.snapshot.devicePort = s.snapshot.devicePort ∧
        t.snapshot.hostPort = s.mapping.hostPort := by simpa [ports] using hports
    have hown : s.mapping.devicePort = s.config.devicePort :=
      hs.port.resolve_left (by simp [pc, Main.portless])
    have hadded := hstep.calls (hcalls.added_publishing pc)
    have hmapping : s.mapping = ⟨s.snapshot.devicePort, s.mapping.hostPort⟩ := by
      rw [hs.store.devicePort, ← hown]
    refine ⟨?_, ?_, .inr ?_⟩
    · rw [hdevice, hs.store.device, hstep.config]
    · rw [hport, hs.store.devicePort, hstep.config]
    · rw [hport, hhost, hstep.config, ← hmapping]
      exact hadded

theorem main {e : MainEvent} (hs : Provenance found s) (hcalls : CallsInOrder s)
    (h : MainStep s e t) : Provenance found t := by
  have hstep : Step s (.main e) t := .main h
  have hport : t.main.portless = true ∨ t.mapping.devicePort = t.config.devicePort := by
    by_cases ht : t.main.portless = true
    · exact .inl ht
    · rcases h.portless (by simpa using ht) with hown | ⟨hplace, hmapping⟩
      · exact .inr hown
      · rw [hmapping, hstep.config]
        exact .inr (hs.port.resolve_left (by simp [hplace]))
  by_cases hreading : s.main = .reading
  · -- the record that is read is the one that was found, or was written without a host port
    have hnone := hcalls.calls_reading hreading
    cases h with
    | readState pc =>
      have hports := initialSnapshot_ports s.config (s.files.stateFile.map StateRecord.snapshot)
      simp only [ports, Prod.mk.injEq] at hports
      obtain ⟨hdevice, hdevicePort, hhost⟩ := hports
      refine ⟨⟨hdevice, hdevicePort, .inl hhost⟩, ?_, ?_, hport⟩
      · intro record hrecord
        exact (hs.file record hrecord).imp id fun h => h.next hstep rfl
      · intro x hx
        obtain ⟨record, hrecord, rfl⟩ := Option.map_eq_some_iff.mp hx
        refine (hs.file record hrecord).imp (fun h => ⟨record, h, rfl⟩) fun h => ?_
        exact h.added.resolve_right (by simp [hnone])
    | _ pc => simp [hreading] at pc
  · have hstore := hs.mainStore hcalls h hreading
    have hprev : t.previous = s.previous := by
      cases h with
      | readState pc => exact absurd pc hreading
      | _ => rfl
    refine ⟨hstore, ?_, by rw [hprev]; exact hs.previous, hport⟩
    by_cases hremoving : s.main = .removingState
    · cases h with
      | removeState pc => simp [Files.removeState]
      | _ pc => simp [hremoving] at pc
    · exact hs.write hstep (h.recorded hreading hremoving) hstore

theorem step (hs : Provenance found s) (hcalls : CallsInOrder s) (h : Step s l t) :
    Provenance found t := by
  cases h with
  | device alive h =>
    have hsame := h.sameMapping
    obtain ⟨hrecorded, hports, -⟩ := h.recorded
    exact hs.beside (.device alive h) hrecorded hports hsame.previous hsame.mapping hsame.main
  | monitor alive h =>
    obtain ⟨-, hprev, hmapping, -⟩ := h.fields
    obtain ⟨hrecorded, hports, -⟩ := h.recorded
    exact hs.beside (.monitor alive h) hrecorded hports hprev hmapping h.main.1
  | request alive h =>
    have hsame := h.sameMapping
    obtain ⟨hrecorded, hports, -⟩ := h.recorded
    exact hs.beside (.request alive h) hrecorded hports hsame.previous hsame.mapping hsame.main
  | main h => exact hs.main hcalls h
  | surroundings e =>
    cases e <;> exact ⟨⟨hs.store.device, hs.store.devicePort, hs.store.added⟩,
      fun record hrecord => (hs.file record hrecord).imp id fun h => ⟨h.device, h.devicePort, h.added⟩,
      hs.previous, hs.port⟩

theorem run {pid : ℕ} {config : Config} {files : Files} {ls : List Label}
    (h : Run Step (State.start pid config files) ls t) : Provenance files.stateFile t := by
  have hboth : CallsInOrder t ∧ Provenance files.stateFile t := by
    refine h.invariant (I := fun t => CallsInOrder t ∧ Provenance files.stateFile t) ?_ ?_
    · intro s l t hstep hs
      exact ⟨hstep.callsInOrder hs.1, hs.2.step hs.1 hstep⟩
    · refine ⟨.start pid config files, ⟨rfl, rfl, .inl rfl⟩, fun _ => .inl, ?_, .inl rfl⟩
      intro x hx
      cases hx
  exact hboth.2

end Provenance

/-- Each removal is that of the recorded mapping or of the own one, which has been added before. -/
def RemovesOwned (target : String) (recorded : Option Mapping) (own : Mapping)
    (calls : List ForwarderCall) : Prop :=
  ∀ before m target' ok after, calls = before ++ .remove target' m ok :: after →
    target' = target ∧ (recorded = some m ∨ m = own ∧ .addReverse target own true ∈ before)

theorem RemovesOwned.of_ledger {target : String} {recorded : Option Mapping} {own : Mapping}
    {d : Ledger} {calls : List ForwarderCall}
    (h : calls.foldlM (Ledger.next target recorded own) .fresh = some d) :
    RemovesOwned target recorded own calls := by
  induction calls using List.reverseRecOn generalizing d with
  | nil => simp [RemovesOwned]
  | append_singleton calls c ih =>
    rw [List.foldlM_append] at h
    cases hcalls : calls.foldlM (Ledger.next target recorded own) .fresh with
    | none => simp [hcalls] at h
    | some e =>
      have hnext : e.next target recorded own c = some d := by simpa [hcalls] using h
      intro before m target' ok after heq
      rcases split_snoc heq with ⟨rfl, rfl⟩ | ⟨rest, rfl⟩
      · -- the last call: the ledger allows a removal in two places only
        cases Shape.of_ledger hcalls with
        | fresh =>
          simp only [Ledger.next, Option.ite_none_right_eq_some] at hnext
          exact ⟨hnext.1.1, .inl hnext.1.2⟩
        | cleared | refused | removed => cases hnext
        | @added _ _ missing =>
          have hown : target' = target ∧ m = own := by
            cases missing <;> simp [Ledger.next] at hnext <;> exact hnext.1
          exact ⟨hown.1, .inr ⟨hown.2, by simp⟩⟩
      · exact ih hcalls before m target' ok rest rfl

/-- Runs with one state file, which does not exist at first: what it holds after them and their
forwarder calls. Each run begins with the record the one before it left, and ends anywhere. -/
inductive Lifetimes : Option StateRecord → List (Config × ForwarderCall) → Prop
  | none : Lifetimes none []
  | run {files : Files} {history : List (Config × ForwarderCall)} {pid : ℕ} {config : Config}
      {ls : List Label} {t : State} (earlier : Lifetimes files.stateFile history)
      (h : Run Step (State.start pid config files) ls t) :
      Lifetimes t.files.stateFile (history ++ t.calls.map (Prod.mk config))

def AddedFor (label : String) (devicePort : ℤ) (m : Mapping)
    (history : List (Config × ForwarderCall)) : Prop :=
  ∃ config, (config, .addReverse config.deviceID m true) ∈ history ∧
    config.deviceLabel = label ∧ config.devicePort = devicePort

variable {m : Mapping} {history : List (Config × ForwarderCall)}

theorem AddedFor.append {label : String} {devicePort : ℤ} (h : AddedFor label devicePort m history)
    (later : List (Config × ForwarderCall)) : AddedFor label devicePort m (history ++ later) := by
  obtain ⟨config, hmem, hconfig⟩ := h
  exact ⟨config, List.mem_append_left _ hmem, hconfig⟩

theorem Lifetimes.recorded {file : Option StateRecord} (h : Lifetimes file history)
    {record : StateRecord} (hrecord : file = some record) :
    record.snapshot.hostPort = 0 ∨ AddedFor record.snapshot.device record.snapshot.devicePort
      ⟨record.snapshot.devicePort, record.snapshot.hostPort⟩ history := by
  induction h with
  | none => cases hrecord
  | @run files history pid config ls t _ h ih =>
    rcases (Provenance.run h).file record hrecord with hfound | hclaimed
    · exact (ih hfound).imp id fun h => h.append _
    · refine hclaimed.added.imp id fun hadded => ?_
      have hconfig : t.config = config := config_of_run h
      rw [hconfig] at hadded
      refine ⟨config, List.mem_append_right _ (List.mem_map_of_mem hadded), ?_, ?_⟩
      · rw [hclaimed.device, hconfig]
      · rw [hclaimed.devicePort, hconfig]

theorem staleMapping_eq_some {config : Config} {previous : Option Snapshot}
    (h : staleMapping config previous = some m) : ∃ x, previous = some x ∧
      x.device = config.deviceLabel ∧ x.devicePort = config.devicePort ∧ 0 < x.hostPort ∧
      m = ⟨x.devicePort, x.hostPort⟩ := by
  unfold staleMapping at h
  split at h
  · rename_i x
    simp only [samePort, Option.ite_none_right_eq_some, decide_eq_true_eq] at h
    obtain ⟨⟨⟨-, hdevice, hport⟩, hlow, -⟩, hm⟩ := h
    exact ⟨x, rfl, hdevice, hport, hlow, (Option.some.inj hm).symm⟩
  · cases h

/-- Any number of runs, each ended anywhere. A mapping that some run removes was added before, by
that run or by an earlier one for the same device label and device port. -/
theorem removed_mapping_owned {file : Option StateRecord}
    {history before after : List (Config × ForwarderCall)} {config : Config} {target : String}
    {m : Mapping} {ok : Bool} (h : Lifetimes file history)
    (hremove : history = before ++ (config, .remove target m ok) :: after) :
    target = config.deviceID ∧ AddedFor config.deviceLabel config.devicePort m before := by
  induction h generalizing before after with
  | none => simp at hremove
  | @run files history pid config' ls t earlier h ih =>
    rcases split_append hremove with ⟨rest, hhistory⟩ | ⟨pre, rfl, hcalls⟩
    · exact ih hhistory
    · obtain ⟨pre, rest, hsplit, rfl, hrest⟩ := List.map_eq_append_iff.mp hcalls
      obtain ⟨call, post, rfl, hcall, -⟩ := List.map_eq_cons_iff.mp hrest
      obtain ⟨rfl, rfl⟩ := Prod.mk.inj hcall
      obtain ⟨d, hd, -⟩ := CallsInOrder.run h
      have hconfig : t.config = config' := config_of_run h
      obtain ⟨htarget, howner⟩ := RemovesOwned.of_ledger hd pre m target ok post hsplit
      rw [hconfig] at htarget howner
      refine ⟨htarget, ?_⟩
      rcases howner with hrecorded | ⟨rfl, hadded⟩
      · obtain ⟨x, hx, hdevice, hport, hlow, rfl⟩ := staleMapping_eq_some hrecorded
        rcases (Provenance.run h).previous x hx with ⟨record, hrecord, rfl⟩ | hzero
        · rw [← hdevice, ← hport]
          exact ((earlier.recorded hrecord).resolve_left (by omega)).append _
        · omega
      · exact ⟨config', List.mem_append_right _ (List.mem_map_of_mem hadded), rfl, rfl⟩

/-- What a daemon that is killed while it serves leaves behind. -/
def killedFiles : Files := { servingState.files with listening := fun _ => false }

def restart : List Label :=
  [.main (.ensurePaths true), .main (.listenDevice (some 40001)), .main (.lstat true),
    .main (.probe .refused), .main (.removeStale true), .main (.bind true), .main (.chmod true),
    .main .next, .main .next, .main .next, .main .next, .main (.remove true)]

theorem restart_run : ∃ t, Run Step (State.start 2 plainConfig killedFiles) restart t ∧
    t.calls = [.remove "device" ⟨27183, 40000⟩ true] :=
  ⟨_, .cons (.main (.ensurePaths rfl true)) <| .cons (.main (.listenDevice rfl 40001)) <|
    .cons (.main (.lstat rfl true)) <| .cons (.main (.probe rfl .refused rfl)) <|
    .cons (.main (.removeStale rfl ControlPath.noConfusion)) <| .cons (.main (.bind rfl rfl)) <|
    .cons (.main (.chmod rfl true)) <| .cons (.main (.readState rfl)) <|
    .cons (.main (.persist rfl rfl)) <| .cons (.main (.noOrphan rfl rfl)) <|
    .cons (.main (.noProxy rfl rfl)) <| .cons (.main (.removeStaleMapping rfl rfl true)) <|
    .nil _, rfl⟩

theorem removed_mapping_owned_restarted : ∃ t,
    Run Step (State.start 2 plainConfig killedFiles) restart t ∧
    Lifetimes t.files.stateFile [(plainConfig, .addReverse "device" ⟨27183, 40000⟩ true),
      (plainConfig, .remove "device" ⟨27183, 40000⟩ true)] ∧
    AddedFor "FMR***01" 27183 ⟨27183, 40000⟩
      [(plainConfig, .addReverse "device" ⟨27183, 40000⟩ true)] := by
  obtain ⟨t, ht, hcalls⟩ := restart_run
  have hstart : Lifetimes emptyFiles.stateFile [] := .none
  have hkilled : Lifetimes killedFiles.stateFile
      [(plainConfig, .addReverse "device" ⟨27183, 40000⟩ true)] := hstart.run servingState_run
  have hrestarted := hkilled.run ht
  rw [hcalls] at hrestarted
  have howned := removed_mapping_owned hrestarted (List.singleton_append).symm
  exact ⟨t, ht, hrestarted, howned.2⟩

end HarmonyNetBridge.Daemon
