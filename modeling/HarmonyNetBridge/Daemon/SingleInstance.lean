import HarmonyNetBridge.Daemon.ControlSocket
import HarmonyNetBridge.Daemon.SessionOwnership

/-! Two daemons with the same `Paths` start at the same time. -/
namespace HarmonyNetBridge.Daemon
open Transition Function

/-- Two daemons on the same files. -/
abbrev World := Bool → State

abbrev WorldStep : World → Bool × Label → World → Prop := Interleaved Step State.files State.withFiles

def World.start (pid : Bool → ℕ) (config : Bool → Config) (files : Files) : World :=
  fun i => State.start (pid i) (config i) files

def World.listens (w : World) (i : Bool) : Prop := (w i).files.listening (w i).pid = true

def Stage.gone : Stage → Bool
  | cleaning | retired => true
  | _ => false

theorem Stage.ne_bound_of_gone {b : Stage} (h : b.gone = true) : b ≠ .bound := by
  rintro rfl
  cases h

/-- What the stages `a` of daemon `pid` and `b` of the other one tell about the files. -/
structure Beside (pid : ℕ) (a b : Stage) (f : Files) : Prop where
  listens : f.listening pid = true ↔ a = .bound
  held : a = .bound → f.control = .socket pid ∨ b.gone = true
  probed : a = .probing → b = .bound ∨ b.gone = true
  judged : a = .judged → b.gone = true
  alone : a = .bound → b ≠ .bound

namespace Beside
variable {pid : ℕ} {a b : Stage} {f : Files}

theorem quiet (ha : a = .looking ∨ a.gone = true) (hl : f.listening pid = false) :
    Beside pid a b f := by
  cases a with
  | looking | cleaning | retired => exact ⟨by simp [hl], by simp, by simp, by simp, by simp⟩
  | probing | judged | bound => simp [Stage.gone] at ha

theorem silent (h : Beside pid a b f) (ha : a ≠ .bound) : f.listening pid = false := by
  rw [← Bool.not_eq_true, h.listens]
  exact ha

theorem beside_gone (hb : b.gone = true) (hl : f.listening pid = true ↔ a = .bound) :
    Beside pid a b f := by
  refine ⟨hl, fun _ => .inr hb, fun _ => .inr hb, fun _ => hb, ?_⟩
  exact fun _ => Stage.ne_bound_of_gone hb

end Beside

/-- Both daemons contend for the path: a socket found there belongs to one of them and is live. -/
structure Contest (pid : Bool → ℕ) (stage : Bool → Stage) (f : Files) : Prop where
  beside : ∀ i, Beside (pid i) (stage i) (stage !i) f
  owner : ∀ p, f.control = .socket p → ∃ i, p = pid i ∧ stage i = .bound

namespace Contest
variable {pid : Bool → ℕ} {stage : Bool → Stage} {f g : Files} {i : Bool} {b : Stage}

/-- It is enough to look at the daemon that moved and at the other one. -/
theorem intro (hi : Beside (pid i) b (stage !i) g) (hother : Beside (pid !i) (stage !i) b g)
    (owner : ∀ p, g.control = .socket p →
      (p = pid i ∧ b = .bound) ∨ (p = pid !i ∧ stage (!i) = .bound)) :
    Contest pid (update stage i b) g := by
  have hne : (!i) ≠ i := by simp
  constructor
  · intro k
    rcases eq_or_ne k i with rfl | hk
    · simpa [hne] using hi
    · obtain rfl : k = !i := Bool.eq_not_of_ne hk
      simpa [hne] using hother
  · intro p hp
    rcases owner p hp with ⟨hpid, hb⟩ | ⟨hpid, hb⟩
    · exact ⟨i, hpid, by simpa using hb⟩
    · exact ⟨!i, hpid, by simpa [hne] using hb⟩

theorem owner_cases (h : Contest pid stage f) (i : Bool) {p : ℕ} (hp : f.control = .socket p) :
    (p = pid i ∧ stage i = .bound) ∨ (p = pid !i ∧ stage (!i) = .bound) := by
  obtain ⟨k, hk, hbound⟩ := h.owner p hp
  rcases eq_or_ne k i with rfl | hki
  · exact .inl ⟨hk, hbound⟩
  · obtain rfl : k = !i := Bool.eq_not_of_ne hki
    exact .inr ⟨hk, hbound⟩

theorem beside_not (h : Contest pid stage f) (i : Bool) :
    Beside (pid !i) (stage !i) (stage i) f := by
  have ho := h.beside (!i)
  rwa [Bool.not_not] at ho

/-- A socket of either daemon is live, so that a stale or missing one was found missing. -/
theorem absent_of_judge (h : Contest pid stage f) (i : Bool)
    (possible : f.stale = true ∨ f.control = .absent) : f.control = .absent := by
  refine possible.resolve_left fun hstale => ?_
  cases hc : f.control with
  | absent | file => simp [Files.stale, hc] at hstale
  | socket p =>
    have hdead : f.listening p = false := by simpa [Files.stale, hc] using hstale
    rcases h.owner_cases i hc with ⟨rfl, hown⟩ | ⟨rfl, hother⟩
    · simp [(h.beside i).listens.mpr hown] at hdead
    · simp [(h.beside_not i).listens.mpr hother] at hdead

theorem step (h : Contest pid stage f) (hpid : pid (!i) ≠ pid i)
    (he : SocketEffect (pid i) (stage i) f b g) : Contest pid (update stage i b) g := by
  have hi := h.beside i
  have ho := h.beside_not i
  have howner := fun p => h.owner_cases i (p := p)
  cases he with
  | keep moved control listening =>
    rw [← control] at howner
    rcases moved with rfl | ⟨hbound, -, rfl⟩
    · refine intro ⟨?_, ?_, hi.probed, hi.judged, hi.alone⟩
        ⟨?_, ?_, ho.probed, ho.judged, ho.alone⟩ howner
      · rw [listening]; exact hi.listens
      · rw [control]; exact hi.held
      · rw [listening]; exact ho.listens
      · rw [control]; exact ho.held
    · refine intro (.quiet (.inr rfl) ?_) (.beside_gone rfl ?_) ?_
      · rw [listening]; exact hi.silent hbound
      · rw [listening]; exact ho.listens
      · intro p hp
        exact .inr ((howner p hp).resolve_left fun hown => hbound hown.2)
  | @look owner hstage found =>
    -- the socket found is the other daemon's, which is bound
    have hlive : stage (!i) = .bound := by
      rcases howner owner found with ⟨-, hown⟩ | ⟨-, hother⟩
      · simp [hstage] at hown
      · exact hother
    have hcontrol : f.control = .socket (pid !i) := by
      simpa [hstage, Stage.gone] using ho.held hlive
    refine intro ⟨?_, by simp, fun _ => .inl hlive, by simp, by simp⟩
      ⟨ho.listens, fun _ => .inl hcontrol, by simp [hlive], by simp [hlive], by simp⟩ ?_
    · simp [hi.silent (by simp [hstage])]
    · intro p hp
      exact .inr ((howner p hp).resolve_left fun hown => by simp [hstage] at hown)
  | judge hstage possible =>
    have hfree := h.absent_of_judge i possible
    have hgone : (stage !i).gone = true := by
      refine (hi.probed hstage).resolve_left fun hother => ?_
      have hheld := ho.held hother
      simp [hfree, hstage, Stage.gone] at hheld
    have hother := Stage.ne_bound_of_gone hgone
    refine intro (.beside_gone hgone ?_) (.quiet (.inr hgone) (ho.silent hother)) (by simp [hfree])
    simp [hi.silent (by simp [hstage])]
  | clear hstage =>
    have hgone := hi.judged hstage
    have hother := Stage.ne_bound_of_gone hgone
    exact intro (.quiet (.inl rfl) (hi.silent (by simp [hstage])))
      (.quiet (.inr hgone) (ho.silent hother)) (by simp [Files.removeControl])
  | bind hstage free =>
    have hother : stage (!i) ≠ .bound := by
      intro hb
      have hheld := ho.held hb
      simp [free, hstage, Stage.gone] at hheld
    have hjudged : stage (!i) ≠ .judged := by
      intro hj
      have hgone := ho.judged hj
      simp [hstage, Stage.gone] at hgone
    refine intro ⟨by simp [Files.bind], fun _ => .inl rfl, by simp, by simp, fun _ => hother⟩
      ⟨?_, by simp [hother], fun _ => .inl rfl, by simp [hjudged], by simp [hother]⟩ ?_
    · simp [Files.bind, hpid, ho.silent hother, hother]
    · intro p hp
      exact .inl ⟨(ControlPath.socket.inj hp).symm, rfl⟩
  | close hstage =>
    have hother := hi.alone hstage
    refine intro (.quiet (.inr rfl) (by simp [Files.closeListener])) (.beside_gone rfl ?_)
      (by simp [Files.closeListener])
    simp [Files.closeListener, hpid, ho.silent hother, hother]
  | remove hstage =>
    exact intro (.quiet (.inr rfl) (hi.silent (by simp [hstage]))) (.beside_gone rfl ho.listens)
      (by simp [Files.removeControl])

end Contest

/-- The path is taken by a file or by the live socket of a third process. -/
structure Occupied (f₀ : Files) (stage : Bool → Stage) (f : Files) : Prop where
  control : f.control = f₀.control
  listening : f.listening = f₀.listening
  waiting : ∀ i, stage i = .looking ∨ stage i = .probing ∨ stage i = .retired

theorem Occupied.step {f₀ f g : Files} {stage : Bool → Stage} {i : Bool} {pid : ℕ} {b : Stage}
    (h : Occupied f₀ stage f) (hlive : f₀.stale = false) (htaken : f₀.control ≠ .absent)
    (he : SocketEffect pid (stage i) f b g) : Occupied f₀ (update stage i b) g := by
  have hwait : ∀ b, b = .looking ∨ b = .probing ∨ b = .retired →
      ∀ k, update stage i b k = .looking ∨ update stage i b k = .probing ∨
        update stage i b k = .retired := by
    intro b hb k
    rcases eq_or_ne k i with rfl | hk
    · simpa using hb
    · simpa [hk] using h.waiting k
  have hi := h.waiting i
  cases he with
  | keep moved control listening =>
    refine ⟨control.trans h.control, listening.trans h.listening, hwait _ ?_⟩
    rcases moved with rfl | ⟨-, -, rfl⟩
    · exact hi
    · exact .inr (.inr rfl)
  | look hstage found => exact ⟨h.control, h.listening, hwait _ (.inr (.inl rfl))⟩
  | judge hstage possible =>
    have hstale : f.stale = f₀.stale := by simp only [Files.stale, h.control, h.listening]
    rcases possible with hdead | hfree
    · simp [hstale, hlive] at hdead
    · exact absurd (h.control ▸ hfree) htaken
  | bind hstage free => exact absurd (h.control ▸ free) htaken
  | clear hstage | close hstage | remove hstage => simp [hstage] at hi

variable {files : Files} {w : World}

/-- A property of both stages and of the shared files that every step of a daemon keeps holds in
every world the two daemons reach. -/
theorem World.invariant (pid : Bool → ℕ) {config : Bool → Config}
    {I : (Bool → Stage) → Files → Prop} (hstart : I (fun _ => .looking) files)
    (hstep : ∀ stage f i b g, I stage f → SocketEffect (pid i) (stage i) f b g →
      I (update stage i b) g)
    (h : Reachable WorldStep (· = World.start pid config files) w) :
    (∀ i, (w i).pid = pid i) ∧
      ∃ f, Agree State.files w f ∧ I (fun i => (w i).main.stage) f := by
  refine h.invariant (I := fun w => (∀ i, (w i).pid = pid i) ∧
    ∃ f, Agree State.files w f ∧ I (fun i => (w i).main.stage) f) ?_ ?_
  · rintro w rfl
    exact ⟨fun _ => rfl, files, fun _ => rfl, hstart⟩
  · rintro w ⟨i, l⟩ w' hw ⟨hpids, f, hagree, hI⟩
    cases hw with
    | @step _ _ t h =>
      obtain ⟨hpid, heffect⟩ := h.socket
      rw [hpids i, hagree i] at heffect
      refine ⟨?_, t.files, Agree.share (fun _ _ => rfl) w i t, ?_⟩
      · intro k
        rcases eq_or_ne k i with rfl | hk
        · simpa using hpid.trans (hpids k)
        · simpa [hk] using hpids k
      · have hstages : (fun k => (share State.files State.withFiles w i t k).main.stage) =
            update (fun k => (w k).main.stage) i t.main.stage := by
          funext k
          rcases eq_or_ne k i with rfl | hk
          · simp
          · simp [hk]
        rw [hstages]
        exact hstep _ _ i _ _ hI heffect

/-- Unless the path holds a socket nobody listens on, one of the two daemons gets a listener at
most. -/
theorem not_both_listen {pid : Bool → ℕ} {config : Bool → Config} (hpid : pid true ≠ pid false)
    (hnew : ∀ i, files.listening (pid i) = false) (hlive : files.stale = false)
    (h : Reachable WorldStep (· = World.start pid config files) w) :
    ¬ (w.listens true ∧ w.listens false) := by
  have hpid' : ∀ i, pid (!i) ≠ pid i := by
    intro i
    cases i
    · exact hpid
    · exact hpid.symm
  by_cases hfree : files.control = .absent
  · have hstart : Contest pid (fun _ => .looking) files :=
      ⟨fun i => .quiet (.inl rfl) (hnew i), by simp [hfree]⟩
    obtain ⟨hpids, f, hagree, hcontest⟩ := World.invariant pid hstart
      (fun stage f i b g hc he => hc.step (hpid' i) he) h
    rintro ⟨htrue, hfalse⟩
    simp only [World.listens, hpids, hagree true, hagree false] at htrue hfalse
    have hbound := (hcontest.beside true).listens.mp htrue
    exact (hcontest.beside true).alone hbound ((hcontest.beside false).listens.mp hfalse)
  · have hstart : Occupied files (fun _ => .looking) files := ⟨rfl, rfl, fun _ => .inl rfl⟩
    obtain ⟨hpids, f, hagree, hoccupied⟩ := World.invariant pid hstart
      (fun stage f i b g ho he => ho.step hlive hfree he) h
    rintro ⟨htrue, -⟩
    simp [World.listens, hpids, hagree true, hoccupied.listening, hnew] at htrue

/-- A daemon finds a socket and no listener behind it. -/
def judging : List Label :=
  [.main (.ensurePaths true), .main (.listenDevice (some 40000)), .main (.lstat true),
    .main (.probe .refused)]

/-- It removes what is at the path by then, and binds. -/
def taking : List Label := [.main (.removeStale true), .main (.bind true)]

def judgedState (pid : ℕ) (config : Config) (files : Files) : State :=
  { State.start pid config files with
    mapping := ⟨config.devicePort, 40000⟩, main := .removingStale }

def boundState (pid : ℕ) (config : Config) (files : Files) : State :=
  { judgedState pid config files with files := files.removeControl.bind pid, main := .protecting }

theorem judging_run {pid : ℕ} {config : Config} (h : files.stale = true) :
    Run Step (State.start pid config files) judging (judgedState pid config files) := by
  obtain ⟨control, listening, stateFile, writable⟩ := files
  cases control with
  | absent | file => cases h
  | socket owner =>
    exact .cons (.main (.ensurePaths rfl true)) <| .cons (.main (.listenDevice rfl 40000)) <|
      .cons (.main (.lstat rfl true)) <| .cons (.main (.probe rfl .refused h)) <| .nil _

theorem taking_run {pid : ℕ} {config : Config} (h : files.control ≠ .absent) :
    Run Step (judgedState pid config files) taking (boundState pid config files) :=
  .cons (.main (.removeStale rfl h)) <| .cons (.main (.bind rfl rfl)) <| .nil _

theorem World.run {s t : State} {ls : List Label} (h : Run Step s ls t) {w : World} {i : Bool}
    (hi : w i = s) (hw : Agree State.files w s.files) :
    Run WorldStep w (ls.map (Prod.mk i)) (share State.files State.withFiles w i t) ∧
      Agree State.files (share State.files State.withFiles w i t) t.files := by
  refine ⟨h.interleave ?_ ?_ ?_ hi hw, Agree.share (fun _ _ => rfl) w i t⟩
  all_goals
    intros
    rfl

/-- Both daemons judge the socket before one of them replaces it. -/
def overlapping : List (Bool × Label) :=
  judging.map (Prod.mk true) ++ judging.map (Prod.mk false) ++ taking.map (Prod.mk true) ++
    taking.map (Prod.mk false)

theorem both_listen {pid : Bool → ℕ} (config : Bool → Config) (hpid : pid true ≠ pid false)
    (hstale : files.stale = true) :
    ∃ w, Run WorldStep (World.start pid config files) overlapping w ∧
      w.listens true ∧ w.listens false := by
  have hfound : files.control ≠ .absent := by
    intro habsent
    simp [Files.stale, habsent] at hstale
  obtain ⟨hrun₁, hagree₁⟩ := World.run (w := World.start pid config files) (i := true)
    (judging_run hstale) rfl fun _ => rfl
  obtain ⟨hrun₂, hagree₂⟩ := World.run (i := false) (judging_run hstale)
    (show _ = State.start (pid false) (config false) files from rfl) hagree₁
  obtain ⟨hrun₃, hagree₃⟩ := World.run (i := true) (taking_run hfound)
    (show _ = judgedState (pid true) (config true) files from rfl) hagree₂
  -- the second daemon removes the socket that the first has just bound
  have hremoves : (files.removeControl.bind (pid true)).control ≠ .absent := by simp [Files.bind]
  obtain ⟨hrun₄, -⟩ := World.run (i := false) (taking_run hremoves)
    (show _ = judgedState (pid false) (config false) (files.removeControl.bind (pid true)) from rfl)
    hagree₃
  refine ⟨_, ((hrun₁.append hrun₂).append hrun₃).append hrun₄, ?_, ?_⟩
  · simp [World.listens, boundState, judgedState, State.start, Files.bind, Files.removeControl, hpid]
  · simp [World.listens, boundState, judgedState, State.start, Files.bind]

/-- Two daemons with the same paths, whatever their configurations: in every interleaving one of
them has an open control listener at most, exactly if the path did not hold a socket nobody
listened on when they started. -/
theorem single_instance_iff {pid : Bool → ℕ} (config : Bool → Config) {files : Files}
    (hpid : pid true ≠ pid false) (hnew : ∀ i, files.listening (pid i) = false) :
    (∀ w, Reachable WorldStep (· = World.start pid config files) w →
      ¬ (w.listens true ∧ w.listens false)) ↔ files.stale = false := by
  constructor
  · intro hsingle
    by_contra hstale
    obtain ⟨w, hrun, hboth⟩ := both_listen config hpid (Bool.eq_true_of_not_eq_false hstale)
    exact hsingle w ⟨_, _, rfl, hrun⟩ hboth
  · intro hlive w hw
    exact not_both_listen hpid hnew hlive hw

def twoPids (i : Bool) : ℕ := if i then 1 else 2

def firstBinding : List Label :=
  [.main (.ensurePaths true), .main (.listenDevice (some 40000)), .main (.lstat true),
    .main (.bind true)]

theorem single_instance_absent : ∃ w, Reachable WorldStep
      (· = World.start twoPids (fun _ => plainConfig) emptyFiles) w ∧
    w.listens true ∧ ¬ w.listens false := by
  have hbind : ∃ t, Run Step (State.start 1 plainConfig emptyFiles)
      firstBinding t ∧ t.pid = 1 ∧ t.files.listening 1 = true :=
    ⟨_, .cons (.main (.ensurePaths rfl true)) <| .cons (.main (.listenDevice rfl 40000)) <|
      .cons (.main (.lstat rfl true)) <| .cons (.main (.bind rfl rfl)) <| .nil _, rfl, rfl⟩
  obtain ⟨t, ht, hpid, hlistens⟩ := hbind
  obtain ⟨hrun, -⟩ := World.run (i := true) ht (show World.start twoPids (fun _ => plainConfig)
    emptyFiles true = _ from rfl) fun _ => rfl
  have hreached : Reachable WorldStep
      (· = World.start twoPids (fun _ => plainConfig) emptyFiles) _ :=
    ⟨_, _, rfl, hrun⟩
  have hfirst : World.listens (share State.files State.withFiles (World.start twoPids
      (fun _ => plainConfig) emptyFiles) true t) true := by
    simpa [World.listens, hpid] using hlistens
  have hsingle := (single_instance_iff (fun _ => plainConfig) (by decide) (fun _ => rfl)).mpr rfl
    _ hreached
  exact ⟨_, hreached, hfirst, fun hsecond => hsingle ⟨hfirst, hsecond⟩⟩

/-- The socket of a daemon that was killed: process 9 is gone. -/
def staleFiles : Files := ⟨.socket 9, fun _ => false, none, true⟩

theorem two_instances : staleFiles.stale = true ∧
    ∃ w, Run WorldStep (World.start twoPids (fun _ => plainConfig) staleFiles) overlapping w ∧
      w.listens true ∧ w.listens false :=
  ⟨rfl, both_listen _ (by decide) rfl⟩

end HarmonyNetBridge.Daemon
