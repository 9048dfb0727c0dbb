import Mathlib.Algebra.Order.BigOperators.Group.List
import Mathlib.Algebra.Order.Group.Nat
import Mathlib.Data.Int.Notation
import Mathlib.Data.Nat.Notation
import Mathlib.Data.List.Basic

/-! `RotatingWriter`: the active log and one previous file, under file-system operations that may
fail. Every call of `Write` comes with what its operations do. -/
namespace HarmonyNetBridge.Logging
open List

def defaultMaxBytes : ℕ := 5 * 1024 * 1024

/-- The contents of the log and of the file with the suffix `.1`, where they exist. -/
structure LogFiles where
  active : Option (List UInt8)
  previous : Option (List UInt8)
  deriving DecidableEq, Repr

namespace LogFiles

def log (files : LogFiles) : List UInt8 := files.active.getD []

/-- The bytes that can still be read, the oldest first. -/
def contents (files : LogFiles) : List UInt8 := files.previous.getD [] ++ files.log

/-- What `os.O_CREATE` does. -/
def create (files : LogFiles) : LogFiles := { files with active := some files.log }

def remove (files : LogFiles) : LogFiles := { files with previous := none }

/-- `os.Rename`, whose error is ignored when there is no file to rename. -/
def rename (files : LogFiles) : LogFiles :=
  match files.active with
  | none => files
  | some content => ⟨none, some content⟩

def append (files : LogFiles) (bytes : List UInt8) : LogFiles :=
  { files with active := some (files.log ++ bytes) }

variable (files : LogFiles)

@[simp]
theorem log_create : files.create.log = files.log := rfl

@[simp]
theorem contents_create : files.create.contents = files.contents := rfl

@[simp]
theorem log_remove : files.remove.log = files.log := rfl

@[simp]
theorem log_append (bytes : List UInt8) : (files.append bytes).log = files.log ++ bytes := rfl

theorem contents_append (bytes : List UInt8) :
    (files.append bytes).contents = files.contents ++ bytes := by
  simp [contents, append, log]

theorem contents_remove_suffix : files.remove.contents <:+ files.contents :=
  suffix_append _ _

@[simp]
theorem log_rename : files.rename.log = [] := by
  cases files with
  | mk active previous => cases active <;> rfl

/-- Nothing is lost where the previous file has been removed before. -/
theorem contents_remove_rename : files.remove.rename.contents = files.remove.contents := by
  cases files with
  | mk active previous => cases active <;> simp [remove, rename, contents, log]

end LogFiles

inductive OpenFailure where
  | openFile (err : String)
  | chmod (err : String)
  | stat (err : String)
  deriving DecidableEq, Repr

/-- What the operations of one call do: the errors of those that fail, other than that a file does not
exist, and how many bytes the file takes. -/
structure Operations where
  close : Option String
  remove : Option String
  rename : Option String
  reopen : Option OpenFailure
  takes : ℕ
  writeError : Option String
  deriving DecidableEq, Repr

/-- The writer with its files; `opened` says that `file` is not nil. -/
structure RotatingWriter where
  maxBytes : ℕ
  files : LogFiles
  opened : Bool := false
  size : ℕ := 0
  deriving DecidableEq, Repr

def errClosed : String := "file already closed"

namespace RotatingWriter

def openFile (failure : Option OpenFailure) (w : RotatingWriter) : Option String × RotatingWriter :=
  match failure with
  | some (.openFile err) => (some ("open log file: " ++ err), w)
  | some (.chmod err) => (some ("protect log file: " ++ err), { w with files := w.files.create })
  | some (.stat err) => (some ("stat log file: " ++ err), { w with files := w.files.create })
  | none =>
    (none,
      { w with
        files := w.files.create
        opened := true
        size := w.files.log.length })

def reopenAfterRotationError (rotationError : String) (failure : Option OpenFailure)
    (w : RotatingWriter) : Option String × RotatingWriter :=
  match w.openFile failure with
  | (some reopenError, w) => (some (rotationError ++ "; reopen active log: " ++ reopenError), w)
  | (none, w) => (some rotationError, w)

def rotate (ops : Operations) (w : RotatingWriter) : Option String × RotatingWriter :=
  let closed := { w with opened := false }
  match ops.close with
  | some err => closed.reopenAfterRotationError ("close log before rotation: " ++ err) ops.reopen
  | none =>
    match ops.remove with
    | some err => closed.reopenAfterRotationError ("remove previous log: " ++ err) ops.reopen
    | none =>
      let removed := { closed with files := closed.files.remove }
      match ops.rename with
      | some err => removed.reopenAfterRotationError ("rotate log: " ++ err) ops.reopen
      | none => { removed with files := removed.files.rename }.openFile ops.reopen

/-- `file.Write` and the new size. -/
def append (ops : Operations) (payload : List UInt8) (w : RotatingWriter) :
    (ℕ × Option String) × RotatingWriter :=
  let written := min ops.takes payload.length
  ((written, ops.writeError),
    { w with files := w.files.append (payload.take written), size := w.size + written })

def write (ops : Operations) (payload : List UInt8) (w : RotatingWriter) :
    (ℕ × Option String) × RotatingWriter :=
  if w.opened = false then ((0, some errClosed), w)
  else if 0 < w.size ∧ w.size + payload.length > w.maxBytes then
    match w.rotate ops with
    | (some err, w) => ((0, some err), w)
    | (none, w) => w.append ops payload
  else w.append ops payload

/-- Calls of `Write` one after another: what they return, and the writer after them. -/
def writes (w : RotatingWriter) :
    List (Operations × List UInt8) → List (ℕ × Option String) × RotatingWriter
  | [] => ([], w)
  | (ops, payload) :: calls =>
    let (result, w) := w.write ops payload
    let (results, w) := writes w calls
    (result :: results, w)

end RotatingWriter

def openRotatingWriter (maxBytes : ℤ) (mkdir : Option String) (failure : Option OpenFailure)
    (files : LogFiles) : Except String RotatingWriter :=
  match mkdir with
  | some err => .error ("create log directory: " ++ err)
  | none =>
    let maxBytes := if maxBytes ≤ 0 then defaultMaxBytes else maxBytes.toNat
    match RotatingWriter.openFile failure { maxBytes, files } with
    | (some err, _) => .error err
    | (none, w) => .ok w

/-- The bytes that calls have reported as written. -/
def reported (calls : List (Operations × List UInt8)) (results : List (ℕ × Option String)) :
    List UInt8 :=
  (calls.zip results).flatMap fun (call, result) => call.2.take result.1

namespace RotatingWriter

/-- The size is that of the active log while it is open. -/
def Tracks (w : RotatingWriter) : Prop := w.opened = true → w.size = w.files.log.length

/-- What opening the log does to a writer without an open file. -/
structure Reopened (failure : Option OpenFailure) (w after : RotatingWriter) : Prop where
  maxBytes : after.maxBytes = w.maxBytes
  log : after.files.log = w.files.log
  contents : after.files.contents = w.files.contents
  opened : after.opened = failure.isNone
  tracks : after.Tracks

variable {w : RotatingWriter} {history payload : List UInt8}

theorem openFile_reopened (failure : Option OpenFailure) (hw : w.opened = false) :
    Reopened failure w (w.openFile failure).2 := by
  have closed (files : LogFiles) : Tracks { w with files } := by
    intro h
    exact absurd (hw.symm.trans h) Bool.false_ne_true
  cases failure with
  | none => exact ⟨rfl, rfl, rfl, rfl, fun _ => rfl⟩
  | some failure =>
    cases failure with
    | openFile err => exact ⟨rfl, rfl, rfl, hw, closed w.files⟩
    | chmod err => exact ⟨rfl, rfl, rfl, hw, closed w.files.create⟩
    | stat err => exact ⟨rfl, rfl, rfl, hw, closed w.files.create⟩

theorem openFile_error (failure : Option OpenFailure) (w : RotatingWriter) :
    (w.openFile failure).1.isNone = failure.isNone := by
  cases failure with
  | none => rfl
  | some failure => cases failure <;> rfl

theorem reopenAfterRotationError_snd (err : String) (failure : Option OpenFailure)
    (w : RotatingWriter) : (w.reopenAfterRotationError err failure).2 = (w.openFile failure).2 := by
  unfold reopenAfterRotationError
  split <;> simp [*]

theorem reopenAfterRotationError_fst (err : String) (failure : Option OpenFailure)
    (w : RotatingWriter) : (w.reopenAfterRotationError err failure).1 ≠ none := by
  unfold reopenAfterRotationError
  split <;> simp

/-- What a rotation does, whichever of its operations fail. -/
structure Rotated (ops : Operations) (w : RotatingWriter) (err : Option String)
    (after : RotatingWriter) : Prop where
  maxBytes : after.maxBytes = w.maxBytes
  contents : after.files.contents <:+ w.files.contents
  log : after.files.log = w.files.log ∨ after.files.log = []
  opened : after.opened = ops.reopen.isNone
  tracks : after.Tracks
  rotated : err = none → after.files.log = [] ∧ ops.reopen = none

theorem rotated_of_error {ops : Operations} {v : RotatingWriter} (err : String)
    (hv : v.opened = false) (hmax : v.maxBytes = w.maxBytes)
    (hcontents : v.files.contents <:+ w.files.contents) (hlog : v.files.log = w.files.log) :
    Rotated ops w (v.reopenAfterRotationError err ops.reopen).1
      (v.reopenAfterRotationError err ops.reopen).2 := by
  have reopened := openFile_reopened ops.reopen hv
  rw [← reopenAfterRotationError_snd err] at reopened
  constructor
  · exact reopened.maxBytes.trans hmax
  · rw [reopened.contents]
    exact hcontents
  · exact Or.inl (reopened.log.trans hlog)
  · exact reopened.opened
  · exact reopened.tracks
  · intro h
    exact absurd h (reopenAfterRotationError_fst err ops.reopen v)

theorem rotate_rotated (ops : Operations) (w : RotatingWriter) :
    Rotated ops w (w.rotate ops).1 (w.rotate ops).2 := by
  have removed := w.files.contents_remove_suffix
  unfold rotate
  dsimp only
  split
  · exact rotated_of_error _ rfl rfl suffix_rfl rfl
  split
  · exact rotated_of_error _ rfl rfl suffix_rfl rfl
  split
  · exact rotated_of_error _ rfl rfl removed rfl
  have reopened := openFile_reopened ops.reopen
    (show { w with opened := false, files := w.files.remove.rename }.opened = false from rfl)
  have empty := reopened.log.trans (LogFiles.log_rename _)
  constructor
  · exact reopened.maxBytes
  · rw [reopened.contents, LogFiles.contents_remove_rename]
    exact removed
  · exact Or.inr empty
  · exact reopened.opened
  · exact reopened.tracks
  · intro h
    have := openFile_error ops.reopen { w with opened := false, files := w.files.remove.rename }
    rw [h] at this
    exact ⟨empty, Option.isNone_iff_eq_none.mp this.symm⟩

def Rotates (w : RotatingWriter) (payload : List UInt8) : Prop :=
  w.opened = true ∧ 0 < w.size ∧ w.size + payload.length > w.maxBytes

theorem write_cases (ops : Operations) (payload : List UInt8) (w : RotatingWriter) :
    (w.opened = false ∧ w.write ops payload = ((0, some errClosed), w)) ∨
    (w.opened = true ∧ (w.size = 0 ∨ w.size + payload.length ≤ w.maxBytes) ∧
      w.write ops payload = w.append ops payload) ∨
    (w.Rotates payload ∧ ∃ err after, w.rotate ops = (some err, after) ∧
      w.write ops payload = ((0, some err), after)) ∨
    (w.Rotates payload ∧ ∃ after, w.rotate ops = (none, after) ∧
      w.write ops payload = after.append ops payload) := by
  unfold write
  split
  case isTrue h => exact Or.inl ⟨h, rfl⟩
  case isFalse h =>
    rw [Bool.not_eq_false] at h
    split
    case isTrue hrotates =>
      rcases hr : w.rotate ops with ⟨_ | err, after⟩
      · exact Or.inr (Or.inr (Or.inr ⟨⟨h, hrotates⟩, after, rfl, rfl⟩))
      · exact Or.inr (Or.inr (Or.inl ⟨⟨h, hrotates⟩, err, after, rfl, rfl⟩))
    case isFalse hroom => exact Or.inr (Or.inl ⟨h, by omega, rfl⟩)

/-- The state of a writer whose files began with the bytes of `history` and were given those
reported since. -/
structure Keeps (bound : ℕ) (history : List UInt8) (w : RotatingWriter) : Prop where
  tracks : w.Tracks
  limit : w.maxBytes ≤ bound
  bounded : w.files.log.length ≤ bound
  contents : w.files.contents <:+ history

theorem Keeps.append {bound : ℕ} (keeps : Keeps bound history w) (ops : Operations)
    (room : w.files.log.length + payload.length ≤ bound) :
    Keeps bound (history ++ payload.take (w.append ops payload).1.1)
      (w.append ops payload).2 := by
  have taken : (payload.take (min ops.takes payload.length)).length ≤ payload.length :=
    length_take_le' _ _
  constructor
  · intro h
    have := keeps.tracks h
    simp only [RotatingWriter.append, LogFiles.log_append, length_append, length_take]
    omega
  · exact keeps.limit
  · simp only [RotatingWriter.append, LogFiles.log_append, length_append]
    omega
  · simp only [RotatingWriter.append, LogFiles.contents_append]
    obtain ⟨lost, hlost⟩ := keeps.contents
    exact ⟨lost, by rw [← hlost, append_assoc]⟩

theorem Keeps.rotated {bound : ℕ} {history : List UInt8} {ops : Operations} {err : Option String}
    {w after : RotatingWriter} (keeps : Keeps bound history w) (rotated : Rotated ops w err after) :
    Keeps bound history after := by
  constructor
  · exact rotated.tracks
  · rw [rotated.maxBytes]
    exact keeps.limit
  · rcases rotated.log with h | h
    · rw [h]
      exact keeps.bounded
    · simp [h]
  · exact rotated.contents.trans keeps.contents

theorem write_keeps {bound : ℕ} (ops : Operations) (hpayload : payload.length ≤ bound)
    (keeps : Keeps bound history w) :
    Keeps bound (history ++ payload.take (w.write ops payload).1.1) (w.write ops payload).2 := by
  rcases write_cases ops payload w with ⟨_, h⟩ | ⟨hopen, hroom, h⟩ | ⟨_, err, after, hr, h⟩ |
      ⟨_, after, hr, h⟩
  · simpa [h] using keeps
  · rw [h]
    apply keeps.append
    have hsize := keeps.tracks hopen
    have hlimit := keeps.limit
    omega
  · have rotated := rotate_rotated ops w
    rw [hr] at rotated
    simpa [h] using keeps.rotated rotated
  · have rotated := rotate_rotated ops w
    rw [hr] at rotated
    rw [h]
    apply (keeps.rotated rotated).append
    simp [(rotated.rotated rfl).1, hpayload]

theorem writes_keeps {bound : ℕ} (calls : List (Operations × List UInt8))
    (hpayloads : ∀ call ∈ calls, call.2.length ≤ bound) (keeps : Keeps bound history w) :
    Keeps bound (history ++ reported calls (w.writes calls).1) (w.writes calls).2 := by
  induction calls generalizing history w with
  | nil => simpa [writes, reported] using keeps
  | cons call calls ih =>
    obtain ⟨ops, payload⟩ := call
    rw [forall_mem_cons] at hpayloads
    have first := ih hpayloads.2 (write_keeps ops hpayloads.1 keeps)
    rw [append_assoc] at first
    exact first

end RotatingWriter

theorem openRotatingWriter_ok {maxBytes : ℤ} {mkdir : Option String}
    {failure : Option OpenFailure} {files : LogFiles} {w : RotatingWriter}
    (h : openRotatingWriter maxBytes mkdir failure files = .ok w) :
    w.opened = true ∧ w.Tracks ∧ w.files.log = files.log ∧ w.files.contents = files.contents := by
  unfold openRotatingWriter at h
  cases mkdir with
  | some err => cases h
  | none =>
    dsimp only at h
    split at h
    case h_1 => cases h
    case h_2 after hopen =>
      cases h
      have reopened := RotatingWriter.openFile_reopened failure
        (show (RotatingWriter.mk (if maxBytes ≤ 0 then defaultMaxBytes else maxBytes.toNat)
          files false 0).opened = false from rfl)
      have hfailure := RotatingWriter.openFile_error failure
        (RotatingWriter.mk (if maxBytes ≤ 0 then defaultMaxBytes else maxBytes.toNat)
          files false 0)
      rw [hopen] at reopened hfailure
      exact ⟨reopened.opened.trans hfailure.symm, reopened.tracks, reopened.log,
        reopened.contents⟩

/-- After every sequence of calls, with all operations failing as they may: the size is that of the
open log, the log is no longer than the limit, its first length or the longest payload, and the
previous file with the log holds the latest of all the bytes there have been. -/
theorem rotation_loses_oldest (maxBytes : ℤ) (mkdir : Option String)
    (failure : Option OpenFailure) (files : LogFiles) (w : RotatingWriter)
    (hopen : openRotatingWriter maxBytes mkdir failure files = .ok w)
    (calls : List (Operations × List UInt8)) : ((w.writes calls).2.opened = true →
      (w.writes calls).2.size = (w.writes calls).2.files.log.length) ∧
    (∀ bound, w.maxBytes ≤ bound → files.log.length ≤ bound →
      (∀ call ∈ calls, call.2.length ≤ bound) →
      (w.writes calls).2.files.log.length ≤ bound) ∧
    (w.writes calls).2.files.contents <:+
      files.previous.getD [] ++ files.log ++ reported calls (w.writes calls).1 := by
  obtain ⟨_, tracks, hlog, hcontents⟩ := openRotatingWriter_ok hopen
  have keeps (bound : ℕ) (hlimit : w.maxBytes ≤ bound) (hfirst : files.log.length ≤ bound)
      (hpayloads : ∀ call ∈ calls, call.2.length ≤ bound) :
      RotatingWriter.Keeps bound (files.contents ++ reported calls (w.writes calls).1)
        (w.writes calls).2 := by
    apply RotatingWriter.writes_keeps calls hpayloads
    exact ⟨tracks, hlimit, hlog ▸ hfirst, hcontents ▸ suffix_refl w.files.contents⟩
  -- Some bound always exists, so that the other two parts do not depend on it.
  have payloads : ∀ call ∈ calls, call.2.length ≤
      w.maxBytes + files.log.length + (calls.map (·.2.length)).sum := by
    intro call hcall
    have := le_sum_of_mem (mem_map_of_mem hcall : call.2.length ∈ calls.map (·.2.length))
    omega
  have whole := keeps _ (by omega) (by omega) payloads
  constructor
  · exact whole.tracks
  constructor
  · intro bound hlimit hfirst hpayloads
    exact (keeps bound hlimit hfirst hpayloads).bounded
  · exact whole.contents

/-- A rotation that fails at the renaming, after the previous file has been removed, and a second one
whose file takes two bytes only. -/
theorem rotation_loses_oldest_rename :
    (RotatingWriter.mk 5 ⟨some [3, 4, 5], some [1, 2]⟩ true 3).writes
      [(⟨none, none, some "permission denied", none, 9, none⟩, [6, 7, 8]),
        (⟨none, none, none, none, 2, some "no space left"⟩, [6, 7, 8])] =
      ([(0, some "rotate log: permission denied"), (2, some "no space left")],
        ⟨5, ⟨some [6, 7], some [3, 4, 5]⟩, true, 2⟩) ∧
    ([3, 4, 5] ++ [6, 7] : List UInt8) <:+ [1, 2] ++ [3, 4, 5] ++ [6, 7] := by
  have all := rotation_loses_oldest 5 none none ⟨some [3, 4, 5], some [1, 2]⟩
    ⟨5, ⟨some [3, 4, 5], some [1, 2]⟩, true, 3⟩ rfl
    [(⟨none, none, some "permission denied", none, 9, none⟩, [6, 7, 8]),
      (⟨none, none, none, none, 2, some "no space left"⟩, [6, 7, 8])]
  exact ⟨by decide, all.2.2⟩

def Operations.Succeed (ops : Operations) (payload : List UInt8) : Prop :=
  ops.close = none ∧ ops.remove = none ∧ ops.rename = none ∧ ops.reopen = none ∧
    payload.length ≤ ops.takes ∧ ops.writeError = none

namespace RotatingWriter

variable {w : RotatingWriter} {ops : Operations} {payload : List UInt8}

theorem write_opened (ops : Operations) (payload : List UInt8) (hw : w.opened = true) :
    (w.write ops payload).2.opened = true ↔ (w.Rotates payload → ops.reopen = none) := by
  have rotated := rotate_rotated ops w
  rcases write_cases ops payload w with ⟨hclosed, _⟩ | ⟨_, hroom, h⟩ | ⟨hr, err, after, heq, h⟩ |
      ⟨hr, after, heq, h⟩
  · exact absurd (hclosed.symm.trans hw) Bool.false_ne_true
  · rw [h]
    apply iff_of_true hw
    intro hrotates
    have := hrotates.2
    omega
  · rw [heq] at rotated
    rw [h, rotated.opened, Option.isNone_iff_eq_none]
    exact ⟨fun h _ => h, fun h => h hr⟩
  · rw [heq] at rotated
    rw [h]
    apply iff_of_true
    · exact rotated.opened.trans (Option.isNone_iff_eq_none.mpr (rotated.rotated rfl).2)
    · exact fun _ => (rotated.rotated rfl).2

theorem writes_closed (hw : w.opened = false) (calls : List (Operations × List UInt8)) :
    w.writes calls = (calls.map fun _ => (0, some errClosed), w) := by
  induction calls with
  | nil => rfl
  | cons call calls ih => simp [writes, write, hw, ih]

theorem append_succeed (hops : ops.Succeed payload) (w : RotatingWriter) :
    (w.append ops payload).1 = (payload.length, none) := by
  obtain ⟨_, _, _, _, htakes, herror⟩ := hops
  simp [append, herror, htakes]

theorem rotate_succeed (hops : ops.Succeed payload) (w : RotatingWriter) :
    (w.rotate ops).1 = none := by
  obtain ⟨hclose, hremove, hrename, hreopen, _⟩ := hops
  simp [rotate, hclose, hremove, hrename, hreopen, openFile]

theorem write_succeed (hops : ops.Succeed payload) (hw : w.opened = true) :
    (w.write ops payload).1 = (payload.length, none) := by
  rcases write_cases ops payload w with ⟨hclosed, _⟩ | ⟨_, _, h⟩ | ⟨_, err, after, heq, _⟩ |
      ⟨_, after, _, h⟩
  · exact absurd (hclosed.symm.trans hw) Bool.false_ne_true
  · rw [h, append_succeed hops]
  · have := rotate_succeed hops w
    rw [heq] at this
    cases this
  · rw [h, append_succeed hops]

theorem writes_succeed (hw : w.opened = true) (calls : List (Operations × List UInt8))
    (hcalls : ∀ call ∈ calls, call.1.Succeed call.2) :
    (w.writes calls).1 = calls.map fun call => (call.2.length, none) := by
  induction calls generalizing w with
  | nil => rfl
  | cons call calls ih =>
    obtain ⟨ops, payload⟩ := call
    rw [forall_mem_cons] at hcalls
    have hopen := (write_opened ops payload hw).mpr fun _ => hcalls.1.2.2.2.1
    simp [writes, write_succeed hcalls.1 hw, ih hopen hcalls.2]

/-- The log is open after the calls unless one of their rotations could not open it. -/
theorem writes_opened (hw : w.opened = true) (calls : List (Operations × List UInt8)) :
    (w.writes calls).2.opened = true ↔
      ∀ before call later, calls = before ++ call :: later →
        (w.writes before).2.Rotates call.2 → call.1.reopen = none := by
  induction calls generalizing w with
  | nil => simp [writes, hw]
  | cons call calls ih =>
    obtain ⟨ops, payload⟩ := call
    have first := write_opened ops payload hw
    cases hopen : (w.write ops payload).2.opened with
    | false =>
      have closed : (w.writes ((ops, payload) :: calls)).2.opened = false := by
        simp [writes, writes_closed hopen, hopen]
      rw [closed]
      apply iff_of_false Bool.false_ne_true
      intro h
      rw [hopen] at first
      exact Bool.false_ne_true (first.mpr (h [] (ops, payload) calls rfl))
    | true =>
      apply (ih hopen).trans
      constructor
      · intro h before call later heq
        cases before with
        | nil =>
          obtain ⟨rfl, rfl⟩ := List.cons.inj heq
          exact first.mp hopen
        | cons _ before =>
          obtain ⟨rfl, rest⟩ := List.cons.inj heq
          exact h before call later rest
      · intro h before call later heq
        exact h ((ops, payload) :: before) call later (by rw [heq]; rfl)

end RotatingWriter

/-- Once the operations succeed again every call writes its payload, exactly where no rotation
before has failed to open the log: a writer left without a file stays so. -/
theorem recovers_iff (maxBytes : ℤ) (mkdir : Option String) (failure : Option OpenFailure)
    (files : LogFiles) (w : RotatingWriter)
    (hopen : openRotatingWriter maxBytes mkdir failure files = .ok w)
    (calls : List (Operations × List UInt8)) :
    (∀ later : List (Operations × List UInt8), (∀ call ∈ later, call.1.Succeed call.2) →
      ((w.writes calls).2.writes later).1 = later.map fun call => (call.2.length, none)) ↔
    (∀ before call later, calls = before ++ call :: later →
      (w.writes before).2.Rotates call.2 → call.1.reopen = none) := by
  rw [← RotatingWriter.writes_opened (openRotatingWriter_ok hopen).1]
  constructor
  · intro h
    by_contra hclosed
    rw [Bool.not_eq_true] at hclosed
    have := h [(⟨none, none, none, none, 0, none⟩, [])] (by simp [Operations.Succeed])
    rw [RotatingWriter.writes_closed hclosed] at this
    simp at this
  · intro h later hlater
    exact RotatingWriter.writes_succeed h later hlater

/-- A failed renaming after which the log is opened again. -/
theorem recovers_iff_reopened : ((RotatingWriter.mk 5 ⟨some [3, 4, 5], none⟩ true 3).writes
      [(⟨none, none, some "permission denied", none, 9, none⟩, [6, 7, 8])]).1 =
        [(0, some "rotate log: permission denied")] ∧
    ∀ later : List (Operations × List UInt8), (∀ call ∈ later, call.1.Succeed call.2) →
      (((RotatingWriter.mk 5 ⟨some [3, 4, 5], none⟩ true 3).writes
        [(⟨none, none, some "permission denied", none, 9, none⟩, [6, 7, 8])]).2.writes later).1 =
          later.map fun call => (call.2.length, none) := by
  have recovers := recovers_iff 5 none none ⟨some [3, 4, 5], none⟩
    ⟨5, ⟨some [3, 4, 5], none⟩, true, 3⟩ rfl
    [(⟨none, none, some "permission denied", none, 9, none⟩, [6, 7, 8])]
  apply And.intro (by decide)
  apply recovers.mpr
  intro before call later heq _
  have hmem : call ∈ [((⟨none, none, some "permission denied", none, 9, none⟩ : Operations),
      ([6, 7, 8] : List UInt8))] := by
    rw [heq]
    simp
  rw [mem_singleton.mp hmem]

/-- The directory cannot be written for the time of one rotation: neither renaming the log nor
opening it succeeds. Afterwards everything does, and still the calls are refused. -/
theorem stays_closed : openRotatingWriter 5 none none ⟨some [3, 4, 5], none⟩ =
      .ok ⟨5, ⟨some [3, 4, 5], none⟩, true, 3⟩ ∧
    Operations.Succeed ⟨none, none, none, none, 9, none⟩ [6, 7, 8] ∧
    (RotatingWriter.mk 5 ⟨some [3, 4, 5], none⟩ true 3).writes
      [(⟨none, none, some "permission denied", some (.openFile "permission denied"), 9, none⟩,
          [6, 7, 8]),
        (⟨none, none, none, none, 9, none⟩, [6, 7, 8])] =
      ([(0, some ("rotate log: permission denied; " ++
          "reopen active log: open log file: permission denied")),
        (0, some "file already closed")],
        ⟨5, ⟨some [3, 4, 5], none⟩, false, 3⟩) := by
  refine ⟨rfl, ?_, by decide⟩
  simp [Operations.Succeed]

end HarmonyNetBridge.Logging
