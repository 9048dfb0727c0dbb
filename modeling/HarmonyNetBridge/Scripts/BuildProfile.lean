import Mathlib.Logic.Function.Basic
import HarmonyNetBridge.Json.Dumps

/-! The build profile that `ohos_signing_secret.py` rewrites, and what it reads back. -/
namespace HarmonyNetBridge.Scripts
open Json List Function

def apostrophe : ℕ := 39

/-- The rest of a text behind the end of a comment of several lines. -/
def skipBlock : List ℕ → List ℕ
  | 42 :: 47 :: rest => rest
  | _ :: rest => skipBlock rest
  | [] => []

theorem length_skipBlock_le (text : List ℕ) : (skipBlock text).length ≤ text.length := by
  fun_induction skipBlock text with
  | case1 rest => simp only [length_cons]; omega
  | case2 c rest hend ih => simp only [length_cons]; omega
  | case3 => exact Nat.le_refl _

/-- The loop of `_strip_json5_comments`, from a state and the rest of the text. -/
def stripComments (quote : Option ℕ) (escaped : Bool) : List ℕ → List ℕ
  | [] => []
  | current :: rest =>
    match quote with
    | some q =>
      current ::
        if escaped then stripComments (some q) false rest
        else if current = backslash then stripComments (some q) true rest
        else if current = q then stripComments none escaped rest
        else stripComments (some q) escaped rest
    | none =>
      if current = quotationMark ∨ current = apostrophe then
        current :: stripComments (some current) escaped rest
      else if current = 47 ∧ rest.head? = some 47 then
        stripComments none escaped (rest.tail.dropWhile fun c => c ≠ 13 ∧ c ≠ 10)
      else if current = 47 ∧ rest.head? = some 42 then
        stripComments none escaped (skipBlock rest.tail)
      else current :: stripComments none escaped rest
termination_by text => text.length
decreasing_by
  all_goals simp only [length_cons]
  all_goals try omega
  · have hle : (rest.tail.dropWhile fun c => decide (c ≠ 13 ∧ c ≠ 10)).length ≤
        rest.tail.length := (List.dropWhile_suffix _).length_le
    rw [length_tail] at hle
    omega
  · have hle := length_skipBlock_le rest.tail
    rw [length_tail] at hle
    omega

/-- The code points for which `str.isspace` holds. -/
def spaces : List ℕ :=
  [9, 10, 11, 12, 13, 28, 29, 30, 31, 32, 133, 160, 5760, 8192, 8193, 8194, 8195, 8196, 8197, 8198,
    8199, 8200, 8201, 8202, 8232, 8233, 8239, 8287, 12288]

def isSpace (c : ℕ) : Bool := spaces.contains c

/-- Whether a text is closed by a bracket or a brace after some space. -/
def closes (space : ℕ → Bool) (text : List ℕ) : Bool :=
  match text.dropWhile space with
  | [] => false
  | c :: _ => c == rightBrace || c == rightBracket

/-- The replacement of every comma that only space separates from a closing bracket or brace. -/
def removeCommas (space : ℕ → Bool) : List ℕ → List ℕ
  | [] => []
  | c :: rest =>
    if c = comma ∧ closes space rest = true then removeCommas space rest
    else c :: removeCommas space rest

/-- The newlines that a file opened as text has. -/
def universalNewlines : List ℕ → List ℕ
  | 13 :: 10 :: rest => 10 :: universalNewlines rest
  | 13 :: rest => 10 :: universalNewlines rest
  | c :: rest => c :: universalNewlines rest
  | [] => []

structure Path where
  directory : List Char
  name : List Char
  deriving DecidableEq, Repr

def Path.text (path : Path) : List Char := path.directory ++ '/' :: path.name

/-- What reading the file gives, which may be the text of an error. -/
abbrev Files := Path → Except (List Char) (List ℕ)

def noSuchFile (path : Path) : List Char :=
  "[Errno 2] No such file or directory: ".toList ++ Char.ofNat 39 :: (path.text ++ [Char.ofNat 39])

def loadJson5 (loads : List ℕ → Except (List Char) Json) (files : Files) (path : Path) :
    Except (List Char) (List (List ℕ × Json)) :=
  let data := do
    let text ← files path
    let text := stripComments none false (universalNewlines text)
    loads (removeCommas isSpace text)
  match data with
  | .error error =>
    .error ("Unable to read supported JSON5 from ".toList ++ path.text ++ ": ".toList ++ error)
  | .ok (.object data) => .ok data
  | .ok _ => .error ("Expected a JSON object in ".toList ++ path.text ++ ".".toList)

/-- The code points that UTF-8 has no encoding for. -/
def isSurrogate (c : ℕ) : Bool := 0xD800 ≤ c && c ≤ 0xDFFF

/-- The exception that `write_text` raises, with the place of the first such code point. -/
structure UnicodeEncodeError where
  position : ℕ
  deriving DecidableEq, Repr

/-- The file is written under another name, which is then replaced. A text that cannot be encoded
leaves an empty file of that name. -/
def writeJson5 (files : Files) (path : Path) (data : List (List ℕ × Json)) :
    Files × Except UnicodeEncodeError Unit :=
  let temporary := { path with name := '.' :: (path.name ++ ".tmp".toList) }
  let text := dumps 2 0 (.object data) ++ [10]
  match text.findIdx? isSurrogate with
  | some position => (update files temporary (.ok []), .error ⟨position⟩)
  | none =>
    let written := update files temporary (.ok text)
    (update (update written path (written temporary)) temporary
      (.error (noSuchFile temporary)), .ok ())

/-- `json.loads`, as far as it undoes `json.dumps`. Of the members with one key it keeps the last. -/
structure Loads where
  loads : List ℕ → Except (List Char) Json
  loads_dumps : ∀ v, loads (dumps 2 0 v ++ [10]) = .ok (collapse v)

open Classical in
/-- There is such a function, since values with one text are equal. -/
noncomputable def Loads.inverse : Loads where
  loads text := if h : ∃ v, text = dumps 2 0 v ++ [10] then .ok (collapse h.choose) else .error []
  loads_dumps v := by
    have hexists : ∃ w, dumps 2 0 v ++ [10] = dumps 2 0 w ++ [10] := ⟨v, rfl⟩
    have heq : v = hexists.choose :=
      dumps_injective 2 0 (append_cancel_right hexists.choose_spec)
    rw [dif_pos hexists, ← heq]

/-! The text that is written has no comments -/

variable {c : ℕ} {digits s : List ℕ} {space : ℕ → Bool}

theorem ne_of_isPlain {d : ℕ} (h : isPlain c = true) (hd : isPlain d = false) : c ≠ d := by
  rintro rfl
  rw [h] at hd
  cases hd

theorem universalNewlines_cons (h : c ≠ 13) (rest : List ℕ) :
    universalNewlines (c :: rest) = c :: universalNewlines rest := by
  rw [universalNewlines]
  · intro rest' heq
    exact absurd heq h
  · exact h

theorem universalNewlines_append {text : List ℕ} (h : 13 ∉ text) (rest : List ℕ) :
    universalNewlines (text ++ rest) = text ++ universalNewlines rest := by
  induction text with
  | nil => rfl
  | cons c text ih =>
    rw [mem_cons, not_or] at h
    rw [cons_append, universalNewlines_cons (Ne.symm h.1), ih h.2, cons_append]

theorem return_not_mem_escape (s : List ℕ) : 13 ∉ escape s := by
  intro hmem
  obtain ⟨c, _, hc⟩ := mem_flatMap.mp hmem
  by_cases hspecial : c ∈ specials
  · have hall : specials.all (fun c => !(escapeChar c).contains 13) = true := by decide
    have hnot := all_eq_true.mp hall c hspecial
    simp [hc] at hnot
  · rw [escapeChar_of_not_mem hspecial, mem_singleton] at hc
    exact hspecial (hc ▸ by decide)

theorem pass_universalNewlines : Pass universalNewlines id where
  plain c rest h := universalNewlines_cons (ne_of_isPlain h (by decide)) rest
  between n c rest _ := universalNewlines_cons (by decide) _
  quoted s rest := by
    apply universalNewlines_append
    unfold quoted
    rw [mem_cons, mem_append, mem_singleton]
    rintro (heq | hmem | heq)
    · exact absurd heq (by decide)
    · exact return_not_mem_escape s hmem
    · exact absurd heq (by decide)

theorem stripComments_cons (hquotation : c ≠ quotationMark) (hapostrophe : c ≠ apostrophe)
    (hslash : c ≠ 47) (rest : List ℕ) :
    stripComments none false (c :: rest) = c :: stripComments none false rest := by
  rw [stripComments]
  simp [hquotation, hapostrophe, hslash]

theorem stripComments_plain {q : ℕ} (hbackslash : c ≠ backslash) (hquote : c ≠ q) (rest : List ℕ) :
    stripComments (some q) false (c :: rest) = c :: stripComments (some q) false rest := by
  rw [stripComments]
  simp [hbackslash, hquote]

theorem stripComments_escaped (q c : ℕ) (rest : List ℕ) :
    stripComments (some q) false (backslash :: c :: rest) =
      backslash :: c :: stripComments (some q) false rest := by
  rw [stripComments]
  simp only [Bool.false_eq_true, if_false, if_true]
  rw [stripComments]
  simp only [if_true]

theorem stripComments_digits (h : ∀ d ∈ digits, isAlphanum d = true) (rest : List ℕ) :
    stripComments (some quotationMark) false (digits ++ rest) =
      digits ++ stripComments (some quotationMark) false rest := by
  induction digits with
  | nil => rfl
  | cons d digits ih =>
    rw [forall_mem_cons] at h
    have hne {c : ℕ} (hc : isAlphanum c = false) : d ≠ c := by
      rintro rfl
      rw [h.1] at hc
      cases hc
    rw [cons_append, stripComments_plain (hne (by decide)) (hne (by decide)), ih h.2,
      cons_append]

theorem stripComments_escape (s rest : List ℕ) :
    stripComments (some quotationMark) false (escape s ++ rest) =
      escape s ++ stripComments (some quotationMark) false rest := by
  induction s with
  | nil => rfl
  | cons c s ih =>
    rw [escape_cons, append_assoc]
    by_cases hspecial : c ∈ specials
    · obtain ⟨e, digits, hescape, _, hdigits⟩ := escapeChar_of_mem hspecial
      rw [hescape, cons_append, cons_append, stripComments_escaped,
        stripComments_digits hdigits, ih]
      simp only [cons_append, append_assoc]
    · rw [escapeChar_of_not_mem hspecial]
      rw [mem_specials, not_or, not_or] at hspecial
      rw [singleton_append, stripComments_plain hspecial.2.2 hspecial.2.1, ih,
        append_assoc, singleton_append]

theorem pass_stripComments : Pass (stripComments none false) id where
  plain c rest h := stripComments_cons (ne_of_isPlain h (by decide)) (ne_of_isPlain h (by decide))
    (ne_of_isPlain h (by decide)) rest
  between n c rest _ := stripComments_cons (by decide) (by decide) (by decide) _
  quoted s rest := by
    have hopen (text : List ℕ) : stripComments none false (quotationMark :: text) =
        quotationMark :: stripComments (some quotationMark) false text := by
      rw [stripComments]
      simp
    have hclose (text : List ℕ) :
        stripComments (some quotationMark) false (quotationMark :: text) =
          quotationMark :: stripComments none false text := by
      rw [stripComments]
      simp [show quotationMark ≠ backslash by decide]
    unfold quoted
    rw [cons_append, hopen, append_assoc, stripComments_escape, singleton_append,
      hclose]
    simp

/-! The commas that are removed -/

/-- The space that a string is written with as it is. -/
def literalSpace (c : ℕ) : Bool := isSpace c && decide (32 ≤ c)

def dropCommas : List ℕ → List ℕ := removeCommas literalSpace

/-- Whether a string has a comma that only literal space separates from a closing bracket or brace. -/
def hasTrailingComma : List ℕ → Bool
  | [] => false
  | c :: rest => (c == comma && closes literalSpace rest) || hasTrailingComma rest

theorem closes_cons (h : space c = true) (rest : List ℕ) :
    closes space (c :: rest) = closes space rest := by
  unfold closes
  rw [dropWhile_cons_of_pos h]

theorem closes_stop (h : space c = false) (rest : List ℕ) :
    closes space (c :: rest) = (c == rightBrace || c == rightBracket) := by
  unfold closes
  rw [dropWhile_cons_of_neg (by simp [h])]

theorem closes_escape (s rest : List ℕ) :
    closes isSpace (escape s ++ quotationMark :: rest) = closes literalSpace s := by
  induction s with
  | nil => exact closes_stop (by decide) rest
  | cons c s ih =>
    rw [escape_cons, append_assoc]
    by_cases hspecial : c ∈ specials
    · have hall : specials.all (fun c =>
          !literalSpace c && !(c == rightBrace || c == rightBracket)) = true := by
        decide
      have hnot := all_eq_true.mp hall c hspecial
      rw [Bool.and_eq_true, Bool.not_eq_true', Bool.not_eq_true'] at hnot
      obtain ⟨e, digits, hescape, _⟩ := escapeChar_of_mem hspecial
      rw [hescape, cons_append, closes_stop (by decide), closes_stop hnot.1, hnot.2]
      decide
    · rw [escapeChar_of_not_mem hspecial, singleton_append]
      rw [mem_specials, not_or] at hspecial
      have hspace : literalSpace c = isSpace c := by
        unfold literalSpace
        rw [decide_eq_true (by omega), Bool.and_true]
      cases hc : isSpace c with
      | true => rw [closes_cons hc, closes_cons (hspace.trans hc), ih]
      | false => rw [closes_stop hc, closes_stop (hspace.trans hc)]

theorem removeCommas_cons (h : c ≠ comma) (rest : List ℕ) :
    removeCommas space (c :: rest) = c :: removeCommas space rest := by
  rw [removeCommas, if_neg fun hc => h hc.1]

theorem removeCommas_digits (h : ∀ d ∈ digits, isAlphanum d = true) (rest : List ℕ) :
    removeCommas isSpace (digits ++ rest) = digits ++ removeCommas isSpace rest := by
  induction digits with
  | nil => rfl
  | cons d digits ih =>
    rw [forall_mem_cons] at h
    have hne : d ≠ comma := by
      rintro rfl
      exact absurd h.1 (by decide)
    rw [cons_append, removeCommas_cons hne, ih h.2, cons_append]

theorem removeCommas_escape (s rest : List ℕ) :
    removeCommas isSpace (escape s ++ quotationMark :: rest) =
      escape (dropCommas s) ++ quotationMark :: removeCommas isSpace rest := by
  unfold dropCommas
  induction s with
  | nil => exact removeCommas_cons (by decide) rest
  | cons c s ih =>
    rw [escape_cons, append_assoc]
    by_cases hspecial : c ∈ specials
    · have hcomma : c ≠ comma := by
        rintro rfl
        exact absurd hspecial (by decide)
      obtain ⟨e, digits, hescape, he, hdigits⟩ := escapeChar_of_mem hspecial
      rw [removeCommas_cons hcomma, escape_cons, hescape, cons_append, cons_append,
        removeCommas_cons (by decide), removeCommas_cons he, removeCommas_digits hdigits, ih]
      simp only [cons_append, append_assoc]
    · have hescape := escapeChar_of_not_mem hspecial
      rw [hescape, singleton_append]
      by_cases hremoved : c = comma ∧ closes literalSpace s = true
      · rw [removeCommas, if_pos ⟨hremoved.1, (closes_escape s rest).trans hremoved.2⟩, removeCommas,
          if_pos hremoved, ih]
      · rw [removeCommas, if_neg (by rwa [closes_escape]), removeCommas, if_neg hremoved, ih,
          escape_cons, hescape]
        rfl

theorem isSpace_charKind (h : isSpace c = true) : charKind c = 7 := by
  have hall : ∀ c ∈ spaces, charKind c = 7 := by decide
  exact hall c (contains_iff_mem.mp h)

theorem pass_removeCommas : Pass (removeCommas isSpace) dropCommas where
  plain c rest h := removeCommas_cons (ne_of_isPlain h (by decide)) rest
  between n c rest h := by
    have hspace : isSpace c = false := by
      rw [← Bool.not_eq_true]
      intro hc
      exact h (isSpace_charKind hc)
    have hclose : (c == rightBrace || c == rightBracket) = false := by
      rw [Bool.or_eq_false_iff, beq_eq_false_iff_ne, beq_eq_false_iff_ne]
      constructor
      · rintro rfl
        exact h (by decide)
      · rintro rfl
        exact h (by decide)
    have hblanks : closes isSpace (List.replicate n blank ++ c :: rest) = false := by
      induction n with
      | zero => exact (closes_stop hspace rest).trans hclose
      | succ n ih => rw [replicate_succ, cons_append, closes_cons (by decide), ih]
    rw [removeCommas, if_neg]
    rw [closes_cons (by decide), hblanks]
    simp
  quoted s rest := by
    unfold quoted
    rw [cons_append, removeCommas_cons (by decide), append_assoc, singleton_append,
      removeCommas_escape]
    simp

/-- What `json.loads` is given is the text of the value with other strings. -/
theorem readText_dumps (v : Json) :
    removeCommas isSpace (stripComments none false (universalNewlines (dumps 2 0 v ++ [10]))) =
      dumps 2 0 (mapStrings dropCommas v) ++ [10] := by
  have hid : mapStrings id v = v := mapStrings_eq_self v fun s _ => rfl
  rw [pass_universalNewlines.dumps, hid, show universalNewlines [10] = [10] from rfl,
    pass_stripComments.dumps, hid,
    show stripComments none false [10] = [10] by decide +kernel, pass_removeCommas.dumps]
  rfl

/-! The texts that can be encoded -/

def dropSurrogates (text : List ℕ) : List ℕ := text.filter fun c => !isSurrogate c

theorem dropSurrogates_escape (s : List ℕ) :
    dropSurrogates (escape s) = escape (dropSurrogates s) := by
  unfold dropSurrogates
  induction s with
  | nil => rfl
  | cons c s ih =>
    rw [escape_cons, filter_append, ih]
    by_cases hspecial : c ∈ specials
    · have hall : ∀ c ∈ specials, isSurrogate c = false ∧
          (escapeChar c).filter (fun c => !isSurrogate c) = escapeChar c := by decide
      obtain ⟨hc, hescape⟩ := hall c hspecial
      rw [hescape, filter_cons_of_pos (by simp [hc]), escape_cons]
    · cases hc : isSurrogate c <;> simp [hc, escape_cons, escapeChar_of_not_mem hspecial]

theorem pass_dropSurrogates : Pass dropSurrogates dropSurrogates where
  plain c rest h := by
    have hall : ∀ c ∈ plainChars, isSurrogate c = false := by decide
    have hc : isSurrogate c = false := by
      rw [isPlain, Bool.or_eq_true, contains_iff_mem] at h
      rcases h with h | h
      · have hnumber : c < 102 := by
          simp only [isNumberChar, Bool.or_eq_true, Bool.and_eq_true, decide_eq_true_eq, beq_iff_eq,
            Char.reduceToNat] at h
          omega
        simp [isSurrogate]
        omega
      · exact hall c h
    exact filter_cons_of_pos (by simp [hc])
  between n c rest _ := filter_cons_of_pos (by decide)
  quoted s rest := by
    have hescape := dropSurrogates_escape s
    have hquotation : isSurrogate quotationMark = false := by decide
    unfold dropSurrogates at hescape ⊢
    simp [quoted, hquotation, hescape]

/-- The text of a value can be encoded if its strings and keys can. -/
theorem findIdx_surrogate (v : Json) : (dumps 2 0 v ++ [10]).findIdx? isSurrogate = none ↔
    ∀ s ∈ strings v, ∀ c ∈ s, isSurrogate c = false := by
  have hself (text : List ℕ) :
      (∀ c ∈ text, isSurrogate c = false) ↔ dropSurrogates text = text := by
    simp [dropSurrogates]
  have hvalue : mapStrings dropSurrogates v = v ↔ ∀ s ∈ strings v, dropSurrogates s = s := by
    refine ⟨fun h => ?_, mapStrings_eq_self v⟩
    have hmap : (strings v).map dropSurrogates = (strings v).map id := by
      rw [← strings_mapStrings, h, map_id]
    exact map_eq_map_iff.mp hmap
  rw [List.findIdx?_eq_none_iff, hself, pass_dropSurrogates.dumps,
    show dropSurrogates [10] = [10] by decide, append_left_inj, (dumps_injective 2 0).eq_iff,
    hvalue]
  simp only [hself]

theorem writeJson5_encoded {data : List (List ℕ × Json)}
    (h : (dumps 2 0 (.object data) ++ [10]).findIdx? isSurrogate = none) (files : Files)
    (path : Path) : (writeJson5 files path data).2 = .ok () ∧
      (writeJson5 files path data).1 path = .ok (dumps 2 0 (.object data) ++ [10]) := by
  have hne : path ≠ { path with name := '.' :: (path.name ++ ".tmp".toList) } := by
    intro heq
    have hlen := congrArg (fun p => p.name.length) heq
    simp only [length_cons, length_append] at hlen
    omega
  unfold writeJson5
  simp only [h]
  rw [update_of_ne hne, update_self, update_self]
  exact ⟨trivial, rfl⟩

theorem loadJson5_encoded (l : Loads) {files : Files} {path : Path} {data : List (List ℕ × Json)}
    (h : files path = .ok (dumps 2 0 (.object data) ++ [10])) :
    loadJson5 l.loads files path = .ok (dict (collapseMembers (mapMembers dropCommas data))) := by
  have hloads := l.loads_dumps (mapStrings dropCommas (.object data))
  rw [← readText_dumps] at hloads
  unfold loadJson5
  simp only [h, bind, Except.bind, hloads, mapStrings, collapse]

theorem length_dropCommas_le (s : List ℕ) : (dropCommas s).length ≤ s.length := by
  unfold dropCommas
  induction s with
  | nil => exact Nat.le_refl _
  | cons c s ih =>
    unfold removeCommas
    split
    · exact Nat.le_succ_of_le ih
    · exact Nat.succ_le_succ ih

theorem dropCommas_eq_self (h : hasTrailingComma s = false) : dropCommas s = s := by
  unfold dropCommas
  induction s with
  | nil => rfl
  | cons c s ih =>
    rw [hasTrailingComma, Bool.or_eq_false_iff] at h
    rw [removeCommas, ih h.2, if_neg]
    rintro ⟨rfl, hcloses⟩
    rw [hcloses] at h
    exact absurd h.1 (by decide)

theorem length_dropCommas_lt (h : hasTrailingComma s = true) :
    (dropCommas s).length < s.length := by
  induction s with
  | nil => cases h
  | cons c s ih =>
    have hle := length_dropCommas_le s
    rw [hasTrailingComma, Bool.or_eq_true, Bool.and_eq_true, beq_iff_eq] at h
    unfold dropCommas at hle ih ⊢
    rw [removeCommas]
    split
    · exact Nat.lt_succ_of_le hle
    · rename_i hkept
      exact Nat.succ_lt_succ (ih (h.resolve_left hkept))

theorem no_trailing_comma_of_size {ss : List (List ℕ)}
    (h : size ss ≤ size (ss.map dropCommas)) : ∀ s ∈ ss, hasTrailingComma s = false := by
  have hsize (ss : List (List ℕ)) : size (ss.map dropCommas) ≤ size ss := by
    induction ss with
    | nil => exact Nat.le_refl _
    | cons s ss ih =>
      rw [map_cons, size_cons, size_cons]
      exact Nat.add_le_add (length_dropCommas_le s) ih
  induction ss with
  | nil => simp
  | cons s ss ih =>
    rw [map_cons, size_cons, size_cons] at h
    have hrest := hsize ss
    have hlen := length_dropCommas_le s
    rw [forall_mem_cons]
    constructor
    · rw [← Bool.not_eq_true]
      intro hcomma
      have hlt := length_dropCommas_lt hcomma
      omega
    · apply ih
      omega

/-- A profile is written and read back as it was if, and only if, no string and no key in it has a
comma that only space separates from a closing bracket or brace, and none has a surrogate. -/
theorem loadJson5_writeJson5_iff (l : Loads) (files : Files) (path : Path)
    (data : List (List ℕ × Json)) (hdistinct : Distinct (.object data)) :
    ((writeJson5 files path data).2 = .ok () ∧
        loadJson5 l.loads (writeJson5 files path data).1 path = .ok data) ↔
      ∀ s ∈ strings (.object data), hasTrailingComma s = false ∧ ∀ c ∈ s, isSurrogate c = false := by
  rw [forall₂_and, ← findIdx_surrogate]
  cases hencoded : (dumps 2 0 (.object data) ++ [10]).findIdx? isSurrogate with
  | some position => simp [writeJson5, hencoded]
  | none =>
    obtain ⟨hok, htext⟩ := writeJson5_encoded hencoded files path
    rw [loadJson5_encoded l htext, hok]
    simp only [true_and, and_true]
    constructor
    · intro h
      have hvalue : collapse (mapStrings dropCommas (.object data)) = .object data := by
        rw [mapStrings, collapse, Except.ok.inj h]
      have hsize := size_collapse_le (mapStrings dropCommas (.object data))
      rw [hvalue, strings_mapStrings] at hsize
      exact no_trailing_comma_of_size hsize
    · intro h
      have hvalue : mapStrings dropCommas (.object data) = .object data :=
        mapStrings_eq_self _ fun s hs => dropCommas_eq_self (h s hs)
      have hmembers : mapMembers dropCommas data = data := by
        rw [mapStrings] at hvalue
        exact Json.object.inj hvalue
      have hcollapse := collapse_of_distinct _ hdistinct
      rw [collapse] at hcollapse
      rw [hmembers, Json.object.inj hcollapse]

def profileOf (s : List ℕ) : List (List ℕ × Json) := [(['a'], .string s)]

theorem distinct_profileOf (s : List ℕ) : Distinct (.object (profileOf s)) := by
  simp [profileOf, Distinct, DistinctMembers]

theorem loadJson5_writeJson5_comma : Distinct (.object (profileOf [',', 'b'])) ∧
    loadJson5 Loads.inverse.loads
      (writeJson5 (fun path => .error (noSuchFile path)) ⟨['h'], ['p']⟩ (profileOf [',', 'b'])).1
      ⟨['h'], ['p']⟩ = .ok (profileOf [',', 'b']) := by
  refine ⟨distinct_profileOf _, ?_⟩
  refine ((loadJson5_writeJson5_iff Loads.inverse (fun path => .error (noSuchFile path))
    ⟨['h'], ['p']⟩ _ (distinct_profileOf [',', 'b'])).mpr ?_).2
  simp only [profileOf, strings, memberStrings, append_nil]
  decide

/-- The string `",]"` is read back as `"]"`. -/
theorem profile_loses_comma : Distinct (.object (profileOf [',', ']'])) ∧
    loadJson5 Loads.inverse.loads
      (writeJson5 (fun path => .error (noSuchFile path)) ⟨['h'], ['p']⟩ (profileOf [',', ']'])).1
      ⟨['h'], ['p']⟩ = .ok (profileOf [']']) ∧
    profileOf [']'] ≠ profileOf [',', ']'] := by
  refine ⟨distinct_profileOf _, ?_, by simp [profileOf]⟩
  have hencoded : (dumps 2 0 (.object (profileOf [',', ']'])) ++ [10]).findIdx? isSurrogate = none := by
    decide
  rw [loadJson5_encoded _ (writeJson5_encoded hencoded _ _).2]
  rfl

end HarmonyNetBridge.Scripts
