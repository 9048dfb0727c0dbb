import Mathlib.Data.List.Nodup
import Mathlib.Data.Nat.Digits.Defs

/-! JSON values and their indented text. A text is the list of its code points, of which some may be
surrogates. -/

namespace Json

scoped instance charCode : Coe Char ℕ := ⟨Char.toNat⟩

def quotationMark : ℕ := 34
def backslash : ℕ := 92
def leftBrace : ℕ := 123
def rightBrace : ℕ := 125
def rightBracket : ℕ := 93
def comma : ℕ := 44
def blank : ℕ := 32

def separator : List ℕ := [':', ' ']

def isNumberChar (c : ℕ) : Bool :=
  (48 ≤ c && c ≤ 57) || c == '+' || c == '-' || c == '.' || c == 'e' || c == 'E'

def isAlphanum (c : ℕ) : Bool := (Char.ofNat c).isAlphanum

/-- A number, as the text that it is printed as. -/
structure Number where
  text : List ℕ
  ne_nil : text ≠ []
  plain : ∀ c ∈ text, isNumberChar c = true

end Json

/-- An object is the list of its members, in order. -/
inductive Json where
  | null
  | bool (b : Bool)
  | number (n : Json.Number)
  | string (s : List ℕ)
  | array (elements : List Json)
  | object (members : List (List ℕ × Json))

namespace Json
open List

/-- The characters that have an escape of their own, and the letters for them. -/
def shortEscapes : List (ℕ × ℕ) :=
  [(quotationMark, quotationMark), (backslash, backslash), (10, 'n'), (13, 'r'), (9, 't'),
    (12, 'f'), (8, 'b')]

/-- Only quotation marks, backslashes and control characters are escaped. -/
def escapeChar (c : ℕ) : List ℕ :=
  match shortEscapes.lookup c with
  | some e => [backslash, e]
  | none =>
    if c < 32 then
      [backslash, 'u', '0', '0', Nat.digitChar (c / 16), Nat.digitChar (c % 16)]
    else [c]

def escape (s : List ℕ) : List ℕ := s.flatMap escapeChar

def quoted (s : List ℕ) : List ℕ := quotationMark :: (escape s ++ [quotationMark])

def newline (indent level : ℕ) : List ℕ := '\n' :: List.replicate (indent * level) blank

mutual

/-- The text of a value whose first line is already indented. -/
def dumps (indent level : ℕ) : Json → List ℕ
  | null => ['n', 'u', 'l', 'l']
  | bool true => ['t', 'r', 'u', 'e']
  | bool false => ['f', 'a', 'l', 's', 'e']
  | number n => n.text
  | string s => quoted s
  | array [] => ['[', rightBracket]
  | array (v :: vs) =>
    '[' :: (newline indent (level + 1) ++ dumps indent (level + 1) v ++ dumpsElements indent level vs)
  | object [] => [leftBrace, rightBrace]
  | object ((key, v) :: ms) =>
    leftBrace :: (newline indent (level + 1) ++ quoted key ++ separator ++
      dumps indent (level + 1) v ++ dumpsMembers indent level ms)

def dumpsElements (indent level : ℕ) : List Json → List ℕ
  | [] => newline indent level ++ [rightBracket]
  | v :: vs =>
    comma :: (newline indent (level + 1) ++ dumps indent (level + 1) v ++ dumpsElements indent level vs)

def dumpsMembers (indent level : ℕ) : List (List ℕ × Json) → List ℕ
  | [] => newline indent level ++ [rightBrace]
  | (key, v) :: ms =>
    comma :: (newline indent (level + 1) ++ quoted key ++ separator ++
      dumps indent (level + 1) v ++ dumpsMembers indent level ms)

end

mutual

def strings : Json → List (List ℕ)
  | string s => [s]
  | array vs => elementStrings vs
  | object ms => memberStrings ms
  | _ => []

def elementStrings : List Json → List (List ℕ)
  | [] => []
  | v :: vs => strings v ++ elementStrings vs

def memberStrings : List (List ℕ × Json) → List (List ℕ)
  | [] => []
  | (key, v) :: ms => key :: (strings v ++ memberStrings ms)

end

mutual

def mapStrings (f : List ℕ → List ℕ) : Json → Json
  | string s => string (f s)
  | array vs => array (mapElements f vs)
  | object ms => object (mapMembers f ms)
  | v => v

def mapElements (f : List ℕ → List ℕ) : List Json → List Json
  | [] => []
  | v :: vs => mapStrings f v :: mapElements f vs

def mapMembers (f : List ℕ → List ℕ) : List (List ℕ × Json) → List (List ℕ × Json)
  | [] => []
  | (key, v) :: ms => (f key, mapStrings f v) :: mapMembers f ms

end

/-- The assignment of a value to a key, which keeps its place if there is one. -/
def setItem (ms : List (List ℕ × Json)) (m : List ℕ × Json) : List (List ℕ × Json) :=
  match ms with
  | [] => [m]
  | n :: ms => if n.1 = m.1 then m :: ms else n :: setItem ms m

/-- The dictionary of members that have been read one after another. -/
def dict (ms : List (List ℕ × Json)) : List (List ℕ × Json) := ms.foldl setItem []

mutual

/-- The value with a dictionary for every object: of the members with one key the last one counts. -/
def collapse : Json → Json
  | array vs => array (collapseElements vs)
  | object ms => object (dict (collapseMembers ms))
  | v => v

def collapseElements : List Json → List Json
  | [] => []
  | v :: vs => collapse v :: collapseElements vs

def collapseMembers : List (List ℕ × Json) → List (List ℕ × Json)
  | [] => []
  | (key, v) :: ms => (key, collapse v) :: collapseMembers ms

end

mutual

def Distinct : Json → Prop
  | array vs => DistinctElements vs
  | object ms => (ms.map Prod.fst).Nodup ∧ DistinctMembers ms
  | _ => True

def DistinctElements : List Json → Prop
  | [] => True
  | v :: vs => Distinct v ∧ DistinctElements vs

def DistinctMembers : List (List ℕ × Json) → Prop
  | [] => True
  | (_, v) :: ms => Distinct v ∧ DistinctMembers ms

end

/-! What a text begins with -/

def kind : Json → ℕ
  | null => 0
  | bool true => 1
  | bool false => 2
  | number _ => 3
  | string _ => 4
  | array _ => 5
  | object _ => 6

/-- The kind of the values whose text begins with a character, or 7. -/
def charKind (c : ℕ) : ℕ :=
  if c = 'n' then 0
  else if c = 't' then 1
  else if c = 'f' then 2
  else if isNumberChar c = true then 3
  else if c = quotationMark then 4
  else if c = '[' then 5
  else if c = leftBrace then 6
  else 7

variable {c : ℕ} {x y s t : List ℕ}

theorem charKind_of_isNumberChar (h : isNumberChar c = true) : charKind c = 3 := by
  have hn : c ≠ 'n' := by
    rintro rfl
    exact absurd h (by decide)
  have ht : c ≠ 't' := by
    rintro rfl
    exact absurd h (by decide)
  have hf : c ≠ 'f' := by
    rintro rfl
    exact absurd h (by decide)
  unfold charKind
  rw [if_neg hn, if_neg ht, if_neg hf, if_pos h]

theorem dumps_eq_cons (indent level : ℕ) (v : Json) :
    ∃ c text, dumps indent level v = c :: text ∧ charKind c = kind v := by
  cases v with
  | null => exact ⟨_, _, rfl, rfl⟩
  | bool b => cases b <;> exact ⟨_, _, rfl, rfl⟩
  | number n =>
    obtain ⟨c, text, htext⟩ := exists_cons_of_ne_nil n.ne_nil
    refine ⟨c, text, htext, ?_⟩
    apply charKind_of_isNumberChar
    apply n.plain
    rw [htext]
    exact mem_cons_self
  | string s => exact ⟨_, _, rfl, rfl⟩
  | array vs =>
    cases vs with
    | nil => exact ⟨_, _, rfl, rfl⟩
    | cons v vs => exact ⟨'[', _, by rw [dumps], rfl⟩
  | object ms =>
    cases ms with
    | nil => exact ⟨_, _, rfl, rfl⟩
    | cons m ms => exact ⟨leftBrace, _, by rw [dumps], rfl⟩

/-- The characters that begin an escape. -/
def specials : List ℕ := List.range 32 ++ [quotationMark, backslash]

theorem mem_specials : c ∈ specials ↔ c < 32 ∨ c = quotationMark ∨ c = backslash := by
  simp [specials]

theorem escapeChar_of_not_mem (h : c ∉ specials) : escapeChar c = [c] := by
  rw [mem_specials, not_or, not_or] at h
  obtain ⟨hcontrol, hquotation, hbackslash⟩ := h
  have hne {n : ℕ} (hn : n < 32) : (c == n) = false := by
    rw [beq_eq_false_iff_ne]
    omega
  have hlookup : shortEscapes.lookup c = none := by
    simp only [shortEscapes, lookup_cons, beq_eq_false_iff_ne.mpr hquotation,
      beq_eq_false_iff_ne.mpr hbackslash, hne (n := 10) (by decide), hne (n := 13) (by decide),
      hne (n := 9) (by decide), hne (n := 12) (by decide), hne (n := 8) (by decide),
      lookup_nil]
  unfold escapeChar
  rw [hlookup]
  exact if_neg hcontrol

theorem escapeChar_of_mem (h : c ∈ specials) : ∃ e digits, escapeChar c = backslash :: e :: digits ∧
      e ≠ comma ∧ ∀ d ∈ digits, isAlphanum d = true := by
  have hall : specials.all (fun c => (escapeChar c).head? == some backslash &&
      decide ((escapeChar c).length ≥ 2) && (escapeChar c).tail.head? != some comma &&
      ((escapeChar c).drop 2).all isAlphanum) = true := by
    decide
  have hescape := all_eq_true.mp hall c h
  simp only [Bool.and_eq_true, beq_iff_eq, decide_eq_true_eq, bne_iff_ne, all_eq_true] at hescape
  obtain ⟨⟨⟨hhead, hlen⟩, hcomma⟩, hdigits⟩ := hescape
  match hescape : escapeChar c, hhead, hlen, hcomma, hdigits with
  | b :: e :: digits, hhead, _, hcomma, hdigits =>
    rw [Option.some.inj hhead]
    refine ⟨e, digits, rfl, ?_, hdigits⟩
    rintro rfl
    exact hcomma rfl

theorem backslash_mem_specials : backslash ∈ specials := by decide

theorem escapeChar_append_inj {d : ℕ} (h : escapeChar c ++ x = escapeChar d ++ y) :
    c = d ∧ x = y := by
  have hall : specials.all (fun c => specials.all fun d =>
      !(escapeChar c).isPrefixOf (escapeChar d) || c == d) = true := by
    decide
  have hcode (c : ℕ) (hc : c ∈ specials) (d : ℕ) (hd : d ∈ specials)
      (hpre : escapeChar c <+: escapeChar d) : c = d := by
    have hpair := all_eq_true.mp (all_eq_true.mp hall c hc) d hd
    rw [List.isPrefixOf_iff_prefix.mpr hpre] at hpair
    simpa using hpair
  have heq : c = d := by
    by_cases hc : c ∈ specials <;> by_cases hd : d ∈ specials
    · have hpre : escapeChar c <+: escapeChar d ++ y := h ▸ prefix_append _ _
      rcases List.prefix_or_prefix_of_prefix hpre (prefix_append _ _) with hle | hle
      · exact hcode c hc d hd hle
      · exact (hcode d hd c hc hle).symm
    · obtain ⟨e, digits, hescape, _⟩ := escapeChar_of_mem hc
      rw [hescape, escapeChar_of_not_mem hd] at h
      have hhead : backslash = d := (List.cons.inj h).1
      exact absurd (hhead ▸ backslash_mem_specials) hd
    · obtain ⟨e, digits, hescape, _⟩ := escapeChar_of_mem hd
      rw [hescape, escapeChar_of_not_mem hc] at h
      have hhead : c = backslash := (List.cons.inj h).1
      exact absurd (hhead ▸ backslash_mem_specials) hc
    · rw [escapeChar_of_not_mem hc, escapeChar_of_not_mem hd] at h
      exact (List.cons.inj h).1
  subst heq
  exact ⟨rfl, append_cancel_left h⟩

theorem escapeChar_append_ne (c : ℕ) (x y : List ℕ) : escapeChar c ++ x ≠ quotationMark :: y := by
  intro h
  by_cases hc : c ∈ specials
  · obtain ⟨e, digits, hescape, _⟩ := escapeChar_of_mem hc
    rw [hescape] at h
    exact absurd (List.cons.inj h).1 (by decide)
  · rw [escapeChar_of_not_mem hc] at h
    exact hc (mem_specials.mpr (Or.inr (Or.inl (List.cons.inj h).1)))

theorem escape_cons (c : ℕ) (s : List ℕ) : escape (c :: s) = escapeChar c ++ escape s :=
  flatMap_cons

theorem escape_append_inj (h : escape s ++ quotationMark :: x = escape t ++ quotationMark :: y) :
    s = t ∧ x = y := by
  induction s generalizing t with
  | nil =>
    cases t with
    | nil => exact ⟨rfl, (List.cons.inj h).2⟩
    | cons d t =>
      rw [escape_cons, append_assoc] at h
      exact absurd h.symm (escapeChar_append_ne _ _ _)
  | cons c s ih =>
    cases t with
    | nil =>
      rw [escape_cons, append_assoc] at h
      exact absurd h (escapeChar_append_ne _ _ _)
    | cons d t =>
      rw [escape_cons, escape_cons, append_assoc, append_assoc] at h
      obtain ⟨rfl, hrest⟩ := escapeChar_append_inj h
      obtain ⟨rfl, hxy⟩ := ih hrest
      exact ⟨rfl, hxy⟩

/-! The text determines the value -/

/-- What follows a number does not look like a part of it. -/
def Ends (rest : List ℕ) : Prop := ∀ c ∈ rest.head?, isNumberChar c = false

theorem ends_nil : Ends [] := by
  intro c hc
  cases hc

theorem ends_cons (h : isNumberChar c = false) (rest : List ℕ) : Ends (c :: rest) := by
  intro d hd
  cases hd
  exact h

theorem ends_dumpsElements (indent level : ℕ) (vs : List Json) (rest : List ℕ) :
    Ends (dumpsElements indent level vs ++ rest) := by
  cases vs with
  | nil =>
    rw [dumpsElements]
    exact ends_cons (by decide) _
  | cons v vs =>
    rw [dumpsElements]
    exact ends_cons (by decide) _

theorem ends_dumpsMembers (indent level : ℕ) (ms : List (List ℕ × Json)) (rest : List ℕ) :
    Ends (dumpsMembers indent level ms ++ rest) := by
  cases ms with
  | nil =>
    rw [dumpsMembers]
    exact ends_cons (by decide) _
  | cons m ms =>
    rw [dumpsMembers]
    exact ends_cons (by decide) _

theorem takeWhile_text (n : Number) {rest : List ℕ} (h : Ends rest) :
    (n.text ++ rest).takeWhile isNumberChar = n.text := by
  rw [takeWhile_append_of_pos n.plain]
  cases rest with
  | nil => simp
  | cons c rest => simp [h c rfl]

theorem text_append_inj {m n : Number} (hx : Ends x) (hy : Ends y) (h : m.text ++ x = n.text ++ y) :
    m = n ∧ x = y := by
  have htext : m.text = n.text := by
    rw [← takeWhile_text m hx, h, takeWhile_text n hy]
  rw [htext] at h
  cases m
  cases n
  cases htext
  exact ⟨rfl, append_cancel_left h⟩

theorem quoted_append_inj (h : quoted s ++ x = quoted t ++ y) : s = t ∧ x = y := by
  simp only [quoted, cons_append, append_assoc, nil_append] at h
  exact escape_append_inj (List.cons.inj h).2

mutual

theorem dumps_append_inj (indent level : ℕ) (v w : Json) {x y : List ℕ} (hx : Ends x)
    (hy : Ends y) (h : dumps indent level v ++ x = dumps indent level w ++ y) : v = w ∧ x = y := by
  have hkind : kind v = kind w := by
    obtain ⟨c, text, hv, hc⟩ := dumps_eq_cons indent level v
    obtain ⟨d, text', hw, hd⟩ := dumps_eq_cons indent level w
    rw [hv, hw] at h
    rw [← hc, ← hd, (List.cons.inj h).1]
  match v, w with
  | null, null => exact ⟨rfl, append_cancel_left h⟩
  | bool true, bool true => exact ⟨rfl, append_cancel_left h⟩
  | bool false, bool false => exact ⟨rfl, append_cancel_left h⟩
  | number m, number n =>
    obtain ⟨rfl, hxy⟩ := text_append_inj hx hy h
    exact ⟨rfl, hxy⟩
  | string s, string t =>
    obtain ⟨rfl, hxy⟩ := quoted_append_inj h
    exact ⟨rfl, hxy⟩
  | array vs, array ws =>
    match vs, ws with
    | [], [] => exact ⟨rfl, append_cancel_left h⟩
    | [], w :: ws => simp [dumps, newline, rightBracket] at h
    | v :: vs, [] => simp [dumps, newline, rightBracket] at h
    | v :: vs, w :: ws =>
      have hrest : dumpsElements indent level (v :: vs) ++ x =
          dumpsElements indent level (w :: ws) ++ y := by
        simp only [dumps, cons_append, List.cons.injEq, true_and] at h
        rw [dumpsElements, dumpsElements, cons_append, cons_append, h]
      obtain ⟨heq, hxy⟩ := dumpsElements_append_inj indent level (v :: vs) (w :: ws) hrest
      exact ⟨congrArg array heq, hxy⟩
  | object ms, object ns =>
    match ms, ns with
    | [], [] => exact ⟨rfl, append_cancel_left h⟩
    | [], n :: ns => simp [dumps, newline, rightBrace] at h
    | m :: ms, [] => simp [dumps, newline, rightBrace] at h
    | (key, v) :: ms, (key', w) :: ns =>
      have hrest : dumpsMembers indent level ((key, v) :: ms) ++ x =
          dumpsMembers indent level ((key', w) :: ns) ++ y := by
        simp only [dumps, cons_append, List.cons.injEq, true_and] at h
        rw [dumpsMembers, dumpsMembers, cons_append, cons_append, h]
      obtain ⟨heq, hxy⟩ :=
        dumpsMembers_append_inj indent level ((key, v) :: ms) ((key', w) :: ns) hrest
      exact ⟨congrArg object heq, hxy⟩

theorem dumpsElements_append_inj (indent level : ℕ) (vs ws : List Json) {x y : List ℕ}
    (h : dumpsElements indent level vs ++ x = dumpsElements indent level ws ++ y) :
    vs = ws ∧ x = y := by
  match vs, ws with
  | [], [] => exact ⟨rfl, append_cancel_left h⟩
  | [], w :: ws => simp [dumpsElements, newline, comma] at h
  | v :: vs, [] => simp [dumpsElements, newline, comma] at h
  | v :: vs, w :: ws =>
    simp only [dumpsElements, cons_append, append_assoc, List.cons.injEq, true_and] at h
    obtain ⟨rfl, hrest⟩ := dumps_append_inj indent (level + 1) v w
      (ends_dumpsElements indent level vs x) (ends_dumpsElements indent level ws y)
      (append_cancel_left h)
    obtain ⟨rfl, hxy⟩ := dumpsElements_append_inj indent level vs ws hrest
    exact ⟨rfl, hxy⟩

theorem dumpsMembers_append_inj (indent level : ℕ) (ms ns : List (List ℕ × Json)) {x y : List ℕ}
    (h : dumpsMembers indent level ms ++ x = dumpsMembers indent level ns ++ y) :
    ms = ns ∧ x = y := by
  match ms, ns with
  | [], [] => exact ⟨rfl, append_cancel_left h⟩
  | [], n :: ns => simp [dumpsMembers, newline, comma] at h
  | m :: ms, [] => simp [dumpsMembers, newline, comma] at h
  | (key, v) :: ms, (key', w) :: ns =>
    simp only [dumpsMembers, cons_append, append_assoc, List.cons.injEq, true_and] at h
    obtain ⟨rfl, hvalue⟩ := quoted_append_inj (append_cancel_left h)
    obtain ⟨rfl, hrest⟩ := dumps_append_inj indent (level + 1) v w
      (ends_dumpsMembers indent level ms x) (ends_dumpsMembers indent level ns y)
      (List.cons.inj (List.cons.inj hvalue).2).2
    obtain ⟨rfl, hxy⟩ := dumpsMembers_append_inj indent level ms ns hrest
    exact ⟨rfl, hxy⟩

end

theorem dumps_injective (indent level : ℕ) : Function.Injective (dumps indent level) := by
  intro v w h
  apply (dumps_append_inj indent level v w ends_nil ends_nil _).1
  rw [h]

/-! Strings and keys -/

mutual

theorem strings_mapStrings (f : List ℕ → List ℕ) :
    ∀ v : Json, strings (mapStrings f v) = (strings v).map f
  | null => rfl
  | bool _ => rfl
  | number _ => rfl
  | string _ => rfl
  | array vs => by
    rw [mapStrings, strings, strings]
    exact elementStrings_mapElements f vs
  | object ms => by
    rw [mapStrings, strings, strings]
    exact memberStrings_mapMembers f ms

theorem elementStrings_mapElements (f : List ℕ → List ℕ) :
    ∀ vs : List Json, elementStrings (mapElements f vs) = (elementStrings vs).map f
  | [] => rfl
  | v :: vs => by
    rw [mapElements, elementStrings, elementStrings, map_append, strings_mapStrings f v,
      elementStrings_mapElements f vs]

theorem memberStrings_mapMembers (f : List ℕ → List ℕ) :
    ∀ ms : List (List ℕ × Json), memberStrings (mapMembers f ms) = (memberStrings ms).map f
  | [] => rfl
  | (key, v) :: ms => by
    rw [mapMembers, memberStrings, memberStrings, map_cons, map_append,
      strings_mapStrings f v, memberStrings_mapMembers f ms]

end

mutual

theorem mapStrings_eq_self {f : List ℕ → List ℕ} :
    ∀ v : Json, (∀ s ∈ strings v, f s = s) → mapStrings f v = v
  | null, _ => rfl
  | bool _, _ => rfl
  | number _, _ => rfl
  | string s, h => by
    rw [mapStrings, h s (mem_singleton_self s)]
  | array vs, h => by
    rw [mapStrings, mapElements_eq_self vs h]
  | object ms, h => by
    rw [mapStrings, mapMembers_eq_self ms h]

theorem mapElements_eq_self {f : List ℕ → List ℕ} :
    ∀ vs : List Json, (∀ s ∈ elementStrings vs, f s = s) → mapElements f vs = vs
  | [], _ => rfl
  | v :: vs, h => by
    rw [elementStrings, forall_mem_append] at h
    rw [mapElements, mapStrings_eq_self v h.1, mapElements_eq_self vs h.2]

theorem mapMembers_eq_self {f : List ℕ → List ℕ} :
    ∀ ms : List (List ℕ × Json), (∀ s ∈ memberStrings ms, f s = s) → mapMembers f ms = ms
  | [], _ => rfl
  | (key, v) :: ms, h => by
    rw [memberStrings, forall_mem_cons, forall_mem_append] at h
    rw [mapMembers, h.1, mapStrings_eq_self v h.2.1, mapMembers_eq_self ms h.2.2]

end

/-- The number of the characters of some strings. -/
def size (strings : List (List ℕ)) : ℕ := (strings.map List.length).sum

theorem size_append (ss ts : List (List ℕ)) : size (ss ++ ts) = size ss + size ts := by
  unfold size
  rw [map_append, sum_append]

theorem size_cons (s : List ℕ) (ss : List (List ℕ)) : size (s :: ss) = s.length + size ss := by
  unfold size
  rw [map_cons, sum_cons]

theorem size_setItem_le (ms : List (List ℕ × Json)) (m : List ℕ × Json) :
    size (memberStrings (setItem ms m)) ≤
      size (memberStrings ms) + (m.1.length + size (strings m.2)) := by
  induction ms with
  | nil => simp [setItem, memberStrings, size_cons]
  | cons n ms ih =>
    unfold setItem
    split
    · simp only [memberStrings, size_cons, size_append]
      omega
    · simp only [memberStrings, size_cons, size_append]
      omega

theorem size_foldl_setItem_le (ms entries : List (List ℕ × Json)) :
    size (memberStrings (ms.foldl setItem entries)) ≤
      size (memberStrings entries) + size (memberStrings ms) := by
  induction ms generalizing entries with
  | nil => exact Nat.le_refl _
  | cons m ms ih =>
    have hitem := size_setItem_le entries m
    have hrest := ih (setItem entries m)
    rw [foldl_cons, memberStrings, size_cons, size_append]
    omega

mutual

theorem size_collapse_le : ∀ v : Json, size (strings (collapse v)) ≤ size (strings v)
  | null => Nat.le_refl _
  | bool _ => Nat.le_refl _
  | number _ => Nat.le_refl _
  | string _ => Nat.le_refl _
  | array vs => by
    rw [collapse, strings, strings]
    exact size_collapseElements_le vs
  | object ms => by
    have hdict := size_foldl_setItem_le (collapseMembers ms) []
    have hmembers := size_collapseMembers_le ms
    rw [collapse, strings, strings]
    exact le_trans hdict (by simpa [memberStrings, size] using hmembers)

theorem size_collapseElements_le :
    ∀ vs : List Json, size (elementStrings (collapseElements vs)) ≤ size (elementStrings vs)
  | [] => Nat.le_refl _
  | v :: vs => by
    have hvalue := size_collapse_le v
    have hrest := size_collapseElements_le vs
    rw [collapseElements, elementStrings, elementStrings, size_append, size_append]
    omega

theorem size_collapseMembers_le : ∀ ms : List (List ℕ × Json),
      size (memberStrings (collapseMembers ms)) ≤ size (memberStrings ms)
  | [] => Nat.le_refl _
  | (key, v) :: ms => by
    have hvalue := size_collapse_le v
    have hrest := size_collapseMembers_le ms
    rw [collapseMembers, memberStrings, memberStrings, size_cons, size_cons, size_append, size_append]
    omega

end

/-! Dictionaries -/

theorem setItem_of_not_mem {ms : List (List ℕ × Json)} {m : List ℕ × Json}
    (h : m.1 ∉ ms.map Prod.fst) : setItem ms m = ms ++ [m] := by
  induction ms with
  | nil => rfl
  | cons n ms ih =>
    rw [map_cons, mem_cons, not_or] at h
    rw [setItem, if_neg (Ne.symm h.1), ih h.2, cons_append]

theorem foldl_setItem_of_nodup (ms entries : List (List ℕ × Json))
    (h : ((entries ++ ms).map Prod.fst).Nodup) : ms.foldl setItem entries = entries ++ ms := by
  induction ms generalizing entries with
  | nil => exact (append_nil entries).symm
  | cons m ms ih =>
    have hnew : m.1 ∉ entries.map Prod.fst := by
      rw [map_append, map_cons, nodup_middle, nodup_cons] at h
      intro hmem
      exact h.1 (mem_append_left _ hmem)
    have hassoc : entries ++ [m] ++ ms = entries ++ m :: ms := by simp
    rw [foldl_cons, setItem_of_not_mem hnew, ih (entries ++ [m]) (hassoc ▸ h), hassoc]

mutual

theorem collapse_of_distinct : ∀ v : Json, Distinct v → collapse v = v
  | null, _ => rfl
  | bool _, _ => rfl
  | number _, _ => rfl
  | string _, _ => rfl
  | array vs, h => by
    rw [Distinct] at h
    rw [collapse, collapseElements_of_distinct vs h]
  | object ms, h => by
    rw [Distinct] at h
    rw [collapse, collapseMembers_of_distinct ms h.2, dict, foldl_setItem_of_nodup ms [] h.1,
      nil_append]

theorem collapseElements_of_distinct :
    ∀ vs : List Json, DistinctElements vs → collapseElements vs = vs
  | [], _ => rfl
  | v :: vs, h => by
    rw [DistinctElements] at h
    rw [collapseElements, collapse_of_distinct v h.1, collapseElements_of_distinct vs h.2]

theorem collapseMembers_of_distinct :
    ∀ ms : List (List ℕ × Json), DistinctMembers ms → collapseMembers ms = ms
  | [], _ => rfl
  | (key, v) :: ms, h => by
    rw [DistinctMembers] at h
    rw [collapseMembers, collapse_of_distinct v h.1, collapseMembers_of_distinct ms h.2]

end

/-! Passes over a text -/

/-- The characters of a text outside of its strings and numbers, except for the comma. -/
def plainChars : List ℕ :=
  [':', ' ', '\n', '[', rightBracket, leftBrace, rightBrace, 'n', 'u', 'l', 't', 'r', 'f', 'a', 's']

def isPlain (c : ℕ) : Bool := isNumberChar c || plainChars.contains c

/-- A function on texts that changes a string as `f` does, and nothing outside of strings. It may
look ahead of a comma. -/
structure Pass (F : List ℕ → List ℕ) (f : List ℕ → List ℕ) : Prop where
  plain : ∀ c rest, isPlain c = true → F (c :: rest) = c :: F rest
  between : ∀ n c rest, charKind c ≠ 7 →
    F (comma :: '\n' :: (List.replicate n blank ++ c :: rest)) =
      comma :: F ('\n' :: (List.replicate n blank ++ c :: rest))
  quoted : ∀ s rest, F (quoted s ++ rest) = quoted (f s) ++ F rest

section pass
variable {F f : List ℕ → List ℕ}

theorem Pass.append (h : Pass F f) (text : List ℕ) (htext : text.all isPlain = true)
    (rest : List ℕ) : F (text ++ rest) = text ++ F rest := by
  induction text with
  | nil => rfl
  | cons c text ih =>
    rw [all_cons, Bool.and_eq_true] at htext
    rw [cons_append, h.plain c _ htext.1, ih htext.2, cons_append]

theorem all_isPlain_newline (indent level : ℕ) : (newline indent level).all isPlain = true := by
  rw [all_eq_true]
  intro c hc
  unfold newline at hc
  rcases mem_cons.mp hc with rfl | hblank
  · decide
  · rw [eq_of_mem_replicate hblank]
    decide

theorem all_isPlain_text (n : Number) : n.text.all isPlain = true := by
  rw [all_eq_true]
  intro c hc
  unfold isPlain
  rw [n.plain c hc, Bool.true_or]

theorem Pass.comma_newline (h : Pass F f) (indent level : ℕ) {c : ℕ} (hc : charKind c ≠ 7)
    (rest : List ℕ) : F (comma :: (newline indent level ++ c :: rest)) =
      comma :: (newline indent level ++ F (c :: rest)) := by
  rw [newline, cons_append, h.between _ _ _ hc, ← cons_append, ← newline,
    h.append _ (all_isPlain_newline _ _), newline, cons_append]

theorem kind_ne (v : Json) : kind v ≠ 7 := by
  cases v with
  | bool b => cases b <;> decide
  | null => decide
  | number n => exact (by decide : (3 : ℕ) ≠ 7)
  | string s => exact (by decide : (4 : ℕ) ≠ 7)
  | array vs => exact (by decide : (5 : ℕ) ≠ 7)
  | object ms => exact (by decide : (6 : ℕ) ≠ 7)

mutual

/-- A pass over a text is a map over the strings of the value. -/
theorem Pass.dumps (h : Pass F f) (indent level : ℕ) :
    ∀ (v : Json) (rest : List ℕ), F (dumps indent level v ++ rest) =
      Json.dumps indent level (mapStrings f v) ++ F rest
  | null, rest => h.append ['n', 'u', 'l', 'l'] (by decide) rest
  | bool true, rest => h.append ['t', 'r', 'u', 'e'] (by decide) rest
  | bool false, rest => h.append ['f', 'a', 'l', 's', 'e'] (by decide) rest
  | number n, rest => h.append n.text (all_isPlain_text n) rest
  | string s, rest => h.quoted s rest
  | array [], rest => h.append ['[', rightBracket] (by decide) rest
  | array (v :: vs), rest => by
    rw [Json.dumps, mapStrings, mapElements, Json.dumps, cons_append, h.plain _ _ (by decide),
      append_assoc, append_assoc, h.append _ (all_isPlain_newline _ _),
      Pass.dumps h indent (level + 1) v, Pass.dumpsElements h indent level vs]
    simp only [cons_append, append_assoc]
  | object [], rest => h.append [leftBrace, rightBrace] (by decide) rest
  | object ((key, v) :: ms), rest => by
    rw [Json.dumps, mapStrings, mapMembers, Json.dumps, cons_append, h.plain _ _ (by decide)]
    simp only [append_assoc]
    rw [h.append _ (all_isPlain_newline _ _), h.quoted, h.append separator (by decide),
      Pass.dumps h indent (level + 1) v, Pass.dumpsMembers h indent level ms]
    simp only [cons_append, append_assoc]

theorem Pass.dumpsElements (h : Pass F f) (indent level : ℕ) :
    ∀ (vs : List Json) (rest : List ℕ), F (dumpsElements indent level vs ++ rest) =
      Json.dumpsElements indent level (mapElements f vs) ++ F rest
  | [], rest => by
    rw [mapElements, Json.dumpsElements, append_assoc, h.append _ (all_isPlain_newline _ _),
      h.append [rightBracket] (by decide), append_assoc]
  | v :: vs, rest => by
    have hvalue := Pass.dumps h indent (level + 1) v (Json.dumpsElements indent level vs ++ rest)
    obtain ⟨c, text, htext, hkind⟩ := dumps_eq_cons indent (level + 1) v
    rw [htext] at hvalue
    rw [mapElements, Json.dumpsElements, Json.dumpsElements, htext]
    simp only [cons_append, append_assoc] at hvalue ⊢
    rw [h.comma_newline indent (level + 1) (hkind ▸ kind_ne v), hvalue,
      Pass.dumpsElements h indent level vs]

theorem Pass.dumpsMembers (h : Pass F f) (indent level : ℕ) :
    ∀ (ms : List (List ℕ × Json)) (rest : List ℕ),
      F (dumpsMembers indent level ms ++ rest) =
        Json.dumpsMembers indent level (mapMembers f ms) ++ F rest
  | [], rest => by
    rw [mapMembers, Json.dumpsMembers, append_assoc, h.append _ (all_isPlain_newline _ _),
      h.append [rightBrace] (by decide), append_assoc]
  | (key, v) :: ms, rest => by
    have hkey := h.quoted key (separator ++ (Json.dumps indent (level + 1) v ++
      (Json.dumpsMembers indent level ms ++ rest)))
    rw [h.append separator (by decide), Pass.dumps h indent (level + 1) v,
      Pass.dumpsMembers h indent level ms] at hkey
    rw [mapMembers, Json.dumpsMembers, Json.dumpsMembers]
    simp only [Json.quoted, cons_append, append_assoc] at hkey ⊢
    rw [h.comma_newline indent (level + 1) (by decide), hkey]

end

end pass

end Json
