import Mathlib.Data.List.TakeWhile
import Mathlib.Tactic.SplitIfs
import StaticSite.Markdown.CharacterReference

/-!
# Reading an attribute value

A value between double quotes ends at the first quote, and then the character references in it are
resolved. A reference by number needs no semicolon after it, and one of the old names needs none
either, unless a letter, a digit or a `=` follows it.

A value without quotes and references is read as it is written. Every other one is read as something
shorter, so a reader can tell that it is not what was meant.

## What this module delivers

- `Decoding`, `Decoding.read`, `Decoding.finds`: texts in which pieces stand for something else.
- `read_of_not_finds`, `count_read_lt`: a text without such pieces is read as it is written, and one
  with them as something shorter.
- `attributeReference?`, `attributeValue`: the reader of attribute values.
- `attributeValue_of_plain`, `length_attributeValue_lt`: values that are read as they are written,
  and others.
-/

set_option autoImplicit false

namespace StaticSite.Text

/-! ## Pieces that stand for something else -/

/-- How a text is read in which pieces stand for something else. -/
structure Decoding (β : Type) where
  /-- What the piece stands for that a character begins, and how many more characters are in it,
  given the character and what follows it. -/
  piece? : Char → List Char → Option (List β × Nat)
  /-- What a character stands for by itself. -/
  single : Char → List β

namespace Decoding

variable {β : Type}

/-- Reads a text after the first characters, which are in a piece already. -/
def readFrom (decoding : Decoding β) : (skipped : Nat) → List Char → List β
  | _, [] => []
  | skipped + 1, _ :: rest => decoding.readFrom skipped rest
  | 0, c :: rest =>
      match decoding.piece? c rest with
      | some (meant, more) => meant ++ decoding.readFrom more rest
      | none => decoding.single c ++ decoding.readFrom 0 rest

/-- Reads a text. -/
def read (decoding : Decoding β) (s : List Char) : List β :=
  decoding.readFrom 0 s

/-- Whether a piece of a text stands for something else. -/
def finds (decoding : Decoding β) : List Char → Bool
  | [] => false
  | c :: rest => (decoding.piece? c rest).isSome || decoding.finds rest

/-- By some count, a piece stands for less than it has characters, and a character for one. -/
structure Shrinks (decoding : Decoding β) (counts : β → Bool) : Prop where
  piece : ∀ {c : Char} {rest : List Char} {meant : List β} {more : Nat},
    decoding.piece? c rest = some (meant, more) →
      meant.countP counts ≤ more ∧ more ≤ rest.length
  single : ∀ c, (decoding.single c).countP counts = 1

variable {decoding : Decoding β} {counts : β → Bool} {s front : List Char}

/-- A text in which no piece stands for something else is read character by character. -/
theorem read_of_not_finds (h : decoding.finds s = false) :
    decoding.read s = s.flatMap decoding.single := by
  induction s with
  | nil => rfl
  | cons c rest ih =>
      rw [finds, Bool.or_eq_false_iff, Option.isSome_eq_false_iff, Option.isNone_iff_eq_none] at h
      have hrest : decoding.readFrom 0 rest = rest.flatMap decoding.single := ih h.2
      rw [read, readFrom, h.1, List.flatMap_cons]
      exact congrArg (decoding.single c ++ ·) hrest

/-- Characters that begin no piece are read as they are, whatever follows. -/
theorem read_append (h : ∀ c ∈ front, ∀ rest, decoding.piece? c rest = none) (s : List Char) :
    decoding.read (front ++ s) = front.flatMap decoding.single ++ decoding.read s := by
  induction front with
  | nil => rfl
  | cons c rest ih =>
      obtain ⟨hfirst, hrest⟩ := List.forall_mem_cons.mp h
      have hnext : decoding.readFrom 0 (rest ++ s)
          = rest.flatMap decoding.single ++ decoding.read s := ih hrest
      rw [List.cons_append, read, readFrom, hfirst (rest ++ s)]
      show decoding.single c ++ decoding.readFrom 0 (rest ++ s) = _
      rw [hnext, List.flatMap_cons, List.append_assoc]

theorem finds_append (h : ∀ c ∈ front, ∀ rest, decoding.piece? c rest = none) (s : List Char) :
    decoding.finds (front ++ s) = decoding.finds s := by
  induction front with
  | nil => rfl
  | cons c rest ih =>
      obtain ⟨hfirst, hrest⟩ := List.forall_mem_cons.mp h
      rw [List.cons_append, finds, hfirst (rest ++ s), ih hrest]
      rfl

theorem not_finds (h : ∀ c ∈ s, ∀ rest, decoding.piece? c rest = none) :
    decoding.finds s = false := by
  have hfinds := finds_append h []
  rw [List.append_nil] at hfinds
  exact hfinds

/-- What is left of a text is read as no more than it has characters. -/
theorem count_readFrom_le (h : decoding.Shrinks counts) (s : List Char) :
    ∀ {skipped : Nat}, skipped ≤ s.length →
      (decoding.readFrom skipped s).countP counts + skipped ≤ s.length := by
  induction s with
  | nil =>
      intro skipped hskipped
      cases skipped with
      | zero => exact Nat.le_refl 0
      | succ skipped => exact absurd hskipped (by simp)
  | cons c rest ih =>
      intro skipped hskipped
      cases skipped with
      | succ skipped =>
          have hrest := ih (Nat.le_of_succ_le_succ hskipped)
          rw [readFrom, List.length_cons]
          omega
      | zero =>
          rw [readFrom]
          cases hpiece : decoding.piece? c rest with
          | none =>
              have hrest := ih (Nat.zero_le rest.length)
              simp only [List.countP_append, h.single c, List.length_cons]
              omega
          | some found =>
              obtain ⟨meant, more⟩ := found
              obtain ⟨hmeant, hmore⟩ := h.piece hpiece
              have hrest := ih hmore
              simp only [List.countP_append, List.length_cons]
              omega

theorem count_read_le (h : decoding.Shrinks counts) (s : List Char) :
    (decoding.read s).countP counts ≤ s.length :=
  count_readFrom_le h s (Nat.zero_le s.length)

/-- A text in which a piece stands for something else is read as less than it has characters. -/
theorem count_read_lt (h : decoding.Shrinks counts) (hfinds : decoding.finds s) :
    (decoding.read s).countP counts < s.length := by
  induction s with
  | nil => exact absurd hfinds (by simp [finds])
  | cons c rest ih =>
      rw [read, readFrom]
      cases hpiece : decoding.piece? c rest with
      | none =>
          rw [finds, hpiece] at hfinds
          have hrest : (decoding.readFrom 0 rest).countP counts < rest.length :=
            ih (by simpa using hfinds)
          simp only [List.countP_append, h.single c, List.length_cons]
          omega
      | some found =>
          -- the first character of the piece is not even counted
          obtain ⟨meant, more⟩ := found
          obtain ⟨hmeant, hmore⟩ := h.piece hpiece
          have hrest := count_readFrom_le h rest hmore
          simp only [List.countP_append, List.length_cons]
          omega

end Decoding

end StaticSite.Text

namespace StaticSite.Html

open StaticSite.Markdown StaticSite.Url StaticSite.Text

/-! ## References -/

/-- The codes that the numbers from 128 to 159 stand for. -/
def controlCodes : List Nat :=
  [0x20ac, 0x81, 0x201a, 0x192, 0x201e, 0x2026, 0x2020, 0x2021, 0x2c6, 0x2030, 0x160, 0x2039, 0x152,
   0x8d, 0x17d, 0x8f, 0x90, 0x2018, 0x2019, 0x201c, 0x201d, 0x2022, 0x2013, 0x2014, 0x2dc, 0x2122,
   0x161, 0x203a, 0x153, 0x9d, 0x17e, 0x178]

/-- The character that a number stands for. -/
def numberedChar (code : Nat) : Char :=
  if code = 0 ∨ 0x10ffff < code ∨ (0xd800 ≤ code ∧ code ≤ 0xdfff) then '\uFFFD'
  else if 0x80 ≤ code then Char.ofNat (controlCodes.getD (code - 0x80) code)
  else Char.ofNat code

/-- The names that need no semicolon. -/
def oldNames : List String :=
  ["AElig", "AMP", "Aacute", "Acirc", "Agrave", "Aring", "Atilde", "Auml", "COPY", "Ccedil", "ETH",
   "Eacute", "Ecirc", "Egrave", "Euml", "GT", "Iacute", "Icirc", "Igrave", "Iuml", "LT", "Ntilde",
   "Oacute", "Ocirc", "Ograve", "Oslash", "Otilde", "Ouml", "QUOT", "REG", "THORN", "Uacute",
   "Ucirc", "Ugrave", "Uuml", "Yacute", "aacute", "acirc", "acute", "aelig", "agrave", "amp",
   "aring", "atilde", "auml", "brvbar", "ccedil", "cedil", "cent", "copy", "curren", "deg",
   "divide", "eacute", "ecirc", "egrave", "eth", "euml", "frac12", "frac14", "frac34", "gt",
   "iacute", "icirc", "iexcl", "igrave", "iquest", "iuml", "laquo", "lt", "macr", "micro", "middot",
   "nbsp", "not", "ntilde", "oacute", "ocirc", "ograve", "ordf", "ordm", "oslash", "otilde", "ouml",
   "para", "plusmn", "pound", "quot", "raquo", "reg", "sect", "shy", "sup1", "sup2", "sup3",
   "szlig", "thorn", "times", "uacute", "ucirc", "ugrave", "uml", "uuml", "yacute", "yen", "yuml"]

/-- Reads a reference by number, given what follows the `#`: the text it stands for and the number
of characters that belong to it. The base of the number is told by the letter before its digits. -/
def numberReference? (s : List Char) : Option (List Char × Nat) :=
  let (base, start) := if s.head? = some 'x' ∨ s.head? = some 'X' then (16, 1) else (10, 0)
  let digits := (s.drop start).takeWhile fun c => (hexValue? c).any (· < base)
  let stop := start + digits.length
  if digits = [] then none
  else
    some ([numberedChar (numberIn base digits)],
      if (s.drop stop).head? = some ';' then stop + 1 else stop)

/-- Reads a reference by name, given what follows the `&`. -/
def nameReference? (s : List Char) : Option (List Char × Nat) :=
  let body := s.takeWhile Char.isAlphanum
  let text? := (namedCharacter? (String.ofList body)).map String.toList
  if !Markdown.isReferenceName body then none
  else if (s.drop body.length).head? = some ';' then text?.map (·, body.length + 1)
  else if (s.drop body.length).head? = some '=' then none
  else if String.ofList body ∈ oldNames then text?.map (·, body.length)
  else none

/-- Reads a reference in an attribute value, given what follows the `&`. -/
def attributeReference? : List Char → Option (List Char × Nat)
  | '#' :: rest => (numberReference? rest).map fun (text, length) => (text, length + 1)
  | s => nameReference? s

/-- Reads the reference that a character begins, if it does. -/
def referenceFrom? (c : Char) (rest : List Char) : Option (List Char × Nat) :=
  if c = '&' then attributeReference? rest else none

/-- The references in an attribute value. -/
def attributeReferences : Decoding Char where
  piece? := referenceFrom?
  single c := [c]

/-- The part of a text before the first quote. -/
def upToQuote (s : List Char) : List Char :=
  s.takeWhile (· != '"')

/-- The value that is read for what follows the opening quote of an attribute. -/
def attributeValue (s : List Char) : List Char :=
  attributeReferences.read (upToQuote s)

/-! ## What a reference stands for -/

/-- A name stands for one or two characters. -/
theorem length_codes_le (initial : Char) :
    ∀ entry ∈ namedCharactersFrom initial, entry.2.length ≤ 2 := by
  have hall : ∀ table ∈ [NamedCharacter.capitalsAToM, NamedCharacter.capitalsNToZ,
      NamedCharacter.namesAToE, NamedCharacter.namesFToM, NamedCharacter.namesNToR,
      NamedCharacter.namesSToZ, []], table.all fun entry => decide (entry.2.length ≤ 2) := by
    decide +kernel
  intro entry hentry
  refine of_decide_eq_true (List.all_eq_true.mp (hall _ ?_) entry hentry)
  rw [namedCharactersFrom]
  split_ifs <;> simp

theorem length_namedCharacter {name text : String} (h : namedCharacter? name = some text) :
    text.toList.length ≤ 2 := by
  rw [namedCharacter?] at h
  split at h
  · exact absurd h (by simp)
  · rename_i initial rest _
    obtain ⟨codes, hcodes, rfl⟩ := Option.map_eq_some_iff.mp h
    obtain ⟨before, behind, htable, -⟩ := List.lookup_eq_some_iff.mp hcodes
    have hentry : (name, codes) ∈ namedCharactersFrom initial := by
      rw [htable]
      exact List.mem_append_right before List.mem_cons_self
    rw [String.toList_ofList, List.length_map]
    exact length_codes_le initial (name, codes) hentry

/-- A name has more than one letter. -/
theorem two_le_length_of_isReferenceName {body : List Char} (h : Markdown.isReferenceName body) :
    2 ≤ body.length := by
  cases body with
  | nil => exact absurd h (by simp [Markdown.isReferenceName])
  | cons c rest =>
      simp only [Markdown.isReferenceName, Bool.and_eq_true, decide_eq_true_eq] at h
      rw [List.length_cons]
      omega

theorem lt_length_of_head?_drop {s : List Char} {n : Nat} {c : Char}
    (h : (s.drop n).head? = some c) : n < s.length := by
  rw [List.head?_drop] at h
  exact (List.getElem?_eq_some_iff.mp h).1

/-- A reference by number stands for one character, and has a digit at least. -/
theorem numberReference?_spec {s text : List Char} {length : Nat}
    (h : numberReference? s = some (text, length)) : text.length ≤ length ∧ length ≤ s.length := by
  rw [numberReference?] at h
  generalize (if s.head? = some 'x' ∨ s.head? = some 'X' then (16, 1) else (10, 0) : Nat × Nat)
    = number at h
  obtain ⟨base, start⟩ := number
  simp only at h
  have hfits := (List.takeWhile_prefix (l := s.drop start)
    fun c => (hexValue? c).any (· < base)).length_le
  generalize (s.drop start).takeWhile (fun c => (hexValue? c).any (· < base)) = digits at h hfits
  rw [List.length_drop] at hfits
  by_cases hdigits : digits = []
  · rw [if_pos hdigits] at h
    exact absurd h (by simp)
  · rw [if_neg hdigits, Option.some.injEq, Prod.mk.injEq] at h
    obtain ⟨rfl, rfl⟩ := h
    have hdigit := List.length_pos_iff.mpr hdigits
    rw [List.length_singleton]
    by_cases hend : (s.drop (start + digits.length)).head? = some ';'
    · have hinside := lt_length_of_head?_drop hend
      rw [if_pos hend]
      omega
    · rw [if_neg hend]
      omega

/-- A reference by name is longer than the text it stands for. -/
theorem nameReference?_spec {s text : List Char} {length : Nat}
    (h : nameReference? s = some (text, length)) : text.length ≤ length ∧ length ≤ s.length := by
  rw [nameReference?] at h
  simp only [Bool.not_eq_true'] at h
  have hfits := (List.takeWhile_prefix (l := s) Char.isAlphanum).length_le
  generalize s.takeWhile Char.isAlphanum = body at h hfits
  -- whatever ends the name, the text is that of a name in the table
  have hname : ∀ {n : Nat}, ((namedCharacter? (String.ofList body)).map String.toList).map (·, n)
      = some (text, length) → text.length ≤ 2 ∧ length = n := by
    intro n hn
    obtain ⟨found, hfound, hpair⟩ := Option.map_eq_some_iff.mp hn
    obtain ⟨named, hnamed, rfl⟩ := Option.map_eq_some_iff.mp hfound
    obtain ⟨rfl, rfl⟩ := Prod.mk.inj hpair
    exact ⟨length_namedCharacter hnamed, rfl⟩
  split_ifs at h with hshort hend hequals hold
  · obtain ⟨htext, rfl⟩ := hname h
    have hinside := lt_length_of_head?_drop hend
    have hletters := two_le_length_of_isReferenceName (Bool.not_eq_false _ ▸ hshort)
    omega
  · obtain ⟨htext, rfl⟩ := hname h
    have hletters := two_le_length_of_isReferenceName (Bool.not_eq_false _ ▸ hshort)
    omega

/-- A reference is longer than the text it stands for, even without its `&`. -/
theorem attributeReference?_spec {s text : List Char} {length : Nat}
    (h : attributeReference? s = some (text, length)) :
    text.length ≤ length ∧ length ≤ s.length := by
  rw [attributeReference?.eq_def] at h
  split at h
  · obtain ⟨⟨found, n⟩, hfound, hpair⟩ := Option.map_eq_some_iff.mp h
    obtain ⟨rfl, rfl⟩ := Prod.mk.inj hpair
    obtain ⟨htext, hlength⟩ := numberReference?_spec hfound
    rw [List.length_cons]
    omega
  · exact nameReference?_spec h

theorem piece?_of_ne {c : Char} (h : c ≠ '&') (rest : List Char) :
    attributeReferences.piece? c rest = none :=
  if_neg h

/-- References are longer than what they stand for. -/
theorem shrinks_attributeReferences : attributeReferences.Shrinks fun _ => true := by
  refine ⟨?_, fun c => rfl⟩
  intro c rest meant more h
  rw [List.countP_true]
  change referenceFrom? c rest = some (meant, more) at h
  rw [referenceFrom?] at h
  split at h
  · exact attributeReference?_spec h
  · exact absurd h (by simp)

/-! ## Values -/

variable {s front : List Char}

theorem upToQuote_of_not_mem (h : '"' ∉ s) : upToQuote s = s := by
  rw [upToQuote, List.takeWhile_eq_self_iff]
  intro c hc
  rw [bne_iff_ne]
  rintro rfl
  exact h hc

theorem length_upToQuote_lt (h : '"' ∈ s) : (upToQuote s).length < s.length := by
  induction s with
  | nil => exact absurd h List.not_mem_nil
  | cons c rest ih =>
      rw [upToQuote, List.takeWhile_cons]
      by_cases hquote : c = '"'
      · rw [hquote]
        exact Nat.succ_pos rest.length
      · have hrest : '"' ∈ rest := by
          rcases List.mem_cons.mp h with hsame | hrest
          · exact absurd hsame.symm hquote
          · exact hrest
        rw [if_pos (bne_iff_ne.mpr hquote)]
        exact Nat.succ_lt_succ (ih hrest)

/-- A value without quotes and references is read as it is written. -/
theorem attributeValue_of_plain (hquote : '"' ∉ s)
    (hreference : attributeReferences.finds s = false) : attributeValue s = s := by
  rw [attributeValue, upToQuote_of_not_mem hquote, Decoding.read_of_not_finds hreference]
  exact List.flatMap_singleton' s

/-- A value with a quote or a reference is read as a shorter one. -/
theorem length_attributeValue_lt (h : '"' ∈ s ∨ attributeReferences.finds s) :
    (attributeValue s).length < s.length := by
  have hcount : (attributeValue s).countP (fun _ => true) = (attributeValue s).length :=
    congrFun List.countP_true (attributeValue s)
  rw [← hcount, attributeValue]
  by_cases hquote : '"' ∈ s
  · -- references before the quote make the value shorter still
    calc (attributeReferences.read (upToQuote s)).countP (fun _ => true)
        ≤ (upToQuote s).length := Decoding.count_read_le shrinks_attributeReferences _
      _ < s.length := length_upToQuote_lt hquote
  · rw [upToQuote_of_not_mem hquote]
    exact Decoding.count_read_lt shrinks_attributeReferences (h.resolve_left hquote)

/-- Characters that mean nothing in a value are read as they are, whatever follows. -/
theorem attributeValue_append (h : ∀ c ∈ front, c ≠ '"' ∧ c ≠ '&') (s : List Char) :
    attributeValue (front ++ s) = front ++ attributeValue s := by
  have hcut : upToQuote (front ++ s) = front ++ upToQuote s :=
    List.takeWhile_append_of_pos fun c hc => bne_iff_ne.mpr (h c hc).1
  rw [attributeValue, hcut,
    Decoding.read_append fun c hc rest => piece?_of_ne (h c hc).2 rest]
  exact congrArg (· ++ attributeValue s) (List.flatMap_singleton' front)

end StaticSite.Html
