import Mathlib
import StaticSite.Proofs.Text.Occurrence
import StaticSite.Proofs.Xml.Scanning
import StaticSite.Xml.Character
import StaticSite.Xml.Declared

/-!
# Escaped text read back

An escaped text is made of stretches of plain characters with references between them. A scanner
takes each stretch and each reference in one step, in content and in values alike, and what they
spell is the text.

## What this module delivers

- `writtenParts`: the stretches and references that a text is written as.
- `repeats_escaped`: a scanner that reads one stretch or one reference at a time reads them all.
- `repeats_markup_escaped`, `repeats_value_escaped`: the scanners of content and of values.
- `flatMap_chars_writtenParts`, `value?_writtenParts`, `content?_of_escaped`: what the parts spell.
-/

set_option autoImplicit false

namespace StaticSite.Xml

open StaticSite.Text

/-! ## Stretches and references -/

/-- Whether a character is written as a reference. -/
def isEscaped (c : Char) : Bool :=
  c = '&' || c = '<' || c = '>' || c = '"' || c = '\''

/-- The reference that an escaped character is written as. -/
def escapeReference (c : Char) : Reference :=
  if c = '&' then .entity "amp"
  else if c = '<' then .entity "lt"
  else if c = '>' then .entity "gt"
  else .character c

/-- The parts that a text is written as. -/
def writtenParts : List Char → List ValuePart
  | [] => []
  | c :: rest =>
    if isEscaped c then .reference (escapeReference c) :: writtenParts rest
    else .text (c :: rest.takeWhile (!isEscaped ·)) :: writtenParts (rest.dropWhile (!isEscaped ·))
termination_by s => s.length
decreasing_by
  · simp
  · have := (List.dropWhile_suffix (l := rest) (!isEscaped ·)).length_le
    simp only [List.length_cons]
    omega

theorem isEscaped_iff {c : Char} :
    isEscaped c ↔ c = '&' ∨ c = '<' ∨ c = '>' ∨ c = '"' ∨ c = '\'' := by
  simp [isEscaped, or_assoc]

theorem escapeChar_of_plain {c : Char} (h : isEscaped c = false) : escapeChar c = [c] := by
  simp [isEscaped] at h
  simp [escapeChar, h]

/-- A run of characters that need no reference is written as it is. -/
theorem flatMap_escapeChar_of_plain {run : List Char} (h : ∀ c ∈ run, isEscaped c = false) :
    run.flatMap escapeChar = run := by
  induction run with
  | nil => rfl
  | cons c rest ih =>
      rw [List.flatMap_cons, escapeChar_of_plain (h c (by simp)),
        ih fun d hd => h d (List.mem_cons_of_mem c hd)]
      rfl

/-- A stretch goes up to the first character that is written as a reference. -/
theorem plain_stretch {c : Char} (h : isEscaped c = false) (more : List Char) :
    ∀ d ∈ c :: more.takeWhile (!isEscaped ·), isEscaped d = false := by
  intro d hd
  rcases List.mem_cons.1 hd with rfl | hd
  · exact h
  · simpa using List.mem_takeWhile_imp hd

theorem isEscaped_after_stretch (s : List Char) :
    ∀ c ∈ (s.dropWhile (!isEscaped ·)).head?, isEscaped c := by
  intro c hc
  have hstop := List.head?_dropWhile_not (!isEscaped ·) s
  rw [Option.mem_def.1 hc] at hstop
  simpa using hstop

/-- A text is written with its first stretch as it is. -/
theorem flatMap_escapeChar_stretch {c : Char} (h : isEscaped c = false) (more : List Char) :
    (c :: more).flatMap escapeChar
      = c :: more.takeWhile (!isEscaped ·) ++ (more.dropWhile (!isEscaped ·)).flatMap escapeChar :=
  calc (c :: more).flatMap escapeChar
      = (c :: more.takeWhile (!isEscaped ·) ++ more.dropWhile (!isEscaped ·)).flatMap
          escapeChar := by rw [List.cons_append, List.takeWhile_append_dropWhile]
    _ = _ := by rw [List.flatMap_append, flatMap_escapeChar_of_plain (plain_stretch h more)]

/-- An escaped character is an ampersand and a reference that is read as the character. -/
theorem exists_escapeChar {c : Char} (h : isEscaped c) :
    ∃ more, escapeChar c = '&' :: more ∧
      ∀ rest, reference .listed (more ++ rest) = some (escapeReference c, rest) := by
  rcases isEscaped_iff.1 h with rfl | rfl | rfl | rfl | rfl
  · exact ⟨"amp;".toList, rfl, fun _ => rfl⟩
  · exact ⟨"lt;".toList, rfl, fun _ => rfl⟩
  · exact ⟨"gt;".toList, rfl, fun _ => rfl⟩
  · exact ⟨"#34;".toList, rfl, fun _ => rfl⟩
  · exact ⟨"#39;".toList, rfl, fun _ => rfl⟩

/-! ## Scanning -/

section

variable {α : Type} {step : Scanner (Option α)} {wrap : ValuePart → α} {stop : Char}

/-- Whether a text begins with an ampersand or a certain other character, if it does not end. -/
def beginsWith (stop : Char) (rest : List Char) : Prop :=
  ∀ c ∈ rest.head?, c = '&' ∨ c = stop

theorem beginsWith_escaped {s rest : List Char} (h : ∀ c ∈ s.head?, isEscaped c)
    (hrest : beginsWith stop rest) : beginsWith stop (s.flatMap escapeChar ++ rest) := by
  cases s with
  | nil => exact hrest
  | cons c more =>
      obtain ⟨tail, htail, -⟩ := exists_escapeChar (h c (by simp))
      intro d hd
      rw [List.flatMap_cons, htail] at hd
      simp only [List.cons_append, List.head?_cons, Option.mem_some_iff] at hd
      exact .inl hd.symm

/-- A scanner that reads one stretch of plain characters or one reference at a time reads an escaped
text part by part. -/
theorem repeats_escaped
    (hreference : ∀ r s rest, reference .listed s = some (r, rest) →
      step .listed ('&' :: s) = some (some (wrap (.reference r)), rest))
    (htext : ∀ c run rest, (∀ d ∈ c :: run, isEscaped d = false) → beginsWith stop rest →
      step .listed (c :: run ++ rest) = some (some (wrap (.text (c :: run))), rest))
    (s : List Char) {rest : List Char} (hrest : beginsWith stop rest) :
    Scanner.Repeats step .listed (s.flatMap escapeChar ++ rest) ((writtenParts s).map wrap) rest := by
  -- The recursion is the one that cuts the text into its parts: each part is one step, and every
  -- step leaves a shorter text.
  fun_induction writtenParts s with
  | case1 => exact .done rest
  | case2 c more hc ih =>
      obtain ⟨tail, htail, hread⟩ := exists_escapeChar hc
      rw [List.flatMap_cons, htail, List.map_cons, List.append_assoc]
      refine .more (hreference _ _ _ (hread _)) ?_ ih
      simp only [List.cons_append, List.length_cons, List.length_append]
      omega
  | case3 c more hc ih =>
      have hc : isEscaped c = false := by simpa using hc
      have hnext : beginsWith stop
          ((more.dropWhile (!isEscaped ·)).flatMap escapeChar ++ rest) :=
        beginsWith_escaped (isEscaped_after_stretch more) hrest
      rw [flatMap_escapeChar_stretch hc, List.append_assoc, List.map_cons]
      refine .more (htext c _ _ (plain_stretch hc more) hnext) ?_ ih
      simp only [List.cons_append, List.length_cons, List.length_append]
      omega

end

/-- No section ends in a stretch of plain characters, which has no `>`. -/
theorem hasSectionEnd_of_plain {run : List Char} (h : ∀ c ∈ run, isEscaped c = false) :
    hasSectionEnd run = false := by
  have hnone : cutAtWord? "]]>".toList run = none := by
    rw [cutAtWord?_eq_none_iff]
    intro n hat
    have hmem : '>' ∈ run := List.mem_of_mem_drop (hat.subset (by decide))
    exact absurd (h '>' hmem) (by decide)
  rw [hasSectionEnd, hnone]
  rfl

/-- A part of a value as a piece of content. -/
def ValuePart.toMarkup : ValuePart → Markup
  | text s => .text s
  | reference r => .reference r

theorem repeats_markup_escaped (s : List Char) {rest : List Char} (hrest : beginsWith '<' rest) :
    Scanner.Repeats markup? .listed (s.flatMap escapeChar ++ rest)
      ((writtenParts s).map ValuePart.toMarkup) rest := by
  refine repeats_escaped ?_ ?_ s hrest
  · intro r t rest hread
    show (reference >>= fun r => pure (some (Markup.reference r)) : Scanner _) .listed t = _
    rw [Scanner.bind_of hread]
    rfl
  · intro c run rest hplain hrest
    have hclass : ∀ d ∈ c :: run, (d != '<' && d != '&') = true := by
      intro d hd
      have := hplain d hd
      simp [isEscaped] at this
      simp [this]
    have hstop : ∀ d ∈ rest.head?, (d != '<' && d != '&') = false := by
      intro d hd
      rcases hrest d hd with rfl | rfl <;> rfl
    have hc : c ≠ '<' ∧ c ≠ '&' := by simpa using hclass c (by simp)
    rw [markup?, Scanner.bind_of (t := c :: run ++ rest) (a := some c) rfl]
    generalize hfirst : some c = first
    split
    · cases hfirst
    · exact absurd (Option.some.inj hfirst) hc.2
    · exact absurd (Option.some.inj hfirst) hc.1
    · rw [Scanner.bind_of (Scanner.charsOf_append hclass hstop),
        Scanner.bind_of (Scanner.guard_of (by rw [hasSectionEnd_of_plain hplain]; rfl) _)]
      rfl

theorem repeats_value_escaped (s : List Char) {rest : List Char} (hrest : beginsWith '"' rest) :
    Scanner.Repeats (valuePart? fun c => c != '"' && c != '<') .listed
      (s.flatMap escapeChar ++ rest) (writtenParts s) rest := by
  rw [← List.map_id (writtenParts s)]
  refine repeats_escaped ?_ ?_ s hrest
  · intro r t rest hread
    show (reference >>= fun r => pure (some (ValuePart.reference r)) : Scanner _) .listed t = _
    rw [Scanner.bind_of hread]
    rfl
  · intro c run rest hplain hrest
    have hclass : ∀ d ∈ c :: run, ((d != '"' && d != '<') && d != '&') = true := by
      intro d hd
      have := hplain d hd
      simp [isEscaped] at this
      simp [this]
    have hstop : ∀ d ∈ rest.head?, ((d != '"' && d != '<') && d != '&') = false := by
      intro d hd
      rcases hrest d hd with rfl | rfl <;> rfl
    have hc := hclass c (by simp)
    rw [Bool.and_eq_true, bne_iff_ne] at hc
    rw [valuePart?, Scanner.bind_of (t := c :: run ++ rest) (a := some c) rfl]
    generalize hfirst : some c = first
    split
    · cases hfirst
    · exact absurd (Option.some.inj hfirst) hc.2
    · next d _ =>
        obtain rfl : c = d := Option.some.inj hfirst
        rw [if_pos hc.1, Scanner.bind_of (Scanner.charsOf_append hclass hstop)]
        rfl

/-! ## What the parts spell -/

/-- The characters that a part of an escaped text spells. -/
def ValuePart.chars : ValuePart → List Char
  | text s => s
  | reference (.character c) => [c]
  | reference (.entity name) => ((Declared.predefinedEntities.lookup name).map ([·])).getD []

theorem chars_escapeReference {c : Char} (h : isEscaped c) :
    (ValuePart.reference (escapeReference c)).chars = [c] := by
  rcases isEscaped_iff.1 h with rfl | rfl | rfl | rfl | rfl <;> rfl

/-- The parts of an escaped text spell the text. -/
theorem flatMap_chars_writtenParts (s : List Char) :
    (writtenParts s).flatMap ValuePart.chars = s := by
  fun_induction writtenParts s with
  | case1 => rfl
  | case2 c rest hc ih =>
      rw [List.flatMap_cons, chars_escapeReference hc, ih]
      rfl
  | case3 c rest hc ih =>
      rw [List.flatMap_cons, ih]
      show c :: (rest.takeWhile _ ++ rest.dropWhile _) = _
      rw [List.takeWhile_append_dropWhile]

/-- A reference that an escaped text has is to one of the characters with entities of their own, or
by number. -/
theorem of_reference_mem_writtenParts {s : List Char} {r : Reference}
    (h : .reference r ∈ writtenParts s) : ∃ c, isEscaped c ∧ r = escapeReference c := by
  fun_induction writtenParts s with
  | case1 => simp at h
  | case2 c rest hc ih =>
      rcases List.mem_cons.1 h with heq | hmem
      · exact ⟨c, hc, ValuePart.reference.inj heq⟩
      · exact ih hmem
  | case3 c rest hc ih =>
      rcases List.mem_cons.1 h with heq | hmem
      · cases heq
      · exact ih hmem

/-- A computation that gives a result for each item gives the results of all. -/
theorem mapM_eq_some_map {α β : Type} {f : α → Option β} {g : α → β} {xs : List α}
    (h : ∀ x ∈ xs, f x = some (g x)) : xs.mapM f = some (xs.map g) := by
  induction xs with
  | nil => rfl
  | cons x rest ih =>
      rw [List.mapM_cons, h x (by simp), ih fun y hy => h y (List.mem_cons_of_mem x hy)]
      rfl

/-- Where nothing is declared, references bring no text. -/
theorem areBearable_nothing (names : List String) : ({} : Declared).areBearable names = true := by
  have hweight : ∀ names : List String, Declared.totalWeight [] names = 0 := by
    intro names
    induction names with
    | nil => rfl
    | cons name rest ih => exact ih
  show (names.isEmpty || decide (Declared.totalWeight [] names < Declared.weightLimit)) = true
  rw [hweight]
  simp [Declared.weightLimit]

/-- The value that an escaped text is read as: only white space has changed. -/
theorem value?_writtenParts (s : List Char) :
    ({} : Declared).value? true (writtenParts s) = some (String.ofList (Declared.spaced s)) := by
  have hpart : ∀ part ∈ writtenParts s,
      ({} : Declared).expandPart (fun _ => none) part = some (Declared.spaced part.chars) := by
    intro part hpart
    cases part with
    | text run => rfl
    | reference r =>
        obtain ⟨c, hc, rfl⟩ := of_reference_mem_writtenParts hpart
        rcases isEscaped_iff.1 hc with rfl | rfl | rfl | rfl | rfl <;> rfl
  have hparts : ({} : Declared).expandParts 0 (writtenParts s) = some (Declared.spaced s) := by
    rw [Declared.expandParts, mapM_eq_some_map hpart]
    conv_rhs => rw [← flatMap_chars_writtenParts s, Declared.spaced, List.map_flatMap]
    rw [Option.map_some, List.flatMap_def]
    rfl
  rw [Declared.value?, areBearable_nothing]
  show (({} : Declared).expandParts 0 (writtenParts s)).bind _ = _
  rw [hparts]
  rfl

/-- A piece of content with a reference replaced by the character that it is to. -/
def Markup.plain : Markup → Markup
  | reference r => .text (ValuePart.reference r).chars
  | piece => piece

/-- Content in which all references are those of escaped text. -/
theorem content?_of_escaped {pieces : List Markup}
    (h : ∀ r, .reference r ∈ pieces → ∃ c, isEscaped c ∧ r = escapeReference c) :
    ({} : Declared).content? pieces = some (pieces.map Markup.plain) := by
  have hpiece : ∀ piece ∈ pieces,
      ({} : Declared).expandPiece (fun _ => none) piece = some [piece.plain] := by
    intro piece hmem
    cases piece with
    | reference r =>
        obtain ⟨c, hc, rfl⟩ := h r hmem
        rcases isEscaped_iff.1 hc with rfl | rfl | rfl | rfl | rfl <;> rfl
    | _ => rfl
  rw [Declared.content?, areBearable_nothing]
  show ({} : Declared).expandMarkup 0 pieces = _
  rw [Declared.expandMarkup, mapM_eq_some_map hpiece, Option.map_some, ← List.flatMap_def,
    ← List.map_eq_flatMap]

end StaticSite.Xml
