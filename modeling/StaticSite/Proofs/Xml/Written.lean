import StaticSite.Proofs.File.Utf8
import StaticSite.Proofs.Xml.Spelled

/-!
# Documents read back

A document that is written as a declaration and the segments of a root element is read as the
element that they spell, if a document may hold all its characters.

## What this module delivers

- `decodeText_declared`, `decode_declared`: the bytes of a text after the declaration.
- `read_of_illegal`: a document with a character that it may not hold is none.
- `isDocumentText_escape`: an escape makes no text legal, and none illegal.
- `isDocumentChar_of_mem_spell`: the characters that segments are written with.
- `readText?_rootSegments`: the text after the declaration is read as the root element.
- `read_written`: so are the bytes of the document.
-/

set_option autoImplicit false

namespace StaticSite.Xml

open StaticSite.Text StaticSite.File

/-! ## Documents -/

/-- The declaration that documents are written with. -/
def declarationText : List Char :=
  "<?xml version=\"1.0\" encoding=\"utf-8\"?>".toList

/-- The bytes of a text after the declaration are read as they were written. -/
theorem decodeText_declared (t : List Char) :
    decodeText (encode (String.ofList (declarationText ++ t)))
      = .ok { text := declarationText ++ t } := by
  have hbytes : encode (String.ofList (declarationText ++ t))
      = declarationText.flatMap String.utf8EncodeChar ++ t.flatMap String.utf8EncodeChar := by
    rw [encode_ofList, List.flatMap_append]
  have hback : File.decode (declarationText.flatMap String.utf8EncodeChar
      ++ t.flatMap String.utf8EncodeChar) = .ok (String.ofList (declarationText ++ t)) := by
    rw [← hbytes]
    exact decode_encode _
  rw [hbytes]
  show decodeNamed "utf-8" (declarationText.flatMap String.utf8EncodeChar
    ++ t.flatMap String.utf8EncodeChar) = _
  rw [decodeNamed, if_pos (by decide +kernel), hback]
  dsimp only
  rw [String.toList_ofList]

/-- A document of characters that it may hold is the text after the declaration with line feeds
alone. -/
theorem decode_declared {t : List Char} (h : ∀ c ∈ t, isDocumentChar c) :
    decode (encode (String.ofList (declarationText ++ t)))
      = .ok ({ text := declarationText ++ unifyLineEnds t }, { encoding := some "utf-8" },
          unifyLineEnds t) := by
  have hlegal : (declarationText ++ t).all isDocumentChar := by
    rw [List.all_append, Bool.and_eq_true, List.all_eq_true (l := t)]
    exact ⟨by decide, h⟩
  have hunified : unifyLineEnds (declarationText ++ t) = declarationText ++ unifyLineEnds t :=
    unifyLineEnds_append (by decide) t
  rw [Xml.decode, decodeText_declared]
  show (if (declarationText ++ t).all isDocumentChar then _ else _) = _
  rw [if_pos hlegal, hunified]
  rfl

/-- A document cannot be read if there is one character in it that no document may hold. -/
theorem read_of_illegal {t : List Char} {c : Char} (hmem : c ∈ t) (h : isDocumentChar c = false) :
    Xml.read (encode (String.ofList (declarationText ++ t))) = .error .malformed := by
  have hillegal : ¬ (declarationText ++ t).all isDocumentChar := by
    rw [List.all_eq_true]
    intro hall
    rw [hall c (List.mem_append_right _ hmem)] at h
    exact absurd h (by decide)
  have hdecode : decode (encode (String.ofList (declarationText ++ t))) = .error .malformed := by
    rw [Xml.decode, decodeText_declared]
    show (if (declarationText ++ t).all isDocumentChar then _ else _) = _
    rw [if_neg hillegal]
  rw [Xml.read, hdecode]
  rfl

/-- Whether a document may hold all characters of a text. -/
def isDocumentText (s : String) : Bool :=
  s.toList.all isDocumentChar

theorem isDocumentText_append (s t : String) :
    isDocumentText (s ++ t) = (isDocumentText s && isDocumentText t) := by
  rw [isDocumentText, String.toList_append, List.all_append]
  rfl

/-- An escape leaves it open whether a text is legal. -/
theorem isDocumentText_escape (s : String) : isDocumentText (escape s) = isDocumentText s := by
  have hchar : ∀ c, (escapeChar c).all isDocumentChar = isDocumentChar c := by
    intro c
    by_cases hescaped : isEscaped c
    · rcases isEscaped_iff.1 hescaped with rfl | rfl | rfl | rfl | rfl <;> decide
    · rw [escapeChar_of_plain (by simpa using hescaped), List.all_cons, List.all_nil,
        Bool.and_true]
  rw [isDocumentText, isDocumentText, escape, String.toList_ofList, List.all_flatMap]
  exact List.all_congr rfl fun c => hchar c

/-- Whether a document may hold all texts of a segment. -/
def Segment.isLegal : Segment → Bool
  | opening _ attributes text | empty _ attributes text =>
    isDocumentText text && attributes.all (isDocumentText ·.2)
  | closing _ text => isDocumentText text

theorem isDocumentChar_of_isAlpha {c : Char} (h : c.isAlpha) : isDocumentChar c := by
  simp only [Char.isAlpha, Char.isUpper, Char.isLower, Bool.or_eq_true, Bool.and_eq_true,
    decide_eq_true_eq, ge_iff_le, UInt32.le_iff_toNat_le] at h
  change (65 ≤ c.toNat ∧ c.toNat ≤ 90) ∨ (97 ≤ c.toNat ∧ c.toNat ≤ 122) at h
  simp only [isDocumentChar, Bool.or_eq_true, Bool.and_eq_true, decide_eq_true_eq, bne_iff_ne]
  omega

theorem QualifiedName.isDocumentChar_of_mem {name : QualifiedName} (h : name.isLetters) {c : Char}
    (hc : c ∈ name.spell) : isDocumentChar c := by
  rcases QualifiedName.mem_spell h hc with halpha | rfl
  · exact isDocumentChar_of_isAlpha halpha
  · decide

theorem isDocumentChar_of_mem_escape {s : String} (h : isDocumentText s) {c : Char}
    (hc : c ∈ s.toList.flatMap escapeChar) : isDocumentChar c := by
  rw [← isDocumentText_escape, isDocumentText, escape, String.toList_ofList, List.all_eq_true] at h
  exact h c hc

theorem isDocumentChar_of_mem_head {name : QualifiedName} {attributes : PlainAttributes}
    (hname : name.isLetters) (hattributes : ∀ a ∈ attributes, a.1.isLetters)
    (hlegal : ∀ a ∈ attributes, isDocumentText a.2) {c : Char}
    (hc : c ∈ spellHead name attributes) : isDocumentChar c := by
  rcases List.mem_append.1 hc with hc | hc
  · exact QualifiedName.isDocumentChar_of_mem hname hc
  · obtain ⟨⟨key, value⟩, ha, hmem⟩ := List.mem_flatMap.1 hc
    simp only [spellAttribute, List.mem_cons, List.mem_append, List.not_mem_nil, or_false] at hmem
    rcases hmem with rfl | hmem | rfl | rfl | hmem | rfl
    · decide
    · exact QualifiedName.isDocumentChar_of_mem (hattributes _ ha) hmem
    · decide
    · decide
    · exact isDocumentChar_of_mem_escape (hlegal _ ha) hmem
    · decide

theorem isDocumentChar_of_mem_spellTag {segment : Segment} (hnamed : segment.isNamed)
    (hlegal : segment.isLegal) {c : Char} (hc : c ∈ segment.spellTag) : isDocumentChar c := by
  cases segment with
  | closing name text =>
      simp only [Segment.spellTag, List.mem_cons, List.mem_append, List.not_mem_nil,
        or_false] at hc
      rcases hc with rfl | rfl | hc | rfl
      · decide
      · decide
      · exact QualifiedName.isDocumentChar_of_mem hnamed hc
      · decide
  | opening name attributes text =>
      simp only [Segment.isNamed, Bool.and_eq_true, List.all_eq_true] at hnamed
      simp only [Segment.isLegal, Bool.and_eq_true, List.all_eq_true] at hlegal
      simp only [Segment.spellTag, List.mem_cons, List.mem_append, List.not_mem_nil,
        or_false] at hc
      rcases hc with rfl | hc | rfl
      · decide
      · exact isDocumentChar_of_mem_head hnamed.1 hnamed.2 hlegal.2 hc
      · decide
  | empty name attributes text =>
      simp only [Segment.isNamed, Bool.and_eq_true, List.all_eq_true] at hnamed
      simp only [Segment.isLegal, Bool.and_eq_true, List.all_eq_true] at hlegal
      simp only [Segment.spellTag, List.mem_cons, List.mem_append, List.not_mem_nil,
        or_false] at hc
      rcases hc with rfl | hc | rfl | rfl
      · decide
      · exact isDocumentChar_of_mem_head hnamed.1 hnamed.2 hlegal.2 hc
      · decide
      · decide

theorem isDocumentText_of_isLegal {segment : Segment} (h : segment.isLegal) :
    isDocumentText segment.text := by
  cases segment with
  | closing name text => exact h
  | opening name attributes text => exact (Bool.and_eq_true_iff.1 h).1
  | empty name attributes text => exact (Bool.and_eq_true_iff.1 h).1

/-- A document may hold all that segments are written with. -/
theorem isDocumentChar_of_mem_spell {segments : List Segment} (hnamed : ∀ s ∈ segments, s.isNamed)
    (hlegal : ∀ s ∈ segments, s.isLegal) {c : Char} (hc : c ∈ segments.flatMap Segment.spell) :
    isDocumentChar c := by
  obtain ⟨segment, hsegment, hmem⟩ := List.mem_flatMap.1 hc
  have htexts := hlegal segment hsegment
  rcases List.mem_append.1 hmem with htag | htext
  · exact isDocumentChar_of_mem_spellTag (hnamed segment hsegment) htexts htag
  · exact isDocumentChar_of_mem_escape (isDocumentText_of_isLegal htexts) htext

/-- Before an element there is nothing but white space. -/
theorem prelude?_element {c : Char} (h : c.isAlpha) (more : List Char) :
    prelude? false .listed ('\n' :: '<' :: c :: more) = some (none, '<' :: c :: more) := by
  obtain ⟨-, -, hquestion, hbang, -⟩ := ne_of_isAlpha h
  have hspace : Scanner.space .listed ('\n' :: '<' :: c :: more)
      = some ((), '<' :: c :: more) := rfl
  rw [prelude?, Scanner.bind_of hspace, Scanner.bind_of (a := '<' :: c :: more) rfl]
  -- a declaration, a comment or an instruction would begin with another character than a letter
  generalize hleft : '<' :: c :: more = left
  split
  · exact absurd (List.cons.inj (List.cons.inj hleft).2).1 hquestion
  · exact absurd (List.cons.inj (List.cons.inj hleft).2).1 hbang
  · exact absurd (List.cons.inj (List.cons.inj hleft).2).1 hbang
  · rfl

/-- All references in written content are those of escaped text. -/
theorem of_reference_mem_marks {segments : List Segment} {r : Reference}
    (h : .reference r ∈ marks segments) : ∃ c, isEscaped c ∧ r = escapeReference c := by
  obtain ⟨segment, -, hmem⟩ := List.mem_flatMap.1 h
  rcases List.mem_cons.1 hmem with heq | hmem
  · cases segment <;> cases heq
  · obtain ⟨part, hpart, heq⟩ := List.mem_map.1 hmem
    cases part with
    | text s => cases heq
    | reference r' => exact of_reference_mem_writtenParts ((Markup.reference.inj heq) ▸ hpart)

theorem content?_marks (segments : List Segment) :
    ({} : Declared).content? (marks segments) = some (plainMarks segments) := by
  rw [content?_of_escaped fun r h => of_reference_mem_marks h, plainMarks_eq_map]

theorem isNamed_unified {segments : List Segment} (h : ∀ s ∈ segments, s.isNamed) :
    ∀ s ∈ segments.map Segment.unified, s.isNamed := by
  intro s hs
  obtain ⟨segment, hsegment, rfl⟩ := List.mem_map.1 hs
  have hnamed := h segment hsegment
  cases segment <;> simpa [Segment.unified, Segment.isNamed, unifiedAttributes] using hnamed

/-- The row of a whole document: a root element with segments inside. -/
def rootSegments (tag : QualifiedName) (given : PlainAttributes) (text : String)
    (inside : List Segment) : List Segment :=
  .opening tag given text :: (inside ++ [.closing tag ""])

section

variable {scope : Scope} {tag : QualifiedName} {given : PlainAttributes} {name : Name}
  {attributes : List (Name × String)} {text : String} {inside : List Segment}
  {held : List (Element × String)}

theorem mem_rootSegments {s : Segment} :
    s ∈ rootSegments tag given text inside ↔
      s = .opening tag given text ∨ s ∈ inside ∨ s = .closing tag "" := by
  simp [rootSegments]

/-- A tag with nothing after it is read as the tag. -/
theorem marks_closing : marks [.closing tag ""] = [.closing tag] := by
  have hnothing : writtenParts [] = [] := by rw [writtenParts]
  show [Markup.closing tag] ++ (writtenParts []).map ValuePart.toMarkup ++ [] = _
  rw [hnothing]
  rfl

theorem marks_rootSegments :
    marks (rootSegments tag given text inside)
      = .opening ⟨tag, writtenAttributes (unifiedAttributes given)⟩
        :: (textMarks text ++ (marks inside ++ [.closing tag])) := by
  show _ :: (_ ++ marks (inside ++ [.closing tag ""])) = _
  rw [marks_append, marks_closing]
  rfl

/-- A document ends with its root element. -/
theorem cutAtRootEnd_rootSegments (hinside : Spells scope inside held) :
    cutAtRootEnd 0 (marks (rootSegments tag given text inside))
      = (marks (rootSegments tag given text inside), []) := by
  rw [marks_rootSegments, cutAtRootEnd]
  dsimp only
  rw [if_neg (by omega), cutAtRootEnd_level isLevel_of_mem_textMarks, cutAtRootEnd_of_spells hinside]
  rfl

theorem rootElement?_rootSegments (hbegin : Begins .outermost tag given name attributes scope)
    (hinside : Spells scope inside held) :
    rootElement? {} (plainMarks (rootSegments tag given text inside))
      = some (.mk name attributes (unified text) held) := by
  have hmarks : plainMarks (rootSegments tag given text inside)
      = .opening ⟨tag, writtenAttributes (unifiedAttributes given)⟩
        :: ((stretches (unified text)).map Markup.text ++ (plainMarks inside ++ [.closing tag])) := by
    rw [plainMarks_eq_map, marks_rootSegments, List.map_cons, List.map_append, plain_textMarks,
      List.map_append, ← plainMarks_eq_map]
    rfl
  rw [hmarks, rootElement?, hbegin]
  simp only [Option.bind_eq_bind, Option.bind_some]
  rw [readElement?_stretches, foldl_addText_text _ rfl, List.append_nil]
  dsimp only
  rw [readElement?_of_spells hinside _ _ _ rfl]
  refine (congrArg (Option.bind · _) (readElement?_end rfl)).trans ?_
  rw [finish_addRow]
  rfl

/-- The row that a document is written as is read as its root element. -/
theorem readText?_rootSegments (hbegin : Begins .outermost tag given name attributes scope)
    (hinside : Spells scope inside held)
    (hnamed : ∀ s ∈ rootSegments tag given text inside, s.isNamed) :
    readText? false .listed
        ('\n' :: ((rootSegments tag given text inside).map Segment.unified).flatMap Segment.spell)
      = some (.mk name attributes (unified text) held, []) := by
  have htag : tag.isLetters := by
    have hroot := hnamed _ (mem_rootSegments.2 (.inl rfl))
    simp only [Segment.isNamed, Bool.and_eq_true] at hroot
    exact hroot.1
  obtain ⟨c, more, hfirst, halpha⟩ := QualifiedName.exists_spell htag
  obtain ⟨others, hspell⟩ : ∃ others,
      ((rootSegments tag given text inside).map Segment.unified).flatMap Segment.spell
        = '<' :: c :: others := by
    rw [rootSegments, List.map_cons, List.flatMap_cons, Segment.unified, Segment.spell,
      Segment.spellTag, spellHead, hfirst]
    exact ⟨_, rfl⟩
  have hpieces : Scanner.many markup? .listed
      (((rootSegments tag given text inside).map Segment.unified).flatMap Segment.spell)
      = some (marks (rootSegments tag given text inside), []) :=
    Scanner.many_of_repeats (repeats_segments (isNamed_unified hnamed)) rfl
  rw [readText?, hspell, Scanner.bind_of (Scanner.many_of_repeats (.done _)
    (prelude?_element halpha others)), Scanner.bind_of (a := {}) rfl, ← hspell,
    Scanner.bind_of hpieces]
  dsimp only
  rw [cutAtRootEnd_rootSegments hinside]
  dsimp only
  rw [Scanner.bind_of (Scanner.guard_of (by decide) _), content?_marks,
    Scanner.bind_of (a := plainMarks (rootSegments tag given text inside)) rfl,
    rootElement?_rootSegments hbegin hinside]
  rfl

/-- A written document is read as its root element. -/
theorem read_written (hbegin : Begins .outermost tag given name attributes scope)
    (hinside : Spells scope inside held)
    (hnamed : ∀ s ∈ rootSegments tag given text inside, s.isNamed)
    (hlegal : ∀ s ∈ rootSegments tag given text inside, s.isLegal) :
    Xml.read (encode (String.ofList (declarationText
        ++ '\n' :: (rootSegments tag given text inside).flatMap Segment.spell)))
      = .ok (.mk name attributes (unified text) held) := by
  have hchars : ∀ c ∈ '\n' :: (rootSegments tag given text inside).flatMap Segment.spell,
      isDocumentChar c := by
    intro c hc
    rcases List.mem_cons.1 hc with rfl | hc
    · decide
    · exact isDocumentChar_of_mem_spell hnamed hlegal hc
  rw [Xml.read, decode_declared hchars, unifyLineEnds_cons (by decide), unifyLineEnds_spell hnamed]
  show wellFormed (Scanner.all? (readText? false) .listed _) = _
  rw [Scanner.all?, readText?_rootSegments hbegin hinside hnamed]
  rfl

end

end StaticSite.Xml
