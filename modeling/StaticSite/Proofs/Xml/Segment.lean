import StaticSite.Proofs.Xml.Escaped

/-!
# Tags read back

A document is written as segments: a tag and the escaped text up to the next one. Here is how the
scanner of content reads a segment, and so a row of them. Names are made of ASCII letters, so that
the first character of what follows shows where a name ends.

## What this module delivers

- `Segment`, `Segment.spell`, `Segment.marks`: a tag with the text after it, as it is written and as
  it is read.
- `attribute?_spell`, `tag_opening`, `tag_empty`: attributes and tags.
- `markup?_spellTag`: a tag of each kind as content.
- `repeats_segments`: a row of segments is read as the marks of each.
-/

set_option autoImplicit false

namespace StaticSite.Xml

open StaticSite.Text

/-! ## Segments -/

/-- Attributes with their values, before they are written. -/
abbrev PlainAttributes := List (QualifiedName × String)

/-- A tag and the text up to the next one. -/
inductive Segment where
  | opening (name : QualifiedName) (attributes : PlainAttributes) (text : String)
  | closing (name : QualifiedName) (text : String)
  /-- A tag that begins an element and ends it. -/
  | empty (name : QualifiedName) (attributes : PlainAttributes) (text : String)

/-- An attribute as it is written. -/
def spellAttribute : QualifiedName × String → List Char
  | (name, value) =>
    ' ' :: (name.spell ++ '=' :: '"' :: (value.toList.flatMap escapeChar ++ ['"']))

/-- A name and attributes as they are written in a tag. -/
def spellHead (name : QualifiedName) (attributes : PlainAttributes) : List Char :=
  name.spell ++ attributes.flatMap spellAttribute

namespace Segment

/-- The text after the tag. -/
def text : Segment → String
  | opening _ _ text | closing _ text | empty _ _ text => text

/-- The tag as it is written. -/
def spellTag : Segment → List Char
  | opening name attributes _ => '<' :: (spellHead name attributes ++ ['>'])
  | closing name _ => '<' :: '/' :: (name.spell ++ ['>'])
  | empty name attributes _ => '<' :: (spellHead name attributes ++ ['/', '>'])

/-- The segment as it is written. -/
def spell (segment : Segment) : List Char :=
  segment.spellTag ++ segment.text.toList.flatMap escapeChar

end Segment

/-- Attributes as they are read. -/
def writtenAttributes (attributes : PlainAttributes) : List (QualifiedName × AttributeValue) :=
  attributes.map fun given => (given.1, writtenParts given.2.toList)

namespace Segment

/-- The tag as it is read. -/
def mark : Segment → Markup
  | opening name attributes _ => .opening ⟨name, writtenAttributes attributes⟩
  | closing name _ => .closing name
  | empty name attributes _ => .empty ⟨name, writtenAttributes attributes⟩

/-- The segment as it is read. -/
def marks (segment : Segment) : List Markup :=
  segment.mark :: (writtenParts segment.text.toList).map ValuePart.toMarkup

/-- Whether all names of a segment are made of letters. -/
def isNamed : Segment → Bool
  | opening name attributes _ | empty name attributes _ =>
    name.isLetters && attributes.all (·.1.isLetters)
  | closing name _ => name.isLetters

end Segment

/-! ## Attributes and tags -/

/-- A name begins with a letter. -/
theorem QualifiedName.exists_spell {name : QualifiedName} (h : name.isLetters) :
    ∃ c more, name.spell = c :: more ∧ c.isAlpha := by
  have hfirst : ∀ n : String, isLetterName n → ∃ c more, n.toList = c :: more ∧ c.isAlpha := by
    intro n hn
    rw [isLetterName, Bool.and_eq_true, List.all_eq_true] at hn
    cases hlist : n.toList with
    | nil => simp [hlist] at hn
    | cons c more => exact ⟨c, more, rfl, hn.2 c (by simp [hlist])⟩
  obtain ⟨qualifier, base⟩ := name
  simp only [QualifiedName.isLetters, Bool.and_eq_true] at h
  cases qualifier with
  | none => exact hfirst base h.2
  | some qualifier =>
      obtain ⟨c, more, hlist, halpha⟩ := hfirst qualifier (by simpa using h.1)
      exact ⟨c, more ++ ':' :: base.toList, by simp [QualifiedName.spell, hlist], halpha⟩

/-- A name is made of letters, and of a colon if it has a qualifier. -/
theorem QualifiedName.mem_spell {name : QualifiedName} (h : name.isLetters) {c : Char}
    (hc : c ∈ name.spell) : c.isAlpha ∨ c = ':' := by
  have hletter : ∀ n : String, isLetterName n → c ∈ n.toList → c.isAlpha := by
    intro n hn hmem
    rw [isLetterName, Bool.and_eq_true, List.all_eq_true] at hn
    exact hn.2 c hmem
  obtain ⟨qualifier, base⟩ := name
  simp only [QualifiedName.isLetters, Bool.and_eq_true] at h
  cases qualifier with
  | none => exact .inl (hletter base h.2 hc)
  | some qualifier =>
      rcases List.mem_append.1 hc with hc | hc
      · exact .inl (hletter qualifier (by simpa using h.1) hc)
      · rcases List.mem_cons.1 hc with rfl | hc
        · exact .inr rfl
        · exact .inl (hletter base h.2 hc)

/-- A letter is none of the characters that markup is told by. -/
theorem ne_of_isAlpha {c : Char} (h : c.isAlpha) :
    c ≠ '>' ∧ c ≠ '/' ∧ c ≠ '?' ∧ c ≠ '!' ∧ isSpace c = false := by
  refine ⟨?_, ?_, ?_, ?_, ?_⟩
  · rintro rfl
    exact absurd h (by decide)
  · rintro rfl
    exact absurd h (by decide)
  · rintro rfl
    exact absurd h (by decide)
  · rintro rfl
    exact absurd h (by decide)
  · by_contra hspace
    rw [Bool.not_eq_false, isSpace] at hspace
    simp only [Bool.or_eq_true, decide_eq_true_eq] at hspace
    rcases hspace with ((rfl | rfl) | rfl) | rfl <;> exact absurd h (by decide)

section

variable {letters : NameLetters} {s rest : List Char}

theorem endsName_cons {c : Char} (h : endsName [c]) (rest : List Char) : endsName (c :: rest) :=
  h

namespace Scanner

theorem space_cons {c : Char} (h : isSpace c = false) (rest : List Char) :
    space letters (c :: rest) = some ((), c :: rest) := by
  have hnone : charsOf isSpace letters ([] ++ c :: rest) = some ([], c :: rest) :=
    charsOf_append (by simp) (by simpa using h)
  rw [List.nil_append] at hnone
  show ((charsOf isSpace letters (c :: rest)).bind fun x => some ((), x.2)) = _
  rw [hnone]
  rfl

theorem word_cons {w : String} {c : Char} (hw : w.toList = [c]) (rest : List Char) :
    word w letters (c :: rest) = some ((), rest) := by
  have hread : word w letters (w.toList ++ rest) = some ((), rest) := word_append w rest
  rwa [hw] at hread

theorem hasWord_cons {w : String} {c : Char} (hw : w.toList = [c]) (rest : List Char) :
    hasWord w letters (c :: rest) = some (true, rest) := by
  have hread : hasWord w letters (w.toList ++ rest) = some (true, rest) := hasWord_append w rest
  rwa [hw] at hread

end Scanner

theorem attribute?_spell {name : QualifiedName} (h : name.isLetters) (value : String) :
    attribute? .listed (spellAttribute (name, value) ++ rest)
      = some (some (name, writtenParts value.toList), rest) := by
  obtain ⟨c, more, hfirst, halpha⟩ := QualifiedName.exists_spell h
  obtain ⟨hclose, hslash, -, -, hspace⟩ := ne_of_isAlpha halpha
  have hspell : spellAttribute (name, value) ++ rest
      = [' '] ++ (name.spell ++ '=' :: '"' :: (value.toList.flatMap escapeChar ++ '"' :: rest)) := by
    simp [spellAttribute]
  have hname := Scanner.qualifiedName_append h (endsName_cons (c := '=') (by decide)
    ('"' :: (value.toList.flatMap escapeChar ++ '"' :: rest)))
  have hblank : ∀ c ∈ [' '], isSpace c = true := by simp [isSpace]
  have hquote : beginsWith '"' ('"' :: rest) := by simp [beginsWith]
  have hvalue := Scanner.many_of_repeats (u := '"' :: rest)
    (repeats_value_escaped value.toList hquote) rfl
  rw [hspell, attribute?, Scanner.bind_of (Scanner.charsOf_append hblank
    (by simpa [hfirst] using hspace))]
  generalize hafter : name.spell ++ '=' :: '"' :: (value.toList.flatMap escapeChar ++ '"' :: rest)
    = after at hname ⊢
  rw [Scanner.bind_of (a := some c) (t := after) (by rw [← hafter, hfirst]; rfl)]
  generalize hpeek : some c = peeked
  split
  · exact absurd (Option.some.inj hpeek) hclose
  · exact absurd (Option.some.inj hpeek) hslash
  · rw [Scanner.bind_of (Scanner.guard_of (by decide) _), Scanner.bind_of hname,
      Scanner.bind_of (Scanner.space_cons (by decide) _),
      Scanner.bind_of (Scanner.word_cons rfl _),
      Scanner.bind_of (Scanner.space_cons (by decide) _),
      Scanner.bind_of (a := '"') rfl, Scanner.bind_of (Scanner.guard_of (by decide) _),
      Scanner.bind_of hvalue, Scanner.bind_of (Scanner.word_cons rfl _)]
    rfl

/-- Attributes up to the end of the tag. -/
theorem many_attribute? {attributes : PlainAttributes} (h : ∀ a ∈ attributes, a.1.isLetters)
    (hrest : ∃ c more, rest = c :: more ∧ (c = '>' ∨ c = '/')) :
    (Scanner.many attribute?) .listed (attributes.flatMap spellAttribute ++ rest)
      = some (writtenAttributes attributes, rest) := by
  have hrepeats : Scanner.Repeats attribute? .listed (attributes.flatMap spellAttribute ++ rest)
      (writtenAttributes attributes) rest := by
    induction attributes with
    | nil => exact .done rest
    | cons given others ih =>
        obtain ⟨name, value⟩ := given
        have hread : attribute? .listed
            (spellAttribute (name, value) ++ (others.flatMap spellAttribute ++ rest)) = _ :=
          attribute?_spell (h (name, value) (by simp)) value
        rw [List.flatMap_cons, List.append_assoc]
        refine Scanner.Repeats.more hread ?_ (ih fun a ha => h a (List.mem_cons_of_mem _ ha))
        simp only [spellAttribute, List.cons_append, List.length_cons, List.length_append]
        omega
  obtain ⟨c, more, rfl, rfl | rfl⟩ := hrest
  · exact Scanner.many_of_repeats hrepeats rfl
  · exact Scanner.many_of_repeats hrepeats rfl

/-- What follows a name in a tag is no part of it. -/
theorem endsName_attributes (attributes : PlainAttributes) (h : endsName rest) :
    endsName (attributes.flatMap spellAttribute ++ rest) := by
  cases attributes with
  | nil => exact h
  | cons given others =>
      rw [List.flatMap_cons, spellAttribute]
      exact endsName_cons (by decide) _

section

variable {name : QualifiedName} {attributes : PlainAttributes}

theorem tag_opening (hname : name.isLetters) (hattributes : ∀ a ∈ attributes, a.1.isLetters) :
    tag .listed (spellHead name attributes ++ '>' :: rest)
      = some (.opening ⟨name, writtenAttributes attributes⟩, rest) := by
  have hend := endsName_attributes attributes (endsName_cons (c := '>') (by decide) rest)
  rw [spellHead, List.append_assoc, tag, Scanner.bind_of (Scanner.qualifiedName_append hname hend),
    Scanner.bind_of (many_attribute? hattributes ⟨'>', rest, rfl, .inl rfl⟩),
    Scanner.bind_of (Scanner.hasWord_cons rfl _), if_pos rfl]
  rfl

theorem tag_empty (hname : name.isLetters) (hattributes : ∀ a ∈ attributes, a.1.isLetters) :
    tag .listed (spellHead name attributes ++ '/' :: '>' :: rest)
      = some (.empty ⟨name, writtenAttributes attributes⟩, rest) := by
  have hend := endsName_attributes attributes (endsName_cons (c := '/') (by decide) ('>' :: rest))
  rw [spellHead, List.append_assoc, tag, Scanner.bind_of (Scanner.qualifiedName_append hname hend),
    Scanner.bind_of (many_attribute? hattributes ⟨'/', '>' :: rest, rfl, .inr rfl⟩)]
  rfl

/-- A tag in content that begins an element: what it is not is told by its first letter. -/
theorem markup?_tag {m : Markup} (hname : name.isLetters)
    (hread : tag .listed (name.spell ++ s) = some (m, rest)) :
    markup? .listed ('<' :: (name.spell ++ s)) = some (some m, rest) := by
  obtain ⟨c, more, hfirst, halpha⟩ := QualifiedName.exists_spell hname
  obtain ⟨-, hslash, hquestion, hbang, -⟩ := ne_of_isAlpha halpha
  have hhead : ∀ d ∈ (name.spell ++ s).head?, d = c := by
    rw [hfirst]
    simp
  generalize name.spell ++ s = after at hread hhead ⊢
  -- the scanner tries the other kinds of markup first, each by the sign it begins with
  have hother : ∀ {w : String} {sign : Char} {tail : List Char}, w.toList = sign :: tail →
      c ≠ sign → Scanner.hasWord w .listed after = some (false, after) :=
    fun hw hne => Scanner.hasWord_of_head hw fun d hd => hhead d hd ▸ hne
  rw [markup?, Scanner.bind_of (a := some '<') rfl]
  simp only
  rw [Scanner.bind_of (Scanner.word_cons rfl _),
    Scanner.bind_of (hother rfl hslash), if_neg (by decide),
    Scanner.bind_of (hother rfl hquestion), if_neg (by decide),
    Scanner.bind_of (hother rfl hbang), if_neg (by decide),
    Scanner.bind_of (hother rfl hbang), if_neg (by decide), Scanner.bind_of hread]
  rfl

theorem markup?_closing (hname : name.isLetters) :
    markup? .listed ('<' :: '/' :: (name.spell ++ '>' :: rest))
      = some (some (.closing name), rest) := by
  have hread := Scanner.qualifiedName_append hname (endsName_cons (c := '>') (by decide) rest)
  rw [markup?, Scanner.bind_of (a := some '<') rfl]
  simp only
  rw [Scanner.bind_of (Scanner.word_cons rfl _), Scanner.bind_of (Scanner.hasWord_cons rfl _),
    if_pos rfl, Scanner.bind_of hread, Scanner.bind_of (Scanner.space_cons (by decide) _),
    Scanner.bind_of (Scanner.word_cons rfl _)]
  rfl

end

/-! ## Segments -/

/-- The tag of a segment is read as its mark, whatever follows. -/
theorem markup?_spellTag {segment : Segment} (h : segment.isNamed) :
    markup? .listed (segment.spellTag ++ rest) = some (some segment.mark, rest) := by
  cases segment with
  | opening name attributes text =>
      simp only [Segment.isNamed, Bool.and_eq_true, List.all_eq_true] at h
      have hread : tag .listed (spellHead name attributes ++ '>' :: rest) = _ :=
        tag_opening h.1 h.2
      simp only [Segment.spellTag, spellHead, List.cons_append, List.append_assoc,
        List.nil_append] at hread ⊢
      exact markup?_tag h.1 hread
  | closing name text =>
      simp only [Segment.spellTag, List.cons_append, List.append_assoc, List.nil_append]
      exact markup?_closing h
  | empty name attributes text =>
      simp only [Segment.isNamed, Bool.and_eq_true, List.all_eq_true] at h
      have hread : tag .listed (spellHead name attributes ++ '/' :: '>' :: rest) = _ :=
        tag_empty h.1 h.2
      simp only [Segment.spellTag, spellHead, List.cons_append, List.append_assoc,
        List.nil_append] at hread ⊢
      exact markup?_tag h.1 hread

theorem length_spellTag_pos (segment : Segment) : 0 < segment.spellTag.length := by
  cases segment <;> simp [Segment.spellTag]

/-- A row of segments begins with a tag. -/
theorem head?_spell (segments : List Segment) :
    ∀ c ∈ (segments.flatMap Segment.spell).head?, c = '<' := by
  cases segments with
  | nil => simp
  | cons segment _ => cases segment <;> simp [Segment.spell, Segment.spellTag]

/-- A row of segments is read tag by tag, with the text after each. -/
theorem repeats_segments {segments : List Segment} (h : ∀ s ∈ segments, s.isNamed) :
    Scanner.Repeats markup? .listed (segments.flatMap Segment.spell)
      (segments.flatMap Segment.marks) [] := by
  induction segments with
  | nil => exact .done []
  | cons segment others ih =>
      have hnext : beginsWith '<' (others.flatMap Segment.spell) :=
        fun c hc => .inr (head?_spell others c hc)
      rw [List.flatMap_cons, List.flatMap_cons, Segment.spell, Segment.marks, List.append_assoc,
        List.cons_append]
      refine .more (markup?_spellTag (h segment (by simp))) ?_ ?_
      · have hpos := length_spellTag_pos segment
        rw [@List.length_append _ segment.spellTag]
        omega
      · exact (repeats_markup_escaped _ hnext).append
          (ih fun s hs => h s (List.mem_cons_of_mem segment hs))

end

end StaticSite.Xml
