import StaticSite.Proofs.Xml.Segment
import StaticSite.Text.Split

/-!
# Line ends of written documents

A document is read with line feeds for all line ends. That comes before anything else, when the
document is still one text; here it is told for each segment. No line end is in a name, and a text
or a value that ends in a carriage return is not followed by a line feed.

## What this module delivers

- `unified`, `flattened`: a text and a value as they are read.
- `unifyLineEnds_append`, `unifyLineEnds_escape`: line ends of a text with something behind it.
- `unifyLineEnds_spellTag`, `unifyLineEnds_spell`: line ends change in texts and values only.
-/

set_option autoImplicit false

namespace StaticSite.Xml

open StaticSite.Text

/-! ## Line ends -/

/-- A text as it is read: with line feeds alone. -/
def unified (s : String) : String :=
  String.ofList (unifyLineEnds s.toList)

/-- A value as it is read: with spaces for all white space. -/
def flattened (s : String) : String :=
  String.ofList (Declared.spaced (unifyLineEnds s.toList))

theorem unifyLineEnds_cons {c : Char} (h : c ≠ '\r') (s : List Char) :
    unifyLineEnds (c :: s) = c :: unifyLineEnds s := by
  rw [unifyLineEnds]
  · exact fun _ hc _ => h hc
  · exact h

theorem unifyLineEnds_append {s : List Char} (h : '\r' ∉ s) (rest : List Char) :
    unifyLineEnds (s ++ rest) = s ++ unifyLineEnds rest := by
  induction s with
  | nil => rfl
  | cons c more ih =>
      rw [List.cons_append, unifyLineEnds_cons (fun hc => h (by simp [hc])),
        ih fun hmem => h (List.mem_cons_of_mem c hmem), List.cons_append]

theorem unifyLineEnds_of_not_mem {s : List Char} (h : '\r' ∉ s) : unifyLineEnds s = s := by
  have happend := unifyLineEnds_append h []
  rwa [List.append_nil, unifyLineEnds, List.append_nil] at happend

theorem unifyLineEnds_return {rest : List Char} (h : ∀ c ∈ rest.head?, c ≠ '\n') :
    unifyLineEnds ('\r' :: rest) = '\n' :: unifyLineEnds rest := by
  rw [unifyLineEnds]
  intro more hmore
  exact h '\n' (by simp [hmore]) rfl

/-- An escape has no line end in it, unless it is one. -/
theorem escapeChar_lineEnd {c : Char} (h : c ≠ '\r') : '\r' ∉ escapeChar c := by
  by_cases hc : isEscaped c
  · rcases isEscaped_iff.1 hc with rfl | rfl | rfl | rfl | rfl <;> decide
  · rw [escapeChar_of_plain (by simpa using hc), List.mem_singleton]
    exact h.symm

theorem head?_escapeChar {c : Char} (h : c ≠ '\n') (rest : List Char) :
    ∀ d ∈ (escapeChar c ++ rest).head?, d ≠ '\n' := by
  by_cases hc : isEscaped c
  · obtain ⟨more, hmore, -⟩ := exists_escapeChar hc
    simp [hmore]
  · rw [escapeChar_of_plain (by simpa using hc)]
    simpa using h

/-- Line ends and escapes do not meddle with each other. -/
theorem unifyLineEnds_escape (s : List Char) {rest : List Char}
    (hrest : ∀ c ∈ rest.head?, c ≠ '\n') :
    unifyLineEnds (s.flatMap escapeChar ++ rest)
      = (unifyLineEnds s).flatMap escapeChar ++ unifyLineEnds rest := by
  -- The recursion is the one that replaces line ends. A carriage return is looked at together with
  -- what follows it, and an escape never begins with a line feed.
  fun_induction unifyLineEnds s with
  | case1 => rfl
  | case2 more ih =>
      show unifyLineEnds ('\r' :: '\n' :: (more.flatMap escapeChar ++ rest)) = _
      rw [unifyLineEnds, ih]
      rfl
  | case3 more hmore ih =>
      have hhead : ∀ c ∈ (more.flatMap escapeChar ++ rest).head?, c ≠ '\n' := by
        cases more with
        | nil => exact hrest
        | cons d others =>
            rw [List.flatMap_cons, List.append_assoc]
            exact head?_escapeChar (fun hd => hmore others (by rw [hd])) _
      show unifyLineEnds ('\r' :: (more.flatMap escapeChar ++ rest)) = _
      rw [unifyLineEnds_return hhead, ih]
      rfl
  | case4 c more _ hc ih =>
      rw [List.flatMap_cons, List.append_assoc,
        unifyLineEnds_append (escapeChar_lineEnd fun h => hc h), ih, List.flatMap_cons,
        List.append_assoc]

/-- Attributes with line feeds alone. -/
def unifiedAttributes (attributes : PlainAttributes) : PlainAttributes :=
  attributes.map fun given => (given.1, unified given.2)

/-- A segment with line feeds alone. -/
def Segment.unified : Segment → Segment
  | opening name attributes text =>
    .opening name (unifiedAttributes attributes) (Xml.unified text)
  | closing name text => .closing name (Xml.unified text)
  | empty name attributes text => .empty name (unifiedAttributes attributes) (Xml.unified text)

theorem toList_unified (s : String) : (unified s).toList = unifyLineEnds s.toList :=
  String.toList_ofList

theorem unified_of_not_mem {s : String} (h : '\r' ∉ s.toList) : unified s = s := by
  rw [unified, unifyLineEnds_of_not_mem h, String.ofList_toList]

/-- A name of letters has no line end. -/
theorem QualifiedName.not_mem_spell {name : QualifiedName} (h : name.isLetters) :
    '\r' ∉ name.spell := by
  intro hmem
  rcases QualifiedName.mem_spell h hmem with halpha | hcolon
  · exact absurd halpha (by decide)
  · exact absurd hcolon (by decide)

theorem unifyLineEnds_attributes {attributes : PlainAttributes}
    (h : ∀ a ∈ attributes, a.1.isLetters) (rest : List Char) :
    unifyLineEnds (attributes.flatMap spellAttribute ++ rest)
      = (unifiedAttributes attributes).flatMap spellAttribute ++ unifyLineEnds rest := by
  induction attributes with
  | nil => rfl
  | cons given others ih =>
      obtain ⟨name, value⟩ := given
      have hname := QualifiedName.not_mem_spell (h (name, value) (by simp))
      have hfront : '\r' ∉ ' ' :: (name.spell ++ ['=', '"']) := by simp [hname]
      have hspell : ∀ (v : String) (t : List Char), spellAttribute (name, v) ++ t
          = (' ' :: (name.spell ++ ['=', '"'])) ++ (v.toList.flatMap escapeChar ++ '"' :: t) := by
        intro v t
        simp [spellAttribute]
      rw [List.flatMap_cons, List.append_assoc, hspell, unifyLineEnds_append hfront,
        unifyLineEnds_escape _ (by simp), unifyLineEnds_cons (by decide),
        ih fun a ha => h a (List.mem_cons_of_mem _ ha), ← toList_unified, ← hspell,
        ← List.append_assoc]
      rfl

theorem unifyLineEnds_head {name : QualifiedName} {attributes : PlainAttributes}
    (hname : name.isLetters) (hattributes : ∀ a ∈ attributes, a.1.isLetters) (rest : List Char) :
    unifyLineEnds ('<' :: (spellHead name attributes ++ rest))
      = '<' :: (spellHead name (unifiedAttributes attributes) ++ unifyLineEnds rest) := by
  rw [unifyLineEnds_cons (by decide), spellHead, List.append_assoc,
    unifyLineEnds_append (QualifiedName.not_mem_spell hname),
    unifyLineEnds_attributes hattributes, spellHead, List.append_assoc]

/-- In a tag, line ends change in values only. -/
theorem unifyLineEnds_spellTag {segment : Segment} (h : segment.isNamed) (rest : List Char) :
    unifyLineEnds (segment.spellTag ++ rest)
      = segment.unified.spellTag ++ unifyLineEnds rest := by
  cases segment with
  | opening name attributes text =>
      simp only [Segment.isNamed, Bool.and_eq_true, List.all_eq_true] at h
      simp only [Segment.spellTag, Segment.unified, List.cons_append, List.append_assoc,
        List.nil_append]
      rw [unifyLineEnds_head h.1 h.2, unifyLineEnds_cons (by decide)]
  | closing name text =>
      simp only [Segment.spellTag, Segment.unified, List.cons_append, List.append_assoc,
        List.nil_append]
      rw [unifyLineEnds_cons (by decide), unifyLineEnds_cons (by decide),
        unifyLineEnds_append (QualifiedName.not_mem_spell h), unifyLineEnds_cons (by decide)]
  | empty name attributes text =>
      simp only [Segment.isNamed, Bool.and_eq_true, List.all_eq_true] at h
      simp only [Segment.spellTag, Segment.unified, List.cons_append, List.append_assoc,
        List.nil_append]
      rw [unifyLineEnds_head h.1 h.2, unifyLineEnds_cons (by decide),
        unifyLineEnds_cons (by decide)]

theorem Segment.toList_text_unified (segment : Segment) :
    segment.unified.text.toList = unifyLineEnds segment.text.toList := by
  cases segment <;> exact toList_unified _

/-- Line ends change in texts and values only. -/
theorem unifyLineEnds_spell {segments : List Segment} (h : ∀ s ∈ segments, s.isNamed) :
    unifyLineEnds (segments.flatMap Segment.spell)
      = (segments.map Segment.unified).flatMap Segment.spell := by
  induction segments with
  | nil => rfl
  | cons segment others ih =>
      -- a text that ends in a carriage return is followed by a tag, so never by a line feed
      have hnext : ∀ c ∈ (others.flatMap Segment.spell).head?, c ≠ '\n' := by
        intro c hc
        rw [head?_spell others c hc]
        decide
      have hothers := ih fun s hs => h s (List.mem_cons_of_mem segment hs)
      rw [List.flatMap_cons, List.map_cons, List.flatMap_cons, Segment.spell, Segment.spell,
        List.append_assoc, unifyLineEnds_spellTag (h segment (by simp)),
        unifyLineEnds_escape _ hnext, hothers, Segment.toList_text_unified, List.append_assoc]

end StaticSite.Xml
