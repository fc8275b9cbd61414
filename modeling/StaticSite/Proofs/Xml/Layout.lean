import StaticSite.Proofs.Xml.Written

/-!
# Elements on lines of their own

Documents are laid out with each element on a line, indented by how deep it is. Here an element is
kept together with what is written for it, so that elements can be put inside others without looking
at either again: the text between them is the end of one line and the indentation of the next.

## What this module delivers

- `WrittenElement`: an element and the segments that spell it, whatever text comes after.
- `WrittenElement.leaf`, `WrittenElement.branch`: an element with text, and one with elements inside.
- `row`, `lines`: elements one after the other, as segments and as lines.
- `read_document`: a document of elements on lines is read as these elements.
-/

set_option autoImplicit false

namespace StaticSite.Xml

open StaticSite.Text StaticSite.File

/-- An element and the segments that spell it in a scope, for any text after it. -/
structure WrittenElement (scope : Scope) where
  element : Element
  /-- What is written for the element. -/
  spelled : List Char
  /-- The segments for the element with a text after it. -/
  segments : (after : String) → List Segment
  /-- Whether a document may hold all texts of the element. -/
  isLegal : Bool
  spell_segments : ∀ after,
    (segments after).flatMap Segment.spell = spelled ++ after.toList.flatMap escapeChar
  spells : ∀ after, Spells scope (segments after) [(element, unified after)]
  named : ∀ after, ∀ s ∈ segments after, s.isNamed
  legal : ∀ after, isLegal → isDocumentText after → ∀ s ∈ segments after, s.isLegal

/-! ## Elements in a row -/

section

variable {scope : Scope}

/-- Elements one after the other, with a text between them and another one at the end. -/
def row (between last : String) : List (WrittenElement scope) → List Segment
  | [] => []
  | [w] => w.segments last
  | w :: ws => w.segments between ++ row between last ws

/-- What a row of elements is read as. -/
def rowRead (between last : String) : List (WrittenElement scope) → List (Element × String)
  | [] => []
  | [w] => [(w.element, unified last)]
  | w :: ws => (w.element, unified between) :: rowRead between last ws

/-- Elements on lines of their own. -/
def lines (indent : List Char) (ws : List (WrittenElement scope)) : List Char :=
  ws.flatMap fun w => indent ++ (w.spelled ++ ['\n'])

variable {between last : String} {ws : List (WrittenElement scope)}

theorem lines_nil (indent : List Char) : lines indent ([] : List (WrittenElement scope)) = [] :=
  rfl

theorem lines_cons (indent : List Char) (w : WrittenElement scope)
    (ws : List (WrittenElement scope)) :
    lines indent (w :: ws) = indent ++ (w.spelled ++ ['\n']) ++ lines indent ws :=
  List.flatMap_cons

theorem lines_append (indent : List Char) (ws vs : List (WrittenElement scope)) :
    lines indent (ws ++ vs) = lines indent ws ++ lines indent vs :=
  List.flatMap_append

theorem spells_row (between last : String) (ws : List (WrittenElement scope)) :
    Spells scope (row between last ws) (rowRead between last ws) := by
  induction ws with
  | nil => exact .done scope
  | cons w others ih =>
      cases others with
      | nil => exact w.spells last
      | cons next more => exact (w.spells between).append ih

theorem map_fst_rowRead (between last : String) (ws : List (WrittenElement scope)) :
    (rowRead between last ws).map (·.1) = ws.map WrittenElement.element := by
  induction ws with
  | nil => rfl
  | cons w others ih =>
      cases others with
      | nil => rfl
      | cons next more => exact congrArg (w.element :: ·) ih

theorem mem_row {s : Segment} (h : s ∈ row between last ws) :
    ∃ w ∈ ws, s ∈ w.segments between ∨ s ∈ w.segments last := by
  induction ws with
  | nil => exact absurd h (by simp [row])
  | cons w others ih =>
      cases others with
      | nil => exact ⟨w, by simp, .inr h⟩
      | cons next more =>
          rcases List.mem_append.1 h with h | h
          · exact ⟨w, by simp, .inl h⟩
          · obtain ⟨v, hv, hs⟩ := ih h
            exact ⟨v, List.mem_cons_of_mem w hv, hs⟩

theorem isNamed_row : ∀ s ∈ row between last ws, s.isNamed := by
  intro s hs
  obtain ⟨w, -, hs | hs⟩ := mem_row hs
  · exact w.named between s hs
  · exact w.named last s hs

theorem isLegal_row (h : ∀ w ∈ ws, w.isLegal) (hbetween : isDocumentText between)
    (hlast : isDocumentText last) : ∀ s ∈ row between last ws, s.isLegal := by
  intro s hs
  obtain ⟨w, hw, hs | hs⟩ := mem_row hs
  · exact w.legal between (h w hw) hbetween s hs
  · exact w.legal last (h w hw) hlast s hs

/-- A line end and indentation between elements are the end of a line and the beginning of the next.
-/
theorem flatMap_spell_row {indent outdent : List Char} (hindent : ∀ c ∈ indent, isEscaped c = false)
    (houtdent : ∀ c ∈ outdent, isEscaped c = false) (hbetween : between.toList = '\n' :: indent)
    (hlast : last.toList = '\n' :: outdent) (hws : ws ≠ []) :
    '\n' :: (indent ++ (row between last ws).flatMap Segment.spell)
      = '\n' :: (lines indent ws ++ outdent) := by
  have hplain : ∀ run : List Char, (∀ c ∈ run, isEscaped c = false) →
      ('\n' :: run).flatMap escapeChar = '\n' :: run := by
    intro run hrun
    rw [List.flatMap_cons, flatMap_escapeChar_of_plain hrun]
    rfl
  -- of the text between two elements the line end goes with the line before, the rest with the next
  induction ws with
  | nil => exact absurd rfl hws
  | cons w others ih =>
      cases others with
      | nil =>
          rw [row, w.spell_segments, hlast, hplain outdent houtdent]
          simp [lines]
      | cons next more =>
          have hrest := ih (by simp)
          rw [row, List.flatMap_append, w.spell_segments, hbetween, hplain indent hindent,
            List.append_assoc, List.cons_append, hrest]
          · simp [lines]
          · simp

end

/-! ## Putting elements together -/

/-- Whether names are made of letters, declare no space and are all different. -/
def arePlainNames (names : List String) : Bool :=
  names.all (fun name => isLetterName name && name != "xmlns") && decide names.Nodup

theorem arePlainNames_iff {names : List String} : arePlainNames names ↔
    (∀ name ∈ names, isLetterName name ∧ name ≠ "xmlns") ∧ names.Nodup := by
  simp [arePlainNames, List.all_eq_true]

namespace WrittenElement

variable {scope : Scope}

/-- The name of an element without qualifier. -/
def nameIn (scope : Scope) (base : String) : Name :=
  { space := (scope.lookup none).join, base := base }

/-- Attributes as they are read. -/
def attributesRead (attributes : List (String × String)) : List (Name × String) :=
  attributes.map fun a => ({ base := a.1 }, flattened a.2)

theorem isNamed_attributes {attributes : List (String × String)}
    (h : arePlainNames (attributes.map (·.1))) : (unqualified attributes).all (·.1.isLetters) := by
  rw [List.all_eq_true]
  intro a ha
  obtain ⟨b, hb, rfl⟩ := List.mem_map.1 ha
  exact ((arePlainNames_iff.1 h).1 b.1 (List.mem_map_of_mem hb)).1

theorem begins {base : String} {attributes : List (String × String)}
    (h : arePlainNames (attributes.map (·.1))) :
    Begins scope ⟨none, base⟩ (unqualified attributes) (nameIn scope base)
      (attributesRead attributes) scope :=
  begins_plain scope base (arePlainNames_iff.1 h).2
    fun a ha => ((arePlainNames_iff.1 h).1 a.1 (List.mem_map_of_mem ha)).2

/-- An element that holds nothing but text. -/
def leaf (base : String) (attributes : List (String × String)) (text : String)
    (hbase : isLetterName base) (hnames : arePlainNames (attributes.map (·.1))) :
    WrittenElement scope where
  element := .mk (nameIn scope base) (attributesRead attributes) (unified text) []
  spelled := (Segment.opening ⟨none, base⟩ (unqualified attributes) text).spell
    ++ (Segment.closing ⟨none, base⟩ "").spellTag
  segments after :=
    [.opening ⟨none, base⟩ (unqualified attributes) text, .closing ⟨none, base⟩ after]
  isLegal := isDocumentText text && (unqualified attributes).all (isDocumentText ·.2)
  spell_segments after := by simp [Segment.spell, Segment.spellTag, Segment.text]
  spells after := .element (begins hnames) (.done scope) (.done scope)
  named after := by
    have hattributes := isNamed_attributes hnames
    simpa [Segment.isNamed, QualifiedName.isLetters, hbase] using hattributes
  legal after hlegal hafter := by
    simpa [Segment.isLegal, hafter] using hlegal

/-- An element that holds nothing, in a tag that ends itself. -/
def empty (base : String) (attributes : List (String × String)) (hbase : isLetterName base)
    (hnames : arePlainNames (attributes.map (·.1))) : WrittenElement scope where
  element := .mk (nameIn scope base) (attributesRead attributes) "" []
  spelled := (Segment.empty ⟨none, base⟩ (unqualified attributes) "").spellTag
  segments after := [.empty ⟨none, base⟩ (unqualified attributes) after]
  isLegal := (unqualified attributes).all (isDocumentText ·.2)
  spell_segments after := by simp [Segment.spell, Segment.spellTag, Segment.text]
  spells after := .empty (begins hnames) (.done scope)
  named after := by
    have hattributes := isNamed_attributes hnames
    simpa [Segment.isNamed, QualifiedName.isLetters, hbase] using hattributes
  legal after hlegal hafter := by
    simpa [Segment.isLegal, hafter] using hlegal

/-- An element that holds elements in a row. -/
def branch (base between last : String) (inner : List (WrittenElement scope))
    (hbase : isLetterName base) : WrittenElement scope where
  element := .mk (nameIn scope base) [] (unified between) (rowRead between last inner)
  spelled := (Segment.opening ⟨none, base⟩ [] between).spell
    ++ (row between last inner).flatMap Segment.spell ++ (Segment.closing ⟨none, base⟩ "").spellTag
  segments after :=
    .opening ⟨none, base⟩ [] between :: (row between last inner ++ [.closing ⟨none, base⟩ after])
  isLegal := isDocumentText between && isDocumentText last && inner.all isLegal
  spell_segments after := by simp [Segment.spell, Segment.spellTag, Segment.text]
  spells after :=
    have hnames : arePlainNames (([] : List (String × String)).map (·.1)) := by decide
    .element (begins hnames) (spells_row between last inner) (.done scope)
  named after s hs := by
    simp only [List.mem_cons, List.mem_append, List.not_mem_nil, or_false] at hs
    rcases hs with rfl | hs | rfl
    · simpa [Segment.isNamed, QualifiedName.isLetters] using hbase
    · exact isNamed_row s hs
    · simpa [Segment.isNamed, QualifiedName.isLetters] using hbase
  legal after hlegal hafter s hs := by
    simp only [Bool.and_eq_true, List.all_eq_true] at hlegal
    simp only [List.mem_cons, List.mem_append, List.not_mem_nil, or_false] at hs
    rcases hs with rfl | hs | rfl
    · simpa [Segment.isLegal] using hlegal.1.1
    · exact isLegal_row hlegal.2 hlegal.1.1 hlegal.1.2 s hs
    · exact hafter

/-- An element that holds others spans the lines of these and the indentation before its end. -/
theorem spelled_branch {base between last : String} {inner : List (WrittenElement scope)}
    (hbase : isLetterName base) {indent outdent : List Char}
    (hindent : ∀ c ∈ indent, isEscaped c = false) (houtdent : ∀ c ∈ outdent, isEscaped c = false)
    (hbetween : between.toList = '\n' :: indent) (hlast : last.toList = '\n' :: outdent)
    (hinner : inner ≠ []) :
    (branch base between last inner hbase).spelled
      = '<' :: (base.toList ++ '>' :: '\n' :: (lines indent inner ++ (outdent
          ++ '<' :: '/' :: (base.toList ++ ['>'])))) := by
  have hrow := flatMap_spell_row hindent houtdent hbetween hlast hinner
  have hplain : ('\n' :: indent).flatMap escapeChar = '\n' :: indent := by
    rw [List.flatMap_cons, flatMap_escapeChar_of_plain hindent]
    rfl
  calc (branch base between last inner hbase).spelled
      = '<' :: (base.toList ++ '>' :: (('\n' :: (indent
          ++ (row between last inner).flatMap Segment.spell))
          ++ '<' :: '/' :: (base.toList ++ ['>']))) := by
        simp [branch, Segment.spell, Segment.spellTag, spellHead, QualifiedName.spell, Segment.text,
          hbetween, hplain]
    _ = _ := by
        rw [hrow]
        simp

end WrittenElement

section

variable {scope : Scope} {tag : QualifiedName} {given : PlainAttributes}
  {ws : List (WrittenElement scope)}

/-- The root element with elements on lines of their own, as it is written. -/
theorem flatMap_spell_rootSegments (hws : ws ≠ []) :
    (rootSegments tag given "\n  " (row "\n  " "\n" ws)).flatMap Segment.spell
      = '<' :: (spellHead tag given
        ++ '>' :: '\n' :: (lines [' ', ' '] ws ++ '<' :: '/' :: (tag.spell ++ ['>']))) := by
  have hbetween : "\n  ".toList = '\n' :: [' ', ' '] := rfl
  have hlast : "\n".toList = '\n' :: [] := rfl
  have hindent : ∀ c ∈ [' ', ' '], isEscaped c = false := by simp [isEscaped]
  have hrow := flatMap_spell_row hindent (by simp) hbetween hlast hws
  calc (rootSegments tag given "\n  " (row "\n  " "\n" ws)).flatMap Segment.spell
      = '<' :: (spellHead tag given ++ '>' :: (('\n' :: ([' ', ' ']
          ++ (row "\n  " "\n" ws).flatMap Segment.spell))
          ++ '<' :: '/' :: (tag.spell ++ ['>']))) := by
        simp [rootSegments, Segment.spell, Segment.spellTag, Segment.text, escapeChar]
    _ = _ := by
        rw [hrow]
        simp

/-- A document whose root element holds elements on lines of their own is read as these. -/
theorem read_document {name : Name} {attributes : List (Name × String)}
    (hbegin : Begins .outermost tag given name attributes scope) (htag : tag.isLetters)
    (hgiven : ∀ a ∈ given, a.1.isLetters ∧ isDocumentText a.2) (hlegal : ∀ w ∈ ws, w.isLegal)
    (hws : ws ≠ []) :
    Xml.read (encode (String.ofList (declarationText ++ '\n' :: '<' :: (spellHead tag given
        ++ '>' :: '\n' :: (lines [' ', ' '] ws ++ '<' :: '/' :: (tag.spell ++ ['>']))))))
      = .ok (.mk name attributes "\n  " (rowRead "\n  " "\n" ws)) := by
  have hnamed : ∀ s ∈ rootSegments tag given "\n  " (row "\n  " "\n" ws), s.isNamed := by
    intro s hs
    rcases mem_rootSegments.1 hs with rfl | hs | rfl
    · rw [Segment.isNamed, Bool.and_eq_true, List.all_eq_true]
      exact ⟨htag, fun a ha => (hgiven a ha).1⟩
    · exact isNamed_row s hs
    · exact htag
  have htexts : ∀ s ∈ rootSegments tag given "\n  " (row "\n  " "\n" ws), s.isLegal := by
    intro s hs
    rcases mem_rootSegments.1 hs with rfl | hs | rfl
    · rw [Segment.isLegal, Bool.and_eq_true, List.all_eq_true]
      exact ⟨by decide, fun a ha => (hgiven a ha).2⟩
    · exact isLegal_row hlegal (by decide) (by decide) s hs
    · rfl
  rw [← flatMap_spell_rootSegments hws]
  exact read_written hbegin (spells_row "\n  " "\n" ws) hnamed htexts

end

end StaticSite.Xml
