import StaticSite.Html.Renderer
import StaticSite.Proofs.Html.HeadingElement
import StaticSite.Proofs.Html.TextContent
import StaticSite.Proofs.Markdown.WordJoin

/-!
# Outline and page

The outline of a document and its page are made by two passes over the same events that know nothing
of each other. They agree on the headings: the page has one heading tag for each entry of the
outline, in order and with the level of the entry, and the first of them alone is the title. Raw
HTML and highlighted code are written as they are and may hold heading tags of their own, so the
tags are counted with both cut out.

The outline tells a heading by its texts and its code, and leaves out where its line ends in the
source. The page shows such a place as a line end. So the title in the outline reads as the heading
does up to blanks, unless a line of the heading ends directly between two words: the outline joins
the two.

## What this module delivers

- `PagePart.cleared`: a part of a page with raw HTML and highlighted code cut out.
- `headingTagsFrom_assemble`: the heading tags of calm parts are those of their headings.
- `outlineTags`: the heading tags that an outline calls for.
- `outline_agrees`: outline, heading tags and issued identifiers of a document.
- `outline_rawHeading`: a document whose page has a heading tag in its raw HTML only.
- `textContent_renders`: what the element of a heading tells, if the heading is a line of words.
- `outline_reads`: when the outline's title reads as the heading does.
- `outline_joinedLines`: a heading whose words the outline joins.
-/

set_option autoImplicit false

namespace StaticSite.Html

open StaticSite.Markdown

/-! ## Cutting out what is written as it is -/

/-- Whether a stretch is markup of the writer's own. -/
def Stretch.isMarkup : Stretch → Bool
  | markup _ => true
  | _ => false

/-- A part of a page with raw HTML and highlighted code cut out. -/
def PagePart.cleared : PagePart → PagePart
  | stretch piece => stretch (if piece.isMarkup then piece else .markup "")
  | heading element =>
      heading { element with content := element.content.filter Stretch.isMarkup }

/-- A part in which every stretch is calm. -/
def PagePart.IsCalm : PagePart → Prop
  | stretch piece => Html.IsCalm piece.text
  | heading element => isPlain element.identifier.toList ∧
      ∀ piece ∈ element.content, Html.IsCalm piece.text

/-- A highlighter whose output has no heading tags. -/
def HighlightsCalmly (highlighter : Option Highlighter) : Prop :=
  ∀ highlight code language markup, highlighter = some highlight →
    highlight code language = some markup → IsCalm markup

section

variable {highlighter : Option Highlighter}

theorem calm_of_isMarkup {piece : Stretch} (h : piece.IsGenuine highlighter)
    (hmarkup : piece.isMarkup) : IsCalm piece.text := by
  cases piece with
  | markup text => exact h
  | raw content => exact Bool.noConfusion hmarkup
  | highlighted content => exact Bool.noConfusion hmarkup

/-- What remains of a genuine part is calm. -/
theorem calm_cleared {part : PagePart} (h : part.IsGenuine highlighter) :
    part.cleared.IsCalm := by
  cases part with
  | stretch piece =>
      rw [PagePart.cleared, PagePart.IsCalm]
      split
      · rename_i hmarkup
        exact calm_of_isMarkup h hmarkup
      · exact IsCalm.empty
  | heading element =>
      obtain ⟨hplain, hgenuine⟩ := h
      refine ⟨hplain, fun piece hpiece => ?_⟩
      obtain ⟨hmem, hmarkup⟩ := List.mem_filter.mp hpiece
      exact calm_of_isMarkup (hgenuine piece hmem) hmarkup

/-- A genuine part without raw HTML is calm, if the highlighter's output is. -/
theorem calm_of_genuine (hcalm : HighlightsCalmly highlighter) {part : PagePart}
    (h : part.IsGenuine highlighter) (hraws : part.raws = []) : part.IsCalm := by
  have hpiece : ∀ piece : Stretch, piece.IsGenuine highlighter → piece.raw? = none →
      IsCalm piece.text := by
    intro piece hgenuine hraw
    cases piece with
    | markup text => exact hgenuine
    | raw content => exact absurd hraw (by simp [Stretch.raw?])
    | highlighted content =>
        obtain ⟨highlight, code, language, hsome, hresult⟩ := hgenuine
        exact hcalm highlight code language content hsome hresult
  cases part with
  | stretch piece => exact hpiece piece h (by simpa [PagePart.raws] using hraws)
  | heading element =>
      refine ⟨h.1, fun piece hmem => hpiece piece (h.2 piece hmem) ?_⟩
      exact List.filterMap_eq_nil_iff.mp hraws piece hmem

end

/-! ## The heading tags of a page -/

theorem calm_weave {row : List Stretch} (h : ∀ piece ∈ row, IsCalm piece.text) :
    IsCalm (weave row) := by
  induction row with
  | nil => exact IsCalm.empty
  | cons piece rest ih =>
      have hrest := ih fun other hother => h other (List.mem_cons_of_mem piece hother)
      rw [weave, List.map_cons, String.join_cons]
      exact (h piece List.mem_cons_self).append hrest

/-- The tag with which an element begins. -/
def HeadingElement.tag (element : HeadingElement) : HeadingTag :=
  ⟨toString element.level, !element.titled⟩

/-- The tag of a calm element is found, and no other in it. -/
theorem headingTagsFrom_element {element : HeadingElement}
    (h : (PagePart.heading element).IsCalm) (rest : List Char) :
    headingTagsFrom (element.text.toList ++ rest) = element.tag :: headingTagsFrom rest := by
  obtain ⟨hplain, hcontent⟩ := h
  have hopen : IsCalm "</h" := fun _ => rfl
  have hend : IsCalm ">" := fun _ => rfl
  have hclose := (hopen.append (calm_int element.level)).append hend
  have hinside := ((calm_identifierText hplain).append (calm_weave hcontent)).append hclose
  have hparts : element.text = headingStart element.level element.titled ++
      (Writer.identifierText element.identifier ++ weave element.content ++
        ("</h" ++ toString element.level ++ ">")) := by
    simp only [HeadingElement.text, String.append_assoc]
  rw [hparts, String.toList_append, List.append_assoc, headingTagsFrom_headingStart, hinside rest]
  rfl

/-- The heading tags of calm parts are those of the headings among them. -/
theorem headingTagsFrom_assemble {parts : List PagePart} (h : ∀ part ∈ parts, part.IsCalm)
    (rest : List Char) :
    headingTagsFrom ((assemble parts).toList ++ rest)
      = (elementsOf parts).map HeadingElement.tag ++ headingTagsFrom rest := by
  -- What stands behind is an argument: a tag is found whatever follows it, and nothing else is.
  induction parts with
  | nil => rfl
  | cons part others ih =>
      have hothers := ih fun other hother => h other (List.mem_cons_of_mem part hother)
      have hpart := h part List.mem_cons_self
      rw [assemble_cons, String.toList_append, List.append_assoc]
      cases part with
      | stretch piece =>
          have hcalm : headingTagsFrom (piece.text.toList ++ ((assemble others).toList ++ rest))
              = headingTagsFrom ((assemble others).toList ++ rest) := hpart _
          rw [PagePart.text, hcalm, hothers]
          rfl
      | heading element =>
          rw [PagePart.text, headingTagsFrom_element hpart, hothers]
          rfl

theorem headingTagsOn_assemble {parts : List PagePart} (h : ∀ part ∈ parts, part.IsCalm) :
    headingTagsOn (assemble parts) = (elementsOf parts).map HeadingElement.tag := by
  have hall := headingTagsFrom_assemble h []
  rwa [List.append_nil, headingTagsFrom, List.append_nil] at hall

/-- Cutting something out leaves every heading in its place, with its tag. -/
theorem tags_cleared (parts : List PagePart) :
    (elementsOf (parts.map PagePart.cleared)).map HeadingElement.tag
      = (elementsOf parts).map HeadingElement.tag := by
  induction parts with
  | nil => rfl
  | cons part rest ih =>
      cases part with
      | stretch piece => exact ih
      | heading element => exact congrArg (element.tag :: ·) ih

/-! ## The tags that an outline calls for -/

/-- The heading tags that an outline calls for: the first one is the title. -/
def outlineTags (entries : List (String × Int)) : List HeadingTag :=
  entries.mapIdx fun i entry => ⟨toString entry.2, decide (i = 0)⟩

/-- The first heading alone finds the page untitled. -/
theorem getElem_titledFrom {n i : Nat} (h : i < (titledFrom false n).length) :
    (titledFrom false n)[i] = decide (i ≠ 0) := by
  cases n with
  | zero => exact absurd h (by simp [titledFrom])
  | succ n => cases i <;> simp [titledFrom]

/-- Headings on a page that have the levels of an outline, and of which the first one alone finds
the page untitled, have the tags that the outline calls for. -/
theorem tags_eq_outlineTags {elements : List HeadingElement} {entries : List (String × Int)}
    (hlevels : elements.map HeadingElement.level = entries.map Prod.snd)
    (htitles : elements.map HeadingElement.titled = titledFrom false entries.length) :
    elements.map HeadingElement.tag = outlineTags entries := by
  have hlength : elements.length = entries.length := by
    simpa using congrArg List.length hlevels
  apply List.ext_getElem
  · simp [outlineTags, hlength]
  · intro i hi hi'
    rw [List.length_map] at hi
    have hlevel : elements[i].level = entries[i].2 := by
      have hsame := List.getElem_of_eq hlevels (by simpa using hi)
      rwa [List.getElem_map, List.getElem_map] at hsame
    have htitled : elements[i].titled = decide (i ≠ 0) := by
      have hsame := List.getElem_of_eq htitles (by simpa using hi)
      rwa [List.getElem_map, getElem_titledFrom] at hsame
    simp [outlineTags, HeadingElement.tag, hlevel, htitled]

/-- Elements have the levels of the headings that they show. -/
theorem levels_of_renders {highlighter : Option Highlighter} {headings : List Heading}
    {elements : List HeadingElement} (h : List.Forall₂ (Renders highlighter) headings elements) :
    elements.map HeadingElement.level = headings.map Heading.level := by
  induction h with
  | nil => rfl
  | cons hrender _ ih => rw [List.map_cons, List.map_cons, ih, hrender.1]

/-! ## Outline and page of a document -/

/-- The outline of a document, in which headings and images hold only what may stand in a line, has
one entry for each heading, in order, and as many identifiers are issued as it has entries. The page
is made of markup, the raw HTML of the document in order, what a highlighter made of code, and
headings. With raw HTML and highlighted code cut out, its heading tags are those that the outline
calls for. Nothing needs to be cut out of the page of a document without raw HTML, if the output of
the highlighter has no heading tags. -/
theorem outline_agrees (highlighter : Option Highlighter) {trees : List EventTree}
    (hflow : areFlow trees) :
    outline (forestEvents trees) = (forestHeadings false trees).map Heading.entry ∧
    (Writer.ofEvents highlighter (forestEvents trees)).anchors.size
      = (outline (forestEvents trees)).length ∧
    (∃ parts : List PagePart, assemble parts = render highlighter (forestEvents trees) ∧
      (∀ part ∈ parts, part.IsGenuine highlighter) ∧
      parts.flatMap PagePart.raws = forestRaw trees ∧
      headingTagsOn (assemble (parts.map PagePart.cleared))
        = outlineTags (outline (forestEvents trees))) ∧
    (areWithoutHtml trees → HighlightsCalmly highlighter →
      headingTagsOn (render highlighter (forestEvents trees))
        = outlineTags (outline (forestEvents trees))) := by
  have houtline := outline_forestEvents hflow
  obtain ⟨hsize, parts, hpage, hbuilt⟩ := built_render highlighter hflow
  have hlength : (outline (forestEvents trees)).length = (forestHeadings false trees).length := by
    rw [houtline, List.length_map]
  have hlevels : (elementsOf parts).map HeadingElement.level
      = (outline (forestEvents trees)).map Prod.snd := by
    rw [houtline, List.map_map, levels_of_renders hbuilt.renders]
    rfl
  have htags := tags_eq_outlineTags hlevels (by rw [hlength]; exact hbuilt.titles)
  -- the tags are those of the elements in both cases; what differs is why the parts are calm
  refine ⟨houtline, hsize.trans hlength.symm, ⟨parts, hpage, hbuilt.genuine, hbuilt.raws, ?_⟩, ?_⟩
  · have hcalm : ∀ part ∈ parts.map PagePart.cleared, part.IsCalm := by
      intro cleared hcleared
      obtain ⟨part, hpart, rfl⟩ := List.mem_map.mp hcleared
      exact calm_cleared (hbuilt.genuine part hpart)
    rw [headingTagsOn_assemble hcalm, tags_cleared, htags]
  · intro hhtml hhighlights
    have hnone : ∀ part ∈ parts, part.raws = [] := by
      have hraws := hbuilt.raws
      rw [forestRaw_of_areWithoutHtml trees hhtml] at hraws
      exact List.flatMap_eq_nil_iff.mp hraws
    rw [← hpage, headingTagsOn_assemble fun part hpart =>
      calm_of_genuine hhighlights (hbuilt.genuine part hpart) (hnone part hpart), htags]

/-- Highlighted plain text is escaped, so it has no tags at all. -/
theorem highlightsCalmly_highlight : HighlightsCalmly (some Highlight.highlight) := by
  rintro highlight code language markup ⟨⟩ hmarkup
  unfold Highlight.highlight at hmarkup
  split at hmarkup
  · rw [← Option.some.inj hmarkup]
    apply calm_quotable
    rw [Highlight.plainText, String.toList_ofList]
    exact quotable_flatMap quotable_escapeChar _
  · exact absurd hmarkup (by simp)

/-- Headings with nothing in them, with an image, with nested markup and with a footnote, in a
quote, in a list and in a footnote, and code that is highlighted. -/
def sampleHeadings : List EventTree :=
  [.node .blockQuote [.node (.heading 2) []],
   .node (.list none) [.node .item
     [.node (.heading 1) [.node (.image "p.png" "") [.leaf (.text "a")], .leaf (.code "b")]]],
   .node (.codeBlock (some "text")) [.leaf (.text "<h5>")],
   .node (.footnoteDefinition "n")
     [.node (.heading 3) [.node .strong [.node .emphasis [.leaf (.text "c")]],
       .leaf (.footnoteReference "n")]]]

/-- A document with a heading tag in raw HTML, and no heading. -/
def rawHeading : List EventTree :=
  [.leaf (.html "<h1>x</h1>\n")]

theorem outline_agrees_sampleHeadings :
    areFlow sampleHeadings ∧ areFlow rawHeading ∧ areWithoutHtml sampleHeadings ∧
    HighlightsCalmly (some Highlight.highlight) ∧
    headingTagsOn (render (some Highlight.highlight) (forestEvents sampleHeadings))
      = [⟨"2", true⟩, ⟨"1", false⟩, ⟨"3", false⟩] ∧
    (Writer.ofEvents (some Highlight.highlight) (forestEvents sampleHeadings)).anchors.size = 3 ∧
    ∃ parts : List PagePart, assemble parts = render none (forestEvents rawHeading) ∧
      parts.flatMap PagePart.raws = ["<h1>x</h1>\n"] ∧
      headingTagsOn (assemble (parts.map PagePart.cleared)) = [] := by
  have hflow : areFlow sampleHeadings := by decide
  have hhtml : areWithoutHtml sampleHeadings := by decide
  have houtline : outline (forestEvents sampleHeadings) = [("", 2), ("ab", 1), ("c", 3)] := by
    decide
  obtain ⟨-, hsize, -, htags⟩ := outline_agrees (some Highlight.highlight) hflow
  obtain ⟨-, -, ⟨parts, hpage, -, hraws, hcleared⟩, -⟩ :=
    outline_agrees none (show areFlow rawHeading by decide)
  rw [houtline] at hsize htags
  exact ⟨hflow, by decide, hhtml, highlightsCalmly_highlight,
    htags hhtml highlightsCalmly_highlight, hsize, parts, hpage, hraws, hcleared⟩

/-- The page of a document without headings has a heading tag, which comes from raw HTML. -/
theorem outline_rawHeading :
    areFlow rawHeading ∧ outline (forestEvents rawHeading) = [] ∧
    headingTagsOn (render none (forestEvents rawHeading)) = [⟨"1", false⟩] := by
  decide

end StaticSite.Html

namespace StaticSite.Html

open StaticSite.Markdown StaticSite.Text

/-- The element of a heading that is a line of words tells, behind its sign, the words of the line
and its line ends. -/
theorem textContent_renders {highlighter : Option Highlighter} {heading : Heading}
    {element : HeadingElement} (h : Renders highlighter heading element)
    (hplain : isPlain element.identifier.toList) (hworded : areWorded heading.children)
    (hquiet : IsQuiet highlighter heading.inCode) :
    textContent element.text = '¶' :: shownChars (forestItems heading.children) := by
  have htells := tells_forestMarkup heading.children hworded
  rw [← h.2 hquiet hworded] at htells
  exact textContent_element hplain htells

/-- Every element among genuine parts has an identifier that may be written as it is. -/
theorem plain_of_mem_elementsOf {highlighter : Option Highlighter} {parts : List PagePart}
    (h : ∀ part ∈ parts, part.IsGenuine highlighter) {element : HeadingElement}
    (hmem : element ∈ elementsOf parts) : isPlain element.identifier.toList := by
  obtain ⟨part, hpart, hsome⟩ := List.mem_filterMap.mp hmem
  cases part with
  | stretch piece => exact absurd hsome (by simp [PagePart.element?])
  | heading other =>
      obtain rfl : other = element := Option.some.inj hsome
      exact (h _ hpart).1

/-- A document in which headings and images hold only what may stand in a line has one entry in its
outline and one element on its page for each heading. If the heading is a line of words, and no
highlighter collects its text, then the title in the outline and the text of the element, without
its sign, are the same up to blanks exactly if no line end of the heading joins two words. -/
theorem outline_reads (highlighter : Option Highlighter) {trees : List EventTree}
    (hflow : areFlow trees) :
    ∃ parts : List PagePart, assemble parts = render highlighter (forestEvents trees) ∧
      IsBuilt highlighter false parts (forestHeadings false trees) (forestRaw trees) ∧
      (outline (forestEvents trees)).length = (forestHeadings false trees).length ∧
      (elementsOf parts).length = (forestHeadings false trees).length ∧
      ∀ (i : Nat) (heading : Heading), (forestHeadings false trees)[i]? = some heading →
        areWorded heading.children → IsQuiet highlighter heading.inCode →
        ∃ (entry : String × Int) (element : HeadingElement) (content : List Char),
          (outline (forestEvents trees))[i]? = some entry ∧
          (elementsOf parts)[i]? = some element ∧
          textContent element.text = '¶' :: content ∧
          (tidy entry.1.toList = tidy content ↔ ¬ JoinsWords (forestItems heading.children)) := by
  have houtline := outline_forestEvents hflow
  obtain ⟨-, parts, hpage, hbuilt⟩ := built_render highlighter hflow
  have hlength := hbuilt.renders.length_eq
  refine ⟨parts, hpage, hbuilt, by rw [houtline, List.length_map], hlength.symm, ?_⟩
  intro i heading hheading hworded hquiet
  obtain ⟨hi, hat⟩ := List.getElem?_eq_some_iff.mp hheading
  have hi' : i < (elementsOf parts).length := hlength ▸ hi
  -- the element at the place of the heading is the one that shows it
  have hrenders : Renders highlighter heading (elementsOf parts)[i] := by
    have hget := List.forall₂_iff_get.mp hbuilt.renders
    rw [← hat]
    exact hget.2 i hi hi'
  have hplain := plain_of_mem_elementsOf hbuilt.genuine (List.getElem_mem hi')
  refine ⟨heading.entry, _, _, ?_, List.getElem?_eq_getElem hi',
    textContent_renders hrenders hplain hworded hquiet, ?_⟩
  · rw [houtline, List.getElem?_map, hheading, Option.map_some]
  · rw [Heading.entry, forestTitle_toList]
    exact tidy_charsOf_iff (forestItems heading.children)

/-- Two headings of two lines. A blank stands at the line end of the first one. -/
def sampleLines : List EventTree :=
  [.node (.heading 1) [.leaf (.text "a "), .leaf .softBreak, .node .strong [.leaf (.text "<b>")]],
   .node (.codeBlock (some "text")) [.leaf (.text "x")],
   .node .blockQuote [.node (.heading 2)
     [.node (.link .inline "p.html" "") [.leaf (.text "First")], .leaf .hardBreak,
       .leaf (.code "second")]]]

theorem outline_reads_sampleLines :
    areFlow sampleLines ∧
    ∃ parts : List PagePart,
      assemble parts = render (some Highlight.highlight) (forestEvents sampleLines) ∧
      ∃ (first second : HeadingElement) (content content' : List Char),
        (elementsOf parts)[0]? = some first ∧
        textContent first.text = '¶' :: content ∧ tidy "a <b>".toList = tidy content ∧
        (elementsOf parts)[1]? = some second ∧
        textContent second.text = '¶' :: content' ∧
        tidy "Firstsecond".toList ≠ tidy content' := by
  have hflow : areFlow sampleLines := by decide
  have houtline : outline (forestEvents sampleLines) = [("a <b>", 1), ("Firstsecond", 2)] := by
    decide
  -- in the first heading a blank stands before the line end, in the second one nothing does
  have hwords : ¬ JoinsWords [some 'a', some ' ', none, some '<', some 'b', some '>'] := by
    rw [← joins_pos_iff]
    decide
  have hjoined : JoinsWords (forestItems
      [.node (.link .inline "p.html" "") [.leaf (.text "First")], .leaf .hardBreak,
        .leaf (.code "second")]) := by
    rw [← joins_pos_iff]
    decide
  obtain ⟨parts, hpage, -, -, -, hreads⟩ := outline_reads (some Highlight.highlight) hflow
  obtain ⟨entry, first, content, hentry, hfirst, htext, hsame⟩ :=
    hreads 0 _ rfl (by decide) (.inr rfl)
  obtain ⟨entry', second, content', hentry', hsecond, htext', hdiffers⟩ :=
    hreads 1 _ rfl (by decide) (.inr rfl)
  rw [houtline] at hentry hentry'
  obtain rfl : ("a <b>", (1 : Int)) = entry := Option.some.inj hentry
  obtain rfl : ("Firstsecond", (2 : Int)) = entry' := Option.some.inj hentry'
  exact ⟨hflow, parts, hpage, first, second, content, content', hfirst, htext, hsame.mpr hwords,
    hsecond, htext', fun heq => hdiffers.mp heq hjoined⟩

/-- A heading whose line ends between two words. -/
def joinedLines : List EventTree :=
  [.node (.heading 1) [.leaf (.text "First"), .leaf .softBreak, .leaf (.text "second")]]

/-- The outline joins the words that the page shows on two lines. -/
theorem outline_joinedLines :
    areFlow joinedLines ∧ outline (forestEvents joinedLines) = [("Firstsecond", 1)] ∧
    render none (forestEvents joinedLines)
      = "<h1 class=\"title\" id=\"first\"><a class=\"anchor\" href=\"#first\">¶</a>" ++
        "First\nsecond</h1>\n" ∧
    textContent (render none (forestEvents joinedLines)) = '¶' :: "First\nsecond\n".toList ∧
    tidy "Firstsecond".toList ≠ tidy "First\nsecond\n".toList := by
  refine ⟨by decide, by decide, by decide +kernel, by decide +kernel, ?_⟩
  rw [tidy_eq_tidyFrom, tidy_eq_tidyFrom]
  decide

end StaticSite.Html
