import StaticSite.Html.Renderer
import StaticSite.Proofs.Html.Chart

/-!
# Links inside a page

A heading links to itself, a reference to the definition of its footnote, and a definition back to
its reference. The first two always find exactly one place. The link back finds as many places as
there are references outside of images: a label that is referenced twice has its identifier twice,
and the text in place of an image has no identifiers.

## What this module delivers

- `writesMarkup_highlight`: the output of the highlighter is markup without identifiers.
- `inPageLinks_render`: what the links inside the page of a document find.
- `inPageLinks_repeatedReference`: a document with matching footnotes in whose page an identifier
  occurs twice and a link back finds nothing.
-/

set_option autoImplicit false

namespace StaticSite.Html

open StaticSite.Markdown

/-! ## Highlighters -/

/-- Highlighted plain text is escaped, so it has no tags at all. -/
theorem writesMarkup_highlight : WritesMarkup (some Highlight.highlight) := by
  rintro highlight ⟨⟩ code language markup hmarkup
  unfold Highlight.highlight at hmarkup
  split at hmarkup
  · rw [← Option.some.inj hmarkup]
    apply scans_text
    rw [Highlight.plainText, String.toList_ofList]
    exact quotable_flatMap quotable_escapeChar _
  · exact absurd hmarkup (by simp)

theorem writesMarkup_none : WritesMarkup none :=
  fun _ h => absurd h (by simp)

/-! ## What the links find -/

/-- Labels with matching footnotes are defined once. -/
theorem FootnotesMatch.nodup {trees : List EventTree} (h : FootnotesMatch trees) :
    (forestDefinitions trees).Nodup := by
  rw [List.nodup_iff_count_le_one]
  intro label
  by_cases hdefined : label ∈ forestDefinitions trees
  · rw [h.defined label (h.mentioned label hdefined)]
  · rw [List.count_eq_zero_of_not_mem hdefined]
    exact Nat.zero_le 1

/-- The labels of the references among spans are those of the references among their landmarks. -/
theorem referenced_spans {trees : List EventTree} {spans : List PageSpan}
    (h : spans.filterMap PageSpan.landmark? = forestLandmarks trees) :
    spans.filterMap PageSpan.referenced? = forestReferences trees := by
  rw [forestReferences, ← h, List.filterMap_filterMap]
  rfl

/-- The identifier of a reference occurs on a page as often as its label is referenced outside of
images. -/
theorem count_referenceIdentifier_render {highlighter : Option Highlighter}
    (hwrites : WritesMarkup highlighter) {trees : List EventTree} (hflow : areFlow trees)
    (hhtml : areWithoutHtml trees) (label : String) :
    (identifiersOf (render highlighter (forestEvents trees))).count (referenceIdentifier label)
      = (forestReferences trees).count label := by
  obtain ⟨headings, -, spans, hspell, hclean, hlandmarks, -⟩ :=
    spelled_render hwrites hflow hhtml
  have hscans := scans_spell spans hclean
  rw [hspell] at hscans
  rw [hscans.identifiersOf, count_reference hclean, referenced_spans hlandmarks]

/-- The page of a document without raw HTML, in which headings and images hold only what may stand
in a line and footnotes match, is a row of landmarks with markup between them. The identifiers on
the page are those of its landmarks. The identifier that a heading links to, and the one that a
reference links to, occurs exactly once. The one that a definition links to occurs as often as its
label is referenced outside of images. No identifier occurs twice exactly if no label is referenced
twice outside of images. -/
theorem inPageLinks_render {highlighter : Option Highlighter} (hwrites : WritesMarkup highlighter)
    {trees : List EventTree} (hflow : areFlow trees) (hhtml : areWithoutHtml trees)
    (hmatch : FootnotesMatch trees) :
    ∃ spans : List PageSpan,
      spell spans = render highlighter (forestEvents trees) ∧
      (∀ span ∈ spans, span.IsClean) ∧
      spans.filterMap PageSpan.landmark? = forestLandmarks trees ∧
      identifiersOf (render highlighter (forestEvents trees))
        = spans.filterMap PageSpan.identifier? ∧
      (∀ level titled identifier, PageSpan.heading level titled identifier ∈ spans →
        (identifiersOf (render highlighter (forestEvents trees))).count identifier = 1) ∧
      (∀ label number, PageSpan.reference label number ∈ spans →
        (identifiersOf (render highlighter (forestEvents trees))).count
          (definitionIdentifier label) = 1) ∧
      (∀ label, PageSpan.back label ∈ spans →
        (identifiersOf (render highlighter (forestEvents trees))).count
          (referenceIdentifier label) = (forestReferences trees).count label) ∧
      ((identifiersOf (render highlighter (forestEvents trees))).Nodup ↔
        (forestReferences trees).Nodup) := by
  obtain ⟨headings, hnodup, spans, hspell, hclean, hlandmarks, rfl⟩ :=
    spelled_render hwrites hflow hhtml
  have hscans := scans_spell spans hclean
  rw [hspell] at hscans
  have hidentifiers := hscans.identifiersOf
  have hreferences := referenced_spans hlandmarks
  have hdefinitions : spans.filterMap PageSpan.defined? = forestDefinitions trees := by
    rw [forestDefinitions, ← hlandmarks, List.filterMap_filterMap]
    rfl
  refine ⟨spans, hspell, hclean, hlandmarks, hidentifiers, ?_, ?_, ?_, ?_⟩
  · -- headings have different identifiers, and no footnote has one of them
    intro level titled identifier hmem
    rw [hidentifiers, count_heading (hclean _ hmem).2]
    exact List.count_eq_one_of_mem hnodup (List.mem_filterMap.mpr ⟨_, hmem, rfl⟩)
  · -- a label that is referenced has one definition
    intro label number hmem
    have hlandmark : Landmark.reference label ∈ forestLandmarks trees := by
      rw [← hlandmarks]
      exact List.mem_filterMap.mpr ⟨_, hmem, rfl⟩
    rw [hidentifiers, count_definition hclean, hdefinitions]
    exact hmatch.defined label (references_subset_forest trees label hlandmark)
  · intro label _
    exact count_referenceIdentifier_render hwrites hflow hhtml label
  · -- labels are defined once, so only references can repeat an identifier
    rw [hidentifiers, nodup_identifiers_iff hclean hnodup, hreferences, hdefinitions]
    exact ⟨And.left, fun h => ⟨h, hmatch.nodup⟩⟩

/-- Two headings of one name, a footnote that is referenced among words and in the text in place of
an image, and code in a language that is highlighted. -/
def sampleNotes : List EventTree :=
  [.node (.heading 1) [.leaf (.text "Notes")],
   .node .paragraph [.leaf (.text "see"), .leaf (.footnoteReference "a<b"),
     .node (.image "p.png" "") [.leaf (.footnoteReference "a<b")]],
   .node (.heading 7) [.node .emphasis [.leaf (.text "notes")]],
   .node (.codeBlock (some "text")) [.leaf (.text "<p id=\"r.a\">")],
   .node (.footnoteDefinition "a<b") [.node .paragraph [.leaf (.text "note")]]]

theorem inPageLinks_sampleNotes :
    areFlow sampleNotes ∧ areWithoutHtml sampleNotes ∧ FootnotesMatch sampleNotes ∧
    WritesMarkup (some Highlight.highlight) ∧
    ∃ spans : List PageSpan,
      spell spans = render (some Highlight.highlight) (forestEvents sampleNotes) ∧
      (∀ span ∈ spans, span.IsClean) ∧
      spans.filterMap PageSpan.landmark? = forestLandmarks sampleNotes ∧
      identifiersOf (render (some Highlight.highlight) (forestEvents sampleNotes))
        = spans.filterMap PageSpan.identifier? ∧
      (∀ level titled identifier, PageSpan.heading level titled identifier ∈ spans →
        (identifiersOf (render (some Highlight.highlight) (forestEvents sampleNotes))).count
          identifier = 1) ∧
      (∀ label number, PageSpan.reference label number ∈ spans →
        (identifiersOf (render (some Highlight.highlight) (forestEvents sampleNotes))).count
          (definitionIdentifier label) = 1) ∧
      (∀ label, PageSpan.back label ∈ spans →
        (identifiersOf (render (some Highlight.highlight) (forestEvents sampleNotes))).count
          (referenceIdentifier label) = (forestReferences sampleNotes).count label) ∧
      ((identifiersOf (render (some Highlight.highlight) (forestEvents sampleNotes))).Nodup ↔
        (forestReferences sampleNotes).Nodup) :=
  ⟨by decide, by decide, ⟨by decide, by decide⟩, writesMarkup_highlight,
    inPageLinks_render writesMarkup_highlight (by decide) (by decide) ⟨by decide, by decide⟩⟩

/-- A footnote that is referenced twice, and one that is referenced only in the text in place of an
image. -/
def repeatedReference : List EventTree :=
  [.node .paragraph [.leaf (.footnoteReference "a"), .leaf (.footnoteReference "a"),
     .node (.image "p.png" "") [.leaf (.text "p"), .leaf (.footnoteReference "b")]],
   .node (.footnoteDefinition "a") [],
   .node (.footnoteDefinition "b") []]

/-- Footnotes match, and yet the identifier of a reference occurs twice, and the link back to the
other reference finds nothing. -/
theorem inPageLinks_repeatedReference :
    areFlow repeatedReference ∧ areWithoutHtml repeatedReference ∧
    FootnotesMatch repeatedReference ∧
    Landmark.back "a" ∈ forestLandmarks repeatedReference ∧
    Landmark.back "b" ∈ forestLandmarks repeatedReference ∧
    (identifiersOf (render none (forestEvents repeatedReference))).count
      (referenceIdentifier "a") = 2 ∧
    (identifiersOf (render none (forestEvents repeatedReference))).count
      (referenceIdentifier "b") = 0 := by
  refine ⟨by decide, by decide, ⟨by decide, by decide⟩, by decide, by decide, ?_, ?_⟩
  · rw [count_referenceIdentifier_render writesMarkup_none (by decide) (by decide)]
    decide
  · rw [count_referenceIdentifier_render writesMarkup_none (by decide) (by decide)]
    decide

end StaticSite.Html
