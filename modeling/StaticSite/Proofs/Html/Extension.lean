import StaticSite.Proofs.Html.FootnoteNumber
import StaticSite.Proofs.Html.Landmark

/-!
# What an event adds to a page

Between the places where a heading begins and where its identifier is settled, everything the writer
does is to hand on pieces: to the page, or to the markup that is held back. `Writer.Extends` says
that a writer is another one after such pieces, and `Writer.AddsMarkup` that the pieces are markup
in which no tag has an identifier.

## What this module delivers

- `Writer.Extends`, with `Extends.trans`, `Extends.emit` and `Extends.write`: pieces in a row.
- `Writer.perform`: what an event does outside of images, once no heading is in its way.
- `Writer.AddsMarkup`: pieces without identifiers.
- `addsMarkup_startTag`, `addsMarkup_stopTag`, `addsMarkup_leaf`: the events that add nothing else.
- `extends_footnoteReference`, `extends_startDefinition`, `extends_stopDefinition`: the footnotes.
-/

set_option autoImplicit false

namespace StaticSite.Html

open StaticSite.Markdown

/-! ## Pieces -/

/-- The writer `w'` is `w` after handing on a text: where something is held back the text joins it,
and otherwise the page grows by it. -/
structure Writer.Extends (w : Writer) (text : String) (w' : Writer) : Prop where
  awaiting : w'.awaitingHeadingText = w.awaitingHeadingText
  anchors : w'.anchors = w.anchors
  image : w'.image = w.image
  page : w.held = none → w'.held = none ∧ w'.page = w.page ++ text
  held : ∀ pieces, w.held = some pieces → w'.page = w.page ∧
    ∃ more, w'.held = some more ∧ String.join more = String.join pieces ++ text

/-- What an event does outside of images, once no heading is in its way. -/
def Writer.perform (highlighter : Option Highlighter) (standalone : Bool) (event : Event)
    (w : Writer) : Writer :=
  match event with
  | .start tag => w.startTag highlighter standalone tag
  | .stop tag => w.stopTag highlighter tag
  | .text content => w.text content
  | .code content => ((w.write "<code>").emit (escape content)).write "</code>"
  | .html content => w.write content
  | .softBreak => { w with atLineStart := true }.emit "\n"
  | .hardBreak => w.write "<br />\n"
  | .rule => w.writeBlock "<hr />\n"
  | .footnoteReference label => w.footnoteReference label
  | .taskMarker true => w.write "<input disabled=\"\" type=\"checkbox\" checked=\"\"/>\n"
  | .taskMarker false => w.write "<input disabled=\"\" type=\"checkbox\"/>\n"

namespace Writer

variable {w w' w'' : Writer} {text more : String}

theorem step_of_image_none (highlighter : Option Highlighter) (h : w.image = none) (event : Event)
    (standalone : Bool) :
    w.step highlighter (event, standalone)
      = (w.prepareHeading event).perform highlighter standalone event := by
  -- a task marker has two equations, one for each state of its box
  cases event with
  | taskMarker checked => cases checked <;> simp [step, h, perform]
  | _ => simp [step, h, perform]

theorem Extends.refl (w : Writer) : w.Extends "" w := by
  refine ⟨rfl, rfl, rfl, ?_, ?_⟩
  · intro h
    exact ⟨h, by simp⟩
  · intro pieces h
    exact ⟨rfl, pieces, h, by simp⟩

theorem Extends.trans (h : w.Extends text w') (h' : w'.Extends more w'') :
    w.Extends (text ++ more) w'' := by
  refine ⟨h'.awaiting.trans h.awaiting, h'.anchors.trans h.anchors, h'.image.trans h.image, ?_, ?_⟩
  · intro hnone
    obtain ⟨hnone', hpage⟩ := h.page hnone
    obtain ⟨hnone'', hpage'⟩ := h'.page hnone'
    exact ⟨hnone'', by rw [hpage', hpage, String.append_assoc]⟩
  · intro pieces hsome
    obtain ⟨hpage, others, hsome', hjoin⟩ := h.held pieces hsome
    obtain ⟨hpage', last, hsome'', hjoin'⟩ := h'.held others hsome'
    exact ⟨hpage'.trans hpage, last, hsome'', by rw [hjoin', hjoin, String.append_assoc]⟩

theorem Extends.congr (h : w.Extends text w') (htext : text = more) : w.Extends more w' :=
  htext ▸ h

/-- A field that has nothing to do with the page may be set before anything is handed on. -/
theorem Extends.of_same (h : w.Extends text w') (hwritten : w''.written = w'.written)
    (hheld : w''.held = w'.held) (hawaiting : w''.awaitingHeadingText = w'.awaitingHeadingText)
    (hanchors : w''.anchors = w'.anchors) (himage : w''.image = w'.image) :
    w.Extends text w'' := by
  have hpage : w''.page = w'.page := by rw [Writer.page, Writer.page, hwritten]
  refine ⟨hawaiting.trans h.awaiting, hanchors.trans h.anchors, himage.trans h.image, ?_, ?_⟩
  · intro hnone
    obtain ⟨hnone', hgrown⟩ := h.page hnone
    exact ⟨hheld.trans hnone', hpage.trans hgrown⟩
  · intro pieces hsome
    obtain ⟨hgrown, others, hsome', hjoin⟩ := h.held pieces hsome
    exact ⟨hpage.trans hgrown, others, hheld.trans hsome', hjoin⟩

theorem Extends.emit (h : w.Extends text w') (more : String) :
    w.Extends (text ++ more) (w'.emit more) := by
  refine h.trans ?_
  unfold Writer.emit
  cases hheld : w'.held with
  | none =>
      refine ⟨rfl, rfl, rfl, ?_, ?_⟩
      · intro _
        exact ⟨rfl, page_push w'.written more⟩
      · intro pieces hsome
        rw [hheld] at hsome
        exact absurd hsome (by simp)
  | some pieces =>
      refine ⟨rfl, rfl, rfl, ?_, ?_⟩
      · intro hnone
        rw [hheld] at hnone
        exact absurd hnone (by simp)
      · intro others hsome
        rw [hheld] at hsome
        obtain rfl := Option.some.inj hsome
        exact ⟨rfl, pieces ++ [more], rfl, by simp⟩

theorem Extends.write (h : w.Extends text w') (more : String) :
    w.Extends (text ++ more) (w'.write more) := by
  unfold Writer.write
  have hemit := h.emit more
  -- whether the line is at its start is not part of the page
  split
  · exact hemit
  · exact hemit.of_same rfl rfl rfl rfl rfl

theorem Extends.writeText (h : w.Extends text w') (content : String) :
    w.Extends (text ++ escape content) (w'.writeText content) :=
  (h.emit (escape content)).of_same rfl rfl rfl rfl rfl

theorem Extends.footnote (h : w.Extends text w') (label : String) :
    w.Extends text (w'.footnoteNumber label).2 :=
  h.of_same rfl rfl rfl rfl rfl

theorem Extends.emitNumber (h : w.Extends text w') (label : String) :
    w.Extends (text ++ toString (w'.footnoteNumber label).1)
      ((w'.footnoteNumber label).2.emit (toString (w'.footnoteNumber label).1)) :=
  (h.footnote label).emit _

/-- An image may begin, change or end whatever is handed on. -/
theorem Extends.setImage (h : w.Extends text w') (image : Option OpenImage) :
    { w with image := image }.Extends text { w' with image := image } :=
  ⟨h.awaiting, h.anchors, rfl, h.page, h.held⟩

end Writer

/-! ## Markup -/

/-- The writer `w'` is `w` after handing on markup that is scanned from one mode to another and in
which no tag has an identifier. -/
def Writer.AddsMarkup (w : Writer) (mode : ScanMode) (w' : Writer) (mode' : ScanMode) : Prop :=
  ∃ text, w.Extends text w' ∧ Scans mode text mode' []

/-- A highlighter whose output is markup without identifiers. -/
def WritesMarkup (highlighter : Option Highlighter) : Prop :=
  ∀ highlight, highlighter = some highlight → ∀ code language markup,
    highlight code language = some markup → Scans .text markup .text []

namespace Writer

variable {w w' w'' : Writer} {text : String} {mode mode' mode'' : ScanMode}

theorem AddsMarkup.refl (w : Writer) (mode : ScanMode) : w.AddsMarkup mode w mode :=
  ⟨"", Extends.refl w, Scans.empty mode⟩

theorem AddsMarkup.trans (h : w.AddsMarkup mode w' mode') (h' : w'.AddsMarkup mode' w'' mode'') :
    w.AddsMarkup mode w'' mode'' := by
  obtain ⟨text, hextends, hscans⟩ := h
  obtain ⟨more, hextends', hscans'⟩ := h'
  exact ⟨text ++ more, hextends.trans hextends', hscans.append hscans'⟩

theorem AddsMarkup.of_same (h : w.AddsMarkup mode w' mode') (hwritten : w''.written = w'.written)
    (hheld : w''.held = w'.held) (hawaiting : w''.awaitingHeadingText = w'.awaitingHeadingText)
    (hanchors : w''.anchors = w'.anchors) (himage : w''.image = w'.image) :
    w.AddsMarkup mode w'' mode' := by
  obtain ⟨text, hextends, hscans⟩ := h
  exact ⟨text, hextends.of_same hwritten hheld hawaiting hanchors himage, hscans⟩

theorem AddsMarkup.emit (h : w.AddsMarkup mode w' mode') (htext : Scans mode' text mode'' []) :
    w.AddsMarkup mode (w'.emit text) mode'' := by
  obtain ⟨before, hextends, hscans⟩ := h
  exact ⟨before ++ text, hextends.emit text, hscans.append htext⟩

theorem AddsMarkup.write (h : w.AddsMarkup mode w' mode') (htext : Scans mode' text mode'' []) :
    w.AddsMarkup mode (w'.write text) mode'' := by
  obtain ⟨before, hextends, hscans⟩ := h
  exact ⟨before ++ text, hextends.write text, hscans.append htext⟩

/-- A line end before a block is text. -/
theorem AddsMarkup.writeBlock (h : w.AddsMarkup mode w' .text) (htext : Scans .text text mode' []) :
    w.AddsMarkup mode (w'.writeBlock text) mode' := by
  refine h.write ?_
  split
  · exact (Scans.empty .text).append htext
  · have hend : Scans .text "\n" .text [] := ⟨_, rfl, rfl⟩
    exact hend.append htext

theorem AddsMarkup.writeText (h : w.AddsMarkup mode w' .text) (content : String) :
    w.AddsMarkup mode (w'.writeText content) .text := by
  obtain ⟨before, hextends, hscans⟩ := h
  exact ⟨before ++ escape content, hextends.writeText content,
    hscans.append (scans_text (quotable_escape content))⟩

/-- Written markup. -/
theorem addsMarkup_write (w : Writer) (text : String) (h : Scans .text text .text []) :
    w.AddsMarkup .text (w.write text) .text :=
  (AddsMarkup.refl w .text).write h

/-- Written markup that begins a block. -/
theorem addsMarkup_writeBlock (w : Writer) (text : String) (h : Scans .text text .text []) :
    w.AddsMarkup .text (w.writeBlock text) .text :=
  (AddsMarkup.refl w .text).writeBlock h

/-! ## Events that add markup -/

theorem addsMarkup_startCode (highlighter : Option Highlighter) (info : Option String)
    (w : Writer) : w.AddsMarkup .text (w.startCode highlighter info) .text := by
  have hline : w.AddsMarkup .text
      (if w.atLineStart then w else { w with atLineStart := true }.emit "\n") .text := by
    have hstart : w.AddsMarkup .text { w with atLineStart := true } .text :=
      (AddsMarkup.refl w .text).of_same rfl rfl rfl rfl rfl
    split
    · exact AddsMarkup.refl w .text
    · exact hstart.emit ⟨_, rfl, rfl⟩
  rw [startCode]
  -- whether a line had to be ended first has no part in what follows
  generalize (if w.atLineStart then w else { w with atLineStart := true }.emit "\n") = line
    at hline ⊢
  dsimp only
  split
  · exact hline.write ⟨_, rfl, rfl⟩
  · have hopen : Scans .text "<pre><code class=\"language-"
        (.value "class".toList "language-".toList) [] := ⟨_, rfl, rfl⟩
    have hlanguage := scans_value (quotable_escape (codeLanguage info)) "class".toList
      "language-".toList
    have hend : Scans (.value "class".toList
        ("language-".toList ++ (escape (codeLanguage info)).toList)) "\">" .text [] := ⟨_, rfl, rfl⟩
    have hall := ((hline.write hopen).emit hlanguage).write hend
    split
    · exact hall.of_same rfl rfl rfl rfl rfl
    · exact hall

theorem addsMarkup_startList (first : Option Int) (highlighter : Option Highlighter)
    (standalone : Bool) (w : Writer) :
    w.AddsMarkup .text (w.startTag highlighter standalone (.list first)) .text := by
  cases first with
  | none => exact (AddsMarkup.refl w .text).writeBlock ⟨_, rfl, rfl⟩
  | some number =>
      unfold startTag
      dsimp only
      split
      · exact (AddsMarkup.refl w .text).writeBlock ⟨_, rfl, rfl⟩
      · -- a list that does not begin with one tells its first number
        have hopen : Scans .text "<ol start=\"" (.value "start".toList []) [] := ⟨_, rfl, rfl⟩
        have hnumber := scans_value (quotable_of_plain (plain_int number)) "start".toList []
        have hend : Scans (.value "start".toList ([] ++ (toString number).toList)) "\">\n"
            .text [] := ⟨_, rfl, rfl⟩
        exact (((AddsMarkup.refl w .text).writeBlock hopen).emit hnumber).write hend

theorem addsMarkup_startLink (form : LinkForm) (dest title : String)
    (highlighter : Option Highlighter) (standalone : Bool) (w : Writer) :
    w.AddsMarkup .text (w.startTag highlighter standalone (.link form dest title)) .text := by
  -- an address of mail begins its value with a scheme, any other link with nothing
  have hopen : ∃ scheme, Scans .text (if form = .email then "<a href=\"mailto:" else "<a href=\"")
      (.value "href".toList scheme) [] := by
    by_cases hform : form = .email
    · rw [if_pos hform]
      exact ⟨"mailto:".toList, _, rfl, rfl⟩
    · rw [if_neg hform]
      exact ⟨[], _, rfl, rfl⟩
  obtain ⟨scheme, hopen⟩ := hopen
  have hhref := ((AddsMarkup.refl w .text).write hopen).emit
    (scans_value (quotable_escapeHref dest) "href".toList scheme)
  unfold startTag
  dsimp only
  split
  · exact hhref.write ⟨_, rfl, rfl⟩
  · have hname : Scans (.value "href".toList (scheme ++ (escapeHref dest).toList)) "\" title=\""
        (.value "title".toList []) [] := ⟨_, rfl, rfl⟩
    have htitle := scans_value (quotable_escape title) "title".toList []
    have hend : Scans (.value "title".toList ([] ++ (escape title).toList)) "\">" .text [] :=
      ⟨_, rfl, rfl⟩
    exact ((hhref.write hname).emit htitle).write hend

theorem scans_cellAttribute (w : Writer) (name : List Char) :
    Scans (.tag name) w.cellAttribute .text [] := by
  unfold cellAttribute
  split <;> exact ⟨_, rfl, rfl⟩

theorem addsMarkup_startCell (highlighter : Option Highlighter) (standalone : Bool) (w : Writer) :
    w.AddsMarkup .text (w.startTag highlighter standalone .tableCell) .text := by
  have hopen : ∃ name, Scans .text (if w.inTableHead then "<th" else "<td") (.tag name) [] := by
    cases w.inTableHead with
    | true => exact ⟨_, _, rfl, rfl⟩
    | false => exact ⟨_, _, rfl, rfl⟩
  obtain ⟨name, hopen⟩ := hopen
  exact ((AddsMarkup.refl w .text).write hopen).write (scans_cellAttribute w name)

/-- The start of a construct adds markup, unless it begins a heading, an image or a definition. -/
theorem addsMarkup_startTag (highlighter : Option Highlighter) (standalone : Bool) (w : Writer) :
    ∀ tag : Tag, tag.holdsLine = false → startLandmarks tag = [] →
      w.AddsMarkup .text (w.startTag highlighter standalone tag) .text
  | .paragraph, _, _ => by
      unfold startTag
      dsimp only
      split
      · exact AddsMarkup.refl w .text
      · exact (AddsMarkup.refl w .text).writeBlock ⟨_, rfl, rfl⟩
  | .heading _, hline, _ => absurd hline (by simp [Tag.holdsLine])
  | .blockQuote, _, _ => addsMarkup_writeBlock w "<blockquote>\n" ⟨_, rfl, rfl⟩
  | .codeBlock info, _, _ => addsMarkup_startCode highlighter info w
  | .list first, _, _ => addsMarkup_startList first highlighter standalone w
  | .item, _, _ => addsMarkup_writeBlock w "<li>" ⟨_, rfl, rfl⟩
  | .footnoteDefinition _, _, hno => absurd hno (by simp [startLandmarks])
  | .table alignments, _, _ => by
      have haligned : w.AddsMarkup .text { w with alignments := alignments } .text :=
        (AddsMarkup.refl w .text).of_same rfl rfl rfl rfl rfl
      exact haligned.trans (addsMarkup_write _ "<table>" ⟨_, rfl, rfl⟩)
  | .tableHead, _, _ => by
      have hhead : w.AddsMarkup .text { w with inTableHead := true, column := 0 } .text :=
        (AddsMarkup.refl w .text).of_same rfl rfl rfl rfl rfl
      exact hhead.trans (addsMarkup_write _ "<thead><tr>" ⟨_, rfl, rfl⟩)
  | .tableRow, _, _ => by
      have hrow : w.AddsMarkup .text { w with column := 0 } .text :=
        (AddsMarkup.refl w .text).of_same rfl rfl rfl rfl rfl
      exact hrow.trans (addsMarkup_write _ "<tr>" ⟨_, rfl, rfl⟩)
  | .tableCell, _, _ => addsMarkup_startCell highlighter standalone w
  | .emphasis, _, _ => addsMarkup_write w "<em>" ⟨_, rfl, rfl⟩
  | .strong, _, _ => addsMarkup_write w "<strong>" ⟨_, rfl, rfl⟩
  | .strikethrough, _, _ => addsMarkup_write w "<del>" ⟨_, rfl, rfl⟩
  | .link form dest title, _, _ => addsMarkup_startLink form dest title highlighter standalone w
  | .image _ _, hline, _ => absurd hline (by simp [Tag.holdsLine])

/-- Collected code is markup, whether the highlighter takes it or not. -/
theorem addsMarkup_flushCode {highlighter : Option Highlighter} (h : WritesMarkup highlighter)
    (w : Writer) : w.AddsMarkup .text (w.flushCode highlighter) .text := by
  unfold flushCode
  split
  · rename_i block highlight hcode
    -- a highlighter that declines leaves the code to be escaped
    have hmarkup : Scans .text
        ((highlight block.content block.language).getD (escape block.content)) .text [] := by
      cases hresult : highlight block.content block.language with
      | none => exact scans_text (quotable_escape block.content)
      | some markup => exact h highlight rfl _ _ markup hresult
    have hclosed : w.AddsMarkup .text { w with code := none } .text :=
      (AddsMarkup.refl w .text).of_same rfl rfl rfl rfl rfl
    exact (hclosed.emit hmarkup).of_same rfl rfl rfl rfl rfl
  · exact AddsMarkup.refl w .text

/-- The end of a construct adds markup, unless it ends a heading, an image or a definition. -/
theorem addsMarkup_stopTag {highlighter : Option Highlighter} (h : WritesMarkup highlighter)
    (w : Writer) :
    ∀ tag : Tag, tag.holdsLine = false → stopLandmarks tag = [] →
      w.AddsMarkup .text (w.stopTag highlighter tag) .text
  | .paragraph, _, _ => by
      unfold stopTag
      dsimp only
      split
      · exact AddsMarkup.refl w .text
      · exact (AddsMarkup.refl w .text).write ⟨_, rfl, rfl⟩
  | .heading _, hline, _ => absurd hline (by simp [Tag.holdsLine])
  | .blockQuote, _, _ => addsMarkup_write w "</blockquote>\n" ⟨_, rfl, rfl⟩
  | .codeBlock _, _, _ =>
      (addsMarkup_flushCode h w).trans (addsMarkup_write _ "</code></pre>\n" ⟨_, rfl, rfl⟩)
  | .list none, _, _ => addsMarkup_write w "</ul>\n" ⟨_, rfl, rfl⟩
  | .list (some _), _, _ => addsMarkup_write w "</ol>\n" ⟨_, rfl, rfl⟩
  | .item, _, _ => addsMarkup_write w "</li>\n" ⟨_, rfl, rfl⟩
  | .footnoteDefinition _, _, hno => absurd hno (by simp [stopLandmarks])
  | .table _, _, _ => addsMarkup_write w "</tbody></table>\n" ⟨_, rfl, rfl⟩
  | .tableHead, _, _ => by
      have hclose := addsMarkup_write w "</tr></thead><tbody>\n" ⟨_, rfl, rfl⟩
      exact hclose.of_same rfl rfl rfl rfl rfl
  | .tableRow, _, _ => addsMarkup_write w "</tr>\n" ⟨_, rfl, rfl⟩
  | .tableCell, _, _ => by
      have hclose : w.AddsMarkup .text (w.write (if w.inTableHead then "</th>" else "</td>"))
          .text := by
        refine (AddsMarkup.refl w .text).write ?_
        cases w.inTableHead <;> exact ⟨_, rfl, rfl⟩
      exact hclose.of_same rfl rfl rfl rfl rfl
  | .emphasis, _, _ => addsMarkup_write w "</em>" ⟨_, rfl, rfl⟩
  | .strong, _, _ => addsMarkup_write w "</strong>" ⟨_, rfl, rfl⟩
  | .strikethrough, _, _ => addsMarkup_write w "</del>" ⟨_, rfl, rfl⟩
  | .link _ _ _, _, _ => addsMarkup_write w "</a>" ⟨_, rfl, rfl⟩
  | .image _ _, hline, _ => absurd hline (by simp [Tag.holdsLine])

/-- Text adds markup where no heading waits: escaped, or collected for the highlighter. -/
theorem addsMarkup_text (content : String) (hsettled : w.awaitingHeadingText = false) :
    w.AddsMarkup .text (w.text content) .text := by
  unfold Writer.text
  rw [if_neg (by simp [hsettled])]
  dsimp only
  split
  · exact (AddsMarkup.refl w .text).of_same rfl rfl rfl rfl rfl
  · exact (AddsMarkup.refl w .text).writeText content

/-- An event that encloses nothing adds markup where no heading is in its way, unless it is a
reference to a footnote or raw HTML. -/
theorem addsMarkup_leaf (highlighter : Option Highlighter) (standalone : Bool) (w : Writer) :
    ∀ leaf : Leaf, leafLandmarks leaf = [] → (∀ content, leaf ≠ .html content) →
      (∀ content, leaf = .text content → w.awaitingHeadingText = false) →
      w.AddsMarkup .text (w.perform highlighter standalone leaf.event) .text
  | .text content, _, _, hsettled => addsMarkup_text content (hsettled content rfl)
  | .code content, _, _, _ => by
      have hopen := addsMarkup_write w "<code>" ⟨_, rfl, rfl⟩
      have hclose : Scans .text "</code>" .text [] := ⟨_, rfl, rfl⟩
      exact (hopen.emit (scans_text (quotable_escape content))).write hclose
  | .html content, _, hhtml, _ => absurd rfl (hhtml content)
  | .softBreak, _, _, _ => by
      have hline : w.AddsMarkup .text { w with atLineStart := true } .text :=
        (AddsMarkup.refl w .text).of_same rfl rfl rfl rfl rfl
      exact hline.emit ⟨_, rfl, rfl⟩
  | .hardBreak, _, _, _ => addsMarkup_write w "<br />\n" ⟨_, rfl, rfl⟩
  | .rule, _, _, _ => addsMarkup_writeBlock w "<hr />\n" ⟨_, rfl, rfl⟩
  | .footnoteReference _, hno, _, _ => absurd hno (by simp [leafLandmarks])
  | .taskMarker true, _, _, _ =>
      addsMarkup_write w "<input disabled=\"\" type=\"checkbox\" checked=\"\"/>\n" ⟨_, rfl, rfl⟩
  | .taskMarker false, _, _, _ =>
      addsMarkup_write w "<input disabled=\"\" type=\"checkbox\"/>\n" ⟨_, rfl, rfl⟩

/-! ## Footnotes -/

/-- A reference adds itself, with the number of its footnote. -/
theorem extends_footnoteReference (label : String) (w : Writer) :
    w.Extends (PageSpan.reference label (w.footnotes.number label).1).text
      (w.footnoteReference label) := by
  have hopen := (((Extends.refl w).footnote label).emit
    ("<sup class=\"footnote-reference\" id=\"r." ++ escape label ++ "\"><a href=\"#f." ++
      escape label)).write "\">"
  have hall := (hopen.emit (toString (w.footnoteNumber label).1)).write "</a></sup>"
  have hid : ("<sup class=\"footnote-reference\" id=\"r." : String)
      = "<sup class=\"footnote-reference\" id=\"" ++ "r." := by decide
  have hhref : ("\"><a href=\"#f." : String) = "\"><a href=\"#" ++ "f." := by decide
  refine hall.congr ?_
  rw [hid, hhref, String.empty_append, PageSpan.text_reference, referenceIdentifier,
    definitionIdentifier, footnoteNumber_fst]
  simp only [String.append_assoc]

/-- The start of a definition adds itself with the number of its footnote, on a line of its own. -/
theorem extends_startDefinition (label : String) (w : Writer) :
    ∃ line, Scans .text line .text [] ∧
      w.Extends (line ++ (PageSpan.definition label (w.footnotes.number label).1).text)
        (w.startDefinition label) := by
  have hinside : w.Extends "" { w with inDefinition := true } :=
    (Extends.refl w).of_same rfl rfl rfl rfl rfl
  have hopen := ((hinside.write
    ((if w.atLineStart then "" else "\n") ++ "<p class=\"footnote\" id=\"f.")).emit
      (escape label)).write "\"><sup>"
  have hall := (hopen.emitNumber label).write "</sup> "
  have hid : ("<p class=\"footnote\" id=\"f." : String)
      = "<p class=\"footnote\" id=\"" ++ "f." := by decide
  refine ⟨if w.atLineStart then "" else "\n", ?_, hall.congr ?_⟩
  · split
    · exact Scans.empty .text
    · exact ⟨_, rfl, rfl⟩
  · -- nothing that was written so far has a part in the number
    simp only [footnoteNumber_fst, footnotes_write, footnotes_emit]
    rw [hid, String.empty_append, PageSpan.text_definition, definitionIdentifier]
    simp only [String.append_assoc]

/-- The end of a definition adds the link back. -/
theorem extends_stopDefinition (label : String) (highlighter : Option Highlighter) (w : Writer) :
    w.Extends (PageSpan.back label).text (w.stopTag highlighter (.footnoteDefinition label)) := by
  have houtside : w.Extends "" { w with inDefinition := false } :=
    (Extends.refl w).of_same rfl rfl rfl rfl rfl
  have hall := houtside.emit (" <a href=\"#r." ++ escape label ++ "\">↩</a></p>\n")
  have hhref : (" <a href=\"#r." : String) = " <a href=\"#" ++ "r." := by decide
  refine hall.congr ?_
  rw [hhref, String.empty_append, PageSpan.text_back, referenceIdentifier]
  simp only [String.append_assoc]

end Writer

end StaticSite.Html
