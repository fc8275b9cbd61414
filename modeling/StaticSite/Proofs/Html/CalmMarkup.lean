import StaticSite.Proofs.Html.HeadingTag
import StaticSite.Proofs.Html.ImageText
import StaticSite.Proofs.Markdown.Heading

/-!
# Markup between headings

The tag of a heading comes from where a heading begins and from nowhere else: what any other event
hands on is calm, raw HTML and the output of a highlighter apart. `Writer.Continues` is
`Writer.Extends` for writers that also agree on whether the page has its title.

## What this module delivers

- `Writer.Continues`, with `Continues.trans`, `Continues.emit`, `Continues.write`: pieces in a row.
- `Writer.AddsCalm`: calm pieces, with the same operations.
- `addsCalm_startTag`, `addsCalm_stopTag`, `addsCalm_leaf`: the events that are no headings.
- `startCode_eq`, `code_flushCode`: the beginning and the end of the code that is collected.
- `addsCalm_image`: an image as a whole.
-/

set_option autoImplicit false

namespace StaticSite.Html

open StaticSite.Markdown

namespace Writer

/-! ## Pieces -/

/-- The writer `w'` is `w` after handing on a text. The page has its title if it had it before, and
code is collected only if it was before. -/
structure Continues (w : Writer) (text : String) (w' : Writer) : Prop where
  grows : w.Extends text w'
  titled : w'.titled = w.titled
  code : w.code = none → w'.code = none

variable {w w' w'' : Writer} {text more : String}

theorem titled_emit : (w.emit text).titled = w.titled := by
  unfold emit
  split <;> rfl

theorem code_emit : (w.emit text).code = w.code := by
  unfold emit
  split <;> rfl

theorem code_write : (w.write text).code = w.code := by
  unfold write
  split <;> exact code_emit

theorem Continues.refl (w : Writer) : w.Continues "" w :=
  ⟨Extends.refl w, rfl, id⟩

theorem Continues.trans (h : w.Continues text w') (h' : w'.Continues more w'') :
    w.Continues (text ++ more) w'' :=
  ⟨h.grows.trans h'.grows, h'.titled.trans h.titled, fun hcode => h'.code (h.code hcode)⟩

theorem Continues.congr (h : w.Continues text w') (htext : text = more) : w.Continues more w' :=
  htext ▸ h

/-- A field that has nothing to do with the page may be set before anything is handed on. -/
theorem Continues.of_same (h : w.Continues text w') (hwritten : w''.written = w'.written)
    (hheld : w''.held = w'.held) (hawaiting : w''.awaitingHeadingText = w'.awaitingHeadingText)
    (hanchors : w''.anchors = w'.anchors) (himage : w''.image = w'.image)
    (htitled : w''.titled = w'.titled) (hcode : w''.code = w'.code) : w.Continues text w'' := by
  refine ⟨h.grows.of_same hwritten hheld hawaiting hanchors himage, htitled.trans h.titled, ?_⟩
  intro hnone
  rw [hcode]
  exact h.code hnone

theorem Continues.emit (h : w.Continues text w') (more : String) :
    w.Continues (text ++ more) (w'.emit more) := by
  refine ⟨h.grows.emit more, titled_emit.trans h.titled, fun hcode => ?_⟩
  rw [code_emit]
  exact h.code hcode

theorem Continues.write (h : w.Continues text w') (more : String) :
    w.Continues (text ++ more) (w'.write more) := by
  unfold Writer.write
  have hemit := h.emit more
  -- whether the line is at its start is not part of the page
  split
  · exact hemit
  · exact hemit.of_same rfl rfl rfl rfl rfl rfl rfl

theorem Continues.writeText (h : w.Continues text w') (content : String) :
    w.Continues (text ++ escape content) (w'.writeText content) :=
  (h.emit (escape content)).of_same rfl rfl rfl rfl rfl rfl rfl

theorem Continues.setImage (h : w.Continues text w') (image : Option OpenImage) :
    { w with image := image }.Continues text { w' with image := image } :=
  ⟨h.grows.setImage image, h.titled, h.code⟩

/-! ## Calm pieces -/

/-- The writer `w'` is `w` after handing on a calm text. -/
def AddsCalm (w w' : Writer) : Prop :=
  ∃ text, w.Continues text w' ∧ IsCalm text

theorem AddsCalm.refl (w : Writer) : w.AddsCalm w :=
  ⟨"", Continues.refl w, IsCalm.empty⟩

theorem AddsCalm.trans (h : w.AddsCalm w') (h' : w'.AddsCalm w'') : w.AddsCalm w'' := by
  obtain ⟨text, hcontinues, hcalm⟩ := h
  obtain ⟨more, hcontinues', hcalm'⟩ := h'
  exact ⟨text ++ more, hcontinues.trans hcontinues', hcalm.append hcalm'⟩

theorem AddsCalm.of_same (h : w.AddsCalm w') (hwritten : w''.written = w'.written)
    (hheld : w''.held = w'.held) (hawaiting : w''.awaitingHeadingText = w'.awaitingHeadingText)
    (hanchors : w''.anchors = w'.anchors) (himage : w''.image = w'.image)
    (htitled : w''.titled = w'.titled) (hcode : w''.code = w'.code) : w.AddsCalm w'' := by
  obtain ⟨text, hcontinues, hcalm⟩ := h
  exact ⟨text, hcontinues.of_same hwritten hheld hawaiting hanchors himage htitled hcode, hcalm⟩

theorem AddsCalm.emit (h : w.AddsCalm w') (htext : IsCalm text) : w.AddsCalm (w'.emit text) := by
  obtain ⟨before, hcontinues, hcalm⟩ := h
  exact ⟨before ++ text, hcontinues.emit text, hcalm.append htext⟩

theorem AddsCalm.write (h : w.AddsCalm w') (htext : IsCalm text) : w.AddsCalm (w'.write text) := by
  obtain ⟨before, hcontinues, hcalm⟩ := h
  exact ⟨before ++ text, hcontinues.write text, hcalm.append htext⟩

/-- A line end before a block is calm. -/
theorem AddsCalm.writeBlock (h : w.AddsCalm w') (htext : IsCalm text) :
    w.AddsCalm (w'.writeBlock text) := by
  refine h.write ?_
  split
  · exact IsCalm.empty.append htext
  · have hend : IsCalm "\n" := fun _ => rfl
    exact hend.append htext

theorem AddsCalm.writeText (h : w.AddsCalm w') (content : String) :
    w.AddsCalm (w'.writeText content) :=
  (h.emit (calm_escape content)).of_same rfl rfl rfl rfl rfl rfl rfl

/-- The number of a footnote is calm. -/
theorem AddsCalm.emitNumber (h : w.AddsCalm w') (label : String) :
    w.AddsCalm ((w'.footnoteNumber label).2.emit (toString (w'.footnoteNumber label).1)) := by
  have hcounted : w.AddsCalm (w'.footnoteNumber label).2 :=
    h.of_same rfl rfl rfl rfl rfl rfl rfl
  exact hcounted.emit (calm_nat _)

theorem AddsCalm.setImage (h : w.AddsCalm w') (image : Option OpenImage) :
    { w with image := image }.AddsCalm { w' with image := image } := by
  obtain ⟨text, hcontinues, hcalm⟩ := h
  exact ⟨text, hcontinues.setImage image, hcalm⟩

theorem addsCalm_write (w : Writer) (text : String) (h : IsCalm text) :
    w.AddsCalm (w.write text) :=
  (AddsCalm.refl w).write h

theorem addsCalm_writeBlock (w : Writer) (text : String) (h : IsCalm text) :
    w.AddsCalm (w.writeBlock text) :=
  (AddsCalm.refl w).writeBlock h

/-- The line end before a heading or a code block, if the writer is within a line. -/
def lineEnd (w : Writer) : String :=
  if w.atLineStart then "" else "\n"

theorem calm_lineEnd (w : Writer) : IsCalm w.lineEnd := by
  unfold lineEnd
  split
  · exact IsCalm.empty
  · exact fun _ => rfl

theorem continues_lineEnd (w : Writer) :
    w.Continues w.lineEnd
      (if w.atLineStart then { w with atLineStart := false } else w.emit "\n") := by
  unfold lineEnd
  split
  · exact (Continues.refl w).of_same rfl rfl rfl rfl rfl rfl rfl
  · exact ((Continues.refl w).emit "\n").congr String.empty_append

/-! ## Code blocks -/

/-- The start of a code block is calm, and after it code may be collected if there is a highlighter.
-/
theorem startCode_eq (highlighter : Option Highlighter) (info : Option String) (w : Writer) :
    ∃ begun code, w.AddsCalm begun ∧ w.startCode highlighter info = { begun with code := code } ∧
      (highlighter = none → code = begun.code) := by
  have hline : w.AddsCalm (if w.atLineStart then w else { w with atLineStart := true }.emit "\n") := by
    split
    · exact AddsCalm.refl w
    · have hstart : w.AddsCalm { w with atLineStart := true } :=
        (AddsCalm.refl w).of_same rfl rfl rfl rfl rfl rfl rfl
      exact hstart.emit fun _ => rfl
  rw [startCode]
  -- whether a line had to be ended first has no part in what follows
  generalize (if w.atLineStart then w else { w with atLineStart := true }.emit "\n") = line
    at hline ⊢
  dsimp only
  split
  · have hall : w.AddsCalm (line.write "<pre><code>") := hline.write fun _ => rfl
    exact ⟨_, (line.write "<pre><code>").code, hall, rfl, fun _ => rfl⟩
  · have hopen : IsCalm "<pre><code class=\"language-" := fun _ => rfl
    have hend : IsCalm "\">" := fun _ => rfl
    have hall := ((hline.write hopen).emit (calm_escape (codeLanguage info))).write hend
    split
    · rename_i hsome
      refine ⟨_, _, hall, rfl, fun hnone => ?_⟩
      rw [hnone] at hsome
      exact Bool.noConfusion hsome
    · exact ⟨_, _, hall, rfl, fun _ => rfl⟩

/-- After a code block no code is collected, if there is a highlighter to take it. -/
theorem code_flushCode {highlighter : Option Highlighter} (h : highlighter.isSome) (w : Writer) :
    (w.flushCode highlighter).code = none := by
  obtain ⟨highlight, rfl⟩ := Option.isSome_iff_exists.mp h
  unfold flushCode
  cases hcode : w.code with
  | none => exact hcode
  | some block => exact code_emit

/-! ## Constructs that are calm -/

theorem addsCalm_startList (first : Option Int) (highlighter : Option Highlighter)
    (standalone : Bool) (w : Writer) :
    w.AddsCalm (w.startTag highlighter standalone (.list first)) := by
  cases first with
  | none => exact addsCalm_writeBlock w "<ul>\n" fun _ => rfl
  | some number =>
      unfold startTag
      dsimp only
      split
      · exact addsCalm_writeBlock w "<ol>\n" fun _ => rfl
      · -- a list that does not begin with one tells its first number
        have hopen := addsCalm_writeBlock w "<ol start=\"" fun _ => rfl
        have hend : IsCalm "\">\n" := fun _ => rfl
        exact (hopen.emit (calm_int number)).write hend

theorem addsCalm_startDefinition (label : String) (w : Writer) :
    w.AddsCalm (w.startDefinition label) := by
  have hinside : w.AddsCalm { w with inDefinition := true } :=
    (AddsCalm.refl w).of_same rfl rfl rfl rfl rfl rfl rfl
  have hopen : IsCalm "<p class=\"footnote\" id=\"f." := fun _ => rfl
  have hnumber : IsCalm "\"><sup>" := fun _ => rfl
  have hend : IsCalm "</sup> " := fun _ => rfl
  have hfront := ((hinside.writeBlock hopen).emit (calm_escape label)).write hnumber
  exact (hfront.emitNumber label).write hend

theorem addsCalm_startCell (highlighter : Option Highlighter) (standalone : Bool) (w : Writer) :
    w.AddsCalm (w.startTag highlighter standalone .tableCell) := by
  have hname : IsCalm (if w.inTableHead then "<th" else "<td") := by
    cases w.inTableHead <;> exact fun _ => rfl
  have hopen := addsCalm_write w _ hname
  refine hopen.write ?_
  unfold cellAttribute
  split <;> exact fun _ => rfl

/-- The front of a link, up to the bracket that ends its tag. -/
def linkFront (form : LinkForm) (dest title : String) : String :=
  (if form = .email then "<a href=\"mailto:" else "<a href=\"") ++ escapeHref dest ++
    (if title.isEmpty then "" else "\" title=\"" ++ escape title) ++ "\">"

theorem continues_startLink (form : LinkForm) (dest title : String)
    (highlighter : Option Highlighter) (standalone : Bool) (w : Writer) :
    w.Continues (linkFront form dest title)
      (w.startTag highlighter standalone (.link form dest title)) := by
  have hhref := ((Continues.refl w).write
    (if form = .email then "<a href=\"mailto:" else "<a href=\"")).emit (escapeHref dest)
  unfold startTag
  dsimp only
  split
  · rename_i htitle
    refine (hhref.write "\">").congr ?_
    rw [linkFront, if_pos htitle, String.empty_append, String.append_empty]
  · rename_i htitle
    refine (((hhref.write "\" title=\"").emit (escape title)).write "\">").congr ?_
    rw [linkFront, if_neg htitle, String.empty_append]
    simp only [String.append_assoc]

theorem calm_linkFront (form : LinkForm) (dest title : String) :
    IsCalm (linkFront form dest title) := by
  have hopen : IsCalm (if form = .email then "<a href=\"mailto:" else "<a href=\"") := by
    split <;> exact fun _ => rfl
  have htitle : IsCalm (if title.isEmpty then "" else "\" title=\"" ++ escape title) := by
    split
    · exact IsCalm.empty
    · have hname : IsCalm "\" title=\"" := fun _ => rfl
      exact hname.append (calm_escape title)
  have hend : IsCalm "\">" := fun _ => rfl
  exact ((hopen.append (calm_quotable (quotable_escapeHref dest))).append htitle).append hend

/-- The start of a construct is calm, unless it begins a heading, an image or a code block. -/
theorem addsCalm_startTag (highlighter : Option Highlighter) (standalone : Bool) (w : Writer) :
    ∀ tag : Tag, tag.holdsLine = false → tag.isCode = false →
      w.AddsCalm (w.startTag highlighter standalone tag)
  | .paragraph, _, _ => by
      unfold startTag
      dsimp only
      split
      · exact AddsCalm.refl w
      · exact addsCalm_writeBlock w "<p>" fun _ => rfl
  | .heading _, hline, _ => absurd hline (by simp [Tag.holdsLine])
  | .blockQuote, _, _ => addsCalm_writeBlock w "<blockquote>\n" fun _ => rfl
  | .codeBlock _, _, hcode => absurd hcode (by simp [Tag.isCode])
  | .list first, _, _ => addsCalm_startList first highlighter standalone w
  | .item, _, _ => addsCalm_writeBlock w "<li>" fun _ => rfl
  | .footnoteDefinition label, _, _ => addsCalm_startDefinition label w
  | .table alignments, _, _ => by
      have haligned : w.AddsCalm { w with alignments := alignments } :=
        (AddsCalm.refl w).of_same rfl rfl rfl rfl rfl rfl rfl
      exact haligned.trans (addsCalm_write _ "<table>" fun _ => rfl)
  | .tableHead, _, _ => by
      have hhead : w.AddsCalm { w with inTableHead := true, column := 0 } :=
        (AddsCalm.refl w).of_same rfl rfl rfl rfl rfl rfl rfl
      exact hhead.trans (addsCalm_write _ "<thead><tr>" fun _ => rfl)
  | .tableRow, _, _ => by
      have hrow : w.AddsCalm { w with column := 0 } :=
        (AddsCalm.refl w).of_same rfl rfl rfl rfl rfl rfl rfl
      exact hrow.trans (addsCalm_write _ "<tr>" fun _ => rfl)
  | .tableCell, _, _ => addsCalm_startCell highlighter standalone w
  | .emphasis, _, _ => addsCalm_write w "<em>" fun _ => rfl
  | .strong, _, _ => addsCalm_write w "<strong>" fun _ => rfl
  | .strikethrough, _, _ => addsCalm_write w "<del>" fun _ => rfl
  | .link form dest title, _, _ =>
      ⟨_, continues_startLink form dest title highlighter standalone w,
        calm_linkFront form dest title⟩
  | .image _ _, hline, _ => absurd hline (by simp [Tag.holdsLine])

/-- The end of a construct is calm, unless it ends a heading, an image or a code block. -/
theorem addsCalm_stopTag (highlighter : Option Highlighter) (w : Writer) :
    ∀ tag : Tag, tag.holdsLine = false → tag.isCode = false →
      w.AddsCalm (w.stopTag highlighter tag)
  | .paragraph, _, _ => by
      unfold stopTag
      dsimp only
      split
      · exact AddsCalm.refl w
      · exact addsCalm_write w "</p>\n" fun _ => rfl
  | .heading _, hline, _ => absurd hline (by simp [Tag.holdsLine])
  | .blockQuote, _, _ => addsCalm_write w "</blockquote>\n" fun _ => rfl
  | .codeBlock _, _, hcode => absurd hcode (by simp [Tag.isCode])
  | .list none, _, _ => addsCalm_write w "</ul>\n" fun _ => rfl
  | .list (some _), _, _ => addsCalm_write w "</ol>\n" fun _ => rfl
  | .item, _, _ => addsCalm_write w "</li>\n" fun _ => rfl
  | .footnoteDefinition label, _, _ => by
      have houtside : w.AddsCalm { w with inDefinition := false } :=
        (AddsCalm.refl w).of_same rfl rfl rfl rfl rfl rfl rfl
      have hopen : IsCalm " <a href=\"#r." := fun _ => rfl
      have hend : IsCalm "\">↩</a></p>\n" := fun _ => rfl
      exact houtside.emit ((hopen.append (calm_escape label)).append hend)
  | .table _, _, _ => addsCalm_write w "</tbody></table>\n" fun _ => rfl
  | .tableHead, _, _ => by
      have hclose := addsCalm_write w "</tr></thead><tbody>\n" fun _ => rfl
      exact hclose.of_same rfl rfl rfl rfl rfl rfl rfl
  | .tableRow, _, _ => addsCalm_write w "</tr>\n" fun _ => rfl
  | .tableCell, _, _ => by
      have hname : IsCalm (if w.inTableHead then "</th>" else "</td>") := by
        cases w.inTableHead <;> exact fun _ => rfl
      exact (addsCalm_write w _ hname).of_same rfl rfl rfl rfl rfl rfl rfl
  | .emphasis, _, _ => addsCalm_write w "</em>" fun _ => rfl
  | .strong, _, _ => addsCalm_write w "</strong>" fun _ => rfl
  | .strikethrough, _, _ => addsCalm_write w "</del>" fun _ => rfl
  | .link _ _ _, _, _ => addsCalm_write w "</a>" fun _ => rfl
  | .image _ _, hline, _ => absurd hline (by simp [Tag.holdsLine])

/-! ## Events that enclose nothing -/

/-- Text continues the page where no heading waits: escaped, or collected for the highlighter. -/
theorem addsCalm_text (content : String) (hsettled : w.awaitingHeadingText = false) :
    w.AddsCalm (w.text content) := by
  unfold Writer.text
  rw [if_neg (by simp [hsettled])]
  dsimp only
  split
  · rename_i block hcode
    refine ⟨"", ⟨(Extends.refl w).of_same rfl rfl rfl rfl rfl, rfl, fun hnone => ?_⟩, IsCalm.empty⟩
    rw [hnone] at hcode
    exact absurd hcode (by simp)
  · exact (AddsCalm.refl w).writeText content

/-- Where no code is collected, text goes to the page. -/
theorem continues_text (content : String) (hsettled : w.awaitingHeadingText = false)
    (hcode : w.code = none) : w.Continues (escape content) (w.text content) := by
  unfold Writer.text
  rw [if_neg (by simp [hsettled])]
  simp only [hcode]
  exact ((Continues.refl w).writeText content).congr String.empty_append

/-- An event that encloses nothing is calm, unless it is raw HTML. -/
theorem addsCalm_leaf (highlighter : Option Highlighter) (standalone : Bool) (w : Writer) :
    ∀ leaf : Leaf, (∀ content, leaf ≠ .html content) →
      (∀ content, leaf = .text content → w.awaitingHeadingText = false) →
      w.AddsCalm (w.perform highlighter standalone leaf.event)
  | .text content, _, hsettled => addsCalm_text content (hsettled content rfl)
  | .code content, _, _ => by
      have hopen := addsCalm_write w "<code>" fun _ => rfl
      have hclose : IsCalm "</code>" := fun _ => rfl
      exact (hopen.emit (calm_escape content)).write hclose
  | .html content, hhtml, _ => absurd rfl (hhtml content)
  | .softBreak, _, _ => by
      have hline : w.AddsCalm { w with atLineStart := true } :=
        (AddsCalm.refl w).of_same rfl rfl rfl rfl rfl rfl rfl
      exact hline.emit fun _ => rfl
  | .hardBreak, _, _ => addsCalm_write w "<br />\n" fun _ => rfl
  | .rule, _, _ => addsCalm_writeBlock w "<hr />\n" fun _ => rfl
  | .footnoteReference label, _, _ => by
      have hcounted : w.AddsCalm (w.footnoteNumber label).2 :=
        (AddsCalm.refl w).of_same rfl rfl rfl rfl rfl rfl rfl
      have hopen : IsCalm "<sup class=\"footnote-reference\" id=\"r." := fun _ => rfl
      have hlink : IsCalm "\"><a href=\"#f." := fun _ => rfl
      have hend : IsCalm "\">" := fun _ => rfl
      have hclose : IsCalm "</a></sup>" := fun _ => rfl
      have hfront := ((hopen.append (calm_escape label)).append hlink).append (calm_escape label)
      exact (((hcounted.emit hfront).write hend).emit (calm_nat _)).write hclose
  | .taskMarker true, _, _ =>
      addsCalm_write w "<input disabled=\"\" type=\"checkbox\" checked=\"\"/>\n" fun _ => rfl
  | .taskMarker false, _, _ =>
      addsCalm_write w "<input disabled=\"\" type=\"checkbox\"/>\n" fun _ => rfl

/-! ## Images -/

/-- The writer `w'` is `w` after the calm front of an image and some of its alternative text, which
is under way. -/
def Depicts (w : Writer) (image : OpenImage) (w' : Writer) : Prop :=
  { w with image := some image }.AddsCalm w'

variable {image : OpenImage}

theorem Depicts.image_eq (h : w.Depicts image w') : w'.image = some image := by
  obtain ⟨text, hcontinues, -⟩ := h
  exact hcontinues.grows.image

/-- The number of constructs open inside an image has no part in what is written. -/
theorem Depicts.deepen (h : w.Depicts image w') (image' : OpenImage) :
    w.Depicts image' { w' with image := some image' } :=
  AddsCalm.setImage h (some image')

theorem depicts_startImage (dest title : String) (standalone : Bool) (w : Writer) :
    w.Depicts ⟨title, standalone, 0⟩ (w.startImage dest title standalone) := by
  have hfront : w.AddsCalm
      (if standalone then w.write "<div class=\"image-container\">\n" else w) := by
    split
    · exact addsCalm_write w "<div class=\"image-container\">\n" fun _ => rfl
    · exact AddsCalm.refl w
  have hopen : IsCalm "<img src=\"" := fun _ => rfl
  have halt : IsCalm "\" alt=\"" := fun _ => rfl
  have hall := ((hfront.write hopen).emit (calm_quotable (quotable_escapeHref dest))).write halt
  exact hall.setImage (some ⟨title, standalone, 0⟩)

theorem depicts_leaf (highlighter : Option Highlighter) (standalone : Bool)
    (h : w.Depicts image w') (leaf : Leaf) :
    w.Depicts image (w'.step highlighter (leaf.event, standalone)) := by
  rw [step_of_image highlighter h.image_eq]
  have hblank : IsCalm " " := fun _ => rfl
  cases leaf with
  | text content => exact AddsCalm.writeText h content
  | code content => exact AddsCalm.writeText h content
  | html content => exact AddsCalm.writeText h content
  | softBreak => exact AddsCalm.write h hblank
  | hardBreak => exact AddsCalm.write h hblank
  | rule => exact AddsCalm.write h hblank
  | footnoteReference label =>
      have hcounted : w.Depicts image (w'.footnoteNumber label).2 :=
        AddsCalm.of_same h rfl rfl rfl rfl rfl rfl rfl
      have hopen : IsCalm "[" := fun _ => rfl
      have hend : IsCalm "]" := fun _ => rfl
      exact AddsCalm.write hcounted ((hopen.append (calm_nat _)).append hend)
  | taskMarker checked =>
      have hbox : IsCalm (if checked then "[x]" else "[ ]") := by
        cases checked <;> exact fun _ => rfl
      exact AddsCalm.write h hbox

mutual

/-- What may stand in a line leaves the image open, however deep it goes. -/
theorem depicts_tree (highlighter : Option Highlighter) :
    ∀ (tree : EventTree) (w' : Writer) (image : OpenImage), tree.isInline →
      w.Depicts image w' →
      w.Depicts image ((treeMarked tree).foldl (Writer.step highlighter) w')
  | .leaf leaf, _, _, _, h => depicts_leaf highlighter false h leaf
  | .node tag children, w', image, hinline, h => by
      rw [EventTree.isInline, Bool.and_eq_true] at hinline
      have hstart : w.Depicts { image with depth := image.depth + 1 }
          (w'.step highlighter (.start tag, false)) := by
        rw [step_of_image highlighter h.image_eq]
        exact h.deepen _
      have hinner := depicts_forest highlighter children _ _ hinline.2 hstart
      have htag : tag ≠ .paragraph := by
        rintro rfl
        exact Bool.noConfusion hinline.1
      rw [treeMarked_node htag, List.foldl_cons, List.foldl_append, List.foldl_cons, List.foldl_nil,
        step_of_image highlighter hinner.image_eq]
      -- the end takes back what the start added to the depth
      exact hinner.deepen image

theorem depicts_forest (highlighter : Option Highlighter) :
    ∀ (trees : List EventTree) (w' : Writer) (image : OpenImage), areInline trees →
      w.Depicts image w' →
      w.Depicts image ((forestMarked trees).foldl (Writer.step highlighter) w')
  | [], _, _, _, h => h
  | tree :: rest, w', image, hinline, h => by
      rw [areInline, Bool.and_eq_true] at hinline
      rw [forestMarked, List.foldl_append]
      exact depicts_forest highlighter rest _ image hinline.2
        (depicts_tree highlighter tree w' image hinline.1 h)

end

/-- The end of an image is calm, with a caption and without. -/
theorem Depicts.finishImage (h : w.Depicts image w') (hw : w.image = none) :
    w.AddsCalm (w'.finishImage image) := by
  have hsame : { w with image := none } = w := by rw [← hw]
  have hclosed : w.AddsCalm { w' with image := none } := by
    have hset := AddsCalm.setImage h none
    rwa [hsame] at hset
  have htitle : w.AddsCalm (if image.title.isEmpty then { w' with image := none }
      else ({ w' with image := none }.write "\" title=\"").emit (escape image.title)) := by
    split
    · exact hclosed
    · have hname : IsCalm "\" title=\"" := fun _ => rfl
      exact (hclosed.write hname).emit (calm_escape image.title)
  have hend : IsCalm "\" />" := fun _ => rfl
  have htag := htitle.write hend
  unfold Writer.finishImage
  dsimp only
  split
  · have hcaption : IsCalm "\n<div class=\"image-caption\">" := fun _ => rfl
    have hdiv : IsCalm "</div>\n" := fun _ => rfl
    have hparagraph : IsCalm "<p>\n" := fun _ => rfl
    exact ((((htag.write hcaption).emit (calm_escape image.title)).write hdiv).write hdiv).write
      hparagraph
  · exact htag

/-- An image is calm, whatever it encloses. -/
theorem addsCalm_image (highlighter : Option Highlighter) (standalone : Bool)
    {trees : List EventTree} (hinline : areInline trees) (dest title : String)
    (hw : w.image = none) :
    w.AddsCalm ((forestMarked trees ++ [(Event.stop (.image dest title), false)]).foldl
      (Writer.step highlighter) (w.startImage dest title standalone)) := by
  have hstart := depicts_startImage dest title standalone w
  have hinner := depicts_forest highlighter trees _ _ hinline hstart
  rw [List.foldl_append, List.foldl_cons, List.foldl_nil, step_of_image highlighter hinner.image_eq]
  exact hinner.finishImage hw

end Writer

end StaticSite.Html
