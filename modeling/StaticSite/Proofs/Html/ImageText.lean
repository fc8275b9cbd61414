import StaticSite.Proofs.Html.Extension
import StaticSite.Proofs.Html.Figure

/-!
# The text in place of an image

From an image's start to its end the writer is inside the value of one attribute. Whatever stands
there, other images and references included, only makes the value longer, and the tag that the end
completes is markup without identifiers.

## What this module delivers

- `Writer.Describes`: the writer inside an image, and what keeps it there.
- `describes_forest`: what may stand in a line leaves the image open, by induction on its trees.
- `addsMarkup_image`: an image as a whole, alone or among words.
-/

set_option autoImplicit false

namespace StaticSite.Html

open StaticSite.Markdown

namespace Writer

variable {w w' : Writer} {text : String} {mode mode' : ScanMode}

/-- The writer `w'` is `w` after the front of an image and some of its alternative text, which is
under way. -/
def Describes (w : Writer) (image : OpenImage) (w' : Writer) : Prop :=
  ∃ read, { w with image := some image }.AddsMarkup .text w' (.value "alt".toList read)

variable {image : OpenImage}

theorem AddsMarkup.setImage (h : w.AddsMarkup mode w' mode') (image : Option OpenImage) :
    { w with image := image }.AddsMarkup mode { w' with image := image } mode' := by
  obtain ⟨text, hextends, hscans⟩ := h
  exact ⟨text, hextends.setImage image, hscans⟩

theorem Describes.image_eq (h : w.Describes image w') : w'.image = some image := by
  obtain ⟨read, text, hextends, -⟩ := h
  exact hextends.image

theorem Describes.write (h : w.Describes image w') (htext : isQuotable text.toList) :
    w.Describes image (w'.write text) := by
  obtain ⟨read, hw⟩ := h
  exact ⟨_, hw.write (scans_value htext "alt".toList read)⟩

theorem Describes.writeText (h : w.Describes image w') (content : String) :
    w.Describes image (w'.writeText content) := by
  obtain ⟨read, hw⟩ := h
  have hemit := hw.emit (scans_value (quotable_escape content) "alt".toList read)
  exact ⟨_, hemit.of_same rfl rfl rfl rfl rfl⟩

/-- The number of constructs open inside an image has no part in what is written. -/
theorem Describes.deepen (h : w.Describes image w') (image' : OpenImage) :
    w.Describes image' { w' with image := some image' } := by
  obtain ⟨read, hw⟩ := h
  exact ⟨read, hw.setImage (some image')⟩

theorem describes_startImage (dest title : String) (standalone : Bool) (w : Writer) :
    w.Describes ⟨title, standalone, 0⟩ (w.startImage dest title standalone) := by
  have hfront : w.AddsMarkup .text
      (if standalone then w.write "<div class=\"image-container\">\n" else w) .text := by
    split
    · exact addsMarkup_write w "<div class=\"image-container\">\n" ⟨_, rfl, rfl⟩
    · exact AddsMarkup.refl w .text
  have hopen : Scans .text "<img src=\"" (.value "src".toList []) [] := ⟨_, rfl, rfl⟩
  have hsource := scans_value (quotable_escapeHref dest) "src".toList []
  have halt : Scans (.value "src".toList ([] ++ (escapeHref dest).toList)) "\" alt=\""
      (.value "alt".toList []) [] := ⟨_, rfl, rfl⟩
  have hall := ((hfront.write hopen).emit hsource).write halt
  exact ⟨[], hall.setImage (some ⟨title, standalone, 0⟩)⟩

theorem step_of_image (highlighter : Option Highlighter) (h : w.image = some image) (event : Event)
    (standalone : Bool) : w.step highlighter (event, standalone) = w.altStep image event := by
  simp only [step, h]

theorem describes_leaf (highlighter : Option Highlighter) (standalone : Bool)
    (h : w.Describes image w') (leaf : Leaf) :
    w.Describes image (w'.step highlighter (leaf.event, standalone)) := by
  rw [step_of_image highlighter h.image_eq]
  have hblank : isQuotable " ".toList := rfl
  cases leaf with
  | text content => exact h.writeText content
  | code content => exact h.writeText content
  | html content => exact h.writeText content
  | softBreak => exact h.write hblank
  | hardBreak => exact h.write hblank
  | rule => exact h.write hblank
  | footnoteReference label =>
      have hnumber : isQuotable ("[" ++ toString (w'.footnoteNumber label).1 ++ "]").toList := by
        rw [String.toList_append, String.toList_append, isQuotable_append, isQuotable_append,
          quotable_of_plain (plain_nat _)]
        decide
      -- a reference is counted here too, which the markup does not show
      obtain ⟨read, hw⟩ := h
      have hcounted : w.Describes image (w'.footnoteNumber label).2 :=
        ⟨read, hw.of_same rfl rfl rfl rfl rfl⟩
      exact hcounted.write hnumber
  | taskMarker checked =>
      have hbox : isQuotable (if checked then "[x]" else "[ ]").toList := by
        cases checked <;> rfl
      exact h.write hbox

mutual

/-- What may stand in a line only makes the alternative text longer, however deep it goes. -/
theorem describes_tree (highlighter : Option Highlighter) :
    ∀ (tree : EventTree) (w' : Writer) (image : OpenImage), tree.isInline →
      w.Describes image w' →
      w.Describes image ((treeMarked tree).foldl (Writer.step highlighter) w')
  | .leaf leaf, _, _, _, h => describes_leaf highlighter false h leaf
  | .node tag children, w', image, hinline, h => by
      rw [EventTree.isInline, Bool.and_eq_true] at hinline
      -- the start of a construct only makes the image deeper
      have hstart : w.Describes { image with depth := image.depth + 1 }
          (w'.step highlighter (.start tag, false)) := by
        rw [step_of_image highlighter h.image_eq]
        exact h.deepen _
      have hinner := describes_forest highlighter children _ _ hinline.2 hstart
      have htag : tag ≠ .paragraph := by
        rintro rfl
        exact Bool.noConfusion hinline.1
      rw [treeMarked_node htag, List.foldl_cons, List.foldl_append, List.foldl_cons, List.foldl_nil,
        step_of_image highlighter hinner.image_eq]
      -- the end takes back what the start added to the depth
      exact hinner.deepen image

theorem describes_forest (highlighter : Option Highlighter) :
    ∀ (trees : List EventTree) (w' : Writer) (image : OpenImage), areInline trees →
      w.Describes image w' →
      w.Describes image ((forestMarked trees).foldl (Writer.step highlighter) w')
  | [], _, _, _, h => h
  | tree :: rest, w', image, hinline, h => by
      rw [areInline, Bool.and_eq_true] at hinline
      rw [forestMarked, List.foldl_append]
      exact describes_forest highlighter rest _ image hinline.2
        (describes_tree highlighter tree w' image hinline.1 h)

end

/-- The end of an image closes its tag; a standalone one gets a caption. -/
theorem Describes.finishImage (h : w.Describes image w') (hw : w.image = none) :
    w.AddsMarkup .text (w'.finishImage image) .text := by
  obtain ⟨read, hw'⟩ := h
  have hsame : { w with image := none } = w := by rw [← hw]
  have hclosed : w.AddsMarkup .text { w' with image := none } (.value "alt".toList read) := by
    have hset := hw'.setImage none
    rwa [hsame] at hset
  -- the value that is closed last is that of the title, or of the alternative text if there is none
  have htitle : ∃ last, w.AddsMarkup .text
      (if image.title.isEmpty then { w' with image := none }
        else ({ w' with image := none }.write "\" title=\"").emit (escape image.title)) last ∧
      Scans last "\" />" .text [] := by
    split
    · exact ⟨_, hclosed, ⟨_, rfl, rfl⟩⟩
    · have hname : Scans (.value "alt".toList read) "\" title=\"" (.value "title".toList []) [] :=
        ⟨_, rfl, rfl⟩
      exact ⟨_, (hclosed.write hname).emit
        (scans_value (quotable_escape image.title) "title".toList []), ⟨_, rfl, rfl⟩⟩
  obtain ⟨last, htitle, hend⟩ := htitle
  have htag := htitle.write hend
  unfold Writer.finishImage
  dsimp only
  split
  · have hcaption : Scans .text "\n<div class=\"image-caption\">" .text [] := ⟨_, rfl, rfl⟩
    have hdiv : Scans .text "</div>\n" .text [] := ⟨_, rfl, rfl⟩
    have hparagraph : Scans .text "<p>\n" .text [] := ⟨_, rfl, rfl⟩
    exact ((((htag.write hcaption).emit (scans_text (quotable_escape image.title))).write
      hdiv).write hdiv).write hparagraph
  · exact htag

/-- An image is markup without identifiers, whatever it encloses. -/
theorem addsMarkup_image (highlighter : Option Highlighter) (standalone : Bool)
    {trees : List EventTree} (hinline : areInline trees) (dest title : String)
    (hw : w.image = none) :
    w.AddsMarkup .text ((forestMarked trees ++ [(Event.stop (.image dest title), false)]).foldl
      (Writer.step highlighter) (w.startImage dest title standalone)) .text := by
  have hstart := describes_startImage dest title standalone w
  have hinner := describes_forest highlighter trees _ _ hinline hstart
  rw [List.foldl_append, List.foldl_cons, List.foldl_nil, step_of_image highlighter hinner.image_eq]
  exact hinner.finishImage hw

end Writer

end StaticSite.Html
