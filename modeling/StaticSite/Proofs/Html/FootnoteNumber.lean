import StaticSite.Proofs.Html.Writing
import Mathlib.Data.List.Basic

/-!
# Numbers of footnotes

A footnote is shown by a number, the place of its label among the labels met so far. The writer
never forgets a label and never moves one, so a label keeps the number that it had first: it is the
place of the label in any list that the labels met so far begin.

## What this module delivers

- `FootnoteNumbers.number_fst`: the number of a label, by a list of labels.
- `Writer.footnotes_emit`, `footnotes_write` and the like: what has no part in the numbers.
- `Writer.footnotes_startTag`, `footnotes_stopTag`: among constructs only definitions have.
-/

set_option autoImplicit false

namespace StaticSite.Html

open StaticSite.Markdown

/-! ## The table of labels -/

namespace FootnoteNumbers

variable {numbers : FootnoteNumbers} {label : String}

theorem labels_number (numbers : FootnoteNumbers) (label : String) :
    numbers.labels <+: (numbers.number label).2.labels := by
  unfold number
  split
  · exact List.prefix_rfl
  · exact List.prefix_append _ _

/-- The number of a label is its place, counted from one, in every list that begins with the labels
met so far. -/
theorem number_fst {labels : List String} (h : (numbers.number label).2.labels <+: labels) :
    (numbers.number label).1 = labels.idxOf label + 1 := by
  obtain ⟨later, rfl⟩ := h
  unfold number
  cases hfound : numbers.labels.idxOf? label with
  | some i =>
      have hmem : label ∈ numbers.labels := by
        rw [← List.isSome_idxOf?, hfound]
        rfl
      have hplace : numbers.labels.idxOf label = i := by
        rw [List.idxOf_eq_getD_idxOf?, hfound]
        rfl
      rw [List.idxOf_append_of_mem hmem, hplace]
  | none =>
      -- a label that was not met before stands at the end
      have hnew : label ∉ numbers.labels := List.idxOf?_eq_none_iff.mp hfound
      rw [List.append_assoc, List.idxOf_append_of_notMem hnew, List.singleton_append,
        List.idxOf_cons_self, Nat.add_zero]

end FootnoteNumbers

/-! ## What has no part in the numbers -/

namespace Writer

variable {w : Writer} {text : String}

@[simp] theorem footnotes_emit : (w.emit text).footnotes = w.footnotes := by
  unfold emit
  split <;> rfl

@[simp] theorem footnotes_write : (w.write text).footnotes = w.footnotes := by
  unfold write
  split
  · exact footnotes_emit
  · exact footnotes_emit

@[simp] theorem footnotes_writeText : (w.writeText text).footnotes = w.footnotes :=
  footnotes_emit

@[simp] theorem footnotes_writeBlock : (w.writeBlock text).footnotes = w.footnotes :=
  footnotes_write

@[simp] theorem footnotes_settleHeading : (w.settleHeading text).footnotes = w.footnotes := by
  obtain ⟨written, hsame, -⟩ := settleHeading_spec w text
  rw [hsame]

@[simp] theorem footnotes_prepareHeading (event : Event) :
    (w.prepareHeading event).footnotes = w.footnotes := by
  unfold prepareHeading
  split
  · split
    · rfl
    · exact footnotes_settleHeading
    · split <;> rfl
  · rfl

@[simp] theorem footnotes_startHeading (level : Int) :
    (w.startHeading level).footnotes = w.footnotes := by
  unfold startHeading
  dsimp only
  split <;> split <;> simp

@[simp] theorem footnotes_startCode (highlighter : Option Highlighter) (info : Option String) :
    (w.startCode highlighter info).footnotes = w.footnotes := by
  unfold startCode
  dsimp only
  split
  · split <;> simp
  · split <;> split <;> simp

@[simp] theorem footnotes_flushCode (highlighter : Option Highlighter) :
    (w.flushCode highlighter).footnotes = w.footnotes := by
  unfold flushCode
  split
  · exact footnotes_emit
  · rfl

@[simp] theorem footnotes_startImage (dest title : String) (standalone : Bool) :
    (w.startImage dest title standalone).footnotes = w.footnotes := by
  unfold startImage
  split <;> simp

@[simp] theorem footnotes_finishImage (image : OpenImage) :
    (w.finishImage image).footnotes = w.footnotes := by
  unfold finishImage
  dsimp only
  split <;> split <;> simp

@[simp] theorem footnotes_text (content : String) :
    (w.text content).footnotes = w.footnotes := by
  unfold Writer.text
  dsimp only
  split <;> split <;> simp

theorem footnotes_stopTag (highlighter : Option Highlighter) (tag : Tag) :
    (w.stopTag highlighter tag).footnotes = w.footnotes := by
  cases tag with
  | paragraph =>
      unfold stopTag
      dsimp only
      split
      · rfl
      · exact footnotes_write
  | heading level =>
      unfold stopTag
      dsimp only
      split <;> simp
  | list first => cases first <;> exact footnotes_write
  | codeBlock info => simp [stopTag]
  | footnoteDefinition label => exact footnotes_emit
  | image dest title => rfl
  | _ => exact footnotes_write

theorem footnoteNumber_fst (label : String) :
    (w.footnoteNumber label).1 = (w.footnotes.number label).1 := rfl

theorem footnotes_footnoteReference (label : String) :
    (w.footnoteReference label).footnotes = (w.footnotes.number label).2 := by
  simp [footnoteReference, footnoteNumber]

theorem footnotes_startDefinition (label : String) :
    (w.startDefinition label).footnotes = (w.footnotes.number label).2 := by
  simp [startDefinition, footnoteNumber]

theorem footnotes_startTag (highlighter : Option Highlighter) (standalone : Bool) {tag : Tag}
    (h : ∀ label, tag ≠ .footnoteDefinition label) :
    (w.startTag highlighter standalone tag).footnotes = w.footnotes := by
  cases tag with
  | paragraph =>
      unfold startTag
      dsimp only
      split
      · rfl
      · exact footnotes_writeBlock
  | heading level => exact footnotes_startHeading level
  | codeBlock info => exact footnotes_startCode highlighter info
  | list first =>
      cases first with
      | none => exact footnotes_writeBlock
      | some number =>
          unfold startTag
          dsimp only
          split <;> simp
  | footnoteDefinition label => exact absurd rfl (h label)
  | tableCell => simp [startTag]
  | link form dest title =>
      unfold startTag
      dsimp only
      split <;> simp
  | image dest title => exact footnotes_startImage dest title standalone
  | table alignments => exact footnotes_write
  | tableHead => exact footnotes_write
  | tableRow => exact footnotes_write
  | _ => simp [startTag]

end Writer

end StaticSite.Html
