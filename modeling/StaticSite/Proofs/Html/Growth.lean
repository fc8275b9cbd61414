import StaticSite.Proofs.Html.HeadingElement

/-!
# A page only grows

The writer never looks at what it has written or holds back. So a run from a page under way is the
run from an empty page, with the page under way put in front of what it writes.

## What this module delivers

- `Writer.behind`: the writer with pieces in front of its own, on the page and in what is held back.
- `step_behind`: events do the same behind any front, unless they settle a heading.
- `Writer.after`, `step_after`, `run_after`: behind a page any event does the same.
- `page_run`: a page that is added to is the old page and something behind it.
-/

set_option autoImplicit false

namespace StaticSite.Html

open StaticSite.Markdown

/-- The text by which an event outside of images settles a heading that waits for one: text and code
settle it by what they are, and its end by nothing. -/
def headingText? : Event → Option String
  | .text content => some content
  | .code content => some content
  | .stop (.heading _) => some ""
  | _ => none

namespace Writer

/-- The writer with pieces in front of what it has written, and pieces in front of what it holds
back. -/
def behind (front : Array String) (pieces : List String) (w : Writer) : Writer :=
  { w with written := front ++ w.written, held := w.held.map (pieces ++ ·) }

/-- The writer with pieces in front of what it has written. -/
def after (front : Array String) (w : Writer) : Writer :=
  { w with written := front ++ w.written }

variable (front : Array String) (pieces : List String) (w : Writer) (text : String)

theorem behind_nil : w.behind front [] = w.after front := by
  simp [behind, after]

/-! ## Pieces behind a front -/

theorem emit_behind : (w.behind front pieces).emit text = (w.emit text).behind front pieces := by
  unfold emit
  cases hheld : w.held with
  | none => simp [behind, hheld]
  | some held => simp [behind, hheld]

theorem write_behind : (w.behind front pieces).write text = (w.write text).behind front pieces := by
  unfold write
  rw [emit_behind]
  dsimp only
  split <;> rfl

theorem writeText_behind :
    (w.behind front pieces).writeText text = (w.writeText text).behind front pieces := by
  unfold writeText
  rw [emit_behind]
  rfl

theorem writeBlock_behind :
    (w.behind front pieces).writeBlock text = (w.writeBlock text).behind front pieces :=
  write_behind front pieces w _

/-! ## Headings behind a front -/

/-- A heading begins on a line of its own, with a class if it is the first. -/
theorem startHeading_behind (level : Int) :
    (w.behind front pieces).startHeading level = (w.startHeading level).behind front pieces := by
  unfold startHeading
  cases hline : w.atLineStart <;> cases htitled : w.titled <;> cases hheld : w.held <;>
    simp [behind, emit, hline, htitled, hheld]

/-- Where a heading begins to hold back, no piece can be in front of what it holds back. -/
theorem prepareHeading_behind (event : Event) (hpieces : w.held = none → pieces = [])
    (hevent : w.awaitingHeadingText = true → headingText? event = none) :
    (w.behind front pieces).prepareHeading event
      = (w.prepareHeading event).behind front pieces := by
  have hwaits : (w.behind front pieces).awaitingHeadingText = w.awaitingHeadingText := rfl
  unfold prepareHeading
  rw [hwaits]
  split
  · rename_i hwaiting
    split
    · rfl
    · exact absurd (hevent hwaiting) (by simp [headingText?])
    · cases hheld : w.held with
      | none =>
          rw [hpieces hheld]
          simp [behind, hheld]
      | some held => simp [behind, hheld]
  · rfl

/-! ## Constructs behind a front -/

theorem footnoteNumber_behind (label : String) :
    (w.behind front pieces).footnoteNumber label
      = ((w.footnoteNumber label).1, (w.footnoteNumber label).2.behind front pieces) := rfl

theorem footnoteReference_behind (label : String) :
    (w.behind front pieces).footnoteReference label
      = (w.footnoteReference label).behind front pieces := by
  unfold footnoteReference
  rw [footnoteNumber_behind]
  simp only [emit_behind, write_behind]

theorem startDefinition_behind (label : String) :
    (w.behind front pieces).startDefinition label
      = (w.startDefinition label).behind front pieces := by
  have hinside : { w.behind front pieces with inDefinition := true }
      = { w with inDefinition := true }.behind front pieces := rfl
  unfold startDefinition
  dsimp only at hinside ⊢
  rw [hinside]
  simp only [writeBlock_behind, emit_behind, write_behind, footnoteNumber_behind]

theorem startCode_behind (highlighter : Option Highlighter) (info : Option String) :
    (w.behind front pieces).startCode highlighter info
      = (w.startCode highlighter info).behind front pieces := by
  have hline : (if (w.behind front pieces).atLineStart then w.behind front pieces
      else { w.behind front pieces with atLineStart := true }.emit "\n")
      = (if w.atLineStart then w
          else { w with atLineStart := true }.emit "\n").behind front pieces := by
    rw [apply_ite (behind front pieces), ← emit_behind]
    rfl
  unfold startCode
  dsimp only at hline ⊢
  rw [hline]
  simp only [emit_behind, write_behind]
  split
  · rfl
  · split <;> rfl

theorem flushCode_behind (highlighter : Option Highlighter) :
    (w.behind front pieces).flushCode highlighter
      = (w.flushCode highlighter).behind front pieces := by
  have hcode : (w.behind front pieces).code = w.code := rfl
  have hclosed : { w.behind front pieces with code := none }
      = { w with code := none }.behind front pieces := rfl
  unfold flushCode
  dsimp only at hclosed ⊢
  rw [hcode]
  split
  · rw [hclosed, emit_behind]
    rfl
  · rfl

theorem startImage_behind (dest title : String) (standalone : Bool) :
    (w.behind front pieces).startImage dest title standalone
      = (w.startImage dest title standalone).behind front pieces := by
  have hfront : (if standalone
      then (w.behind front pieces).write "<div class=\"image-container\">\n"
      else w.behind front pieces)
      = (if standalone then w.write "<div class=\"image-container\">\n"
          else w).behind front pieces := by
    rw [apply_ite (behind front pieces), write_behind]
  unfold startImage
  dsimp only
  rw [hfront, write_behind, emit_behind, write_behind]
  rfl

theorem finishImage_behind (image : OpenImage) :
    (w.behind front pieces).finishImage image = (w.finishImage image).behind front pieces := by
  have hclosed : { w.behind front pieces with image := none }
      = { w with image := none }.behind front pieces := rfl
  unfold finishImage
  dsimp only at hclosed ⊢
  rw [hclosed]
  generalize { w with image := none } = closed
  have htitle : (if image.title.isEmpty then closed.behind front pieces
      else ((closed.behind front pieces).write "\" title=\"").emit (escape image.title))
      = (if image.title.isEmpty then closed
        else (closed.write "\" title=\"").emit (escape image.title)).behind front pieces := by
    rw [apply_ite (behind front pieces), write_behind, emit_behind]
  rw [htitle]
  simp only [write_behind, emit_behind]
  split <;> rfl

theorem altStep_behind (image : OpenImage) (event : Event) :
    (w.behind front pieces).altStep image event = (w.altStep image event).behind front pieces := by
  cases event with
  | start tag => rfl
  | stop tag =>
      unfold altStep
      dsimp only
      split
      · exact finishImage_behind front pieces w image
      · rfl
  | html content => exact writeText_behind front pieces w content
  | code content => exact writeText_behind front pieces w content
  | text content => exact writeText_behind front pieces w content
  | footnoteReference label =>
      exact write_behind front pieces (w.footnoteNumber label).2
        ("[" ++ toString (w.footnoteNumber label).1 ++ "]")
  | taskMarker checked => exact write_behind front pieces w (if checked then "[x]" else "[ ]")
  | _ => exact write_behind front pieces w " "

/-! ## Events behind a front -/

theorem startTag_behind (highlighter : Option Highlighter) (standalone : Bool) (tag : Tag) :
    (w.behind front pieces).startTag highlighter standalone tag
      = (w.startTag highlighter standalone tag).behind front pieces := by
  cases tag with
  | paragraph =>
      unfold startTag
      dsimp only
      rw [writeBlock_behind, apply_ite (behind front pieces)]
      rfl
  | heading level => exact startHeading_behind front pieces w level
  | blockQuote => exact writeBlock_behind front pieces w "<blockquote>\n"
  | codeBlock info => exact startCode_behind front pieces w highlighter info
  | list first =>
      cases first with
      | none => exact writeBlock_behind front pieces w "<ul>\n"
      | some first =>
          unfold startTag
          dsimp only
          split
          · exact writeBlock_behind front pieces w "<ol>\n"
          · rw [writeBlock_behind, emit_behind, write_behind]
  | item => exact writeBlock_behind front pieces w "<li>"
  | footnoteDefinition label => exact startDefinition_behind front pieces w label
  | table alignments =>
      exact write_behind front pieces { w with alignments := alignments } "<table>"
  | tableHead =>
      exact write_behind front pieces { w with inTableHead := true, column := 0 } "<thead><tr>"
  | tableRow => exact write_behind front pieces { w with column := 0 } "<tr>"
  | tableCell =>
      unfold startTag
      dsimp only
      rw [write_behind, write_behind]
      rfl
  | emphasis => exact write_behind front pieces w "<em>"
  | strong => exact write_behind front pieces w "<strong>"
  | strikethrough => exact write_behind front pieces w "<del>"
  | link form dest title =>
      unfold startTag
      dsimp only
      rw [write_behind, emit_behind]
      split
      · exact write_behind front pieces _ "\">"
      · rw [write_behind, emit_behind, write_behind]
  | image dest title => exact startImage_behind front pieces w dest title standalone

theorem stopTag_behind (highlighter : Option Highlighter) (tag : Tag)
    (htag : w.awaitingHeadingText = true → headingText? (.stop tag) = none) :
    (w.behind front pieces).stopTag highlighter tag
      = (w.stopTag highlighter tag).behind front pieces := by
  cases tag with
  | paragraph =>
      unfold stopTag
      dsimp only
      rw [write_behind, apply_ite (behind front pieces)]
      rfl
  | heading level =>
      have hsettled : ¬ w.awaitingHeadingText = true := fun hwaits =>
        absurd (htag hwaits) (by simp [headingText?])
      have hsettled' : ¬ (w.behind front pieces).awaitingHeadingText = true := hsettled
      unfold stopTag
      dsimp only
      rw [if_neg hsettled, if_neg hsettled', write_behind]
  | blockQuote => exact write_behind front pieces w "</blockquote>\n"
  | codeBlock info =>
      unfold stopTag
      dsimp only
      rw [flushCode_behind, write_behind]
  | list first =>
      cases first with
      | none => exact write_behind front pieces w "</ul>\n"
      | some first => exact write_behind front pieces w "</ol>\n"
  | item => exact write_behind front pieces w "</li>\n"
  | footnoteDefinition label =>
      exact emit_behind front pieces { w with inDefinition := false }
        (" <a href=\"#r." ++ escape label ++ "\">↩</a></p>\n")
  | table alignments => exact write_behind front pieces w "</tbody></table>\n"
  | tableHead =>
      unfold stopTag
      dsimp only
      rw [write_behind]
      rfl
  | tableRow => exact write_behind front pieces w "</tr>\n"
  | tableCell =>
      unfold stopTag
      dsimp only
      rw [write_behind]
      rfl
  | emphasis => exact write_behind front pieces w "</em>"
  | strong => exact write_behind front pieces w "</strong>"
  | strikethrough => exact write_behind front pieces w "</del>"
  | link form dest title => exact write_behind front pieces w "</a>"
  | image dest title => rfl

theorem text_behind (hsettled : ¬ w.awaitingHeadingText = true) :
    (w.behind front pieces).text text = (w.text text).behind front pieces := by
  have hcode : (w.behind front pieces).code = w.code := rfl
  have hsettled' : ¬ (w.behind front pieces).awaitingHeadingText = true := hsettled
  unfold Writer.text
  dsimp only
  rw [if_neg hsettled, if_neg hsettled', hcode]
  split
  · rfl
  · exact writeText_behind front pieces w text

theorem perform_behind (highlighter : Option Highlighter) (standalone : Bool) (event : Event)
    (hevent : w.awaitingHeadingText = true → headingText? event = none) :
    (w.behind front pieces).perform highlighter standalone event
      = (w.perform highlighter standalone event).behind front pieces := by
  cases event with
  | start tag => exact startTag_behind front pieces w highlighter standalone tag
  | stop tag => exact stopTag_behind front pieces w highlighter tag hevent
  | text content =>
      refine text_behind front pieces w content fun hwaits => ?_
      exact absurd (hevent hwaits) (by simp [headingText?])
  | code content =>
      unfold perform
      dsimp only
      rw [write_behind, emit_behind, write_behind]
  | html content => exact write_behind front pieces w content
  | softBreak => exact emit_behind front pieces { w with atLineStart := true } "\n"
  | hardBreak => exact write_behind front pieces w "<br />\n"
  | rule => exact writeBlock_behind front pieces w "<hr />\n"
  | footnoteReference label => exact footnoteReference_behind front pieces w label
  | taskMarker checked =>
      cases checked with
      | true =>
          exact write_behind front pieces w
            "<input disabled=\"\" type=\"checkbox\" checked=\"\"/>\n"
      | false => exact write_behind front pieces w "<input disabled=\"\" type=\"checkbox\"/>\n"

/-- An event does the same behind any front, unless it settles a heading. -/
theorem step_behind (highlighter : Option Highlighter) (event : Event) (standalone : Bool)
    (hpieces : w.held = none → pieces = [])
    (hevent : w.image = none → w.awaitingHeadingText = true → headingText? event = none) :
    (w.behind front pieces).step highlighter (event, standalone)
      = (w.step highlighter (event, standalone)).behind front pieces := by
  cases himage : w.image with
  | some image =>
      have himage' : (w.behind front pieces).image = some image := himage
      simp only [step, himage, himage', altStep_behind]
  | none =>
      have himage' : (w.behind front pieces).image = none := himage
      have hevent' := hevent himage
      rw [step_of_image_none highlighter himage, step_of_image_none highlighter himage',
        prepareHeading_behind front pieces w event hpieces hevent', perform_behind]
      -- what prepares a heading may settle it, and does not make it wait
      intro hwaits
      refine hevent' ?_
      cases hsettled : w.awaitingHeadingText with
      | true => rfl
      | false => rw [prepareHeading_of_settled hsettled, hsettled] at hwaits; exact hwaits

/-! ## Headings that are settled -/

variable {w text}

/-- An event that settles a heading does what it does once the heading is settled. -/
theorem step_settleHeading (highlighter : Option Highlighter) {event : Event} (standalone : Bool)
    (himage : w.image = none) (hwaits : w.awaitingHeadingText = true)
    (htext : headingText? event = some text) :
    w.step highlighter (event, standalone)
      = (w.settleHeading text).step highlighter (event, standalone) := by
  have hsettled := settleHeading_awaiting w text
  have himage' : (w.settleHeading text).image = none := by
    obtain ⟨written, hsame, -⟩ := settleHeading_spec w text
    rw [hsame]
    exact himage
  rw [step_of_image_none highlighter himage, step_of_image_none highlighter himage',
    prepareHeading_of_settled hsettled]
  cases event with
  | text content =>
      obtain rfl : content = text := Option.some.inj htext
      simp [prepareHeading, hwaits, perform, Writer.text, hsettled]
  | code content =>
      obtain rfl : content = text := Option.some.inj htext
      simp [prepareHeading, hwaits]
  | stop tag =>
      cases tag with
      | heading level =>
          obtain rfl : "" = text := Option.some.inj htext
          -- whether the heading has begun to hold back makes no difference any more
          have hhold : (w.prepareHeading (.stop (.heading level))).settleHeading ""
              = w.settleHeading "" := by
            cases hheld : w.held <;> simp [prepareHeading, hwaits, hheld, settleHeading]
          have hwaits' : (w.prepareHeading (.stop (.heading level))).awaitingHeadingText = true := by
            cases hheld : w.held <;> simp [prepareHeading, hwaits, hheld]
          simp [perform, stopTag, hwaits', hhold, hsettled]
      | _ => simp [headingText?] at htext
  | _ => simp [headingText?] at htext

variable (w text)

/-! ## Runs behind a page -/

theorem foldl_emit_after (held : List String) :
    held.foldl (fun w piece => w.emit piece) (w.after front)
      = (held.foldl (fun w piece => w.emit piece) w).after front := by
  induction held generalizing w with
  | nil => rfl
  | cons piece rest ih =>
      rw [List.foldl_cons, ← behind_nil, emit_behind, behind_nil, ih, List.foldl_cons]

theorem settleHeading_after :
    (w.after front).settleHeading text = (w.settleHeading text).after front := by
  have hopened : ∀ anchors : Anchors,
      { w.after front with awaitingHeadingText := false, held := none, anchors := anchors }
        = { w with
            awaitingHeadingText := false, held := none, anchors := anchors }.behind front [] :=
    fun _ => rfl
  unfold settleHeading
  dsimp only at hopened ⊢
  rw [hopened, emit_behind, emit_behind, behind_nil, foldl_emit_after]
  rfl

/-- An event does the same behind any page. -/
theorem step_after (highlighter : Option Highlighter) (marked : Event × Bool) :
    (w.after front).step highlighter marked = (w.step highlighter marked).after front := by
  obtain ⟨event, standalone⟩ := marked
  by_cases hsettles : w.image = none → w.awaitingHeadingText = true → headingText? event = none
  · rw [← behind_nil, step_behind front [] w highlighter event standalone (fun _ => rfl) hsettles,
      behind_nil]
  · push Not at hsettles
    obtain ⟨himage, hwaits, htext⟩ := hsettles
    obtain ⟨text, htext⟩ := Option.ne_none_iff_exists'.mp htext
    have hsettled := settleHeading_awaiting w text
    rw [step_settleHeading highlighter standalone himage hwaits htext,
      step_settleHeading highlighter standalone (by exact himage) (by exact hwaits) htext,
      settleHeading_after, ← behind_nil, step_behind front [] _ highlighter event standalone
        (fun _ => rfl) (fun _ hstill => absurd hstill (by simp [hsettled])), behind_nil]

variable (highlighter : Option Highlighter) (events : List (Event × Bool))

/-- Events do the same behind any page. -/
theorem run_after :
    events.foldl (step highlighter) (w.after front)
      = (events.foldl (step highlighter) w).after front := by
  induction events generalizing w with
  | nil => rfl
  | cons marked rest ih => rw [List.foldl_cons, step_after, ih, List.foldl_cons]

/-- What a run does besides adding pieces has nothing to do with the pieces before. -/
theorem run_eq_after :
    events.foldl (step highlighter) w
      = (events.foldl (step highlighter) { w with written := #[] }).after w.written := by
  rw [← run_after]
  simp only [after, Array.append_empty]

theorem page_after : (w.after front).page = String.join front.toList ++ w.page := by
  rw [page, page, after, Array.toList_append, String.join_append]

/-- A page that is added to is the old page and something behind it. -/
theorem page_run : ∃ more, (events.foldl (step highlighter) w).page = w.page ++ more := by
  rw [run_eq_after, page_after]
  exact ⟨_, rfl⟩

end Writer

end StaticSite.Html
