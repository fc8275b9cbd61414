import StaticSite.Proofs.Html.FigureQueue
import StaticSite.Proofs.Html.HeldLine

/-!
# Headings that hold back

A heading's first tag needs the heading's text, so what stands before the text is held back until
the text is there. On the page nothing is to be seen of that: a heading is its front, its
identifier, what its content would be elsewhere, and its end, one after the other.

What a writer remembers is told from the events that it has been given, whatever these are: they
need not be the events of a document.

## What this module delivers

- `Spot`, `spotAfter`: what a place in a stream of events is inside of.
- `IsAt.step`, `isAt_writerAfter`: what the writer remembers at a spot.
- `prints_stopHeading`: the end of a heading, which settles one that still waits.
- `WritesHeading`, `writesHeading_outside`: what is written from a heading's start to its end.
-/

set_option autoImplicit false

namespace StaticSite.Html

open StaticSite.Markdown

/-! ## Spots -/

/-- What a place in a stream of events is inside of, and whether a heading began before it. -/
structure Spot where
  /-- Inside an image, the number of constructs open in it. -/
  image? : Option Nat := none
  inHeading : Bool := false
  inCode : Bool := false
  titled : Bool := false
deriving DecidableEq, Repr

namespace Spot

/-- The spot behind the start of a construct. Inside an image all constructs are alike. -/
def start (spot : Spot) (tag : Tag) : Spot :=
  match spot.image?, tag with
  | some depth, _ => { spot with image? := some (depth + 1) }
  | none, .image _ _ => { spot with image? := some 0 }
  | none, .heading _ => { spot with inHeading := true, titled := true }
  | none, .codeBlock _ => { spot with inCode := true }
  | none, _ => spot

/-- The spot behind the end of a construct. -/
def stop (spot : Spot) (tag : Tag) : Spot :=
  match spot.image?, tag with
  | some 0, _ => { spot with image? := none }
  | some (depth + 1), _ => { spot with image? := some depth }
  | none, .heading _ => { spot with inHeading := false }
  | none, .codeBlock _ => { spot with inCode := false }
  | none, _ => spot

/-- The spot behind an event. -/
def next (spot : Spot) : Event → Spot
  | .start tag => spot.start tag
  | .stop tag => spot.stop tag
  | _ => spot

/-- An event that encloses nothing leaves the spot as it is. -/
theorem next_leaf (spot : Spot) (leaf : Leaf) : spot.next leaf.event = spot := by
  cases leaf <;> rfl

/-- A figure and its image lead to the same spot. -/
theorem foldl_figure (spot : Spot) (dest title alt dest' title' : String) :
    (figure dest title alt dest' title').foldl next spot
      = ((unwrappedFigure dest title alt dest' title').map (·.1)).foldl next spot := by
  obtain ⟨_ | depth, inHeading, inCode, titled⟩ := spot <;> rfl

/-- Unwrapping figures has no part in where a spot is. -/
theorem foldl_markStandalone (events : List Event) (spot : Spot) :
    ((markStandalone events).map (·.1)).foldl next spot = events.foldl next spot := by
  fun_induction markStandalone events generalizing spot with
  | case1 dest title alt dest' title' rest ih =>
      have hfigure := foldl_figure spot dest title alt dest' title'
      have hall : (figure dest title alt dest' title' ++ rest).foldl next spot
          = ((unwrappedFigure dest title alt dest' title').map (·.1) ++
              (markStandalone rest).map (·.1)).foldl next spot := by
        rw [List.foldl_append, List.foldl_append, hfigure, ih]
      exact hall.symm
  | case2 event rest _ ih => exact ih (spot.next event)
  | case3 => rfl

theorem start_inside {spot : Spot} {depth : Nat} (h : spot.image? = some depth) (tag : Tag) :
    spot.start tag = { spot with image? := some (depth + 1) } := by
  simp only [start, h]

theorem stop_inside {spot : Spot} {depth : Nat} (h : spot.image? = some (depth + 1)) (tag : Tag) :
    spot.stop tag = { spot with image? := some depth } := by
  simp only [stop, h]

mutual

/-- Inside an image a tree leads back to where it began. -/
theorem foldl_tree : ∀ (tree : EventTree) {spot : Spot} {depth : Nat}, spot.image? = some depth →
    tree.events.foldl next spot = spot
  | .leaf leaf, spot, _, _ => next_leaf spot leaf
  | .node tag children, spot, depth, h => by
      have hdeeper : ({ spot with image? := some (depth + 1) } : Spot).image? = some (depth + 1) :=
        rfl
      have hinner := foldl_forest children hdeeper
      rw [events_node, List.foldl_cons, List.foldl_append, List.foldl_cons, List.foldl_nil, next,
        start_inside h, hinner, next, stop_inside rfl, ← h]

theorem foldl_forest : ∀ (trees : List EventTree) {spot : Spot} {depth : Nat},
    spot.image? = some depth → (forestEvents trees).foldl next spot = spot
  | [], _, _, _ => rfl
  | tree :: rest, _, _, h => by
      rw [forestEvents_cons, List.foldl_append, foldl_tree tree h, foldl_forest rest h]

end

/-- Outside of images only an image leads inside of one. -/
theorem image?_start {spot : Spot} (h : spot.image? = none) {tag : Tag}
    (htag : ∀ dest title, tag ≠ .image dest title) : (spot.start tag).image? = none := by
  cases tag with
  | image dest title => exact absurd rfl (htag dest title)
  | _ => simp only [start, h]

theorem image?_stop {spot : Spot} (h : spot.image? = none) (tag : Tag) :
    (spot.stop tag).image? = none := by
  cases tag <;> simp only [stop, h]

/-- Outside of images an image leads back to where it began. -/
theorem foldl_image {spot : Spot} (h : spot.image? = none) (dest title : String)
    (children : List EventTree) :
    (EventTree.node (.image dest title) children).events.foldl next spot = spot := by
  have hopen : (spot.start (.image dest title)).image? = some 0 := by
    simp only [start, h]
  rw [events_node, List.foldl_cons, List.foldl_append, List.foldl_cons, List.foldl_nil, next,
    foldl_forest children hopen, next]
  simp only [start, stop, h]
  rw [← h]

mutual

/-- Outside of images a tree leads back outside. -/
theorem image?_tree : ∀ (tree : EventTree) {spot : Spot}, spot.image? = none →
    (tree.events.foldl next spot).image? = none
  | .leaf leaf, spot, h => (congrArg image? (next_leaf spot leaf)).trans h
  | .node tag children, spot, h => by
      by_cases himage : ∃ dest title, tag = .image dest title
      · obtain ⟨dest, title, rfl⟩ := himage
        rw [foldl_image h]
        exact h
      · have hother : ∀ dest title, tag ≠ .image dest title :=
          fun dest title heq => himage ⟨dest, title, heq⟩
        rw [events_node, List.foldl_cons, List.foldl_append, List.foldl_cons, List.foldl_nil]
        exact image?_stop (image?_forest children (image?_start h hother)) tag

theorem image?_forest : ∀ (trees : List EventTree) {spot : Spot}, spot.image? = none →
    ((forestEvents trees).foldl next spot).image? = none
  | [], _, h => h
  | tree :: rest, _, h => by
      rw [forestEvents_cons, List.foldl_append]
      exact image?_forest rest (image?_tree tree h)

end

end Spot

/-- The spot behind events. -/
def spotAfter (events : List Event) : Spot :=
  events.foldl Spot.next {}

/-! ## Writers at a spot -/

/-- The writer when some of a document's events have been written. -/
def writerAfter (highlighter : Option Highlighter) (events : List Event) : Writer :=
  (markStandalone events).foldl (Writer.step highlighter) {}

namespace Writer

/-- The writer remembers what the spot tells. A heading waits only inside of headings, and code is
collected only inside of code blocks. -/
structure IsAt (highlighter : Option Highlighter) (w : Writer) (spot : Spot) : Prop where
  image : w.image.map (·.depth) = spot.image?
  held : w.awaitingHeadingText = false → w.held = none
  heading : spot.inHeading = false → w.awaitingHeadingText = false
  code : IsQuiet highlighter spot.inCode → w.code = none
  titled : w.titled = spot.titled

variable {w w' : Writer} {spot : Spot} {text : String} {highlighter : Option Highlighter}

/-- An image may begin or end, and something may be handed on. -/
theorem IsAt.continues (h : w.IsAt highlighter spot) (image : Option OpenImage)
    (hcontinues : { w with image := image }.Continues text w') :
    w'.IsAt highlighter { spot with image? := image.map (·.depth) } := by
  refine ⟨?_, fun hsettled => ?_, fun hout => ?_, fun hout => ?_, ?_⟩
  · rw [hcontinues.grows.image]
  · have hnone : w.held = none := h.held (hcontinues.grows.awaiting.symm.trans hsettled)
    exact (hcontinues.grows.page hnone).1
  · exact hcontinues.grows.awaiting.trans (h.heading hout)
  · exact hcontinues.code (h.code hout)
  · exact hcontinues.titled.trans h.titled

/-- Inside an image an event is a part of the alternative text, or ends it. -/
theorem IsAt.altStep (h : w.IsAt highlighter spot) {image : OpenImage}
    (himage : w.image = some image) (event : Event) (standalone : Bool) :
    (w.step highlighter (event, standalone)).IsAt highlighter (spot.next event) := by
  have hspot : spot.image? = some image.depth := by rw [← h.image, himage, Option.map_some]
  have hopen : { w with image := some image } = w := by rw [← himage]
  -- an event that encloses nothing leaves the image open
  have hleaf : ∀ leaf : Leaf, event = leaf.event →
      (w.step highlighter (event, standalone)).IsAt highlighter (spot.next event) := by
    rintro leaf rfl
    have hdepicts : w.Depicts image w := by
      rw [Depicts, hopen]
      exact AddsCalm.refl w
    obtain ⟨more, hcontinues, -⟩ := depicts_leaf highlighter standalone hdepicts leaf
    have hall := h.continues (some image) hcontinues
    rw [Option.map_some, ← hspot] at hall
    rw [Spot.next_leaf]
    exact hall
  cases event with
  | start tag =>
      rw [step_of_image highlighter himage]
      simp only [Spot.next, Spot.start, hspot]
      exact h.continues _ (Continues.refl _)
  | stop tag =>
      rw [step_of_image highlighter himage, Spot.next, Writer.altStep]
      cases hdepth : image.depth with
      | zero =>
          rw [hdepth] at hspot
          simp only [Spot.stop, hspot]
          rw [if_pos trivial]
          have hdepicts : { w with image := none }.Depicts image w := by
            rw [Depicts]
            change { w with image := some image }.AddsCalm w
            rw [hopen]
            exact AddsCalm.refl w
          obtain ⟨more, hcontinues, -⟩ := hdepicts.finishImage rfl
          exact h.continues none hcontinues
      | succ depth =>
          rw [hdepth] at hspot
          simp only [Spot.stop, hspot]
          rw [if_neg (Nat.succ_ne_zero depth)]
          exact h.continues _ (Continues.refl _)
  | text content => exact hleaf (.text content) rfl
  | code content => exact hleaf (.code content) rfl
  | html content => exact hleaf (.html content) rfl
  | softBreak => exact hleaf .softBreak rfl
  | hardBreak => exact hleaf .hardBreak rfl
  | rule => exact hleaf .rule rfl
  | footnoteReference label => exact hleaf (.footnoteReference label) rfl
  | taskMarker checked => exact hleaf (.taskMarker checked) rfl

theorem IsAt.ready (h : w.IsAt highlighter spot) (hspot : spot.image? = none) : w.IsReady :=
  ⟨Option.map_eq_none_iff.mp (h.image.trans hspot), h.held⟩

/-- A heading that waits has waited before. -/
theorem Follows.awaiting (h : w.Follows text w') (hsettled : w.awaitingHeadingText = false) :
    w'.awaitingHeadingText = false :=
  (h.page hsettled).1

/-- What is handed on outside of images has no part in where the writer is. -/
theorem IsAt.follows (h : w.IsAt highlighter spot) (hspot : spot.image? = none)
    (hfollows : w.Follows text w') : w'.IsAt highlighter spot := by
  refine ⟨?_, hfollows.ready.held, fun hout => ?_, fun hout => ?_, ?_⟩
  · rw [hfollows.ready.image, hspot, Option.map_none]
  · exact hfollows.awaiting (h.heading hout)
  · exact hfollows.code (h.code hout)
  · exact hfollows.titled.trans h.titled

/-- A heading that begins waits for its text. -/
theorem IsAt.startHeading (h : w.IsAt highlighter spot) (level : Int) :
    (w.startHeading level).IsAt highlighter { spot with inHeading := true, titled := true } := by
  have hgrows := continues_lineEnd w
  unfold Writer.startHeading
  generalize (if w.atLineStart then { w with atLineStart := false } else w.emit "\n") = begun
    at hgrows ⊢
  dsimp only
  obtain ⟨classed, hsame, hextends, htitled, hcode⟩ :=
    titleClass_spec (hgrows.emit ("<h" ++ toString level))
  rw [hsame]
  have hwaits : (({ classed with awaitingHeadingText := true } : Writer).emit
      " id=\"").awaitingHeadingText = true :=
    ((Extends.refl _).emit " id=\"").awaiting
  refine ⟨?_, fun hsettled => ?_, fun hout => Bool.noConfusion hout, fun hout => ?_, ?_⟩
  · rw [((Extends.refl _).emit " id=\"").image, ← h.image, ← hextends.image]
  · rw [hwaits] at hsettled
    exact Bool.noConfusion hsettled
  · rw [code_emit]
    exact hcode (h.code hout)
  · rw [titled_emit]
    exact htitled

/-- Inside a code block it is quiet only without a highlighter. -/
theorem IsAt.startCode (h : w.IsAt highlighter spot) (info : Option String) :
    (w.startCode highlighter info).IsAt highlighter { spot with inCode := true } := by
  obtain ⟨begun, code, ⟨more, hcontinues, -⟩, hstart, hplain⟩ := startCode_eq highlighter info w
  have hsame : { w with image := w.image } = w := rfl
  have hbegun := h.continues w.image (hsame ▸ hcontinues)
  rw [hstart]
  refine ⟨hbegun.image.trans h.image, hbegun.held, hbegun.heading, fun hquiet => ?_,
    hbegun.titled⟩
  rcases hquiet with hnone | hfalse
  · exact (hplain hnone).trans (hbegun.code (.inl hnone))
  · exact Bool.noConfusion hfalse

/-- Outside of images a heading, an image and a code block lead to another spot. -/
theorem IsAt.start (h : w.IsAt highlighter spot) (hspot : spot.image? = none) (tag : Tag)
    (standalone : Bool) :
    (w.step highlighter (.start tag, standalone)).IsAt highlighter (spot.start tag) := by
  have hready := h.ready hspot
  obtain ⟨hprepared, -⟩ := follows_prepareHeading hready (.start tag) (by simp)
  have hat := h.follows hspot hprepared
  have hperform : w.step highlighter (.start tag, standalone)
      = (w.prepareHeading (.start tag)).startTag highlighter standalone tag :=
    step_of_image_none highlighter hready.image (.start tag) standalone
  by_cases hline : tag.holdsLine = false ∧ tag.isCode = false
  · have hadds : AddsRow highlighter _ _ _ _ := addsRow_startTag standalone hline.1 hline.2
    obtain ⟨more, hfollows, -⟩ := hadds w hready
    have hsame : spot.start tag = spot := by
      obtain ⟨image?, inHeading, inCode, titled⟩ := spot
      obtain rfl : image? = none := hspot
      cases tag <;> simp_all [Spot.start, Tag.holdsLine, Tag.isCode]
    rw [hsame]
    exact h.follows hspot hfollows
  · rw [hperform]
    generalize w.prepareHeading (.start tag) = prepared at hat
    cases tag with
    | heading level =>
        simp only [Spot.start, hspot]
        have hbegun := hat.startHeading level
        rwa [hspot] at hbegun
    | image dest title =>
        simp only [Spot.start, hspot]
        rw [startTag]
        obtain ⟨more, hcontinues, -⟩ := depicts_startImage dest title standalone prepared
        exact hat.continues _ hcontinues
    | codeBlock info =>
        simp only [Spot.start, hspot]
        have hbegun := hat.startCode info
        rwa [hspot] at hbegun
    | _ => exact absurd ⟨rfl, rfl⟩ hline

/-- Outside of images the ends of headings and code blocks lead to another spot. -/
theorem IsAt.stop (h : w.IsAt highlighter spot) (hspot : spot.image? = none) (tag : Tag)
    (standalone : Bool) :
    (w.step highlighter (.stop tag, standalone)).IsAt highlighter (spot.stop tag) := by
  have hready := h.ready hspot
  obtain ⟨hprepared, -⟩ := follows_prepareHeading hready (.stop tag) (by simp)
  have hat := h.follows hspot hprepared
  have hperform : w.step highlighter (.stop tag, standalone)
      = (w.prepareHeading (.stop tag)).stopTag highlighter tag :=
    step_of_image_none highlighter hready.image (.stop tag) standalone
  by_cases hline : tag.holdsLine = false ∧ tag.isCode = false
  · have hadds : AddsRow highlighter _ _ _ _ := addsRow_stopTag hline.1 hline.2
    obtain ⟨more, hfollows, -⟩ := hadds w hready
    have hsame : spot.stop tag = spot := by
      obtain ⟨image?, inHeading, inCode, titled⟩ := spot
      obtain rfl : image? = none := hspot
      cases tag <;> simp_all [Spot.stop, Tag.holdsLine, Tag.isCode]
    rw [hsame]
    exact h.follows hspot hfollows
  · cases tag with
    | heading level =>
        have hstops : w.Follows _ (w.step highlighter _) ∧ _ := follows_stopHeading hready level
        obtain ⟨hfollows, hover⟩ := hstops
        have hend := h.follows hspot hfollows
        simp only [Spot.stop, hspot]
        exact ⟨hend.image.trans hspot, hend.held, fun _ => hover, hend.code, hend.titled⟩
    | image dest title =>
        -- an image that ends outside of images never began
        rw [hperform]
        simp only [Spot.stop, hspot]
        exact hat
    | codeBlock info =>
        rw [hperform]
        simp only [Spot.stop, hspot]
        rw [stopTag]
        generalize w.prepareHeading (.stop (.codeBlock info)) = prepared at hat
        obtain ⟨more, hcontinues, -⟩ := woven_flushCode highlighter prepared
        have hend := hat.continues prepared.image (hcontinues.write "</code></pre>\n")
        refine ⟨hend.image.trans (hat.image.trans hspot), hend.held, hend.heading, fun _ => ?_,
          hend.titled⟩
        -- with a highlighter the code was handed over, and without one none was collected
        cases hsome : highlighter.isSome with
        | true => exact code_write.trans (code_flushCode hsome prepared)
        | false => exact hend.code (.inl (Option.not_isSome_iff_eq_none.mp (by simp [hsome])))
    | _ => exact absurd ⟨rfl, rfl⟩ hline

/-- One event leads from spot to spot. -/
theorem IsAt.step (h : w.IsAt highlighter spot) (event : Event) (standalone : Bool) :
    (w.step highlighter (event, standalone)).IsAt highlighter (spot.next event) := by
  cases himage : w.image with
  | some image => exact h.altStep himage event standalone
  | none =>
      have hspot : spot.image? = none := by rw [← h.image, himage, Option.map_none]
      -- an event that encloses nothing leaves the spot as it is
      have hleaf : ∀ leaf : Leaf, event = leaf.event →
          (w.step highlighter (event, standalone)).IsAt highlighter (spot.next event) := by
        rintro leaf rfl
        have hadds : AddsRow highlighter _ _ _ _ := addsRow_leaf leaf
        obtain ⟨more, hfollows, -⟩ := hadds w (h.ready hspot)
        have hsame : w.step highlighter (leaf.event, standalone)
            = w.step highlighter (leaf.event, false) := by
          cases leaf with
          | taskMarker checked => cases checked <;> rfl
          | _ => rfl
        rw [Spot.next_leaf, hsame]
        exact h.follows hspot hfollows
      cases event with
      | start tag => exact h.start hspot tag standalone
      | stop tag => exact h.stop hspot tag standalone
      | text content => exact hleaf (.text content) rfl
      | code content => exact hleaf (.code content) rfl
      | html content => exact hleaf (.html content) rfl
      | softBreak => exact hleaf .softBreak rfl
      | hardBreak => exact hleaf .hardBreak rfl
      | rule => exact hleaf .rule rfl
      | footnoteReference label => exact hleaf (.footnoteReference label) rfl
      | taskMarker checked => exact hleaf (.taskMarker checked) rfl

theorem IsAt.run (h : w.IsAt highlighter spot) (pairs : List (Event × Bool)) :
    (pairs.foldl (Writer.step highlighter) w).IsAt highlighter
      ((pairs.map (·.1)).foldl Spot.next spot) := by
  induction pairs generalizing w spot with
  | nil => exact h
  | cons pair rest ih => exact ih (h.step pair.1 pair.2)

end Writer

/-- The writer remembers the spot that it is at, whatever events led to it. -/
theorem isAt_writerAfter (highlighter : Option Highlighter) (events : List Event) :
    (writerAfter highlighter events).IsAt highlighter (spotAfter events) := by
  have hstart : ({} : Writer).IsAt highlighter {} :=
    ⟨rfl, fun _ => rfl, fun _ => rfl, fun _ => rfl, rfl⟩
  have hrun := hstart.run (markStandalone events)
  rwa [Spot.foldl_markStandalone] at hrun

/-! ## Headings -/

/-- The events of a heading. -/
def headingEvents (level : Int) (trees : List EventTree) : List Event :=
  .start (.heading level) :: (forestEvents trees ++ [.stop (.heading level)])

section

variable {highlighter : Option Highlighter} {before : List Event} {level : Int}
  {trees : List EventTree}

theorem markStandalone_headingEvents (level : Int) (trees : List EventTree) (after : List Event) :
    markStandalone (headingEvents level trees ++ after)
      = (.start (.heading level), false) ::
          (forestMarked trees ++ (.stop (.heading level), false) :: markStandalone after) := by
  rw [headingEvents, List.cons_append, List.append_assoc, List.singleton_append,
    markStandalone_event (by simp), markStandalone_forestEvents, markStandalone_event (by simp)]

/-- No figure reaches into a heading. -/
theorem markStandalone_beforeHeading (before : List Event) (level : Int) (trees : List EventTree)
    (after : List Event) :
    markStandalone (before ++ (headingEvents level trees ++ after))
      = markStandalone before ++ markStandalone (headingEvents level trees ++ after) := by
  have hstart : isInsideFigure (.start (.heading level)) = false := rfl
  exact markStandalone_append hstart before
    (forestEvents trees ++ [.stop (.heading level)] ++ after)

/-- Outside of images and headings, the writer begins a heading, writes its content and ends it. -/
theorem foldl_headingEvents {w : Writer} (hw : w.IsReady) (hsettled : w.awaitingHeadingText = false)
    (level : Int) (trees : List EventTree) (after : List Event) :
    (markStandalone (headingEvents level trees ++ after)).foldl (Writer.step highlighter) w
      = (markStandalone after).foldl (Writer.step highlighter)
          (((forestMarked trees).foldl (Writer.step highlighter) (w.startHeading level)).step
            highlighter (.stop (.heading level), false)) := by
  have hstart : w.step highlighter (.start (.heading level), false) = w.startHeading level := by
    rw [Writer.step_of_image_none highlighter hw.image, Writer.prepareHeading_of_settled hsettled]
    rfl
  rw [markStandalone_headingEvents, List.foldl_cons, List.foldl_append, List.foldl_cons, hstart]

/-- The end of a heading settles one that still waits, and closes its element. -/
theorem prints_stopHeading (highlighter : Option Highlighter) {w : Writer} (hw : w.IsReady)
    (hcode : w.code = none) (level : Int) :
    w.Prints ("</h" ++ toString level ++ ">\n") (some "")
        (w.step highlighter (.stop (.heading level), false)) ∧
      (w.step highlighter (.stop (.heading level), false)).footnotes = w.footnotes := by
  obtain ⟨hprepared, -⟩ := Writer.prints_prepareHeading hw hcode (.stop (.heading level)) (by simp)
  have hsettles := Writer.prints_settle hprepared.ready hprepared.code ""
  have hover := hsettles.awaiting_of_some
  have hcloses := Writer.prints_of_continues hsettles.ready hsettles.code
    (fun hwaits => absurd hwaits (by simp [hover]))
    ((Writer.Continues.refl _).write ("</h" ++ toString level ++ ">\n"))
  have hall := (hprepared.trans hsettles).trans hcloses
  have hstep : w.step highlighter (.stop (.heading level), false)
      = (w.prepareHeading (.stop (.heading level))).stopTag highlighter (.heading level) :=
    Writer.step_of_image_none highlighter hw.image _ false
  rw [hstep]
  refine ⟨hall.congr ?_, ?_⟩
  · rw [String.empty_append, String.empty_append, String.empty_append]
  · rw [Writer.footnotes_stopTag, Writer.footnotes_prepareHeading]

/-- What is written from a heading's start to its end, if these are the events before it. -/
structure WritesHeading (highlighter : Option Highlighter) (before : List Event) (level : Int)
    (trees : List EventTree) (markup : String) : Prop where
  /-- The page grows by the heading's element, on a line of its own: its class if it is the first
  one, the identifier of its first text or code outside of images, the link to itself, the markup of
  its content, and its end. -/
  page :
    let w := writerAfter highlighter before
    let identifier := (w.anchors.allocate ((lineName? trees).getD "")).1
    (writerAfter highlighter (before ++ headingEvents level trees)).page
      = w.page ++ (if w.atLineStart then "" else "\n") ++
        ("<h" ++ toString level ++ (if (spotAfter before).titled then "" else " class=\"title\"") ++
          " id=\"" ++ identifier ++ "\"><a class=\"anchor\" href=\"#" ++ identifier ++
          "\">¶</a>") ++ markup ++ ("</h" ++ toString level ++ ">\n")
  /-- The identifier was issued then, and nothing is held back any more. -/
  issued : (writerAfter highlighter (before ++ headingEvents level trees)).anchors
    = ((writerAfter highlighter before).anchors.allocate ((lineName? trees).getD "")).2
  released : (writerAfter highlighter (before ++ headingEvents level trees)).held = none
  /-- The markup of the content is what it adds to any page outside of headings if the same numbers
  were given to footnotes, and the numbers after it are the same. -/
  elsewhere : ∀ w : Writer, w.image = none → w.awaitingHeadingText = false → w.held = none →
    w.code = none → w.footnotes = (writerAfter highlighter before).footnotes →
    let w' := (markStandalone (forestEvents trees)).foldl (Writer.step highlighter) w
    w'.page = w.page ++ markup ∧
      w'.footnotes = (writerAfter highlighter (before ++ headingEvents level trees)).footnotes
  /-- A document is written by way of these two writers, whatever comes after the heading. -/
  reached : ∀ after : List Event,
    Writer.ofEvents highlighter (before ++ (headingEvents level trees ++ after))
      = ((markStandalone (headingEvents level trees ++ after)).foldl (Writer.step highlighter)
          (writerAfter highlighter before)).finish
  left : ∀ after : List Event,
    Writer.ofEvents highlighter (before ++ (headingEvents level trees ++ after))
      = ((markStandalone after).foldl (Writer.step highlighter)
          (writerAfter highlighter (before ++ headingEvents level trees))).finish

/-- A heading outside of images, other headings and code blocks writes its element, in which its
content is what it would be elsewhere: holding back loses, repeats and moves nothing. -/
theorem writesHeading_outside (highlighter : Option Highlighter) (level : Int)
    (himage : (spotAfter before).image? = none) (hheading : (spotAfter before).inHeading = false)
    (hcode : (spotAfter before).inCode = false) (hinline : areInline trees) :
    ∃ markup, WritesHeading highlighter before level trees markup := by
  have hat := isAt_writerAfter highlighter before
  have hready := hat.ready himage
  have hsettled := hat.heading hheading
  have hnone := hat.code (.inr hcode)
  have hline : PrintsLine highlighter (forestMarked trees) _ := printsLine_forest trees hinline
  obtain ⟨markup, numbers, hline⟩ := hline (writerAfter highlighter before).footnotes
  -- all events are written by way of the writers before the heading and behind it
  have hreached : ∀ after, (markStandalone (before ++ (headingEvents level trees ++ after))).foldl
        (Writer.step highlighter) {}
      = (markStandalone (headingEvents level trees ++ after)).foldl (Writer.step highlighter)
          (writerAfter highlighter before) := by
    intro after
    rw [markStandalone_beforeHeading, List.foldl_append, ← writerAfter]
  have hrun : writerAfter highlighter (before ++ headingEvents level trees)
      = ((forestMarked trees).foldl (Writer.step highlighter)
          ((writerAfter highlighter before).startHeading level)).step highlighter
            (.stop (.heading level), false) := by
    have hall := hreached []
    rw [foldl_headingEvents hready hsettled, List.append_nil, markStandalone,
      List.foldl_nil] at hall
    exact hall
  have hbegins := Writer.begins_startHeading hready.image (hat.held hsettled) level
  have hnumbers := Writer.footnotes_startHeading (w := writerAfter highlighter before) level
  obtain ⟨hprints, hinside⟩ := hline _ hbegins.ready (hbegins.code hnone) hnumbers
  obtain ⟨hstops, hlast⟩ := prints_stopHeading highlighter hprints.ready hprints.code level
  have hall := hprints.trans hstops
  have hname : (lineName? trees).or (some "") = some ((lineName? trees).getD "") := by
    cases lineName? trees <;> rfl
  rw [← hrun, hname] at hall
  rw [← hrun, hinside] at hlast
  have hover := hall.awaiting_of_some
  refine ⟨markup, ?_, ?_, ?_, ?_, ?_, ?_⟩
  · have hview := hall.view
    rw [Writer.view_of_settled hover, Writer.settled?_of_waiting hbegins.awaiting,
      Writer.view_of_waiting hbegins.awaiting, hbegins.held, hbegins.page, hbegins.anchors,
      hat.titled] at hview
    have hpage := congrArg View.page hview
    simp only [View.add, View.settle, Option.map_some, Option.getD_none, String.join_nil,
      String.empty_append] at hpage
    have hlink : ("\"><a class=\"anchor\" href=\"#" : String)
        = "\">" ++ "<a class=\"anchor\" href=\"#" := by decide
    simp only [hpage, headingStart, Writer.identifierText, Writer.lineEnd, hlink,
      String.append_assoc]
  · rw [hall.anchors, Writer.settled?_of_waiting hbegins.awaiting, Option.elim_some,
      hbegins.anchors]
  · exact hall.ready.held hover
  · intro w hwimage hwsettled hwheld hwcode hwnumbers
    obtain ⟨helsewhere, hwlast⟩ := hline w ⟨hwimage, fun _ => hwheld⟩ hwcode hwnumbers
    have hforest := markStandalone_forestEvents [] trees
    rw [markStandalone, List.append_nil, List.append_nil] at hforest
    dsimp only
    rw [hforest, hlast, hwlast]
    exact ⟨(helsewhere.page hwsettled).2.1, rfl⟩
  · exact fun after => congrArg Writer.finish (hreached after)
  · intro after
    rw [Writer.ofEvents, hreached, foldl_headingEvents hready hsettled, hrun]

end

/-! ## A heading whose text comes late -/

/-- A paragraph with a reference to a footnote. -/
def lateBefore : List Event :=
  [.start .paragraph, .text "See", .footnoteReference "a", .stop .paragraph]

/-- Raw HTML, an image with a text in its place, and the same reference before the first text. -/
def lateTrees : List EventTree :=
  [.leaf (.html "<b>"), .node (.image "i.png" "") [.leaf (.text "no")],
    .node .emphasis [.leaf (.footnoteReference "a"), .leaf (.text "Hi")], .leaf (.html "</b>")]

/-- All that stands before the text is held back, and the identifier is that of the text. -/
theorem writesHeading_late :
    (spotAfter lateBefore).image? = none ∧ (spotAfter lateBefore).inHeading = false ∧
    (spotAfter lateBefore).inCode = false ∧ areInline lateTrees ∧
    (∃ markup, WritesHeading none lateBefore 2 lateTrees markup) ∧
    (writerAfter none (lateBefore ++ headingEvents 2 lateTrees)).page
      = (writerAfter none lateBefore).page ++
        ("<h2 class=\"title\" id=\"hi\"><a class=\"anchor\" href=\"#hi\">¶</a><b>" ++
        "<img src=\"i.png\" alt=\"no\" /><em><sup class=\"footnote-reference\" id=\"r.a\">" ++
        "<a href=\"#f.a\">1</a></sup>Hi</em></b></h2>\n") :=
  ⟨by decide, by decide, by decide, by decide,
    writesHeading_outside none 2 (by decide) (by decide) (by decide) (by decide), by decide +kernel⟩

end StaticSite.Html
