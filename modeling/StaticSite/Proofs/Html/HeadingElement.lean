import StaticSite.Proofs.Html.HeadingRow

/-!
# The headings of a written page

Outside of headings nothing is held back, so a page grows by what events hand on. A heading grows it
by an element, whose first tag gets an identifier somewhere between the heading's start and its end.

## What this module delivers

- `Writer.IsOutside`: the writer between two events outside of headings.
- `Follows.identifier`: a heading that waits has its identifier when it ends.
- `Builds`, with `Builds.append`: events that add parts to the page.
- `builds_heading`, `builds_forest`: a heading, and a forest by induction on its trees.
- `built_render`: the page of a document, with its headings and the identifiers issued.
-/

set_option autoImplicit false

namespace StaticSite.Html

open StaticSite.Markdown

namespace Writer

/-! ## Outside of headings -/

/-- The writer is between two events outside of headings and images. -/
structure IsOutside (w : Writer) (highlighter : Option Highlighter) (inCode : Bool) : Prop where
  ready : w.IsReady
  settled : w.awaitingHeadingText = false
  code : IsQuiet highlighter inCode → w.code = none

variable {w w' : Writer} {text : String} {highlighter : Option Highlighter} {inCode : Bool}

theorem IsOutside.held (h : w.IsOutside highlighter inCode) : w.held = none :=
  h.ready.held h.settled

theorem prepareHeading_of_settled (h : w.awaitingHeadingText = false) (event : Event) :
    w.prepareHeading event = w := by
  unfold prepareHeading
  rw [if_neg (by simp [h])]

/-- Outside of headings an event does what it does where no heading is in its way. -/
theorem IsOutside.step (h : w.IsOutside highlighter inCode) (event : Event) (standalone : Bool) :
    w.step highlighter (event, standalone) = w.perform highlighter standalone event := by
  rw [step_of_image_none highlighter h.ready.image, prepareHeading_of_settled h.settled]

/-- The writer `w'` is `w` after the front of a heading, whose identifier is open from then on. -/
structure Begins (w : Writer) (front : String) (w' : Writer) : Prop where
  ready : w'.IsReady
  awaiting : w'.awaitingHeadingText = true
  held : w'.held = none
  titled : w'.titled = true
  code : w.code = none → w'.code = none
  anchors : w'.anchors = w.anchors
  page : w'.page = w.page ++ front

/-- The first heading has a class that says so, and after it the page has its title. -/
theorem titleClass_spec (h : w.Continues text w') :
    ∃ classed, (if w'.titled then w' else { w' with titled := true }.emit " class=\"title\"")
        = classed ∧
      w.Extends (text ++ (if w.titled then "" else " class=\"title\"")) classed ∧
      classed.titled = true ∧ (w.code = none → classed.code = none) := by
  rw [h.titled]
  cases htitled : w.titled with
  | true => exact ⟨w', rfl, h.grows.congr (by simp), h.titled.trans htitled, h.code⟩
  | false =>
      have hnow : w.Extends text { w' with titled := true } :=
        h.grows.of_same rfl rfl rfl rfl rfl
      refine ⟨_, rfl, hnow.emit " class=\"title\"", titled_emit, fun hcode => ?_⟩
      rw [if_neg Bool.false_ne_true, code_emit]
      exact h.code hcode

/-- The front of a heading is written on a line of its own, and from then on a heading waits. -/
theorem begins_startHeading (himage : w.image = none) (hheld : w.held = none) (level : Int) :
    w.Begins (w.lineEnd ++ headingStart level w.titled) (w.startHeading level) := by
  -- the start of a line, the name, the class and the quote are four pieces in a row
  have hline := continues_lineEnd w
  unfold startHeading
  generalize (if w.atLineStart then { w with atLineStart := false } else w.emit "\n") = begun
    at hline ⊢
  dsimp only
  have hname := hline.emit ("<h" ++ toString level)
  generalize begun.emit ("<h" ++ toString level) = named at hname ⊢
  obtain ⟨classed, hsame, hgrows, htitled, hcode⟩ := titleClass_spec hname
  rw [hsame]
  -- nothing was held back so far, so the quote goes to the page, which is open from then on
  obtain ⟨hheld', hpage⟩ := hgrows.page hheld
  rw [emit_of_settled (by exact hheld')]
  refine ⟨⟨hgrows.image.trans himage, fun hover => Bool.noConfusion hover⟩, rfl, hheld', htitled,
    hcode, hgrows.anchors, ?_⟩
  have hwritten : String.join classed.written.toList = w.page ++ (w.lineEnd ++
      ("<h" ++ toString level) ++ (if w.titled then "" else " class=\"title\"")) := hpage
  rw [Writer.page, page_push, hwritten, headingStart]
  simp only [String.append_assoc]

/-- A heading that waits, and does not any more after some events, got its identifier from them. -/
theorem Follows.identifier (h : w.Follows text w') (hwaits : w.awaitingHeadingText = true)
    (hover : w'.awaitingHeadingText = false) :
    ∃ identifier, isPlain identifier.toList ∧
      w'.page = w.page ++ identifierText identifier ++ (String.join (w.held.getD []) ++ text) ∧
      w'.anchors.issued = identifier :: w.anchors.issued := by
  obtain ⟨identifier?, hplain, hview, hissued⟩ := h.view
  rw [view_of_settled hover, view_of_waiting hwaits] at hview
  cases identifier? with
  | none => exact absurd (congrArg View.held hview) (by simp [View.add, View.settle])
  | some identifier =>
      exact ⟨identifier, (hplain identifier rfl).2, congrArg View.page hview, hissued⟩

/-- The end of a heading settles it if nothing before did, and closes its element. -/
theorem follows_stopHeading (hw : w.IsReady) (level : Int) :
    w.Follows ("</h" ++ toString level ++ ">\n")
        (w.step highlighter (.stop (.heading level), false)) ∧
      (w.step highlighter (.stop (.heading level), false)).awaitingHeadingText = false := by
  obtain ⟨hprepared, -⟩ := follows_prepareHeading hw (.stop (.heading level)) (by simp)
  obtain ⟨hsettles, hover⟩ := follows_settle hprepared.ready ""
  have hstep : w.step highlighter (.stop (.heading level), false)
      = (if (w.prepareHeading (.stop (.heading level))).awaitingHeadingText then
          (w.prepareHeading (.stop (.heading level))).settleHeading ""
        else w.prepareHeading (.stop (.heading level))).write
          ("</h" ++ toString level ++ ">\n") := by
    rw [step_of_image_none highlighter hw.image]
    rfl
  generalize (if (w.prepareHeading (.stop (.heading level))).awaitingHeadingText then
      (w.prepareHeading (.stop (.heading level))).settleHeading ""
    else w.prepareHeading (.stop (.heading level))) = settled at hsettles hover hstep
  have hcloses := follows_of_continues hsettles.ready
    (fun hwaits => absurd hwaits (by simp [hover]))
    ((Continues.refl settled).write ("</h" ++ toString level ++ ">\n"))
  rw [hstep]
  refine ⟨((hprepared.trans hsettles).trans hcloses).congr ?_, (hcloses.page hover).1⟩
  rw [String.empty_append, String.empty_append, String.empty_append]

end Writer

/-! ## What a forest adds -/

/-- Outside of headings, events add parts to the page that show these headings, with this raw HTML.
The two flags tell whether the events begin and end inside a code block. -/
def Builds (highlighter : Option Highlighter) (inCode : Bool) (events : List (Event × Bool))
    (headings : List Heading) (raws : List String) (inCode' : Bool) : Prop :=
  ∀ w : Writer, w.IsOutside highlighter inCode →
    let w' := events.foldl (Writer.step highlighter) w
    w'.IsOutside highlighter inCode' ∧ w'.titled = (w.titled || decide (0 < headings.length)) ∧
      w'.anchors.size = w.anchors.size + headings.length ∧
      ∃ parts, w'.page = w.page ++ assemble parts ∧
        IsBuilt highlighter w.titled parts headings raws

section

variable {highlighter : Option Highlighter} {a b c : Bool} {headings headings' : List Heading}
  {raws raws' : List String}

theorem Builds.nil : Builds highlighter a [] [] [] a := by
  intro w hw
  refine ⟨hw, by simp, rfl, [], by simp [assemble], ?_⟩
  exact ⟨by simp, .nil, rfl, rfl⟩

theorem Builds.append {left right : List (Event × Bool)}
    (hleft : Builds highlighter a left headings raws b)
    (hright : Builds highlighter b right headings' raws' c) :
    Builds highlighter a (left ++ right) (headings ++ headings') (raws ++ raws') c := by
  intro w hw
  obtain ⟨hw', htitled, hsize, parts, hpage, hbuilt⟩ := hleft w hw
  obtain ⟨hw'', htitled', hsize', parts', hpage', hbuilt'⟩ := hright _ hw'
  rw [htitled] at hbuilt' htitled'
  dsimp only
  rw [List.foldl_append]
  refine ⟨hw'', ?_, ?_, parts ++ parts', ?_, hbuilt.append hbuilt'⟩
  · rw [htitled', Bool.or_assoc, List.length_append]
    congr 1
    rw [← Bool.decide_or, decide_eq_decide]
    omega
  · rw [hsize', hsize, List.length_append, Nat.add_assoc]
  · rw [hpage', hpage, assemble_append, String.append_assoc]

/-- What is woven into the page holds no headings of the document. -/
theorem Writer.IsOutside.weaves {w w' : Writer} {text : String} (hw : w.IsOutside highlighter a)
    (hfollows : w.Follows text w') (hwoven : Woven highlighter text raws)
    (hcode : IsQuiet highlighter b → w'.code = none) :
    w'.IsOutside highlighter b ∧
      w'.titled = (w.titled || decide (0 < ([] : List Heading).length)) ∧
      w'.anchors.size = w.anchors.size + ([] : List Heading).length ∧
      ∃ parts, w'.page = w.page ++ assemble parts ∧ IsBuilt highlighter w.titled parts [] raws := by
  obtain ⟨hsettled, hpage, hissued⟩ := hfollows.page hw.settled
  obtain ⟨parts, rfl, hbuilt⟩ := IsBuilt.stretches w.titled hwoven
  refine ⟨⟨hfollows.ready, hsettled, hcode⟩, ?_, ?_, parts, hpage, hbuilt⟩
  · rw [hfollows.titled]
    simp
  · exact congrArg List.length hissued

theorem AddsRow.builds {events : List (Event × Bool)} {worded : Bool} {markup : String}
    (h : AddsRow highlighter events raws worded markup) : Builds highlighter a events [] raws a := by
  intro w hw
  obtain ⟨text, hfollows, hwoven, -⟩ := h w hw.ready
  exact hw.weaves hfollows hwoven fun hquiet => hfollows.code (hw.code hquiet)

/-! ## Code blocks -/

theorem builds_startCode (info : Option String) :
    Builds highlighter a [(.start (.codeBlock info), false)] [] [] true := by
  intro w hw
  obtain ⟨begun, code, ⟨text, hcontinues, hcalm⟩, hstart, hnone⟩ :=
    Writer.startCode_eq highlighter info w
  have hfollows := Writer.follows_of_continues hw.ready
    (fun hwaits => absurd hwaits (by simp [hw.settled])) hcontinues
  obtain ⟨hsettled, hpage, hissued⟩ := hfollows.page hw.settled
  obtain ⟨parts, rfl, hbuilt⟩ := IsBuilt.stretches w.titled (Woven.calm hcalm)
  have hperform : w.perform highlighter false (.start (.codeBlock info))
      = { begun with code := code } := hstart
  dsimp only
  rw [List.foldl_cons, List.foldl_nil, hw.step, hperform]
  refine ⟨⟨⟨hfollows.ready.image, hfollows.ready.held⟩, hsettled, ?_⟩, ?_, ?_, parts, hpage, hbuilt⟩
  · -- inside a code block it is quiet only without a highlighter, and then no code is collected
    rintro (hplain | hfalse)
    · exact (hnone hplain).trans (hfollows.code (hw.code (.inl hplain)))
    · exact Bool.noConfusion hfalse
  · have htitled : begun.titled = w.titled := hfollows.titled
    simp [htitled]
  · exact congrArg List.length hissued

/-- The code that was collected is handed on as the highlighter made it. -/
theorem woven_flushCode (highlighter : Option Highlighter) (w : Writer) :
    ∃ text, w.Continues text (w.flushCode highlighter) ∧ Woven highlighter text [] := by
  unfold Writer.flushCode
  split
  · rename_i block highlight hcode
    have hclosed : w.Continues "" { w with code := none } :=
      ⟨(Writer.Extends.refl w).of_same rfl rfl rfl rfl rfl, rfl, fun _ => rfl⟩
    have hcontinues := hclosed.emit
      ((highlight block.content block.language).getD (escape block.content))
    refine ⟨_, hcontinues.of_same rfl rfl rfl rfl rfl rfl rfl, ?_⟩
    rw [String.empty_append]
    -- a highlighter that declines leaves the code to be escaped
    cases hresult : highlight block.content block.language with
    | none => exact Woven.calm (calm_escape block.content)
    | some markup => exact Woven.stretch (.highlighted markup) ⟨highlight, _, _, rfl, hresult⟩
  · exact ⟨"", Writer.Continues.refl w, Woven.empty⟩

/-- The end of a code block adds the code that was collected. -/
theorem builds_stopCode (info : Option String) :
    Builds highlighter true [(.stop (.codeBlock info), false)] [] [] b := by
  intro w hw
  obtain ⟨text, hcontinues, hwoven⟩ := woven_flushCode highlighter w
  have hclose := hcontinues.write "</code></pre>\n"
  have hfollows := Writer.follows_of_continues hw.ready
    (fun hwaits => absurd hwaits (by simp [hw.settled])) hclose
  have hend : IsCalm "</code></pre>\n" := fun _ => rfl
  have hperform : w.perform highlighter false (.stop (.codeBlock info))
      = (w.flushCode highlighter).write "</code></pre>\n" := rfl
  dsimp only
  rw [List.foldl_cons, List.foldl_nil, hw.step, hperform]
  refine hw.weaves hfollows (hwoven.append (Woven.calm hend)) fun _ => ?_
  -- with a highlighter the code was handed over, and without one none was collected
  cases hsome : highlighter.isSome with
  | true => exact Writer.code_write.trans (Writer.code_flushCode hsome w)
  | false =>
      have hnone : highlighter = none := by simpa using hsome
      exact hfollows.code (hw.code (.inl hnone))

/-! ## Headings -/

/-- A heading adds its element. -/
theorem builds_heading (level : Int) {children : List EventTree} (hinline : areInline children) :
    Builds highlighter a
      ((.start (.heading level), false) ::
        (forestMarked children ++ [(Event.stop (.heading level), false)]))
      [⟨level, children, a⟩] (forestRaw children) a := by
  intro w hw
  have hbegins := Writer.begins_startHeading hw.ready.image hw.held level
  have hperform : w.perform highlighter false (.start (.heading level)) = w.startHeading level := rfl
  dsimp only
  rw [List.foldl_cons, List.foldl_append, List.foldl_cons, List.foldl_nil, hw.step, hperform]
  generalize w.startHeading level = opened at hbegins ⊢
  have hchildren : AddsRow highlighter _ _ _ _ := addsRow_inlines children hinline
  obtain ⟨text, hfollows, hwoven, hmarkup⟩ := hchildren opened hbegins.ready
  generalize (forestMarked children).foldl (Writer.step highlighter) opened = inside at hfollows ⊢
  have hstop : inside.Follows _ (inside.step highlighter _) ∧ _ :=
    Writer.follows_stopHeading hfollows.ready level
  obtain ⟨hstops, hended⟩ := hstop
  have hall := hfollows.trans hstops
  generalize inside.step highlighter (.stop (.heading level), false) = after at hall hended ⊢
  obtain ⟨identifier, hplain, hpage, hissued⟩ := hall.identifier hbegins.awaiting hended
  obtain ⟨row, hrow, hgenuine, hraws⟩ := hwoven
  -- the line end before the heading and the one behind it are no part of its element
  have hline : Woven highlighter w.lineEnd [] := Woven.calm w.calm_lineEnd
  have hend : Woven highlighter "\n" [] := Woven.calm fun _ => rfl
  obtain ⟨before, hbefore, hbuilt⟩ := IsBuilt.stretches w.titled hline
  obtain ⟨behind, hbehind, hbuilt'⟩ := IsBuilt.stretches true hend
  have hrenders : Renders highlighter ⟨level, children, a⟩ ⟨level, w.titled, identifier, row⟩ :=
    ⟨rfl, fun hquiet hworded => hrow.trans (hmarkup (hbegins.code (hw.code hquiet)) hworded)⟩
  have helement := IsBuilt.heading hplain hgenuine hrenders
  rw [hraws] at helement
  have hparts := (hbuilt.append (by simpa using helement)).append (by simpa using hbuilt')
  refine ⟨⟨hall.ready, hended, ?_⟩, ?_, ?_, _, ?_, hparts.congr rfl (List.append_nil _)⟩
  · intro hquiet
    exact hall.code (hbegins.code (hw.code hquiet))
  · rw [hall.titled, hbegins.titled]
    simp
  · rw [Anchors.size, hissued, hbegins.anchors]
    rfl
  · have hheld : String.join (opened.held.getD []) = "" := by
      rw [hbegins.held]
      rfl
    rw [hpage, hbegins.page, hheld, String.empty_append, assemble_heading hbehind, hbefore, hrow]
    simp only [String.append_assoc]

/-! ## Forests -/

/-- A construct that holds no line adds the parts of its content between its start and its end. -/
theorem builds_node {tag : Tag} (hline : tag.holdsLine = false) {children : List EventTree}
    (hinner : Builds highlighter (a || tag.isCode) (forestMarked children)
      (forestHeadings (a || tag.isCode) children) (forestRaw children) (a || tag.isCode)) :
    Builds highlighter a
      ((.start tag, false) :: (forestMarked children ++ [(Event.stop tag, false)]))
      (treeHeadings a (.node tag children)) (treeRaw (.node tag children)) a := by
  have hraw : treeRaw (.node tag children) = forestRaw children := by
    apply treeRaw_node
    rintro dest title rfl
    exact Bool.noConfusion hline
  rw [treeHeadings_node hline, hraw]
  cases hcode : tag.isCode with
  | true =>
      cases tag with
      | codeBlock info =>
          rw [hcode, Bool.or_true] at hinner
          have hall := (builds_startCode (a := a) info).append
            (hinner.append (builds_stopCode (b := a) info))
          simpa using hall
      | _ => exact Bool.noConfusion hcode
  | false =>
      rw [hcode, Bool.or_false] at hinner
      have hall := (addsRow_startTag false hline hcode).builds.append
        (hinner.append (addsRow_stopTag hline hcode).builds)
      simpa using hall

mutual

/-- A tree outside of headings adds its headings. -/
theorem builds_tree : ∀ (tree : EventTree) (inCode : Bool), tree.isFlow →
    Builds highlighter inCode (treeMarked tree) (treeHeadings inCode tree) (treeRaw tree) inCode
  | .leaf leaf, _, _ => (addsRow_leaf leaf).builds
  | .node tag children, inCode, hflow => by
      rw [EventTree.isFlow] at hflow
      cases hline : tag.holdsLine with
      | true =>
          rw [hline, if_pos rfl] at hflow
          cases tag with
          | heading level =>
              rw [treeMarked_node (by simp)]
              exact builds_heading level hflow
          | image dest title =>
              rw [treeMarked_node (by simp)]
              exact (addsRow_image false dest title hflow).builds
          | _ => exact Bool.noConfusion hline
      | false =>
          rw [hline, if_neg Bool.false_ne_true] at hflow
          have hinner := builds_forest children (inCode || tag.isCode) hflow
          by_cases hparagraph : tag = .paragraph
          · subst hparagraph
            by_cases hfigure : ∃ dest title alt,
                children = [.node (.image dest title) [.leaf (.text alt)]]
            · -- a figure is its image
              obtain ⟨dest, title, alt, rfl⟩ := hfigure
              have hinline : areInline [.leaf (.text alt)] := rfl
              exact (addsRow_image true dest title hinline).builds
            · rw [treeMarked_paragraph fun dest title alt heq => hfigure ⟨dest, title, alt, heq⟩]
              exact builds_node hline hinner
          · rw [treeMarked_node hparagraph]
            exact builds_node hline hinner

/-- A forest outside of headings adds its headings. -/
theorem builds_forest : ∀ (trees : List EventTree) (inCode : Bool), areFlow trees →
    Builds highlighter inCode (forestMarked trees) (forestHeadings inCode trees) (forestRaw trees)
      inCode
  | [], _, _ => Builds.nil
  | tree :: rest, inCode, hflow => by
      rw [areFlow, Bool.and_eq_true] at hflow
      exact (builds_tree tree inCode hflow.1).append (builds_forest rest inCode hflow.2)

end

end

/-! ## The page of a document -/

/-- The page of a document is made of parts that show the document's headings, with the raw HTML of
the document, and as many identifiers are issued as there are headings. -/
theorem built_render (highlighter : Option Highlighter) {trees : List EventTree}
    (hflow : areFlow trees) :
    (Writer.ofEvents highlighter (forestEvents trees)).anchors.size
        = (forestHeadings false trees).length ∧
      ∃ parts, assemble parts = render highlighter (forestEvents trees) ∧
        IsBuilt highlighter false parts (forestHeadings false trees) (forestRaw trees) := by
  have hstart : ({} : Writer).IsOutside highlighter false :=
    ⟨⟨rfl, fun _ => rfl⟩, rfl, fun _ => rfl⟩
  obtain ⟨hend, -, hsize, parts, hpage, hbuilt⟩ := builds_forest trees false hflow {} hstart
  have hrun : Writer.ofEvents highlighter (forestEvents trees)
      = (forestMarked trees).foldl (Writer.step highlighter) {} := by
    rw [Writer.ofEvents, markStandalone_forest, Writer.finish, hend.ready.image]
  have hempty : ({} : Writer).page = "" := rfl
  have hnone : ({} : Writer).anchors.size = 0 := rfl
  rw [hempty, String.empty_append] at hpage
  rw [hnone, Nat.zero_add] at hsize
  rw [render, hrun]
  exact ⟨hsize, parts, hpage.symm, hbuilt⟩

end StaticSite.Html
