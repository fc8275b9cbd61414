import StaticSite.Proofs.Html.HeadingElement
import StaticSite.Proofs.Markdown.Place

/-!
# Definitions on a page under way

Inside a footnote's definition the writer leaves out the tags of paragraphs. It remembers that it is
inside from where a definition begins to where one ends; nothing else has a say in it.

## What this module delivers

- `inDefinition_step`: what one event does to the memory.
- `inDefinition_forest`: what a forest does to it, by induction on its trees.
- `openingMarked`, `outside_opening`: the writer in a place of a document.
-/

set_option autoImplicit false

namespace StaticSite.Html

open StaticSite.Markdown

namespace Writer

variable {w : Writer} {text : String} {highlighter : Option Highlighter}

/-! ## Operations -/

@[simp] theorem inDefinition_emit : (w.emit text).inDefinition = w.inDefinition := by
  unfold emit
  split <;> rfl

@[simp] theorem inDefinition_write : (w.write text).inDefinition = w.inDefinition := by
  unfold write
  dsimp only
  split <;> exact inDefinition_emit

@[simp] theorem inDefinition_writeText : (w.writeText text).inDefinition = w.inDefinition :=
  inDefinition_emit

@[simp] theorem inDefinition_writeBlock : (w.writeBlock text).inDefinition = w.inDefinition :=
  inDefinition_write

@[simp] theorem inDefinition_settleHeading :
    (w.settleHeading text).inDefinition = w.inDefinition := by
  obtain ⟨written, hsame, -⟩ := settleHeading_spec w text
  rw [hsame]

@[simp] theorem inDefinition_startHeading (level : Int) :
    (w.startHeading level).inDefinition = w.inDefinition := by
  unfold startHeading
  simp only [inDefinition_emit]
  split <;> split <;> simp

@[simp] theorem inDefinition_prepareHeading (event : Event) :
    (w.prepareHeading event).inDefinition = w.inDefinition := by
  unfold prepareHeading
  split
  · split
    · rfl
    · exact inDefinition_settleHeading
    · split <;> rfl
  · rfl

@[simp] theorem inDefinition_footnoteReference (label : String) :
    (w.footnoteReference label).inDefinition = w.inDefinition := by
  simp [footnoteReference, footnoteNumber]

@[simp] theorem inDefinition_startCode (info : Option String) :
    (w.startCode highlighter info).inDefinition = w.inDefinition := by
  unfold startCode
  dsimp only
  split
  · rw [inDefinition_write]
    split <;> simp
  · split
    · simp only [inDefinition_write, inDefinition_emit]
      split <;> simp
    · simp only [inDefinition_write, inDefinition_emit]
      split <;> simp

@[simp] theorem inDefinition_flushCode :
    (w.flushCode highlighter).inDefinition = w.inDefinition := by
  unfold flushCode
  split <;> simp

@[simp] theorem inDefinition_startImage (dest title : String) (standalone : Bool) :
    (w.startImage dest title standalone).inDefinition = w.inDefinition := by
  unfold startImage
  simp only [inDefinition_write, inDefinition_emit]
  split <;> simp

@[simp] theorem inDefinition_finishImage (image : OpenImage) :
    (w.finishImage image).inDefinition = w.inDefinition := by
  unfold finishImage
  dsimp only
  split <;> split <;> simp

@[simp] theorem inDefinition_altStep (image : OpenImage) (event : Event) :
    (w.altStep image event).inDefinition = w.inDefinition := by
  cases event with
  | stop tag =>
      unfold altStep
      dsimp only
      split <;> simp
  | _ => simp [altStep, footnoteNumber]

@[simp] theorem inDefinition_text : (w.text text).inDefinition = w.inDefinition := by
  unfold Writer.text
  dsimp only
  split <;> split <;> simp [*]

/-! ## Events -/

/-- The start of a definition is remembered, and no other start. -/
theorem inDefinition_startTag (standalone : Bool) (tag : Tag) :
    (w.startTag highlighter standalone tag).inDefinition
      = (Event.start tag).definition?.getD w.inDefinition := by
  cases tag with
  | paragraph =>
      unfold startTag
      dsimp only
      split <;> simp [Event.definition?]
  | list first =>
      cases first with
      | none => simp [startTag, Event.definition?]
      | some first =>
          unfold startTag
          dsimp only
          split <;> simp [Event.definition?]
  | link form dest title =>
      unfold startTag
      dsimp only
      rw [inDefinition_write]
      split <;> simp [Event.definition?]
  | footnoteDefinition label =>
      simp [startTag, startDefinition, footnoteNumber, Event.definition?]
  | _ => simp [startTag, Event.definition?]

theorem inDefinition_stopTag (tag : Tag) :
    (w.stopTag highlighter tag).inDefinition
      = (Event.stop tag).definition?.getD w.inDefinition := by
  cases tag with
  | paragraph =>
      unfold stopTag
      dsimp only
      split <;> simp [Event.definition?]
  | heading level =>
      unfold stopTag
      dsimp only
      rw [inDefinition_write]
      split <;> simp [Event.definition?]
  | list first => cases first <;> simp [stopTag, Event.definition?]
  | _ => simp [stopTag, Event.definition?]

theorem inDefinition_perform (standalone : Bool) (event : Event) :
    (w.perform highlighter standalone event).inDefinition
      = event.definition?.getD w.inDefinition := by
  cases event with
  | start tag => exact inDefinition_startTag standalone tag
  | stop tag => exact inDefinition_stopTag tag
  | taskMarker checked => cases checked <;> simp [perform, Event.definition?]
  | _ => simp [perform, Event.definition?]

/-- Outside of images the writer remembers what the event says about definitions. -/
theorem inDefinition_step (himage : w.image = none) (event : Event) (standalone : Bool) :
    (w.step highlighter (event, standalone)).inDefinition
      = event.definition?.getD w.inDefinition := by
  rw [step_of_image_none highlighter himage, inDefinition_perform, inDefinition_prepareHeading]

/-- An event that says nothing about definitions changes nothing, in images or outside. -/
theorem inDefinition_step_of_none {marked : Event × Bool} (h : marked.1.definition? = none) :
    (w.step highlighter marked).inDefinition = w.inDefinition := by
  obtain ⟨event, standalone⟩ := marked
  cases himage : w.image with
  | some image => rw [step_of_image highlighter himage, inDefinition_altStep]
  | none => rw [inDefinition_step himage, show event.definition? = none from h, Option.getD_none]

theorem inDefinition_run_of_none {events : List (Event × Bool)}
    (h : ∀ marked ∈ events, marked.1.definition? = none) :
    (events.foldl (step highlighter) w).inDefinition = w.inDefinition := by
  induction events generalizing w with
  | nil => rfl
  | cons marked rest ih =>
      obtain ⟨hmarked, hrest⟩ := List.forall_mem_cons.mp h
      rw [List.foldl_cons, ih hrest, inDefinition_step_of_none hmarked]

end Writer

/-! ## Forests -/

section

variable {highlighter : Option Highlighter} {inCode : Bool}

theorem builds_startTag {tag : Tag} (hline : tag.holdsLine = false) :
    Builds highlighter inCode [(.start tag, false)] [] [] (inCode || tag.isCode) := by
  cases hcode : tag.isCode with
  | true =>
      cases tag with
      | codeBlock info =>
          rw [Bool.or_true]
          exact builds_startCode info
      | _ => exact Bool.noConfusion hcode
  | false =>
      rw [Bool.or_false]
      exact (addsRow_startTag false hline hcode).builds

/-- A construct that holds a line of text says nothing about definitions. -/
theorem inDefinition_line {w : Writer} {tag : Tag} {children : List EventTree}
    (htag : (Event.start tag).definition? = none ∧ (Event.stop tag).definition? = none)
    (hinline : areInline children) :
    ((treeMarked (.node tag children)).foldl (Writer.step highlighter) w).inDefinition
      = definitionState w.inDefinition (EventTree.node tag children).events := by
  have hnone : ∀ event ∈ (EventTree.node tag children).events, event.definition? = none := by
    intro event hevent
    rw [events_node, List.mem_cons, List.mem_append, List.mem_singleton] at hevent
    rcases hevent with rfl | hevent | rfl
    · exact htag.1
    · exact definition?_of_inline (isInline_forestEvents children hinline event hevent)
    · exact htag.2
  rw [definitionState_of_none hnone]
  apply Writer.inDefinition_run_of_none
  intro marked hmarked
  exact hnone marked.1 (mem_treeMarked hmarked)

/-- A construct that holds no line says what its start, its content and its end say. -/
theorem inDefinition_node {w : Writer} (hw : w.IsOutside highlighter inCode) {tag : Tag}
    (hline : tag.holdsLine = false) {children : List EventTree} (hflow : areFlow children)
    (hinner : ∀ v : Writer, v.IsOutside highlighter (inCode || tag.isCode) →
      ((forestMarked children).foldl (Writer.step highlighter) v).inDefinition
        = definitionState v.inDefinition (forestEvents children)) :
    (((Event.start tag, false) :: (forestMarked children ++ [(Event.stop tag, false)])).foldl
        (Writer.step highlighter) w).inDefinition
      = definitionState w.inDefinition (EventTree.node tag children).events := by
  obtain ⟨hstart, -⟩ := builds_startTag hline w hw
  rw [List.foldl_cons, List.foldl_nil] at hstart
  obtain ⟨hinside, -⟩ := builds_forest children (inCode || tag.isCode) hflow _ hstart
  rw [events_node, definitionState_cons, definitionState_append, List.foldl_cons,
    List.foldl_append, List.foldl_cons, List.foldl_nil,
    Writer.inDefinition_step hinside.ready.image, hinner _ hstart,
    Writer.inDefinition_step hw.ready.image]
  rfl

mutual

theorem inDefinition_tree : ∀ (tree : EventTree) (inCode : Bool) (w : Writer), tree.isFlow →
    w.IsOutside highlighter inCode →
      ((treeMarked tree).foldl (Writer.step highlighter) w).inDefinition
        = definitionState w.inDefinition tree.events
  | .leaf leaf, _, w, _, hw => by
      rw [treeMarked, List.foldl_cons, List.foldl_nil, Writer.inDefinition_step hw.ready.image]
      rfl
  | .node tag children, inCode, w, hflow, hw => by
      rw [EventTree.isFlow] at hflow
      cases hline : tag.holdsLine with
      | true =>
          rw [hline, if_pos rfl] at hflow
          apply inDefinition_line _ hflow
          cases tag with
          | footnoteDefinition label => exact Bool.noConfusion hline
          | _ => exact ⟨rfl, rfl⟩
      | false =>
          rw [hline, if_neg Bool.false_ne_true] at hflow
          have hinner : ∀ v : Writer, v.IsOutside highlighter (inCode || tag.isCode) → _ :=
            fun v hv => inDefinition_forest children (inCode || tag.isCode) v hflow hv
          by_cases hparagraph : tag = .paragraph
          · subst hparagraph
            by_cases hfigure : ∃ dest title alt,
                children = [.node (.image dest title) [.leaf (.text alt)]]
            · obtain ⟨dest, title, alt, rfl⟩ := hfigure
              exact inDefinition_line ⟨rfl, rfl⟩ rfl
            · rw [treeMarked_paragraph fun dest title alt heq => hfigure ⟨dest, title, alt, heq⟩]
              exact inDefinition_node hw hline hflow hinner
          · rw [treeMarked_node hparagraph]
            exact inDefinition_node hw hline hflow hinner

/-- After a forest the writer remembers what the forest says about definitions. -/
theorem inDefinition_forest : ∀ (trees : List EventTree) (inCode : Bool) (w : Writer),
    areFlow trees → w.IsOutside highlighter inCode →
      ((forestMarked trees).foldl (Writer.step highlighter) w).inDefinition
        = definitionState w.inDefinition (forestEvents trees)
  | [], _, _, _, _ => rfl
  | tree :: rest, inCode, w, hflow, hw => by
      rw [areFlow, Bool.and_eq_true] at hflow
      obtain ⟨hnext, -⟩ := builds_tree tree inCode hflow.1 w hw
      rw [forestMarked, List.foldl_append, inDefinition_forest rest inCode _ hflow.2 hnext,
        inDefinition_tree tree inCode w hflow.1 hw, forestEvents_cons, definitionState_append]

end

/-! ## Places -/

/-- The events before a place, with the standalone images marked. -/
def openingMarked : List Level → List (Event × Bool)
  | [] => []
  | level :: path =>
    forestMarked level.left ++ (.start level.tag, false) :: openingMarked path

/-- In a place that no heading and no image is on the way to, the writer stands between two events,
and remembers what was said about definitions on the way. -/
theorem outside_opening {path : List Level}
    (hpath : ∀ level ∈ path, level.tag.holdsLine = false ∧ areFlow level.left) :
    ∀ (inCode : Bool) (w : Writer), w.IsOutside highlighter inCode →
      ((openingMarked path).foldl (Writer.step highlighter) w).IsOutside highlighter
          (inCode || path.any fun level => level.tag.isCode) ∧
        ((openingMarked path).foldl (Writer.step highlighter) w).inDefinition
          = definitionState w.inDefinition (opening path) := by
  induction path with
  | nil =>
      intro inCode w hw
      simpa [openingMarked, opening, definitionState] using hw
  | cons level path ih =>
      intro inCode w hw
      obtain ⟨⟨hline, hflow⟩, hrest⟩ := List.forall_mem_cons.mp hpath
      obtain ⟨hleft, -⟩ := builds_forest level.left inCode hflow w hw
      obtain ⟨hstart, -⟩ := builds_startTag hline _ hleft
      obtain ⟨hplace, hstate⟩ := ih hrest _ _ hstart
      rw [openingMarked, List.foldl_append, List.foldl_cons]
      refine ⟨?_, ?_⟩
      · rw [List.any_cons, ← Bool.or_assoc]
        exact hplace
      · rw [opening, definitionState_append, definitionState_cons,
          ← inDefinition_forest level.left inCode w hflow hw,
          ← Writer.inDefinition_step hleft.ready.image]
        exact hstate

end

end StaticSite.Html
