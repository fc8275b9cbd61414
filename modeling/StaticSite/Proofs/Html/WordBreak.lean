import StaticSite.Proofs.Html.Growth
import StaticSite.Proofs.Html.OpenDefinition
import StaticSite.Text.Blank

/-!
# Breaks between words

Two words on a page are kept apart by a blank between them or by a tag. In a line of text nearly
every event puts one there: only text without a blank does not, and raw HTML that is such a text.
The tags of paragraphs do too, but the writer leaves them out inside a footnote's definition.

## What this module delivers

- `HasBreak`, with `hasBreak_append` and `hasBreak_escape`: markup that keeps words apart.
- `Fills`, with `Fills.append`: events within a block, with a condition for the break they put.
- `fills_forest`: what may stand in a line, by induction on its trees.
- `fills_opening`, `fills_closing`: the events around a place in a line.
- `fills_startParagraph`, `fills_stopParagraph`: the tags of paragraphs.
-/

set_option autoImplicit false

namespace StaticSite.Html

open StaticSite.Markdown StaticSite.Text

/-! ## Breaks -/

/-- Whether markup keeps the words on its two sides apart: there is a blank in it, or a tag. -/
def HasBreak (markup : String) : Prop :=
  ∃ c ∈ markup.toList, c = '<' ∨ isBlank c

theorem hasBreak_iff_any (markup : String) :
    HasBreak markup ↔ markup.toList.any fun c => c == '<' || isBlank c := by
  simp [HasBreak, List.any_eq_true]

instance (markup : String) : Decidable (HasBreak markup) :=
  decidable_of_iff _ (hasBreak_iff_any markup).symm

theorem hasBreak_append {markup more : String} :
    HasBreak (markup ++ more) ↔ HasBreak markup ∨ HasBreak more := by
  simp only [HasBreak, String.toList_append, List.mem_append, or_and_right, exists_or]

theorem not_hasBreak_empty : ¬ HasBreak "" := by
  decide

/-- An escape puts no blank where there was none. -/
theorem any_escapeChar (d : Char) :
    (escapeChar d).any (fun c => c == '<' || isBlank c) = isBlank d := by
  unfold escapeChar
  split
  · rename_i h
    subst h
    rfl
  · split
    · rename_i h
      subst h
      rfl
    · rename_i hopen
      split
      · rename_i h
        subst h
        rfl
      · split
        · rename_i h
          subst h
          rfl
        · simp [hopen]

/-- In escaped text only the blanks of the text keep words apart. -/
theorem hasBreak_escape (content : String) :
    HasBreak (escape content) ↔ content.toList.any isBlank := by
  rw [hasBreak_iff_any, escape, String.toList_ofList, List.any_flatMap]
  simp only [any_escapeChar]

/-- Whether an event of a line keeps the words on its two sides apart. -/
def breaksWords : Event → Bool
  | .text content => content.toList.any isBlank
  | .html content => content.toList.any fun c => c == '<' || isBlank c
  | _ => true

/-! ## Events within a block -/

/-- Wherever the writer is between two events, the events add markup to the page, and leave it in
the definition that it is in. Whether the markup keeps words apart may depend on whether it is in
one. -/
def Fills (highlighter : Option Highlighter) (events : List (Event × Bool)) (breaks : Bool → Prop) :
    Prop :=
  ∀ w : Writer, w.IsOutside none false →
    (events.foldl (Writer.step highlighter) w).IsOutside none false ∧
    (events.foldl (Writer.step highlighter) w).inDefinition = w.inDefinition ∧
    ∃ markup, (events.foldl (Writer.step highlighter) w).page = w.page ++ markup ∧
      (HasBreak markup ↔ breaks w.inDefinition)

section

variable {highlighter : Option Highlighter} {breaks more : Bool → Prop}

theorem Fills.nil : Fills highlighter [] fun _ => False := by
  intro w hw
  exact ⟨hw, rfl, "", by simp, by simp [not_hasBreak_empty]⟩

theorem Fills.append {left right : List (Event × Bool)} (hleft : Fills highlighter left breaks)
    (hright : Fills highlighter right more) :
    Fills highlighter (left ++ right) fun state => breaks state ∨ more state := by
  intro w hw
  obtain ⟨hout, hstate, markup, hpage, hbreak⟩ := hleft w hw
  obtain ⟨hout', hstate', markup', hpage', hbreak'⟩ := hright _ hout
  rw [List.foldl_append]
  refine ⟨hout', hstate'.trans hstate, markup ++ markup', ?_, ?_⟩
  · rw [hpage', hpage, String.append_assoc]
  · rw [hasBreak_append, hbreak, hbreak', hstate]

theorem Fills.congr {events : List (Event × Bool)} (h : Fills highlighter events breaks)
    (hbreaks : ∀ state, breaks state ↔ more state) : Fills highlighter events more := by
  intro w hw
  obtain ⟨hout, hstate, markup, hpage, hbreak⟩ := h w hw
  exact ⟨hout, hstate, markup, hpage, hbreak.trans (hbreaks _)⟩

/-- One event, which finds no heading in its way. -/
theorem Fills.event {event : Event} {standalone : Bool} (hevent : event.definition? = none)
    (h : ∀ w : Writer, w.IsOutside none false → ∃ markup,
      w.Continues markup (w.perform highlighter standalone event) ∧
        (HasBreak markup ↔ breaks w.inDefinition)) :
    Fills highlighter [(event, standalone)] breaks := by
  intro w hw
  obtain ⟨markup, hcontinues, hbreak⟩ := h w hw
  have hfollows := Writer.follows_of_continues hw.ready
    (fun hwaits => absurd hwaits (by simp [hw.settled])) hcontinues
  obtain ⟨hsettled, hpage, -⟩ := hfollows.page hw.settled
  rw [List.foldl_cons, List.foldl_nil]
  refine ⟨?_, Writer.inDefinition_step_of_none hevent, markup, ?_, hbreak⟩
  · rw [Writer.step_of_image_none highlighter hw.ready.image,
      Writer.prepareHeading_of_settled hw.settled]
    exact ⟨hfollows.ready, hsettled, fun hquiet => hfollows.code (hw.code hquiet)⟩
  · rw [Writer.step_of_image_none highlighter hw.ready.image,
      Writer.prepareHeading_of_settled hw.settled]
    exact hpage

/-! ## Lines of text -/

/-- An event that adds a tag. -/
theorem Fills.tag {event : Event} (hevent : event.definition? = none)
    (hbreaks : breaksWords event = true)
    (h : ∀ w : Writer, ∃ markup, w.Continues markup (w.perform highlighter false event) ∧
      HasBreak markup) :
    Fills highlighter [(event, false)] fun _ => breaksWords event := by
  apply Fills.event hevent
  intro w _
  obtain ⟨markup, hcontinues, hbreak⟩ := h w
  exact ⟨markup, hcontinues, iff_of_true hbreak hbreaks⟩

/-- A tag that is written as it is. -/
theorem Fills.written {event : Event} (text : String) (hevent : event.definition? = none)
    (hbreaks : breaksWords event = true) (hbreak : HasBreak text)
    (h : ∀ w : Writer, w.perform highlighter false event = w.write text) :
    Fills highlighter [(event, false)] fun _ => breaksWords event := by
  apply Fills.tag hevent hbreaks
  intro w
  refine ⟨text, ?_, hbreak⟩
  rw [h w]
  exact ((Writer.Continues.refl w).write text).congr String.empty_append

theorem fills_text (content : String) :
    Fills highlighter [(.text content, false)] fun _ => breaksWords (.text content) := by
  apply Fills.event rfl
  intro w hw
  exact ⟨escape content, Writer.continues_text content hw.settled (hw.code (.inl rfl)),
    hasBreak_escape content⟩

theorem fills_html (content : String) :
    Fills highlighter [(.html content, false)] fun _ => breaksWords (.html content) := by
  apply Fills.event rfl
  intro w _
  refine ⟨content, ((Writer.Continues.refl w).write content).congr String.empty_append, ?_⟩
  simp [HasBreak, breaksWords]

theorem fills_code (content : String) :
    Fills highlighter [(.code content, false)] fun _ => breaksWords (.code content) := by
  apply Fills.tag rfl rfl
  intro w
  have hall := (((Writer.Continues.refl w).write "<code>").emit (escape content)).write "</code>"
  refine ⟨_, hall, ?_⟩
  simp only [hasBreak_append]
  exact .inr (by decide)

theorem fills_softBreak :
    Fills highlighter [(.softBreak, false)] fun _ => breaksWords .softBreak := by
  apply Fills.tag rfl rfl
  intro w
  have hline : w.Continues "" { w with atLineStart := true } :=
    (Writer.Continues.refl w).of_same rfl rfl rfl rfl rfl rfl rfl
  exact ⟨"\n", (hline.emit "\n").congr String.empty_append, by decide⟩

theorem fills_footnoteReference (label : String) :
    Fills highlighter [(.footnoteReference label, false)]
      fun _ => breaksWords (.footnoteReference label) := by
  apply Fills.tag rfl rfl
  intro w
  have hcounted : w.Continues "" (w.footnoteNumber label).2 :=
    (Writer.Continues.refl w).of_same rfl rfl rfl rfl rfl rfl rfl
  have hall := (((hcounted.emit ("<sup class=\"footnote-reference\" id=\"r." ++ escape label ++
    "\"><a href=\"#f." ++ escape label)).write "\">").emit
      (toString (w.footnoteNumber label).1)).write "</a></sup>"
  refine ⟨_, hall, ?_⟩
  simp only [hasBreak_append]
  exact .inr (by decide)

/-- An event of a line that encloses nothing. -/
theorem fills_leaf : ∀ leaf : Leaf, leaf.isInline →
    Fills highlighter [(leaf.event, false)] fun _ => breaksWords leaf.event
  | .text content, _ => fills_text content
  | .code content, _ => fills_code content
  | .html content, _ => fills_html content
  | .softBreak, _ => fills_softBreak
  | .hardBreak, _ => Fills.written "<br />\n" rfl rfl (by decide) fun _ => rfl
  | .rule, hinline => Bool.noConfusion hinline
  | .footnoteReference label, _ => fills_footnoteReference label
  | .taskMarker true, _ =>
      Fills.written "<input disabled=\"\" type=\"checkbox\" checked=\"\"/>\n" rfl rfl (by decide)
        fun _ => rfl
  | .taskMarker false, _ =>
      Fills.written "<input disabled=\"\" type=\"checkbox\"/>\n" rfl rfl (by decide) fun _ => rfl

/-- The start of a construct of a line, unless it is an image. -/
theorem fills_start {tag : Tag} (hinline : tag.isInline)
    (himage : ∀ dest title, tag ≠ .image dest title) :
    Fills highlighter [(.start tag, false)] fun _ => breaksWords (.start tag) := by
  cases tag with
  | emphasis => exact Fills.written "<em>" rfl rfl (by decide) fun _ => rfl
  | strong => exact Fills.written "<strong>" rfl rfl (by decide) fun _ => rfl
  | strikethrough => exact Fills.written "<del>" rfl rfl (by decide) fun _ => rfl
  | link form dest title =>
      apply Fills.tag rfl rfl
      intro w
      refine ⟨_, Writer.continues_startLink form dest title highlighter false w, ?_⟩
      simp only [Writer.linkFront, hasBreak_append]
      refine .inl (.inl (.inl ?_))
      split <;> decide
  | image dest title => exact absurd rfl (himage dest title)
  | _ => exact Bool.noConfusion hinline

theorem fills_stop {tag : Tag} (hinline : tag.isInline)
    (himage : ∀ dest title, tag ≠ .image dest title) :
    Fills highlighter [(.stop tag, false)] fun _ => breaksWords (.stop tag) := by
  cases tag with
  | emphasis => exact Fills.written "</em>" rfl rfl (by decide) fun _ => rfl
  | strong => exact Fills.written "</strong>" rfl rfl (by decide) fun _ => rfl
  | strikethrough => exact Fills.written "</del>" rfl rfl (by decide) fun _ => rfl
  | link form dest title => exact Fills.written "</a>" rfl rfl (by decide) fun _ => rfl
  | image dest title => exact absurd rfl (himage dest title)
  | _ => exact Bool.noConfusion hinline

/-- The front of an image goes to the page at its start. -/
theorem page_startImage {w : Writer} (hheld : w.held = none) (dest title : String) :
    (w.startImage dest title false).page
      = w.page ++ ("<img src=\"" ++ escapeHref dest ++ "\" alt=\"") := by
  have hfront := (((Writer.Continues.refl w).write "<img src=\"").emit (escapeHref dest)).write
    "\" alt=\""
  obtain ⟨-, hpage⟩ := hfront.grows.page hheld
  rw [String.empty_append] at hpage
  exact hpage

/-- An image is a tag, whatever it encloses. -/
theorem fills_image (dest title : String) {children : List EventTree}
    (hinline : areInline children) :
    Fills highlighter (treeMarked (.node (.image dest title) children)) fun _ => True := by
  have hmarked : treeMarked (.node (.image dest title) children) = _ :=
    treeMarked_node (by simp) children
  have hrow : AddsRow highlighter _ _ _ _ := addsRow_image false dest title hinline
  rw [← hmarked] at hrow
  intro w hw
  obtain ⟨markup, hfollows, -⟩ := hrow w hw.ready
  obtain ⟨hsettled, hpage, -⟩ := hfollows.page hw.settled
  refine ⟨⟨hfollows.ready, hsettled, fun hquiet => hfollows.code (hw.code hquiet)⟩, ?_, markup,
    hpage, iff_of_true ?_ trivial⟩
  · apply Writer.inDefinition_run_of_none
    intro marked hm
    have hline : (EventTree.node (.image dest title) children).isInline := by
      rw [EventTree.isInline, hinline]
      rfl
    exact definition?_of_inline (isInline_events _ hline _ (mem_treeMarked hm))
  · -- the front is on the page before the rest of the image, and stays there
    have hstart : w.step highlighter (.start (.image dest title), false)
        = w.startImage dest title false := by
      rw [Writer.step_of_image_none highlighter hw.ready.image,
        Writer.prepareHeading_of_settled hw.settled]
      rfl
    obtain ⟨more, hmore⟩ := Writer.page_run (w.startImage dest title false) highlighter
      (forestMarked children ++ [(Event.stop (.image dest title), false)])
    rw [hmarked, List.foldl_cons, hstart, hmore, page_startImage hw.held, String.append_assoc,
      String.append_right_inj] at hpage
    rw [← hpage]
    simp only [hasBreak_append]
    exact .inl (.inl (.inl (by decide)))

/-! ## Places in a line -/

/-- Whether one of the events keeps words apart. -/
def SomeBreak (events : List Event) : Prop :=
  ∃ event ∈ events, breaksWords event

theorem someBreak_append {events more : List Event} :
    SomeBreak (events ++ more) ↔ SomeBreak events ∨ SomeBreak more := by
  simp only [SomeBreak, List.mem_append, or_and_right, exists_or]

theorem someBreak_cons {event : Event} {rest : List Event} :
    SomeBreak (event :: rest) ↔ breaksWords event ∨ SomeBreak rest := by
  simp [SomeBreak]

theorem someBreak_singleton {event : Event} : SomeBreak [event] ↔ breaksWords event := by
  simp [SomeBreak]

mutual

/-- What may stand in a line puts the breaks of its events. -/
theorem fills_tree : ∀ tree : EventTree, tree.isInline →
    Fills highlighter (treeMarked tree) fun _ => SomeBreak tree.events
  | .leaf leaf, hinline => by
      apply (fills_leaf leaf hinline).congr
      intro _
      rw [events_leaf, someBreak_singleton]
  | .node tag children, hinline => by
      rw [EventTree.isInline, Bool.and_eq_true] at hinline
      obtain ⟨htag, hchildren⟩ := hinline
      by_cases himage : ∃ dest title, tag = .image dest title
      · obtain ⟨dest, title, rfl⟩ := himage
        apply (fills_image dest title hchildren).congr
        intro _
        rw [events_node, someBreak_cons]
        exact iff_of_true trivial (.inl rfl)
      · have hno : ∀ dest title, tag ≠ .image dest title :=
          fun dest title heq => himage ⟨dest, title, heq⟩
        have hparagraph : tag ≠ .paragraph := by
          rintro rfl
          exact Bool.noConfusion htag
        rw [treeMarked_node hparagraph]
        apply ((fills_start htag hno).append
          ((fills_forest children hchildren).append (fills_stop htag hno))).congr
        intro _
        rw [events_node, someBreak_cons, someBreak_append, someBreak_singleton]

theorem fills_forest : ∀ trees : List EventTree, areInline trees →
    Fills highlighter (forestMarked trees) fun _ => SomeBreak (forestEvents trees)
  | [], _ => by
      apply Fills.nil.congr
      intro _
      simp [SomeBreak]
  | tree :: rest, hinline => by
      rw [areInline, Bool.and_eq_true] at hinline
      apply ((fills_tree tree hinline.1).append (fills_forest rest hinline.2)).congr
      intro _
      rw [forestEvents_cons, someBreak_append]

end

/-- The events behind a place, with the standalone images marked. -/
def closingMarked : List Level → List (Event × Bool)
  | [] => []
  | level :: path =>
    closingMarked path ++ (.stop level.tag, false) :: forestMarked level.right

/-- Levels of a line of text, none of which is an image. -/
def AreShown (path : List Level) : Prop :=
  ∀ level ∈ path, (level.tag.isInline ∧ areInline level.left ∧ areInline level.right) ∧
    ∀ dest title, level.tag ≠ .image dest title

theorem fills_opening {path : List Level} (hpath : AreShown path) :
    Fills highlighter (openingMarked path) fun _ => SomeBreak (opening path) := by
  induction path with
  | nil =>
      apply Fills.nil.congr
      intro _
      simp [SomeBreak, opening]
  | cons level path ih =>
      obtain ⟨⟨⟨htag, hleft, -⟩, himage⟩, hrest⟩ := List.forall_mem_cons.mp hpath
      apply ((fills_forest level.left hleft).append
        ((fills_start htag himage).append (ih hrest))).congr
      intro _
      rw [opening, someBreak_append, someBreak_cons]

theorem fills_closing {path : List Level} (hpath : AreShown path) :
    Fills highlighter (closingMarked path) fun _ => SomeBreak (closing path) := by
  induction path with
  | nil =>
      apply Fills.nil.congr
      intro _
      simp [SomeBreak, closing]
  | cons level path ih =>
      obtain ⟨⟨⟨htag, -, hright⟩, himage⟩, hrest⟩ := List.forall_mem_cons.mp hpath
      apply ((ih hrest).append
        ((fills_stop htag himage).append (fills_forest level.right hright))).congr
      intro _
      rw [closing, someBreak_append, someBreak_cons]

/-! ## Paragraphs -/

/-- A paragraph begins with a tag, unless it is in a definition. -/
theorem fills_startParagraph :
    Fills highlighter [(.start .paragraph, false)] fun state => state = false := by
  apply Fills.event rfl
  intro w _
  have hperform : w.perform highlighter false (.start .paragraph)
      = if w.inDefinition then w else w.writeBlock "<p>" := rfl
  rw [hperform]
  cases w.inDefinition with
  | true =>
      exact ⟨"", Writer.Continues.refl w, iff_of_false not_hasBreak_empty (by simp)⟩
  | false =>
      have htag := (Writer.Continues.refl w).write ((if w.atLineStart then "" else "\n") ++ "<p>")
      refine ⟨_, htag, iff_of_true ?_ rfl⟩
      rw [hasBreak_append, hasBreak_append]
      exact .inr (.inr (by decide))

theorem fills_stopParagraph :
    Fills highlighter [(.stop .paragraph, false)] fun state => state = false := by
  apply Fills.event rfl
  intro w _
  have hperform : w.perform highlighter false (.stop .paragraph)
      = if w.inDefinition then w else w.write "</p>\n" := rfl
  rw [hperform]
  cases w.inDefinition with
  | true =>
      exact ⟨"", Writer.Continues.refl w, iff_of_false not_hasBreak_empty (by simp)⟩
  | false =>
      have htag := (Writer.Continues.refl w).write "</p>\n"
      refine ⟨_, htag, iff_of_true ?_ rfl⟩
      rw [hasBreak_append]
      exact .inr (by decide)

end

end StaticSite.Html
