import StaticSite.Proofs.Html.Chart
import StaticSite.Proofs.Html.PagePart

/-!
# Rows of stretches on a written page

The writer completes a heading's first tag only when it knows the heading's text, and holds back
what it hands on until then. `Writer.view` is the page together with what is held back: an event
adds to it what it would add to the page, and completing the tag puts the identifier between the
two.

## What this module delivers

- `View`, `Writer.view`, `Writer.Follows`: what events add to a page, whether a heading waits or not.
- `follows_step`: one event outside of images.
- `AddsRow`, with `AddsRow.append`: events that weave a row of stretches into the page.
- `addsRow_inlines`: what may stand in a line, by induction on its trees.
-/

set_option autoImplicit false

namespace StaticSite.Html

open StaticSite.Markdown

/-! ## Views -/

/-- A page, and what is held back behind the open identifier of a heading that waits. -/
structure View where
  page : String
  held : Option String

namespace View

/-- A view after a text was handed on. -/
def add (text : String) (v : View) : View :=
  match v.held with
  | none => ⟨v.page ++ text, none⟩
  | some held => ⟨v.page, some (held ++ text)⟩

/-- A view after the open identifier was completed, if it was. -/
def settle (identifier? : Option String) (v : View) : View :=
  match identifier?, v.held with
  | some identifier, some held => ⟨v.page ++ Writer.identifierText identifier ++ held, none⟩
  | _, _ => v

theorem add_empty (v : View) : v.add "" = v := by
  obtain ⟨page, _ | held⟩ := v <;> simp [add]

theorem add_append (v : View) (text more : String) :
    v.add (text ++ more) = (v.add text).add more := by
  obtain ⟨page, _ | held⟩ := v <;> simp [add, String.append_assoc]

theorem settle_none (v : View) : v.settle none = v := rfl

/-- What is handed on after the identifier was completed might as well have been held back. -/
theorem settle_add (v : View) (identifier? : Option String) (text : String) :
    (v.settle identifier?).add text = (v.add text).settle identifier? := by
  obtain ⟨page, _ | held⟩ := v <;> cases identifier? <;> simp [add, settle, String.append_assoc]

theorem held_settle (v : View) (identifier : String) : (v.settle (some identifier)).held = none := by
  obtain ⟨page, _ | held⟩ := v <;> rfl

theorem held_add_isSome (v : View) (text : String) : (v.add text).held.isSome = v.held.isSome := by
  obtain ⟨page, _ | held⟩ := v <;> rfl

end View

namespace Writer

/-- What a writer has written and what it holds back. -/
def view (w : Writer) : View :=
  ⟨w.page, if w.awaitingHeadingText then some (String.join (w.held.getD [])) else none⟩

/-- The writer is between two events outside of images. -/
structure IsReady (w : Writer) : Prop where
  image : w.image = none
  held : w.awaitingHeadingText = false → w.held = none

/-- The writer `w'` is `w` after events that hand on a text. The heading that waits may get its
identifier on the way, and no other identifier is issued. -/
structure Follows (w : Writer) (text : String) (w' : Writer) : Prop where
  ready : w'.IsReady
  titled : w'.titled = w.titled
  code : w.code = none → w'.code = none
  view : ∃ identifier? : Option String,
    (∀ identifier ∈ identifier?, w.awaitingHeadingText = true ∧ isPlain identifier.toList) ∧
    w'.view = (w.view.add text).settle identifier? ∧
    w'.anchors.issued = identifier?.toList ++ w.anchors.issued

variable {w w' w'' : Writer} {text more : String}

theorem view_held_isSome (w : Writer) : w.view.held.isSome = w.awaitingHeadingText := by
  unfold view
  cases w.awaitingHeadingText <;> rfl

theorem view_of_settled (h : w.awaitingHeadingText = false) : w.view = ⟨w.page, none⟩ := by
  rw [view, h, if_neg Bool.false_ne_true]

theorem view_of_waiting (h : w.awaitingHeadingText = true) :
    w.view = ⟨w.page, some (String.join (w.held.getD []))⟩ := by
  rw [view, h, if_pos rfl]

theorem Follows.refl (h : w.IsReady) : w.Follows "" w := by
  refine ⟨h, rfl, id, none, by simp, ?_, rfl⟩
  rw [View.add_empty, View.settle_none]

theorem Follows.congr (h : w.Follows text w') (htext : text = more) : w.Follows more w' :=
  htext ▸ h

/-- A heading gets its identifier once, so of two runs at most one issues it. -/
theorem Follows.trans (h : w.Follows text w') (h' : w'.Follows more w'') :
    w.Follows (text ++ more) w'' := by
  obtain ⟨identifier?, hwaits, hview, hissued⟩ := h.view
  obtain ⟨identifier?', hwaits', hview', hissued'⟩ := h'.view
  refine ⟨h'.ready, h'.titled.trans h.titled, fun hcode => h'.code (h.code hcode), ?_⟩
  cases identifier? with
  | none =>
      rw [View.settle_none] at hview
      have hsame : w'.awaitingHeadingText = w.awaitingHeadingText := by
        rw [← view_held_isSome w', hview, View.held_add_isSome, view_held_isSome]
      refine ⟨identifier?', ?_, ?_, ?_⟩
      · rw [← hsame]
        exact hwaits'
      · rw [hview', hview, View.add_append]
      · rw [hissued', hissued]
        rfl
  | some identifier =>
      -- the first run settles the heading, so the second one finds none that waits
      have hover : w'.awaitingHeadingText = false := by
        rw [← view_held_isSome w', hview, View.held_settle]
        rfl
      have hnone : identifier?' = none := by
        cases identifier?' with
        | none => rfl
        | some other =>
            have hstill := (hwaits' other rfl).1
            rw [hover] at hstill
            exact Bool.noConfusion hstill
      subst hnone
      refine ⟨some identifier, hwaits, ?_, ?_⟩
      · rw [hview', View.settle_none, hview, View.settle_add, View.add_append]
      · rw [hissued', hissued]
        rfl

/-! ## What events add to a view -/

/-- What is handed on is added to the view, if a heading that waits has begun to hold back. -/
theorem view_extends (hw : w.IsReady) (hready : w.awaitingHeadingText = true → w.held.isSome)
    (h : w.Extends text w') : w'.IsReady ∧ w'.view = w.view.add text := by
  cases hwaits : w.awaitingHeadingText with
  | false =>
      have hwaits' : w'.awaitingHeadingText = false := h.awaiting.trans hwaits
      obtain ⟨hheld, hpage⟩ := h.page (hw.held hwaits)
      refine ⟨⟨h.image.trans hw.image, fun _ => hheld⟩, ?_⟩
      rw [view_of_settled hwaits, view_of_settled hwaits', hpage]
      rfl
  | true =>
      have hwaits' : w'.awaitingHeadingText = true := h.awaiting.trans hwaits
      obtain ⟨pieces, hpieces⟩ := Option.isSome_iff_exists.mp (hready hwaits)
      obtain ⟨hpage, others, hothers, hjoin⟩ := h.held pieces hpieces
      refine ⟨⟨h.image.trans hw.image, fun hover => ?_⟩, ?_⟩
      · rw [hwaits'] at hover
        exact Bool.noConfusion hover
      · rw [view_of_waiting hwaits, view_of_waiting hwaits', hpage, hpieces, hothers,
          Option.getD_some, Option.getD_some, hjoin]
        rfl

theorem follows_of_continues (hw : w.IsReady)
    (hready : w.awaitingHeadingText = true → w.held.isSome) (h : w.Continues text w') :
    w.Follows text w' := by
  obtain ⟨hready', hview⟩ := view_extends hw hready h.grows
  refine ⟨hready', h.titled, h.code, none, by simp, hview, ?_⟩
  rw [h.grows.anchors]
  rfl

/-- Settling a heading that waits completes its identifier. -/
theorem follows_settleHeading (hw : w.IsReady) (hwaits : w.awaitingHeadingText = true)
    (content : String) : w.Follows "" (w.settleHeading content) := by
  obtain ⟨written, hsame, hjoin⟩ := settleHeading_spec w content
  rw [hsame]
  refine ⟨⟨hw.image, fun _ => rfl⟩, rfl, id, some (w.anchors.allocate content).1, ?_, ?_, ?_⟩
  · rintro identifier ⟨⟩
    exact ⟨hwaits, plain_allocate w.anchors content⟩
  · rw [view_of_waiting hwaits, View.add_empty, view_of_settled rfl, Writer.page, hjoin]
    rfl
  · exact Anchors.allocate_issued w.anchors content

/-- Text settles a heading that waits. -/
theorem follows_settle (hw : w.IsReady) (content : String) :
    w.Follows "" (if w.awaitingHeadingText then w.settleHeading content else w) ∧
      (if w.awaitingHeadingText then w.settleHeading content else w).awaitingHeadingText
        = false := by
  split
  · rename_i hwaits
    exact ⟨follows_settleHeading hw hwaits content, settleHeading_awaiting w content⟩
  · rename_i hsettled
    exact ⟨Follows.refl hw, by simpa using hsettled⟩

/-- The next event, unless it is text, finds no heading in its way: a heading that waits is settled
by code, and what any other event hands on is held back. -/
theorem follows_prepareHeading (hw : w.IsReady) (event : Event)
    (hevent : ∀ content, event ≠ .text content) :
    w.Follows "" (w.prepareHeading event) ∧
      ((w.prepareHeading event).awaitingHeadingText = true →
        (w.prepareHeading event).held.isSome) := by
  unfold Writer.prepareHeading
  split
  · rename_i hwaits
    split
    · exact absurd rfl (hevent _)
    · rename_i content
      refine ⟨follows_settleHeading hw hwaits content, fun hstill => ?_⟩
      rw [settleHeading_awaiting] at hstill
      exact Bool.noConfusion hstill
    · split
      · -- from this event on the heading holds back, with nothing so far
        rename_i hheld
        refine ⟨⟨⟨hw.image, fun hover => ?_⟩, rfl, id, none, by simp, ?_, rfl⟩, fun _ => rfl⟩
        · exact absurd hover (by simp [hwaits])
        · rw [View.settle_none, View.add_empty, view_of_waiting hwaits,
            view_of_waiting (by exact hwaits), Option.isNone_iff_eq_none.mp hheld]
          rfl
      · rename_i hheld
        refine ⟨Follows.refl hw, fun _ => ?_⟩
        simpa [Option.ne_none_iff_isSome] using hheld
  · rename_i hsettled
    exact ⟨Follows.refl hw, fun hwaits => absurd hwaits hsettled⟩

/-- An event other than text adds what it adds where no heading is in its way. -/
theorem follows_step (hw : w.IsReady) {highlighter : Option Highlighter} {event : Event}
    {standalone : Bool} (hevent : ∀ content, event ≠ .text content)
    (h : (w.prepareHeading event).Continues text
      ((w.prepareHeading event).perform highlighter standalone event)) :
    w.Follows text (w.step highlighter (event, standalone)) := by
  obtain ⟨hprepared, hready⟩ := follows_prepareHeading hw event hevent
  have hstep := hprepared.trans (follows_of_continues hprepared.ready hready h)
  rw [step_of_image_none highlighter hw.image]
  exact hstep.congr String.empty_append

/-- Where no heading waits, what is handed on goes to the page. -/
theorem Follows.page (h : w.Follows text w') (hsettled : w.awaitingHeadingText = false) :
    w'.awaitingHeadingText = false ∧ w'.page = w.page ++ text ∧
      w'.anchors.issued = w.anchors.issued := by
  obtain ⟨identifier?, hwaits, hview, hissued⟩ := h.view
  have hnone : identifier? = none := by
    cases identifier? with
    | none => rfl
    | some identifier =>
        have hstill := (hwaits identifier rfl).1
        rw [hsettled] at hstill
        exact Bool.noConfusion hstill
  subst hnone
  rw [View.settle_none, view_of_settled hsettled] at hview
  have hsettled' : w'.awaitingHeadingText = false := by
    rw [← view_held_isSome w', hview]
    rfl
  rw [view_of_settled hsettled'] at hview
  exact ⟨hsettled', congrArg View.page hview, hissued⟩

end Writer

/-! ## Rows of stretches -/

/-- Wherever the writer is, events weave a row with this raw HTML into the page. If they are a part
of a line of words and no code is collected, the row is this markup. -/
def AddsRow (highlighter : Option Highlighter) (events : List (Event × Bool)) (raws : List String)
    (worded : Bool) (markup : String) : Prop :=
  ∀ w : Writer, w.IsReady → ∃ text,
    w.Follows text (events.foldl (Writer.step highlighter) w) ∧ Woven highlighter text raws ∧
    (w.code = none → worded → text = markup)

section

variable {highlighter : Option Highlighter} {raws raws' : List String} {worded worded' : Bool}
  {markup markup' : String}

theorem AddsRow.nil : AddsRow highlighter [] [] worded "" := by
  intro w hw
  exact ⟨"", Writer.Follows.refl hw, Woven.empty, fun _ _ => rfl⟩

theorem AddsRow.append {left right : List (Event × Bool)}
    (hleft : AddsRow highlighter left raws worded markup)
    (hright : AddsRow highlighter right raws' worded' markup') :
    AddsRow highlighter (left ++ right) (raws ++ raws') (worded && worded') (markup ++ markup') := by
  intro w hw
  obtain ⟨text, hfollows, hwoven, hmarkup⟩ := hleft w hw
  obtain ⟨more, hfollows', hwoven', hmarkup'⟩ := hright _ hfollows.ready
  rw [List.foldl_append]
  refine ⟨text ++ more, hfollows.trans hfollows', hwoven.append hwoven', ?_⟩
  intro hcode hall
  rw [Bool.and_eq_true] at hall
  rw [hmarkup hcode hall.1, hmarkup' (hfollows.code hcode) hall.2]

/-- An event that adds calm markup, which is not that of a line of words. -/
theorem AddsRow.calm {event : Event} {standalone : Bool} (hevent : ∀ content, event ≠ .text content)
    (h : ∀ w : Writer, w.AddsCalm (w.perform highlighter standalone event)) :
    AddsRow highlighter [(event, standalone)] [] false "" := by
  intro w hw
  obtain ⟨text, hcontinues, hcalm⟩ := h (w.prepareHeading event)
  exact ⟨text, Writer.follows_step hw hevent hcontinues, Woven.calm hcalm,
    fun _ h => Bool.noConfusion h⟩

/-- An event that adds this markup, which is calm, is a part of a line of words. -/
theorem AddsRow.word {event : Event} {standalone : Bool} (hevent : ∀ content, event ≠ .text content)
    (hcalm : IsCalm markup)
    (h : ∀ w : Writer, w.Continues markup (w.perform highlighter standalone event)) :
    AddsRow highlighter [(event, standalone)] [] worded markup := by
  intro w hw
  exact ⟨markup, Writer.follows_step hw hevent (h _), Woven.calm hcalm, fun _ _ => rfl⟩

theorem addsRow_text (content : String) :
    AddsRow highlighter [(.text content, false)] [] true (escape content) := by
  intro w hw
  obtain ⟨hsettles, hover⟩ := Writer.follows_settle hw content
  -- text holds nothing back: it is what a heading waits for
  have hprepared : w.prepareHeading (.text content) = w := by
    unfold Writer.prepareHeading
    split <;> rfl
  rw [List.foldl_cons, List.foldl_nil, Writer.step_of_image_none highlighter hw.image, hprepared,
    Writer.perform, text_settle]
  have hready : ∀ w' : Writer, w'.awaitingHeadingText = false →
      w'.awaitingHeadingText = true → w'.held.isSome :=
    fun w' hsettled hwaits => absurd hwaits (by simp [hsettled])
  by_cases hcode : w.code = none
  · have hcontinues := Writer.continues_text content hover (hsettles.code hcode)
    have hall := hsettles.trans
      (Writer.follows_of_continues hsettles.ready (hready _ hover) hcontinues)
    exact ⟨escape content, hall.congr String.empty_append, Woven.calm (calm_escape content),
      fun _ _ => rfl⟩
  · obtain ⟨text, hcontinues, hcalm⟩ := Writer.addsCalm_text content hover
    have hall := hsettles.trans
      (Writer.follows_of_continues hsettles.ready (hready _ hover) hcontinues)
    exact ⟨text, hall.congr String.empty_append, Woven.calm hcalm, fun hnone => absurd hnone hcode⟩

theorem addsRow_html (content : String) :
    AddsRow highlighter [(.html content, false)] [content] false "" := by
  intro w hw
  have hcontinues : (w.prepareHeading (.html content)).Continues content
      ((w.prepareHeading (.html content)).perform highlighter false (.html content)) :=
    ((Writer.Continues.refl _).write content).congr String.empty_append
  exact ⟨content, Writer.follows_step hw (by simp) hcontinues,
    Woven.stretch (.raw content) trivial, fun _ h => Bool.noConfusion h⟩

/-- An event that encloses nothing adds its stretch. -/
theorem addsRow_leaf (leaf : Leaf) :
    AddsRow highlighter [(leaf.event, false)] (treeRaw (.leaf leaf)) leaf.isWorded
      (leafMarkup leaf) := by
  cases leaf with
  | text content => exact addsRow_text content
  | code content =>
      have hopen : IsCalm "<code>" := fun _ => rfl
      have hclose : IsCalm "</code>" := fun _ => rfl
      refine AddsRow.word (by simp [Leaf.event])
        ((hopen.append (calm_escape content)).append hclose) fun w => ?_
      have hall := (((Writer.Continues.refl w).write "<code>").emit (escape content)).write "</code>"
      exact hall.congr (by rw [String.empty_append, leafMarkup])
  | html content => exact addsRow_html content
  | softBreak =>
      refine AddsRow.word (by simp [Leaf.event]) (fun _ => rfl) fun w => ?_
      have hline : w.Continues "" { w with atLineStart := true } :=
        (Writer.Continues.refl w).of_same rfl rfl rfl rfl rfl rfl rfl
      exact (hline.emit "\n").congr String.empty_append
  | hardBreak =>
      refine AddsRow.word (by simp [Leaf.event]) (fun _ => rfl) fun w => ?_
      exact ((Writer.Continues.refl w).write "<br />\n").congr String.empty_append
  | rule =>
      exact AddsRow.calm (by simp [Leaf.event])
        fun w => Writer.addsCalm_leaf highlighter false w .rule (by simp) (by simp)
  | footnoteReference label =>
      exact AddsRow.calm (by simp [Leaf.event])
        fun w => Writer.addsCalm_leaf highlighter false w (.footnoteReference label) (by simp)
          (by simp)
  | taskMarker checked =>
      exact AddsRow.calm (by simp [Leaf.event])
        fun w => Writer.addsCalm_leaf highlighter false w (.taskMarker checked) (by simp) (by simp)

/-- A tag written as it is. -/
theorem AddsRow.tag {event : Event} {standalone : Bool} (text : String)
    (hevent : ∀ content, event ≠ .text content) (hcalm : IsCalm text)
    (h : ∀ w : Writer, w.perform highlighter standalone event = w.write text) :
    AddsRow highlighter [(event, standalone)] [] worded text := by
  refine AddsRow.word hevent hcalm fun w => ?_
  rw [h w]
  exact ((Writer.Continues.refl w).write text).congr String.empty_append

/-- The start of a construct adds its stretch, unless it begins a heading, an image or a code block.
-/
theorem addsRow_startTag (standalone : Bool) {tag : Tag} (hline : tag.holdsLine = false)
    (hcode : tag.isCode = false) :
    AddsRow highlighter [(.start tag, standalone)] [] tag.isWorded (startMarkup tag) := by
  cases tag with
  | emphasis => exact AddsRow.tag "<em>" (by simp) (fun _ => rfl) fun _ => rfl
  | strong => exact AddsRow.tag "<strong>" (by simp) (fun _ => rfl) fun _ => rfl
  | strikethrough => exact AddsRow.tag "<del>" (by simp) (fun _ => rfl) fun _ => rfl
  | link form dest title =>
      exact AddsRow.word (by simp) (Writer.calm_linkFront form dest title)
        fun w => Writer.continues_startLink form dest title highlighter standalone w
  | _ =>
      exact AddsRow.calm (by simp)
        fun w => Writer.addsCalm_startTag highlighter standalone w _ hline hcode

/-- The end of a construct adds its stretch, unless it ends a heading, an image or a code block. -/
theorem addsRow_stopTag {tag : Tag} (hline : tag.holdsLine = false) (hcode : tag.isCode = false) :
    AddsRow highlighter [(.stop tag, false)] [] tag.isWorded (stopMarkup tag) := by
  cases tag with
  | emphasis => exact AddsRow.tag "</em>" (by simp) (fun _ => rfl) fun _ => rfl
  | strong => exact AddsRow.tag "</strong>" (by simp) (fun _ => rfl) fun _ => rfl
  | strikethrough => exact AddsRow.tag "</del>" (by simp) (fun _ => rfl) fun _ => rfl
  | link form dest title => exact AddsRow.tag "</a>" (by simp) (fun _ => rfl) fun _ => rfl
  | _ =>
      exact AddsRow.calm (by simp)
        fun w => Writer.addsCalm_stopTag highlighter w _ hline hcode

/-- An image adds one stretch, alone or among words. -/
theorem addsRow_image (standalone : Bool) (dest title : String) {trees : List EventTree}
    (hinline : areInline trees) :
    AddsRow highlighter
      ((.start (.image dest title), standalone) ::
        (forestMarked trees ++ [(Event.stop (.image dest title), false)])) [] false "" := by
  intro w hw
  obtain ⟨hprepared, hready⟩ :=
    Writer.follows_prepareHeading hw (.start (.image dest title)) (by simp)
  obtain ⟨text, hcontinues, hcalm⟩ :=
    Writer.addsCalm_image highlighter standalone hinline dest title hprepared.ready.image
  have hall := hprepared.trans (Writer.follows_of_continues hprepared.ready hready hcontinues)
  rw [List.foldl_cons, Writer.step_of_image_none highlighter hw.image]
  exact ⟨text, hall.congr String.empty_append, Woven.calm hcalm, fun _ h => Bool.noConfusion h⟩

/-- A construct adds the stretches of its start, its content and its end. -/
theorem addsRow_node {tag : Tag} (hline : tag.holdsLine = false) (hcode : tag.isCode = false)
    {children : List EventTree}
    (hinner : AddsRow highlighter (forestMarked children) (forestRaw children)
      (areWorded children) (forestMarkup children)) :
    AddsRow highlighter
      ((.start tag, false) :: (forestMarked children ++ [(Event.stop tag, false)]))
      (forestRaw children) (tag.isWorded && areWorded children)
      (treeMarkup (.node tag children)) := by
  have hall := (addsRow_startTag false hline hcode).append
    (hinner.append (addsRow_stopTag hline hcode))
  have hworded : (tag.isWorded && (areWorded children && tag.isWorded))
      = (tag.isWorded && areWorded children) := by
    cases tag.isWorded <;> cases areWorded children <;> rfl
  rwa [hworded, List.nil_append, List.append_nil] at hall

mutual

/-- What may stand in a line adds its stretches. -/
theorem addsRow_inline : ∀ tree : EventTree, tree.isInline →
    AddsRow highlighter (treeMarked tree) (treeRaw tree) tree.isWorded (treeMarkup tree)
  | .leaf leaf, _ => addsRow_leaf leaf
  | .node tag children, hinline => by
      rw [EventTree.isInline, Bool.and_eq_true] at hinline
      obtain ⟨htag, hchildren⟩ := hinline
      have hparagraph : tag ≠ .paragraph := by
        rintro rfl
        exact Bool.noConfusion htag
      rw [treeMarked_node hparagraph]
      by_cases himage : ∃ dest title, tag = .image dest title
      · obtain ⟨dest, title, rfl⟩ := himage
        intro w hw
        obtain ⟨text, hfollows, hwoven, -⟩ := addsRow_image false dest title hchildren w hw
        exact ⟨text, hfollows, hwoven, fun _ h => Bool.noConfusion h⟩
      · have hline : tag.holdsLine = false ∧ tag.isCode = false := by
          cases tag with
          | image dest title => exact absurd ⟨dest, title, rfl⟩ himage
          | heading level => exact Bool.noConfusion htag
          | codeBlock info => exact Bool.noConfusion htag
          | _ => exact ⟨rfl, rfl⟩
        rw [treeRaw_node fun dest title heq => himage ⟨dest, title, heq⟩]
        exact addsRow_node hline.1 hline.2 (addsRow_inlines children hchildren)

theorem addsRow_inlines : ∀ trees : List EventTree, areInline trees →
    AddsRow highlighter (forestMarked trees) (forestRaw trees) (areWorded trees)
      (forestMarkup trees)
  | [], _ => AddsRow.nil
  | tree :: rest, hinline => by
      rw [areInline, Bool.and_eq_true] at hinline
      exact (addsRow_inline tree hinline.1).append (addsRow_inlines rest hinline.2)

end

end

end StaticSite.Html
