import StaticSite.Proofs.Html.HeadingElement

/-!
# A line in a heading and elsewhere

While a heading waits for its text, what its line hands on is held back; elsewhere it goes to the
page. The text that is handed on is the same. It depends on the numbers of the footnotes met before
and on nothing else that the writer remembers, and a heading that waits gets its identifier from the
line's first payload.

## What this module delivers

- `lineName?`: the first text or code of a line, images left out.
- `Writer.Prints`, with `Prints.trans`: what a line does to the writer.
- `PrintsLine`, `prints_leaf`, `prints_image`: events with the same text wherever they stand.
- `prints_line`: what may stand in a line, by induction on its trees.
-/

set_option autoImplicit false

namespace StaticSite.Html

open StaticSite.Markdown

/-! ## Names of headings -/

/-- What an event names a heading that waits for its text. -/
def leafName? : Leaf → Option String
  | .text content | .code content => some content
  | _ => none

mutual

/-- The first text or code of a tree, those in place of images left out. -/
def treeName? : EventTree → Option String
  | .leaf leaf => leafName? leaf
  | .node (.image _ _) _ => none
  | .node _ children => lineName? children

/-- The first text or code of trees, those in place of images left out. -/
def lineName? : List EventTree → Option String
  | [] => none
  | tree :: rest => (treeName? tree).or (lineName? rest)

end

theorem treeName?_node {tag : Tag} (h : ∀ dest title, tag ≠ .image dest title)
    (children : List EventTree) : treeName? (.node tag children) = lineName? children := by
  rw [treeName?]
  exact h

namespace Writer

/-! ## What a line does -/

/-- The identifier that a heading gets from this name, and the identifiers issued from then on. Only
a heading that waits gets one. -/
def settled? (w : Writer) (name? : Option String) : Option (String × Anchors) :=
  if w.awaitingHeadingText then name?.map w.anchors.allocate else none

/-- The writer `w'` is `w` after a text of a line was handed on. If a heading waits, it gets its
identifier from the first name in the line. -/
structure Prints (w : Writer) (text : String) (name? : Option String) (w' : Writer) : Prop where
  ready : w'.IsReady
  titled : w'.titled = w.titled
  code : w'.code = none
  view : w'.view = (w.view.add text).settle ((w.settled? name?).map (·.1))
  anchors : w'.anchors = (w.settled? name?).elim w.anchors (·.2)

variable {w w' w'' : Writer} {text more : String} {name? name?' : Option String}

theorem settled?_none (w : Writer) : w.settled? none = none := by
  unfold settled?
  split <;> rfl

theorem settled?_of_settled (h : w.awaitingHeadingText = false) (name? : Option String) :
    w.settled? name? = none := by
  rw [settled?, h, if_neg Bool.false_ne_true]

theorem settled?_of_waiting (h : w.awaitingHeadingText = true) (name : String) :
    w.settled? (some name) = some (w.anchors.allocate name) := by
  rw [settled?, h, if_pos rfl, Option.map_some]

theorem Prints.congr (h : w.Prints text name? w') (htext : text = more) :
    w.Prints more name? w' :=
  htext ▸ h

theorem Prints.refl (h : w.IsReady) (hcode : w.code = none) : w.Prints "" none w := by
  refine ⟨h, rfl, hcode, ?_, ?_⟩
  · rw [settled?_none, View.add_empty, Option.map_none, View.settle_none]
  · rw [settled?_none, Option.elim_none]

/-- A line without a name leaves a heading waiting. -/
theorem Prints.awaiting_of_none (h : w.Prints text none w') :
    w'.awaitingHeadingText = w.awaitingHeadingText := by
  rw [← view_held_isSome w', h.view, settled?_none, Option.map_none, View.settle_none,
    View.held_add_isSome, view_held_isSome]

/-- Behind a name no heading waits. -/
theorem Prints.awaiting_of_some {name : String} (h : w.Prints text (some name) w') :
    w'.awaitingHeadingText = false := by
  cases hwaits : w.awaitingHeadingText with
  | true =>
      rw [← view_held_isSome w', h.view, settled?_of_waiting hwaits, Option.map_some,
        View.held_settle]
      rfl
  | false =>
      rw [← view_held_isSome w', h.view, settled?_of_settled hwaits, Option.map_none,
        View.settle_none, View.held_add_isSome, view_held_isSome, hwaits]

/-- Of two parts of a line the first that has a name gives it. -/
theorem Prints.trans (h : w.Prints text name? w') (h' : w'.Prints more name?' w'') :
    w.Prints (text ++ more) (name?.or name?') w'' := by
  have hview := h.view
  have hanchors := h.anchors
  cases name? with
  | none =>
      rw [settled?_none, Option.map_none, View.settle_none] at hview
      rw [settled?_none, Option.elim_none] at hanchors
      have hsame : w'.settled? name?' = w.settled? name?' := by
        rw [settled?, settled?, h.awaiting_of_none, hanchors]
      refine ⟨h'.ready, h'.titled.trans h.titled, h'.code, ?_, ?_⟩
      · rw [h'.view, hview, hsame, View.add_append, Option.none_or]
      · rw [h'.anchors, hanchors, hsame, Option.none_or]
  | some name =>
      have hover : w'.settled? name?' = none := settled?_of_settled h.awaiting_of_some name?'
      refine ⟨h'.ready, h'.titled.trans h.titled, h'.code, ?_, ?_⟩
      · rw [h'.view, hover, Option.map_none, View.settle_none, hview, View.settle_add,
          View.add_append, Option.some_or]
      · rw [h'.anchors, hover, Option.elim_none, hanchors, Option.some_or]

/-- What is handed on is held back where a heading waits, and goes to the page elsewhere. -/
theorem prints_of_continues (hw : w.IsReady) (hcode : w.code = none)
    (hready : w.awaitingHeadingText = true → w.held.isSome) (h : w.Continues text w') :
    w.Prints text none w' := by
  obtain ⟨hready', hview⟩ := view_extends hw hready h.grows
  refine ⟨hready', h.titled, h.code hcode, ?_, ?_⟩
  · rw [hview, settled?_none, Option.map_none, View.settle_none]
  · rw [h.grows.anchors, settled?_none, Option.elim_none]

/-- A name settles a heading that waits. -/
theorem prints_settle (hw : w.IsReady) (hcode : w.code = none) (content : String) :
    w.Prints "" (some content)
      (if w.awaitingHeadingText then w.settleHeading content else w) := by
  cases hwaits : w.awaitingHeadingText with
  | true =>
      rw [if_pos rfl]
      obtain ⟨written, hsame, hjoin⟩ := settleHeading_spec w content
      rw [hsame]
      refine ⟨⟨hw.image, fun _ => rfl⟩, rfl, hcode, ?_, ?_⟩
      · rw [settled?_of_waiting hwaits, Option.map_some, view_of_waiting hwaits, View.add_empty,
          view_of_settled rfl, Writer.page, hjoin]
        rfl
      · rw [settled?_of_waiting hwaits, Option.elim_some]
  | false =>
      rw [if_neg Bool.false_ne_true]
      have hsame := Prints.refl hw hcode
      refine ⟨hw, rfl, hcode, ?_, ?_⟩
      · rw [settled?_of_settled hwaits, ← settled?_none w]
        exact hsame.view
      · rw [settled?_of_settled hwaits, Option.elim_none]

/-- What the next event names a heading that waits. -/
def eventName? : Event → Option String
  | .text content | .code content => some content
  | _ => none

/-- The next event, unless it is text, finds no heading in its way. -/
theorem prints_prepareHeading (hw : w.IsReady) (hcode : w.code = none) (event : Event)
    (hevent : ∀ content, event ≠ .text content) :
    w.Prints "" (eventName? event) (w.prepareHeading event) ∧
      ((w.prepareHeading event).awaitingHeadingText = true →
        (w.prepareHeading event).held.isSome) := by
  refine ⟨?_, (follows_prepareHeading hw event hevent).2⟩
  by_cases hname : ∃ content, event = .code content
  · obtain ⟨content, rfl⟩ := hname
    exact prints_settle hw hcode content
  · have hnone : eventName? event = none := by
      cases event with
      | text content => exact absurd rfl (hevent content)
      | code content => exact absurd ⟨content, rfl⟩ hname
      | _ => rfl
    rw [hnone]
    unfold prepareHeading
    split
    · rename_i hwaits
      split
      · exact Prints.refl hw hcode
      · exact absurd ⟨_, rfl⟩ hname
      · split
        · -- from this event on the heading holds back, with nothing so far
          rename_i hheld
          have hsame := Prints.refl hw hcode
          refine ⟨⟨hw.image, fun hover => ?_⟩, rfl, hcode, ?_, hsame.anchors⟩
          · exact absurd hover (by simp [hwaits])
          · rw [← hsame.view, view_of_waiting hwaits, view_of_waiting (by exact hwaits),
              Option.isNone_iff_eq_none.mp hheld]
            rfl
        · exact Prints.refl hw hcode
    · exact Prints.refl hw hcode

/-- An event other than text prints what it hands on where no heading is in its way. -/
theorem prints_step (hw : w.IsReady) (hcode : w.code = none) {highlighter : Option Highlighter}
    {event : Event} {standalone : Bool} (hevent : ∀ content, event ≠ .text content)
    (h : (w.prepareHeading event).Continues text
      ((w.prepareHeading event).perform highlighter standalone event)) :
    w.Prints text (eventName? event) (w.step highlighter (event, standalone)) := by
  obtain ⟨hprepared, hready⟩ := prints_prepareHeading hw hcode event hevent
  have hall := hprepared.trans (prints_of_continues hprepared.ready hprepared.code hready h)
  rw [step_of_image_none highlighter hw.image]
  rw [String.empty_append, Option.or_none] at hall
  exact hall

/-- Outside of headings a line goes to the page. -/
theorem Prints.page (h : w.Prints text name? w') (hsettled : w.awaitingHeadingText = false) :
    w'.awaitingHeadingText = false ∧ w'.page = w.page ++ text ∧ w'.anchors = w.anchors := by
  have hview := h.view
  rw [settled?_of_settled hsettled, Option.map_none, View.settle_none,
    view_of_settled hsettled] at hview
  have hsettled' : w'.awaitingHeadingText = false := by
    rw [← view_held_isSome w', hview]
    rfl
  rw [view_of_settled hsettled'] at hview
  refine ⟨hsettled', congrArg View.page hview, ?_⟩
  rw [h.anchors, settled?_of_settled hsettled, Option.elim_none]

end Writer

/-! ## Lines -/

/-- Events that print the same text wherever they stand, if the numbers of footnotes are the same,
and the same first name. -/
def PrintsLine (highlighter : Option Highlighter) (events : List (Event × Bool))
    (name? : Option String) : Prop :=
  ∀ numbers : FootnoteNumbers, ∃ (text : String) (numbers' : FootnoteNumbers),
    ∀ w : Writer, w.IsReady → w.code = none → w.footnotes = numbers →
      w.Prints text name? (events.foldl (Writer.step highlighter) w) ∧
        (events.foldl (Writer.step highlighter) w).footnotes = numbers'

section

variable {highlighter : Option Highlighter} {name? name?' : Option String}

theorem PrintsLine.nil : PrintsLine highlighter [] none := by
  intro numbers
  exact ⟨"", numbers, fun w hw hcode hnumbers => ⟨Writer.Prints.refl hw hcode, hnumbers⟩⟩

theorem PrintsLine.append {left right : List (Event × Bool)}
    (hleft : PrintsLine highlighter left name?) (hright : PrintsLine highlighter right name?') :
    PrintsLine highlighter (left ++ right) (name?.or name?') := by
  intro numbers
  obtain ⟨text, numbers', hleft⟩ := hleft numbers
  obtain ⟨more, numbers'', hright⟩ := hright numbers'
  refine ⟨text ++ more, numbers'', fun w hw hcode hnumbers => ?_⟩
  obtain ⟨hprints, hnumbers'⟩ := hleft w hw hcode hnumbers
  obtain ⟨hprints', hnumbers''⟩ := hright _ hprints.ready hprints.code hnumbers'
  rw [List.foldl_append]
  exact ⟨hprints.trans hprints', hnumbers''⟩

/-- An event whose markup is always the same, and which numbers no footnote. -/
theorem PrintsLine.same {event : Event} {standalone : Bool} (text : String)
    (hevent : ∀ content, event ≠ .text content)
    (h : ∀ w : Writer, w.Continues text (w.perform highlighter standalone event) ∧
      (w.perform highlighter standalone event).footnotes = w.footnotes) :
    PrintsLine highlighter [(event, standalone)] (Writer.eventName? event) := by
  intro numbers
  refine ⟨text, numbers, fun w hw hcode hnumbers => ?_⟩
  rw [List.foldl_cons, List.foldl_nil]
  refine ⟨Writer.prints_step hw hcode hevent (h _).1, ?_⟩
  rw [Writer.step_of_image_none highlighter hw.image, (h _).2, Writer.footnotes_prepareHeading,
    hnumbers]

/-- A tag written as it is. -/
theorem PrintsLine.tag {event : Event} {standalone : Bool} (text : String)
    (hevent : ∀ content, event ≠ .text content)
    (h : ∀ w : Writer, w.perform highlighter standalone event = w.write text) :
    PrintsLine highlighter [(event, standalone)] (Writer.eventName? event) := by
  refine PrintsLine.same text hevent fun w => ?_
  rw [h w]
  exact ⟨((Writer.Continues.refl w).write text).congr String.empty_append,
    Writer.footnotes_write⟩

theorem printsLine_text (content : String) :
    PrintsLine highlighter [(.text content, false)] (some content) := by
  intro numbers
  refine ⟨escape content, numbers, fun w hw hcode hnumbers => ?_⟩
  have hsettles := Writer.prints_settle hw hcode content
  -- text holds nothing back: it is what a heading waits for
  have hprepared : w.prepareHeading (.text content) = w := by
    unfold Writer.prepareHeading
    split <;> rfl
  rw [List.foldl_cons, List.foldl_nil, Writer.step_of_image_none highlighter hw.image, hprepared,
    Writer.perform]
  refine ⟨?_, (Writer.footnotes_text content).trans hnumbers⟩
  rw [text_settle]
  have hover := hsettles.awaiting_of_some
  have hcontinues := Writer.continues_text content hover hsettles.code
  have hall := hsettles.trans (Writer.prints_of_continues hsettles.ready hsettles.code
    (fun hwaits => absurd hwaits (by simp [hover])) hcontinues)
  rwa [String.empty_append, Option.some_or] at hall

/-- A reference to a footnote, with the number that it has or gets. -/
theorem printsLine_footnoteReference (label : String) :
    PrintsLine highlighter [(.footnoteReference label, false)] none := by
  intro numbers
  refine ⟨"<sup class=\"footnote-reference\" id=\"r." ++ escape label ++ "\"><a href=\"#f." ++
    escape label ++ "\">" ++ toString (numbers.number label).1 ++ "</a></sup>",
    (numbers.number label).2, fun w hw hcode hnumbers => ?_⟩
  rw [List.foldl_cons, List.foldl_nil]
  have hprints : ∀ w : Writer, w.footnotes = numbers → w.Continues
      ("<sup class=\"footnote-reference\" id=\"r." ++ escape label ++ "\"><a href=\"#f." ++
        escape label ++ "\">" ++ toString (numbers.number label).1 ++ "</a></sup>")
      (w.footnoteReference label) := by
    rintro w rfl
    have hcounted : w.Continues "" (w.footnoteNumber label).2 :=
      (Writer.Continues.refl w).of_same rfl rfl rfl rfl rfl rfl rfl
    have hall := (((hcounted.emit ("<sup class=\"footnote-reference\" id=\"r." ++ escape label ++
      "\"><a href=\"#f." ++ escape label)).write "\">").emit
      (toString (w.footnoteNumber label).1)).write "</a></sup>"
    exact hall.congr (by rw [String.empty_append, Writer.footnoteNumber_fst])
  have hsame : (w.prepareHeading (.footnoteReference label)).footnotes = numbers :=
    Writer.footnotes_prepareHeading _ |>.trans hnumbers
  refine ⟨Writer.prints_step hw hcode (by simp) (hprints _ hsame), ?_⟩
  rw [Writer.step_of_image_none highlighter hw.image, Writer.perform,
    Writer.footnotes_footnoteReference, hsame]

/-- An event that encloses nothing prints the same wherever it stands in a line. -/
theorem printsLine_leaf : ∀ leaf : Leaf, leaf.isInline →
    PrintsLine highlighter [(leaf.event, false)] (leafName? leaf)
  | .text content, _ => printsLine_text content
  | .code content, _ => by
      refine PrintsLine.same ("<code>" ++ escape content ++ "</code>") (by simp [Leaf.event])
        fun w => ⟨?_, by simp [Writer.perform, Leaf.event]⟩
      have hall :=
        (((Writer.Continues.refl w).write "<code>").emit (escape content)).write "</code>"
      exact hall.congr (by rw [String.empty_append])
  | .html content, _ => PrintsLine.tag content (by simp [Leaf.event]) fun _ => rfl
  | .softBreak, _ => by
      refine PrintsLine.same "\n" (by simp [Leaf.event])
        fun w => ⟨?_, by simp [Writer.perform, Leaf.event]⟩
      have hline : w.Continues "" { w with atLineStart := true } :=
        (Writer.Continues.refl w).of_same rfl rfl rfl rfl rfl rfl rfl
      exact (hline.emit "\n").congr String.empty_append
  | .hardBreak, _ => PrintsLine.tag "<br />\n" (by simp [Leaf.event]) fun _ => rfl
  | .rule, h => absurd h (by simp [Leaf.isInline])
  | .footnoteReference label, _ => printsLine_footnoteReference label
  | .taskMarker true, _ =>
      PrintsLine.tag "<input disabled=\"\" type=\"checkbox\" checked=\"\"/>\n"
        (by simp [Leaf.event]) fun _ => rfl
  | .taskMarker false, _ =>
      PrintsLine.tag "<input disabled=\"\" type=\"checkbox\"/>\n" (by simp [Leaf.event])
        fun _ => rfl

/-! ## Constructs -/

/-- The start of a construct, unless it begins an image. -/
theorem printsLine_startTag {tag : Tag} (hinline : tag.isInline)
    (himage : ∀ dest title, tag ≠ .image dest title) :
    PrintsLine highlighter [(.start tag, false)] none := by
  cases tag with
  | emphasis => exact PrintsLine.tag "<em>" (by simp) fun _ => rfl
  | strong => exact PrintsLine.tag "<strong>" (by simp) fun _ => rfl
  | strikethrough => exact PrintsLine.tag "<del>" (by simp) fun _ => rfl
  | link form dest title =>
      exact PrintsLine.same (Writer.linkFront form dest title) (by simp) fun w =>
        ⟨Writer.continues_startLink form dest title highlighter false w,
          Writer.footnotes_startTag highlighter false (by simp)⟩
  | image dest title => exact absurd rfl (himage dest title)
  | _ => exact Bool.noConfusion hinline

/-- The end of a construct, unless it ends an image. -/
theorem printsLine_stopTag {tag : Tag} (hinline : tag.isInline)
    (himage : ∀ dest title, tag ≠ .image dest title) :
    PrintsLine highlighter [(.stop tag, false)] none := by
  cases tag with
  | emphasis => exact PrintsLine.tag "</em>" (by simp) fun _ => rfl
  | strong => exact PrintsLine.tag "</strong>" (by simp) fun _ => rfl
  | strikethrough => exact PrintsLine.tag "</del>" (by simp) fun _ => rfl
  | link form dest title => exact PrintsLine.tag "</a>" (by simp) fun _ => rfl
  | image dest title => exact absurd rfl (himage dest title)
  | _ => exact Bool.noConfusion hinline

end

/-! ## Images -/

/-- Events that print the same text inside every image, if the numbers of footnotes are the same. -/
def PrintsAlt (highlighter : Option Highlighter) (events : List (Event × Bool)) : Prop :=
  ∀ numbers : FootnoteNumbers, ∃ (text : String) (numbers' : FootnoteNumbers),
    ∀ (w : Writer) (image : OpenImage), w.image = some image → w.footnotes = numbers →
      w.Continues text (events.foldl (Writer.step highlighter) w) ∧
        (events.foldl (Writer.step highlighter) w).footnotes = numbers'

section

variable {highlighter : Option Highlighter}

theorem PrintsAlt.append {left right : List (Event × Bool)} (hleft : PrintsAlt highlighter left)
    (hright : PrintsAlt highlighter right) : PrintsAlt highlighter (left ++ right) := by
  intro numbers
  obtain ⟨text, numbers', hleft⟩ := hleft numbers
  obtain ⟨more, numbers'', hright⟩ := hright numbers'
  refine ⟨text ++ more, numbers'', fun w image himage hnumbers => ?_⟩
  obtain ⟨hcontinues, hnumbers'⟩ := hleft w image himage hnumbers
  obtain ⟨hcontinues', hnumbers''⟩ :=
    hright _ image (hcontinues.grows.image.trans himage) hnumbers'
  rw [List.foldl_append]
  exact ⟨hcontinues.trans hcontinues', hnumbers''⟩

/-- An event whose text inside an image is always the same, and which numbers no footnote. -/
theorem PrintsAlt.same {event : Event} {standalone : Bool} (text : String)
    (h : ∀ (w : Writer) (image : OpenImage), w.Continues text (w.altStep image event) ∧
      (w.altStep image event).footnotes = w.footnotes) :
    PrintsAlt highlighter [(event, standalone)] := by
  intro numbers
  refine ⟨text, numbers, fun w image himage hnumbers => ?_⟩
  rw [List.foldl_cons, List.foldl_nil, Writer.step_of_image highlighter himage]
  exact ⟨(h w image).1, (h w image).2.trans hnumbers⟩

theorem PrintsAlt.writeText {event : Event} {standalone : Bool} (content : String)
    (h : ∀ (w : Writer) (image : OpenImage), w.altStep image event = w.writeText content) :
    PrintsAlt highlighter [(event, standalone)] := by
  refine PrintsAlt.same (escape content) fun w image => ?_
  rw [h w image]
  exact ⟨((Writer.Continues.refl w).writeText content).congr String.empty_append,
    Writer.footnotes_writeText⟩

theorem PrintsAlt.write {event : Event} {standalone : Bool} (text : String)
    (h : ∀ (w : Writer) (image : OpenImage), w.altStep image event = w.write text) :
    PrintsAlt highlighter [(event, standalone)] := by
  refine PrintsAlt.same text fun w image => ?_
  rw [h w image]
  exact ⟨((Writer.Continues.refl w).write text).congr String.empty_append,
    Writer.footnotes_write⟩

theorem printsAlt_leaf (leaf : Leaf) (standalone : Bool) :
    PrintsAlt highlighter [(leaf.event, standalone)] := by
  cases leaf with
  | text content => exact PrintsAlt.writeText content fun _ _ => rfl
  | code content => exact PrintsAlt.writeText content fun _ _ => rfl
  | html content => exact PrintsAlt.writeText content fun _ _ => rfl
  | softBreak => exact PrintsAlt.write " " fun _ _ => rfl
  | hardBreak => exact PrintsAlt.write " " fun _ _ => rfl
  | rule => exact PrintsAlt.write " " fun _ _ => rfl
  | footnoteReference label =>
      intro numbers
      refine ⟨"[" ++ toString (numbers.number label).1 ++ "]", (numbers.number label).2, ?_⟩
      rintro w image himage rfl
      rw [List.foldl_cons, List.foldl_nil, Writer.step_of_image highlighter himage]
      have hcounted : w.Continues "" (w.footnoteNumber label).2 :=
        (Writer.Continues.refl w).of_same rfl rfl rfl rfl rfl rfl rfl
      exact ⟨(hcounted.write _).congr String.empty_append, Writer.footnotes_write⟩
  | taskMarker checked =>
      exact PrintsAlt.write (if checked then "[x]" else "[ ]") fun _ _ => rfl

mutual

/-- What may stand in a line prints the same inside every image. -/
theorem printsAlt_tree : ∀ tree : EventTree, tree.isInline →
    PrintsAlt highlighter (treeMarked tree)
  | .leaf leaf, _ => printsAlt_leaf leaf false
  | .node tag children, hinline => by
      rw [EventTree.isInline, Bool.and_eq_true] at hinline
      intro numbers
      obtain ⟨text, numbers', hinner⟩ := printsAlt_forest children hinline.2 numbers
      refine ⟨text, numbers', fun w image himage hnumbers => ?_⟩
      have htag : tag ≠ .paragraph := by
        rintro rfl
        exact Bool.noConfusion hinline.1
      -- the start of a construct makes the image deeper, and its end takes that back
      let deeper : OpenImage := { image with depth := image.depth + 1 }
      obtain ⟨hcontinues, hnumbers'⟩ :=
        hinner { w with image := some deeper } deeper rfl hnumbers
      have hstart : w.step highlighter (.start tag, false) = { w with image := some deeper } :=
        Writer.step_of_image highlighter himage (.start tag) false
      rw [treeMarked_node htag, List.foldl_cons, List.foldl_append, List.foldl_cons,
        List.foldl_nil, hstart, Writer.step_of_image highlighter hcontinues.grows.image]
      have hback := hcontinues.setImage (some image)
      have hsame : { w with image := some image } = w := by rw [← himage]
      rw [hsame] at hback
      exact ⟨hback, hnumbers'⟩

theorem printsAlt_forest : ∀ trees : List EventTree, areInline trees →
    PrintsAlt highlighter (forestMarked trees)
  | [], _ => fun numbers => ⟨"", numbers, fun w _ _ hnumbers =>
      ⟨Writer.Continues.refl w, hnumbers⟩⟩
  | tree :: rest, hinline => by
      rw [areInline, Bool.and_eq_true] at hinline
      exact (printsAlt_tree tree hinline.1).append (printsAlt_forest rest hinline.2)

end

/-- The front of an image among words, up to its alternative text. -/
theorem continues_startImage (dest title : String) (w : Writer) :
    { w with image := some ⟨title, false, 0⟩ }.Continues
      ("<img src=\"" ++ escapeHref dest ++ "\" alt=\"") (w.startImage dest title false) := by
  have hall := (((Writer.Continues.refl w).write "<img src=\"").emit (escapeHref dest)).write
    "\" alt=\""
  exact (hall.congr (by rw [String.empty_append])).setImage (some ⟨title, false, 0⟩)

/-- The end of an image among words. -/
theorem continues_finishImage (title : String) (w : Writer) :
    { w with image := none }.Continues
      ((if title.isEmpty then "" else "\" title=\"" ++ escape title) ++ "\" />")
      (w.finishImage ⟨title, false, 0⟩) := by
  have hclosed := Writer.Continues.refl { w with image := none }
  unfold Writer.finishImage
  dsimp only
  rw [if_neg Bool.false_ne_true]
  cases htitle : title.isEmpty with
  | true =>
      rw [if_pos rfl, if_pos rfl]
      exact hclosed.write "\" />"
  | false =>
      rw [if_neg Bool.false_ne_true, if_neg Bool.false_ne_true]
      exact (((hclosed.write "\" title=\"").emit (escape title)).write "\" />").congr
        (by rw [String.empty_append])

/-- An image prints the same wherever it stands in a line, and names nothing. -/
theorem printsLine_image (dest title : String) {trees : List EventTree}
    (hinline : areInline trees) :
    PrintsLine highlighter
      ((.start (.image dest title), false) ::
        (forestMarked trees ++ [(Event.stop (.image dest title), false)])) none := by
  intro numbers
  have halt : PrintsAlt highlighter (forestMarked trees) := printsAlt_forest trees hinline
  obtain ⟨alt, numbers', halt⟩ := halt numbers
  refine ⟨"<img src=\"" ++ escapeHref dest ++ "\" alt=\"" ++ alt ++
    ((if title.isEmpty then "" else "\" title=\"" ++ escape title) ++ "\" />"), numbers',
    fun w hw hcode hnumbers => ?_⟩
  obtain ⟨hprepared, hready⟩ :=
    Writer.prints_prepareHeading hw hcode (.start (.image dest title)) (by simp)
  have hstep : w.step highlighter (.start (.image dest title), false)
      = (w.prepareHeading (.start (.image dest title))).startImage dest title false :=
    Writer.step_of_image_none highlighter hw.image _ false
  have hsame : (w.prepareHeading (.start (.image dest title))).footnotes = numbers :=
    (Writer.footnotes_prepareHeading _).trans hnumbers
  rw [List.foldl_cons, List.foldl_append, List.foldl_cons, List.foldl_nil, hstep]
  generalize w.prepareHeading (.start (.image dest title)) = prepared at hprepared hready hsame ⊢
  have hstart := continues_startImage dest title prepared
  obtain ⟨hinner, hnumbers'⟩ := halt (prepared.startImage dest title false) ⟨title, false, 0⟩ rfl
    (Writer.footnotes_startImage dest title false |>.trans hsame)
  generalize (forestMarked trees).foldl (Writer.step highlighter)
    (prepared.startImage dest title false) = inside at hinner hnumbers' ⊢
  have hopen : inside.image = some ⟨title, false, 0⟩ := hinner.grows.image
  -- while the image is open nothing but its own field differs from a writer without one
  have hnone : { prepared with image := none } = prepared := by rw [← hprepared.ready.image]
  have hfront := (hstart.trans hinner).setImage none
  change { prepared with image := none }.Continues _ _ at hfront
  rw [hnone] at hfront
  have hall := hfront.trans (continues_finishImage title inside)
  have hstop : inside.step highlighter (.stop (.image dest title), false)
      = inside.finishImage ⟨title, false, 0⟩ :=
    Writer.step_of_image highlighter hopen (.stop (.image dest title)) false
  rw [hstop]
  have hprints := hprepared.trans
    (Writer.prints_of_continues hprepared.ready hprepared.code hready hall)
  rw [String.empty_append] at hprints
  exact ⟨hprints, (Writer.footnotes_finishImage _).trans hnumbers'⟩

/-! ## Lines of trees -/

mutual

theorem printsLine_tree : ∀ tree : EventTree, tree.isInline →
    PrintsLine highlighter (treeMarked tree) (treeName? tree)
  | .leaf leaf, hinline => printsLine_leaf leaf hinline
  | .node tag children, hinline => by
      rw [EventTree.isInline, Bool.and_eq_true] at hinline
      obtain ⟨htag, hchildren⟩ := hinline
      have hparagraph : tag ≠ .paragraph := by
        rintro rfl
        exact Bool.noConfusion htag
      rw [treeMarked_node hparagraph]
      by_cases himage : ∃ dest title, tag = .image dest title
      · obtain ⟨dest, title, rfl⟩ := himage
        exact printsLine_image dest title hchildren
      · have hother : ∀ dest title, tag ≠ .image dest title :=
          fun dest title heq => himage ⟨dest, title, heq⟩
        rw [treeName?_node hother]
        have hall := (printsLine_startTag htag hother).append
          ((printsLine_forest children hchildren).append (printsLine_stopTag htag hother))
        rwa [Option.none_or, Option.or_none] at hall

/-- What may stand in a line prints the same in a heading and elsewhere, and a heading that waits
gets its identifier from the line's first name. -/
theorem printsLine_forest : ∀ trees : List EventTree, areInline trees →
    PrintsLine highlighter (forestMarked trees) (lineName? trees)
  | [], _ => PrintsLine.nil
  | tree :: rest, hinline => by
      rw [areInline, Bool.and_eq_true] at hinline
      exact (printsLine_tree tree hinline.1).append (printsLine_forest rest hinline.2)

end

end

end StaticSite.Html
