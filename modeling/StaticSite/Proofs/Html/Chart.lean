import StaticSite.Proofs.Html.ImageText

/-!
# The landmarks of a written page

While a document is written, its page is the row of the landmarks met so far, with markup between
them. A heading without a text yet leaves the row open: the page ends in the middle of the heading,
and the landmarks inside the heading are held back. The invariant covers both, so that an event adds
its landmarks wherever it stands.

## What this module delivers

- `Spelled`: a text that is a row of spans with given landmarks and given headings' identifiers.
- `Writer.Spells`, `Writer.Charts`: the page between two events, and the writer there.
- `Charts.extend`, `Charts.prepare`, `Charts.settle`, `Charts.startHeading`: what keeps it so.
- `Adds`, `adds_forest`: the landmarks that a forest adds, by induction on its trees.
- `spelled_render`: the page of a document, with its landmarks and their identifiers.
-/

set_option autoImplicit false

namespace StaticSite.Html

open StaticSite.Markdown

/-! ## Rows of spans -/

/-- A text is a row of clean spans with these landmarks, of which the headings have these
identifiers. -/
def Spelled (text : String) (landmarks : List Landmark) (headings : List String) : Prop :=
  ∃ spans, spell spans = text ∧ (∀ span ∈ spans, span.IsClean) ∧
    spans.filterMap PageSpan.landmark? = landmarks ∧
    spans.filterMap PageSpan.headingIdentifier? = headings

theorem Spelled.empty : Spelled "" [] [] :=
  ⟨[], rfl, by simp, rfl, rfl⟩

theorem Spelled.append {text text' : String} {landmarks landmarks' : List Landmark}
    {headings headings' : List String} (h : Spelled text landmarks headings)
    (h' : Spelled text' landmarks' headings') :
    Spelled (text ++ text') (landmarks ++ landmarks') (headings ++ headings') := by
  obtain ⟨spans, rfl, hclean, rfl, rfl⟩ := h
  obtain ⟨more, rfl, hclean', rfl, rfl⟩ := h'
  refine ⟨spans ++ more, spell_append spans more, ?_, List.filterMap_append, List.filterMap_append⟩
  intro span hspan
  rcases List.mem_append.mp hspan with hspan | hspan
  · exact hclean span hspan
  · exact hclean' span hspan

/-- A single span. -/
theorem Spelled.span (span : PageSpan) (h : span.IsClean) :
    Spelled span.text span.landmark?.toList span.headingIdentifier?.toList := by
  refine ⟨[span], ?_, ?_, ?_, ?_⟩
  · rw [spell_cons, spell, List.map_nil, String.join_nil, String.append_empty]
  · intro other hother
    rw [List.mem_singleton.mp hother]
    exact h
  · cases hlandmark : span.landmark? <;> simp [hlandmark]
  · cases hheading : span.headingIdentifier? <;> simp [hheading]

theorem Spelled.markup {text : String} (h : Scans .text text .text []) : Spelled text [] [] :=
  Spelled.span (.markup text) h

/-! ## The page between two events -/

/-- The page spells its landmarks. Where a heading waits for its text, the page ends at the quote
that opens the heading's identifier, and what is held back spells the landmarks inside the heading.
-/
inductive Writer.Spells (w : Writer) : List Landmark → Prop where
  | settled {landmarks : List Landmark} (hawaiting : w.awaitingHeadingText = false)
      (hheld : w.held = none) (hpage : Spelled w.page landmarks w.anchors.issued.reverse) :
      Spells w landmarks
  | awaiting {before inside : List Landmark} {front : String} {level : Int} {titled : Bool}
      (hawaiting : w.awaitingHeadingText = true)
      (hpage : w.page = front ++ headingStart level titled)
      (hfront : Spelled front before w.anchors.issued.reverse)
      (hheld : Spelled (String.join (w.held.getD [])) inside []) :
      Spells w (before ++ .heading level :: inside)

/-- The writer between two events, outside of images. Headings wait only inside headings. -/
structure Writer.Charts (w : Writer) (inHeading : Bool) (landmarks : List Landmark) : Prop where
  spells : w.Spells landmarks
  nodup : w.anchors.issued.Nodup
  image : w.image = none
  heading : w.awaitingHeadingText = true → inHeading = true

namespace Writer

variable {w w' : Writer} {landmarks more : List Landmark} {inHeading : Bool} {text : String}

/-- Outside of headings the page is spelled as far as it is written. -/
theorem Charts.page (h : w.Charts false landmarks) :
    Spelled w.page landmarks w.anchors.issued.reverse := by
  cases h.spells with
  | settled _ _ hpage => exact hpage
  | awaiting hwaits _ _ _ => exact absurd (h.heading hwaits) (by simp)

/-- What is handed on adds its landmarks, if a heading that waits has begun to hold back. -/
theorem Spells.extend (h : w.Spells landmarks)
    (hready : w.awaitingHeadingText = true → w.held.isSome) (hextends : w.Extends text w')
    (htext : Spelled text more []) :
    w'.Spells (landmarks ++ more) := by
  cases h with
  | settled hawaiting hheld hpage =>
      -- nothing is held back, so the page itself grows
      obtain ⟨hheld', hpage'⟩ := hextends.page hheld
      refine .settled (hextends.awaiting.trans hawaiting) hheld' ?_
      rw [hpage', hextends.anchors]
      have hall := hpage.append htext
      rwa [List.append_nil] at hall
  | @awaiting before inside front level titled hawaiting hpage hfront hheld =>
      -- the page waits at its open quote, and what is handed on joins what is held back
      obtain ⟨pieces, hpieces⟩ := Option.isSome_iff_exists.mp (hready hawaiting)
      obtain ⟨hpage', others, hothers, hjoin⟩ := hextends.held pieces hpieces
      have hheld' : Spelled (String.join (w'.held.getD [])) (inside ++ more) [] := by
        rw [hpieces, Option.getD_some] at hheld
        rw [hothers, Option.getD_some, hjoin]
        exact hheld.append htext
      rw [List.append_assoc, List.cons_append]
      refine .awaiting (hextends.awaiting.trans hawaiting) (hpage'.trans hpage) ?_ hheld'
      rw [hextends.anchors]
      exact hfront

theorem Charts.extend (h : w.Charts inHeading landmarks)
    (hready : w.awaitingHeadingText = true → w.held.isSome) (hextends : w.Extends text w')
    (htext : Spelled text more []) : w'.Charts inHeading (landmarks ++ more) := by
  refine ⟨h.spells.extend hready hextends htext, ?_, ?_, ?_⟩
  · rw [hextends.anchors]
    exact h.nodup
  · rw [hextends.image]
    exact h.image
  · intro hawaiting
    rw [hextends.awaiting] at hawaiting
    exact h.heading hawaiting

/-- Markup adds no landmarks. -/
theorem Charts.markup (h : w.Charts inHeading landmarks)
    (hready : w.awaitingHeadingText = true → w.held.isSome)
    (hmarkup : w.AddsMarkup .text w' .text) :
    w'.Charts inHeading landmarks := by
  obtain ⟨text, hextends, hscans⟩ := hmarkup
  have hall := h.extend hready hextends (Spelled.markup hscans)
  rwa [List.append_nil] at hall

/-- Settling a heading puts its identifier on the page, and nothing is held back any more. -/
theorem Charts.settleHeading (h : w.Charts inHeading landmarks)
    (hawaiting : w.awaitingHeadingText = true) (content : String) :
    (w.settleHeading content).Charts inHeading landmarks := by
  cases h.spells with
  | settled hsettled _ _ => exact absurd hawaiting (by simp [hsettled])
  | @awaiting before inside front level titled _ hpage hfront hheld =>
      obtain ⟨written, hsame, hjoin⟩ := settleHeading_spec w content
      have hclean : (PageSpan.heading level titled (w.anchors.allocate content).1).IsClean :=
        ⟨plain_allocate w.anchors content, sign_notMem_allocate (by decide) w.anchors content⟩
      -- the open front and the identifier are the heading, and what was held back follows
      have hall := (hfront.append (Spelled.span _ hclean)).append hheld
      rw [PageSpan.text_heading, ← String.append_assoc, ← hpage, ← hjoin] at hall
      rw [hsame]
      refine ⟨.settled rfl rfl ?_, Anchors.nodup_allocate h.nodup content, h.image, ?_⟩
      · simpa [Writer.page, PageSpan.landmark?, PageSpan.headingIdentifier?,
          Anchors.allocate_issued] using hall
      · intro hwaits
        exact absurd hwaits (by simp)

theorem settleHeading_awaiting (w : Writer) (content : String) :
    (w.settleHeading content).awaitingHeadingText = false := by
  obtain ⟨written, hsame, -⟩ := settleHeading_spec w content
  rw [hsame]

/-- Text settles a heading that waits. -/
theorem Charts.settle (h : w.Charts inHeading landmarks) (content : String) :
    (if w.awaitingHeadingText then w.settleHeading content else w).Charts inHeading landmarks ∧
      (if w.awaitingHeadingText then w.settleHeading content else w).awaitingHeadingText
        = false := by
  split
  · rename_i hwaits
    exact ⟨h.settleHeading hwaits content, settleHeading_awaiting w content⟩
  · rename_i hsettled
    exact ⟨h, by simpa using hsettled⟩

/-- The next event, unless it is text, finds no heading in its way: a heading that waits is settled
by code, and what any other event hands on is held back. -/
theorem Charts.prepare (h : w.Charts inHeading landmarks) (event : Event)
    (hevent : ∀ content, event ≠ .text content) :
    (w.prepareHeading event).Charts inHeading landmarks ∧
      ((w.prepareHeading event).awaitingHeadingText = true →
        (w.prepareHeading event).held.isSome) := by
  unfold Writer.prepareHeading
  split
  · rename_i hwaits
    split
    · exact absurd rfl (hevent _)
    · -- code settles the heading as its text would
      rename_i content
      refine ⟨h.settleHeading hwaits content, fun hstill => ?_⟩
      rw [settleHeading_awaiting] at hstill
      exact Bool.noConfusion hstill
    · split
      · -- from this event on the heading holds back, with nothing so far
        rename_i hheld
        refine ⟨⟨?_, h.nodup, h.image, h.heading⟩, fun _ => rfl⟩
        cases h.spells with
        | settled hsettled _ _ => exact absurd hwaits (by simp [hsettled])
        | awaiting hawaiting hpage hfront hinside =>
            rw [Option.isNone_iff_eq_none.mp hheld] at hinside
            exact .awaiting hawaiting hpage hfront hinside
      · rename_i hheld
        refine ⟨h, fun _ => ?_⟩
        simpa [Option.ne_none_iff_isSome] using hheld
  · rename_i hsettled
    exact ⟨h, fun hwaits => absurd hwaits hsettled⟩

/-- A heading begins outside of headings, and is open from then on. -/
theorem Charts.startHeading (h : w.Charts false landmarks) (level : Int) :
    (w.startHeading level).Charts true (landmarks ++ [.heading level]) := by
  cases h.spells with
  | awaiting hawaiting _ _ _ => exact absurd (h.heading hawaiting) (by simp)
  | settled hsettled hheld hpage =>
      -- the start of a line, the name, the class and the quote are four pieces in a row
      have hline : ∃ line, Scans .text line .text [] ∧ w.Extends line
          (if w.atLineStart then { w with atLineStart := false } else w.emit "\n") := by
        split
        · exact ⟨"", Scans.empty .text, (Extends.refl w).of_same rfl rfl rfl rfl rfl⟩
        · exact ⟨"\n", ⟨_, rfl, rfl⟩, ((Extends.refl w).emit "\n").congr (by simp)⟩
      obtain ⟨line, hscans, hline⟩ := hline
      unfold Writer.startHeading
      generalize (if w.atLineStart then { w with atLineStart := false } else w.emit "\n") = begun
        at hline ⊢
      dsimp only
      have hname := hline.emit ("<h" ++ toString level)
      generalize begun.emit ("<h" ++ toString level) = named at hname ⊢
      have htitle : w.Extends (line ++ ("<h" ++ toString level) ++
          (if named.titled then "" else " class=\"title\""))
          (if named.titled then named
            else { named with titled := true }.emit " class=\"title\"") := by
        split
        · exact hname.congr (by simp)
        · have hnow : w.Extends (line ++ ("<h" ++ toString level)) { named with titled := true } :=
            hname.of_same rfl rfl rfl rfl rfl
          exact hnow.emit " class=\"title\""
      generalize (if named.titled then named
        else { named with titled := true }.emit " class=\"title\"") = classed at htitle ⊢
      -- nothing was held back so far, so the quote goes to the page, which is open from then on
      obtain ⟨hheld', hpage'⟩ := htitle.page hheld
      rw [emit_of_settled (by exact hheld')]
      have hfront := hpage.append (Spelled.markup hscans)
      rw [List.append_nil, List.append_nil] at hfront
      have hopen : String.join (classed.written.push " id=\"").toList
          = w.page ++ line ++ headingStart level named.titled := by
        rw [page_push, headingStart, ← Writer.page, hpage']
        simp only [String.append_assoc]
      refine ⟨.awaiting rfl hopen ?_ ?_, ?_, ?_, fun _ => rfl⟩
      · rw [htitle.anchors]
        exact hfront
      · rw [hheld']
        exact Spelled.empty
      · rw [htitle.anchors]
        exact h.nodup
      · rw [htitle.image]
        exact h.image

end Writer

/-! ## What a forest adds -/

/-- Wherever the writer is, events add landmarks to the page. The two flags tell whether the events
begin and end inside a heading. -/
def Adds (highlighter : Option Highlighter) (inHeading : Bool) (events : List (Event × Bool))
    (landmarks : List Landmark) (inHeading' : Bool) : Prop :=
  ∀ (w : Writer) (before : List Landmark), w.Charts inHeading before →
    (events.foldl (Writer.step highlighter) w).Charts inHeading' (before ++ landmarks)

section

variable {highlighter : Option Highlighter} {a b c : Bool} {landmarks more : List Landmark}

theorem Adds.nil : Adds highlighter a [] [] a := by
  intro w before hw
  rw [List.append_nil]
  exact hw

theorem Adds.append {left right : List (Event × Bool)} (hleft : Adds highlighter a left landmarks b)
    (hright : Adds highlighter b right more c) :
    Adds highlighter a (left ++ right) (landmarks ++ more) c := by
  intro w before hw
  rw [List.foldl_append, ← List.append_assoc]
  exact hright _ _ (hleft w before hw)

/-- An event other than text adds what it adds where no heading is in its way. -/
theorem Adds.event {event : Event} {standalone : Bool} (hevent : ∀ content, event ≠ .text content)
    (h : ∀ (w : Writer) (before : List Landmark), w.Charts a before →
      (w.awaitingHeadingText = true → w.held.isSome) →
      (w.perform highlighter standalone event).Charts b (before ++ landmarks)) :
    Adds highlighter a [(event, standalone)] landmarks b := by
  intro w before hw
  rw [List.foldl_cons, List.foldl_nil, Writer.step_of_image_none highlighter hw.image]
  obtain ⟨hprepared, hready⟩ := hw.prepare event hevent
  exact h _ before hprepared hready

/-- An event that encloses nothing, and is neither text nor a reference nor raw HTML, adds markup.
-/
theorem adds_markup (leaf : Leaf) (hnone : leafLandmarks leaf = [])
    (hhtml : ∀ content, leaf ≠ .html content) (htext : ∀ content, leaf ≠ .text content) :
    Adds highlighter a [(leaf.event, false)] [] a := by
  have hevent : ∀ content, leaf.event ≠ .text content := by
    intro content hsame
    cases leaf with
    | text other => exact htext other rfl
    | _ => simp [Leaf.event] at hsame
  refine Adds.event hevent fun w before hw hready => ?_
  have hmarkup := Writer.addsMarkup_leaf highlighter false w leaf hnone hhtml
    fun content hsame => absurd hsame (htext content)
  rw [List.append_nil]
  exact hw.markup hready hmarkup

/-- Text does after settling the heading what it does at once. -/
theorem text_settle (content : String) (w : Writer) :
    w.text content
      = (if w.awaitingHeadingText then w.settleHeading content else w).text content := by
  cases hwaits : w.awaitingHeadingText with
  | true => simp [Writer.text, hwaits, Writer.settleHeading_awaiting]
  | false => simp

theorem adds_text (content : String) : Adds highlighter a [(.text content, false)] [] a := by
  intro w before hw
  rw [List.foldl_cons, List.foldl_nil, Writer.step_of_image_none highlighter hw.image,
    List.append_nil]
  -- text holds nothing back: it is what a heading waits for
  have hprepared : w.prepareHeading (.text content) = w := by
    unfold Writer.prepareHeading
    split <;> rfl
  obtain ⟨hsettled, hover⟩ := hw.settle content
  have hmarkup := Writer.addsMarkup_text content hover
  rw [hprepared, Writer.perform, text_settle]
  exact hsettled.markup (fun hwaits => absurd hwaits (by simp [hover])) hmarkup

theorem adds_leaf (leaf : Leaf) (hhtml : (EventTree.leaf leaf).isWithoutHtml) :
    Adds highlighter a [(leaf.event, false)] (leafLandmarks leaf) a := by
  cases leaf with
  | text content => exact adds_text content
  | html content => exact absurd hhtml (by simp [EventTree.isWithoutHtml])
  | footnoteReference label =>
      refine Adds.event (by simp [Leaf.event]) fun w before hw hready => ?_
      have hextends := Writer.extends_footnoteReference label w
      exact hw.extend hready hextends (Spelled.span (.reference label _) trivial)
  | code content => exact adds_markup (.code content) rfl (by simp) (by simp)
  | softBreak => exact adds_markup .softBreak rfl (by simp) (by simp)
  | hardBreak => exact adds_markup .hardBreak rfl (by simp) (by simp)
  | rule => exact adds_markup .rule rfl (by simp) (by simp)
  | taskMarker checked => exact adds_markup (.taskMarker checked) rfl (by simp) (by simp)

/-! ## Constructs -/

/-- The start of a construct adds its landmarks, unless it begins a heading or an image. -/
theorem adds_startTag (standalone : Bool) {tag : Tag} (hline : tag.holdsLine = false) :
    Adds highlighter a [(.start tag, standalone)] (startLandmarks tag) a := by
  refine Adds.event (by simp) fun w before hw hready => ?_
  by_cases hdefinition : ∃ label, tag = .footnoteDefinition label
  · obtain ⟨label, rfl⟩ := hdefinition
    obtain ⟨line, hscans, hextends⟩ := Writer.extends_startDefinition label w
    exact hw.extend hready hextends
      ((Spelled.markup hscans).append (Spelled.span (.definition label _) trivial))
  · have hnone : startLandmarks tag = [] := by
      cases tag with
      | heading level => exact absurd hline (by simp [Tag.holdsLine])
      | footnoteDefinition label => exact absurd ⟨label, rfl⟩ hdefinition
      | _ => rfl
    have hmarkup := Writer.addsMarkup_startTag highlighter standalone w tag hline hnone
    rw [hnone, List.append_nil]
    exact hw.markup hready hmarkup

/-- The end of a construct adds its landmarks, unless it ends a heading or an image. -/
theorem adds_stopTag (hwrites : WritesMarkup highlighter) {tag : Tag}
    (hline : tag.holdsLine = false) :
    Adds highlighter a [(.stop tag, false)] (stopLandmarks tag) a := by
  refine Adds.event (by simp) fun w before hw hready => ?_
  by_cases hdefinition : ∃ label, tag = .footnoteDefinition label
  · obtain ⟨label, rfl⟩ := hdefinition
    have hextends := Writer.extends_stopDefinition label highlighter w
    exact hw.extend hready hextends (Spelled.span (.back label) trivial)
  · have hnone : stopLandmarks tag = [] := by
      cases tag with
      | footnoteDefinition label => exact absurd ⟨label, rfl⟩ hdefinition
      | _ => rfl
    have hmarkup := Writer.addsMarkup_stopTag hwrites w tag hline hnone
    rw [hnone, List.append_nil]
    exact hw.markup hready hmarkup

/-- A heading adds its landmark and those inside it. -/
theorem adds_heading (level : Int) {events : List (Event × Bool)}
    (hinner : Adds highlighter true events landmarks true) :
    Adds highlighter false
      ((.start (.heading level), false) :: (events ++ [(Event.stop (.heading level), false)]))
      (.heading level :: landmarks) false := by
  have hstart : Adds highlighter false [(.start (.heading level), false)]
      [.heading level] true := by
    refine Adds.event (by simp) fun w before hw _ => ?_
    exact hw.startHeading level
  have hstop : Adds highlighter true [(.stop (.heading level), false)] [] false := by
    refine Adds.event (by simp) fun w before hw _ => ?_
    -- a heading that is still without a text gets the identifier of the empty text
    obtain ⟨hsettled, hover⟩ := hw.settle ""
    have hmarkup : (if w.awaitingHeadingText then w.settleHeading "" else w).AddsMarkup .text
        (w.stopTag highlighter (.heading level)) .text := by
      have hname : Scans .text ("</h" ++ toString level ++ ">\n") .text [] := by
        have hopen : Scans .text "</h" (.tag "/h".toList) [] := ⟨_, rfl, rfl⟩
        have hend : Scans (.tag ("/h".toList ++ (toString level).toList)) ">\n" .text [] :=
          ⟨_, rfl, rfl⟩
        exact (hopen.append (scans_tagName_int level _)).append hend
      exact Writer.addsMarkup_write _ _ hname
    have hclosed := hsettled.markup (fun hwaits => absurd hwaits (by simp [hover])) hmarkup
    obtain ⟨text, hextends, -⟩ := hmarkup
    rw [List.append_nil]
    refine ⟨hclosed.spells, hclosed.nodup, hclosed.image, fun hwaits => ?_⟩
    rw [Writer.perform, hextends.awaiting, hover] at hwaits
    exact hwaits
  have hall := hstart.append (hinner.append hstop)
  rwa [List.append_nil] at hall

/-- An image adds no landmarks, alone or among words. -/
theorem adds_image (standalone : Bool) (dest title : String) {trees : List EventTree}
    (hinline : areInline trees) :
    Adds highlighter a
      ((.start (.image dest title), standalone) ::
        (forestMarked trees ++ [(Event.stop (.image dest title), false)])) [] a := by
  intro w before hw
  rw [List.foldl_cons, Writer.step_of_image_none highlighter hw.image, List.append_nil]
  obtain ⟨hprepared, hready⟩ := hw.prepare (.start (.image dest title)) (by simp)
  exact hprepared.markup hready
    (Writer.addsMarkup_image highlighter standalone hinline dest title hprepared.image)

theorem treeLandmarks_node {tag : Tag} (h : tag.holdsLine = false) (children : List EventTree) :
    treeLandmarks (.node tag children)
      = startLandmarks tag ++ (forestLandmarks children ++ stopLandmarks tag) := by
  rw [treeLandmarks]
  rintro dest title rfl
  exact absurd h (by simp [Tag.holdsLine])

/-- A construct that holds no line adds the landmarks of its start, its content and its end. -/
theorem adds_node (hwrites : WritesMarkup highlighter) {tag : Tag} (hline : tag.holdsLine = false)
    {children : List EventTree}
    (hinner : Adds highlighter a (forestMarked children) (forestLandmarks children) a) :
    Adds highlighter a
      ((.start tag, false) :: (forestMarked children ++ [(Event.stop tag, false)]))
      (treeLandmarks (.node tag children)) a := by
  rw [treeLandmarks_node hline]
  exact (adds_startTag false hline).append (hinner.append (adds_stopTag hwrites hline))

mutual

/-- What may stand in a line adds its landmarks, inside a heading and outside. -/
theorem adds_inline (hwrites : WritesMarkup highlighter) :
    ∀ tree : EventTree, tree.isInline → tree.isWithoutHtml →
      Adds highlighter a (treeMarked tree) (treeLandmarks tree) a
  | .leaf leaf, _, hhtml => adds_leaf leaf hhtml
  | .node tag children, hinline, hhtml => by
      rw [EventTree.isInline, Bool.and_eq_true] at hinline
      obtain ⟨htag, hchildren⟩ := hinline
      have hparagraph : tag ≠ .paragraph := by
        rintro rfl
        exact Bool.noConfusion htag
      rw [treeMarked_node hparagraph]
      cases hline : tag.holdsLine with
      | false => exact adds_node hwrites hline (adds_inlines hwrites children hchildren hhtml)
      | true =>
          cases tag with
          | image dest title => exact adds_image false dest title hchildren
          | heading level => exact Bool.noConfusion htag
          | _ => exact Bool.noConfusion hline

theorem adds_inlines (hwrites : WritesMarkup highlighter) :
    ∀ trees : List EventTree, areInline trees → areWithoutHtml trees →
      Adds highlighter a (forestMarked trees) (forestLandmarks trees) a
  | [], _, _ => Adds.nil
  | tree :: rest, hinline, hhtml => by
      rw [areInline, Bool.and_eq_true] at hinline
      rw [areWithoutHtml, Bool.and_eq_true] at hhtml
      exact (adds_inline hwrites tree hinline.1 hhtml.1).append
        (adds_inlines hwrites rest hinline.2 hhtml.2)

end

mutual

/-- A tree outside of headings adds its landmarks. -/
theorem adds_tree (hwrites : WritesMarkup highlighter) :
    ∀ tree : EventTree, tree.isFlow → tree.isWithoutHtml →
      Adds highlighter false (treeMarked tree) (treeLandmarks tree) false
  | .leaf leaf, _, hhtml => adds_leaf leaf hhtml
  | .node tag children, hflow, hhtml => by
      rw [EventTree.isFlow] at hflow
      cases hline : tag.holdsLine with
      | true =>
          rw [hline, if_pos rfl] at hflow
          cases tag with
          | heading level =>
              have hinner := adds_inlines (a := true) hwrites children hflow hhtml
              have hall := adds_heading level hinner
              rw [treeMarked_node (by simp), treeLandmarks]
              · simpa [startLandmarks, stopLandmarks] using hall
              · simp
          | image dest title =>
              rw [treeMarked_node (by simp)]
              exact adds_image false dest title hflow
          | _ => exact Bool.noConfusion hline
      | false =>
          rw [hline, if_neg Bool.false_ne_true] at hflow
          have hinner := adds_forest hwrites children hflow hhtml
          by_cases hparagraph : tag = .paragraph
          · subst hparagraph
            by_cases hfigure : ∃ dest title alt,
                children = [.node (.image dest title) [.leaf (.text alt)]]
            · -- a figure is its image
              obtain ⟨dest, title, alt, rfl⟩ := hfigure
              have hinline : areInline [.leaf (.text alt)] := rfl
              exact adds_image true dest title hinline
            · rw [treeMarked_paragraph fun dest title alt heq => hfigure ⟨dest, title, alt, heq⟩]
              exact adds_node hwrites hline hinner
          · rw [treeMarked_node hparagraph]
            exact adds_node hwrites hline hinner

/-- A forest adds its landmarks. -/
theorem adds_forest (hwrites : WritesMarkup highlighter) :
    ∀ trees : List EventTree, areFlow trees → areWithoutHtml trees →
      Adds highlighter false (forestMarked trees) (forestLandmarks trees) false
  | [], _, _ => Adds.nil
  | tree :: rest, hflow, hhtml => by
      rw [areFlow, Bool.and_eq_true] at hflow
      rw [areWithoutHtml, Bool.and_eq_true] at hhtml
      exact (adds_tree hwrites tree hflow.1 hhtml.1).append
        (adds_forest hwrites rest hflow.2 hhtml.2)

end

end

/-! ## The page of a document -/

/-- The page of a document is a row of clean spans with the document's landmarks, and all headings
have different identifiers. -/
theorem spelled_render {highlighter : Option Highlighter} (hwrites : WritesMarkup highlighter)
    {trees : List EventTree} (hflow : areFlow trees) (hhtml : areWithoutHtml trees) :
    ∃ headings, headings.Nodup ∧
      Spelled (render highlighter (forestEvents trees)) (forestLandmarks trees) headings := by
  have hstart : ({} : Writer).Charts false [] := by
    refine ⟨.settled rfl rfl Spelled.empty, List.nodup_nil, rfl, ?_⟩
    exact fun hwaits => absurd hwaits (by simp)
  have hend := adds_forest hwrites trees hflow hhtml {} [] hstart
  -- no image is open in the end, so nothing is left to be finished
  have hrun : Writer.ofEvents highlighter (forestEvents trees)
      = (forestMarked trees).foldl (Writer.step highlighter) {} := by
    rw [Writer.ofEvents, markStandalone_forest, Writer.finish, hend.image]
  rw [render, hrun]
  exact ⟨_, List.nodup_reverse.mpr hend.nodup, hend.page⟩

end StaticSite.Html
